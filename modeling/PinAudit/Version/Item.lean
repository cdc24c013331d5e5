import PinAudit.Text.Case

/-!
# Items of a version text

A version text is read as a list of *items*. The text is lowered (ASCII only) and cut into
tokens at every `.`, `-` and `_`, and wherever it switches between ASCII digits and other
characters. A token of digits is a number, kept as its digits without leading zeros; any other
token is a qualifier, with the aliases folded: `a`, `b` and `m` directly before a digit stand
for `alpha`, `beta` and `milestone`, `cr` for `rc`, and `ga`, `final` and `release` for the
empty qualifier. An empty token (two separators in a row, or one at the start) is the number
zero. Items that are null (the number zero or the empty qualifier) are dropped from the end,
so `1.0.0`, `1-ga` and `1` have the same items.

Main definitions: `Item`, `Item.ofToken`, `items`.
-/

namespace PinAudit.Version

/-- One item of a version: a number (its digits without leading zeros, `"0"` for zero) or a
lower-case qualifier word with the aliases folded. -/
inductive Item where
  | number (digits : String)
  | qualifier (word : String)
  deriving DecidableEq, Repr

/-- The number zero and the empty qualifier are *null*: padding a version with them does not
change it. -/
def Item.isNull : Item → Bool
  | .number d => d == "0"
  | .qualifier q => q.isEmpty

/-- Separators between tokens. -/
def isSeparator (c : Char) : Bool :=
  c == '.' || c == '-' || c == '_'

/-- Qualifier aliases. A one-letter `a`, `b` or `m` is only an alias when a digit follows it
directly. -/
def foldQualifier (token : String) (beforeDigit : Bool) : String :=
  if token == "a" && beforeDigit then "alpha"
  else if token == "b" && beforeDigit then "beta"
  else if token == "m" && beforeDigit then "milestone"
  else if token == "cr" then "rc"
  else if token == "ga" || token == "final" || token == "release" then ""
  else token

/-- The digits of a number token without its leading zeros, `"0"` for zero. -/
def stripZeros (digits : List Char) : String :=
  match digits.dropWhile (· == '0') with
  | [] => "0"
  | ds => String.ofList ds

/-- The item a token stands for; `beforeDigit` says whether a digit follows the token
directly in the text. -/
def Item.ofToken (token : List Char) (beforeDigit : Bool) : Item :=
  if token.isEmpty then .number "0"
  else if token.all Char.isDigit then .number (stripZeros token)
  else .qualifier (foldQualifier (String.ofList token) beforeDigit)

/-- Cut lowered characters into items. `token` is the current token, in order; `done` holds
the items found so far, last first. -/
def cut : List Char → List Char → List Item → List Item
  | [], token, done =>
    if token.isEmpty && !done.isEmpty then done else Item.ofToken token false :: done
  | c :: cs, token, done =>
    if isSeparator c then cut cs [] (Item.ofToken token false :: done)
    else
      match token.getLast? with
      | some last =>
        if last.isDigit != c.isDigit then
          cut cs [c] (Item.ofToken token c.isDigit :: done)
        else cut cs (token ++ [c]) done
      | none => cut cs [c] done

/-- Items in order, with the null items at the end removed. -/
def dropNullTail (items : List Item) : List Item :=
  (items.reverse.dropWhile Item.isNull).reverse

/-- **The items of a version text.** -/
def items (text : String) : List Item :=
  dropNullTail (cut (text.toList.map Text.asciiLowerChar) [] []).reverse

end PinAudit.Version
