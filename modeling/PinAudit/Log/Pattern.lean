import PinAudit.Text.Word

/-!
# Field value patterns

A log filter may ask that a field's value match a *pattern*. A value that reads as a boolean or
a number is compared as one; any other value is a regular expression, and a filter with a
regular expression that does not compile does not read at all. This module decides which texts
compile.

The syntax is the usual one:

- literals, `.`, `^`, `$`, and escapes: an ASCII character that is not a letter, a digit, `<` or
  `>` stands for itself after `\`; `\a \f \t \n \r \v` are control characters; `\d \s \w` and
  their capitals are classes; `\A` and `\z` are anchors; `\x`, `\u` and `\U` take two, four or
  eight hexadecimal digits, or any number of them in braces, naming a character; `\p` and `\P`
  take a one-letter class or a name in braces. Word boundaries (`\b`, `\B`, `\<`, `\>`) cannot
  be compiled to the automaton that matches values, and back-references (`\1`) are not
  supported, so both are refused, as is any other escape;
- groups `(…)`, named groups `(?P<name>…)` and `(?<name>…)` whose names start with a letter or
  `_` and go on with letters, digits, `_`, `.`, `[` and `]`, each name used once; flags
  `(?flags)` and `(?flags:…)` over `i m s U u x R`, each at most once, with at most one `-` that
  is not last; look-around is refused;
- alternation `|`; repetition `*`, `+`, `?` and `{n}`, `{n,}`, `{n,m}` with `n ≤ m` below
  `2^32`, each perhaps followed by `?`, and only after something to repeat (not at the start of
  a group or a branch, nor after a flag group);
- classes `[…]`, `[^…]`, where a `]` right after the opening (and its `^`) is a literal, with
  ranges whose ends are in order, nested classes and named ASCII classes `[:alpha:]`.

With the `x` flag, white space is skipped and `#` starts a comment that runs to the end of the
line.

Main definitions: `Pattern.compiles`, `Pattern.valueReads`.
-/

namespace PinAudit.Pattern

/-- The value of a hexadecimal digit. -/
def hexValue (c : Char) : Option Nat :=
  if '0' ≤ c && c ≤ '9' then some (c.toNat - '0'.toNat)
  else if 'a' ≤ c && c ≤ 'f' then some (c.toNat - 'a'.toNat + 10)
  else if 'A' ≤ c && c ≤ 'F' then some (c.toNat - 'A'.toNat + 10)
  else none

/-- The value of hexadecimal digits, when they all are digits. -/
def hexDigits (ds : List Char) : Option Nat :=
  ds.foldlM (fun n c => (hexValue c).map (16 * n + ·)) 0

/-- Whether a number is the code point of a character (not a surrogate, not beyond U+10FFFF). -/
def isScalar (n : Nat) : Bool := n < 0xD800 || (0xE000 ≤ n && n ≤ 0x10FFFF)

/-- A character named in hexadecimal after `\x`, `\u` or `\U`: in braces, or exactly `width`
digits. Answers the character and the text after it. -/
def hexEscape (width : Nat) (cs : List Char) : Option (Char × List Char) :=
  match cs with
  | '{' :: more =>
    let ds := more.takeWhile (· != '}')
    match more.drop ds.length with
    | '}' :: rest => do
      if ds.isEmpty || ds.length > 8 then none
      let n ← hexDigits ds
      if isScalar n then some (Char.ofNat n, rest) else none
    | _ => none
  | _ => do
    let ds := cs.take width
    if ds.length != width then none
    let n ← hexDigits ds
    if isScalar n then some (Char.ofNat n, cs.drop width) else none

/-- What an escape stands for: a character, a class of characters, or an anchor. -/
inductive Escaped where
  | char (c : Char)
  | set
  | anchor
  deriving DecidableEq, Repr

/-- **Read an escape**, the text after its `\`: what it stands for and the text after it. -/
def escape : List Char → Option (Escaped × List Char)
  | [] => none
  | c :: cs =>
    if c.toNat < 0x80 && !c.isAlphanum && c != '<' && c != '>' then some (.char c, cs)
    else match c with
      | 'a' => some (.char (Char.ofNat 7), cs)
      | 'f' => some (.char (Char.ofNat 12), cs)
      | 't' => some (.char '\t', cs)
      | 'n' => some (.char '\n', cs)
      | 'r' => some (.char '\r', cs)
      | 'v' => some (.char (Char.ofNat 11), cs)
      | 'd' | 'D' | 's' | 'S' | 'w' | 'W' => some (.set, cs)
      | 'A' | 'z' => some (.anchor, cs)
      | 'x' => (hexEscape 2 cs).map fun (ch, rest) => (.char ch, rest)
      | 'u' => (hexEscape 4 cs).map fun (ch, rest) => (.char ch, rest)
      | 'U' => (hexEscape 8 cs).map fun (ch, rest) => (.char ch, rest)
      | 'p' | 'P' =>
        match cs with
        | '{' :: more =>
          let name := more.takeWhile (· != '}')
          match more.drop name.length with
          | '}' :: rest => if name.isEmpty then none else some (.set, rest)
          | _ => none
        | k :: rest => if "LMNPSZC".toList.contains k then some (.set, rest) else none
        | [] => none
      | _ => none

/-- The names of the ASCII classes written `[:name:]` inside a class. -/
def asciiClassNames : List String :=
  ["alnum", "alpha", "ascii", "blank", "cntrl", "digit", "graph", "lower", "print", "punct",
    "space", "upper", "word", "xdigit"]

/-- A named ASCII class at the start of a class item, `[:name:]` or `[:^name:]`, with the text
after it. -/
def asciiClass? (cs : List Char) : Option (List Char) :=
  match cs with
  | '[' :: ':' :: more =>
    let body := match more with
      | '^' :: rest => rest
      | rest => rest
    let name := body.takeWhile (· != ':')
    match body.drop name.length with
    | ':' :: ']' :: rest =>
      if asciiClassNames.contains (String.ofList name) then some rest else none
    | _ => none
  | _ => none

/-- One end of a range in a class: a character or an escape, with the text after it; `none`
inside when it is not a single character. -/
def classAtom : List Char → Option (Option Char × List Char)
  | '\\' :: cs => do
    let (e, rest) ← escape cs
    match e with
    | .char ch => some (some ch, rest)
    | .set => some (none, rest)
    | .anchor => none
  | c :: cs => some (some c, cs)
  | [] => none

mutual

/-- The items of a class up to its closing `]`, answering the text after it; each step takes at
least one character, so `fuel` at the text's length is enough. -/
def classItems : Nat → List Char → Option (List Char)
  | 0, _ => none
  | _, [] => none
  | _, ']' :: rest => some rest
  | fuel + 1, c :: cs =>
    match asciiClass? (c :: cs) with
    | some rest => classItems fuel rest
    | none =>
      if c == '[' then do
        let rest ← classBody fuel cs
        classItems fuel rest
      else do
        let (first, rest) ← classAtom (c :: cs)
        match rest with
        | '-' :: after =>
          match after with
          | ']' :: _ => classItems fuel rest
          | _ => do
            let (last, rest') ← classAtom after
            match first, last with
            | some a, some b => if a ≤ b then classItems fuel rest' else none
            | _, _ => none
        | _ => classItems fuel rest

/-- A class after its opening `[`: a `^`, then a `]` taken as a literal, then the items. -/
def classBody : Nat → List Char → Option (List Char)
  | 0, _ => none
  | fuel + 1, cs =>
    let cs := match cs with
      | '^' :: rest => rest
      | _ => cs
    match cs with
    | ']' :: rest => classItems fuel rest
    | _ => classItems fuel cs

end

/-- The value of decimal digits below `2^32`, when there are some. -/
def countValue (ds : List Char) : Option Nat :=
  if ds.isEmpty then none
  else
    let n := ds.foldl (fun n c => 10 * n + (c.toNat - '0'.toNat)) 0
    if n < 4294967296 then some n else none

/-- A counted repetition after its `{`: `n}`, `n,}` or `n,m}` with `n ≤ m`. Answers the text
after the closing brace. -/
def counted (cs : List Char) : Option (List Char) := do
  let low := cs.takeWhile Char.isDigit
  let n ← countValue low
  match cs.drop low.length with
  | '}' :: rest => some rest
  | ',' :: '}' :: rest => some rest
  | ',' :: more =>
    let high := more.takeWhile Char.isDigit
    let m ← countValue high
    match more.drop high.length with
    | '}' :: rest => if n ≤ m then some rest else none
    | _ => none
  | _ => none

/-- After a repetition, the `?` that makes it lazy is part of it. -/
def dropLazy : List Char → List Char
  | '?' :: rest => rest
  | cs => cs

/-- Whether a character may stand in a group's name; `first` for its first character. -/
def isNameChar (first : Bool) (c : Char) : Bool :=
  c == '_' || c.isAlpha || (!first && (c.isDigit || c == '.' || c == '[' || c == ']'))

/-- The flags of a flag group up to its `:` or `)`: the state of `x` when they set or clear it,
the closing character, and the text after it. -/
def flags (cs : List Char) : Option (Option Bool × Char × List Char) :=
  let body := cs.takeWhile fun c => c != ':' && c != ')'
  match cs.drop body.length with
  | close :: rest =>
    let letters := body.filter (· != '-')
    let dashes := body.length - letters.length
    if body.isEmpty && close == ')' then none
    else if !letters.all ("imsUuxR".toList.contains ·) then none
    else if letters.eraseDups.length != letters.length then none
    else if dashes > 1 || body.getLast? == some '-' then none
    else
      let verbose := if body.contains 'x' then
        some ((body.takeWhile (· != '-')).contains 'x')
      else none
      some (verbose, close, rest)
  | [] => none

/-- Where the scan of a pattern stands. -/
structure ScanState where
  /-- The `x` flag of each enclosing group outside the current one, innermost first. -/
  outer : List Bool
  /-- Whether the `x` flag is set. -/
  verbose : Bool
  /-- Whether what comes last can be repeated. -/
  repeatable : Bool
  /-- The names given to groups so far. -/
  names : List String
  deriving DecidableEq, Repr

/-- Open a group whose `x` flag is `verbose`. -/
def ScanState.enter (st : ScanState) (verbose : Bool) : ScanState :=
  { st with outer := st.verbose :: st.outer, verbose, repeatable := false }

/-- **Scan a pattern** from a state: whether the rest compiles. Each step takes at least one
character, so `fuel` at the text's length is enough. -/
def scan : Nat → List Char → ScanState → Bool
  | 0, _, _ => false
  | _, [], st => st.outer.isEmpty
  | fuel + 1, c :: cs, st =>
    if st.verbose && Text.isUnicodeSpace c then scan fuel cs st
    else if st.verbose && c == '#' then scan fuel (cs.dropWhile (· != '\n')) st
    else match c with
      | '\\' =>
        match escape cs with
        | some (_, rest) => scan fuel rest { st with repeatable := true }
        | none => false
      | '(' =>
        match cs with
        | '?' :: more =>
          let named := match more with
            | 'P' :: '<' :: rest => some rest
            | '<' :: rest =>
              match rest with
              | '=' :: _ | '!' :: _ => none
              | _ => some rest
            | _ => none
          match named with
          | some rest =>
            let name := rest.takeWhile (· != '>')
            match rest.drop name.length, name with
            | '>' :: after, n :: ns =>
              let text := String.ofList name
              if isNameChar true n && ns.all (isNameChar false) && !st.names.contains text then
                scan fuel after { st.enter st.verbose with names := text :: st.names }
              else false
            | _, _ => false
          | none =>
            match flags more with
            | some (verbose, ')', rest) =>
              scan fuel rest { st with verbose := verbose.getD st.verbose, repeatable := false }
            | some (verbose, _, rest) => scan fuel rest (st.enter (verbose.getD st.verbose))
            | none => false
        | _ => scan fuel cs (st.enter st.verbose)
      | ')' =>
        match st.outer with
        | v :: vs => scan fuel cs { st with outer := vs, verbose := v, repeatable := true }
        | [] => false
      | '|' => scan fuel cs { st with repeatable := false }
      | '*' | '+' | '?' => st.repeatable && scan fuel (dropLazy cs) st
      | '{' =>
        st.repeatable &&
          match counted cs with
          | some rest => scan fuel (dropLazy rest) st
          | none => false
      | '[' =>
        match classBody cs.length cs with
        | some rest => scan fuel rest { st with repeatable := true }
        | none => false
      | _ => scan fuel cs { st with repeatable := true }

/-- **Whether a regular expression compiles.** -/
def compiles (text : String) : Bool :=
  scan (text.length + 1) text.toList ⟨[], false, false, []⟩

/-- Whether a text is made of one or more decimal digits. -/
def isDigits (cs : List Char) : Bool := !cs.isEmpty && cs.all Char.isDigit

/-- Whether a text reads as a double: a sign, then `inf`, `infinity` or `nan` in any case, or
digits with a point somewhere among them and at least one digit, then an exponent. -/
def isDouble (text : String) : Bool :=
  let cs := match text.toList with
    | '+' :: rest | '-' :: rest => rest
    | rest => rest
  let word := (String.ofList cs).toLower
  if word == "inf" || word == "infinity" || word == "nan" then true
  else
    let whole := cs.takeWhile Char.isDigit
    let afterWhole := cs.drop whole.length
    let (fraction, afterFraction) := match afterWhole with
      | '.' :: more =>
        let f := more.takeWhile Char.isDigit
        (f, more.drop f.length)
      | more => ([], more)
    let mantissa := !whole.isEmpty || !fraction.isEmpty
    mantissa &&
      match afterFraction with
      | [] => true
      | 'e' :: more | 'E' :: more =>
        match more with
        | '+' :: ds | '-' :: ds => isDigits ds
        | ds => isDigits ds
      | _ => false

/-- **Whether a field value reads**: as a boolean, a number, or a regular expression that
compiles. -/
def valueReads (text : String) : Bool :=
  text == "true" || text == "false" || isDouble text || compiles text

end PinAudit.Pattern
