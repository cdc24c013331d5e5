/-!
# Glob patterns

Shell-style patterns matched against the bytes of a text (UTF-8), the whole text at once:

- `?` matches any one byte and `*` any run of bytes, `/` included;
- `[abc]`, `[a-z]` and `[!a]` or `[^a]` are byte classes; a `]` first in the class and a `-`
  first or last are literal; a range whose end is below its start is refused;
- `{a,b}` matches one of its comma-separated branches, and groups may nest; a branch that
  stands for nothing (empty, or only groups of such branches) is left out, and a group of such
  branches only matches the empty text; an unclosed `{` and a `}` with no `{` open are refused;
  outside braces a comma is literal;
- `\` makes the next character literal, and may not end the pattern;
- `**` as a whole path component matches across `/`: at the start, `**/x` also matches `x`; at
  the end, `x/**` matches what is below `x/`; in the middle, `x/**/y` also matches `x/y`. A
  `**` elsewhere is two `*`, and the pattern `**` alone matches everything.

A non-ASCII character in a pattern stands for its UTF-8 bytes; in a class each of those bytes
is a member of its own (a range takes the last byte of its start and the first of its end).

Main definitions: `Glob.compile` (with `GlobError.message`) and `Glob.accepts`.
-/

namespace PinAudit

/-- Why a glob is refused. -/
inductive GlobError where
  | unclosedClass
  | invalidRange (lo hi : Char)
  | unclosedAlternates
  | unopenedAlternates
  | danglingEscape
  deriving DecidableEq, Repr

/-- The refusal as it is printed, naming the glob. -/
def GlobError.message (glob : String) : GlobError → String
  | e =>
    let reason := match e with
      | .unclosedClass => "unclosed character class; missing ']'"
      | .invalidRange lo hi => "invalid range; '" ++ lo.toString ++ "' > '" ++ hi.toString ++ "'"
      | .unclosedAlternates => "unclosed alternate group; missing '\x7d' (maybe escape '\x7b' with '[\x7b]'?)"
      | .unopenedAlternates => "unopened alternate group; missing '\x7b' (maybe escape '\x7d' with '[\x7d]'?)"
      | .danglingEscape => "dangling '\\'"
    "error parsing glob '" ++ glob ++ "': " ++ reason

namespace Glob

/-- Pieces of a parsed glob. -/
inductive Token where
  | literal (c : Char)
  | any
  | zeroOrMore
  /-- `**/` at the start: nothing, `/`, or anything ending in `/`. -/
  | recursivePrefix
  /-- `/**` at the end: `/` and anything after it. -/
  | recursiveSuffix
  /-- `/**/` inside: `/`, or `/` anything `/`. -/
  | recursiveMiddle
  | class (negated : Bool) (ranges : List (Char × Char))
  | alternates (branches : List (List Token))
  deriving Repr, Inhabited

/-- The separator of path components. -/
def isSeparator (c : Char) : Bool := c == '/'

/-- Parser state: the tokens outside any group (last first), the open `{…}` groups (innermost
first, each with its branches, the current one first and each last token first), and the
character read before. -/
structure State where
  outer : List Token := []
  groups : List (List (List Token)) := []
  prev : Option Char := none

/-- The tokens of the current branch, last first. -/
def State.current (s : State) : List Token :=
  match s.groups with
  | (b :: _) :: _ => b
  | _ => s.outer

/-- Replace the tokens of the current branch. -/
def State.setCurrent (s : State) (ts : List Token) : State :=
  match s.groups with
  | (_ :: bs) :: gs => { s with groups := (ts :: bs) :: gs }
  | _ => { s with outer := ts }

/-- Push a token onto the current branch. -/
def State.push (s : State) (t : Token) : State := s.setCurrent (t :: s.current)

/-- Read a character class after `[`; returns the token and the characters after `]`. -/
def parseClass (cs : List Char) : Except GlobError (Token × List Char) :=
  let (negated, body) := match cs with
    | '!' :: rest => (true, rest)
    | '^' :: rest => (true, rest)
    | rest => (false, rest)
  let rec go : List Char → Bool → Bool → List (Char × Char) →
      Except GlobError (List (Char × Char) × Bool × List Char)
    | [], _, _, _ => .error .unclosedClass
    | c :: rest, first, inRange, acc =>
      if c == ']' then
        if first then go rest false inRange ((']', ']') :: acc)
        else .ok (acc, inRange, rest)
      else if c == '-' then
        if first then go rest false inRange (('-', '-') :: acc)
        else if inRange then
          match acc with
          | (lo, _) :: more =>
            if '-' < lo then .error (.invalidRange lo '-') else go rest false false ((lo, '-') :: more)
          | [] => go rest false false acc
        else go rest false true acc
      else if inRange then
        match acc with
        | (lo, _) :: more =>
          if c < lo then .error (.invalidRange lo c) else go rest false false ((lo, c) :: more)
        | [] => go rest false false ((c, c) :: acc)
      else go rest false false ((c, c) :: acc)
  match go body true false [] with
  | .error e => .error e
  | .ok (acc, inRange, rest) =>
    let ranges := (if inRange then ('-', '-') :: acc else acc).reverse
    .ok (.class negated ranges, rest)

/-- Pop the last token of the current branch. -/
def State.pop (s : State) : Option Token × State :=
  match s.current with
  | t :: ts => (some t, s.setCurrent ts)
  | [] => (none, s)

/-- Whether the parser is inside a `{…}` group. -/
def State.inGroup (s : State) : Bool := !s.groups.isEmpty

/-- Handle `**` (both stars read); `rest` follows them. -/
def parseDoubleStar (s : State) (rest : List Char) : State × List Char :=
  let twoStars := fun (st : State) => (st.push .zeroOrMore).push .zeroOrMore
  if s.current.isEmpty then
    match rest with
    | [] => (s.push .recursivePrefix, [])
    | c :: more =>
      if isSeparator c then (s.push .recursivePrefix, more) else (twoStars s, rest)
  else if !(s.prev.map isSeparator).getD false &&
      (!s.inGroup || (s.prev != some ',' && s.prev != some '{')) then
    (twoStars s, rest)
  else
    let suffix? : Option (Bool × List Char) := match rest with
      | [] => some (true, [])
      | c :: more =>
        if (c == ',' || c == '}') && s.inGroup then some (true, rest)
        else if isSeparator c then some (false, more)
        else none
    match suffix? with
    | none => (twoStars s, rest)
    | some (isSuffix, after) =>
      let (last, s') := s.pop
      let tok := match last with
        | some .recursivePrefix => Token.recursivePrefix
        | some .recursiveSuffix => Token.recursiveSuffix
        | _ => if isSuffix then Token.recursiveSuffix else Token.recursiveMiddle
      (s'.push tok, after)

/-- Parse the characters of a glob; `fuel` bounds the steps (each reads a character). -/
def parseChars : Nat → State → List Char → Except GlobError State
  | 0, s, _ => .ok s
  | _, s, [] => .ok s
  | fuel + 1, s, c :: rest =>
    let s0 := { s with prev := some c }
    match c with
    | '?' => parseChars fuel (s0.push .any) rest
    | '*' =>
      match rest with
      | '*' :: more =>
        let (s', after) := parseDoubleStar s more
        -- a separator read with the stars is the character before what follows
        let last := if after.length < more.length then '/' else '*'
        parseChars fuel { s' with prev := some last } after
      | _ => parseChars fuel (s0.push .zeroOrMore) rest
    | '[' =>
      match parseClass rest with
      | .error e => .error e
      | .ok (tok, after) => parseChars fuel ({ s0.push tok with prev := some ']' }) after
    | '{' => parseChars fuel { s0 with groups := [[]] :: s.groups } rest
    | '}' =>
      match s.groups with
      | g :: gs =>
        let branches := g.reverse.map List.reverse
        parseChars fuel (({ s0 with groups := gs }).push (.alternates branches)) rest
      | [] => .error .unopenedAlternates
    | ',' =>
      match s.groups with
      | bs :: gs => parseChars fuel { s0 with groups := ([] :: bs) :: gs } rest
      | [] => parseChars fuel (s0.push (.literal ',')) rest
    | '\\' =>
      match rest with
      | [] => .error .danglingEscape
      | e :: more => parseChars fuel ({ s0.push (.literal e) with prev := some e }) more
    | _ => parseChars fuel (s0.push (.literal c)) rest

/-! ## Matching -/

/-- Matching pieces over bytes. -/
inductive Piece where
  | byte (b : UInt8)
  | anyByte
  | anyRun
  | byteClass (negated : Bool) (ranges : List (UInt8 × UInt8))
  deriving Repr, DecidableEq

/-- The UTF-8 bytes of a character. -/
def bytesOf (c : Char) : List UInt8 := (String.singleton c).toUTF8.toList

/-- The byte ranges of a class: each character's bytes are members of their own; a range joins
the last byte of its start to the first byte of its end. -/
def classBytes (ranges : List (Char × Char)) : List (UInt8 × UInt8) :=
  ranges.flatMap fun (lo, hi) =>
    if lo == hi then (bytesOf lo).map fun b => (b, b)
    else
      let l := bytesOf lo
      let h := bytesOf hi
      (l.dropLast.map fun b => (b, b)) ++ [((l.getLast?.getD 0), (h.head?.getD 0))] ++
        ((h.drop 1).map fun b => (b, b))

/-- The sequences of pieces of one token outside a group. -/
def tokenPieces : Token → List (List Piece)
  | .literal c => [(bytesOf c).map .byte]
  | .any => [[.anyByte]]
  | .zeroOrMore => [[.anyRun]]
  | .recursivePrefix => [[], [.byte 47], [.anyRun, .byte 47]]
  | .recursiveSuffix => [[.byte 47, .anyRun]]
  | .recursiveMiddle => [[.byte 47], [.byte 47, .anyRun, .byte 47]]
  | .class n rs => [[.byteClass n (classBytes rs)]]
  | .alternates _ => [[]]

mutual

/-- Whether tokens stand for nothing at all: none, or only groups of such branches. -/
def silentTokens : List Token → Bool
  | [] => true
  | .alternates bs :: ts => silentBranches bs && silentTokens ts
  | _ :: _ => false

/-- Whether every branch of a group stands for nothing. -/
def silentBranches : List (List Token) → Bool
  | [] => true
  | b :: bs => silentTokens b && silentBranches bs

end

mutual

/-- **Every sequence of pieces** a token list stands for, its groups spelled out. -/
def expand : List Token → List (List Piece)
  | [] => [[]]
  | t :: ts =>
    let tails := expand ts
    let heads := match t with
      | .alternates bs =>
        let alts := branchSequences bs
        if alts.isEmpty then [[]] else alts
      | _ => tokenPieces t
    heads.flatMap fun h => tails.map fun tl => h ++ tl

/-- The sequences of the branches of a group, leaving out those that stand for nothing. -/
def branchSequences : List (List Token) → List (List Piece)
  | [] => []
  | b :: bs => (if silentTokens b then [] else expand b) ++ branchSequences bs

end

/-- A byte is in a class. -/
def inClass (negated : Bool) (ranges : List (UInt8 × UInt8)) (b : UInt8) : Bool :=
  ranges.any (fun (lo, hi) => lo ≤ b && b ≤ hi) != negated

/-- **Match** pieces against the whole of a byte list. -/
def matchPieces : List Piece → List UInt8 → Bool
  | [], bs => bs.isEmpty
  | .byte b :: ps, c :: bs => b == c && matchPieces ps bs
  | .anyByte :: ps, _ :: bs => matchPieces ps bs
  | .byteClass n rs :: ps, c :: bs => inClass n rs c && matchPieces ps bs
  | .anyRun :: ps, bs =>
    matchPieces ps bs ||
      (match bs with
        | [] => false
        | _ :: rest => matchPieces (.anyRun :: ps) rest)
  | _ :: _, [] => false
termination_by ps bs => (bs.length, ps.length)

end Glob

/-- **A compiled glob**: the sequences of pieces it stands for; the text matches when one of
them matches all its bytes. -/
structure Glob where
  text : String
  sequences : List (List Glob.Piece)

namespace Glob

/-- **Compile a glob**, or say why it is refused. -/
def compile (text : String) : Except GlobError Glob := do
  let cs := text.toList
  let s ← parseChars (cs.length + 1) {} cs
  if s.inGroup then throw .unclosedAlternates
  let tokens := s.outer.reverse
  match tokens with
  | [.recursivePrefix] => pure ⟨text, [[.anyRun]]⟩
  | _ => pure ⟨text, expand tokens⟩

/-- Whether a text matches the glob. -/
def accepts (g : Glob) (s : String) : Bool :=
  let bytes := s.toUTF8.toList
  g.sequences.any fun seq => matchPieces seq bytes

end Glob

end PinAudit
