import PinAudit.CommandLine.Grammar
import PinAudit.CommandLine.Similar

/-!
# Reading a command line

The words of a command line are read one after the other against a command's grammar:
- a word naming a subcommand hands the rest of the line to it (`help` prints the help of the
  subcommand named after it);
- `--` makes every later word a positional value;
- `--name` or `--name=value` is a long argument, `-abc` a cluster of short ones, where an
  option takes the rest of the cluster (after an optional `=`) as its value;
- any other word is the value of an option waiting for one, else the next positional value.

An option given without its value waits for the next word; it is settled (checked and
recorded) when the next argument is met or the line ends. Settling refuses an option without a
value, an argument given twice, and a count that is not a number. Help and version stop the
reading at once and print. At the end a command that needs a subcommand and got none is
refused (or shows its help, when nothing at all was given), and so is one missing a required
positional value.

Refusals are written the way users of such command lines know them: `error: ...`, tips, the
usage line and a pointer to `--help`.

Main definitions: `Refusal`, `Stop`, `Parsed`, `parseLine`.
-/

namespace PinAudit.CommandLine

/-- **A refused command line**: the message, the tips, and the usage line to show. -/
structure Refusal where
  message : String
  tips : List String := []
  usage : Option String := none
  deriving DecidableEq, Repr

/-- The refusal as it is printed. -/
def Refusal.text (r : Refusal) : String :=
  "error: " ++ r.message ++
    (if r.tips.isEmpty then "" else "\n" ++ String.join (r.tips.map ("\n  tip: " ++ ·))) ++
    (match r.usage with
     | some u => "\n\nUsage: " ++ u
     | none => "") ++
    "\n\nFor more information, try '--help'.\n"

/-- **Why reading stopped early**: a text to print on standard output (help or version), or on
standard error with a failing status (a refusal, or the help when nothing was given). -/
inductive Stop where
  | show (text : String)
  | refuse (text : String)
  deriving DecidableEq, Repr

/-- Arguments given to a command, by id, with their values (`none` for a switch), in the order
they were given. -/
abbrev Given := List (String × Option String)

/-- **A command line read**: what was given to the command and, when a subcommand was named,
its name and what was given to it. -/
structure Parsed where
  given : Given
  subcommand : Option (String × Given) := none
  deriving DecidableEq, Repr

/-- The largest unsigned 64-bit number. -/
def maxCount : Nat := Nat.pow 2 64 - 1

/-- Read digits onto `acc`, refusing the first non-digit and the first step past the largest
count, whichever comes first. -/
def countDigits : List Char → Nat → Except String Nat
  | [], acc => .ok acc
  | c :: cs, acc =>
    if !c.isDigit then .error "invalid digit found in string"
    else
      let acc := 10 * acc + (c.toNat - '0'.toNat)
      if acc > maxCount then .error "number too large to fit in target type"
      else countDigits cs acc

/-- **Read a count**: decimal digits after an optional `+`. -/
def parseCount (s : String) : Except String Nat :=
  match s.toList with
  | [] => .error "cannot parse integer from empty string"
  | ['+'] => .error "invalid digit found in string"
  | '+' :: cs => countDigits cs 0
  | cs => countDigits cs 0

/-- Where reading a command stands. -/
structure Reading where
  given : Given := []
  /-- An option waiting to be settled, with its value once read. -/
  pending : Option (Arg × Option String) := none
  /-- Whether the pending option still waits for its value. -/
  expecting : Bool := false
  /-- How many positional values were taken. -/
  position : Nat := 0
  /-- Whether `--` was met. -/
  escaped : Bool := false

/-- The ids of the arguments given. -/
def Reading.ids (r : Reading) : List String := (r.given.map Prod.fst).eraseDups

/-- Whether an argument was given. -/
def Reading.has (r : Reading) (id : String) : Bool := r.given.any (·.1 == id)

section

variable (cmd : Command)

/-- The refusal of an argument given twice. -/
def repeated (a : Arg) : Stop :=
  .refuse (Refusal.text ⟨"the argument '" ++ a.display ++ "' cannot be used multiple times",
    [], some cmd.usage⟩)

/-- **Record an argument** with its value: an option needs a value, no argument given by name
may be given twice, a count must read as one; help and version stop the reading. -/
def record (r : Reading) (a : Arg) (v : Option String) : Except Stop Reading := do
  match a.action with
  | .help => throw (.show cmd.help)
  | .version => throw (.show (cmd.name ++ " " ++ (cmd.version.getD "") ++ "\n"))
  | .value .. =>
    match v with
    | none =>
      throw (.refuse (Refusal.text
        ⟨"a value is required for '" ++ a.display ++ "' but none was supplied", [], none⟩))
    | some value =>
      if r.has a.id then throw (repeated cmd a)
      if a.count then
        match parseCount value with
        | .ok _ => pure ()
        | .error reason =>
          throw (.refuse (Refusal.text
            ⟨"invalid value '" ++ value ++ "' for '" ++ a.display ++ "': " ++ reason, [], none⟩))
      pure { r with given := r.given ++ [(a.id, some value)] }
  | _ =>
    if r.has a.id && !a.isPositional then throw (repeated cmd a)
    pure { r with given := r.given ++ [(a.id, v)] }

/-- **Settle the pending option**, if there is one. -/
def settle (r : Reading) : Except Stop Reading :=
  match r.pending with
  | none => .ok r
  | some (a, v) => record cmd { r with pending := none, expecting := false } a v

/-- Settle the pending option before reporting another problem, dropping it if it fails. -/
def settleQuietly (r : Reading) : Reading :=
  match settle cmd r with
  | .ok r => r
  | .error _ => { r with pending := none, expecting := false }

/-- Settle the pending option, then record an argument. -/
def react (r : Reading) (a : Arg) (v : Option String) : Except Stop Reading := do
  record cmd (← settle cmd r) a v

/-- The usage line for a refusal, given the ids of the arguments that count as given. -/
def usageFor (ids : List String) : String :=
  if ids.isEmpty then cmd.usage else cmd.usageWith ids

/-- The tip pointing at `--` for a word that looks like an argument. -/
def asValueTip (word : String) : String :=
  "to pass '" ++ word ++ "' as a value, use '-- " ++ word ++ "'"

/-- The first of the earliest-named subcommands with a long argument like `name`. -/
def suggestElsewhere (lookup : String → Option Command) (name : String) (rest : List String) :
    Option (String × String) :=
  let found := cmd.subcommands.filterMap fun (sub, _) =>
    match rest.idxOf? sub, lookup sub with
    | some i, some c => (suggest name c.longNames).map fun l => (i, sub, l)
    | _, _ => none
  (found.foldl (fun best x =>
    match best with
    | some b => if x.1 < b.1 then some x else best
    | none => some x) none).map fun (_, sub, l) => (sub, l)

/-- **The refusal of an unknown long argument**, with the most similar long name of the
command, or else of a subcommand named later on the line. -/
def unknownLong (lookup : String → Option Command) (r : Reading) (name : String)
    (rest : List String) : Stop :=
  let r := settleQuietly cmd r
  let own := suggest name cmd.longNames
  let elsewhere := if own.isSome then none else suggestElsewhere cmd lookup name rest
  let word := "--" ++ name
  let ownArg := own.bind cmd.findLong
  let tips :=
    (match own with
     | some l => ["a similar argument exists: '--" ++ l ++ "'"]
     | none => []) ++
    (if own.isNone && elsewhere.isNone && !r.escaped && !cmd.positionals.isEmpty then
      [asValueTip word] else []) ++
    (match elsewhere with
     | some (sub, l) => ["'" ++ sub ++ " --" ++ l ++ "' exists"]
     | none => [])
  let ids := (r.ids ++ (ownArg.map (·.id)).toList).eraseDups
  .refuse (Refusal.text ⟨"unexpected argument '" ++ word ++ "' found", tips,
    some (usageFor cmd ids)⟩)

/-- The refusal of an unknown short argument. -/
def unknownShort (r : Reading) (c : Char) : Stop :=
  let r := settleQuietly cmd r
  let word := "-" ++ c.toString
  .refuse (Refusal.text ⟨"unexpected argument '" ++ word ++ "' found",
    if !r.escaped && !cmd.positionals.isEmpty then [asValueTip word] else [], some cmd.usage⟩)

/-- The refusal of a value given to a switch. -/
def unneededValue (r : Reading) (a : Arg) (value : String) : Stop :=
  let r := settleQuietly cmd r
  .refuse (Refusal.text ⟨"unexpected value '" ++ value ++ "' for '" ++ a.display ++
    "' found; no more were expected", [], some (usageFor cmd (r.ids ++ [a.id]).eraseDups)⟩)

/-- **The refusal of a word that has no place**: a subcommand after `--`, a misspelt or
unknown subcommand, or an unexpected value. -/
def unplaced (r : Reading) (word : String) : Stop :=
  let r := settleQuietly cmd r
  let names := cmd.subcommands.map Prod.fst
  let refusal : Refusal :=
    if r.escaped && names.contains word then
      ⟨"unexpected argument '" ++ word ++ "' found",
        ["subcommand '" ++ word ++ "' exists; to use it, remove the '--' before it"],
        some cmd.usage⟩
    else if !names.isEmpty then
      match similarNames word names with
      | [] =>
        if cmd.positionals.isEmpty then
          ⟨"unrecognized subcommand '" ++ word ++ "'", [], some cmd.usage⟩
        else ⟨"unexpected argument '" ++ word ++ "' found", [], some cmd.usage⟩
      | [one] =>
        ⟨"unrecognized subcommand '" ++ word ++ "'",
          ["a similar subcommand exists: '" ++ one ++ "'"], some cmd.usage⟩
      | many =>
        ⟨"unrecognized subcommand '" ++ word ++ "'",
          ["some similar subcommands exist: " ++
            ", ".intercalate (many.map fun n => "'" ++ n ++ "'")], some cmd.usage⟩
    else ⟨"unexpected argument '" ++ word ++ "' found", [], some cmd.usage⟩
  .refuse refusal.text

/-- **A word that is no argument**: the value of a waiting option, else the next positional
value. After `--` a waiting option takes no value: every word is positional. -/
def plainWord (r : Reading) (word : String) : Except Stop Reading :=
  if r.expecting && !r.escaped then
    .ok { r with
      pending := r.pending.map fun (a, _) => (a, some word)
      expecting := false }
  else
    match cmd.positionals[r.position]? with
    | some a => do
      let r ← react cmd r a (some word)
      let many := match a.action with
        | .positional _ _ m => m
        | _ => false
      pure (if many then r else { r with position := r.position + 1 })
    | none => throw (unplaced cmd r word)

/-- **A cluster of short arguments**, after its `-`. -/
def shortCluster (r : Reading) : List Char → Except Stop Reading
  | [] => .ok r
  | c :: cs =>
    match cmd.findShort c with
    | none => .error (unknownShort cmd r c)
    | some a =>
      if a.takesValue then
        let attached := match cs with
          | '=' :: v => v
          | v => v
        if attached.isEmpty then
          .ok { (settleQuietly cmd r) with pending := some (a, none), expecting := true }
        else react cmd r a (some (String.ofList attached))
      else do
        shortCluster (← react cmd r a none) cs

/-- A long argument `name`, with the value attached by `=`, if any. -/
def longWord (lookup : String → Option Command) (r : Reading) (name : String)
    (attached : Option String) (rest : List String) : Except Stop Reading :=
  match cmd.findLong name with
  | none => .error (unknownLong cmd lookup r name rest)
  | some a =>
    if a.takesValue then
      match attached with
      | some v => react cmd r a (some v)
      | none => do
        let r ← settle cmd r
        pure { r with pending := some (a, none), expecting := true }
    else
      match attached with
      | some v => .error (unneededValue cmd r a v)
      | none => react cmd r a none

end

/-- A long word split at its first `=`: the name and the attached value. -/
def splitLong (body : String) : String × Option String :=
  match body.splitOn "=" with
  | [name] => (name, none)
  | name :: vs => (name, some ("=".intercalate vs))
  | [] => ("", none)

/-- **The help a `help` subcommand asks for**: that of the command reached by following the
names from `cmd`; a name that is not a subcommand is refused. -/
def helpFor (lookup : String → Option Command) (cmd : Command) : List String → Stop
  | [] => .show cmd.help
  | name :: rest =>
    match cmd.subcommand? name >>= lookup with
    | some sub => helpFor lookup sub rest
    | none =>
      .refuse (Refusal.text ⟨"unrecognized subcommand '" ++ name ++ "'", [], some cmd.usage⟩)

/-- **Read the words for a command** until they end or name a subcommand, which is returned
with the words after it. -/
def readWords (cmd : Command) (lookup : String → Option Command) (top : Command) :
    List String → Reading → Except Stop (Reading × Option (String × List String))
  | [], r => .ok (r, none)
  | word :: rest, r =>
    match (if r.escaped then none else cmd.subcommand? word) with
    | some "help" => .error (helpFor lookup top rest)
    | some sub => .ok (r, some (sub, rest))
    | none =>
      if !r.escaped && word == "--" then readWords cmd lookup top rest { r with escaped := true }
      else if !r.escaped && word.startsWith "--" then do
        let (name, attached) := splitLong (word.drop 2).toString
        readWords cmd lookup top rest (← longWord cmd lookup r name attached rest)
      else if !r.escaped && word.startsWith "-" && word != "-" then do
        readWords cmd lookup top rest (← shortCluster cmd r (word.drop 1).toString.toList)
      else do
        readWords cmd lookup top rest (← plainWord cmd r word)

/-- **The checks at the end of a command's words**: settle the pending option; a needed
subcommand must have been named (with nothing given at all, the help is shown instead); every
required positional value must have been given. -/
def finish (cmd : Command) (r : Reading) (named : Bool) : Except Stop Reading := do
  let r ← settle cmd r
  if !named && cmd.needsSubcommand then
    if r.given.isEmpty then throw (.refuse cmd.help)
    throw (.refuse (Refusal.text ⟨"'" ++ cmd.name ++
      "' requires a subcommand but one was not provided\n  [subcommands: " ++
      ", ".intercalate (cmd.subcommands.map Prod.fst) ++ "]", [], some cmd.usage⟩))
  let missing := cmd.positionals.filter fun a =>
    match a.action with
    | .positional _ true _ => !r.has a.id
    | _ => false
  if !missing.isEmpty then
    throw (.refuse (Refusal.text ⟨"the following required arguments were not provided:" ++
      String.join (missing.map fun a => "\n  " ++ a.display), [],
      some (cmd.usageWith (r.ids ++ missing.map (·.id)))⟩))
  pure r

/-- **Read a command line** for a command whose subcommands `lookup` finds. -/
def parseLine (top : Command) (lookup : String → Option Command) (words : List String) :
    Except Stop Parsed := do
  let (r, named) ← readWords top lookup top words {}
  match named with
  | some (name, rest) =>
    match lookup name with
    | some sub =>
      let (r', _) ← readWords sub lookup top rest {}
      let r' ← finish sub r' true
      let r ← finish top r true
      pure { given := r.given, subcommand := some (name, r'.given) }
    | none =>
      let r ← finish top r false
      pure { given := r.given }
  | none =>
    let r ← finish top r false
    pure { given := r.given }

end PinAudit.CommandLine
