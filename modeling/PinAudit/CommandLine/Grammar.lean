/-!
# Command-line grammars

A command takes arguments and may have subcommands. An argument is a switch, an option that
takes one value (perhaps with a default), a value given by position, or one of the two
arguments every command line knows: print the help, print the version. An argument may be
*global*: given to a command, it is also accepted by its subcommands.

This module also writes what a grammar shows of itself:
- the *usage line*, `name [OPTIONS] <REQUIRED>... <COMMAND>`, or, when an error concerns
  arguments that were given, the name followed by those arguments;
- the *help*: the summary, the usage line, then the sections `Commands:`, `Arguments:` and
  `Options:`, each entry in two columns, the second starting two spaces after the widest entry
  of its section.

Main definitions: `Arg`, `Command`, `Command.usage`, `Command.help`.
-/

namespace PinAudit.CommandLine

/-- What an argument does when it is given. -/
inductive Action where
  /-- A switch, on when given. -/
  | flag
  /-- An option taking one value, shown as `<placeholder>`. -/
  | value (placeholder : String) (dflt : Option String)
  /-- A value given by position; `many` takes all that follow, `required` must be given. -/
  | positional (placeholder : String) (required : Bool) (many : Bool)
  /-- Print the help. -/
  | help
  /-- Print the version. -/
  | version
  deriving DecidableEq, Repr

/-- **An argument** of a command. -/
structure Arg where
  id : String
  long : Option String := none
  short : Option Char := none
  help : String
  action : Action
  /-- Also accepted by the subcommands. -/
  global : Bool := false
  /-- The value must be an unsigned 64-bit count. -/
  count : Bool := false
  deriving DecidableEq, Repr

namespace Arg

/-- Whether the argument is given by position. -/
def isPositional (a : Arg) : Bool :=
  match a.action with
  | .positional .. => true
  | _ => false

/-- Whether the argument takes a value after its name. -/
def takesValue (a : Arg) : Bool :=
  match a.action with
  | .value .. => true
  | _ => false

/-- The placeholder of a positional argument: `<NAME>` when required, `[NAME]` when not,
with `...` when it takes several. -/
def positionalText (placeholder : String) (required many : Bool) : String :=
  (if required then "<" ++ placeholder ++ ">" else "[" ++ placeholder ++ "]") ++
    (if many then "..." else "")

/-- **The argument as errors and usage lines name it**: `--long <VALUE>`, `--long`, `-s`,
or the placeholder of a positional one. -/
def display (a : Arg) : String :=
  match a.action with
  | .positional p r m => positionalText p r m
  | action =>
    let name := match a.long, a.short with
      | some l, _ => "--" ++ l
      | none, some s => "-" ++ s.toString
      | none, none => a.id
    match action with
    | .value p _ => name ++ " <" ++ p ++ ">"
    | _ => name

/-- The first column of the argument's help entry: `-s, --long <VALUE>`, with four spaces in
place of a missing short name. -/
def helpName (a : Arg) : String :=
  match a.action with
  | .positional p r m => positionalText p r m
  | action =>
    let short := match a.short with
      | some s => "-" ++ s.toString ++ ", "
      | none => "    "
    let long := match a.long with
      | some l => "--" ++ l
      | none => ""
    let value := match action with
      | .value p _ => " <" ++ p ++ ">"
      | _ => ""
    short ++ long ++ value

/-- The second column of the argument's help entry: its help, and its default. -/
def helpText (a : Arg) : String :=
  match a.action with
  | .value _ (some d) => a.help ++ " [default: " ++ d ++ "]"
  | _ => a.help

end Arg

/-- **A command**: the name its usage line shows (with its parents' names), a summary, its
arguments (those inherited as global included) and its subcommands by name and summary. -/
structure Command where
  name : String
  about : String
  args : List Arg
  subcommands : List (String × String) := []
  /-- Whether a subcommand must be given. -/
  needsSubcommand : Bool := false
  /-- The version the command prints, if it has one. -/
  version : Option String := none
  deriving Repr

namespace Command

/-- The arguments given by name. -/
def options (c : Command) : List Arg := c.args.filter (!·.isPositional)

/-- The arguments given by position, in order. -/
def positionals (c : Command) : List Arg := c.args.filter Arg.isPositional

/-- The argument with a long name. -/
def findLong (c : Command) (l : String) : Option Arg := c.args.find? (·.long == some l)

/-- The argument with a short name. -/
def findShort (c : Command) (s : Char) : Option Arg := c.args.find? (·.short == some s)

/-- The argument with an id. -/
def find (c : Command) (id : String) : Option Arg := c.args.find? (·.id == id)

/-- The long names of the command's arguments. -/
def longNames (c : Command) : List String := c.args.filterMap (·.long)

/-- Whether the usage line shows `[OPTIONS]`: some argument given by name other than help and
version. -/
def showsOptions (c : Command) : Bool :=
  c.options.any fun a => a.action != .help && a.action != .version

/-- The name of a subcommand, if the command has it. -/
def subcommand? (c : Command) (name : String) : Option String :=
  (c.subcommands.find? (·.1 == name)).map Prod.fst

/-- **The usage line** of a command: its name, `[OPTIONS]`, the positional arguments and
`<COMMAND>` when a subcommand is needed. -/
def usage (c : Command) : String :=
  " ".intercalate ([c.name] ++ (if c.showsOptions then ["[OPTIONS]"] else []) ++
    c.positionals.map Arg.display ++ (if c.needsSubcommand then ["<COMMAND>"] else []))

/-- **The usage line for arguments that were given**: the name, then the required
arguments and those given (each once, by name first, then by position), then `<COMMAND>`
when a subcommand is needed. -/
def usageWith (c : Command) (given : List String) : String :=
  let required := c.positionals.filter fun a =>
    match a.action with
    | .positional _ r _ => r
    | _ => false
  let ids := (required.map (·.id) ++ given).eraseDups
  let args := ids.filterMap c.find
  let named := args.filter (!·.isPositional)
  let byPosition := c.positionals.filter fun p => ids.contains p.id
  " ".intercalate ([c.name] ++ named.map Arg.display ++ byPosition.map Arg.display ++
    (if c.needsSubcommand then ["<COMMAND>"] else []))

/-- Entries in two columns, the second two spaces after the widest first column. -/
def columns (rows : List (String × String)) : String :=
  let width := rows.foldl (fun w r => max w r.1.length) 0
  "\n".intercalate (rows.map fun (l, r) =>
    "  " ++ l ++ String.ofList (List.replicate (width - l.length + 2) ' ') ++ r)

/-- **The help of a command.** -/
def help (c : Command) : String :=
  let sections :=
    (if c.subcommands.isEmpty then [] else ["Commands:\n" ++ columns c.subcommands]) ++
    (if c.positionals.isEmpty then []
     else ["Arguments:\n" ++ columns (c.positionals.map fun a => (a.helpName, a.helpText))]) ++
    (if c.options.isEmpty then []
     else ["Options:\n" ++ columns (c.options.map fun a => (a.helpName, a.helpText))])
  c.about ++ "\n\nUsage: " ++ c.usage ++ "\n\n" ++ "\n\n".intercalate sections ++ "\n"

end Command

end PinAudit.CommandLine
