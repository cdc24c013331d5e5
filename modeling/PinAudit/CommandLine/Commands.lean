import PinAudit.CommandLine.Parse

/-!
# The tool's command line

`pinguard [OPTIONS] <COMMAND>` with the commands `check` (evaluate the rules and write the
report), `md` (render a report in Markdown), `annotations` (render a report as workflow
annotations) and `explain` (explain a check or a finding code), and the options that say where
the repository, its configuration and its dependency tree are. `-v` asks for debug logging, on
any command.

`Invocation.read` reads a command line into what the tool is asked to do, with each option's
default filled in.

Main definitions: `toolCommand`, `Invocation`, `Invocation.read`.
-/

namespace PinAudit.CommandLine

/-- Log at debug level; given to the tool, it is also accepted by every command. -/
def verboseArg : Arg :=
  { id := "verbose", long := some "verbose", short := some 'v', action := .flag, global := true,
    help := "Log at debug level. `RUST_LOG` is used when this is not set" }

/-- Print help. -/
def helpArg : Arg :=
  { id := "help", long := some "help", short := some 'h', help := "Print help", action := .help }

/-- Print the version. -/
def versionArg : Arg :=
  { id := "version", long := some "version", short := some 'V', help := "Print version",
    action := .version }

/-- The tool's name. -/
def toolName : String := "pinguard"

/-- The default path of the report, in the working directory. -/
def defaultReportPath : String := "artifacts/pinguard/report.json"

/-- **The tool's command.** -/
def toolCommand : Command where
  name := toolName
  about := "Guard against dynamic dependency versions and missing or unexpected files"
  version := some "0.1.0"
  needsSubcommand := true
  args := [
    { id := "repo_root", long := some "repo-root", action := .value "REPO_ROOT" (some "."),
      help := "Repository root. Config, tree and file paths are resolved against it" },
    { id := "config", long := some "config", action := .value "CONFIG" (some "pinguard.toml"),
      help := "Path to pinguard config TOML" },
    { id := "profile", long := some "profile", action := .value "PROFILE" none,
      help := "Override profile (strict|warn|compat)" },
    { id := "tree", long := some "tree", action := .value "TREE" none,
      help := "Override the resolved dependency tree JSON (relative to the repo root)" },
    verboseArg, helpArg, versionArg]
  subcommands := [
    ("check", "Evaluate the rules and write artifacts"),
    ("md", "Render markdown from an existing JSON report"),
    ("annotations", "Render GitHub Actions annotations from an existing JSON report"),
    ("explain", "Explain a check_id or code with remediation guidance"),
    ("help", "Print this message or the help of the given subcommand(s)")]

/-- A command of the tool, with the global switch and help after its own arguments. -/
def subcommandOf (name about : String) (args : List Arg) : Command :=
  { name := toolName ++ " " ++ name, about, args := args ++ [verboseArg, helpArg] }

/-- The `check` command. -/
def checkCommand : Command :=
  subcommandOf "check" "Evaluate the rules and write artifacts" [
    { id := "report_out", long := some "report-out",
      action := .value "REPORT_OUT" (some defaultReportPath),
      help := "Where to write the JSON report" },
    { id := "write_markdown", long := some "write-markdown", action := .flag,
      help := "Write a Markdown report alongside the JSON" },
    { id := "markdown_out", long := some "markdown-out",
      action := .value "MARKDOWN_OUT" (some "artifacts/pinguard/comment.md"),
      help := "Where to write the Markdown report (if enabled)" }]

/-- The `md` command. -/
def mdCommand : Command :=
  subcommandOf "md" "Render markdown from an existing JSON report" [
    { id := "report", long := some "report", action := .value "REPORT" (some defaultReportPath),
      help := "Path to the JSON report file" },
    { id := "output", long := some "output", short := some 'o', action := .value "OUTPUT" none,
      help := "Where to write the Markdown output (if not specified, prints to stdout)" }]

/-- The `annotations` command. -/
def annotationsCommand : Command :=
  subcommandOf "annotations" "Render GitHub Actions annotations from an existing JSON report" [
    { id := "report", long := some "report", action := .value "REPORT" (some defaultReportPath),
      help := "Path to the JSON report file" },
    { id := "max", long := some "max", action := .value "MAX" (some "10"), count := true,
      help := "Maximum number of annotations to emit" }]

/-- The `explain` command. -/
def explainCommand : Command :=
  subcommandOf "explain" "Explain a check_id or code with remediation guidance" [
    { id := "identifier", action := .positional "IDENTIFIER" true false,
      help := "The check_id (e.g. \"deps.ban_dynamic_versions\") or code " ++
        "(e.g. \"latest_version\")" }]

/-- The `help` command: the help of the commands named after it. -/
def helpCommand : Command where
  name := toolName ++ " help"
  about := "Print this message or the help of the given subcommand(s)"
  args := [
    { id := "command", action := .positional "COMMAND" false true,
      help := "Print help for the subcommand(s)" }]

/-- The commands of the tool, by name. -/
def toolSubcommand : String → Option Command
  | "check" => some checkCommand
  | "md" => some mdCommand
  | "annotations" => some annotationsCommand
  | "explain" => some explainCommand
  | "help" => some helpCommand
  | _ => none

/-- **What the tool is asked to do.** -/
inductive Task where
  | check (reportOut : String) (writeMarkdown : Bool) (markdownOut : String)
  | markdown (report : String) (output : Option String)
  | annotations (report : String) (max : Nat)
  | explain (identifier : String)
  deriving DecidableEq, Repr

/-- **An invocation of the tool.** -/
structure Invocation where
  repoRoot : String
  config : String
  profile : Option String
  tree : Option String
  verbose : Bool
  task : Task
  deriving DecidableEq, Repr

namespace Invocation

/-- The value given for an argument, or its default. -/
def valueOf (c : Command) (given : Given) (id : String) : Option String :=
  match given.lookup id with
  | some v => v
  | none =>
    match c.find id with
    | some { action := .value _ d, .. } => d
    | _ => none

/-- The text value given for an argument, or its default, or the empty text. -/
def textOf (c : Command) (given : Given) (id : String) : String :=
  (valueOf c given id).getD ""

/-- **Read a command line**: stop with help, the version or a refusal, or say what to do. -/
def read (words : List String) : Except Stop Invocation := do
  let p ← parseLine toolCommand toolSubcommand words
  let some (name, sub) := p.subcommand
    | throw (.refuse toolCommand.help)
  let task ← match name with
    | "check" =>
      pure (Task.check (textOf checkCommand sub "report_out") (sub.lookup "write_markdown").isSome
        (textOf checkCommand sub "markdown_out"))
    | "md" => pure (.markdown (textOf mdCommand sub "report") (valueOf mdCommand sub "output"))
    | "annotations" =>
      pure (.annotations (textOf annotationsCommand sub "report")
        (((valueOf annotationsCommand sub "max").map parseCount).bind
          (fun r => match r with | .ok n => some n | .error _ => none) |>.getD 10))
    | _ => pure (.explain (textOf explainCommand sub "identifier"))
  pure {
    repoRoot := textOf toolCommand p.given "repo_root"
    config := textOf toolCommand p.given "config"
    profile := valueOf toolCommand p.given "profile"
    tree := valueOf toolCommand p.given "tree"
    verbose := (p.given.lookup "verbose").isSome || (sub.lookup "verbose").isSome
    task }

end Invocation

end PinAudit.CommandLine
