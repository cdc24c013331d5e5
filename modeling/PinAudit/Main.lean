import PinAudit.CommandLine.Tool
import Std.Time.DateTime.Timestamp

/-!
# The executable

Runs the tool on the process's arguments with the libraries it runs, over the operating system's
file system and clock, with the log filter text of `RUST_LOG` and the backtraces of the release
build, then prints what it printed and exits with its code.

The operating system is reached through file reads, writes, directory making and real paths.
Kinds of files are told apart with those: a path exists when it has a real path, is a
directory when it opens but does not read, and ends in a symbolic link when its real path is
not its parent's real path followed by its name. Listing a directory is not available, and
fails.
-/

namespace PinAudit.Host

/-- An operating system error by its number, with the system's text for numbers the program
does not name. -/
def codedError (code : UInt32) (details : String) : IoError :=
  match code.toNat with
  | 2 => .notFound
  | 17 => .alreadyExists
  | 20 => .notADirectory
  | 21 => .isADirectory
  | 36 => .nameTooLong
  | 40 => .tooManyLinks
  | n => .other (details ++ " (os error " ++ toString n ++ ")")

/-- A failed IO action as an operating system error. -/
def ioErrorOf : IO.Error → IoError
  | .alreadyExists _ c d | .otherError c d | .resourceBusy c d | .resourceVanished c d
  | .unsupportedOperation c d | .hardwareFault c d | .unsatisfiedConstraints c d
  | .illegalOperation c d | .protocolError c d | .timeExpired c d | .interrupted _ c d
  | .noFileOrDirectory _ c d | .invalidArgument _ c d | .permissionDenied _ c d
  | .resourceExhausted _ c d | .inappropriateType _ c d | .noSuchThing _ c d => codedError c d
  | .unexpectedEof => .other "failed to fill whole buffer"
  | .userError m => .other m

/-- Run an IO action, catching its failure. -/
def attempt {α : Type} (act : IO α) : IO (Except IoError α) := do
  try pure (.ok (← act)) catch e => pure (.error (ioErrorOf e))

/-- The real path of a path. -/
def realPathOf (p : String) : IO (Except IoError String) := do
  match ← attempt (IO.FS.realPath p) with
  | .ok real => pure (.ok (toString real))
  | .error e => pure (.error e)

/-- What a path leads to, following links: a directory opens but does not read. -/
def statusOf (p : String) : IO (Except IoError FileKind) := do
  match ← realPathOf p with
  | .error e => pure (.error e)
  | .ok real =>
    match ← attempt (do (← IO.FS.Handle.mk real .read).read 1) with
    | .error .isADirectory => pure (.ok .directory)
    | _ => pure (.ok .file)

/-- What a path leads to, not following a link at its end. -/
def linkStatusOf (p : String) : IO (Except IoError FileKind) := do
  match Path.parent? p, Path.fileName? p with
  | some parent, some name =>
    match ← realPathOf (if parent.isEmpty then "." else parent), ← realPathOf p with
    | .ok dir, .ok real =>
      if Path.join dir name != real then pure (.ok .symlink) else statusOf p
    | _, _ => statusOf p
  | _, _ => statusOf p

/-- Whether names differing only in case are different files: a file made in the temporary
directory is looked for under its upper-case name. Any failure counts as yes. -/
def probeCaseSensitive : IO Bool := do
  let dir := (← IO.getEnv "TMPDIR").getD "/tmp"
  let name := "pinguard_probe" ++ toString (← IO.monoNanosNow)
  let path := Path.join dir name
  match ← attempt (IO.FS.writeFile path "") with
  | .error _ => pure true
  | .ok () =>
    let twin ← realPathOf (Path.join dir name.toUpper)
    let _ ← attempt (IO.FS.removeFile path)
    pure twin.toOption.isNone

/-- The operating system's file system. -/
instance : FileSystem IO where
  status := statusOf
  linkStatus := linkStatusOf
  realPath := realPathOf
  listDir _ := pure (.error (.other "listing a directory is not supported"))
  readText p := attempt (IO.FS.readFile p)
  writeText p text := attempt (IO.FS.writeFile p text)
  makeDir p := attempt (IO.FS.createDir p)
  caseSensitive := probeCaseSensitive

/-- The time now. -/
def clock : IO Timestamp := do
  let n := (← Std.Time.Timestamp.now).toNanosecondsSinceUnixEpoch.val
  pure (Timestamp.ofUnix (n / 1000000000) (n % 1000000000).toNat)

/-- The frames every backtrace of the release build ends with, from its entry point down. -/
def entryFrames : List String :=
  ["std::sys::backtrace::__rust_begin_short_backtrace::<fn() -> core::result::Result<(), " ++
      "anyhow::Error>, core::result::Result<(), anyhow::Error>>",
    "std::rt::lang_start::<core::result::Result<(), anyhow::Error>>::\x7bclosure#0\x7d",
    "std::rt::lang_start_internal", "main", "<unknown>", "__libc_start_main", "_start"]

/-- **The backtrace of an error**, as the release build prints it: the frames from where the
error was raised down to the entry point. -/
def backtrace : CommandLine.Origin → List String
  | .io =>
    ["<core::io::error::Error as anyhow::context::ext::StdError>::ext_context::" ++
      "<alloc::string::String>", "pinguard::main"] ++ entryFrames
  | .reportText =>
    ["<serde_json::error::Error as anyhow::context::ext::StdError>::ext_context::<&str>",
      "pinguard_app::report::parse_report_json", "pinguard::main"] ++ entryFrames
  | .reportSchema =>
    ["<anyhow::Error>::msg::<alloc::string::String>", "anyhow::__private::format_err",
      "pinguard_app::report::parse_report_json", "pinguard::main"] ++ entryFrames

end PinAudit.Host

open PinAudit in
/-- Run the tool on the process's arguments. -/
def main (args : List String) : IO UInt32 := do
  let o ← CommandLine.runTool CommandLine.ToolLibraries.tool Host.clock (← IO.getEnv "RUST_LOG")
    Host.backtrace args
  let out ← IO.getStdout
  out.putStr o.stdout
  out.flush
  let err ← IO.getStderr
  err.putStr (o.errorTextAt (← Host.clock))
  err.flush
  pure o.exitCode.toUInt32
