import Reckoner.CommandLine

/-!
# The executable

Standard input and output, the environment and the files, around `CommandLine`.
A session is answered line by line as its lines arrive; everything else is the
report of `CommandLine.run`. The log goes to standard error. Archives are not
unpacked here.
-/
namespace Reckoner.Main

/-- Write log records to standard error. -/
def tell (records : List Log.Record) : IO Unit :=
  records.forM fun r => IO.eprintln ("[" ++ r.level.name ++ "] " ++ r.message)

/-- The environment variables that settings are read from. -/
def readEnvironment : IO Settings.Environment :=
  Settings.variableNames.filterMapM fun name => return (← IO.getEnv name).map (name, ·)

/-- The file at a path, as the only file there is; none if it cannot be read. -/
def readFolder (path : Path) : IO Folder := do
  try
    let data ← IO.FS.readBinFile path.text
    return Folder.empty.add path (.file (.bytes data))
  catch _ => return .empty

/-- Answer the lines of standard input until one ends the session or no more come; a fault that is
not caught stops it too. -/
partial def converse (settings : Settings) (store : Store) : IO (Except Fault Store) := do
  let stdout ← IO.getStdout
  stdout.putStr settings.prompt
  stdout.flush
  let input ← (← IO.getStdin).getLine
  if input.isEmpty then return .ok store
  let answers := Session.replies settings.limits store (Text.inputLines input)
  for r in answers.done do
    stdout.putStr (Session.onLines r.printed)
    tell (Log.shown settings.logLevel r.log)
  if let some fault := answers.escaped then return .error fault
  let store := Session.storeAfter store answers.done
  if answers.done.any Session.Reply.ended then return .ok store else converse settings store

def runSession (environment : Settings.Environment) : IO UInt32 := do
  match Settings.ofEnvironment environment with
  | .error vs =>
    IO.eprintln ("Invalid configuration: " ++ Violation.report vs)
    return 1
  | .ok settings =>
    tell (Log.shown settings.logLevel [Session.started])
    match ← converse settings .empty with
    | .error fault =>
      IO.eprintln fault.message
      return 1
    | .ok store =>
      IO.print (Session.onLines [Session.farewell])
      tell (Log.shown settings.logLevel [Session.finished store])
      return 0

def perform (report : CommandLine.Report) : IO UInt32 := do
  tell report.log
  IO.print report.printed
  if let some (path, text) := report.written then
    IO.FS.writeFile path.text text
  if let some failure := report.failure then
    IO.eprintln (failure.message?.getD "The script cannot be run")
  return report.status.toUInt32

end Reckoner.Main

open Reckoner in
def main (arguments : List String) : IO UInt32 := do
  let environment ← Main.readEnvironment
  match Invocation.ofArguments arguments with
  | .session => Main.runSession environment
  | .script text =>
    let folder ← Main.readFolder (Path.ofText text)
    Main.perform (CommandLine.run arguments environment "" folder)
  | .help | .refused => Main.perform (CommandLine.run arguments environment "" .empty)
