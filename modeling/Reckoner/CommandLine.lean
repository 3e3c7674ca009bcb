import Reckoner.Arguments
import Reckoner.Script
import Reckoner.ScriptFile
import Reckoner.Session
import Reckoner.Settings

/-!
# The command

The command runs a session on its input, or a script whose results are written to
a file beside it. Everything it depends on is given as values, and everything it
does is in its report.

Main definitions:
* `CommandLine.Report`: what a run of the command does.
* `CommandLine.run`: the run itself.
-/
namespace Reckoner.CommandLine

def usage : String := "usage: smart-calculator [-h] [file_path]\n"

def helpText : String :=
  usage ++ "\n" ++ Session.onLines
    ["Integer calculator with variables",
     "",
     "positional arguments:",
     "  file_path   Path to a file (or archive) of statements to run; interactive",
     "              when omitted",
     "",
     "options:",
     "  -h, --help  show this help message and exit"]

/-- Why a run breaks off. -/
inductive Failure where
  /-- there is no place for the results -/
  | nameless (cause : Path.Nameless)
  | loading (cause : ScriptFile.Failure)
  /-- a folder stands where the results are to be written -/
  | resultsBlocked
  /-- a fault is not caught -/
  | uncaught (fault : Fault)
  deriving Repr, DecidableEq

/-- What is said of a failure, if there are words for it. -/
def Failure.message? : Failure → Option String
  | nameless cause => some cause.message
  | loading cause => cause.message?
  | resultsBlocked => none
  | uncaught fault => some fault.message

/-- What a run does. -/
structure Report where
  /-- the exit status -/
  status : Nat
  /-- what is written to standard output -/
  printed : String
  /-- the file that is written, and its text -/
  written : Option (Path × String)
  /-- what the log is told, whatever its level -/
  log : List Log.Record
  /-- why the run breaks off -/
  failure : Option Failure
  deriving DecidableEq

namespace Report

def ending (status : Nat) (printed : String) : Report := ⟨status, printed, none, [], none⟩

def broken (printed : String) (log : List Log.Record) (failure : Failure) : Report :=
  ⟨1, printed, none, log, some failure⟩

def filesAfter (r : Report) (folder : Folder) : Folder :=
  match r.written with
  | some (p, text) => folder.put p (.file (.bytes text.toUTF8))
  | none => folder

/-- The file that the run creates or changes, and its text; a file that held the same text before
is not changed. -/
def changed (r : Report) (folder : Folder) : Option (Path × String) :=
  r.written.filter fun (p, text) =>
    folder.entryAt p != some (.file (.bytes text.toUTF8))

end Report

/-- The exit status, by the fault that breaks off a run. -/
def statusAfter (escaped : Option Fault) : Nat := if escaped.isNone then 0 else 1

/-! ## Scripts -/

/-- What is printed when the script is a member of an archive. -/
def memberNote (l : ScriptFile.Loaded) : List String :=
  match l.member with
  | some name => ["Statements read from " ++ name ++ " in " ++ l.source.name]
  | none => []

def writingNote (p : Path) : Log.Record := ⟨.info, "📄 Writing results to " ++ p.text⟩

def writtenNote (p : Path) : String := "Results written to " ++ p.text

/-- Run a script that has been loaded, and write its results to `target`. -/
def runLoaded (limits : Limits) (folder : Folder) (log : List Log.Record)
    (script : ScriptFile.Loaded) (target : Path) : Report :=
  let log := log ++ [writingNote target]
  match folder.locate target with
  | none => .broken (Session.onLines (memberNote script)) log .resultsBlocked
  | some place =>
    if folder.entryAt place = some .folder then
      .broken (Session.onLines (memberNote script)) log .resultsBlocked
    else
      let run := Script.run limits .empty script.content
      let note := if run.escaped.isNone then [writtenNote target] else []
      { status := statusAfter run.escaped
        printed := Session.onLines (memberNote script ++ note)
        written := some (place, run.text)
        log := log ++ run.log
        failure := run.escaped.map .uncaught }

def runScript (limits : Limits) (folder : Folder) (p : Path) : Report :=
  match resultsPath p, ScriptFile.locate folder p with
  | .error cause, _ => .broken "" [] (.nameless cause)
  | .ok _, .error cause => .broken "" [] (.loading cause)
  | .ok target, .ok located =>
    match located.decode with
    | .error cause => .broken "" located.records (.loading cause)
    | .ok script => runLoaded limits folder located.records script target

/-! ## Sessions -/

def runSession (settings : Settings) (input : String) : Report :=
  let answers := Session.replies settings.limits .empty (Text.inputLines input)
  { status := statusAfter answers.escaped
    printed := Session.screen settings.prompt answers
    written := none
    log := (Session.transcript .empty answers).log
    failure := answers.escaped.map .uncaught }

/-! ## The command -/

/-- The report with the records that a log set to `level` shows. -/
def shownAt (level : Log.Level) (r : Report) : Report := { r with log := Log.shown level r.log }

/-- Run the command once its arguments are understood; `none` stands for a session. -/
def runWith (environment : Settings.Environment) (input : String) (folder : Folder)
    (script : Option Path) : Report :=
  match Settings.ofEnvironment environment with
  | .error _ => .ending 1 ""
  | .ok settings =>
    shownAt settings.logLevel <|
      match script with
      | none => runSession settings input
      | some p => runScript settings.limits folder p

def run (arguments : List String) (environment : Settings.Environment) (input : String)
    (folder : Folder) : Report :=
  match Invocation.ofArguments arguments with
  | .help => .ending 0 helpText
  | .refused => .ending 2 ""
  | .session => runWith environment input folder none
  | .script text =>
    let p := Path.ofText text
    if (folder.file? p).isNone then .ending 2 "" else runWith environment input folder (some p)

end Reckoner.CommandLine
