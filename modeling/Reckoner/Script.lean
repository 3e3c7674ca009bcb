import Reckoner.Line
import Reckoner.Statement
import Reckoner.Text.LineBreak

/-!
# Scripts

A script is run statement by statement; blank lines and commands are skipped. For
each statement one line of results is written, and a fault does not stop the run
unless it is not caught.

Main definitions:
* `Script.statements`: the statements of a text.
* `Script.Outcome`: what became of a statement, and the line written for it.
* `Script.run`: a whole run.
-/
namespace Reckoner.Script

def statements (content : String) : List String :=
  (Text.lines content).filterMap fun line => (Line.read line).statement?

/-- What became of a statement. -/
inductive Outcome where
  | value (statement : String) (value : Int)
  | assigned (statement : String) (name : String)
  | failed (statement : String) (message : String)
  deriving Repr, DecidableEq

namespace Outcome

def statement : Outcome → String
  | value s _ => s
  | assigned s _ => s
  | failed s _ => s

/-- The line of results, without its line break. -/
def line : Outcome → String
  | value s v => s ++ " = " ++ Decimal.text v
  | assigned s _ => s ++ " -> OK"
  | failed s message => s ++ " -> ERROR: " ++ message

def ofEffect (s : String) : Effect → Outcome
  | .value v => value s v
  | .assigned name _ => assigned s name

end Outcome

structure Step where
  outcome : Outcome
  /-- the store afterwards -/
  store : Store
  /-- what the log is told -/
  log : List Log.Record
  deriving DecidableEq

/-- What the log is told of a statement that fails. -/
def failure (statement : String) (fault : Fault) : Log.Record :=
  ⟨.warning, "❌ Statement failed: " ++ Text.quoted statement ++ ": " ++ fault.message⟩

/-- The step of a statement with the given outcome. -/
def stepOfOutcome (store : Store) (statement : String) : Except Fault Effect → Step
  | .ok effect => ⟨.ofEffect statement effect, effect.apply store, effect.records⟩
  | .error fault => ⟨.failed statement fault.message, store, [failure statement fault]⟩

/-- Run one statement; there is no step if a fault is not caught. -/
def step (limits : Limits) (store : Store) (statement : String) : Except Fault Step :=
  (Fault.caught (Statement.execute limits store statement)).map (stepOfOutcome store statement)

/-- Run statements one after the other. -/
def steps (limits : Limits) (store : Store) : List String → Course Step
  | [] => .ended
  | statement :: rest =>
    match step limits store statement with
    | .error fault => .broken fault
    | .ok s => .cons s (steps limits s.store rest)

def storeAfter (store : Store) (ss : List Step) : Store :=
  match ss.getLast? with
  | some s => s.store
  | none => store

structure Run where
  outcomes : List Outcome
  store : Store
  log : List Log.Record
  /-- the fault that breaks the run off, if one does -/
  escaped : Option Fault
  deriving DecidableEq

def Run.ofSteps (store : Store) (ss : Course Step) : Run :=
  ⟨ss.done.map Step.outcome, storeAfter store ss.done, ss.done.flatMap Step.log, ss.escaped⟩

/-- Run the script in a text. -/
def run (limits : Limits) (store : Store) (content : String) : Run :=
  .ofSteps store (steps limits store (statements content))

/-- The text of the results, one line for each outcome. -/
def Run.text (r : Run) : String := String.join (r.outcomes.map fun o => o.line ++ "\n")

end Reckoner.Script
