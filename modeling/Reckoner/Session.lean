import Reckoner.Line
import Reckoner.Statement

/-!
# Interactive sessions

A session answers one line after the other and carries its store along. It prints
the value of an expression, nothing for an assignment, and the message of a
fault; `/help` prints a help text and `/exit` ends the session. A fault that is not
caught breaks it off without a farewell.

Main definitions:
* `Session.reply`: the answer to one line.
* `Session.replies`: the answers up to the one that ends the session.
* `Session.run`: a session from its first line to its farewell.
-/
namespace Reckoner.Session

structure Reply where
  /-- what is printed, each on a line of its own -/
  printed : List String
  /-- whether the session is over -/
  ended : Bool
  /-- the store afterwards -/
  store : Store
  /-- what the log is told -/
  log : List Log.Record
  deriving DecidableEq

/-- What `/help` prints, line by line. -/
def helpLines : List String :=
  ["This program evaluates expressions containing integers and the plus, minus, times, divide " ++
     "and power operators.",
   "Unary plus and minus are supported, and multiple operators in succession are evaluated " ++
     "correctly",
   "(e.g. \"2 -- 3\" is 5). Parentheses group sub-expressions. Division truncates toward zero.",
   "Variables made of Latin letters can be assigned with \"name = expression\" and used in " ++
     "later expressions.",
   "Commands: /help shows this message, /exit quits."]

def helpText : String := "\n".intercalate helpLines

def unknownCommand : String := "Unknown command"

def farewell : String := "Bye!"

/-! ## One line -/

def replyToCommand (store : Store) (command : String) : Reply :=
  if command = "/exit" then ⟨[], true, store, []⟩
  else if command = "/help" then ⟨[helpText], false, store, []⟩
  else ⟨[unknownCommand], false, store, []⟩

/-- What the log is told of a statement that fails. -/
def failure (statement : String) (fault : Fault) : Log.Record :=
  ⟨.info, "❌ " ++ Text.quoted statement ++ ": " ++ fault.notice.explanation⟩

/-- What is printed for an effect. -/
def printed : Effect → List String
  | .value v => [Decimal.text v]
  | .assigned .. => []

def replyToOutcome (store : Store) (statement : String) : Except Fault Effect → Reply
  | .ok effect => ⟨printed effect, false, effect.apply store, effect.records⟩
  | .error fault => ⟨[fault.message], false, store, [failure statement fault]⟩

def replyToStatement (limits : Limits) (store : Store) (statement : String) :
    Except Fault Reply :=
  (Fault.caught (Statement.execute limits store statement)).map (replyToOutcome store statement)

/-- The answer to a line, or the fault that is not caught. -/
def reply (limits : Limits) (store : Store) (line : String) : Except Fault Reply :=
  match Line.read line with
  | .blank => .ok ⟨[], false, store, []⟩
  | .command text => .ok (replyToCommand store text)
  | .statement text => replyToStatement limits store text

/-! ## Whole sessions -/

/-- The answers to the lines, up to the first one that ends the session or breaks it off. -/
def replies (limits : Limits) (store : Store) : List String → Course Reply
  | [] => .ended
  | line :: rest =>
    match reply limits store line with
    | .error fault => .broken fault
    | .ok r => .cons r (if r.ended then .ended else replies limits r.store rest)

def storeAfter (store : Store) (rs : List Reply) : Store :=
  match rs.getLast? with
  | some r => r.store
  | none => store

structure Transcript where
  printed : List String
  store : Store
  log : List Log.Record
  /-- the fault that breaks the session off, if one does -/
  escaped : Option Fault
  deriving DecidableEq

def started : Log.Record := ⟨.info, "🧮 Session started"⟩

/-- What the log is told at the end. -/
def finished (store : Store) : Log.Record :=
  ⟨.info, "🧮 Session ended with " ++ Decimal.text store.size ++ " variable(s)"⟩

def transcript (store : Store) (answers : Course Reply) : Transcript :=
  let final := storeAfter store answers.done
  { printed := answers.done.flatMap Reply.printed ++
      (if answers.escaped.isNone then [farewell] else [])
    store := final
    log := started :: answers.done.flatMap Reply.log ++
      (if answers.escaped.isNone then [finished final] else [])
    escaped := answers.escaped }

def run (limits : Limits) (store : Store) (lines : List String) : Transcript :=
  transcript store (replies limits store lines)

/-! ## At a terminal -/

def onLines (printed : List String) : String := String.join (printed.map (· ++ "\n"))

/-- What a session with the given answers writes when it asks for each line with a prompt. The
prompt is also written before the end of the input is found, and before the line that breaks the
session off. -/
def screen (prompt : String) (answers : Course Reply) : String :=
  String.join (answers.done.map fun r => prompt ++ onLines r.printed) ++
    (if answers.done.any Reply.ended then "" else prompt) ++
    (if answers.escaped.isNone then onLines [farewell] else "")

end Reckoner.Session
