import Reckoner.Expression
import Reckoner.Log

/-!
# Statements

A statement is an expression, or an assignment `name = expression`: the first `=`
makes it one. A statement is first read, then run against a store; running it
changes nothing but yields its effect, which is applied to the store afterwards,
so a statement that fails leaves the store as it is.

Main definitions:
* `Statement.read`: what kind of statement a text is.
* `Statement.run`: the effect of a statement, or the fault it has.
* `Effect.apply`: the store after a statement.
-/
namespace Reckoner

/-- The token that makes a statement an assignment. -/
def assignSign : Token := .symbol '='

inductive Statement where
  | expression (tokens : List Token)
  | assignment (name : String) (right : List Token)
  /-- an assignment to something else than a name -/
  | misassignment (left : String)
  deriving Repr, DecidableEq

/-- What a statement does when it succeeds. -/
inductive Effect where
  /-- it has a value -/
  | value (value : Int)
  /-- it gives a variable a value -/
  | assigned (name : String) (value : Int)
  deriving Repr, DecidableEq

namespace Effect

def apply (store : Store) : Effect → Store
  | value _ => store
  | assigned name v => store.set name v

/-- What the log is told of the effect. -/
def records : Effect → List Log.Record
  | value _ => []
  | assigned name _ => [⟨.info, "📝 Variable " ++ Text.quoted name ++ " assigned"⟩]

/-- The value of an expression, or the value that was assigned. -/
def number : Effect → Int
  | value v => v
  | assigned _ v => v

end Effect

namespace Statement

/-- The text before the first `=`, without blanks around it. -/
def leftText (text : String) : String :=
  String.ofList (Text.trim (text.toList.takeWhile (· != '=')))

def read (text : String) : Statement :=
  let tokens := Token.scan text
  match tokens.dropWhile (· != assignSign) with
  | [] => expression tokens
  | _ :: right =>
    match Token.soleName? (tokens.takeWhile (· != assignSign)) with
    | some name => assignment name right
    | none => misassignment (leftText text)

/-- The value of the right side of an assignment, which is one expression. -/
def rightValue (limits : Limits) (store : Store) (right : List Token) : Except Fault Int :=
  if right.isEmpty || right.contains assignSign then .error (.assignment none)
  else (Token.value limits store right).mapError Fault.onRightSide

def run (limits : Limits) (store : Store) : Statement → Except Fault Effect
  | expression tokens => (Token.value limits store tokens).map .value
  | assignment name right => (rightValue limits store right).map (.assigned name)
  | misassignment left => .error (.identifier left)

/-- The effect of the statement in a text. -/
def execute (limits : Limits) (store : Store) (text : String) : Except Fault Effect :=
  (read text).run limits store

/-- The effect of assigning the value of the expression in `right` to the variable that `left`
names. -/
def assign (limits : Limits) (store : Store) (left right : String) : Except Fault Effect :=
  match Token.soleName? (Token.scan left) with
  | some name => (assignment name (Token.scan right)).run limits store
  | none => .error (.identifier left)

end Statement

end Reckoner
