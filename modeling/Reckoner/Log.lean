import Reckoner.Text.Quoted
import Reckoner.Text.UpperCase

/-!
# Log records

What happens is told in log records. A record has a level, and a log shows the
records that reach its threshold. Records are values: nothing that computes them
depends on the threshold.
-/
namespace Reckoner.Log

/-- How much a record matters. -/
inductive Level where
  | unset
  | debug
  | info
  | warning
  | error
  | critical
  deriving Repr, DecidableEq

namespace Level

def severity : Level → Nat
  | unset => 0
  | debug => 10
  | info => 20
  | warning => 30
  | error => 40
  | critical => 50

def name : Level → String
  | unset => "NOTSET"
  | debug => "DEBUG"
  | info => "INFO"
  | warning => "WARNING"
  | error => "ERROR"
  | critical => "CRITICAL"

def all : List Level := [unset, debug, info, warning, error, critical]

def aliases : List (String × Level) := [("WARN", warning), ("FATAL", critical)]

/-- The level of a name in upper case. -/
def ofName? (name : String) : Option Level :=
  (all.map (fun level => (level.name, level)) ++ aliases).lookup name

/-- The threshold that a log set to a level has; an unset one is that of warnings. -/
def threshold : Level → Level
  | unset => warning
  | level => level

end Level

/-- A name that no level has, in upper case. -/
structure UnknownLevel where
  name : String
  deriving Repr, DecidableEq

def UnknownLevel.message (u : UnknownLevel) : String := "Unknown level: " ++ Text.quoted u.name

/-- The level of a name in any case. -/
def Level.named (name : String) : Except UnknownLevel Level :=
  let upper := Text.upperCase name
  match Level.ofName? upper with
  | some level => .ok level
  | none => .error ⟨upper⟩

structure Record where
  level : Level
  message : String
  deriving Repr, DecidableEq

/-- The records that a log set to `level` shows. -/
def shown (level : Level) (records : List Record) : List Record :=
  records.filter fun r => level.threshold.severity ≤ r.level.severity

end Reckoner.Log
