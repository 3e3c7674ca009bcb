import Reckoner.Limits
import Reckoner.Log
import Reckoner.Numeral

/-!
# Settings

Settings come from environment variables; one that is not set leaves its default.
All fields that are not as they must be are reported together.

Main definitions:
* `Limits.ofIntegers`: limits from integers.
* `Settings.ofEnvironment`: settings from environment variables.
-/
namespace Reckoner

/-- What a run can be told beforehand. -/
structure Settings where
  limits : Limits := {}
  logLevel : Log.Level := .warning
  prompt : String := ""
  deriving Repr, DecidableEq

namespace Limits

/-- Whether a number is a limit of exponents. -/
def checkExponent (z : Int) : Except Violation Nat :=
  if z < 0 then .error ⟨"max_exponent", .minimum⟩ else .ok z.toNat

/-- Whether a number is a limit of sizes. -/
def checkBits (z : Int) : Except Violation { n : Nat // 0 < n } :=
  if h : z < 1 then .error ⟨"max_result_bits", .minimum⟩ else .ok ⟨z.toNat, by omega⟩

def combine (exponent : Except Violation Nat) (bits : Except Violation { n : Nat // 0 < n }) :
    Except (List Violation) Limits :=
  match exponent, bits with
  | .ok e, .ok b => .ok ⟨e, b.val, b.property⟩
  | .error e, .error b => .error [e, b]
  | .error e, .ok _ => .error [e]
  | .ok _, .error b => .error [b]

def ofIntegers (exponent bits : Int) : Except (List Violation) Limits :=
  combine (checkExponent exponent) (checkBits bits)

end Limits

namespace Settings

abbrev Environment := List (String × String)

def variableName (setting : String) : String := "SMART_CALCULATOR_" ++ setting

/-- The names of all variables that settings are read from. -/
def variableNames : List String :=
  ["MAX_EXPONENT", "MAX_RESULT_BITS", "LOG_LEVEL", "PROMPT"].map variableName

/-- The value of the variable for a setting. -/
def variableFor (environment : Environment) (setting : String) : Option String :=
  environment.lookup (variableName setting)

/-- The integer in a variable, if it is set. -/
def integerFor (environment : Environment) (setting field : String) (default : Int) :
    Except Violation Int :=
  match variableFor environment setting with
  | none => .ok default
  | some text => (Numeral.read text).mapError (⟨field, ·⟩)

/-- The levels that a setting can name, exactly as written. -/
def logLevels : List Log.Level := [.debug, .info, .warning, .error, .critical]

def logLevelFor (environment : Environment) (default : Log.Level) : Except Violation Log.Level :=
  match variableFor environment "LOG_LEVEL" with
  | none => .ok default
  | some text =>
    match logLevels.find? (·.name == text) with
    | some level => .ok level
    | none => .error ⟨"log_level", .listed⟩

/-- The settings in the environment, or all violations in the order of the fields. -/
def ofEnvironment (environment : Environment) : Except (List Violation) Settings :=
  let default : Settings := {}
  let exponent :=
    integerFor environment "MAX_EXPONENT" "max_exponent" default.limits.maxExponent
      >>= Limits.checkExponent
  let bits :=
    integerFor environment "MAX_RESULT_BITS" "max_result_bits" default.limits.maxResultBits
      >>= Limits.checkBits
  let prompt := (variableFor environment "PROMPT").getD default.prompt
  match Limits.combine exponent bits, logLevelFor environment default.logLevel with
  | .ok limits, .ok level => .ok ⟨limits, level, prompt⟩
  | .error vs, .ok _ => .error vs
  | .ok _, .error v => .error [v]
  | .error vs, .error v => .error (vs ++ [v])

end Settings

end Reckoner
