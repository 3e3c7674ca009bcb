import Reckoner.Proofs.Noninterference

/-!
# Statements that commute

What becomes of a statement depends on the names that it mentions, and it changes no value but
that of the name it assigns to. So two statements, neither of which mentions the name that the other
assigns to, can be executed in either order: each has the same outcome, a fault included, and
the stores at the end are equal.

Main definitions:
* `Statement.target?`: the name that a statement assigns to, if it gets that far.
* `Statement.Independent`: neither statement mentions the target of the other.

Results:
* `Store.set_comm`, `Effect.apply_comm`: effects on different names.
* `Statement.agreeOn_after`: what a statement leaves as it is.
* `Statement.execute_after`: what becomes of the statement after it.
* `Statement.either_order`: both orders as a whole.
-/
namespace Reckoner

open Store (AgreeOn)

theorem Store.set_comm {x y : String} (h : x ≠ y) (s : Store) (v w : Int) :
    (s.set x v).set y w = (s.set y w).set x v := by
  apply ext_get?
  intro name
  by_cases isX : name = x
  · subst isX
    simp [get?_set, h]
  · simp [get?_set, isX]

namespace Effect

/-- The name that an effect assigns to. -/
def target? : Effect → Option String
  | value _ => none
  | assigned name _ => some name

theorem apply_comm {e e' : Effect} (h : ∀ x ∈ e.target?, ∀ y ∈ e'.target?, x ≠ y) (s : Store) :
    e'.apply (e.apply s) = e.apply (e'.apply s) := by
  cases e with
  | value v => rfl
  | assigned x v =>
    cases e' with
    | value w => rfl
    | assigned y w => exact Store.set_comm (h x rfl y rfl) s v w

end Effect

/-- Outcomes can be applied in either order unless they assign to the same name. -/
theorem Action.storeAfter_comm {x y : Except Fault Effect}
    (h : ∀ e e', x = .ok e → y = .ok e' → ∀ n ∈ e.target?, ∀ m ∈ e'.target?, n ≠ m)
    (store : Store) :
    storeAfter (storeAfter store x) y = storeAfter (storeAfter store y) x := by
  cases x with
  | error f => rfl
  | ok e =>
    cases y with
    | error f => rfl
    | ok e' => exact Effect.apply_comm (h e e' rfl rfl) store

namespace Statement

/-! ## What statements leave alone -/

/-- The name that a statement assigns to when its right side has a value. -/
def target? : Statement → Option String
  | assignment name _ => some name
  | expression _ | misassignment _ => none

/-- Neither of two texts mentions the name that the statement in the other assigns to. -/
structure Independent (first second : String) : Prop where
  first_target : ∀ name ∈ (read first).target?, name ∉ Text.mentions second
  second_target : ∀ name ∈ (read second).target?, name ∉ Text.mentions first

theorem Independent.symm {first second : String} (h : Independent first second) :
    Independent second first :=
  ⟨h.second_target, h.first_target⟩

variable {limits : Limits} {store : Store} {first second : String}

theorem target?_of_execute {text : String} {effect : Effect}
    (h : execute limits store text = .ok effect) {name : String} (target : name ∈ effect.target?) :
    name ∈ (read text).target? := by
  unfold execute at h
  cases kind : read text with
  | expression tokens =>
    rw [kind] at h
    obtain ⟨v, -, rfl⟩ := Outcome.map_eq_ok.1 h
    cases target
  | assignment left right =>
    rw [kind] at h
    obtain ⟨v, -, rfl⟩ := Outcome.map_eq_ok.1 h
    exact target
  | misassignment left =>
    rw [kind] at h
    cases h

/-- A statement leaves all names alone but its target. -/
theorem agreeOn_after {names : Set String} {text : String}
    (h : ∀ name ∈ (read text).target?, name ∉ names) (limits : Limits) (store : Store) :
    AgreeOn names ((Action.execute text).after limits store) store := by
  simp only [Action.after]
  cases ran : execute limits store text with
  | error f => exact Set.eqOn_refl _ _
  | ok effect =>
    cases effect with
    | value v => exact Set.eqOn_refl _ _
    | assigned name v =>
      have unmentioned : name ∉ names := h name (target?_of_execute ran rfl)
      exact Store.agreeOn_set_self unmentioned store v

/-- A statement that does not mention the target of the one before it goes as it would without. -/
theorem execute_after (h : Independent first second) (limits : Limits) (store : Store) :
    execute limits ((Action.execute first).after limits store) second =
      execute limits store second :=
  execute_congr (agreeOn_after h.first_target limits store)

theorem targets_ne (h : Independent first second) {effect effect' : Effect}
    (ran : execute limits store first = .ok effect)
    (ran' : execute limits store second = .ok effect') :
    ∀ x ∈ effect.target?, ∀ y ∈ effect'.target?, x ≠ y := by
  intro x target y target' same
  cases effect' with
  | value w => cases target'
  | assigned name w =>
    cases target'
    -- the second statement mentions its own target
    exact h.first_target x (target?_of_execute ran target) (same ▸ mem_mentions_of_execute ran')

/-! ## Both orders -/

/-- Two statements, neither of which mentions the name that the other assigns to, can be executed in
either order: the first has the same outcome after the second as before it, the second the same
after the first as before it, and the stores they leave are equal. -/
theorem either_order (h : Independent first second) (limits : Limits) (store : Store) :
    execute limits ((Action.execute second).after limits store) first =
        execute limits store first ∧
      execute limits ((Action.execute first).after limits store) second =
        execute limits store second ∧
      Action.afterAll limits store [.execute first, .execute second] =
        Action.afterAll limits store [.execute second, .execute first] := by
  have outcome := execute_after h.symm limits store
  have outcome' := execute_after h limits store
  refine ⟨outcome, outcome', ?_⟩
  calc Action.afterAll limits store [.execute first, .execute second]
      = Action.storeAfter (Action.storeAfter store (execute limits store first))
          (execute limits ((Action.execute first).after limits store) second) := rfl
    _ = Action.storeAfter (Action.storeAfter store (execute limits store first))
          (execute limits store second) := by rw [outcome']
    _ = Action.storeAfter (Action.storeAfter store (execute limits store second))
          (execute limits store first) :=
        Action.storeAfter_comm (fun _ _ ran ran' => targets_ne h ran ran') store
    _ = Action.storeAfter (Action.storeAfter store (execute limits store second))
          (execute limits ((Action.execute second).after limits store) first) := by rw [outcome]
    _ = Action.afterAll limits store [.execute second, .execute first] := rfl

/-- Both statements read `b`, and either may assign first. -/
theorem either_order_shared :
    let store := Store.empty.set "b" 3
    let first := "a = b ^ 2"
    let second := " c = 1 - b"
    Independent first second ∧
      execute {} store first = .ok (.assigned "a" 9) ∧
      execute {} ((Action.execute second).after {} store) first = .ok (.assigned "a" 9) ∧
      execute {} store second = .ok (.assigned "c" (-2)) ∧
      execute {} ((Action.execute first).after {} store) second = .ok (.assigned "c" (-2)) ∧
      Action.afterAll {} store [.execute first, .execute second] =
        Action.afterAll {} store [.execute second, .execute first] := by
  intro store first second
  have targets : (read first).target? = some "a" ∧ (read second).target? = some "c" := by
    decide +kernel
  have tokens : .identifier "a" ∉ Token.scan second ∧ .identifier "c" ∉ Token.scan first := by
    decide +kernel
  have independent : Independent first second := by
    refine ⟨fun name target => ?_, fun name target => ?_⟩
    · rw [targets.1] at target
      cases target
      exact tokens.1
    · rw [targets.2] at target
      cases target
      exact tokens.2
  have ran : execute {} store first = .ok (.assigned "a" 9) := by decide +kernel
  have ran' : execute {} store second = .ok (.assigned "c" (-2)) := by decide +kernel
  obtain ⟨outcome, outcome', stores⟩ := either_order independent {} store
  exact ⟨independent, ran, outcome.trans ran, ran', outcome'.trans ran', stores⟩

/-- The order counts where one statement mentions what the other assigns to. -/
example :
    let store := Store.empty.set "b" 3
    Action.afterAll {} store [.execute "a = b", .execute "b = 2"] ≠
      Action.afterAll {} store [.execute "b = 2", .execute "a = b"] := by
  decide +kernel

end Statement

end Reckoner
