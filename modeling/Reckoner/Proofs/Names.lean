import Reckoner.Proofs.History
import Reckoner.Proofs.ReadBack

/-!
# Names in stores

A name comes into a store only by an assignment, and an assignment takes it from the one token
on its left side, whatever blanks were around it. So if the names of a store are runs of letters,
they stay so through all that can be done with it; and a run of letters is read as the name that
it is, by an expression and on the left of an assignment alike.

Results:
* `Action.readable_after`, `readable_afterAll`: an action keeps names readable, and so do all.
* `Reached.readable`: so does any sequence of actions, sessions and scripts.
* `Store.names_set`: a name that has a value is no new name when it is set.
* `Store.reached_names`: all names in a store that is reached are readable.
-/
namespace Reckoner

open Outcome

namespace Store

theorem mem_names_iff {s : Store} {name : String} :
    name ∈ s.names ↔ ∃ v, s.get? name = some v := by
  rw [get?, ← Option.isSome_iff_exists, List.lookup_isSome_iff, names, List.mem_map]
  constructor
  · rintro ⟨e, mem, rfl⟩
    exact ⟨e, mem, beq_self_eq_true _⟩
  · rintro ⟨e, mem, same⟩
    exact ⟨e, mem, (beq_iff_eq.1 same).symm⟩

theorem names_nodup (s : Store) : s.names.Nodup := by
  refine List.pairwise_map.2 (s.ascending.imp ?_)
  intro e e' lt same
  rw [same] at lt
  exact String.lt_irrefl _ lt

theorem names_place {name : String} {entries : List (String × Int)}
    (ascending : entries.Pairwise (·.1 < ·.1)) (h : name ∈ entries.map Prod.fst) (v : Int) :
    (place name v entries).map Prod.fst = entries.map Prod.fst := by
  induction entries with
  | nil => cases h
  | cons head rest ih =>
    obtain ⟨n, w⟩ := head
    obtain ⟨first, others⟩ := List.pairwise_cons.1 ascending
    rw [place]
    split
    · rename_i lt
      -- below the first name there is none
      rcases List.mem_cons.1 h with same | mem
      · obtain rfl : name = n := same
        exact absurd lt (String.lt_irrefl name)
      · obtain ⟨e, inRest, rfl⟩ := List.mem_map.1 mem
        exact absurd (String.lt_trans lt (first e inRest)) (String.lt_irrefl e.1)
    · split
      · rename_i same
        rw [List.map_cons, List.map_cons, same]
      · rename_i other
        rcases List.mem_cons.1 h with same | mem
        · exact absurd same other
        · rw [List.map_cons, List.map_cons, ih others mem]

/-- A name that has a value is no new name when it is set. -/
theorem names_set {s : Store} {name : String} (h : name ∈ s.names) (v : Int) :
    (s.set name v).names = s.names :=
  names_place s.ascending h v

/-! ## Readable names -/

/-- Whether every name is a run of letters. -/
def Readable (s : Store) : Prop := ∀ name ∈ s.names, Text.isName name = true

theorem readable_empty : Readable .empty := fun _ mem => by cases mem

theorem Readable.set {s : Store} (h : s.Readable) {name : String}
    (letters : Text.isName name = true) (v : Int) : (s.set name v).Readable := by
  intro n mem
  obtain ⟨e, placed, rfl⟩ := List.mem_map.1 mem
  rcases fst_of_mem_place placed with same | old
  · rw [same]
    exact letters
  · exact h e.1 (List.mem_map_of_mem old)

end Store

namespace Action

variable {limits : Limits} {store : Store}

theorem readable_after (h : store.Readable) (limits : Limits) (action : Action) :
    (action.after limits store).Readable := by
  cases assigned : action.assigned? limits store with
  | none =>
    rw [after_of_not_assigned assigned]
    exact h
  | some binding =>
    obtain ⟨left, right, -, one, -⟩ := value_of_assigned assigned
    have token : .identifier binding.1 ∈ Token.scan left := by
      rw [Token.scan_of_soleName one]
      exact List.mem_singleton_self _
    rw [after_of_assigned assigned]
    exact h.set (Token.isName_of_mem_scan token) _

theorem readable_afterAll (h : store.Readable) (limits : Limits) (actions : List Action) :
    (afterAll limits store actions).Readable := by
  induction actions generalizing store with
  | nil => exact h
  | cons action rest ih => exact ih (readable_after h limits action)

end Action

/-! ## Stores that are reached -/

/-- The stores that are reached from `start` by actions, sessions and scripts, under any limits. -/
inductive Reached (start : Store) : Store → Prop where
  | start : Reached start start
  | action {s : Store} (before : Reached start s) (limits : Limits) (action : Action) :
    Reached start (action.after limits s)
  | session {s : Store} (before : Reached start s) (limits : Limits) (lines : List String) :
    Reached start (Session.run limits s lines).store
  | script {s : Store} (before : Reached start s) (limits : Limits) (content : String) :
    Reached start (Script.run limits s content).store

theorem Reached.readable {start s : Store} (h : Reached start s) (readable : start.Readable) :
    s.Readable := by
  induction h with
  | start => exact readable
  | action before limits action ih => exact Action.readable_after ih limits action
  | session before limits lines ih =>
    rw [Session.store_run]
    exact Action.readable_afterAll ih limits _
  | script before limits content ih =>
    rw [Script.store_run]
    exact Action.readable_afterAll ih limits _

namespace Statement

variable {limits : Limits} {store : Store} {name right : String}

/-- What is assigned to a name is assigned to that name. -/
theorem assigned_of_execute (h : Text.isName name = true) {effect : Effect}
    (ran : execute limits store (name ++ "=" ++ right) = .ok effect) :
    ∃ v, effect = .assigned name v ∧ Expression.value limits store right = .ok v := by
  rw [execute_eq_ok (notMem_of_scan (Token.scan_name h))] at ran
  obtain ⟨target, v, one, rfl⟩ := assign_eq_ok ran
  rw [Token.scan_name h] at one
  cases one
  exact ⟨v, rfl, (value_of_assign ran).2⟩

/-- The name on the left is never at fault. -/
theorem kind_of_execute (h : Text.isName name = true) {f : Fault}
    (refused : execute limits store (name ++ "=" ++ right) = .error f) : f.kind ≠ .identifier := by
  have target : Token.soleName? (Token.scan name) = some name := by
    rw [Token.scan_name h]
    rfl
  simp only [execute, read_assignment (notMem_of_scan (Token.scan_name h)), target, run] at refused
  exact kind_rightValue (map_eq_error.1 refused)

end Statement

/-- Starting from a store whose names are runs of letters, all names are, whatever is executed,
assigned, answered or run. So every name is an expression with the value that it has. And every
name can be assigned to: the statement that does so gives the value of its right side to this name,
changes no other and adds none, or has a fault of its right side. -/
theorem Store.reached_names {start s : Store} (h : Reached start s) (readable : start.Readable) :
    (∀ name ∈ s.names, Text.isName name = true) ∧
    ∀ (limits : Limits) (name : String) (v : Int), s.get? name = some v →
      Expression.value limits s name = .ok v ∧
      ∀ right : String,
        (∀ w, Expression.value limits s right = .ok w →
          Statement.execute limits s (name ++ "=" ++ right) = .ok (.assigned name w)) ∧
        (∀ effect, Statement.execute limits s (name ++ "=" ++ right) = .ok effect →
          ∃ w, effect = .assigned name w ∧ Expression.value limits s right = .ok w ∧
            (effect.apply s).names = s.names ∧ (effect.apply s).get? name = some w ∧
            ∀ other ≠ name, (effect.apply s).get? other = s.get? other) ∧
        (∀ f, Statement.execute limits s (name ++ "=" ++ right) = .error f →
          f.kind ≠ .identifier) := by
  have letters := h.readable readable
  refine ⟨letters, fun limits name v bound => ?_⟩
  have known : name ∈ s.names := mem_names_iff.2 ⟨v, bound⟩
  have own := letters name known
  refine ⟨Expression.value_name own bound limits, fun right => ⟨fun w valued => ?_, ?_, ?_⟩⟩
  · exact Statement.execute_of_value (Token.scan_name own) valued
  · intro effect ran
    obtain ⟨w, rfl, valued⟩ := Statement.assigned_of_execute own ran
    exact ⟨w, rfl, valued, names_set known w, get?_set_self s name w,
      fun other ne => get?_set_of_ne s w ne⟩
  · exact fun f => Statement.kind_of_execute own

/-- Blanks around a name do not get into the store, and what is no name does not either. -/
theorem Store.reached_names_session :
    let assigned := Action.after {} .empty (.assign "\t k " "2 + 3")
    let s := (Session.run {} assigned ["ab = k - 8", "k2 = 1", "k = k * 2"]).store
    Reached .empty s ∧ Readable .empty ∧ s.names = ["ab", "k"] ∧ s.get? "ab" = some (-3) ∧
      Expression.value {} s "ab" = .ok (-3) := by
  intro assigned s
  have reached : Reached .empty s := .session (.action .start {} (.assign "\t k " "2 + 3")) {} _
  have bound : s.get? "ab" = some (-3) := by decide +kernel
  have names := Store.reached_names reached readable_empty
  exact ⟨reached, readable_empty, by decide +kernel, bound, (names.2 {} "ab" (-3) bound).1⟩

end Reckoner
