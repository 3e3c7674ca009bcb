import Reckoner.Proofs.SessionScript

/-!
# Scripts one after the other

Two scripts that are joined by a line break run like the first, and then the second in the store
that the first leaves, unless the first is broken off. The joined text need not have the lines of
the two: a `\r` at the end of the first is one break with the `\n` after it, and a `\n` after any
other break has an empty line before it. But an empty line is no statement, so the statements are
those of the two.

Results:
* `statements_newline`: joining scripts joins their statements.
* `steps_append`: statements run one after the other, until a fault is not caught.
* `run_newline`: so do scripts.
-/
namespace Reckoner

/-- First `c` and then `d`, if nothing breaks off `c`. -/
def Course.andThen {α : Type} (c d : Course α) : Course α :=
  if c.escaped.isNone then ⟨c.done ++ d.done, d.escaped⟩ else c

theorem Course.andThen_of_escaped {α : Type} {c : Course α} (h : c.escaped ≠ none)
    (d : Course α) : c.andThen d = c := by
  rw [andThen, if_neg (by simpa using h)]

theorem Course.andThen_of_whole {α : Type} {c : Course α} (h : c.escaped = none)
    (d : Course α) : c.andThen d = ⟨c.done ++ d.done, d.escaped⟩ := by
  rw [andThen, if_pos (by simpa using h)]

theorem Course.cons_andThen {α : Type} (a : α) (c d : Course α) :
    (cons a c).andThen d = cons a (c.andThen d) := by
  by_cases whole : c.escaped = none
  · rw [andThen_of_whole whole, andThen_of_whole (c := cons a c) whole]
    rfl
  · rw [andThen_of_escaped whole, andThen_of_escaped (c := cons a c) whole]

namespace Script

theorem statements_newline (first second : String) :
    statements (first ++ "\n" ++ second) = statements first ++ statements second := by
  have skipped : Session.statementsIn [""] = [] := rfl
  have inLines (content : String) :
      statements content = Session.statementsIn (Text.lines content) := rfl
  simp only [inLines]
  rcases Text.lines_newline first second with same | same
  · rw [same, Session.statementsIn_append]
  · rw [same, List.append_cons, Session.statementsIn_append, Session.statementsIn_append, skipped,
      List.append_nil]

/-! ## Running -/

theorem storeAfter_append (store : Store) (ss more : List Step) :
    storeAfter store (ss ++ more) = storeAfter (storeAfter store ss) more := by
  induction ss generalizing store with
  | nil => rfl
  | cons s ss ih => rw [List.cons_append, storeAfter_cons, storeAfter_cons, ih]

theorem steps_append (limits : Limits) (store : Store) (first second : List String) :
    steps limits store (first ++ second) =
      (steps limits store first).andThen
        (steps limits (storeAfter store (steps limits store first).done) second) := by
  induction first generalizing store with
  | nil => rfl
  | cons statement rest ih =>
    cases ran : step limits store statement with
    | error f =>
      rw [List.cons_append, steps_cons_error ran, steps_cons_error ran]
      rfl
    | ok s =>
      rw [List.cons_append, steps_cons ran, steps_cons ran, ih, Course.cons_andThen,
        Course.done_cons, storeAfter_cons]

/-- Two scripts joined by a line break write the results of the first, and then those of the
second in the store that the first leaves; so they do with all outcomes and log records, and what
store is left. That holds whatever breaks the two begin or end with, but only where the first is
not broken off: if it is, nothing of the second is run. Under limits that are short it is not. -/
theorem run_newline (limits : Limits) (store : Store) (first second : String) :
    let former := run limits store first
    let latter := run limits former.store second
    let whole := run limits store (first ++ "\n" ++ second)
    (former.escaped = none →
      whole.text = former.text ++ latter.text ∧
        whole.outcomes = former.outcomes ++ latter.outcomes ∧
        whole.log = former.log ++ latter.log ∧
        whole.store = latter.store ∧ whole.escaped = latter.escaped) ∧
      (former.escaped ≠ none → whole = former) ∧
      (limits.Short → former.escaped = none) := by
  intro former latter whole
  have ran : whole = .ofSteps store
      ((steps limits store (statements first)).andThen
        (steps limits former.store (statements second))) := by
    show Run.ofSteps store (steps limits store (statements (first ++ "\n" ++ second))) = _
    rw [statements_newline, steps_append, ← run_store]
  refine ⟨fun goesOn => ?_, fun broken => ?_, fun short => escaped_steps short store _⟩
  · rw [Course.andThen_of_whole goesOn] at ran
    have outcomes : whole.outcomes = former.outcomes ++ latter.outcomes :=
      (congrArg Run.outcomes ran).trans List.map_append
    refine ⟨?_, outcomes, (congrArg Run.log ran).trans List.flatMap_append, ?_,
      (congrArg Run.escaped ran).trans rfl⟩
    · rw [Run.text, outcomes, List.map_append, String.join_append]
      rfl
    · exact (congrArg Run.store ran).trans (storeAfter_append store _ _)
  · rw [Course.andThen_of_escaped broken] at ran
    exact ran

/-- The `\r` and the `\n` after it are one break. -/
example : (run {} .empty ("a = 2\r" ++ "\n" ++ "a * 3")).text = "a = 2 -> OK\na * 3 = 6\n" := by
  decide +kernel

/-- Nothing is left of the second script where a limit with one digit too many breaks off the
first. -/
theorem run_newline_broken :
    let limits : Limits := ⟨10 ^ 4300, 1000000, by decide⟩
    let store := Store.empty.set "b" (10 ^ 4300 + 1)
    let former := run limits store "1 ^ b"
    let latter := run limits former.store "2"
    (run limits store ("1 ^ b" ++ "\n" ++ "2")).text = "" ∧
      former.text ++ latter.text = "2 = 2\n" := by
  decide +kernel

end Script

end Reckoner
