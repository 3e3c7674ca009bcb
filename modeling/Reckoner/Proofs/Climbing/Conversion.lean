import Reckoner.Proofs.Climbing.Progress
import Reckoner.Proofs.Rpn.Yard

/-!
# The yard climbs

The yard writes the tree that precedence climbing builds, in postorder. What is held
stands for the calls that are suspended: an operator of precedence `p` for one that reads
under the bound `p + 1`, an open parenthesis for one without a bound. A call goes on
exactly if its operator stays held.

Operators of any precedence may still be held when a call returns, signs among them that
bind less tightly than those below. So `HasRead` does not say what is held, but what is
written before the element that comes next: as much as if the tree had been written at once.

Results:
* `HasRead.group`, `HasRead.sign`, `HasRead.binary`: one lemma for each way to build a tree.
* `hasRead_climb`: the yard reads what precedence climbing reads, as the same tree.
* `ofElements_eq_postorder`: reverse Polish notation of a well-formed expression is the
  postorder of that tree.
-/
namespace Reckoner

namespace Climbing

open Outcome Rpn

/-- Nothing on top of what is held is written for a binary operator that the bound admits. -/
def Settled (bound : Option Int) (held : List Held) : Prop :=
  ∀ q, admits bound q = true → ∀ written,
    Yard.release (fun waiting => q ≤ waiting.precedence) written held = ⟨written, held⟩

theorem settled_nil (bound : Option Int) : Settled bound [] := fun _ _ _ => rfl

theorem settled_opening (bound : Option Int) (held : List Held) :
    Settled bound (.opening :: held) := fun _ _ _ => rfl

theorem settled_operator (op : Operator) (held : List Held) :
    Settled (some (op.precedence + 1)) (.operator op :: held) := by
  intro q admitted written
  have above : op.precedence + 1 ≤ q := by simpa [admits] using admitted
  have looser : ¬q ≤ op.precedence := by omega
  rw [Yard.release_operator, if_neg (by simpa using looser)]

/-! ## What is held after a call -/

/-- The operators that are written before the first of some elements, as long as they are on
top. -/
def writtenBefore : List Element → Operator → Bool
  | .operator (.binary _ q) :: _ => fun waiting => q ≤ waiting.precedence
  | _ => fun _ => true

/-- From `start` the yard has read the elements up to `rest` as the tree `t`: nothing that comes
next can tell it from a yard where the tree has been written. -/
def HasRead (start : Yard) (es : List Element) (t : Tree) (rest : List Element) : Prop :=
  ∃ front y, es = front ++ rest ∧ start.read front = .ok y ∧
    Yard.release (writtenBefore rest) y.written y.held =
      Yard.release (writtenBefore rest) (t.postorder.reverse ++ start.written) start.held

/-- An operator is written before anything at which the reading of its right operand stops. -/
theorem writtenBefore_stopped {op : Operator} {rest : List Element}
    (h : Stopped (some (op.precedence + 1)) rest) : writtenBefore rest op = true := by
  unfold writtenBefore
  split
  · rename_i other q after
    have refused := h other q after rfl
    simp only [admits, Option.all_some, decide_eq_false_iff_not] at refused
    simp only [decide_eq_true_eq]
    omega
  · rfl

variable {start : Yard} {es rest : List Element} {t : Tree}

theorem HasRead.group (h : HasRead (start.hold .opening) es t (.closing :: rest)) :
    HasRead start (.opening :: es) t rest := by
  obtain ⟨front, y, rfl, ran, same⟩ := h
  have opened : start.step (some .opening) = .ok (start.hold .opening) := rfl
  have closed : y.step (some .closing) =
      .ok ⟨t.postorder.reverse ++ start.written, start.held⟩ :=
    Yard.step_closing_eq_ok.2 same
  refine ⟨.opening :: front ++ [.closing], ⟨t.postorder.reverse ++ start.written, start.held⟩,
    by simp, ?_, rfl⟩
  rw [List.cons_append, Yard.read_cons, opened, ok_bind, Yard.read_append, ran, ok_bind,
    Yard.read_cons, closed, ok_bind, Yard.read_nil]

theorem HasRead.sign {op : UnaryOp} {p : Int}
    (h : HasRead (start.hold (.operator (.unary op p))) es t rest)
    (stopped : Stopped (some (p + 1)) rest) :
    HasRead start (.operator (.unary op p) :: es) (.unary op p t) rest := by
  obtain ⟨front, y, rfl, ran, same⟩ := h
  have own : writtenBefore rest (.unary op p) = true := writtenBefore_stopped stopped
  have held : start.step (some (.operator (.unary op p))) =
      .ok (start.hold (.operator (.unary op p))) := rfl
  refine ⟨.operator (.unary op p) :: front, y, rfl, ?_, ?_⟩
  · rw [Yard.read_cons, held, ok_bind, ran]
  · rw [same]
    simp [Yard.hold, Yard.release_operator, own, Tree.postorder]

/-- The operator writes all of the left operand and nothing before it. -/
theorem HasRead.operator {bound : Option Int} {op : BinaryOp} {q : Int}
    (h : HasRead start es t (.operator (.binary op q) :: rest))
    (settled : Settled bound start.held) (admitted : admits bound q = true) :
    ∃ front, es = front ++ .operator (.binary op q) :: rest ∧
      start.read (front ++ [.operator (.binary op q)]) =
        .ok ⟨t.postorder.reverse ++ start.written, .operator (.binary op q) :: start.held⟩ := by
  obtain ⟨front, y, eq, ran, same⟩ := h
  have released := same.trans (settled q admitted _)
  refine ⟨front, eq, ?_⟩
  simp only [writtenBefore] at released
  rw [Yard.read_append, ran, ok_bind, Yard.read_cons]
  simp only [Yard.step, released]
  rfl

theorem HasRead.binary {bound : Option Int} {op : BinaryOp} {q : Int} {u : Tree}
    {after : List Element} (left : HasRead start es t (.operator (.binary op q) :: rest))
    (settled : Settled bound start.held) (admitted : admits bound q = true)
    (right : HasRead
      ⟨t.postorder.reverse ++ start.written, .operator (.binary op q) :: start.held⟩ rest u after)
    (stopped : Stopped (some (q + 1)) after) :
    HasRead start es (.binary op q t u) after := by
  obtain ⟨before, rfl, ranLeft⟩ := left.operator settled admitted
  obtain ⟨front, y, rfl, ran, same⟩ := right
  have own : writtenBefore after (.binary op q) = true := writtenBefore_stopped stopped
  refine ⟨before ++ [.operator (.binary op q)] ++ front, y, by simp, ?_, ?_⟩
  · rw [Yard.read_append, ranLeft, ok_bind, ran]
  · rw [same]
    simp [Yard.release_operator, own, Tree.postorder]

/-! ## The yard reads what precedence climbing reads -/

mutual

theorem hasRead_operand {es : List Element} {r : Reading es} (h : operand es = some r)
    (start : Yard) : HasRead start es r.tree r.rest := by
  unfold operand at h
  split at h
  · rename_i v rest
    cases h
    exact ⟨[.number v], start.write (.number v), rfl, rfl, rfl⟩
  · rename_i name rest
    cases h
    exact ⟨[.var name], start.write (.var name), rfl, rfl, rfl⟩
  · rename_i rest
    split at h
    · rename_i t after shorter read
      cases h
      have hasInner := hasRead_climb read (start.hold .opening) (settled_opening none start.held)
      exact hasInner.group
    · cases h
  · rename_i op p rest
    split at h
    · rename_i inner read
      cases h
      have hasInner := hasRead_climb read (start.hold (.operator (.unary op p)))
        (settled_operator (.unary op p) start.held)
      exact hasInner.sign (stopped_climb read)
    · cases h
  · cases h
termination_by 2 * es.length

theorem hasRead_climb {bound : Option Int} {es : List Element} {r : Reading es}
    (h : climb bound es = some r) (start : Yard) (settled : Settled bound start.held) :
    HasRead start es r.tree r.rest := by
  rw [climb] at h
  split at h
  · rename_i left read
    have shorter := left.shorter
    exact hasRead_extend h settled (hasRead_operand read start)
  · cases h
termination_by 2 * es.length + 1

theorem hasRead_extend {bound : Option Int} {es : List Element} {left r : Reading es}
    (h : extend bound left = some r) {start : Yard} (settled : Settled bound start.held)
    (hasLeft : HasRead start es left.tree left.rest) : HasRead start es r.tree r.rest := by
  rw [extend] at h
  split at h
  · rename_i op q rest next
    split at h
    · rename_i admitted
      split at h
      · rename_i right read
        have shorterRest : rest.length < left.rest.length := next ▸ Nat.lt_succ_self _
        have shorter : right.rest.length < left.rest.length :=
          Nat.lt_trans right.shorter shorterRest
        have hasRight := hasRead_climb read
          ⟨left.tree.postorder.reverse ++ start.written, .operator (.binary op q) :: start.held⟩
          (settled_operator (.binary op q) start.held)
        rw [next] at hasLeft
        have hasBoth := hasLeft.binary settled admitted hasRight (stopped_climb read)
        exact hasRead_extend h settled hasBoth
      · cases h
    · cases h
      exact hasLeft
  · cases h
    exact hasLeft
termination_by 2 * left.rest.length

end

theorem ofElements_climb {es : List Element} {r : Reading es} (h : climb none es = some r)
    (all : r.rest = []) : Rpn.ofElements es = .ok r.tree.postorder := by
  obtain ⟨front, y, eq, ran, same⟩ := hasRead_climb h Yard.start (settled_nil none)
  rw [all, List.append_nil] at eq
  rw [all] at same
  refine ofElements_eq_ok.2 ⟨y, eq ▸ ran, Yard.finish_eq_ok.2 ?_⟩
  rw [← List.append_nil r.tree.postorder.reverse]
  exact same

/-- A well-formed expression has reverse Polish notation, whatever the precedences of its
operators: the postorder of the tree that precedence climbing builds of all of it. -/
theorem ofElements_eq_postorder {es : List Element} (h : WellFormed .expression es) :
    ∃ r, climb none es = some r ∧ r.rest = [] ∧ Rpn.ofElements es = .ok r.tree.postorder := by
  obtain ⟨r, read, all⟩ := exists_climb h
  exact ⟨r, read, all, ofElements_climb read all⟩

/-- A sign that binds less tightly than the operators around it takes in the sum after it, but not
the loosest operator. -/
theorem ofElements_eq_postorder_loose_sign :
    let es : List Element :=
      [.var "a", .operator (.binary .mul 5), .operator (.unary .minus 0), .opening, .var "b",
        .operator (.binary .pow (-3)), .number 2, .closing, .operator (.binary .add 2), .number 3,
        .operator (.binary .sub (-1)), .number 4]
    WellFormed .expression es ∧
      (∃ r, climb none es = some r ∧ r.rest = [] ∧ Rpn.ofElements es = .ok r.tree.postorder) ∧
      (climb none es).map Reading.tree =
        some (.binary .sub (-1)
          (.binary .mul 5 (.var "a")
            (.unary .minus 0
              (.binary .add 2 (.binary .pow (-3) (.var "b") (.number 2)) (.number 3))))
          (.number 4)) := by
  have power := WellFormed.binary .pow (-3) (.bare (.var "b")) (.single (.bare (.number 2)))
  have sum := WellFormed.binary .add 2 (.signed .minus 0 (.bare (.group power)))
    (.binary .sub (-1) (.bare (.number 3)) (.single (.bare (.number 4))))
  have all := WellFormed.binary .mul 5 (.bare (.var "a")) sum
  exact ⟨all, ofElements_eq_postorder all, by cbv⟩

end Climbing

end Reckoner
