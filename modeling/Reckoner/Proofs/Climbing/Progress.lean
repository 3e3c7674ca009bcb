import Reckoner.Proofs.Climbing.Parser

/-!
# Precedence climbing reads all of an expression

A well-formed expression has operands, with any signs before them, and binary operators
between them. Where a call of precedence climbing stops within it, a binary operator comes
next, so the call that waits for it can go on.

Results:
* `exists_operand`, `exists_extend`: no call fails on a part of a well-formed expression.
* `exists_climb`: without a bound, all of it is read.
-/
namespace Reckoner

namespace Climbing

/-- The parts of an expression in infix order. -/
inductive Part where
  | primary
  | operand
  | expression
  deriving Repr, DecidableEq

/-- The elements form such a part, whatever precedences their operators have: a primary is a
number, a variable, or an expression in parentheses; an operand is a primary with any signs
before it; an expression is operands with binary operators between them. -/
inductive WellFormed : Part → List Element → Prop where
  | number (value : Int) : WellFormed .primary [.number value]
  | var (name : String) : WellFormed .primary [.var name]
  | group {es : List Element} (inner : WellFormed .expression es) :
    WellFormed .primary (.opening :: es ++ [.closing])
  | bare {es : List Element} (primary : WellFormed .primary es) : WellFormed .operand es
  | signed (op : UnaryOp) (p : Int) {es : List Element} (operand : WellFormed .operand es) :
    WellFormed .operand (.operator (.unary op p) :: es)
  | single {es : List Element} (operand : WellFormed .operand es) : WellFormed .expression es
  | binary (op : BinaryOp) (q : Int) {es fs : List Element} (left : WellFormed .operand es)
    (right : WellFormed .expression fs) :
    WellFormed .expression (es ++ .operator (.binary op q) :: fs)

/-- What may follow an operand within an expression: nothing, or a binary operator and an
expression. -/
def IsTail (es : List Element) : Prop :=
  es = [] ∨ ∃ op q fs, es = .operator (.binary op q) :: fs ∧ WellFormed .expression fs

theorem WellFormed.append_tail {es tail : List Element} (h : WellFormed .operand es)
    (isTail : IsTail tail) : WellFormed .expression (es ++ tail) := by
  rcases isTail with rfl | ⟨op, q, fs, rfl, right⟩
  · rw [List.append_nil]
    exact .single h
  · exact .binary op q h right

theorem WellFormed.exists_tail {es : List Element} (h : WellFormed .expression es) :
    ∃ first tail, es = first ++ tail ∧ WellFormed .operand first ∧ IsTail tail := by
  cases h with
  | single operand => exact ⟨es, [], (List.append_nil es).symm, operand, .inl rfl⟩
  | binary op q left right => exact ⟨_, _, rfl, left, .inr ⟨op, q, _, rfl, right⟩⟩

theorem IsTail.eq_nil {tail after : List Element} (h : IsTail tail)
    (stopped : Stopped none (tail ++ after)) : tail = [] := by
  rcases h with rfl | ⟨op, q, fs, rfl, -⟩
  · rfl
  · cases stopped op q _ rfl

/-! ## Precedence climbing gets on -/

/-- What is left is a tail shorter than `n`, and `after`. -/
def LeavesTail (n : Nat) (after rest : List Element) : Prop :=
  ∃ tail, IsTail tail ∧ tail.length < n ∧ rest = tail ++ after

/-- Whatever comes after the elements, save a binary operator, they are read up to a tail. -/
def Progresses (es : List Element) : Prop :=
  ∀ bound after, Stopped none after →
    ∃ r, climb bound (es ++ after) = some r ∧ LeavesTail es.length after r.rest

theorem LeavesTail.mono {m n : Nat} {after rest : List Element} (h : LeavesTail m after rest)
    (le : m ≤ n) : LeavesTail n after rest := by
  obtain ⟨tail, isTail, less, eq⟩ := h
  exact ⟨tail, isTail, Nat.lt_of_lt_of_le less le, eq⟩

theorem LeavesTail.eq_after {n : Nat} {after rest : List Element} (h : LeavesTail n after rest)
    (stopped : Stopped none rest) : rest = after := by
  obtain ⟨tail, isTail, -, rfl⟩ := h
  rw [isTail.eq_nil stopped, List.nil_append]

theorem exists_extend {tail after : List Element} (isTail : IsTail tail)
    (outside : Stopped none after)
    (progress : ∀ fs, WellFormed .expression fs → fs.length < tail.length → Progresses fs)
    (bound : Option Int) {es : List Element} (left : Reading es)
    (rest : left.rest = tail ++ after) :
    ∃ r, extend bound left = some r ∧ LeavesTail (tail.length + 1) after r.rest := by
  have unread : LeavesTail (tail.length + 1) after left.rest :=
    ⟨tail, isTail, Nat.lt_succ_self _, rest⟩
  rw [extend]
  split
  · rename_i op q fs next
    rcases isTail with rfl | ⟨op', q', right, rfl, wellFormed⟩
    · cases outside op q fs (rest.symm.trans next)
    · obtain ⟨⟨rfl, rfl⟩, rfl⟩ : (op' = op ∧ q' = q) ∧ right ++ after = fs := by
        simpa using rest.symm.trans next
      split
      · obtain ⟨r, read, later, isLater, less, eq⟩ :=
          progress right wellFormed (Nat.lt_succ_self _) (some (q' + 1)) after outside
        have less' : later.length < (Element.operator (.binary op' q') :: right).length :=
          Nat.lt_succ_of_lt less
        obtain ⟨last, extended, leaves⟩ := exists_extend isLater outside
          (fun fs wellFormed less => progress fs wellFormed (Nat.lt_trans less less')) bound
          ⟨.binary op' q' left.tree r.tree, r.rest, _⟩ eq
        simp only [read]
        exact ⟨last, extended, leaves.mono (Nat.succ_le_succ (Nat.le_of_lt less'))⟩
      · exact ⟨left, rfl, unread⟩
  · exact ⟨left, rfl, unread⟩
termination_by tail.length

theorem exists_operand {es tail after : List Element} (h : WellFormed .operand es)
    (isTail : IsTail tail) (outside : Stopped none after)
    (progress : ∀ fs, WellFormed .expression fs → fs.length < (es ++ tail).length →
      Progresses fs) :
    ∃ r, operand (es ++ tail ++ after) = some r ∧
      LeavesTail (es ++ tail).length after r.rest := by
  cases h with
  | bare primary =>
    cases primary with
    | number v =>
      have read : operand (.number v :: (tail ++ after)) =
          some ⟨.number v, tail ++ after, Nat.lt_succ_self _⟩ := by rw [operand]
      exact ⟨_, read, tail, isTail, Nat.lt_succ_self _, rfl⟩
    | var name =>
      have read : operand (.var name :: (tail ++ after)) =
          some ⟨.var name, tail ++ after, Nat.lt_succ_self _⟩ := by rw [operand]
      exact ⟨_, read, tail, isTail, Nat.lt_succ_self _, rfl⟩
    | group inner =>
      rename_i fs
      have length : (Element.opening :: fs ++ [Element.closing] ++ tail).length =
          fs.length + tail.length + 2 := by
        simp only [List.length_append, List.length_cons, List.length_nil]
        omega
      have closing : Stopped none (.closing :: (tail ++ after)) := by
        rintro op q rest ⟨⟩
      obtain ⟨⟨t, rest, shorter⟩, read, leaves⟩ :=
        progress fs inner (by omega) none _ closing
      obtain rfl := leaves.eq_after (stopped_climb read)
      have grouped : .opening :: fs ++ [.closing] ++ tail ++ after =
          .opening :: (fs ++ .closing :: (tail ++ after)) := by simp
      rw [grouped, operand, read]
      exact ⟨_, rfl, tail, isTail, by omega, rfl⟩
  | signed op p operand =>
    rename_i fs
    have wellFormed := operand.append_tail isTail
    obtain ⟨inner, read, leaves⟩ := progress _ wellFormed (Nat.lt_succ_self _) (some (p + 1)) after
      outside
    rw [List.cons_append, List.cons_append, Climbing.operand, read]
    exact ⟨_, rfl, leaves.mono (Nat.le_succ _)⟩

theorem progresses {es : List Element} (h : WellFormed .expression es) : Progresses es := by
  intro bound after outside
  obtain ⟨first, tail, rfl, wellFormed, isTail⟩ := h.exists_tail
  have progress : ∀ fs, WellFormed .expression fs → fs.length < (first ++ tail).length →
      Progresses fs :=
    fun fs wellFormed less => progresses wellFormed
  obtain ⟨left, read, later, isLater, less, eq⟩ :=
    exists_operand wellFormed isTail outside progress
  obtain ⟨r, extended, leaves⟩ := exists_extend isLater outside
    (fun fs wellFormed less' => progress fs wellFormed (Nat.lt_trans less' less)) bound left eq
  refine ⟨r, ?_, leaves.mono less⟩
  rw [climb, read]
  exact extended
termination_by es.length

/-- Without a bound, precedence climbing reads all of a well-formed expression. -/
theorem exists_climb {es : List Element} (h : WellFormed .expression es) :
    ∃ r, climb none es = some r ∧ r.rest = [] := by
  have outside : Stopped none [] := by
    rintro op q after ⟨⟩
  have whole := progresses h none [] outside
  rw [List.append_nil] at whole
  obtain ⟨r, read, leaves⟩ := whole
  exact ⟨r, read, leaves.eq_after (stopped_climb read)⟩

end Climbing

end Reckoner
