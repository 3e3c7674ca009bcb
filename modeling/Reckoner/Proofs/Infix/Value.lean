import Reckoner.Expression
import Reckoner.Proofs.Infix.Derivation
import Reckoner.Proofs.Rpn.Yard

/-!
# The value of infix expressions

From a derivation's tokens the pipeline gets its value: the classification of symbols by
the token before, the yard with its releases by precedence, and the stack of values
together do what recursion on the derivation does.

The yard is where ranks matter. `Settled r held` says that nothing held so far is written
on behalf of an operator of rank `r`, and `HasRead r rpn start y` that an expression of
rank `r` was read since `start`, with some of its operators still held; any operator that
may follow it releases all of those first.

Results:
* `read_elements`: the yard reads a derivation as its expression tree.
* `Token.value_tokens`: the value of a derivation's tokens is the derivation's.
* `Expression.value_eq_derivation`: so is the value of every text that scans to them.
-/
namespace Reckoner

open Outcome

namespace Derivation

open Rpn

/-- Nothing on top of what is held binds as tightly as a binary operator of the rank. -/
def Settled (r : Rank) (held : List Held) : Prop :=
  ∀ op : BinaryOp, r.precedence ≤ op.precedence → ∀ written,
    Yard.release (fun waiting => op.precedence ≤ waiting.precedence) written held =
      ⟨written, held⟩

theorem settled_nil (r : Rank) : Settled r [] := fun _ _ _ => rfl

/-- No binary operator has the rank of operands, so that signs can wait before an operand. -/
theorem settled_operand (held : List Held) : Settled .operand held := by
  intro op le
  have lt := op.precedence_lt_operand
  omega

theorem settled_tighter (op : BinaryOp) (held : List Held) :
    Settled op.rank.tighter (.operator (.binary op op.precedence) :: held) := by
  intro next le written
  have lt := op.precedence_lt_tighter
  have looser : ¬next.precedence ≤ op.precedence := by omega
  simp [Yard.release_operator, Operator.precedence, looser]

theorem Settled.mono {r s : Rank} {held : List Held} (h : Settled r held)
    (le : r.precedence ≤ s.precedence) : Settled s held :=
  fun op above => h op (Int.le_trans le above)

/-! ## What is held after an expression -/

/-- Since `start` the yard has read an expression of rank `r` with the notation `rpn`, of which
some operators may still be held. -/
def HasRead (r : Rank) (rpn : Rpn) (start y : Yard) : Prop :=
  ∃ ops : List Operator,
    y.held = ops.map .operator ++ start.held ∧
    (∀ op ∈ ops, r.precedence ≤ op.precedence) ∧
    (ops.map Element.operator).reverse ++ y.written = rpn.reverse ++ start.written

namespace HasRead

variable {r s : Rank} {rpn first : Rpn} {start y : Yard}

theorem single (r : Rank) (e : Element) (start : Yard) : HasRead r [e] start (start.write e) :=
  ⟨[], rfl, by simp, rfl⟩

theorem block (r : Rank) (rpn : Rpn) (start : Yard) :
    HasRead r rpn start ⟨rpn.reverse ++ start.written, start.held⟩ :=
  ⟨[], rfl, by simp, rfl⟩

theorem mono (h : HasRead r rpn start y) (le : s.precedence ≤ r.precedence) :
    HasRead s rpn start y := by
  obtain ⟨ops, held, ranks, same⟩ := h
  exact ⟨ops, held, fun op mem => Int.le_trans le (ranks op mem), same⟩

/-- A release for an operator that follows the expression writes all of it. -/
theorem release (h : HasRead r rpn start y) {p : Operator → Bool}
    (all : ∀ op : Operator, r.precedence ≤ op.precedence → p op) :
    Yard.release p y.written y.held = Yard.release p (rpn.reverse ++ start.written) start.held := by
  obtain ⟨ops, held, ranks, same⟩ := h
  rw [held, Yard.release_held fun op mem => all op (ranks op mem), same]

/-- An operator held before its operand comes right after it. -/
theorem hold {op : Operator} (h : HasRead s rpn (start.hold (.operator op)) y)
    (looser : r.precedence ≤ s.precedence) (own : r.precedence ≤ op.precedence) :
    HasRead r (rpn ++ [.operator op]) start y := by
  obtain ⟨ops, held, ranks, same⟩ := h
  refine ⟨ops ++ [op], ?_, ?_, ?_⟩
  · rw [held]
    simp [Yard.hold]
  · intro other mem
    rcases List.mem_append.1 mem with mem | mem
    · exact Int.le_trans looser (ranks other mem)
    · rw [List.mem_singleton.1 mem]
      exact own
  · have last := congrArg (Element.operator op :: ·) same
    simpa [Yard.hold] using last

/-- What was written just before counts as read. -/
theorem prepend (h : HasRead r rpn ⟨first.reverse ++ start.written, start.held⟩ y) :
    HasRead r (first ++ rpn) start y := by
  obtain ⟨ops, held, ranks, same⟩ := h
  refine ⟨ops, held, ranks, ?_⟩
  rw [same, List.reverse_append, List.append_assoc]

theorem ofElements {es : List Element} (ran : Yard.start.read es = .ok y)
    (h : HasRead r rpn Yard.start y) : Rpn.ofElements es = .ok rpn := by
  refine ofElements_eq_ok.2 ⟨y, ran, Yard.finish_eq_ok.2 ?_⟩
  have written := h.release (p := fun _ => true) fun _ _ => rfl
  rw [written]
  exact congrArg (Yard.mk · []) (List.append_nil _)

end HasRead

/-! ## The yard reads the tree -/

variable {r : Rank}

theorem read_elements (d : Derivation r) (start : Yard) (h : Settled r start.held) :
    ∃ y, start.read d.elements = .ok y ∧ HasRead r d.tree.postorder start y := by
  induction d generalizing start with
  | integer v => exact ⟨_, rfl, .single _ _ _⟩
  | identifier name => exact ⟨_, rfl, .single _ _ _⟩
  | group inner ih =>
    obtain ⟨y, ran, done⟩ := ih Yard.start (settled_nil _)
    exact ⟨_, Yard.read_group (done.ofElements ran) start, .block _ _ _⟩
  | signed op operand ih =>
    obtain ⟨y, ran, done⟩ := ih (start.hold _) (settled_operand _)
    refine ⟨y, ran, done.hold (Int.le_refl _) ?_⟩
    exact Int.le_of_eq op.precedence_operand
  | ofOperand d ih =>
    obtain ⟨y, ran, done⟩ := ih start (settled_operand _)
    exact ⟨y, ran, done.mono (by decide)⟩
  | ofPower d ih =>
    obtain ⟨y, ran, done⟩ := ih start (h.mono (by decide))
    exact ⟨y, ran, done.mono (by decide)⟩
  | ofProduct d ih =>
    obtain ⟨y, ran, done⟩ := ih start (h.mono (by decide))
    exact ⟨y, ran, done.mono (by decide)⟩
  | binary op left right ihl ihr =>
    obtain ⟨y, ranLeft, doneLeft⟩ := ihl start h
    -- the operator releases the whole left operand and nothing before it
    have released : Yard.release (fun waiting => op.precedence ≤ waiting.precedence)
        y.written y.held = ⟨left.tree.postorder.reverse ++ start.written, start.held⟩ := by
      rw [doneLeft.release fun other le => by simpa [op.precedence_rank] using le]
      exact h op (Int.le_of_eq op.precedence_rank) _
    obtain ⟨z, ranRight, doneRight⟩ := ihr
      ((Yard.mk (left.tree.postorder.reverse ++ start.written) start.held).hold
        (.operator (.binary op op.precedence)))
      (settled_tighter op _)
    refine ⟨z, ?_, ?_⟩
    · rw [elements, Yard.read_append, ranLeft, ok_bind, Yard.read_cons]
      simp only [Yard.step, released]
      exact ranRight
    · have tighter := op.precedence_lt_tighter
      have same := op.precedence_rank
      have own := doneRight.hold (r := op.rank) (by omega) (Int.le_of_eq same)
      have whole := own.prepend
      rwa [← List.append_assoc] at whole

theorem ofElements_elements (d : Derivation r) :
    Rpn.ofElements d.elements = .ok d.tree.postorder := by
  obtain ⟨y, ran, done⟩ := d.read_elements Yard.start (settled_nil r)
  exact done.ofElements ran

end Derivation

theorem Token.rpn_tokens {r : Rank} (d : Derivation r) :
    Token.rpn d.tokens = .ok d.tree.postorder := by
  rw [Token.rpn, d.ofTokens_tokens, ok_bind, d.ofElements_elements]

theorem Token.value_tokens {r : Rank} (limits : Limits) (store : Store) (d : Derivation r) :
    Token.value limits store d.tokens = d.value limits store := by
  rw [Token.value, Token.rpn_tokens, ok_mapError, ok_bind, Tree.value_postorder, d.value_tree]

/-- A text whose tokens are those of a derivation has exactly the outcome of evaluating the
derivation by recursion: the same value, or the fault met first. -/
theorem Expression.value_eq_derivation (limits : Limits) (store : Store) {text : String}
    {d : Derivation .sum} (h : Token.scan text = d.tokens) :
    Expression.value limits store text = d.value limits store := by
  rw [Expression.value, h, Token.value_tokens]

/-- A sign binds tighter than a power, powers are taken from left to right, and a quotient is
truncated. -/
theorem Expression.value_eq_derivation_powers :
    ∃ d : Derivation .sum,
      Token.scan "8 - -(x + 1)^3 ^3 / 100" = d.tokens ∧
      Expression.value {} (Store.empty.set "x" 1) "8 - -(x + 1)^3 ^3 / 100" =
        d.value {} (Store.empty.set "x" 1) ∧
      d.value {} (Store.empty.set "x" 1) = .ok 13 := by
  let one : Derivation .product := .ofPower (.ofOperand (.integer 1))
  let x : Derivation .product := .ofPower (.ofOperand (.identifier "x"))
  let sum : Derivation .sum := .binary .add (.ofProduct x) one
  let base : Derivation .power := .ofOperand (.signed .minus (.group sum))
  let powers : Derivation .power := .binary .pow (.binary .pow base (.integer 3)) (.integer 3)
  let quotient : Derivation .product := .binary .div (.ofPower powers) (.ofOperand (.integer 100))
  let d : Derivation .sum :=
    .binary .sub (.ofProduct (.ofPower (.ofOperand (.integer 8)))) quotient
  have scanned : Token.scan "8 - -(x + 1)^3 ^3 / 100" = d.tokens := by decide +kernel
  exact ⟨d, scanned, value_eq_derivation _ _ scanned, rfl⟩

end Reckoner
