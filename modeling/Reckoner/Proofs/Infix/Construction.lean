import Reckoner.Proofs.Infix.Derivation

/-!
# Building derivations from left to right

A derivation can be extended at its right end without looking at its ranks: by an
operator and an operand. So the tokens read so far need not be kept as a derivation with
a hole. It is enough to keep, for each open parenthesis, an expression that is complete
but for its last operand: a derivation and an operator, or nothing, and some signs.

Results:
* `exists_append`: an expression, an operator and an operand are an expression.
* `Layer.exists_complete`: a layer and an operand are an expression.
* `OperandDue.complete`, `OperandEnded.operator`, `OperandEnded.closing`: what is read stays
  in this form token by token, as long as operands and operators alternate.
-/
namespace Reckoner

namespace Derivation

/-- An operand as an expression of any rank. -/
def atRank (operand : Derivation .operand) : (r : Rank) → Derivation r
  | .operand => operand
  | .power => .ofOperand operand
  | .product => .ofPower (.ofOperand operand)
  | .sum => .ofProduct (.ofPower (.ofOperand operand))

@[simp]
theorem tokens_atRank (operand : Derivation .operand) (r : Rank) :
    (operand.atRank r).tokens = operand.tokens := by
  cases r <;> rfl

/-- An operand with signs before it. -/
def withSigns (signs : List UnaryOp) (operand : Derivation .operand) : Derivation .operand :=
  signs.foldr .signed operand

theorem tokens_withSigns (signs : List UnaryOp) (operand : Derivation .operand) :
    (operand.withSigns signs).tokens =
      signs.map (fun op => .symbol op.symbol) ++ operand.tokens := by
  induction signs with
  | nil => rfl
  | cons op signs ih =>
    rw [List.map_cons, List.cons_append, ← ih]
    rfl

theorem exists_append_of_rank {r : Rank} (d : Derivation r) {op : BinaryOp} (h : r = op.rank)
    (operand : Derivation .operand) :
    ∃ e : Derivation r, e.tokens = d.tokens ++ .symbol op.symbol :: operand.tokens := by
  subst h
  exact ⟨.binary op d (operand.atRank _), by rw [tokens, tokens_atRank]⟩

/-- The operator goes as far down the right end of the derivation as its rank says. -/
theorem exists_append {r : Rank} (d : Derivation r) {op : BinaryOp}
    (h : r.precedence ≤ op.precedence) (operand : Derivation .operand) :
    ∃ e : Derivation r, e.tokens = d.tokens ++ .symbol op.symbol :: operand.tokens := by
  induction d with
  | integer v =>
    have lt := op.precedence_lt_operand
    omega
  | identifier name =>
    have lt := op.precedence_lt_operand
    omega
  | group inner _ =>
    have lt := op.precedence_lt_operand
    omega
  | signed sign inner _ =>
    have lt := op.precedence_lt_operand
    omega
  | ofOperand d ih =>
    rcases op.rank_or_tighter h with same | tighter
    · exact exists_append_of_rank _ same operand
    · obtain ⟨e, eq⟩ := ih tighter
      exact ⟨.ofOperand e, eq⟩
  | ofPower d ih =>
    rcases op.rank_or_tighter h with same | tighter
    · exact exists_append_of_rank _ same operand
    · obtain ⟨e, eq⟩ := ih tighter
      exact ⟨.ofPower e, eq⟩
  | ofProduct d ih =>
    rcases op.rank_or_tighter h with same | tighter
    · exact exists_append_of_rank _ same operand
    · obtain ⟨e, eq⟩ := ih tighter
      exact ⟨.ofProduct e, eq⟩
  | binary other left right _ ih =>
    rcases op.rank_or_tighter h with same | tighter
    · exact exists_append_of_rank _ same operand
    · obtain ⟨e, eq⟩ := ih tighter
      refine ⟨.binary other left e, ?_⟩
      rw [tokens, tokens, eq, List.append_assoc, List.cons_append]

theorem sum_precedence_le (op : BinaryOp) : Rank.sum.precedence ≤ op.precedence := by
  cases op <;> decide

end Derivation

/-! ## Expressions without their last operand -/

/-- What stands between an open parenthesis and the operand that is due. -/
structure Layer where
  /-- an expression and the operator after it -/
  left : Option (Derivation .sum × BinaryOp)
  /-- the signs after the operator -/
  signs : List UnaryOp

namespace Layer

def empty : Layer := ⟨none, []⟩

def tokens (l : Layer) : List Token :=
  (match l.left with
    | none => []
    | some (d, op) => d.tokens ++ [.symbol op.symbol]) ++
  l.signs.map fun op => .symbol op.symbol

theorem exists_complete (l : Layer) (operand : Derivation .operand) :
    ∃ d : Derivation .sum, d.tokens = l.tokens ++ operand.tokens := by
  obtain ⟨left, signs⟩ := l
  cases left with
  | none =>
    refine ⟨(operand.withSigns signs).atRank .sum, ?_⟩
    rw [Derivation.tokens_atRank, Derivation.tokens_withSigns]
    rfl
  | some before =>
    obtain ⟨d, op⟩ := before
    obtain ⟨e, eq⟩ := d.exists_append (Derivation.sum_precedence_le op) (operand.withSigns signs)
    refine ⟨e, ?_⟩
    rw [eq, Derivation.tokens_withSigns]
    simp [tokens]

/-- The tokens of layers within each other, the innermost first, each with the parenthesis that
is open after it. -/
def context : List Layer → List Token
  | [] => []
  | l :: outer => context outer ++ l.tokens ++ [.symbol '(']

end Layer

/-! ## Reading token by token -/

/-- The tokens read so far open `depth` parentheses, and an operand is due. -/
def OperandDue (depth : Nat) (ts : List Token) : Prop :=
  ∃ (outer : List Layer) (l : Layer), outer.length = depth ∧ ts = Layer.context outer ++ l.tokens

/-- The tokens read so far open `depth` parentheses, and an operand has ended. -/
def OperandEnded (depth : Nat) (ts : List Token) : Prop :=
  ∃ (outer : List Layer) (d : Derivation .sum),
    outer.length = depth ∧ ts = Layer.context outer ++ d.tokens

theorem OperandDue.complete {depth : Nat} {ts : List Token} (h : OperandDue depth ts)
    (operand : Derivation .operand) : OperandEnded depth (ts ++ operand.tokens) := by
  obtain ⟨outer, l, length, rfl⟩ := h
  obtain ⟨d, eq⟩ := l.exists_complete operand
  refine ⟨outer, d, length, ?_⟩
  rw [eq, List.append_assoc]

theorem OperandDue.opening {depth : Nat} {ts : List Token} (h : OperandDue depth ts) :
    OperandDue (depth + 1) (ts ++ [.symbol '(']) := by
  obtain ⟨outer, l, length, rfl⟩ := h
  refine ⟨l :: outer, .empty, by rw [List.length_cons, length], ?_⟩
  simp [Layer.context, Layer.empty, Layer.tokens]

theorem OperandDue.sign {depth : Nat} {ts : List Token} (h : OperandDue depth ts) (op : UnaryOp) :
    OperandDue depth (ts ++ [.symbol op.symbol]) := by
  obtain ⟨outer, l, length, rfl⟩ := h
  refine ⟨outer, ⟨l.left, l.signs ++ [op]⟩, length, ?_⟩
  simp [Layer.tokens]

theorem OperandEnded.operator {depth : Nat} {ts : List Token} (h : OperandEnded depth ts)
    (op : BinaryOp) : OperandDue depth (ts ++ [.symbol op.symbol]) := by
  obtain ⟨outer, d, length, rfl⟩ := h
  refine ⟨outer, ⟨some (d, op), []⟩, length, ?_⟩
  simp [Layer.tokens]

theorem OperandEnded.closing {depth : Nat} {ts : List Token} (h : OperandEnded (depth + 1) ts) :
    OperandEnded depth (ts ++ [.symbol ')']) := by
  obtain ⟨outer, d, length, rfl⟩ := h
  cases outer with
  | nil => simp at length
  | cons l outer =>
    have due : OperandDue depth (Layer.context outer ++ l.tokens) :=
      ⟨outer, l, by simpa using length, rfl⟩
    have ended := due.complete (.group d)
    simpa [Layer.context, Derivation.tokens] using ended

theorem OperandEnded.exists_derivation {ts : List Token} (h : OperandEnded 0 ts) :
    ∃ d : Derivation .sum, d.tokens = ts := by
  obtain ⟨outer, d, length, rfl⟩ := h
  rw [List.eq_nil_of_length_eq_zero length]
  exact ⟨d, rfl⟩

end Reckoner
