import Reckoner.Proofs.Infix.Construction
import Reckoner.Proofs.Rpn.Stack
import Reckoner.Proofs.Rpn.Yard
import Reckoner.Proofs.Stages

/-!
# Which token lists have a value

No stage of the pipeline checks the infix grammar. Symbols are classified by the token
before, the yard matches parentheses, and the stack counts operands. A missing operand
is found only by that count, and an operand that follows another directly makes up for
it: `2 3 +` has a value, and so has `() 5`.

Results:
* `operands_le`: where no operand starts right after another, the operands are at most one
  more than the binary operators, and exactly one more only if none is missing.
* `Expression.derivation_iff_separated`: a text with a value is an infix expression exactly
  if no operand starts in it right after another.
-/
namespace Reckoner

open Outcome

namespace Token

/-- Whether an operand can start with the token. -/
def startsOperand : Token → Bool
  | integer _ | identifier _ => true
  | symbol c => c == '('

/-- No operand starts right after another has ended. -/
def Separated (previous : Option Token) (tokens : List Token) : Prop :=
  ∀ pair ∈ withPrevious previous tokens,
    Element.endsOperand pair.1 = true → pair.2.startsOperand = false

instance (previous : Option Token) (tokens : List Token) : Decidable (Separated previous tokens) :=
  inferInstanceAs (Decidable (∀ pair ∈ withPrevious previous tokens,
    Element.endsOperand pair.1 = true → pair.2.startsOperand = false))

/-- An operand has ended before each closing parenthesis. -/
def Filled (previous : Option Token) (tokens : List Token) : Prop :=
  ∀ pair ∈ withPrevious previous tokens,
    pair.2 = .symbol ')' → Element.endsOperand pair.1 = true

theorem separated_cons {previous : Option Token} {t : Token} {ts : List Token} :
    Separated previous (t :: ts) ↔
      (Element.endsOperand previous = true → t.startsOperand = false) ∧
        Separated (some t) ts := by
  simp [Separated]

theorem separated_append {previous : Option Token} {ts us : List Token} :
    Separated previous (ts ++ us) ↔
      Separated previous ts ∧ Separated (ts.getLast?.or previous) us := by
  simp only [Separated, withPrevious_append, List.forall_mem_append]

theorem filled_cons {previous : Option Token} {t : Token} {ts : List Token} :
    Filled previous (t :: ts) ↔
      (t = .symbol ')' → Element.endsOperand previous = true) ∧ Filled (some t) ts := by
  simp [Filled]

end Token

open Token

theorem Derivation.separated_tokens {r : Rank} (d : Derivation r) {previous : Option Token}
    (h : Element.endsOperand previous = false) : Separated previous d.tokens := by
  induction d generalizing previous with
  | integer v => simp [tokens, Separated, h]
  | identifier name => simp [tokens, Separated, h]
  | group inner ih =>
    rw [tokens, List.cons_append, separated_cons, separated_append]
    refine ⟨by simp [h], ih rfl, ?_⟩
    simp [Separated, startsOperand]
  | signed op operand ih =>
    rw [tokens, separated_cons]
    exact ⟨by simp [h], ih (endsOperand_unary op)⟩
  | ofOperand d ih => exact ih h
  | ofPower d ih => exact ih h
  | ofProduct d ih => exact ih h
  | binary op left right ihl ihr =>
    rw [tokens, separated_append, separated_cons]
    refine ⟨ihl h, fun _ => ?_, ihr (endsOperand_binary op)⟩
    cases op <;> rfl

/-! ## Counting operands -/

/-- One token: `toNat` is one where an operand has ended, and nought where one is due. -/
theorem operands_le_single {previous : Option Token} {t : Token} {e : Element}
    (h : Element.StandsFor previous t e)
    (apart : Element.endsOperand previous = true → t.startsOperand = false) :
    [e].countP Element.isOperand + (Element.endsOperand previous).toNat ≤
        [e].countP Element.isBinary + (Element.endsOperand (some t)).toNat ∧
      ([e].countP Element.isBinary + (Element.endsOperand (some t)).toNat ≤
          [e].countP Element.isOperand + (Element.endsOperand previous).toNat →
        t = .symbol ')' → Element.endsOperand previous = true) := by
  cases place : Element.endsOperand previous with
  | true =>
    have starts := apart place
    cases h with
    | number v => cases starts
    | var name => cases starts
    | opening => cases starts
    | closing => exact ⟨by decide, fun _ _ => rfl⟩
    | binary op after => exact ⟨by cases op <;> decide, fun _ _ => rfl⟩
    | unary op before => rw [place] at before; cases before
  | false =>
    cases h with
    | number v => exact ⟨Nat.le_refl _, fun _ eq => by cases eq⟩
    | var name => exact ⟨Nat.le_refl _, fun _ eq => by cases eq⟩
    | opening => exact ⟨Nat.le_refl _, fun _ eq => by cases eq⟩
    | closing => exact ⟨by decide, fun le => by revert le; decide⟩
    | binary op after => rw [place] at after; cases after
    | unary op before => exact ⟨by cases op <;> decide, fun _ eq => by cases op <;> cases eq⟩

theorem operands_le {ts : List Token} {previous : Option Token} {es : List Element}
    (h : Element.placed previous ts = .ok es) (apart : Separated previous ts) :
    es.countP Element.isOperand + (Element.endsOperand previous).toNat ≤
        es.countP Element.isBinary + (Element.endsOperand (ts.getLast?.or previous)).toNat ∧
      (es.countP Element.isBinary + (Element.endsOperand (ts.getLast?.or previous)).toNat ≤
          es.countP Element.isOperand + (Element.endsOperand previous).toNat →
        Filled previous ts) := by
  induction ts generalizing previous es with
  | nil =>
    cases h
    exact ⟨Nat.le_refl _, fun _ => by simp [Filled]⟩
  | cons t ts ih =>
    obtain ⟨e, fs, first, others, rfl⟩ := Element.placed_cons_eq_ok.1 h
    obtain ⟨apartHere, apartThere⟩ := separated_cons.1 apart
    obtain ⟨le, filled⟩ := operands_le_single (Element.standsFor_of_classify first) apartHere
    obtain ⟨leRest, filledRest⟩ := ih others apartThere
    rw [Element.last_cons, ← List.singleton_append, List.countP_append, List.countP_append]
    refine ⟨by omega, fun ge => filled_cons.2 ⟨filled (by omega), filledRest (by omega)⟩⟩

/-! ## Derivations of what is accepted -/

/-- What is read is kept in parts: an operand is due, or has ended. -/
def Ready (previous : Option Token) (depth : Nat) (ts : List Token) : Prop :=
  if Element.endsOperand previous then OperandEnded depth ts else OperandDue depth ts

theorem Ready.step {previous : Option Token} {t : Token} {e : Element} {ts : List Token}
    {depth depth' : Nat} (ready : Ready previous depth ts) (h : Element.StandsFor previous t e)
    (apart : Element.endsOperand previous = true → t.startsOperand = false)
    (filled : t = .symbol ')' → Element.endsOperand previous = true)
    (moved : depth' + [e].count .closing = depth + [e].count .opening) :
    Ready (some t) depth' (ts ++ [t]) := by
  cases place : Element.endsOperand previous with
  | true =>
    have ended : OperandEnded depth ts := by simpa [Ready, place] using ready
    have starts := apart place
    cases h with
    | number v => cases starts
    | var name => cases starts
    | opening => cases starts
    | closing =>
      obtain rfl : depth = depth' + 1 := moved.symm
      exact ended.closing
    | binary op after =>
      obtain rfl : depth' = depth := moved
      have due := ended.operator op
      simpa [Ready, Derivation.endsOperand_binary op] using due
    | unary op before => rw [place] at before; cases before
  | false =>
    have due : OperandDue depth ts := by simpa [Ready, place] using ready
    cases h with
    | number v =>
      obtain rfl : depth' = depth := moved
      exact due.complete (.integer v)
    | var name =>
      obtain rfl : depth' = depth := moved
      exact due.complete (.identifier name)
    | opening =>
      obtain rfl : depth' = depth + 1 := moved
      exact due.opening
    | closing =>
      rw [filled rfl] at place
      cases place
    | binary op after => rw [place] at after; cases after
    | unary op before =>
      obtain rfl : depth' = depth := moved
      have next := due.sign op
      simpa [Ready, Derivation.endsOperand_unary op] using next

theorem Ready.read {ts : List Token} {previous : Option Token} {before : List Token}
    {es : List Element} {y y' : Rpn.Yard} (ready : Ready previous y.depth before)
    (h : Element.placed previous ts = .ok es) (ran : y.read es = .ok y')
    (apart : Separated previous ts) (filled : Filled previous ts) :
    Ready (ts.getLast?.or previous) y'.depth (before ++ ts) := by
  induction ts generalizing previous before es y with
  | nil =>
    cases h
    cases ran
    rwa [List.append_nil]
  | cons t ts ih =>
    obtain ⟨e, fs, first, others, rfl⟩ := Element.placed_cons_eq_ok.1 h
    obtain ⟨apartHere, apartThere⟩ := separated_cons.1 apart
    obtain ⟨filledHere, filledThere⟩ := filled_cons.1 filled
    rw [Rpn.Yard.read_cons] at ran
    obtain ⟨z, stepped, rest⟩ := bind_eq_ok.1 ran
    have next := ready.step (Element.standsFor_of_classify first) apartHere filledHere
      (Rpn.Yard.depth_step stepped)
    have done := ih next others rest apartThere filledThere
    rw [Element.last_cons, List.append_cons]
    exact done

theorem not_parenthesis_of_operand (e : Element) (h : e.isOperand = true) :
    e.isParenthesis = false := by
  cases e with
  | number v => rfl
  | var name => rfl
  | operator op => rfl
  | opening => cases h
  | closing => cases h

theorem not_parenthesis_of_binary (e : Element) (h : e.isBinary = true) :
    e.isParenthesis = false := by
  cases e with
  | number v => rfl
  | var name => rfl
  | operator op => rfl
  | opening => cases h
  | closing => cases h

/-- What is written has as many operands, and as many binary operators, as what was read. -/
theorem countP_ofElements {es : List Element} {rpn : Rpn} (h : Rpn.ofElements es = .ok rpn)
    {p : Element → Bool} (outside : ∀ e, p e = true → e.isParenthesis = false) :
    rpn.countP p = es.countP p := by
  rw [(Rpn.ofElements_perm h).countP_eq, List.countP_filter]
  refine List.countP_congr fun e _ => ?_
  constructor
  · intro both
    exact (Bool.and_eq_true_iff.1 both).1
  · intro counted
    simp [counted, outside e counted]

theorem exists_derivation_of_separated {limits : Limits} {store : Store} {tokens : List Token}
    {v : Int} (h : Token.value limits store tokens = .ok v) (apart : Separated none tokens) :
    ∃ d : Derivation .sum, d.tokens = tokens := by
  obtain ⟨rpn, converted, evaluated⟩ := Token.value_eq_ok.1 h
  obtain ⟨es, classified, written⟩ := Token.rpn_eq_ok.1 converted
  obtain ⟨places, -⟩ := Element.ofTokens_eq_ok.1 classified
  obtain ⟨y, ran, finished⟩ := Rpn.ofElements_eq_ok.1 written
  -- one value is left, so there is one operand more than binary operators
  have height := Rpn.run_height (Rpn.value_eq_ok.1 evaluated)
  have operands := countP_ofElements written not_parenthesis_of_operand
  have binaries := countP_ofElements written not_parenthesis_of_binary
  rw [operands, binaries] at height
  simp only [List.length_cons, List.length_nil] at height
  obtain ⟨le, filled⟩ := operands_le places apart
  have bound := Bool.toNat_le (Element.endsOperand (tokens.getLast?.or none))
  have ended : Element.endsOperand (tokens.getLast?.or none) = true := by
    cases last : Element.endsOperand (tokens.getLast?.or none) with
    | true => rfl
    | false => simp only [last, Bool.toNat_false] at le; omega
  have due : Ready none Rpn.Yard.start.depth [] := ⟨[], .empty, rfl, rfl⟩
  have all := due.read places ran apart (filled (by omega))
  rw [Rpn.Yard.depth_finish finished, Ready, if_pos ended, List.nil_append] at all
  exact all.exists_derivation

/-- A text with a value is an infix expression exactly if no operand starts in it right after
another. -/
theorem Expression.derivation_iff_separated {limits : Limits} {store : Store} {text : String}
    {v : Int} (h : Expression.value limits store text = .ok v) :
    (∃ d : Derivation .sum, d.tokens = Token.scan text) ↔ Separated none (Token.scan text) := by
  constructor
  · rintro ⟨d, eq⟩
    rw [← eq]
    exact d.separated_tokens rfl
  · exact exists_derivation_of_separated h

/-- An operator after both its operands is accepted. -/
theorem Expression.value_operator_last :
    Expression.value {} .empty "2 3 +" = .ok 5 ∧
      ¬∃ d : Derivation .sum, d.tokens = Token.scan "2 3 +" := by
  refine ⟨rfl, ?_⟩
  rintro ⟨d, eq⟩
  have apart : Separated none d.tokens := d.separated_tokens rfl
  rw [eq] at apart
  revert apart
  decide +kernel

/-- With a sum in parentheses and two signs in a row, nothing stands next to another operand. -/
theorem Expression.derivation_iff_separated_signs :
    Expression.value {} .empty "(1 + 2) * - -3" = .ok 9 ∧
      ((∃ d : Derivation .sum, d.tokens = Token.scan "(1 + 2) * - -3") ↔
        Separated none (Token.scan "(1 + 2) * - -3")) :=
  have accepted : Expression.value {} .empty "(1 + 2) * - -3" = .ok 9 := rfl
  ⟨accepted, derivation_iff_separated accepted⟩

end Reckoner
