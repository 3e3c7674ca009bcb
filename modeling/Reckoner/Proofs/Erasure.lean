import Reckoner.Proofs.Placement

/-!
# Elements and the tokens they come from

An element tells which token it comes from; only which operator the token is depends on its place.
So classification is undone by forgetting places and precedences, and it undoes this forgetting
wherever the places and precedences are those that it gives: a binary operator right after an
operand, a sign anywhere else, and as many parentheses of one kind as of the other.

Main definitions:
* `token`: the token that an element comes from.
* `WellPlaced`: every operator stands where its kind does, with its precedence in the table, and the
  parentheses are even.
* `Misplaced`: what is wrong with a token in its place.

Results:
* `classify_eq_ok`, `placed_eq_ok`: classification in a place, and of a whole list.
* `classify_eq_error`, `exists_first_misplaced`: what is refused in a place, and that the first
  token refused decides.
* `ofTokens_erased`: classification and forgetting are inverse to each other, and the fault of what
  is not classified.
-/
namespace Reckoner.Element

open Outcome

/-- The token that an element comes from. -/
def token : Element → Token
  | number value => .integer value
  | var name => .identifier name
  | operator (.binary op _) => .symbol op.symbol
  | operator (.unary op _) => .symbol op.symbol
  | opening => .symbol '('
  | closing => .symbol ')'

/-- Whether an element completes an operand: a number, a variable or a `)`. -/
def completes : Option Element → Bool
  | some (number _) | some (var _) | some closing => true
  | _ => false

/-- Whether an element can stand right after another: a binary operator after what completes an
operand, and a sign after anything else, each with the precedence of its table. -/
def Fits (previous : Option Element) : Element → Prop
  | operator (.binary op p) => completes previous = true ∧ p = op.precedence
  | operator (.unary op p) => completes previous = false ∧ p = op.precedence
  | _ => True

/-- Every element fits in its place, and there are as many opening as closing parentheses. -/
structure WellPlaced (es : List Element) : Prop where
  fits : ∀ pair ∈ withPrevious none es, Fits pair.1 pair.2
  even : es.count opening = es.count closing

theorem endsOperand_token (previous : Option Element) :
    endsOperand (previous.map token) = completes previous := by
  cases previous with
  | none => rfl
  | some e =>
    cases e with
    | number v => rfl
    | var name => rfl
    | operator op =>
      cases op with
      | binary op p => cases op <;> rfl
      | unary op p => cases op <;> rfl
    | opening => rfl
    | closing => rfl

theorem classify_eq_ok {previous : Option Element} {t : Token} {e : Element} :
    classify (previous.map token) t = .ok e ↔ e.token = t ∧ Fits previous e := by
  constructor
  · intro h
    cases standsFor_of_classify h with
    | number v => exact ⟨rfl, trivial⟩
    | var name => exact ⟨rfl, trivial⟩
    | opening => exact ⟨rfl, trivial⟩
    | closing => exact ⟨rfl, trivial⟩
    | binary op after => exact ⟨rfl, (endsOperand_token previous).symm.trans after, rfl⟩
    | unary op before => exact ⟨rfl, (endsOperand_token previous).symm.trans before, rfl⟩
  · rintro ⟨rfl, fits⟩
    cases e with
    | number v => rfl
    | var name => rfl
    | operator op =>
      cases op with
      | binary op p =>
        obtain ⟨after, rfl⟩ := fits
        exact classify_binary ((endsOperand_token previous).trans after) op
      | unary op p =>
        obtain ⟨before, rfl⟩ := fits
        exact classify_unary ((endsOperand_token previous).trans before) op
    | opening => exact classify_opening _
    | closing => exact classify_closing _

theorem placed_eq_ok (previous : Option Element) {tokens : List Token} {es : List Element} :
    placed (previous.map token) tokens = .ok es ↔
      es.map token = tokens ∧ ∀ pair ∈ withPrevious previous es, Fits pair.1 pair.2 := by
  induction tokens generalizing previous es with
  | nil =>
    constructor
    · intro h
      cases h
      exact ⟨rfl, List.forall_mem_nil _⟩
    · rintro ⟨noToken, -⟩
      rw [List.map_eq_nil_iff.1 noToken]
      rfl
  | cons t ts ih =>
    rw [placed_cons_eq_ok]
    constructor
    · rintro ⟨f, fs, first, others, rfl⟩
      obtain ⟨rfl, fits⟩ := classify_eq_ok.1 first
      obtain ⟨rfl, fitting⟩ := (ih (some f)).1 others
      exact ⟨rfl, List.forall_mem_cons.2 ⟨fits, fitting⟩⟩
    · rintro ⟨erased, fitting⟩
      obtain ⟨f, fs, rfl, rfl, rfl⟩ := List.map_eq_cons_iff.1 erased
      obtain ⟨fits, others⟩ := List.forall_mem_cons.1 fitting
      exact ⟨f, fs, classify_eq_ok.2 ⟨rfl, fits⟩, (ih (some f)).2 ⟨rfl, others⟩, rfl⟩

/-- Elements are classified from tokens exactly if these are theirs and they are well placed. -/
theorem ofTokens_eq_ok_iff {tokens : List Token} {es : List Element} :
    ofTokens tokens = .ok es ↔ es.map token = tokens ∧ WellPlaced es := by
  have even : balanced es = true ↔ es.count opening = es.count closing := by simp [balanced]
  have places : placed none tokens = .ok es ↔ es.map token = tokens ∧
      ∀ pair ∈ withPrevious none es, Fits pair.1 pair.2 := placed_eq_ok none
  rw [ofTokens_eq_ok, places, even, and_assoc]
  constructor
  · rintro ⟨erased, fits, even⟩
    exact ⟨erased, fits, even⟩
  · rintro ⟨erased, fits, even⟩
    exact ⟨erased, fits, even⟩

/-! ## Misplaced tokens -/

/-- What is wrong with a token right after another: it is a symbol of no operator or parenthesis, or
that of an operator which is no sign, and no operand has ended. -/
inductive Misplaced (previous : Option Token) : Token → String → Prop where
  | unsupported (c : Char) (other : c ∉ ['+', '-', '*', '/', '^', '(', ')']) :
    Misplaced previous (.symbol c) ("unsupported symbol " ++ Text.quoted c.toString)
  | noLeftOperand (c : Char) (noSign : c ∈ ['*', '/', '^'])
      (before : endsOperand previous = false) :
    Misplaced previous (.symbol c)
      ("operator " ++ Text.quoted c.toString ++ " without left operand")

/-- No token is misplaced. -/
def InPlace (previous : Option Token) (tokens : List Token) : Prop :=
  ∀ pair ∈ withPrevious previous tokens, ∀ detail, ¬Misplaced pair.1 pair.2 detail

theorem inPlace_cons {previous : Option Token} {t : Token} {ts : List Token} :
    InPlace previous (t :: ts) ↔
      (∀ detail, ¬Misplaced previous t detail) ∧ InPlace (some t) ts := by
  simp only [InPlace, withPrevious_cons, List.forall_mem_cons]

/-- A symbol that no operator has is that of a parenthesis, or of nothing. -/
theorem misplaced_of_parenthesis {c : Char} {cause : Malformed} (previous : Option Token)
    (noOperator : BinaryOp.ofSymbol? c = none) (h : parenthesis c = .error cause) :
    Misplaced previous (.symbol c) cause.detail := by
  unfold parenthesis at h
  split at h
  · cases h
  · rename_i notOpening
    split at h
    · cases h
    · rename_i notClosing
      cases h
      refine .unsupported c fun listed => ?_
      simp only [List.mem_cons, List.not_mem_nil, or_false] at listed
      rcases listed with rfl | rfl | rfl | rfl | rfl | rfl | rfl
      · cases noOperator
      · cases noOperator
      · cases noOperator
      · cases noOperator
      · cases noOperator
      · exact notOpening rfl
      · exact notClosing rfl

theorem misplaced_of_classify {previous : Option Token} {t : Token} {cause : Malformed}
    (h : classify previous t = .error cause) : Misplaced previous t cause.detail := by
  cases t with
  | integer v => cases h
  | identifier name => cases h
  | symbol c =>
    cases place : endsOperand previous with
    | true =>
      simp only [classify, place, if_true, afterOperand] at h
      split at h
      · cases h
      · rename_i noOperator
        exact misplaced_of_parenthesis previous noOperator h
    | false =>
      simp only [classify, place, Bool.false_eq_true, if_false, beforeOperand] at h
      split at h
      · cases h
      · rename_i op noSign found
        cases h
        rw [symbol_of_binary found] at noSign ⊢
        refine .noLeftOperand op.symbol ?_ place
        cases op with
        | add => cases noSign
        | sub => cases noSign
        | mul => decide
        | div => decide
        | pow => decide
      · rename_i noOperator
        exact misplaced_of_parenthesis previous noOperator h

/-- A symbol that is not listed is that of no operator and no parenthesis. -/
theorem ofSymbol?_of_notMem {c : Char} (other : c ∉ ['+', '-', '*', '/', '^', '(', ')']) :
    BinaryOp.ofSymbol? c = none ∧ UnaryOp.ofSymbol? c = none ∧
      parenthesis c = .error (.unsupportedSymbol c) := by
  refine ⟨?binary, ?unary, ?parenthesis⟩
  case binary =>
    cases found : BinaryOp.ofSymbol? c with
    | none => rfl
    | some op =>
      rw [symbol_of_binary found] at other
      cases op <;> exact absurd (by decide) other
  case unary =>
    cases found : UnaryOp.ofSymbol? c with
    | none => rfl
    | some op =>
      rw [symbol_of_unary found] at other
      cases op <;> exact absurd (by decide) other
  case parenthesis =>
    have notOpening : c ≠ '(' := by
      rintro rfl
      exact other (by decide)
    have notClosing : c ≠ ')' := by
      rintro rfl
      exact other (by decide)
    rw [parenthesis, if_neg notOpening, if_neg notClosing]

theorem classify_of_misplaced {previous : Option Token} {t : Token} {detail : String}
    (h : Misplaced previous t detail) :
    ∃ cause, classify previous t = .error cause ∧ cause.detail = detail := by
  cases h with
  | unsupported c other =>
    obtain ⟨noOperator, noSign, nothing⟩ := ofSymbol?_of_notMem other
    refine ⟨.unsupportedSymbol c, ?_, rfl⟩
    cases place : endsOperand previous with
    | true => simp only [classify, place, if_true, afterOperand, noOperator, nothing]
    | false =>
      simp only [classify, place, Bool.false_eq_true, if_false, beforeOperand, noOperator, noSign,
        nothing]
  | noLeftOperand c noSign before =>
    refine ⟨.noLeftOperand c, ?_, rfl⟩
    simp only [classify, before, Bool.false_eq_true, if_false]
    simp only [List.mem_cons, List.not_mem_nil, or_false] at noSign
    rcases noSign with rfl | rfl | rfl
    · rfl
    · rfl
    · rfl

/-! ## The first misplaced token -/

theorem exists_placed {previous : Option Token} {tokens : List Token}
    (h : InPlace previous tokens) : ∃ es, placed previous tokens = .ok es := by
  induction tokens generalizing previous with
  | nil => exact ⟨[], rfl⟩
  | cons t ts ih =>
    obtain ⟨here, there⟩ := inPlace_cons.1 h
    obtain ⟨es, others⟩ := ih there
    cases classified : classify previous t with
    | error cause => exact absurd (misplaced_of_classify classified) (here _)
    | ok e => exact ⟨e :: es, placed_cons_eq_ok.2 ⟨e, es, classified, others, rfl⟩⟩

theorem inPlace_of_placed {previous : Option Token} {tokens : List Token} {es : List Element}
    (h : placed previous tokens = .ok es) : InPlace previous tokens := by
  induction tokens generalizing previous es with
  | nil => exact List.forall_mem_nil _
  | cons t ts ih =>
    obtain ⟨e, fs, classified, others, rfl⟩ := placed_cons_eq_ok.1 h
    refine inPlace_cons.2 ⟨fun detail wrong => ?_, ih others⟩
    obtain ⟨cause, refused, -⟩ := classify_of_misplaced wrong
    cases classified.symm.trans refused

theorem exists_first_misplaced {previous : Option Token} {tokens : List Token} {cause : Malformed}
    (h : placed previous tokens = .error cause) :
    ∃ before t after, tokens = before ++ t :: after ∧ InPlace previous before ∧
      Misplaced (before.getLast?.or previous) t cause.detail := by
  induction tokens generalizing previous with
  | nil => cases h
  | cons t ts ih =>
    rw [placed_cons] at h
    rcases bind_eq_error.1 h with refused | ⟨e, classified, refused⟩
    · exact ⟨[], t, ts, rfl, List.forall_mem_nil _, misplaced_of_classify refused⟩
    · rcases bind_eq_error.1 refused with refused | ⟨fs, -, done⟩
      · obtain ⟨before, u, after, rfl, inPlace, misplaced⟩ := ih refused
        refine ⟨t :: before, u, after, rfl, inPlace_cons.2 ⟨fun detail wrong => ?_, inPlace⟩, ?_⟩
        · obtain ⟨cause', refused', -⟩ := classify_of_misplaced wrong
          cases classified.symm.trans refused'
        · rwa [last_cons]
      · cases done

theorem placed_of_misplaced {previous : Option Token} {before : List Token} {t : Token}
    {detail : String} (h : InPlace previous before)
    (wrong : Misplaced (before.getLast?.or previous) t detail) (after : List Token) :
    ∃ cause, placed previous (before ++ t :: after) = .error cause ∧ cause.detail = detail := by
  obtain ⟨es, ran⟩ := exists_placed h
  obtain ⟨cause, refused, same⟩ := classify_of_misplaced wrong
  refine ⟨cause, ?_, same⟩
  rw [placed_append, ran, ok_bind, placed_cons, refused]
  rfl

/-! ## Even parentheses -/

/-- No other element comes from the token of a parenthesis. -/
theorem token_eq_iff {e f : Element} (h : f = opening ∨ f = closing) :
    e.token = f.token ↔ e = f := by
  rcases h with rfl | rfl
  all_goals
    cases e with
    | operator op =>
      cases op with
      | binary op p => cases op <;> simp [token, BinaryOp.symbol]
      | unary op p => cases op <;> simp [token, UnaryOp.symbol]
    | _ => simp [token]

theorem count_token {f : Element} (h : f = opening ∨ f = closing) (es : List Element) :
    (es.map token).count f.token = es.count f := by
  induction es with
  | nil => rfl
  | cons e es ih =>
    have same : (e.token == f.token) = (e == f) := by
      rw [Bool.eq_iff_iff, beq_iff_eq, beq_iff_eq, token_eq_iff h]
    rw [List.map_cons, List.count_cons, List.count_cons, ih, same]

/-- Where no token is misplaced, the parentheses decide. -/
theorem ofTokens_of_inPlace {tokens : List Token} (h : InPlace none tokens) :
    ofTokens tokens = .error .unbalanced ↔
      tokens.count (.symbol '(') ≠ tokens.count (.symbol ')') := by
  obtain ⟨es, ran⟩ := exists_placed h
  obtain ⟨rfl, -⟩ := (placed_eq_ok none).1 ran
  have openings : (es.map token).count (.symbol '(') = es.count opening :=
    count_token (.inl rfl) es
  have closings : (es.map token).count (.symbol ')') = es.count closing :=
    count_token (.inr rfl) es
  rw [ofTokens_eq_placed, ran, ok_bind, openings, closings]
  by_cases even : es.count opening = es.count closing
  · simp [balanced, even]
  · simp [balanced, even]

theorem mapError_ofTokens_eq_error {tokens : List Token} {detail : String} :
    (ofTokens tokens).mapError Malformed.detail = .error detail ↔
      (∃ before t after, tokens = before ++ t :: after ∧ InPlace none before ∧
        Misplaced before.getLast? t detail) ∨
      (InPlace none tokens ∧ tokens.count (.symbol '(') ≠ tokens.count (.symbol ')') ∧
        detail = "unbalanced parentheses") := by
  rw [mapError_eq_error]
  constructor
  · rintro ⟨cause, refused, rfl⟩
    have both := refused
    rw [ofTokens_eq_placed] at both
    rcases bind_eq_error.1 both with misplaced | ⟨es, ran, uneven⟩
    · obtain ⟨before, t, after, cut, inPlace, wrong⟩ := exists_first_misplaced misplaced
      rw [Option.or_none] at wrong
      exact .inl ⟨before, t, after, cut, inPlace, wrong⟩
    · have unbalanced : cause = .unbalanced := by
        split at uneven
        · cases uneven
        · cases uneven
          rfl
      subst unbalanced
      have inPlace := inPlace_of_placed ran
      exact .inr ⟨inPlace, (ofTokens_of_inPlace inPlace).1 refused, rfl⟩
  · rintro (⟨before, t, after, rfl, inPlace, wrong⟩ | ⟨inPlace, uneven, rfl⟩)
    · rw [← before.getLast?.or_none] at wrong
      obtain ⟨cause, refused, same⟩ := placed_of_misplaced inPlace wrong after
      refine ⟨cause, ?_, same⟩
      rw [ofTokens_eq_placed, refused]
      rfl
    · exact ⟨.unbalanced, (ofTokens_of_inPlace inPlace).2 uneven, rfl⟩

/-- Tokens and well-placed elements are the same thing. Tokens that are classified are those of the
elements, which are well placed; and elements that are well placed are what their tokens are
classified as. Tokens are not classified if one is misplaced, and the first one decides why; or if
none is, but the parentheses are not even. -/
theorem ofTokens_erased :
    (∀ tokens es, ofTokens tokens = .ok es ↔ es.map token = tokens ∧ WellPlaced es) ∧
    (∀ tokens detail, (ofTokens tokens).mapError Malformed.detail = .error detail ↔
      (∃ before t after, tokens = before ++ t :: after ∧ InPlace none before ∧
        Misplaced before.getLast? t detail) ∨
      (InPlace none tokens ∧ tokens.count (.symbol '(') ≠ tokens.count (.symbol ')') ∧
        detail = "unbalanced parentheses")) :=
  ⟨fun _ _ => ofTokens_eq_ok_iff, fun _ _ => mapError_ofTokens_eq_error⟩

end Reckoner.Element
