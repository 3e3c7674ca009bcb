import Reckoner.Element
import Reckoner.Proofs.Outcome

/-!
# Tokens in their places

What a symbol stands for depends on its place: on whether the token before it ends an
operand. Nothing else of the token before matters.

Results:
* `placed_append`: the second part of a token list is read as if it stood alone, after the
  last token of the first part.
* `placed_congr`: two tokens that both end an operand, or both do not, are the same place.
* `standsFor_of_classify`: all that a token can stand for, by its place.
* `exists_place_of_mem`: each element of a list has its token and its place.
* `ofTokens_eq_ok`: the elements of a token list are those in their places, if the
  parentheses balance.
-/
namespace Reckoner.Element

open Outcome

/-- The elements of tokens that come after `previous`, whatever their parentheses. -/
def placed (previous : Option Token) (tokens : List Token) : Except Malformed (List Element) :=
  (withPrevious previous tokens).mapM fun (previous, token) => classify previous token

theorem placed_cons (previous : Option Token) (t : Token) (ts : List Token) :
    placed previous (t :: ts) =
      classify previous t >>= fun e => placed (some t) ts >>= fun es => .ok (e :: es) := by
  simp only [placed, withPrevious_cons, List.mapM_cons]
  rfl

theorem placed_append (previous : Option Token) (ts us : List Token) :
    placed previous (ts ++ us) =
      placed previous ts >>= fun es => placed (ts.getLast?.or previous) us >>= fun fs =>
        .ok (es ++ fs) := by
  simp only [placed, withPrevious_append, List.mapM_append]
  rfl

theorem placed_cons_eq_ok {previous : Option Token} {t : Token} {ts : List Token}
    {es : List Element} :
    placed previous (t :: ts) = .ok es ↔
      ∃ f fs, classify previous t = .ok f ∧ placed (some t) ts = .ok fs ∧ es = f :: fs := by
  rw [placed_cons, bind_eq_ok]
  simp only [bind_eq_ok, Except.ok.injEq]
  constructor
  · rintro ⟨f, first, fs, others, rfl⟩
    exact ⟨f, fs, first, others, rfl⟩
  · rintro ⟨f, fs, first, others, rfl⟩
    exact ⟨f, first, fs, others, rfl⟩

theorem ofTokens_eq_placed (tokens : List Token) :
    ofTokens tokens =
      placed none tokens >>= fun es => if balanced es then .ok es else .error .unbalanced := rfl

theorem ofTokens_eq_ok {tokens : List Token} {es : List Element} :
    ofTokens tokens = .ok es ↔ placed none tokens = .ok es ∧ balanced es = true := by
  rw [ofTokens_eq_placed, bind_eq_ok]
  constructor
  · rintro ⟨fs, ran, checked⟩
    split at checked
    · rename_i even
      cases checked
      exact ⟨ran, even⟩
    · cases checked
  · rintro ⟨ran, even⟩
    exact ⟨es, ran, if_pos even⟩

theorem last_cons (previous : Option Token) (t : Token) (ts : List Token) :
    (t :: ts).getLast?.or previous = ts.getLast?.or (some t) := by
  rw [List.getLast?_cons]
  cases ts.getLast? <;> rfl

theorem last_append (previous : Option Token) (ts us : List Token) :
    (ts ++ us).getLast?.or previous = us.getLast?.or (ts.getLast?.or previous) := by
  rw [List.getLast?_append, Option.or_assoc]

theorem classify_congr {p q : Option Token} (h : endsOperand p = endsOperand q) (t : Token) :
    classify p t = classify q t := by
  cases t with
  | integer v => rfl
  | identifier name => rfl
  | symbol c => simp only [classify, h]

theorem placed_congr {p q : Option Token} (h : endsOperand p = endsOperand q) (ts : List Token) :
    placed p ts = placed q ts := by
  cases ts with
  | nil => rfl
  | cons t ts => rw [placed_cons, placed_cons, classify_congr h]

/-! ## What symbols stand for -/

@[simp]
theorem classify_opening (p : Option Token) : classify p (.symbol '(') = .ok opening := by
  cases h : endsOperand p <;> simp only [classify, h] <;> rfl

@[simp]
theorem classify_closing (p : Option Token) : classify p (.symbol ')') = .ok closing := by
  cases h : endsOperand p <;> simp only [classify, h] <;> rfl

/-- After an operand an operator's symbol is the binary operator. -/
theorem classify_binary {p : Option Token} (h : endsOperand p = true) (op : BinaryOp) :
    classify p (.symbol op.symbol) = .ok (operator (.binary op op.precedence)) := by
  simp only [classify, h, if_true, afterOperand, BinaryOp.ofSymbol?_symbol]

/-- Elsewhere it is the sign. -/
theorem classify_unary {p : Option Token} (h : endsOperand p = false) (op : UnaryOp) :
    classify p (.symbol op.symbol) = .ok (operator (.unary op op.precedence)) := by
  simp only [classify, h, Bool.false_eq_true, if_false, beforeOperand, UnaryOp.ofSymbol?_symbol]

theorem symbol_of_binary {c : Char} {op : BinaryOp} (h : BinaryOp.ofSymbol? c = some op) :
    c = op.symbol := by
  unfold BinaryOp.ofSymbol? at h
  split at h <;> cases h <;> rfl

theorem symbol_of_unary {c : Char} {op : UnaryOp} (h : UnaryOp.ofSymbol? c = some op) :
    c = op.symbol := by
  unfold UnaryOp.ofSymbol? at h
  split at h <;> cases h <;> rfl

/-- What a token stands for after `previous`. -/
inductive StandsFor (previous : Option Token) : Token → Element → Prop where
  | number (value : Int) : StandsFor previous (.integer value) (.number value)
  | var (name : String) : StandsFor previous (.identifier name) (.var name)
  | opening : StandsFor previous (.symbol '(') .opening
  | closing : StandsFor previous (.symbol ')') .closing
  | binary (op : BinaryOp) (after : endsOperand previous = true) :
    StandsFor previous (.symbol op.symbol) (.operator (.binary op op.precedence))
  | unary (op : UnaryOp) (before : endsOperand previous = false) :
    StandsFor previous (.symbol op.symbol) (.operator (.unary op op.precedence))

theorem standsFor_of_parenthesis {previous : Option Token} {c : Char} {e : Element}
    (h : parenthesis c = .ok e) : StandsFor previous (.symbol c) e := by
  unfold parenthesis at h
  split at h
  · rename_i eq
    cases h
    rw [eq]
    exact .opening
  · split at h
    · rename_i eq
      cases h
      rw [eq]
      exact .closing
    · cases h

theorem standsFor_of_classify {previous : Option Token} {t : Token} {e : Element}
    (h : classify previous t = .ok e) : StandsFor previous t e := by
  cases t with
  | integer v => cases h; exact .number v
  | identifier name => cases h; exact .var name
  | symbol c =>
    cases place : endsOperand previous with
    | true =>
      simp only [classify, place, if_true, afterOperand] at h
      split at h
      · rename_i op found
        cases h
        rw [symbol_of_binary found]
        exact .binary op place
      · exact standsFor_of_parenthesis h
    | false =>
      simp only [classify, place, Bool.false_eq_true, if_false, beforeOperand] at h
      split at h
      · rename_i _ op found
        cases h
        rw [symbol_of_unary found]
        exact .unary op place
      · cases h
      · exact standsFor_of_parenthesis h

/-! ## Tokens and elements of a list -/

/-- Each token of a list that has elements stands for one. -/
theorem exists_standsFor_of_mem {previous : Option Token} {tokens : List Token}
    {es : List Element} (h : placed previous tokens = .ok es) {t : Token} (mem : t ∈ tokens) :
    ∃ before e, StandsFor before t e := by
  induction tokens generalizing previous es with
  | nil => cases mem
  | cons head rest ih =>
    obtain ⟨e, fs, first, others, rfl⟩ := placed_cons_eq_ok.1 h
    rcases List.mem_cons.1 mem with rfl | mem
    · exact ⟨previous, e, standsFor_of_classify first⟩
    · exact ih others mem

/-- Each element is what some token stands for in its place. -/
theorem exists_place_of_mem {previous : Option Token} {tokens : List Token}
    {es : List Element} (h : placed previous tokens = .ok es) {e : Element} (mem : e ∈ es) :
    ∃ before t after, tokens = before ++ t :: after ∧
      StandsFor (before.getLast?.or previous) t e := by
  induction tokens generalizing previous es with
  | nil =>
    cases h
    cases mem
  | cons head rest ih =>
    obtain ⟨f, fs, first, others, rfl⟩ := placed_cons_eq_ok.1 h
    rcases List.mem_cons.1 mem with rfl | mem
    · exact ⟨[], head, rest, rfl, standsFor_of_classify first⟩
    · obtain ⟨before, t, after, rfl, stands⟩ := ih others mem
      refine ⟨head :: before, t, after, rfl, ?_⟩
      rwa [last_cons]

end Reckoner.Element
