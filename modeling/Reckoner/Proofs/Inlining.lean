import Reckoner.Proofs.Placement
import Reckoner.Proofs.Rpn.Stack
import Reckoner.Proofs.Rpn.Yard
import Reckoner.Proofs.Stages

/-!
# Assigned variables and inlined expressions

Using a variable after giving it the value of an expression is the same as writing that
expression in parentheses in the variable's place, whatever stands around it. Each stage
commutes with the replacement: a variable and a closing parenthesis both end an operand,
what stands between parentheses is written as one block, and the block puts one value on
the stack.

Results:
* `placed_inline`, `read_replace`, `run_replace`: the three stages.
* `Token.value_set_eq_value_inline`: the outcomes are equal, faults included.
-/
namespace Reckoner

open Outcome

/-- The tokens with an expression in parentheses in place of a variable. -/
def Token.inline (name : String) (right tokens : List Token) : List Token :=
  tokens.flatMap fun t =>
    if t = .identifier name then .symbol '(' :: right ++ [.symbol ')'] else [t]

/-- The elements with other elements in place of a variable. -/
def Element.replace (name : String) (block es : List Element) : List Element :=
  es.flatMap fun e => if e = .var name then block else [e]

namespace Element

variable (name : String) (block : List Element)

@[simp]
theorem replace_nil : replace name block [] = [] := rfl

@[simp]
theorem replace_var (es : List Element) :
    replace name block (.var name :: es) = block ++ replace name block es := by
  simp [replace]

theorem replace_cons {e : Element} (h : e ≠ .var name) (es : List Element) :
    replace name block (e :: es) = e :: replace name block es := by
  simp [replace, h]

theorem reverse_replace (es : List Element) :
    (replace name block.reverse es).reverse = replace name block es.reverse := by
  simp only [replace, List.reverse_flatMap]
  congr 1
  funext e
  simp only [Function.comp]
  split <;> simp

theorem placed_group {right : List Token} {es : List Element} (h : placed none right = .ok es)
    (previous : Option Token) (rest : List Token) :
    placed previous (.symbol '(' :: right ++ [.symbol ')'] ++ rest) =
      (placed (some (.symbol ')')) rest).map (opening :: es ++ [closing] ++ ·) := by
  have inner : placed (some (.symbol '(')) right = .ok es := by
    rw [← h]
    exact placed_congr (p := some (.symbol '(')) (q := none) rfl right
  rw [List.cons_append, List.cons_append, List.append_assoc, placed_cons, classify_opening,
    ok_bind, placed_append, inner, ok_bind, List.singleton_append, placed_cons, classify_closing,
    ok_bind]
  cases placed (some (.symbol ')')) rest with
  | error cause => rfl
  | ok fs => simp

theorem ne_var_of_classify {previous : Option Token} {t : Token} {e : Element}
    (h : classify previous t = .ok e) (ne : t ≠ .identifier name) : e ≠ .var name := by
  cases standsFor_of_classify h with
  | number v => simp
  | var other =>
    intro eq
    cases eq
    exact ne rfl
  | opening => simp
  | closing => simp
  | binary op after => simp
  | unary op before => simp

variable {name}

theorem placed_inline {right : List Token} {es : List Element} (h : placed none right = .ok es)
    (ts : List Token) {p q : Option Token} (same : endsOperand p = endsOperand q) :
    placed p (Token.inline name right ts) =
      (placed q ts).map (replace name (opening :: es ++ [closing])) := by
  induction ts generalizing p q with
  | nil => rfl
  | cons t ts ih =>
    by_cases used : t = .identifier name
    · subst used
      have inlined : Token.inline name right (.identifier name :: ts) =
          .symbol '(' :: right ++ [.symbol ')'] ++ Token.inline name right ts := by
        simp [Token.inline]
      have named : classify q (.identifier name) = .ok (.var name) := rfl
      have after := ih (p := some (.symbol ')')) (q := some (.identifier name)) rfl
      rw [inlined, placed_group h, after, placed_cons, named, ok_bind]
      cases placed (some (.identifier name)) ts with
      | error cause => rfl
      | ok fs => simp
    · have kept : Token.inline name right (t :: ts) = t :: Token.inline name right ts := by
        simp [Token.inline, used]
      rw [kept, placed_cons, placed_cons, classify_congr same, ih rfl]
      cases classified : classify q t with
      | error cause => rfl
      | ok e =>
        have ne := ne_var_of_classify name classified used
        cases placed (some t) ts with
        | error cause => rfl
        | ok fs => simp [replace_cons name _ ne]

theorem count_replace (name : String) {es : List Element} (h : es.count opening = es.count closing)
    (fs : List Element) :
    (replace name (opening :: es ++ [closing]) fs).count opening + fs.count closing =
      (replace name (opening :: es ++ [closing]) fs).count closing + fs.count opening := by
  have block : (opening :: es ++ [closing]).count opening =
      (opening :: es ++ [closing]).count closing := by
    simp [h]
  generalize opening :: es ++ [closing] = group at block ⊢
  induction fs with
  | nil => rfl
  | cons f fs ih =>
    by_cases used : f = .var name
    · subst used
      have opened : (Element.var name :: fs).count opening = fs.count opening :=
        List.count_cons_of_ne (by simp)
      have closed : (Element.var name :: fs).count closing = fs.count closing :=
        List.count_cons_of_ne (by simp)
      rw [replace_var, List.count_append, List.count_append, opened, closed]
      omega
    · rw [replace_cons name _ used, List.count_cons, List.count_cons, List.count_cons,
        List.count_cons]
      omega

theorem balanced_replace {es : List Element} (h : balanced es = true) (fs : List Element) :
    balanced (replace name (opening :: es ++ [closing]) fs) = balanced fs := by
  have even : es.count opening = es.count closing := by simpa [balanced] using h
  have counts := count_replace name even fs
  rw [Bool.eq_iff_iff]
  simp only [balanced, beq_iff_eq]
  omega

theorem ofTokens_inline {right : List Token} {es : List Element} (h : ofTokens right = .ok es)
    (ts : List Token) :
    ofTokens (Token.inline name right ts) =
      (ofTokens ts).map (replace name (opening :: es ++ [closing])) := by
  obtain ⟨places, even⟩ := ofTokens_eq_ok.1 h
  rw [ofTokens_eq_placed, ofTokens_eq_placed, placed_inline places ts (q := none) rfl]
  cases placed none ts with
  | error cause => rfl
  | ok fs =>
    simp only [ok_map, ok_bind, balanced_replace even]
    split <;> rfl

end Element

namespace Rpn

open Element (replace replace_var replace_cons reverse_replace)

variable {name : String} {es : List Element} {rpn : Rpn}

/-! ## Reverse Polish notation -/

namespace Yard

/-- The yard with the block written in place of the variable; what is held has no operands. -/
def inlined (name : String) (rpn : Rpn) (y : Yard) : Yard :=
  ⟨replace name rpn.reverse y.written, y.held⟩

theorem step_inlined {e : Element} (ne : e ≠ .var name) (y : Yard) :
    (y.inlined name rpn).step (some e) = (y.step (some e)).map (inlined name rpn) :=
  step_rewritten _ (fun _ => replace_cons name _ (by simp)) (replace_cons name _ ne) y

theorem read_replace (h : ofElements es = .ok rpn) (fs : List Element) (y : Yard) :
    (y.inlined name rpn).read (replace name (.opening :: es ++ [.closing]) fs) =
      (y.read fs).map (inlined name rpn) := by
  induction fs generalizing y with
  | nil => rfl
  | cons f fs ih =>
    by_cases used : f = .var name
    · subst used
      have wrote : (⟨rpn.reverse ++ (y.inlined name rpn).written, (y.inlined name rpn).held⟩ : Yard)
          = (y.write (.var name)).inlined name rpn := by
        simp [inlined, write]
      rw [replace_var, read_append, read_group h, ok_bind, wrote, ih]
      rfl
    · rw [replace_cons name _ used, read_cons, read_cons, step_inlined used]
      cases y.step (some f) with
      | error cause => rfl
      | ok next => exact ih next

theorem finish_inlined (y : Yard) :
    (y.inlined name rpn).finish = y.finish.map (replace name rpn) :=
  finish_rewritten _ (fun _ => replace_cons name _ (by simp)) (reverse_replace name rpn) y

end Yard

theorem ofElements_replace (h : ofElements es = .ok rpn) (fs : List Element) :
    ofElements (replace name (.opening :: es ++ [.closing]) fs) =
      (ofElements fs).map (replace name rpn) := by
  have ran : Yard.start.read (replace name (.opening :: es ++ [.closing]) fs) =
      (Yard.start.read fs).map (Yard.inlined name rpn) :=
    Yard.read_replace h fs .start
  rw [ofElements_eq_read, ofElements_eq_read, ran]
  cases Yard.start.read fs with
  | error cause => rfl
  | ok y => exact Yard.finish_inlined y

/-! ## Values -/

variable {limits : Limits} {store : Store} {v : Int}

theorem step_set {e : Element} (ne : e ≠ .var name) (stack : List Int) :
    step limits (store.set name v) stack e = step limits store stack e := by
  cases e with
  | var other =>
    have apart : other ≠ name := fun eq => ne (eq ▸ rfl)
    simp only [step, Store.get?_set_of_ne store v apart]
  | number w => rfl
  | operator op => cases op <;> rfl
  | opening => rfl
  | closing => rfl

theorem run_replace (h : value limits store rpn = .ok v) (fs : List Element) (stack : List Int) :
    run limits store stack (replace name rpn fs) = run limits (store.set name v) stack fs := by
  induction fs generalizing stack with
  | nil => rfl
  | cons f fs ih =>
    by_cases used : f = .var name
    · subst used
      have pushed : step limits (store.set name v) stack (.var name) = .ok (v :: stack) := by
        simp only [step, Store.get?_set_self]
      rw [replace_var, run_append, run_of_value h, run_cons, pushed, ok_bind, ok_bind, ih]
    · rw [replace_cons name _ used, run_cons, run_cons, step_set used]
      congr 1
      funext next
      exact ih next

theorem value_replace (h : value limits store rpn = .ok v) (fs : List Element) :
    value limits store (replace name rpn fs) = value limits (store.set name v) fs := by
  rw [value_eq_run, value_eq_run, run_replace h]

end Rpn

namespace Token

theorem rpn_inline {right : List Token} {rpn : Rpn} (h : Token.rpn right = .ok rpn)
    (name : String) (tokens : List Token) :
    Token.rpn (inline name right tokens) = (Token.rpn tokens).map (Element.replace name rpn) := by
  obtain ⟨es, placed, ordered⟩ := rpn_eq_ok.1 h
  rw [Token.rpn, Element.ofTokens_inline placed, Token.rpn]
  cases Element.ofTokens tokens with
  | error cause => rfl
  | ok fs => exact Rpn.ofElements_replace ordered fs

/-- Assigning a value and using the variable has the outcome of writing the expression in the
variable's place. -/
theorem value_set_eq_value_inline {limits : Limits} {store : Store} {right : List Token} {v : Int}
    (h : Token.value limits store right = .ok v) (name : String) (tokens : List Token) :
    Token.value limits (store.set name v) tokens =
      Token.value limits store (inline name right tokens) := by
  obtain ⟨rpn, ordered, valued⟩ := value_eq_ok.1 h
  rw [Token.value, Token.value, rpn_inline ordered]
  cases Token.rpn tokens with
  | error cause => rfl
  | ok fs => exact (Rpn.value_replace valued fs).symm

/-- The right side may mention the variable itself, with the value it had. -/
theorem value_set_eq_value_inline_self :
    let store := Store.empty.set "a" 3
    inline "a" (scan "a - 1") (scan "-a^a * a") = scan "-(a - 1)^(a - 1) * (a - 1)" ∧
      Token.value {} (store.set "a" 2) (scan "-a^a * a") =
        Token.value {} store (inline "a" (scan "a - 1") (scan "-a^a * a")) ∧
      Token.value {} (store.set "a" 2) (scan "-a^a * a") = .ok 8 := by
  have valued : Token.value {} (Store.empty.set "a" 3) (scan "a - 1") = .ok 2 := rfl
  exact ⟨by decide +kernel, value_set_eq_value_inline valued "a" _, rfl⟩

end Token

end Reckoner
