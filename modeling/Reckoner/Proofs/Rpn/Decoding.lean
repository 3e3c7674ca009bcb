import Reckoner.Proofs.Numerals
import Reckoner.Proofs.Rpn.Shape
import Reckoner.Proofs.Rpn.Tree

/-!
# Trees read back

Reverse Polish notation needs no parentheses, for the tree is read back from it: on a stack of
trees in place of values, an operand is put as a leaf, and an operator takes the trees of its
operands off and puts its own. The trees on the stack always have, one after the other, the
elements read so far as their postorders. And there are as many trees as there would be values, so
elements that have a value are read back as one tree.

Main definitions:
* `Rpn.plant`, `Rpn.trees`: the stack of trees after one element, and after some.

Results:
* `Tree.trees_postorder`: a postorder is read back as its tree, on top of any stack.
* `plant_elements`, `trees_elements`: what is read back has the elements read as its postorders.
* `exists_plant`, `exists_trees`: where evaluation goes on, reading back does.
* `value_tree_or_error`: elements are the postorder of one tree at most; evaluation has the outcome
  of the tree, or fails for want of one.
-/
namespace Reckoner

open Outcome

namespace Rpn

/-- The stack of trees after reading one element; the last tree comes first. -/
def plant (stack : List Tree) : Element → Option (List Tree)
  | .number value => some (.number value :: stack)
  | .var name => some (.var name :: stack)
  | .operator (.binary op p) =>
    match stack with
    | right :: left :: rest => some (.binary op p left right :: rest)
    | _ => none
  | .operator (.unary op p) =>
    match stack with
    | operand :: rest => some (.unary op p operand :: rest)
    | [] => none
  | .opening => none
  | .closing => none

/-- The stack of trees after reading some elements. -/
def trees (stack : List Tree) (rpn : Rpn) : Option (List Tree) := rpn.foldlM plant stack

theorem trees_cons (stack : List Tree) (e : Element) (rpn : Rpn) :
    trees stack (e :: rpn) = (plant stack e).bind fun stack => trees stack rpn :=
  List.foldlM_cons

theorem trees_append (stack : List Tree) (rpn rest : Rpn) :
    trees stack (rpn ++ rest) = (trees stack rpn).bind fun stack => trees stack rest :=
  List.foldlM_append

end Rpn

namespace Tree

theorem trees_postorder (t : Tree) (stack : List Tree) :
    Rpn.trees stack t.postorder = some (t :: stack) := by
  induction t generalizing stack with
  | number v => rfl
  | var name => rfl
  | binary op p left right ihl ihr =>
    rw [postorder, Rpn.trees_append, Rpn.trees_append, ihl, Option.bind_some, ihr]
    rfl
  | unary op p operand ih =>
    rw [postorder, Rpn.trees_append, ih]
    rfl

theorem postorder_injective {t u : Tree} (h : t.postorder = u.postorder) : t = u := by
  have read := trees_postorder t []
  rw [h, trees_postorder u []] at read
  cases read
  rfl

end Tree

namespace Rpn

/-- The postorders of the trees on a stack, from the first tree to the last. -/
def elements (stack : List Tree) : Rpn := stack.reverse.flatMap Tree.postorder

theorem elements_cons (t : Tree) (stack : List Tree) :
    elements (t :: stack) = elements stack ++ t.postorder := by
  simp [elements]

theorem plant_elements {stack stack' : List Tree} {e : Element} (h : plant stack e = some stack') :
    elements stack' = elements stack ++ [e] := by
  cases e with
  | number v =>
    cases h
    rw [elements_cons, Tree.postorder]
  | var name =>
    cases h
    rw [elements_cons, Tree.postorder]
  | operator op =>
    cases op with
    | binary op p =>
      rcases stack with _ | ⟨right, _ | ⟨left, rest⟩⟩
      · cases h
      · cases h
      · cases h
        simp only [elements_cons, Tree.postorder, List.append_assoc]
    | unary op p =>
      rcases stack with _ | ⟨operand, rest⟩
      · cases h
      · cases h
        simp only [elements_cons, Tree.postorder, List.append_assoc]
  | opening => cases h
  | closing => cases h

theorem trees_elements {stack stack' : List Tree} {rpn : Rpn}
    (h : trees stack rpn = some stack') : elements stack' = elements stack ++ rpn := by
  induction rpn generalizing stack with
  | nil =>
    cases h
    rw [List.append_nil]
  | cons e rpn ih =>
    rw [trees_cons] at h
    obtain ⟨next, planted, rest⟩ := Option.bind_eq_some_iff.1 h
    rw [ih rest, plant_elements planted, List.append_assoc, List.singleton_append]

/-! ## Evaluation next to reading back -/

variable {limits : Limits} {store : Store}

/-- Where there are values enough, there are trees enough. -/
theorem exists_plant {stack stack' : List Int} {e : Element}
    (h : Steps limits store stack e stack') {ts : List Tree} (high : ts.length = stack.length) :
    ∃ ts', plant ts e = some ts' ∧ ts'.length = stack'.length := by
  cases h with
  | number v => exact ⟨_, rfl, congrArg (· + 1) high⟩
  | var bound => exact ⟨_, rfl, congrArg (· + 1) high⟩
  | binary p applied rest =>
    rcases ts with _ | ⟨right, _ | ⟨left, ts⟩⟩
    · cases high
    · cases high
    · exact ⟨_, rfl, Nat.succ.inj high⟩
  | unary op p a rest =>
    rcases ts with _ | ⟨operand, ts⟩
    · cases high
    · exact ⟨_, rfl, high⟩

theorem exists_trees {stack stack' : List Int} {rpn : Rpn}
    (h : run limits store stack rpn = .ok stack') {ts : List Tree}
    (high : ts.length = stack.length) :
    ∃ ts', trees ts rpn = some ts' ∧ ts'.length = stack'.length := by
  induction rpn generalizing stack ts with
  | nil =>
    cases h
    exact ⟨ts, rfl, high⟩
  | cons e rpn ih =>
    rw [run_cons] at h
    obtain ⟨next, stepped, rest⟩ := bind_eq_ok.1 h
    obtain ⟨us, planted, highNext⟩ := exists_plant (steps_of_step stepped) high
    obtain ⟨ts', read, highLast⟩ := ih rest highNext
    refine ⟨ts', ?_, highLast⟩
    rw [trees_cons, planted, Option.bind_some, read]

theorem exists_postorder_of_value {rpn : Rpn} {v : Int} (h : value limits store rpn = .ok v) :
    ∃ t : Tree, t.postorder = rpn := by
  obtain ⟨ts, read, high⟩ := exists_trees (value_eq_ok.1 h) List.length_nil
  obtain ⟨t, rfl⟩ := List.length_eq_one_iff.1 high
  have all := trees_elements read
  rw [elements_cons] at all
  exact ⟨t, all⟩

/-! ## Values left over -/

theorem step_ne_valuesLeft {stack : List Int} {e : Element} (n : Nat) :
    step limits store stack e ≠ .error (.expression (.valuesLeft n)) := by
  intro h
  cases e with
  | number v => cases h
  | var name =>
    simp only [step] at h
    split at h <;> cases h
  | operator op =>
    cases op with
    | binary op p =>
      rcases stack with _ | ⟨b, _ | ⟨a, rest⟩⟩
      · cases h
      · cases h
      · cases fails_of_apply (map_eq_error.1 h) store p with
        | power p refused => cases isOfPower_of_power refused
    | unary op p =>
      rcases stack with _ | ⟨a, rest⟩
      · cases h
      · cases h
  | opening => cases h
  | closing => cases h

theorem run_ne_valuesLeft {stack : List Int} {rpn : Rpn} (n : Nat) :
    run limits store stack rpn ≠ .error (.expression (.valuesLeft n)) := by
  intro h
  induction rpn generalizing stack with
  | nil => cases h
  | cons e rpn ih =>
    rw [run_cons] at h
    rcases bind_eq_error.1 h with stopped | ⟨next, -, rest⟩
    · exact step_ne_valuesLeft n stopped
    · exact ih rest

/-- Values are left over only once all elements are evaluated. -/
theorem run_of_valuesLeft {rpn : Rpn} {n : Nat}
    (h : value limits store rpn = .error (.expression (.valuesLeft n))) :
    ∃ stack, run limits store [] rpn = .ok stack ∧ stack.length = n ∧ n ≠ 1 := by
  rw [value_eq_run] at h
  rcases bind_eq_error.1 h with stopped | ⟨stack, ran, counted⟩
  · exact absurd stopped (run_ne_valuesLeft n)
  · refine ⟨stack, ran, ?_⟩
    rcases stack with _ | ⟨v, _ | ⟨w, rest⟩⟩
    · cases counted
      exact ⟨rfl, by decide⟩
    · cases counted
    · cases counted
      exact ⟨rfl, by simp⟩

end Rpn

namespace Malformed

theorem head?_append {s t : String} {c : Char} (h : s.toList.head? = some c) :
    (s ++ t).toList.head? = some c := by
  rw [String.toList_append, List.head?_append, h, Option.some_or]

/-- All other details start with a letter or a quote. -/
theorem eq_valuesLeft_or_head? (c : Malformed) :
    (∃ n, c = .valuesLeft n) ∨
      ∃ d, c.detail.toList.head? = some d ∧ ¬(d = '-' ∨ d.isDigit = true) := by
  cases c with
  | unsupportedSymbol symbol => exact .inr ⟨'u', head?_append rfl, by decide⟩
  | noLeftOperand symbol => exact .inr ⟨'o', head?_append (head?_append rfl), by decide⟩
  | unbalanced => exact .inr ⟨'u', rfl, by decide⟩
  | unmatchedClosing => exact .inr ⟨'\'', rfl, by decide⟩
  | unmatchedOpening => exact .inr ⟨'\'', rfl, by decide⟩
  | emptySlot => exact .inr ⟨'u', rfl, by decide⟩
  | tooFewOperands op => exact .inr ⟨'n', head?_append rfl, by decide⟩
  | noOperand op => exact .inr ⟨'m', head?_append rfl, by decide⟩
  | strayParenthesis symbol => exact .inr ⟨'u', head?_append (head?_append rfl), by decide⟩
  | valuesLeft n => exact .inl ⟨n, rfl⟩
  | negativeExponent => exact .inr ⟨'n', rfl, by decide⟩
  | exponentTooLarge limit => exact .inr ⟨'e', head?_append rfl, by decide⟩
  | resultTooLarge limit => exact .inr ⟨'r', head?_append (head?_append rfl), by decide⟩

theorem eq_valuesLeft_of_detail {c : Malformed} {n : Int}
    (h : c.detail = Decimal.text n ++ " values left on the stack") :
    ∃ count : Nat, c = .valuesLeft count ∧ n = count := by
  rcases c.eq_valuesLeft_or_head? with ⟨count, rfl⟩ | ⟨d, first, other⟩
  · refine ⟨count, rfl, Decimal.text_injective ?_⟩
    exact (String.append_left_inj _).1 h.symm
  · obtain ⟨e, last, -⟩ := Decimal.getLast?_chars n
    obtain ⟨e, rest, number⟩ :=
      List.exists_cons_of_ne_nil (List.ne_nil_of_mem (List.mem_of_getLast? last))
    have numeral : (Decimal.text n).toList.head? = some e := by
      rw [Decimal.toList_text, number, List.head?_cons]
    rw [h, head?_append numeral] at first
    cases first
    exact absurd (Decimal.eq_minus_or_isDigit (number ▸ List.mem_cons_self ..)) other

end Malformed

namespace Rpn

/-- Elements are the postorder of one tree at most. If they are that of a tree, evaluation has the
outcome of the tree, and if they are that of no tree, it fails. When it fails because of the values
that are left over, then there is one for each operand less one for each binary operator, which
makes some other number than one. -/
theorem value_tree_or_error (limits : Limits) (store : Store) (rpn : Rpn) :
    (∀ t u : Tree, t.postorder = rpn → u.postorder = rpn → t = u) ∧
    (∀ t : Tree, t.postorder = rpn → value limits store rpn = t.value limits store) ∧
    ((¬∃ t : Tree, t.postorder = rpn) → ∃ f, value limits store rpn = .error f) ∧
    (∀ (f : Fault) (n : Int), value limits store rpn = .error f →
      f.notice = ⟨.expression, Decimal.text n ++ " values left on the stack"⟩ →
      n = rpn.countP Element.isOperand - rpn.countP Element.isBinary ∧ n ≠ 1) := by
  refine ⟨?unique, ?agrees, ?fails, ?counts⟩
  case unique =>
    intro t u first second
    exact Tree.postorder_injective (first.trans second.symm)
  case agrees =>
    rintro t rfl
    exact t.value_postorder limits store
  case fails =>
    intro noTree
    cases valued : value limits store rpn with
    | error f => exact ⟨f, rfl⟩
    | ok v => exact absurd (exists_postorder_of_value valued) noTree
  case counts =>
    intro f n faulty noticed
    obtain ⟨kind, detail⟩ := Notice.mk.inj noticed
    cases f with
    | expression cause =>
      obtain ⟨count, rfl, rfl⟩ := Malformed.eq_valuesLeft_of_detail detail
      obtain ⟨stack, ran, high, other⟩ := run_of_valuesLeft faulty
      have height := run_height ran
      rw [List.length_nil] at height
      omega
    | identifier left => cases kind
    | assignment cause => cases kind
    | unknownVariable name => cases kind
    | divisionByZero => cases kind
    | unwritable => cases kind

end Rpn

end Reckoner
