import Reckoner.Session
import Reckoner.Proofs.EntryPoints
import Reckoner.Proofs.Infix.Value
import Reckoner.Proofs.Lexemes

/-!
# What is printed is read back

The text of an integer is an expression with that integer as its value: its digits are one token,
however many there are, and the sign of a negative one is an operator on its magnitude. So a value
that is printed can be assigned to any name as it stands, and the name prints it again.

Results:
* `Expression.value_text`: the text of an integer has the integer as its value.
* `Expression.value_name`: a name has the value that the store gives it.
* `Statement.assign_of_value`: whatever has a value can be assigned to a name.
* `Session.reads_back`: all of it, as lines of a session.
-/
namespace Reckoner

open Outcome

namespace Derivation

def numeral (z : Int) : Derivation .operand :=
  if z < 0 then .signed .minus (.integer z.natAbs) else .integer z

theorem tokens_numeral (z : Int) : (numeral z).tokens = Token.scan (Decimal.text z) := by
  rw [Token.scan, Decimal.toList_text, Token.scanChars_text, numeral]
  split <;> rfl

theorem value_numeral (limits : Limits) (store : Store) (z : Int) :
    (numeral z).value limits store = .ok z := by
  rw [numeral]
  split
  · rename_i negative
    have magnitude : -(z.natAbs : Int) = z := by omega
    exact congrArg Except.ok magnitude
  · rfl

end Derivation

namespace Expression

theorem value_text (limits : Limits) (store : Store) (z : Int) :
    value limits store (Decimal.text z) = .ok z := by
  rw [value, ← Derivation.tokens_numeral, Token.value_tokens, Derivation.value_numeral]

theorem value_name {name : String} (h : Text.isName name = true) {store : Store} {v : Int}
    (bound : store.get? name = some v) (limits : Limits) :
    value limits store name = .ok v := by
  have tokens : Token.scan name = (Derivation.identifier name).tokens := Token.scan_name h
  rw [value, tokens, Token.value_tokens, Derivation.value, bound]

end Expression

/-! ## Assignments -/

variable {limits : Limits} {store : Store}

theorem Token.ne_nil_of_value {tokens : List Token} {v : Int}
    (h : Token.value limits store tokens = .ok v) : tokens ≠ [] := by
  rintro rfl
  cases h

theorem Token.assignSign_notMem_of_value {tokens : List Token} {v : Int}
    (h : Token.value limits store tokens = .ok v) : assignSign ∉ tokens := by
  intro mem
  obtain ⟨rpn, converted, -⟩ := value_eq_ok.1 h
  obtain ⟨es, classified, -⟩ := rpn_eq_ok.1 converted
  obtain ⟨places, -⟩ := Element.ofTokens_eq_ok.1 classified
  obtain ⟨before, e, stands⟩ := Element.exists_standsFor_of_mem places mem
  generalize sign : assignSign = t at stands
  cases stands with
  | number v => cases sign
  | var name => cases sign
  | opening => cases sign
  | closing => cases sign
  | binary op after => cases op <;> cases sign
  | unary op before => cases op <;> cases sign

namespace Statement

variable {left right name : String}

theorem notMem_of_scan (h : Token.scan left = [.identifier name]) : '=' ∉ left.toList := by
  intro mem
  have token := assignSign_mem_scan.2 mem
  rw [h] at token
  cases List.mem_singleton.1 token

/-- Whatever has a value can be assigned to a name. -/
theorem assign_of_value (one : Token.scan left = [.identifier name]) {v : Int}
    (h : Expression.value limits store right = .ok v) :
    assign limits store left right = .ok (.assigned name v) := by
  have single : ((Token.scan right).isEmpty || (Token.scan right).contains assignSign) = false := by
    rw [Bool.eq_false_iff, Ne, Bool.or_eq_true, List.isEmpty_iff, List.contains_iff_mem]
    exact not_or.2 ⟨Token.ne_nil_of_value h, Token.assignSign_notMem_of_value h⟩
  have valued : Token.value limits store (Token.scan right) = .ok v := h
  simp only [assign, one, Token.soleName?, run, rightValue, single, Bool.false_eq_true, if_false,
    valued, ok_mapError, ok_map]

theorem execute_of_value (one : Token.scan left = [.identifier name]) {v : Int}
    (h : Expression.value limits store right = .ok v) :
    execute limits store (left ++ "=" ++ right) = .ok (.assigned name v) :=
  (execute_eq_ok (notMem_of_scan one)).2 (assign_of_value one h)

theorem execute_name (h : Text.isName name = true) {v : Int} (bound : store.get? name = some v) :
    execute limits store name = .ok (.value v) := by
  rw [execute_eq_value (notMem_of_scan (Token.scan_name h)), Expression.value_name h bound]
  rfl

end Statement

/-! ## Lines -/

theorem Text.strip_eq_self {text : String}
    (first : ∀ c ∈ text.toList.head?, isBlank c = false)
    (last : ∀ c ∈ text.toList.getLast?, isBlank c = false) : strip text = text := by
  have kept (cs : List Char) (h : ∀ c ∈ cs.head?, isBlank c = false) :
      cs.dropWhile isBlank = cs := by
    cases cs with
    | nil => rfl
    | cons c rest => exact List.dropWhile_cons_of_neg (by simp [h c rfl])
  rw [← List.head?_reverse] at last
  rw [strip, trim, trimBy, kept _ first, kept _ last, List.reverse_reverse, String.ofList_toList]

/-- A line that starts with a letter, and has no blank at its end, is a statement as it stands. -/
theorem Line.read_of_isLetter {line : String} (first : ∃ c ∈ line.toList.head?, Text.isLetter c)
    (last : ∀ c ∈ line.toList.getLast?, Text.isBlank c = false) :
    read line = .statement line := by
  obtain ⟨c, head, letter⟩ := first
  have notBlank : ∀ d ∈ line.toList.head?, Text.isBlank d = false := fun d same => by
    cases head.symm.trans same
    exact Text.not_isBlank_of_isLetter letter
  simp only [read, Text.strip_eq_self notBlank last]
  split
  · rename_i empty
    rw [empty] at head
    cases head
  · rename_i rest slash
    rw [slash] at head
    cases head
    have notLetter : Text.isLetter '/' = false := by decide
    rw [notLetter] at letter
    cases letter
  · rfl

namespace Session

variable {name : String}

theorem exists_head?_name (h : Text.isName name = true) (rest : String) :
    ∃ c ∈ (name ++ rest).toList.head?, Text.isLetter c := by
  obtain ⟨nonempty, letters⟩ := Text.isName_iff.1 h
  refine ⟨name.toList.head nonempty, ?_, letters _ (List.head_mem nonempty)⟩
  rw [String.toList_append, List.head?_append, List.head?_eq_some_head nonempty]
  rfl

theorem read_name (h : Text.isName name = true) : Line.read name = .statement name := by
  have first := exists_head?_name h ""
  rw [String.append_empty] at first
  refine Line.read_of_isLetter first fun c last => ?_
  exact Text.not_isBlank_of_isLetter ((Text.isName_iff.1 h).2 c (List.mem_of_mem_getLast? last))

theorem read_assignment (h : Text.isName name = true) (v : Int) :
    Line.read (name ++ " = " ++ Decimal.text v) =
      .statement (name ++ " = " ++ Decimal.text v) := by
  have first := exists_head?_name h (" = " ++ Decimal.text v)
  rw [← String.append_assoc] at first
  refine Line.read_of_isLetter first fun c last => ?_
  obtain ⟨d, lastDigit, digit⟩ := Decimal.getLast?_chars v
  rw [String.toList_append, List.getLast?_append, Decimal.toList_text, lastDigit] at last
  cases last
  exact Text.not_isBlank_of_isDigit digit

theorem execute_assignment (h : Text.isName name = true) (v : Int) :
    Statement.execute limits store (name ++ " = " ++ Decimal.text v) =
      .ok (.assigned name v) := by
  have blank : Text.isBlank ' ' = true := by decide
  have left : Token.scan (name ++ " ") = [.identifier name] := by
    rw [← Token.scan_name h, Token.scan, String.toList_append]
    exact Token.scanChars_append_blank blank name.toList
  have right : Token.scan (" " ++ Decimal.text v) = Token.scan (Decimal.text v) := by
    rw [Token.scan, String.toList_append]
    exact Token.scanChars_cons_blank blank _
  have cut : name ++ " = " ++ Decimal.text v =
      (name ++ " ") ++ "=" ++ (" " ++ Decimal.text v) := by
    rw [← String.toList_inj]
    simp
  rw [cut]
  refine Statement.execute_of_value left ?_
  rw [Expression.value, right]
  exact Expression.value_text limits store v

/-- The text of an integer has that integer as its value, of whatever size and sign it is. A line
that assigns it to a name always succeeds and prints nothing; and the name by itself prints that
text from then on. -/
theorem reads_back (limits : Limits) (store : Store) (v : Int) :
    Expression.value limits store (Decimal.text v) = .ok v ∧
    ∀ name : String, Text.isName name = true →
      reply limits store (name ++ " = " ++ Decimal.text v) =
        .ok ⟨[], false, store.set name v, (Effect.assigned name v).records⟩ ∧
      reply limits (store.set name v) name =
        .ok ⟨[Decimal.text v], false, store.set name v, []⟩ := by
  refine ⟨Expression.value_text limits store v, fun name h => ⟨?_, ?_⟩⟩
  · simp only [reply, read_assignment h, replyToStatement, execute_assignment h]
    rfl
  · simp only [reply, read_name h, replyToStatement,
      Statement.execute_name h (store.get?_set_self name v)]
    rfl

/-- The number has a block of nothing but zeros, and the name letters of two alphabets. -/
theorem reads_back_name :
    Text.isName "xю" = true ∧
      reply {} .empty ("xю" ++ " = " ++ Decimal.text (-Nat.pow 10 2000)) =
        .ok ⟨[], false, Store.empty.set "xю" (-Nat.pow 10 2000),
          (Effect.assigned "xю" (-Nat.pow 10 2000)).records⟩ ∧
      reply {} (Store.empty.set "xю" (-Nat.pow 10 2000)) "xю" =
        .ok ⟨[Decimal.text (-Nat.pow 10 2000)], false, Store.empty.set "xю" (-Nat.pow 10 2000),
          []⟩ :=
  have letters : Text.isName "xю" = true := by decide +kernel
  ⟨letters, (reads_back {} .empty (-Nat.pow 10 2000)).2 "xю" letters⟩

end Session

end Reckoner
