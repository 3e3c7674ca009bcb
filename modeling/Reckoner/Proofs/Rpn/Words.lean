import Reckoner.Proofs.Layouts
import Reckoner.Proofs.Misshapen

/-!
# Words of reverse Polish notation

Each element is written as a word, and a space stands between two words. In general that does not
tell the elements: a name could be anything, a space included, and the precedence of an operator is
not written. But a text yields standard elements only: its names are runs of letters, its numbers
have no sign, and its operators have the precedences of their tables. So no word has a space in it,
and its characters tell what it is: digits are a number, letters a name. The symbol of an operator
is neither, which keeps a sign apart from a name that begins with `u`, and the `u` keeps it apart
from the binary operator of the same symbol.

Main definitions:
* `Element.Standard`: the elements that a text yields.
* `Element.ofWord?`, `Rpn.ofText?`: reading what is written.

Results:
* `Text.words_intercalate`: words that are joined are cut apart again.
* `Element.Standard.ofWord?_text`: a standard element is read back from its word.
* `Rpn.ofText?_text`: standard elements are read back from their text.
* `Expression.standard_of_mem_rpn`: the elements of a text are standard.
* `Expression.rpn_text_unambiguous`: what the log is told of two texts tells them apart.
-/
namespace Reckoner

namespace Text

/-- What can be written between two spaces. -/
structure IsWord (cs : List Char) : Prop where
  nonempty : cs ≠ []
  whole : ' ' ∉ cs

/-- The words of a text, which spaces keep apart. -/
def words (text : String) : List (List Char) := (text.toList.splitOn ' ').filter (!·.isEmpty)

theorem isWord_of_not_isBlank {cs : List Char} (nonempty : cs ≠ [])
    (h : ∀ c ∈ cs, isBlank c = false) : IsWord cs where
  nonempty := nonempty
  whole mem := by
    have blank : isBlank ' ' = true := by decide
    rw [h ' ' mem] at blank
    cases blank

theorem words_intercalate {ws : List String} (h : ∀ w ∈ ws, IsWord w.toList) :
    words (" ".intercalate ws) = ws.map String.toList := by
  by_cases empty : ws = []
  · -- the empty text is cut into one part, which is no word
    subst empty
    rfl
  · have each : ∀ cs ∈ ws.map String.toList, IsWord cs := List.forall_mem_map.2 h
    have joined : (" ".intercalate ws).toList = [' '].intercalate (ws.map String.toList) :=
      String.toList_intercalate
    have cut : ([' '].intercalate (ws.map String.toList)).splitOn ' ' = ws.map String.toList :=
      List.splitOn_intercalate ' ' (fun cs mem => (each cs mem).whole) (by simpa using empty)
    rw [words, joined, cut]
    exact List.filter_eq_self.2 fun cs mem => by simpa using (each cs mem).nonempty

end Text

/-! ## Standard elements -/

theorem BinaryOp.isSymbol_symbol (op : BinaryOp) : Token.isSymbol op.symbol = true := by
  cases op <;> decide

theorem UnaryOp.isSymbol_symbol (op : UnaryOp) : Token.isSymbol op.symbol = true := by
  cases op <;> decide

namespace Operator

/-- The operator that a word is read as, with the precedence of its table. -/
def ofWord? : List Char → Option Operator
  | [c] => (BinaryOp.ofSymbol? c).map fun op => binary op op.precedence
  | ['u', c] => (UnaryOp.ofSymbol? c).map fun op => unary op op.precedence
  | _ => none

theorem ofWord?_binary (op : BinaryOp) : ofWord? [op.symbol] = some (binary op op.precedence) := by
  rw [ofWord?, BinaryOp.ofSymbol?_symbol, Option.map_some]

theorem ofWord?_unary (op : UnaryOp) :
    ofWord? ['u', op.symbol] = some (unary op op.precedence) := by
  rw [ofWord?, UnaryOp.ofSymbol?_symbol, Option.map_some]

end Operator

namespace Element

open Text (IsWord isLetter)

/-- The elements that the tokens of a text stand for, save parentheses. -/
inductive Standard : Element → Prop where
  | number {value : Int} (unsigned : 0 ≤ value) : Standard (.number value)
  | var {name : String} (letters : Text.isName name = true) : Standard (.var name)
  | binary (op : BinaryOp) : Standard (.operator (.binary op op.precedence))
  | unary (op : UnaryOp) : Standard (.operator (.unary op op.precedence))

/-- The standard element that a word is read as. -/
def ofWord? (word : List Char) : Option Element :=
  if word.all Char.isDigit then some (number (Decimal.read word))
  else if word.all isLetter then some (var (String.ofList word))
  else (Operator.ofWord? word).map operator

theorem toList_text_number {value : Int} (unsigned : 0 ≤ value) :
    (number value).text.toList = Decimal.digits value.natAbs := by
  rw [text, Decimal.toList_text, Decimal.chars_of_nonneg unsigned]

theorem toList_text_binary (op : BinaryOp) (p : Int) :
    (operator (.binary op p)).text.toList = [op.symbol] :=
  String.toList_singleton op.symbol

theorem toList_text_unary (op : UnaryOp) (p : Int) :
    (operator (.unary op p)).text.toList = ['u', op.symbol] := by
  simp [text, Operator.text]

theorem Standard.isWord {e : Element} (h : e.Standard) : IsWord e.text.toList := by
  cases h with
  | number unsigned =>
    rw [toList_text_number unsigned]
    exact Text.isWord_of_not_isBlank (Decimal.digits_ne_nil _) fun c mem =>
      Text.not_isBlank_of_isDigit (Decimal.isDigit_of_mem_digits mem)
  | var letters =>
    obtain ⟨nonempty, all⟩ := Text.isName_iff.1 letters
    exact Text.isWord_of_not_isBlank nonempty fun c mem => Text.not_isBlank_of_isLetter (all c mem)
  | binary op => cases op <;> exact ⟨by decide, by decide⟩
  | unary op => cases op <;> exact ⟨by decide, by decide⟩

/-! ## Reading a word -/

theorem ofWord?_digits (n : Nat) : ofWord? (Decimal.digits n) = some (number n) := by
  have all : (Decimal.digits n).all Char.isDigit = true :=
    List.all_eq_true.2 fun _ => Decimal.isDigit_of_mem_digits
  rw [ofWord?, if_pos all, Decimal.read_digits]

theorem ofWord?_name {name : String} (h : Text.isName name = true) :
    ofWord? name.toList = some (var name) := by
  obtain ⟨nonempty, letters⟩ := Text.isName_iff.1 h
  obtain ⟨c, mem⟩ := List.exists_mem_of_ne_nil _ nonempty
  have notDigits : name.toList.all Char.isDigit = false :=
    List.all_eq_false.2 ⟨c, mem, by simp [Text.not_isDigit_of_isLetter (letters c mem)]⟩
  simp [ofWord?, notDigits, List.all_eq_true.2 letters]

/-- A word with an operator's symbol in it is neither digits nor letters. -/
theorem ofWord?_operator {word : List Char} {c : Char} (mem : c ∈ word)
    (symbol : Token.isSymbol c = true) : ofWord? word = (Operator.ofWord? word).map operator := by
  obtain ⟨-, notDigit, notLetter⟩ := Token.isSymbol_iff.1 symbol
  have notDigits : word.all Char.isDigit = false :=
    List.all_eq_false.2 ⟨c, mem, by simp [notDigit]⟩
  have notLetters : word.all isLetter = false :=
    List.all_eq_false.2 ⟨c, mem, by simp [notLetter]⟩
  simp [ofWord?, notDigits, notLetters]

theorem Standard.ofWord?_text {e : Element} (h : e.Standard) : ofWord? e.text.toList = some e := by
  cases h with
  | number unsigned =>
    rw [toList_text_number unsigned, ofWord?_digits, Int.natAbs_of_nonneg unsigned]
  | var letters => exact ofWord?_name letters
  | binary op =>
    rw [toList_text_binary, ofWord?_operator (List.mem_singleton_self _) op.isSymbol_symbol,
      Operator.ofWord?_binary, Option.map_some]
  | unary op =>
    have mem : op.symbol ∈ ['u', op.symbol] := List.mem_cons_of_mem _ (List.mem_singleton_self _)
    rw [toList_text_unary, ofWord?_operator mem op.isSymbol_symbol, Operator.ofWord?_unary,
      Option.map_some]

end Element

namespace Rpn

/-- The standard elements that are read in a text. -/
def ofText? (text : String) : Option Rpn := (Text.words text).mapM Element.ofWord?

variable {rpn : Rpn}

theorem words_text (h : ∀ e ∈ rpn, e.Standard) :
    Text.words rpn.text = rpn.map fun e => e.text.toList := by
  rw [text, Text.words_intercalate, List.map_map]
  · rfl
  · exact List.forall_mem_map.2 fun e mem => (h e mem).isWord

theorem ofText?_text (h : ∀ e ∈ rpn, e.Standard) : ofText? rpn.text = some rpn := by
  rw [ofText?, words_text h]
  induction rpn with
  | nil => rfl
  | cons e rpn ih =>
    obtain ⟨first, others⟩ := List.forall_mem_cons.1 h
    simp [first.ofWord?_text, ih others]

end Rpn

/-! ## The elements of a text -/

namespace Token

theorem exists_lexeme_of_mem_scan {text : String} {t : Token} (h : t ∈ scan text) :
    ∃ x : Lexeme, x.token = t := by
  obtain ⟨l, rfl⟩ := (Layout.existsUnique_text text).exists
  rw [scan, Layout.text, String.toList_ofList, l.scanChars_chars] at h
  obtain ⟨x, -, same⟩ := List.mem_map.1 h
  exact ⟨x, same⟩

/-- A text has no negative integers. -/
theorem nonneg_of_mem_scan {text : String} {v : Int} (h : integer v ∈ scan text) : 0 ≤ v := by
  obtain ⟨x, same⟩ := exists_lexeme_of_mem_scan h
  cases x with
  | digits run nonempty all =>
    cases same
    exact Int.natCast_nonneg _
  | letters run nonempty all => cases same
  | symbol char alone => cases same

theorem not_isParenthesis_of_mem_rpn {tokens : List Token} {rpn : Rpn}
    (h : Token.rpn tokens = .ok rpn) {e : Element} (mem : e ∈ rpn) : e.isParenthesis = false := by
  obtain ⟨es, -, written⟩ := rpn_eq_ok.1 h
  simpa using (List.mem_filter.1 ((Rpn.ofElements_perm written).subset mem)).2

end Token

namespace Expression

theorem standard_of_mem_rpn {text : String} {p : Rpn} (h : rpn text = .ok p) {e : Element}
    (mem : e ∈ p) : e.Standard := by
  have notParenthesis := Token.not_isParenthesis_of_mem_rpn h mem
  obtain ⟨before, t, after, cut, stands⟩ := Token.exists_place_of_mem_rpn h mem
  have scanned : t ∈ Token.scan text := by
    rw [cut]
    exact List.mem_append_right _ List.mem_cons_self
  cases stands with
  | number v => exact .number (Token.nonneg_of_mem_scan scanned)
  | var name => exact .var (Token.isName_of_mem_scan scanned)
  | opening => cases notParenthesis
  | closing => cases notParenthesis
  | binary op after => exact .binary op
  | unary op before => exact .unary op

/-- Reverse Polish notation of a text is read back from what is written of it. -/
theorem ofText?_of_rpn {text : String} {p : Rpn} (h : rpn text = .ok p) :
    Rpn.ofText? p.text = some p :=
  Rpn.ofText?_text fun _ => standard_of_mem_rpn h

/-- The name, the sign and the binary operator are all read as what they are. -/
example : Rpn.ofText? "u 12 u- -" =
    some [.var "u", .number 12, .operator (.unary .minus 4), .operator (.binary .sub 1)] := by
  decide +kernel

theorem value_of_rpn {text : String} {p : Rpn} (h : rpn text = .ok p) (limits : Limits)
    (store : Store) : value limits store text = p.value limits store := by
  have converted : Token.rpn (Token.scan text) = .ok p := h
  rw [value, Token.value, converted]
  rfl

/-- What the log is told of a text ends with its reverse Polish notation, word by word. Texts with
the same words have the same elements in the same order, precedences included. So they have the same
outcome, a value or a fault, in every store and within any limits. -/
theorem rpn_text_unambiguous {s t : String} {p q : Rpn} (hs : rpn s = .ok p) (ht : rpn t = .ok q) :
    records s = [⟨.debug, "🧮 " ++ Text.quoted s ++ " -> RPN: " ++ p.text⟩] ∧
    (p.text = q.text → p = q ∧
      ∀ (limits : Limits) (store : Store), value limits store s = value limits store t) := by
  refine ⟨by rw [records, hs], fun same => ?_⟩
  have equal : p = q := by
    have read := ofText?_of_rpn hs
    rw [same, ofText?_of_rpn ht] at read
    exact (Option.some.inj read).symm
  refine ⟨equal, fun limits store => ?_⟩
  rw [value_of_rpn hs, value_of_rpn ht, equal]

/-- The texts differ in blanks, parentheses and zeros; the name looks like a sign. -/
theorem rpn_text_unambiguous_sign :
    let p : Rpn := [.var "u", .number 2, .operator (.unary .minus 4), .operator (.binary .sub 1)]
    rpn "u - -2" = .ok p ∧ rpn "(u)--(002)" = .ok p ∧ p.text = "u 2 u- -" ∧
      ∀ (limits : Limits) (store : Store),
        value limits store "u - -2" = value limits store "(u)--(002)" := by
  intro p
  have first : rpn "u - -2" = .ok p := by decide +kernel
  have second : rpn "(u)--(002)" = .ok p := by decide +kernel
  exact ⟨first, second, by decide +kernel, ((rpn_text_unambiguous first second).2 rfl).2⟩

end Expression

end Reckoner
