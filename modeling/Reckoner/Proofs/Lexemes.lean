import Mathlib.Data.List.Chain
import Mathlib.Data.List.Induction
import Reckoner.Proofs.Numerals
import Reckoner.Proofs.Scan

/-!
# Lexemes

Characters join only within a class, and no character is of two classes. So a lexeme is a run of
digits, a run of letters, or one character that is neither: a run is scanned as a single token,
however long it is, and every name among the tokens of a text is a run of letters. Blanks around
a text say nothing.

Results:
* `isDigit_of_mem_splitBy`, `isLetter_of_mem_splitBy`: a lexeme has the class of its first
  character throughout.
* `scanChars_digits`, `scan_name`: a run is one token.
* `isName_of_mem_scan`: every name that is scanned is a run of letters.
* `scan_strip`, `scanChars_blanks`: blanks around a text and within it.
* `scanChars_text`: the text of an integer is its sign and its magnitude.
-/
namespace Reckoner

namespace Text

theorem not_isDigit_of_isLetter {c : Char} (h : isLetter c = true) : c.isDigit = false := by
  rw [Bool.eq_false_iff]
  intro digit
  have range := isDigit_iff.1 digit
  have ascii : c.toNat < 0x80 := by omega
  simp only [isLetter, if_pos ascii] at h
  have letters := isAlpha_iff.1 h
  omega

theorem not_isBlank_of_isDigit {c : Char} (h : c.isDigit = true) : isBlank c = false := by
  rw [Bool.eq_false_iff]
  intro blank
  rw [not_isDigit_of_isBlank blank] at h
  cases h

theorem not_isBlank_of_isLetter {c : Char} (h : isLetter c = true) : isBlank c = false := by
  rw [Bool.eq_false_iff]
  intro blank
  rw [not_isLetter_of_isBlank blank] at h
  cases h

/-- Whether a text is a run of letters, which can name a variable. -/
def isName (text : String) : Bool := !text.isEmpty && text.toList.all isLetter

theorem isName_iff {text : String} :
    isName text = true ↔ text.toList ≠ [] ∧ ∀ c ∈ text.toList, isLetter c = true := by
  simp [isName]

end Text

namespace Token

open Text

theorem isDigit_of_joins {a b : Char} (h : joins a b = true) (digit : a.isDigit = true) :
    b.isDigit = true := by
  rcases Bool.or_eq_true_iff.1 h with digits | letters
  · exact (Bool.and_eq_true_iff.1 digits).2
  · have letter := (Bool.and_eq_true_iff.1 letters).1
    rw [not_isDigit_of_isLetter letter] at digit
    cases digit

theorem isLetter_of_joins {a b : Char} (h : joins a b = true) (letter : isLetter a = true) :
    isLetter b = true := by
  rcases Bool.or_eq_true_iff.1 h with digits | letters
  · have digit := (Bool.and_eq_true_iff.1 digits).1
    rw [not_isDigit_of_isLetter letter] at digit
    cases digit
  · exact (Bool.and_eq_true_iff.1 letters).2

variable {cs rest : List Char} {c : Char}

theorem isDigit_of_mem_splitBy (h : c :: rest ∈ cs.splitBy joins) (first : c.isDigit = true) :
    ∀ d ∈ c :: rest, d.isDigit = true :=
  List.IsChain.induction (fun c => c.isDigit = true) _ (List.isChain_of_mem_splitBy h)
    (fun _ _ => isDigit_of_joins) fun _ => first

theorem isLetter_of_mem_splitBy (h : c :: rest ∈ cs.splitBy joins) (first : isLetter c = true) :
    ∀ d ∈ c :: rest, isLetter d = true :=
  List.IsChain.induction (fun c => isLetter c = true) _ (List.isChain_of_mem_splitBy h)
    (fun _ _ => isLetter_of_joins) fun _ => first

/-- Characters that all join each other are one lexeme. -/
theorem scanChars_run (nonempty : cs ≠ []) (h : ∀ a ∈ cs, ∀ b ∈ cs, joins a b = true) :
    scanChars cs = (ofLexeme? cs).toList := by
  have chain := (List.pairwise_of_forall_mem_list h).isChain
  rw [scanChars, List.splitBy_of_isChain nonempty chain]
  cases stands : ofLexeme? cs with
  | none => rw [List.filterMap_cons_none stands]; rfl
  | some t => rw [List.filterMap_cons_some stands]; rfl

theorem scanChars_digits (nonempty : cs ≠ []) (h : ∀ c ∈ cs, c.isDigit = true) :
    scanChars cs = [integer (Decimal.read cs)] := by
  rw [scanChars_run nonempty fun a memA b memB => by simp [joins, h a memA, h b memB]]
  cases cs with
  | nil => exact absurd rfl nonempty
  | cons c rest =>
    have digit := h c (List.mem_cons_self ..)
    simp [ofLexeme?, not_isBlank_of_isDigit digit, digit]

theorem scanChars_letters (nonempty : cs ≠ []) (h : ∀ c ∈ cs, isLetter c = true) :
    scanChars cs = [identifier (String.ofList cs)] := by
  rw [scanChars_run nonempty fun a memA b memB => by simp [joins, h a memA, h b memB]]
  cases cs with
  | nil => exact absurd rfl nonempty
  | cons c rest =>
    have letter := h c (List.mem_cons_self ..)
    simp [ofLexeme?, not_isBlank_of_isLetter letter, not_isDigit_of_isLetter letter, letter]

theorem scan_name {name : String} (h : isName name = true) : scan name = [identifier name] := by
  obtain ⟨nonempty, letters⟩ := isName_iff.1 h
  rw [scan, scanChars_letters nonempty letters, String.ofList_toList]

/-! ## Names -/

theorem isName_of_ofLexeme {lexeme : List Char} {name : String} (h : lexeme ∈ cs.splitBy joins)
    (stands : ofLexeme? lexeme = some (identifier name)) : isName name = true := by
  cases lexeme with
  | nil => cases stands
  | cons c rest =>
    simp only [ofLexeme?] at stands
    split at stands
    · cases stands
    · split at stands
      · cases stands
      · split at stands
        · rename_i letter
          cases stands
          rw [isName_iff, String.toList_ofList]
          exact ⟨List.cons_ne_nil _ _, isLetter_of_mem_splitBy h letter⟩
        · cases stands

theorem isName_of_mem_scan {text name : String} (h : identifier name ∈ scan text) :
    isName name = true := by
  obtain ⟨lexeme, inText, stands⟩ := List.mem_filterMap.1 h
  exact isName_of_ofLexeme inText stands

/-! ## Blanks -/

theorem joins_blank_right {b : Char} (h : isBlank b) (c : Char) : joins c b = false := by
  simp [joins, not_isDigit_of_isBlank h, not_isLetter_of_isBlank h]

theorem scanChars_blank {b : Char} (h : isBlank b) : scanChars [b] = [] :=
  scanChars_eq_nil.2 fun _ mem => List.mem_singleton.1 mem ▸ h

theorem scanChars_cons_blank {b : Char} (h : isBlank b) (cs : List Char) :
    scanChars (b :: cs) = scanChars cs := by
  have apart : scanChars ([b] ++ cs) = scanChars [b] ++ scanChars cs :=
    scanChars_append fun x last y _ => by
      cases last
      exact joins_blank h y
  rw [← List.singleton_append, apart, scanChars_blank h, List.nil_append]

theorem scanChars_append_blank {b : Char} (h : isBlank b) (cs : List Char) :
    scanChars (cs ++ [b]) = scanChars cs := by
  have apart : scanChars (cs ++ [b]) = scanChars cs ++ scanChars [b] :=
    scanChars_append fun x _ y head => by
      cases head
      exact joins_blank_right h x
  rw [apart, scanChars_blank h, List.append_nil]

theorem scanChars_dropWhile (cs : List Char) :
    scanChars (cs.dropWhile isBlank) = scanChars cs := by
  induction cs with
  | nil => rfl
  | cons c cs ih =>
    cases blank : isBlank c with
    | true => rw [List.dropWhile_cons_of_pos blank, ih, scanChars_cons_blank blank]
    | false => rw [List.dropWhile_cons_of_neg (by simp [blank])]

theorem scanChars_dropWhile_reverse (cs : List Char) :
    scanChars (cs.reverse.dropWhile isBlank).reverse = scanChars cs := by
  induction cs using List.reverseRecOn with
  | nil => rfl
  | append_singleton cs c ih =>
    rw [List.reverse_append, List.reverse_singleton, List.singleton_append]
    cases blank : isBlank c with
    | true => rw [List.dropWhile_cons_of_pos blank, ih, scanChars_append_blank blank]
    | false =>
      rw [List.dropWhile_cons_of_neg (by simp [blank]), List.reverse_cons, List.reverse_reverse]

theorem scan_strip (text : String) : scan (strip text) = scan text := by
  rw [scan, strip, String.toList_ofList, trim, trimBy, scanChars_dropWhile_reverse,
    scanChars_dropWhile]
  rfl

/-- Blanks keep the lexemes before and after them apart. -/
theorem scanChars_blanks {before blanks after : List Char} (nonempty : blanks ≠ [])
    (h : ∀ c ∈ blanks, isBlank c = true) :
    scanChars (before ++ blanks ++ after) = scanChars before ++ scanChars after := by
  have left : scanChars (before ++ blanks) = scanChars before ++ scanChars blanks :=
    scanChars_append fun x _ y first =>
      joins_blank_right (h y (List.mem_of_mem_head? first)) x
  have right : scanChars (before ++ blanks ++ after) =
      scanChars (before ++ blanks) ++ scanChars after :=
    scanChars_append fun x last y _ => by
      rw [List.getLast?_append_of_ne_nil _ nonempty] at last
      exact joins_blank (h x (List.mem_of_getLast? last)) y
  rw [right, left, scanChars_eq_nil.2 h, List.append_nil]

/-! ## Numerals -/

theorem isSymbol_minus : isSymbol '-' := by decide

/-- A text has no negative numbers: the sign of an integer is a token by itself. -/
theorem scanChars_text (z : Int) :
    scanChars (Decimal.chars z) =
      if z < 0 then [symbol '-', integer z.natAbs] else [integer z] := by
  have magnitude : scanChars (Decimal.digits z.natAbs) = [integer z.natAbs] := by
    rw [scanChars_digits (Decimal.digits_ne_nil _) fun _ => Decimal.isDigit_of_mem_digits,
      Decimal.read_digits]
  split
  · rename_i neg
    have signed := scanChars_symbol isSymbol_minus [] (Decimal.digits z.natAbs)
    rw [Decimal.chars_of_neg neg, ← magnitude]
    exact signed
  · rename_i nonneg
    have same : (z.natAbs : Int) = z := Int.natAbs_of_nonneg (Int.not_lt.1 nonneg)
    rw [Decimal.chars_of_nonneg (Int.not_lt.1 nonneg), magnitude, same]

end Token

end Reckoner
