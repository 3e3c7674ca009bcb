import Mathlib.Data.List.SplitBy
import Reckoner.Token

/-!
# Scanning

A character that is neither blank, nor a digit, nor a letter is a lexeme wherever it
stands, so the texts on its two sides are scanned apart. A text without tokens is blank,
for no lexeme starts with a blank and goes on.

Results:
* `scanChars_append`: texts whose neighbouring characters do not join are scanned apart.
* `scanChars_symbol`, `symbol_mem_scanChars`: a symbol of the text is a token, and cuts
  the tokens where it cuts the text.
* `scanChars_eq_nil`: only blanks have no tokens.
-/
namespace Reckoner

namespace Text

/-- Whether no code point lies in both tables. -/
def CodeRange.apart (rs ss : List CodeRange) : Bool :=
  rs.all fun r => ss.all fun s => r.last < s.first || s.last < r.first

theorem CodeRange.not_holdsAny {rs ss : List CodeRange} (h : apart rs ss) {c : Char}
    (inFirst : holdsAny rs c) : holdsAny ss c = false := by
  obtain ⟨r, memR, holdsR⟩ := List.any_eq_true.1 inFirst
  rw [Bool.eq_false_iff]
  intro inSecond
  obtain ⟨s, memS, holdsS⟩ := List.any_eq_true.1 inSecond
  have disjoint := List.all_eq_true.1 (List.all_eq_true.1 h r memR) s memS
  simp only [holds, Bool.and_eq_true, decide_eq_true_eq] at holdsR holdsS
  simp only [Bool.or_eq_true, decide_eq_true_eq] at disjoint
  omega

/-- No blank is a printable ASCII character but the space. -/
theorem isBlank_cases {c : Char} (h : isBlank c) : c.toNat ≤ 0x20 ∨ 0x80 ≤ c.toNat := by
  have disjoint : CodeRange.apart blankRanges [⟨0x21, 0x7f⟩] := by decide
  have outside := CodeRange.not_holdsAny disjoint h
  simp only [CodeRange.holdsAny, List.any_cons, List.any_nil, CodeRange.holds, Bool.or_false,
    Bool.and_eq_false_iff, decide_eq_false_iff_not] at outside
  omega

theorem isDigit_iff {c : Char} : c.isDigit ↔ 0x30 ≤ c.toNat ∧ c.toNat ≤ 0x39 := by
  simp [Char.isDigit, UInt32.le_iff_toNat_le]

theorem isAlpha_iff {c : Char} :
    c.isAlpha ↔ (0x41 ≤ c.toNat ∧ c.toNat ≤ 0x5a) ∨ (0x61 ≤ c.toNat ∧ c.toNat ≤ 0x7a) := by
  have unfolded : c.isAlpha = (decide (c.val ≥ 0x41 ∧ c.val ≤ 0x5a) ||
      (decide (c.val ≥ 0x61) && decide (c.val ≤ 0x7a))) := rfl
  simp [unfolded, UInt32.le_iff_toNat_le]

theorem not_isDigit_of_isBlank {c : Char} (h : isBlank c) : c.isDigit = false := by
  rw [Bool.eq_false_iff]
  intro digit
  have range := isDigit_iff.1 digit
  have outside := isBlank_cases h
  omega

theorem not_isLetter_of_isBlank {c : Char} (h : isBlank c) : isLetter c = false := by
  unfold isLetter
  split
  · rw [Bool.eq_false_iff]
    intro letter
    have range := isAlpha_iff.1 letter
    have outside := isBlank_cases h
    omega
  · have disjoint : CodeRange.apart blankRanges letterRanges := by decide +kernel
    exact CodeRange.not_holdsAny disjoint h

end Text

namespace Token

open Text

theorem joins_blank {b : Char} (h : isBlank b) (c : Char) : joins b c = false := by
  simp [joins, not_isDigit_of_isBlank h, not_isLetter_of_isBlank h]

/-- Whether a character is a lexeme by itself. -/
def isSymbol (c : Char) : Bool := !isBlank c && !c.isDigit && !isLetter c

theorem isSymbol_iff {c : Char} :
    isSymbol c ↔ isBlank c = false ∧ c.isDigit = false ∧ isLetter c = false := by
  simp [isSymbol, and_assoc]

theorem joins_symbol_left {c : Char} (h : isSymbol c) (d : Char) : joins c d = false := by
  obtain ⟨-, notDigit, notLetter⟩ := isSymbol_iff.1 h
  simp [joins, notDigit, notLetter]

theorem joins_symbol_right {c : Char} (h : isSymbol c) (b : Char) : joins b c = false := by
  obtain ⟨-, notDigit, notLetter⟩ := isSymbol_iff.1 h
  simp [joins, notDigit, notLetter]

/-! ## Tokens of two texts -/

/-- Texts are scanned apart if no lexeme goes on from the one to the other. -/
theorem scanChars_append {l r : List Char}
    (h : ∀ x ∈ l.getLast?, ∀ y ∈ r.head?, joins x y = false) :
    scanChars (l ++ r) = scanChars l ++ scanChars r := by
  rw [scanChars, List.splitBy_append h, List.filterMap_append]
  rfl

theorem ofLexeme_symbol {c : Char} (h : isSymbol c) : ofLexeme? [c] = some (symbol c) := by
  obtain ⟨notBlank, notDigit, notLetter⟩ := isSymbol_iff.1 h
  simp [ofLexeme?, notBlank, notDigit, notLetter]

theorem scanChars_singleton {c : Char} (h : isSymbol c) : scanChars [c] = [symbol c] := by
  have lexemes : [c].splitBy joins = [[c]] := rfl
  rw [scanChars, lexemes, List.filterMap_cons_some (ofLexeme_symbol h), List.filterMap_nil]

/-- A symbol cuts the tokens where it cuts the text. -/
theorem scanChars_symbol {c : Char} (h : isSymbol c) (l r : List Char) :
    scanChars (l ++ c :: r) = scanChars l ++ symbol c :: scanChars r := by
  have before : scanChars (l ++ c :: r) = scanChars l ++ scanChars (c :: r) :=
    scanChars_append fun x _ y head => by
      cases head
      exact joins_symbol_right h x
  have after : scanChars ([c] ++ r) = scanChars [c] ++ scanChars r :=
    scanChars_append fun x last y _ => by
      cases last
      exact joins_symbol_left h y
  rw [before, ← List.singleton_append, after, scanChars_singleton h, List.singleton_append]

/-! ## What is in the text is in the tokens -/

theorem mem_of_ofLexeme_symbol {lexeme : List Char} {c : Char}
    (h : ofLexeme? lexeme = some (symbol c)) : c ∈ lexeme := by
  cases lexeme with
  | nil => cases h
  | cons d rest =>
    simp only [ofLexeme?] at h
    split at h
    · cases h
    · split at h
      · cases h
      · split at h
        · cases h
        · cases h
          exact List.mem_cons_self ..

theorem symbol_mem_scanChars {c : Char} (h : isSymbol c) {cs : List Char} :
    symbol c ∈ scanChars cs ↔ c ∈ cs := by
  constructor
  · intro mem
    obtain ⟨lexeme, inText, stands⟩ := List.mem_filterMap.1 mem
    rw [← List.flatten_splitBy joins cs]
    exact List.mem_flatten.2 ⟨lexeme, inText, mem_of_ofLexeme_symbol stands⟩
  · intro mem
    obtain ⟨l, r, rfl⟩ := List.append_of_mem mem
    rw [scanChars_symbol h]
    exact List.mem_append_right _ (List.mem_cons_self ..)

theorem ofLexeme_eq_none {lexeme : List Char} :
    ofLexeme? lexeme = none ↔ ∀ c ∈ lexeme.head?, isBlank c := by
  cases lexeme with
  | nil => simp [ofLexeme?]
  | cons c rest =>
    simp only [ofLexeme?]
    split
    · simpa
    · rename_i notBlank
      constructor
      · intro noToken
        split at noToken
        · cases noToken
        · split at noToken
          · cases noToken
          · cases noToken
      · intro blank
        exact absurd (blank c rfl) notBlank

/-- A lexeme that starts with a character which joins nothing is that character. -/
theorem eq_singleton_of_joins {cs rest : List Char} {c : Char}
    (h : c :: rest ∈ cs.splitBy joins) (alone : ∀ d, joins c d = false) : rest = [] := by
  have chain := List.isChain_of_mem_splitBy h
  cases rest with
  | nil => rfl
  | cons d rest =>
    have joined := (List.isChain_cons_cons.1 chain).1
    rw [alone d] at joined
    cases joined

theorem scanChars_eq_nil {cs : List Char} : scanChars cs = [] ↔ ∀ c ∈ cs, isBlank c := by
  rw [scanChars, List.filterMap_eq_nil_iff]
  constructor
  · intro noTokens c mem
    rw [← List.flatten_splitBy joins cs] at mem
    obtain ⟨lexeme, inText, inLexeme⟩ := List.mem_flatten.1 mem
    have first := ofLexeme_eq_none.1 (noTokens lexeme inText)
    cases lexeme with
    | nil => cases inLexeme
    | cons b rest =>
      have blank : isBlank b := first b rfl
      obtain rfl := eq_singleton_of_joins inText (joins_blank blank)
      obtain rfl := List.mem_singleton.1 inLexeme
      exact blank
  · intro blank lexeme inText
    refine ofLexeme_eq_none.2 fun c head => blank c ?_
    rw [← List.flatten_splitBy joins cs]
    exact List.mem_flatten.2 ⟨lexeme, inText, List.mem_of_mem_head? head⟩

end Token

end Reckoner
