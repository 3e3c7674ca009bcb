import Reckoner.Proofs.Lexemes

/-!
# Layouts

A layout says how a text is made up: lexemes in their order, and the blanks before, between and
after them. A run that is followed by another run of its class is kept apart from it by a blank,
for without one the two would be a single run. Nothing else is asked of a layout, and yet a text
has only one: what is not blank starts a lexeme, the first character of a lexeme decides its class,
and the class decides where the lexeme ends.

Main definitions:
* `Lexeme`: a run of digits, a run of letters, or one character of neither class.
* `Layout`: lexemes and blanks.

Results:
* `Lexeme.joins_eq_merges`: characters of two lexemes join exactly if the lexemes are runs of one
  class.
* `Piece.stops`: in a layout a lexeme ends where the next piece starts.
* `scanChars_pieces`: a layout is scanned lexeme by lexeme.
* `Layout.exists_cons`: a character can be put in front of any layout.
* `Token.scan_layout`: a text has exactly one layout, and the tokens of its lexemes.
-/
namespace Reckoner

open Text (isBlank isLetter)

/-- A run of digits, a run of letters, or one character that is neither, nor blank. -/
inductive Lexeme where
  | digits (run : List Char) (nonempty : run ≠ []) (all : ∀ c ∈ run, c.isDigit = true)
  | letters (run : List Char) (nonempty : run ≠ []) (all : ∀ c ∈ run, isLetter c = true)
  | symbol (char : Char) (alone : Token.isSymbol char = true)

namespace Lexeme

def chars : Lexeme → List Char
  | digits run .. => run
  | letters run .. => run
  | symbol char _ => [char]

/-- What a lexeme stands for: the number that its digits have in base ten, the variable of its
letters, or the character. -/
def token : Lexeme → Token
  | digits run .. => .integer (Nat.ofDigitChars 10 run 0)
  | letters run .. => .identifier (String.ofList run)
  | symbol char _ => .symbol char

def isDigits : Lexeme → Bool
  | digits .. => true
  | _ => false

def isLetters : Lexeme → Bool
  | letters .. => true
  | _ => false

/-- Whether two lexemes are runs of one class. -/
def merges (x y : Lexeme) : Bool := x.isDigits && y.isDigits || x.isLetters && y.isLetters

variable {x y : Lexeme} {c d : Char}

theorem chars_ne_nil (x : Lexeme) : x.chars ≠ [] := by
  cases x with
  | digits run nonempty all => exact nonempty
  | letters run nonempty all => exact nonempty
  | symbol char alone => exact List.cons_ne_nil _ _

theorem isBlank_of_mem (h : c ∈ x.chars) : isBlank c = false := by
  cases x with
  | digits run nonempty all => exact Text.not_isBlank_of_isDigit (all c h)
  | letters run nonempty all => exact Text.not_isBlank_of_isLetter (all c h)
  | symbol char alone =>
    obtain rfl := List.mem_singleton.1 h
    exact (Token.isSymbol_iff.1 alone).1

theorem isDigit_of_mem (h : c ∈ x.chars) : c.isDigit = x.isDigits := by
  cases x with
  | digits run nonempty all => exact all c h
  | letters run nonempty all => exact Text.not_isDigit_of_isLetter (all c h)
  | symbol char alone =>
    obtain rfl := List.mem_singleton.1 h
    exact (Token.isSymbol_iff.1 alone).2.1

theorem isLetter_of_mem (h : c ∈ x.chars) : isLetter c = x.isLetters := by
  cases x with
  | digits run nonempty all =>
    cases letter : isLetter c with
    | false => rfl
    | true =>
      have digit := all c h
      rw [Text.not_isDigit_of_isLetter letter] at digit
      cases digit
  | letters run nonempty all => exact all c h
  | symbol char alone =>
    obtain rfl := List.mem_singleton.1 h
    exact (Token.isSymbol_iff.1 alone).2.2

theorem joins_eq_merges (hc : c ∈ x.chars) (hd : d ∈ y.chars) : Token.joins c d = x.merges y := by
  rw [Token.joins, merges, isDigit_of_mem hc, isDigit_of_mem hd, isLetter_of_mem hc,
    isLetter_of_mem hd]

/-- All that follows the first character of a lexeme joins it. -/
theorem joins_of_chars_cons {run : List Char} (h : x.chars = c :: run) :
    ∀ d ∈ run, Token.joins c d = true := by
  intro d mem
  have first : c ∈ x.chars := h ▸ List.mem_cons_self ..
  have later : d ∈ x.chars := h ▸ List.mem_cons_of_mem _ mem
  rw [joins_eq_merges first later]
  cases x with
  | digits run nonempty all => rfl
  | letters run nonempty all => rfl
  | symbol char alone =>
    obtain ⟨-, rfl⟩ := List.cons.inj h
    cases mem

/-- A lexeme is known from its characters: the first one decides the class. -/
theorem chars_injective (h : x.chars = y.chars) : x = y := by
  obtain ⟨c, inFirst⟩ := List.exists_mem_of_ne_nil _ x.chars_ne_nil
  have inSecond : c ∈ y.chars := h ▸ inFirst
  have digits := (isDigit_of_mem inFirst).symm.trans (isDigit_of_mem inSecond)
  have letters := (isLetter_of_mem inFirst).symm.trans (isLetter_of_mem inSecond)
  cases x with
  | digits run nonempty all =>
    cases y with
    | digits run' nonempty' all' => cases h; rfl
    | letters run' nonempty' all' => cases digits
    | symbol char' alone' => cases digits
  | letters run nonempty all =>
    cases y with
    | digits run' nonempty' all' => cases digits
    | letters run' nonempty' all' => cases h; rfl
    | symbol char' alone' => cases letters
  | symbol char alone =>
    cases y with
    | digits run' nonempty' all' => cases digits
    | letters run' nonempty' all' => cases letters
    | symbol char' alone' => cases h; rfl

theorem scanChars_chars (x : Lexeme) : Token.scanChars x.chars = [x.token] := by
  cases x with
  | digits run nonempty all =>
    rw [chars, Token.scanChars_digits nonempty all, Decimal.read_eq_ofDigitChars, token]
  | letters run nonempty all => exact Token.scanChars_letters nonempty all
  | symbol char alone => exact Token.scanChars_singleton alone

/-! ## Where a lexeme ends -/

/-- A text starts in one way only with characters of a class that is then left. -/
theorem append_inj_of_leaves {p : Char → Bool} {run run' rest rest' : List Char}
    (all : ∀ c ∈ run, p c = true) (leaves : ∀ c ∈ rest.head?, p c = false)
    (all' : ∀ c ∈ run', p c = true) (leaves' : ∀ c ∈ rest'.head?, p c = false)
    (h : run ++ rest = run' ++ rest') : run = run' ∧ rest = rest' := by
  have stop {rest : List Char} (leaves : ∀ c ∈ rest.head?, p c = false) :
      rest.takeWhile p = [] := by
    cases rest with
    | nil => rfl
    | cons c rest => exact List.takeWhile_cons_of_neg (by simp [leaves c rfl])
  have taken := congrArg (List.takeWhile p) h
  rw [List.takeWhile_append_of_pos all, List.takeWhile_append_of_pos all', stop leaves,
    stop leaves', List.append_nil, List.append_nil] at taken
  subst taken
  exact ⟨rfl, List.append_cancel_left h⟩

/-- No character of the lexeme joins what comes next. -/
def Stops (x : Lexeme) (rest : List Char) : Prop :=
  ∀ c ∈ x.chars, ∀ d ∈ rest.head?, Token.joins c d = false

theorem append_inj_of_stops {rest rest' : List Char} (hx : x.Stops rest) (hy : y.Stops rest')
    (h : x.chars ++ rest = y.chars ++ rest') : x = y ∧ rest = rest' := by
  obtain ⟨c, run, xChars⟩ := List.exists_cons_of_ne_nil x.chars_ne_nil
  obtain ⟨c', run', yChars⟩ := List.exists_cons_of_ne_nil y.chars_ne_nil
  have together := h
  rw [xChars, yChars, List.cons_append, List.cons_append] at together
  obtain ⟨rfl, tails⟩ := List.cons.inj together
  have xFirst : c ∈ x.chars := xChars ▸ List.mem_cons_self ..
  have yFirst : c ∈ y.chars := yChars ▸ List.mem_cons_self ..
  obtain ⟨rfl, rfl⟩ := append_inj_of_leaves (joins_of_chars_cons xChars) (hx c xFirst)
    (joins_of_chars_cons yChars) (hy c yFirst) tails
  exact ⟨chars_injective (xChars.trans yChars.symm), rfl⟩

theorem exists_single (h : isBlank c = false) : ∃ x : Lexeme, x.chars = [c] := by
  by_cases digit : c.isDigit = true
  · exact ⟨.digits [c] (List.cons_ne_nil _ _) (List.forall_mem_singleton.2 digit), rfl⟩
  · by_cases letter : isLetter c = true
    · exact ⟨.letters [c] (List.cons_ne_nil _ _) (List.forall_mem_singleton.2 letter), rfl⟩
    · exact ⟨.symbol c (Token.isSymbol_iff.2 ⟨h, by simpa using digit, by simpa using letter⟩), rfl⟩

/-- A run is extended by a character of its class. -/
theorem exists_extension (hx : x.chars = [c]) (same : x.merges y = true) :
    ∃ z : Lexeme, z.chars = c :: y.chars ∧ ∀ w, z.merges w = y.merges w := by
  have first : c ∈ x.chars := hx ▸ List.mem_cons_self ..
  cases y with
  | digits run nonempty all =>
    have digit : c.isDigit = true := by
      simpa [isDigit_of_mem first, merges, isDigits, isLetters] using same
    exact ⟨.digits (c :: run) (List.cons_ne_nil _ _) (List.forall_mem_cons.2 ⟨digit, all⟩), rfl,
      fun _ => rfl⟩
  | letters run nonempty all =>
    have letter : isLetter c = true := by
      simpa [isLetter_of_mem first, merges, isDigits, isLetters] using same
    exact ⟨.letters (c :: run) (List.cons_ne_nil _ _) (List.forall_mem_cons.2 ⟨letter, all⟩), rfl,
      fun _ => rfl⟩
  | symbol char alone => simp [merges, isDigits, isLetters] at same

end Lexeme

/-! ## Layouts -/

@[ext]
structure Piece where
  lexeme : Lexeme
  blanks : List Char
  areBlank : ∀ c ∈ blanks, isBlank c = true

namespace Piece

def chars (p : Piece) : List Char := p.lexeme.chars ++ p.blanks

/-- Two runs of one class have a blank between them. -/
def Apart (p q : Piece) : Prop := p.lexeme.merges q.lexeme = true → p.blanks ≠ []

end Piece

/-- Lexemes in their order, with blanks before, between and after them. -/
@[ext]
structure Layout where
  /-- the blanks before the first lexeme -/
  indent : List Char
  areBlank : ∀ c ∈ indent, isBlank c = true
  pieces : List Piece
  apart : pieces.IsChain Piece.Apart

namespace Layout

def chars (l : Layout) : List Char := l.indent ++ l.pieces.flatMap Piece.chars

def text (l : Layout) : String := String.ofList l.chars

def lexemes (l : Layout) : List Lexeme := l.pieces.map Piece.lexeme

end Layout

namespace Piece

variable {p : Piece} {ps qs : List Piece}

theorem head?_flatMap_chars (h : c ∈ (ps.flatMap chars).head?) :
    ∃ p, ps.head? = some p ∧ c ∈ p.lexeme.chars := by
  cases ps with
  | nil => cases h
  | cons p ps =>
    obtain ⟨d, run, eq⟩ := List.exists_cons_of_ne_nil p.lexeme.chars_ne_nil
    have first : ((p :: ps).flatMap chars).head? = some d := by simp [chars, eq]
    rw [first] at h
    cases h
    exact ⟨p, rfl, eq ▸ List.mem_cons_self ..⟩

/-- After its blanks a piece is followed by a lexeme, or nothing. -/
theorem leaves_blanks (ps : List Piece) :
    ∀ c ∈ (ps.flatMap chars).head?, isBlank c = false := by
  intro c first
  obtain ⟨p, -, mem⟩ := head?_flatMap_chars first
  exact Lexeme.isBlank_of_mem mem

/-- A lexeme ends where its piece says: a blank follows, or a lexeme that it does not merge with. -/
theorem stops (apart : (p :: ps).IsChain Apart) :
    p.lexeme.Stops (p.blanks ++ ps.flatMap chars) := by
  intro c inLexeme d next
  cases blanks : p.blanks with
  | cons b rest =>
    rw [blanks] at next
    cases next
    exact Token.joins_blank_right (p.areBlank d (blanks ▸ List.mem_cons_self ..)) c
  | nil =>
    rw [blanks, List.nil_append] at next
    obtain ⟨q, follows, inNext⟩ := head?_flatMap_chars next
    have kept : p.Apart q := (List.isChain_cons.1 apart).1 q follows
    rw [Lexeme.joins_eq_merges inLexeme inNext, Bool.eq_false_iff]
    exact fun same => kept same blanks

theorem pieces_injective (hp : ps.IsChain Apart) (hq : qs.IsChain Apart)
    (h : ps.flatMap chars = qs.flatMap chars) : ps = qs := by
  induction ps generalizing qs with
  | nil =>
    cases qs with
    | nil => rfl
    | cons q qs =>
      have empty := (List.append_eq_nil_iff.1 h.symm).1
      exact absurd (List.append_eq_nil_iff.1 empty).1 q.lexeme.chars_ne_nil
  | cons p ps ih =>
    cases qs with
    | nil =>
      have empty := (List.append_eq_nil_iff.1 h).1
      exact absurd (List.append_eq_nil_iff.1 empty).1 p.lexeme.chars_ne_nil
    | cons q qs =>
      rw [List.flatMap_cons, List.flatMap_cons, chars, chars, List.append_assoc,
        List.append_assoc] at h
      obtain ⟨lexemes, after⟩ := Lexeme.append_inj_of_stops (stops hp) (stops hq) h
      obtain ⟨blanks, others⟩ := Lexeme.append_inj_of_leaves p.areBlank (leaves_blanks ps)
        q.areBlank (leaves_blanks qs) after
      obtain rfl : p = q := Piece.ext lexemes blanks
      have rest : ps = qs := ih hp.tail hq.tail others
      rw [rest]

end Piece

namespace Token

/-- Blanks before a text have no tokens. -/
theorem scanChars_blanks_append {blanks : List Char} (h : ∀ c ∈ blanks, isBlank c = true)
    (rest : List Char) : scanChars (blanks ++ rest) = scanChars rest := by
  induction blanks with
  | nil => rfl
  | cons b blanks ih =>
    obtain ⟨first, others⟩ := List.forall_mem_cons.1 h
    rw [List.cons_append, scanChars_cons_blank first, ih others]

theorem scanChars_pieces {ps : List Piece} (apart : ps.IsChain Piece.Apart) :
    scanChars (ps.flatMap Piece.chars) = ps.map (·.lexeme.token) := by
  induction ps with
  | nil => rfl
  | cons p ps ih =>
    have ends : scanChars (p.lexeme.chars ++ (p.blanks ++ ps.flatMap Piece.chars)) =
        scanChars p.lexeme.chars ++ scanChars (p.blanks ++ ps.flatMap Piece.chars) :=
      scanChars_append fun c last => Piece.stops apart c (List.mem_of_getLast? last)
    rw [List.flatMap_cons, Piece.chars, List.append_assoc, ends, p.lexeme.scanChars_chars,
      scanChars_blanks_append p.areBlank, ih apart.tail]
    rfl

end Token

namespace Layout

theorem scanChars_chars (l : Layout) :
    Token.scanChars l.chars = l.lexemes.map Lexeme.token := by
  rw [chars, Token.scanChars_blanks_append l.areBlank, Token.scanChars_pieces l.apart, lexemes,
    List.map_map]
  rfl

theorem chars_injective {l m : Layout} (h : l.chars = m.chars) : l = m := by
  obtain ⟨indents, bodies⟩ := Lexeme.append_inj_of_leaves l.areBlank (Piece.leaves_blanks l.pieces)
    m.areBlank (Piece.leaves_blanks m.pieces) h
  exact Layout.ext indents (Piece.pieces_injective l.apart m.apart bodies)

/-! ## Every text has a layout -/

/-- A character goes before a layout as a blank, as the start of the first run, or as a lexeme by
itself. -/
theorem exists_cons (c : Char) (l : Layout) : ∃ m : Layout, m.chars = c :: l.chars := by
  obtain ⟨indent, indented, pieces, apart⟩ := l
  by_cases blank : isBlank c = true
  · exact ⟨⟨c :: indent, List.forall_mem_cons.2 ⟨blank, indented⟩, pieces, apart⟩, rfl⟩
  · obtain ⟨x, single⟩ := Lexeme.exists_single (Bool.eq_false_iff.2 blank)
    by_cases goesOn : indent = [] ∧ ∃ p ∈ pieces.head?, x.merges p.lexeme = true
    · obtain ⟨rfl, p, first, same⟩ := goesOn
      obtain ⟨ps, rfl⟩ : ∃ ps, pieces = p :: ps := List.head?_eq_some_iff.1 first
      obtain ⟨z, extended, asBefore⟩ := Lexeme.exists_extension single same
      have apart' : (⟨z, p.blanks, p.areBlank⟩ :: ps : List Piece).IsChain Piece.Apart := by
        refine List.isChain_cons.2 ⟨fun q next merging => ?_, apart.tail⟩
        rw [asBefore] at merging
        exact (List.isChain_cons.1 apart).1 q next merging
      refine ⟨⟨[], List.forall_mem_nil _, _, apart'⟩, ?_⟩
      simp [chars, Piece.chars, extended]
    · have apart' : (⟨x, indent, indented⟩ :: pieces : List Piece).IsChain Piece.Apart :=
        List.isChain_cons.2
          ⟨fun p first same nothing => goesOn ⟨nothing, p, first, same⟩, apart⟩
      refine ⟨⟨[], List.forall_mem_nil _, _, apart'⟩, ?_⟩
      simp [chars, Piece.chars, single]

theorem exists_chars (cs : List Char) : ∃ l : Layout, l.chars = cs := by
  induction cs with
  | nil => exact ⟨⟨[], List.forall_mem_nil _, [], .nil⟩, rfl⟩
  | cons c cs ih =>
    obtain ⟨l, rfl⟩ := ih
    exact exists_cons c l

theorem existsUnique_text (text : String) : ∃! l : Layout, l.text = text := by
  obtain ⟨l, eq⟩ := exists_chars text.toList
  refine ⟨l, ?_, fun m same => ?_⟩
  · show String.ofList l.chars = text
    rw [eq, String.ofList_toList]
  · refine chars_injective ?_
    rw [eq, ← same, Layout.text, String.toList_ofList]

/-- What is not blank is in the lexemes, in its order. -/
theorem filter_not_isBlank (l : Layout) :
    l.chars.filter (!isBlank ·) = l.lexemes.flatMap Lexeme.chars := by
  have dropped {blanks : List Char} (h : ∀ c ∈ blanks, isBlank c = true) :
      blanks.filter (!isBlank ·) = [] :=
    List.filter_eq_nil_iff.2 fun c mem => by simp [h c mem]
  have kept (x : Lexeme) : x.chars.filter (!isBlank ·) = x.chars :=
    List.filter_eq_self.2 fun c mem => by simp [Lexeme.isBlank_of_mem mem]
  rw [chars, List.filter_append, dropped l.areBlank, List.nil_append, lexemes, List.flatMap_map]
  induction l.pieces with
  | nil => rfl
  | cons p ps ih =>
    rw [List.flatMap_cons, List.flatMap_cons, List.filter_append, ih, Piece.chars,
      List.filter_append, kept, dropped p.areBlank, List.append_nil]

end Layout

/-- Scanning takes a text apart in the only way there is. Every text has exactly one layout; its
tokens are those of the lexemes, whatever the blanks, and every character that is not blank is in
one of the lexemes. -/
theorem Token.scan_layout :
    (∀ text : String, ∃! l : Layout, l.text = text) ∧
    (∀ l : Layout, scan l.text = l.lexemes.map Lexeme.token ∧
      l.text.toList.filter (!isBlank ·) = l.lexemes.flatMap Lexeme.chars) ∧
    (∀ l m : Layout, l.lexemes = m.lexemes → scan l.text = scan m.text) := by
  have tokens (l : Layout) : scan l.text = l.lexemes.map Lexeme.token := by
    rw [scan, Layout.text, String.toList_ofList, l.scanChars_chars]
  refine ⟨Layout.existsUnique_text, fun l => ⟨tokens l, ?_⟩, fun l m same => ?_⟩
  · rw [Layout.text, String.toList_ofList, l.filter_not_isBlank]
  · rw [tokens l, tokens m, same]

end Reckoner
