import Mathlib.Data.List.SplitBy
import Mathlib.Data.List.TakeWhile
import Reckoner.Text.Blank
import Reckoner.Text.LineBreak

/-!
# Lines of a text

A text is cut into lines at its line breaks, so no line holds one, and lines joined by
`\n` are cut apart again where they were joined. Only an empty last line is lost, for a break
at the very end starts no line.

Results:
* `isBreakless_of_mem_lines`: no line holds a line break.
* `inLines`: every text is made of lines and their endings.
* `lines_ofList_ending`: a line and its ending stand apart from what follows.
* `lines_newline`: two texts joined by `\n` have their lines, and perhaps an empty one between them.
* `lines_intercalate`: lines joined and cut apart are the same, save an empty last one.
* `lines_join`: lines that all end with a break are cut apart as they were.
-/
namespace Reckoner.Text

/-- Whether a text holds no line break. -/
def isBreakless (text : String) : Bool := text.toList.all (!isLineBreak ·)

theorem isBreakless_iff {text : String} :
    isBreakless text ↔ ∀ c ∈ text.toList, isLineBreak c = false := by
  simp [isBreakless]

theorem isBreakless_of_mem_lines {text line : String} (h : line ∈ lines text) :
    isBreakless line := by
  obtain ⟨chunk, -, rfl⟩ := List.mem_map.1 h
  rw [isBreakless_iff]
  intro c mem
  have kept := List.mem_takeWhile_imp (by simpa using mem)
  simpa using kept

theorem sameLine_of_not_isLineBreak {a : Char} (h : isLineBreak a = false) (b : Char) :
    sameLine a b = true := by
  simp [sameLine, h]

theorem splitBy_breakless {cs : List Char} (nonempty : cs ≠ [])
    (h : ∀ c ∈ cs, isLineBreak c = false) : cs.splitBy sameLine = [cs] := by
  refine List.splitBy_of_isChain nonempty (List.Pairwise.isChain ?_)
  exact List.pairwise_of_forall_mem_list fun a mem b _ => sameLine_of_not_isLineBreak (h a mem) b

/-- What ends a line, and what comes after it. -/
inductive Ending : List Char → List Char → Prop where
  | pair (rest : List Char) : Ending ['\r', '\n'] rest
  /-- a break by itself, which the next character is no part of -/
  | single {b : Char} {rest : List Char} (breaks : isLineBreak b = true)
    (whole : b = '\r' → rest.head? ≠ some '\n') : Ending [b] rest

theorem Ending.newline (rest : List Char) : Ending ['\n'] rest :=
  .single (by decide) fun carriage => absurd carriage (by decide)

variable {cs ending rest : List Char}

/-- A line ends where its ending does. -/
theorem splitBy_ending (h : ∀ c ∈ cs, isLineBreak c = false) (ends : Ending ending rest) :
    (cs ++ ending ++ rest).splitBy sameLine = (cs ++ ending) :: rest.splitBy sameLine := by
  have within : ending ≠ [] ∧ ending.Pairwise fun a b => sameLine a b = true := by
    cases ends with
    | pair => simp [sameLine]
    | single => simp
  have apart : ∀ x ∈ (cs ++ ending).getLast?, ∀ y ∈ rest.head?, sameLine x y = false := by
    intro x last y next
    cases ends with
    | pair =>
      obtain rfl : '\n' = x := by simpa using last
      rfl
    | single breaks whole =>
      obtain rfl : _ = x := by simpa using last
      have notBoth : ¬(_ = '\r' ∧ y = '\n') := fun both => whole both.1 (both.2 ▸ next)
      simpa [sameLine, breaks] using notBoth
  have joined : (cs ++ ending).splitBy sameLine = [cs ++ ending] := by
    refine List.splitBy_of_isChain (by simp [within.1]) (List.Pairwise.isChain ?_)
    refine List.pairwise_append.2 ⟨?_, within.2, ?_⟩
    · exact List.pairwise_of_forall_mem_list fun a mem b _ =>
        sameLine_of_not_isLineBreak (h a mem) b
    · exact fun a mem b _ => sameLine_of_not_isLineBreak (h a mem) b
  rw [List.splitBy_append apart, joined, List.singleton_append]

theorem takeWhile_ending (h : ∀ c ∈ cs, isLineBreak c = false) (ends : Ending ending rest) :
    (cs ++ ending).takeWhile (!isLineBreak ·) = cs := by
  have stops : ending.takeWhile (!isLineBreak ·) = [] := by
    cases ends with
    | pair => rfl
    | single breaks whole => simp [breaks]
  rw [List.takeWhile_append_of_pos fun c mem => by simp [h c mem], stops, List.append_nil]

/-- How a text is made of lines: each has an ending, save perhaps the last. -/
inductive InLines : List Char → Prop where
  | last {cs : List Char} (breakless : ∀ c ∈ cs, isLineBreak c = false) : InLines cs
  | line {cs ending rest : List Char} (breakless : ∀ c ∈ cs, isLineBreak c = false)
    (ends : Ending ending rest) (others : InLines rest) : InLines (cs ++ ending ++ rest)

theorem InLines.cons {c : Char} (other : isLineBreak c = false) (h : InLines cs) :
    InLines (c :: cs) := by
  cases h with
  | last breakless => exact .last (List.forall_mem_cons.2 ⟨other, breakless⟩)
  | line breakless ends others =>
    exact .line (List.forall_mem_cons.2 ⟨other, breakless⟩) ends others

/-- Every text is made of lines. -/
theorem inLines : ∀ cs : List Char, InLines cs
  | [] => .last (List.forall_mem_nil _)
  | c :: rest => by
    cases breaks : isLineBreak c with
    | false => exact (inLines rest).cons breaks
    | true =>
      by_cases pair : c = '\r' ∧ rest.head? = some '\n'
      · obtain ⟨rfl, next⟩ := pair
        cases rest with
        | nil => cases next
        | cons d more =>
          cases next
          exact .line (List.forall_mem_nil _) (.pair more) (inLines more)
      · have alone : Ending [c] rest := .single breaks fun carriage next => pair ⟨carriage, next⟩
        exact .line (List.forall_mem_nil _) alone (inLines rest)

/-! ## Lines -/

theorem lines_empty : lines "" = [] := rfl

theorem lines_ofList_ending (h : ∀ c ∈ cs, isLineBreak c = false) (ends : Ending ending rest) :
    lines (String.ofList (cs ++ ending ++ rest)) =
      String.ofList cs :: lines (String.ofList rest) := by
  simp only [lines, String.toList_ofList]
  rw [splitBy_ending h ends, List.map_cons, takeWhile_ending h ends]

theorem lines_cons {line : String} (h : isBreakless line) (rest : String) :
    lines (line ++ "\n" ++ rest) = line :: lines rest := by
  have cut := lines_ofList_ending (isBreakless_iff.1 h) (.newline rest.toList)
  have text : line ++ "\n" ++ rest = String.ofList (line.toList ++ ['\n'] ++ rest.toList) := by
    rw [← String.toList_inj]
    simp
  rw [text, cut, String.ofList_toList, String.ofList_toList]

theorem lines_ofList_breakless (h : ∀ c ∈ cs, isLineBreak c = false) (nonempty : cs ≠ []) :
    lines (String.ofList cs) = [String.ofList cs] := by
  have all : cs.takeWhile (!isLineBreak ·) = cs :=
    List.takeWhile_eq_self_iff.2 fun c mem => by simp [h c mem]
  rw [lines, String.toList_ofList, splitBy_breakless nonempty h, List.map_singleton, all]

theorem lines_singleton {line : String} (h : isBreakless line) (nonempty : line ≠ "") :
    lines line = [line] := by
  have whole := lines_ofList_breakless (isBreakless_iff.1 h) (by simpa using nonempty)
  rwa [String.ofList_toList] at whole

/-- An ending stays one before what follows, save that a `\r` at the very end takes in a `\n`. -/
theorem Ending.append (ends : Ending ending rest) (more : List Char) :
    Ending ending (rest ++ more) ∨ ending = ['\r'] ∧ rest = [] ∧ more.head? = some '\n' := by
  cases ends with
  | pair => exact .inl (.pair _)
  | @single b _ breaks whole =>
    cases rest with
    | cons c rest => exact .inl (.single breaks whole)
    | nil =>
      by_cases taken : b = '\r' ∧ more.head? = some '\n'
      · exact .inr ⟨by rw [taken.1], rfl, taken.2⟩
      · exact .inl (.single breaks fun carriage next => taken ⟨carriage, next⟩)

theorem lines_ofList_newline (cs ds : List Char) :
    lines (String.ofList (cs ++ '\n' :: ds)) =
        lines (String.ofList cs) ++ lines (String.ofList ds) ∨
      lines (String.ofList (cs ++ '\n' :: ds)) =
        lines (String.ofList cs) ++ "" :: lines (String.ofList ds) := by
  induction inLines cs with
  | @last cs breakless =>
    have cut := lines_ofList_ending breakless (.newline ds)
    rw [← List.append_cons] at cut
    rw [cut]
    by_cases empty : cs = []
    · subst empty
      exact .inr rfl
    · rw [lines_ofList_breakless breakless empty]
      exact .inl rfl
  | @line cs ending rest breakless ends others ih =>
    rw [lines_ofList_ending breakless ends, List.append_assoc]
    rcases ends.append ('\n' :: ds) with goesOn | ⟨rfl, rfl, -⟩
    · rw [lines_ofList_ending breakless goesOn]
      exact ih.imp (congrArg _) (congrArg _)
    · -- the two breaks are one
      have cut := lines_ofList_ending breakless (.pair ds)
      have text : cs ++ ['\r'] ++ ([] ++ '\n' :: ds) = cs ++ ['\r', '\n'] ++ ds := by simp
      rw [text, cut]
      exact .inl rfl

/-- Between two texts `\n` ends the last line of the first, or stands on an empty line. -/
theorem lines_newline (a b : String) :
    lines (a ++ "\n" ++ b) = lines a ++ lines b ∨
      lines (a ++ "\n" ++ b) = lines a ++ "" :: lines b := by
  have text : a ++ "\n" ++ b = String.ofList (a.toList ++ '\n' :: b.toList) := by
    rw [← String.toList_inj]
    simp
  have cut := lines_ofList_newline a.toList b.toList
  rwa [← text, String.ofList_toList, String.ofList_toList] at cut

/-- Lines that are joined are cut apart again; of an empty last one nothing is left. -/
theorem lines_intercalate {ls : List String} (h : ∀ line ∈ ls, isBreakless line) :
    ls = lines ("\n".intercalate ls) ∨ ls = lines ("\n".intercalate ls) ++ [""] := by
  induction ls with
  | nil => exact .inl rfl
  | cons line rest ih =>
    obtain ⟨first, others⟩ := List.forall_mem_cons.1 h
    cases rest with
    | nil =>
      rw [String.intercalate_singleton]
      by_cases blank : line = ""
      · rw [blank, lines_empty]
        exact .inr rfl
      · rw [lines_singleton first blank]
        exact .inl rfl
    | cons second rest =>
      rw [String.intercalate_cons_cons, lines_cons first]
      rcases ih others with same | same
      · exact .inl (congrArg _ same)
      · exact .inr (congrArg _ same)

theorem lines_join {ls : List String} (h : ∀ line ∈ ls, isBreakless line) :
    lines (String.join (ls.map (· ++ "\n"))) = ls := by
  induction ls with
  | nil => exact lines_empty
  | cons line rest ih =>
    obtain ⟨first, others⟩ := List.forall_mem_cons.1 h
    rw [List.map_cons, String.join_cons, lines_cons first, ih others]

theorem isBreakless_append {a b : String} :
    isBreakless (a ++ b) = true ↔ isBreakless a = true ∧ isBreakless b = true := by
  simp [isBreakless]

theorem trim_subset (cs : List Char) : trim cs ⊆ cs := by
  intro c mem
  have second := (List.dropWhile_sublist _).subset (List.mem_reverse.1 mem)
  exact (List.dropWhile_sublist _).subset (List.mem_reverse.1 second)

theorem isBreakless_strip {text : String} (h : isBreakless text = true) :
    isBreakless (strip text) = true := by
  rw [isBreakless_iff, strip, String.toList_ofList]
  exact fun c mem => isBreakless_iff.1 h c (trim_subset _ mem)

end Reckoner.Text
