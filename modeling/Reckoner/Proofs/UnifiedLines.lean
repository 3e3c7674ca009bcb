import Reckoner.Proofs.Lines

/-!
# Unified line breaks

A text file is read with `\n` for every `\r\n` and `\r`, and a member of an archive is read as it
is. Both have the same lines: what becomes of an ending is one break again, and it ends the same
line. So it does not matter to a script which of the two it comes from.

Results:
* `unifyBreaks_line`: one line at a time, the ending is one break other than `\r`.
* `lines_unifyLines`: the lines stay as they are.
-/
namespace Reckoner.Text

variable {cs ending rest : List Char}

/-- What the characters become when they come after `previous`. -/
def unifyAfter (previous : Option Char) (cs : List Char) : List Char :=
  (withPrevious previous cs).filterMap fun (previous, c) => unifyBreak previous c

theorem unifyAfter_cons (previous : Option Char) (c : Char) (cs : List Char) :
    unifyAfter previous (c :: cs) =
      (unifyBreak previous c).toList ++ unifyAfter (some c) cs := by
  simp only [unifyAfter, withPrevious_cons, List.filterMap_cons]
  cases unifyBreak previous c <;> rfl

theorem unifyAfter_append (previous : Option Char) (cs ds : List Char) :
    unifyAfter previous (cs ++ ds) =
      unifyAfter previous cs ++ unifyAfter (cs.getLast?.or previous) ds := by
  simp only [unifyAfter, withPrevious_append, List.filterMap_append]

/-- Only a `\r` before a `\n` matters. -/
theorem unifyAfter_eq_unifyBreaks {previous : Option Char}
    (h : previous = some '\r' → rest.head? ≠ some '\n') :
    unifyAfter previous rest = unifyBreaks rest := by
  cases rest with
  | nil => rfl
  | cons c rest =>
    have alone : ¬(c = '\n' ∧ previous = some '\r') := fun both => h both.2 (congrArg some both.1)
    have same : unifyBreak previous c = unifyBreak none c := by simp [unifyBreak, alone]
    rw [unifyAfter_cons, same, ← unifyAfter_cons]
    rfl

theorem unifyBreak_of_not_isLineBreak {c : Char} (h : isLineBreak c = false)
    (previous : Option Char) : unifyBreak previous c = some c := by
  have carriage : c ≠ '\r' := fun eq => by rw [eq] at h; cases h
  have newline : c ≠ '\n' := fun eq => by rw [eq] at h; cases h
  simp [unifyBreak, carriage, newline]

theorem unifyAfter_breakless (h : ∀ c ∈ cs, isLineBreak c = false) (previous : Option Char) :
    unifyAfter previous cs = cs := by
  induction cs generalizing previous with
  | nil => rfl
  | cons c cs ih =>
    obtain ⟨first, others⟩ := List.forall_mem_cons.1 h
    rw [unifyAfter_cons, unifyBreak_of_not_isLineBreak first, ih others]
    rfl

/-! ## Line by line -/

/-- An ending becomes one break, which is an ending whatever comes after it. -/
theorem unifyAfter_ending {previous : Option Char} (ends : Ending ending rest)
    (before : previous ≠ some '\r') :
    ∃ b, isLineBreak b = true ∧ b ≠ '\r' ∧
      unifyAfter previous (ending ++ rest) = b :: unifyBreaks rest := by
  cases ends with
  | pair =>
    have dropped : unifyBreak (some '\r') '\n' = none := by decide
    refine ⟨'\n', by decide, by decide, ?_⟩
    rw [List.cons_append, List.singleton_append, unifyAfter_cons, unifyAfter_cons, dropped,
      unifyAfter_eq_unifyBreaks fun same => absurd same (by decide)]
    rfl
  | @single b _ breaks whole =>
    have after : unifyAfter (some b) rest = unifyBreaks rest :=
      unifyAfter_eq_unifyBreaks fun same => whole (Option.some.inj same)
    rw [List.singleton_append, unifyAfter_cons, after]
    by_cases carriage : b = '\r'
    · refine ⟨'\n', by decide, by decide, ?_⟩
      rw [carriage]
      rfl
    · have kept : unifyBreak previous b = some b := by simp [unifyBreak, carriage, before]
      exact ⟨b, breaks, carriage, by rw [kept]; rfl⟩

theorem unifyBreaks_line (h : ∀ c ∈ cs, isLineBreak c = false) (ends : Ending ending rest) :
    ∃ b, isLineBreak b = true ∧ b ≠ '\r' ∧
      unifyBreaks (cs ++ ending ++ rest) = cs ++ [b] ++ unifyBreaks rest := by
  have before : cs.getLast?.or none ≠ some '\r' := by
    rw [Option.or_none]
    intro last
    have breakless := h _ (List.mem_of_getLast? last)
    cases breakless
  obtain ⟨b, breaks, other, unified⟩ := unifyAfter_ending ends before
  refine ⟨b, breaks, other, ?_⟩
  have cut := unifyAfter_append none cs (ending ++ rest)
  rw [unifyAfter_breakless h, unified] at cut
  rw [List.append_assoc, List.append_assoc]
  exact cut

theorem lines_ofList_unifyBreaks (cs : List Char) :
    lines (String.ofList (unifyBreaks cs)) = lines (String.ofList cs) := by
  induction inLines cs with
  | last breakless => exact congrArg (lines ∘ String.ofList) (unifyAfter_breakless breakless none)
  | line breakless ends others ih =>
    obtain ⟨b, breaks, other, unified⟩ := unifyBreaks_line breakless ends
    rw [unified, lines_ofList_ending breakless (.single breaks fun same => absurd same other), ih,
      lines_ofList_ending breakless ends]

/-- The lines of a text do not depend on which breaks end them. -/
theorem lines_unifyLines (text : String) : lines (unifyLines text) = lines text := by
  rw [unifyLines, lines_ofList_unifyBreaks, String.ofList_toList]

end Reckoner.Text
