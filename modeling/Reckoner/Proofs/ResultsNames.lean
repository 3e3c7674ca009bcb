import Mathlib.Data.List.Forall2
import Reckoner.Proofs.Containers
import Reckoner.Proofs.ScriptEffect

/-!
# Which scripts share their results

The results of a script stand beside it, under its name with all dots behind the leading ones
written as underscores. So two scripts in one folder share their results exactly if their names are
alike but for dots and underscores; and if they do not, a run on one of them leaves the results of
the other as they are.

Main definitions:
* `flattened`: a name with underscores for its dots.
* `Alike`: names that differ in dots and underscores only.
* `ScriptFile.IsSupported`: paths of text files and of archives.

Results:
* `flattened_eq_cut`: only the suffixes of a name are changed when it is flattened.
* `flattened_eq_iff`: names are flattened to the same exactly if they are alike.
* `resultsPath_flattened`: where results are written, and when they have no place.
* `CommandLine.find?_beside_results`: a run leaves what stands beside its results.
* `resultsPath_shared_iff`: which scripts share their results.
-/
namespace Reckoner

def underscored (c : Char) : Char := if c = '.' then '_' else c

/-- A name with all dots behind the leading ones written as underscores; a name that ends with a dot
keeps its dots. -/
def flattened (name : List Char) : List Char :=
  if name.getLast? = some '.' then name
  else name.takeWhile (· == '.') ++ (name.dropWhile (· == '.')).map underscored

theorem underscored_ne_dot (c : Char) : underscored c ≠ '.' := by
  unfold underscored
  split
  · decide
  · assumption

theorem map_underscored_of_dotless {cs : List Char} (h : '.' ∉ cs) : cs.map underscored = cs := by
  have same : ∀ c ∈ cs, underscored c = id c := by
    intro c mem
    refine if_neg ?_
    rintro rfl
    exact h mem
  rw [List.map_congr_left same, List.map_id]

/-- There are no dots in the base of a name, so those of the suffixes are all that change. -/
theorem flattened_eq_cut {name : List Char} (nonempty : name ≠ []) :
    flattened name = (Path.cut name).1 ++ (Path.cut name).2.map underscored := by
  unfold flattened
  split
  · rename_i last
    simp [Path.cut_of_last_dot last]
  · rename_i last
    obtain ⟨dots, base, tail, parts⟩ := Path.exists_parts nonempty last
    obtain ⟨front, back⟩ := parts.split_dots
    rw [parts.cut_eq last, front, back, List.map_append, map_underscored_of_dotless parts.dotless,
      List.append_assoc]

/-! ## Names that are alike -/

/-- Two characters are the same, or one is a dot and the other an underscore. -/
def AlikeChar (a b : Char) : Prop := a = b ∨ (a = '.' ∧ b = '_') ∨ (a = '_' ∧ b = '.')

/-- Two names have the same leading dots, and behind them they differ in nothing but that one has a
dot where the other has an underscore. -/
def Alike (xs ys : List Char) : Prop :=
  xs.takeWhile (· == '.') = ys.takeWhile (· == '.') ∧
    List.Forall₂ AlikeChar (xs.dropWhile (· == '.')) (ys.dropWhile (· == '.'))

theorem underscored_eq_iff (a b : Char) : underscored a = underscored b ↔ AlikeChar a b := by
  unfold underscored AlikeChar
  constructor
  · intro same
    split at same <;> split at same
    · simp_all
    · simp_all [eq_comm]
    · simp_all
    · simp_all
  · rintro (rfl | ⟨rfl, rfl⟩ | ⟨rfl, rfl⟩) <;> simp

theorem map_underscored_eq_iff (xs ys : List Char) :
    xs.map underscored = ys.map underscored ↔ List.Forall₂ AlikeChar xs ys := by
  rw [← List.forall₂_eq_eq_eq, List.forall₂_map_left_iff, List.forall₂_map_right_iff]
  simp only [underscored_eq_iff]

/-- What is flattened has the same leading dots. -/
theorem takeWhile_leading_append (xs ys : List Char) :
    (xs.takeWhile (· == '.') ++ ys.map underscored).takeWhile (· == '.') =
      xs.takeWhile (· == '.') := by
  have leading : ∀ c ∈ xs.takeWhile (· == '.'), (c == '.') = true := fun c mem =>
    List.mem_takeWhile_imp (p := (· == '.')) mem
  rw [List.takeWhile_append_of_pos leading]
  cases ys with
  | nil => simp
  | cons y ys => simp [underscored_ne_dot]

theorem flattened_eq_iff {xs ys : List Char} (hx : xs.getLast? ≠ some '.')
    (hy : ys.getLast? ≠ some '.') : flattened xs = flattened ys ↔ Alike xs ys := by
  simp only [flattened, if_neg hx, if_neg hy, Alike, ← map_underscored_eq_iff]
  constructor
  · intro same
    have leading := congrArg (List.takeWhile (· == '.')) same
    rw [takeWhile_leading_append, takeWhile_leading_append] at leading
    rw [leading] at same
    exact ⟨leading, List.append_cancel_left same⟩
  · rintro ⟨leading, rest⟩
    rw [leading, rest]

theorem eq_of_forall₂_alike {xs ys : List Char} (h : List.Forall₂ AlikeChar xs ys)
    (hx : '_' ∉ xs) (hy : '_' ∉ ys) : xs = ys := by
  induction h with
  | nil => rfl
  | cons alike _ ih =>
    rw [List.mem_cons, not_or] at hx hy
    rcases alike with rfl | ⟨-, rfl⟩ | ⟨rfl, -⟩
    · rw [ih hx.2 hy.2]
    · exact absurd rfl hy.1
    · exact absurd rfl hx.1

/-- Names without underscores are alike only if they are the same. -/
theorem Alike.eq {xs ys : List Char} (h : Alike xs ys) (hx : '_' ∉ xs) (hy : '_' ∉ ys) :
    xs = ys := by
  obtain ⟨leading, rest⟩ := h
  have same : xs.dropWhile (· == '.') = ys.dropWhile (· == '.') :=
    eq_of_forall₂_alike rest (fun mem => hx ((List.dropWhile_sublist _).subset mem))
      (fun mem => hy ((List.dropWhile_sublist _).subset mem))
  calc
    xs = xs.takeWhile (· == '.') ++ xs.dropWhile (· == '.') := List.takeWhile_append_dropWhile.symm
    _ = ys.takeWhile (· == '.') ++ ys.dropWhile (· == '.') := by rw [leading, same]
    _ = ys := List.takeWhile_append_dropWhile

/-! ## Where results are written -/

theorem toList_resultsName {p : Path} (h : p.name ≠ "") :
    (resultsName p).toList = flattened p.name.toList ++ "_results.txt".toList := by
  have nonempty : p.name.toList ≠ [] := by simpa using h
  rw [flattened_eq_cut nonempty]
  simp only [resultsName, Path.stem, Path.suffixes, String.toList_append, String.toList_ofList]
  rfl

theorem resultsName_eq_iff {p q : Path} (hp : p.name ≠ "") (hq : q.name ≠ "") :
    resultsName p = resultsName q ↔ flattened p.name.toList = flattened q.name.toList := by
  rw [← String.toList_inj, toList_resultsName hp, toList_resultsName hq, List.append_left_inj]

/-- A path with a name has a stem, which is not empty, and suffixes, and the name is made of the
two. Its results are written in the same folder: under the name with all dots behind the leading
ones replaced by underscores, none in a name that ends with a dot, and an ending, so never under the
path itself. A path without a name is refused, and no other. -/
theorem resultsPath_flattened (p : Path) :
    (p.name ≠ "" →
      p.stem ++ p.suffixes = p.name ∧ p.stem ≠ "" ∧
      ∃ r, resultsPath p = .ok r ∧ r.parent = p.parent ∧
        r.name.toList = flattened p.name.toList ++ "_results.txt".toList ∧ r ≠ p) ∧
    ∀ e, resultsPath p = .error e ↔ p.name = "" ∧ e = ⟨p⟩ := by
  constructor
  · intro named
    refine ⟨p.stem_append_suffixes, Path.stem_ne_empty named, p.beside (resultsName p),
      resultsPath_eq named, p.parent_beside _, ?_, ?_⟩
    · rw [Path.name_beside, toList_resultsName named]
    · intro same
      apply resultsName_ne_name p
      rw [← p.name_beside (resultsName p), same]
  · intro e
    by_cases named : p.name = ""
    · have refused : resultsPath p = .error ⟨p⟩ := by simp [resultsPath, Path.withName, named]
      rw [refused, Except.error.injEq, eq_comm]
      exact ⟨fun same => ⟨named, same⟩, And.right⟩
    · rw [resultsPath_eq named]
      constructor
      · intro error
        cases error
      · rintro ⟨nameless, -⟩
        exact absurd nameless named

example :
    resultsPath (.ofText "in/..a..b_c.tar.Xz") = .ok (.ofText "in/..a__b_c_tar_Xz_results.txt") ∧
      resultsPath (.ofText "a.b.") = .ok (.ofText "a.b._results.txt") ∧
      resultsPath (.ofText "in/..") = .ok (.ofText "in/.._results.txt") := by
  decide +kernel

namespace ScriptFile

/-- Whether the path is that of a text file or of an archive. -/
def IsSupported (p : Path) : Prop :=
  isTextFile p = true ∨ (Archive.Format.ofPath? p).isSome = true

theorem getLast?_of_isSupported {p : Path} (h : IsSupported p) :
    ∃ c ∈ ['t', 'p', 'z'], (p.name.toList.map Char.toLower).getLast? = some c := by
  rcases h with isText | isArchive
  · exact ⟨'t', by simp, getLast?_of_isTextFile isText⟩
  · obtain ⟨format, found⟩ := Option.isSome_iff_exists.1 isArchive
    refine ⟨lastOf format, ?_, getLast?_of_format found⟩
    cases format <;> simp [lastOf]

theorem name_of_isSupported {p : Path} (h : IsSupported p) :
    p.name ≠ "" ∧ p.name.toList.getLast? ≠ some '.' := by
  obtain ⟨c, letter, last⟩ := getLast?_of_isSupported h
  rw [List.getLast?_map] at last
  constructor
  · intro nameless
    simp [nameless] at last
  · intro isDot
    rw [isDot] at last
    simp only [Option.map_some, Option.some.injEq] at last
    subst last
    revert letter
    decide

end ScriptFile

/-! ## Runs on one of two scripts -/

namespace CommandLine

variable {limits : Limits} {folder : Folder} {p place : Path} {text : String}

/-- What is written, is written to the results path, and not over a folder. -/
theorem place_of_written (h : (runScript limits folder p).written = some (place, text)) :
    ∃ target, resultsPath p = .ok target ∧ folder.locate target = some place ∧
      folder.entryAt place ≠ some .folder := by
  unfold runScript at h
  split at h
  · cases h
  · cases h
  · rename_i target located beside found
    split at h
    · cases h
    · simp only [runLoaded] at h
      split at h
      · cases h
      · rename_i there isPlace
        split at h
        · cases h
        · rename_i free
          cases h
          exact ⟨target, beside, isPlace, free⟩

/-- A run leaves what stands beside its results, the results of other scripts among it. -/
theorem find?_beside_results (named : p.name ≠ "") {n : String} (other : n ≠ resultsName p)
    (notUp : n ≠ "..") (limits : Limits) (folder : Folder) :
    ((runScript limits folder p).filesAfter folder).find? (p.beside n) =
      folder.find? (p.beside n) := by
  cases written : (runScript limits folder p).written with
  | none => rw [filesAfter_of_none written]
  | some result =>
    obtain ⟨place, text⟩ := result
    obtain ⟨target, isTarget, located, free⟩ := place_of_written written
    obtain rfl : target = p.beside (resultsName p) :=
      Except.ok.inj (isTarget.symm.trans (resultsPath_eq named))
    -- the two paths differ in their last component only, so they lead to two places
    obtain ⟨there, foundThere, apart, -⟩ := Folder.locate_sibling located
      (p.components_beside_ne_nil _) notUp (by simpa using other.symm)
    rw [Path.beside_beside] at foundThere
    obtain ⟨again, foundAgain, -, placeNotUp⟩ := Folder.locate_sibling foundThere
      (p.components_beside_ne_nil _) (resultsName_ne_up p) (by simpa using other)
    rw [Path.beside_beside] at foundAgain
    obtain rfl : again = place := Option.some.inj (foundAgain.symm.trans located)
    have only := onlyWritten_filesAfter written placeNotUp free (p.beside n)
    rw [only, foundThere, if_neg]
    exact fun same => apart (Option.some.inj same)

end CommandLine

/-- Two scripts in one folder both have a results path, and these are the same exactly if the names
of the scripts are alike. So two scripts without underscores in their names do not share their
results; and if the results paths differ, a run on one script leaves the results of the other. -/
theorem resultsPath_shared_iff {p q : Path} (together : p.parent = q.parent)
    (hp : ScriptFile.IsSupported p) (hq : ScriptFile.IsSupported q) :
    ∃ r s, resultsPath p = .ok r ∧ resultsPath q = .ok s ∧
      (r = s ↔ Alike p.name.toList q.name.toList) ∧
      ('_' ∉ p.name.toList → '_' ∉ q.name.toList → p ≠ q → r ≠ s) ∧
      (r ≠ s → ∀ (limits : Limits) (folder : Folder),
        ((CommandLine.runScript limits folder p).filesAfter folder).find? s = folder.find? s) := by
  obtain ⟨named, last⟩ := ScriptFile.name_of_isSupported hp
  obtain ⟨named', last'⟩ := ScriptFile.name_of_isSupported hq
  have shared : p.beside (resultsName p) = q.beside (resultsName q) ↔
      Alike p.name.toList q.name.toList := by
    rw [← flattened_eq_iff last last', ← resultsName_eq_iff named named',
      Path.beside_congr together]
    constructor
    · intro same
      simpa using congrArg Path.name same
    · intro same
      rw [same]
  refine ⟨p.beside (resultsName p), q.beside (resultsName q), resultsPath_eq named,
    resultsPath_eq named', shared, ?_, ?_⟩
  · intro plain plain' distinct same
    apply distinct
    have sameName := String.toList_inj.1 ((shared.1 same).eq plain plain')
    rw [← Path.beside_name (Path.components_ne_nil_of_name named),
      ← Path.beside_name (Path.components_ne_nil_of_name named'), Path.beside_congr together,
      sameName]
  · intro differ limits folder
    rw [← Path.beside_congr together] at differ ⊢
    refine CommandLine.find?_beside_results named ?_ (resultsName_ne_up q) limits folder
    intro same
    apply differ
    rw [same]

/-- Two scripts share their results: the second run writes over what the first has written. -/
theorem resultsPath_dot_underscore :
    let p := Path.ofText "a.b.txt"
    let q := Path.ofText "a_b.txt"
    let folder := (Folder.empty.add p (.file (.bytes "1".toUTF8))).add q (.file (.bytes "2".toUTF8))
    let results := Path.ofText "a_b_txt_results.txt"
    p ≠ q ∧ p.parent = q.parent ∧ ScriptFile.IsSupported p ∧ ScriptFile.IsSupported q ∧
      resultsPath p = .ok results ∧ resultsPath q = .ok results ∧
      (CommandLine.runScript {} folder p).written = some (results, "1 = 1\n") ∧
      (CommandLine.runScript {} folder q).written = some (results, "2 = 2\n") := by
  unfold ScriptFile.IsSupported
  decide +kernel

/-- The names differ in their first character only, but in one of them this is a leading dot. -/
theorem resultsPath_shared_iff_leading_dot :
    let p := Path.ofText "in/.a_b.v1.tar.XZ"
    let q := Path.ofText "in/_a_b.v1.tar.XZ"
    p.parent = q.parent ∧ ScriptFile.IsSupported p ∧ ScriptFile.IsSupported q ∧
      ∃ r s, resultsPath p = .ok r ∧ resultsPath q = .ok s ∧ r ≠ s ∧
        ∀ (limits : Limits) (folder : Folder),
          ((CommandLine.runScript limits folder p).filesAfter folder).find? s =
            folder.find? s := by
  intro p q
  have together : p.parent = q.parent := by decide +kernel
  have hp : ScriptFile.IsSupported p := .inr (by decide +kernel)
  have hq : ScriptFile.IsSupported q := .inr (by decide +kernel)
  have unlike : ¬Alike p.name.toList q.name.toList := by
    rintro ⟨leading, -⟩
    revert leading
    decide +kernel
  obtain ⟨r, s, first, second, shared, -, kept⟩ := resultsPath_shared_iff together hp hq
  have differ : r ≠ s := fun same => unlike (shared.1 same)
  exact ⟨together, hp, hq, r, s, first, second, differ, kept differ⟩

end Reckoner
