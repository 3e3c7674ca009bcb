import Reckoner.Proofs.Choice

/-!
# Members named after their archive

An archive is told by the end of its name, whatever dots stand before its extension, but the script
in it is looked for under the name without all suffixes. Both agree if the rest of the name has no
dots behind its leading ones: then a script that is called like the archive is chosen. Of a name
like `ops.v1.zip` the stem is `ops`, so `ops.v1.txt` is a script like any other.

Results:
* `Format.ofPath?_eq_some`: the format of an archive, by its extension.
* `cut_of_name`, `stem_of_name`: under which name its script is looked for.
* `chosen_named_iff`, `chosen_other_iff`: when a script with a given name is chosen.
* `namesake_chosen_iff`: when a script that is called like the archive is chosen.
-/
namespace Reckoner.Archive

variable {base : String} {archive : Path} {format : Format}

namespace Format

theorem head?_extension (f : Format) : f.extension.toList.head? = some '.' := by
  cases f <;> rfl

theorem getLast?_extension (f : Format) : f.extension.toList.getLast? ≠ some '.' := by
  cases f <;> decide

theorem toLower_extension (f : Format) :
    f.extension.toList.map Char.toLower = f.extension.toList := by
  cases f <;> rfl

/-- No extension is the end of another one. -/
theorem eq_of_isSuffix {f g : Format} {cs : List Char} (hf : f.extension.toList <:+ cs)
    (hg : g.extension.toList <:+ cs) : f = g := by
  have either := List.suffix_or_suffix_of_suffix hf hg
  revert either
  cases f <;> cases g <;> decide

theorem ofPath?_eq_some {p : Path} (h : format.extension.toList <:+ p.suffixes.toList) :
    ofPath? p = some format := by
  have ends : format.extension.toList <:+ p.suffixes.toList.map Char.toLower := by
    have lowered := h.map Char.toLower
    rwa [format.toLower_extension] at lowered
  cases found : ofPath? p with
  | none =>
    have missed := List.find?_eq_none.1 found format (by cases format <;> simp)
    rw [Path.endsWithExtension, List.isSuffixOf_iff_suffix] at missed
    exact absurd ends missed
  | some other =>
    have alsoEnds := List.find?_some found
    rw [Path.endsWithExtension, List.isSuffixOf_iff_suffix] at alsoEnds
    rw [eq_of_isSuffix alsoEnds ends]

end Format

/-- An extension goes to the suffixes, and what stands before it is cut as it would be alone. -/
theorem cut_of_name {name dots core tail : List Char} (h : Path.HasParts name dots core tail)
    (format : Format) :
    Path.cut (name ++ format.extension.toList) =
      (dots ++ core, tail ++ format.extension.toList) := by
  have first := format.head?_extension
  have nonempty : format.extension.toList ≠ [] := by
    intro empty
    simp [empty] at first
  have parts : Path.HasParts (name ++ format.extension.toList) dots core
      (tail ++ format.extension.toList) := by
    refine ⟨?_, h.leading, h.base_ne_nil, h.dotless, ?_⟩
    · rw [← h.whole]
      simp
    · intro c head
      cases tail with
      | nil => exact Option.some.inj (head.symm.trans first)
      | cons d ds => exact h.suffixed c head
  refine parts.cut_eq ?_
  rw [List.getLast?_append_of_ne_nil _ nonempty]
  exact format.getLast?_extension

theorem stem_of_name {dots core tail : List Char} (h : Path.HasParts base.toList dots core tail)
    (named : archive.name = base ++ format.extension) :
    archive.stem = String.ofList (dots ++ core) ∧
      archive.suffixes.toList = tail ++ format.extension.toList := by
  simp only [Path.stem, Path.suffixes, named, String.toList_append, cut_of_name h,
    String.toList_ofList, and_self]

/-! ## The script that is chosen -/

/-- The script that is looked for is chosen whenever there is one. -/
theorem chosen_named_iff (names : List String) (archive : Path) :
    (∃ name, choose names archive = .ok name ∧
        (Path.ofText name).name = preferredName archive) ↔
      (scriptsNamed (preferredName archive) names).Nonempty := by
  constructor
  · rintro ⟨name, chosen, named⟩
    exact ⟨name, (choose_eq_ok.1 chosen).mem_scripts, named⟩
  · rintro ⟨script, isScript, named⟩
    rcases choose_cases names archive with ⟨name, ⟨mem, -⟩ | ⟨noneNamed, -⟩, chosen⟩ | ⟨noScript, -⟩
    · exact ⟨name, chosen, mem.2⟩
    · rw [Set.eq_empty_iff_forall_notMem] at noneNamed
      exact absurd ⟨isScript, named⟩ (noneNamed script)
    · rw [Set.eq_empty_iff_forall_notMem] at noScript
      exact absurd isScript (noScript script)

/-- A script with another name is chosen if there is none with the name that is looked for, and it
is the least of all. -/
theorem chosen_other_iff {last : String} (other : last ≠ preferredName archive)
    (names : List String) :
    (∃ name, choose names archive = .ok name ∧ (Path.ofText name).name = last) ↔
      scriptsNamed (preferredName archive) names = ∅ ∧
        ∃ name ∈ scriptsNamed last names, IsLeast (scripts names) name := by
  constructor
  · rintro ⟨name, chosen, named⟩
    rcases choose_eq_ok.1 chosen with ⟨mem, -⟩ | ⟨noneNamed, least⟩
    · exact absurd (named.symm.trans mem.2) other
    · exact ⟨noneNamed, name, ⟨least.1, named⟩, least⟩
  · rintro ⟨noneNamed, name, ⟨-, named⟩, least⟩
    exact ⟨name, choose_eq_ok.2 (.inr ⟨noneNamed, least⟩), named⟩

/-- An archive whose name is a base and an extension has the format of that extension, and its
script is looked for under the base without suffixes. If the base has no dots behind its leading
ones, then a script that is called like the archive is chosen whenever there is one. If it has some,
then only if there is no script with the name that is looked for, and the one called like the
archive is the least of all. -/
theorem namesake_chosen_iff (nonempty : base ≠ "") (last : base.toList.getLast? ≠ some '.')
    (named : archive.name = base ++ format.extension) (names : List String) :
    Format.ofPath? archive = some format ∧
      archive.stem = String.ofList (Path.cut base.toList).1 ∧
      ((∃ name, choose names archive = .ok name ∧ (Path.ofText name).name = base ++ ".txt") ↔
        if '.' ∈ base.toList.dropWhile (· == '.') then
          scriptsNamed (archive.stem ++ ".txt") names = ∅ ∧
            ∃ name ∈ scriptsNamed (base ++ ".txt") names, IsLeast (scripts names) name
        else (scriptsNamed (base ++ ".txt") names).Nonempty) := by
  obtain ⟨dots, core, tail, parts⟩ := Path.exists_parts (by simpa using nonempty) last
  obtain ⟨stem, suffixes⟩ := stem_of_name parts named
  have looked : preferredName archive = archive.stem ++ ".txt" := rfl
  refine ⟨Format.ofPath?_eq_some ?_, ?_, ?_⟩
  · rw [suffixes]
    exact List.suffix_append _ _
  · rw [stem, parts.cut_eq last]
  · rw [parts.split_dots.2]
    cases tail with
    | nil =>
      have whole : archive.stem = base := by
        rw [stem, ← String.toList_inj, String.toList_ofList, ← parts.whole, List.append_nil]
      rw [List.append_nil, if_neg parts.dotless, ← whole, ← looked]
      exact chosen_named_iff names archive
    | cons c cs =>
      obtain rfl : c = '.' := parts.suffixed c rfl
      have other : base ++ ".txt" ≠ preferredName archive := by
        intro same
        have length := congrArg (fun text => text.toList.length) same
        simp [looked, stem, ← parts.whole] at length
      rw [if_pos (by simp), ← looked]
      exact chosen_other_iff other names

/-- The member called like the archive is passed over: its name is taken to be a base with a
suffix. -/
theorem choose_inner_dot :
    let names := ["a.txt", "ops.v1.txt"]
    let archive := Path.ofText "ops.v1.zip"
    archive.name = "ops.v1" ++ Format.zip.extension ∧
      "ops.v1.txt" ∈ names ∧ (Path.ofText "ops.v1.txt").name = "ops.v1" ++ ".txt" ∧
      choose names archive = .ok "a.txt" ∧ (Path.ofText "a.txt").name ≠ "ops.v1" ++ ".txt" := by
  decide +kernel

/-- A leading dot is no dot of a suffix. -/
theorem namesake_chosen_iff_leading_dot :
    let names := ["a.txt", "x/.ops.txt"]
    let archive := Path.ofText "packs/.ops.tar.xz"
    ".ops" ≠ "" ∧ ".ops".toList.getLast? ≠ some '.' ∧
      archive.name = ".ops" ++ Format.tarXz.extension ∧
      ∃ name, choose names archive = .ok name ∧ (Path.ofText name).name = ".ops" ++ ".txt" := by
  intro names archive
  have named : archive.name = ".ops" ++ Format.tarXz.extension := by decide +kernel
  have member : "x/.ops.txt" ∈ scriptsNamed (".ops" ++ ".txt") names :=
    ⟨⟨by decide, by decide⟩, by decide +kernel⟩
  refine ⟨by decide, by decide, named, ?_⟩
  apply (namesake_chosen_iff (by decide) (by decide) named names).2.2.2
  rw [if_neg (by decide)]
  exact ⟨_, member⟩

end Reckoner.Archive
