import Mathlib.Data.String.Basic
import Mathlib.Order.Bounds.Basic
import Reckoner.Archive
import Reckoner.Proofs.Paths

/-!
# The script among the members

Which member of an archive is its script depends on the set of names that are names of scripts, and
on nothing else: not on their order, not on how often one stands in the archive, not on the other
members. Of the names whose last component is the archive's name with its suffixes replaced, the
least is taken, and if there are none the least of all. Names are ordered as texts are, by the code
points of their characters.

Main definitions:
* `scripts`: the names of scripts among some names.
* `scriptsNamed`: those of them that have a given last component.
* `IsChosen`: what is to be chosen.

Results:
* `exists_least?`, `least?_cases`: the least of a list is that of its members.
* `IsChosen.unique`: no two names are to be chosen.
* `choose_eq_ok`, `choose_eq_error`: what is chosen, and when nothing can be.
* `choose_congr`: the choice in archives with the same scripts.
* `choose_least`: all of it.
-/
namespace Reckoner.Archive

/-- The lesser of the first two names stands for both. -/
theorem exists_least? (first : String) (others : List String) :
    ∃ m, least? (first :: others) = some m ∧ IsLeast {name | name ∈ first :: others} m := by
  induction others generalizing first with
  | nil => exact ⟨first, rfl, by simp, by simp⟩
  | cons second others ih =>
    by_cases lesser : second < first
    · obtain ⟨m, found, mem, below⟩ := ih second
      have step : least? (first :: second :: others) = least? (second :: others) := by
        simp only [least?, List.foldl_cons, if_pos lesser]
      refine ⟨m, step.trans found, List.mem_cons_of_mem _ mem, fun name inList => ?_⟩
      rcases List.mem_cons.1 inList with rfl | later
      · exact (below List.mem_cons_self).trans lesser.le
      · exact below later
    · obtain ⟨m, found, mem, below⟩ := ih first
      have step : least? (first :: second :: others) = least? (first :: others) := by
        simp only [least?, List.foldl_cons, if_neg lesser]
      refine ⟨m, step.trans found, ?_, fun name inList => ?_⟩
      · exact (List.sublist_cons_self second others).cons_cons first |>.subset mem
      · rcases List.mem_cons.1 inList with rfl | later
        · exact below List.mem_cons_self
        · rcases List.mem_cons.1 later with rfl | later
          · exact (below List.mem_cons_self).trans (not_lt.1 lesser)
          · exact below (List.mem_cons_of_mem _ later)

theorem least?_cases {names : List String} {s : Set String} (h : ∀ name, name ∈ names ↔ name ∈ s) :
    (s = ∅ ∧ least? names = none) ∨ ∃ m, IsLeast s m ∧ least? names = some m := by
  obtain rfl : {name | name ∈ names} = s := Set.ext h
  cases names with
  | nil => exact .inl ⟨by simp, rfl⟩
  | cons first others =>
    obtain ⟨m, found, isLeast⟩ := exists_least? first others
    exact .inr ⟨m, isLeast, found⟩

/-! ## Scripts -/

/-- The names of scripts among some names. -/
def scripts (names : List String) : Set String :=
  {name | name ∈ names ∧ ".txt".toList <:+ name.toList}

/-- The names of scripts whose last component is `last`, in whatever folder. -/
def scriptsNamed (last : String) (names : List String) : Set String :=
  {name | name ∈ scripts names ∧ (Path.ofText name).name = last}

theorem mem_filter_isScript (names : List String) (name : String) :
    name ∈ names.filter isScript ↔ name ∈ scripts names := by
  rw [List.mem_filter, isScript, List.isSuffixOf_iff_suffix]
  rfl

theorem mem_filter_named (last : String) (names : List String) (name : String) :
    name ∈ (names.filter isScript).filter (fun name => (Path.ofText name).name == last) ↔
      name ∈ scriptsNamed last names := by
  rw [List.mem_filter, mem_filter_isScript, beq_iff_eq]
  rfl

/-- The least of the scripts with a given last component, or of all scripts when none has it. -/
def IsChosen (last : String) (names : List String) (name : String) : Prop :=
  IsLeast (scriptsNamed last names) name ∨
    scriptsNamed last names = ∅ ∧ IsLeast (scripts names) name

namespace IsChosen

variable {last name name' : String} {names : List String}

theorem mem_scripts (h : IsChosen last names name) : name ∈ scripts names := by
  rcases h with named | ⟨-, least⟩
  · exact named.1.1
  · exact least.1

theorem unique (h : IsChosen last names name) (h' : IsChosen last names name') : name = name' := by
  rcases h with named | ⟨noneNamed, least⟩ <;> rcases h' with named' | ⟨noneNamed', least'⟩
  · exact named.unique named'
  · exact absurd named.1 (Set.eq_empty_iff_forall_notMem.1 noneNamed' name)
  · exact absurd named'.1 (Set.eq_empty_iff_forall_notMem.1 noneNamed name')
  · exact least.unique least'

end IsChosen

/-! ## The choice -/

variable {names names' : List String} {archive : Path}

theorem choose_cases (names : List String) (archive : Path) :
    (∃ name, IsChosen (preferredName archive) names name ∧ choose names archive = .ok name) ∨
      scripts names = ∅ ∧ choose names archive = .error ⟨archive.name⟩ := by
  rcases least?_cases (mem_filter_named (preferredName archive) names) with
    ⟨noneNamed, found⟩ | ⟨name, least, found⟩
  · rcases least?_cases (mem_filter_isScript names) with
      ⟨noScript, found'⟩ | ⟨name, least, found'⟩
    · exact .inr ⟨noScript, by simp only [choose, found, found']⟩
    · exact .inl ⟨name, .inr ⟨noneNamed, least⟩, by simp only [choose, found, found']⟩
  · exact .inl ⟨name, .inl least, by simp only [choose, found]⟩

theorem choose_eq_ok {name : String} :
    choose names archive = .ok name ↔ IsChosen (preferredName archive) names name := by
  rcases choose_cases names archive with ⟨found, chosen, eq⟩ | ⟨noScript, eq⟩
  · rw [eq, Except.ok.injEq]
    constructor
    · rintro rfl
      exact chosen
    · exact chosen.unique
  · rw [eq]
    constructor
    · intro ok
      cases ok
    · intro chosen
      exact absurd chosen.mem_scripts (Set.eq_empty_iff_forall_notMem.1 noScript name)

theorem choose_eq_error {e : NoScript} :
    choose names archive = .error e ↔ scripts names = ∅ ∧ e = ⟨archive.name⟩ := by
  rcases choose_cases names archive with ⟨found, chosen, eq⟩ | ⟨noScript, eq⟩
  · rw [eq]
    constructor
    · intro error
      cases error
    · rintro ⟨noScript, -⟩
      exact absurd chosen.mem_scripts (Set.eq_empty_iff_forall_notMem.1 noScript found)
  · rw [eq, Except.error.injEq, eq_comm]
    exact ⟨fun same => ⟨noScript, same⟩, And.right⟩

/-- The choice depends on nothing but the set of the scripts' names. -/
theorem choose_congr (h : scripts names = scripts names') :
    choose names archive = choose names' archive := by
  have named (last : String) : scriptsNamed last names = scriptsNamed last names' := by
    simp only [scriptsNamed, h]
  cases eq : choose names archive with
  | ok name =>
    have chosen := choose_eq_ok.1 eq
    rw [IsChosen, named, h] at chosen
    exact (choose_eq_ok.2 chosen).symm
  | error e =>
    have noScript := choose_eq_error.1 eq
    rw [h] at noScript
    exact (choose_eq_error.2 noScript).symm

/-- The name of an archive is a base and its suffixes. The script of the archive is the least of the
scripts in it whose last component is the base and `.txt`, and if there are none the least of all
scripts. There is nothing to choose exactly when no name ends with `.txt`. So what is chosen is one
of the names, and in whatever order the names stand, however often each is repeated, and whatever
names that do not end with `.txt` stand among them, the choice is the same. -/
theorem choose_least (archive : Path) :
    ∃ base, base ++ archive.suffixes = archive.name ∧
      (∀ names e, choose names archive = .error e ↔
        (∀ name ∈ names, ¬".txt".toList <:+ name.toList) ∧ e = ⟨archive.name⟩) ∧
      (∀ names name, choose names archive = .ok name ↔ IsChosen (base ++ ".txt") names name) ∧
      (∀ names name, choose names archive = .ok name → name ∈ names) ∧
      (∀ names names',
        (∀ name, ".txt".toList <:+ name.toList → (name ∈ names ↔ name ∈ names')) →
        choose names archive = choose names' archive) := by
  refine ⟨archive.stem, archive.stem_append_suffixes, fun names e => ?_,
    fun names name => choose_eq_ok, fun names name chosen => ?_, fun names names' same => ?_⟩
  · rw [choose_eq_error, Set.eq_empty_iff_forall_notMem]
    exact and_congr_left' (forall_congr' fun name => not_and)
  · exact (choose_eq_ok.1 chosen).mem_scripts.1
  · exact choose_congr (Set.ext fun name => and_congr_left (same name))

/-- Two members are called like the archive, one of them with a slash more than it needs. -/
example :
    choose ["z.txt", "x/ops.txt", "a.txt", "b//ops.txt", "ops.bak"]
      (Path.ofText "packs/ops.v1.tar.xz") = .ok "b//ops.txt" := by
  decide +kernel

end Reckoner.Archive
