import Reckoner.Folder
import Reckoner.Proofs.Paths

/-!
# Places in a folder

A path leads to a place, component by component, whatever stands there; two names in one folder
lead to two places. To put a file at a place where no folder stands changes what stands there, and
nothing else: since nothing can be reached through a file, all paths lead where they led before.

Results:
* `locate_beside`: the last component of a path is followed last.
* `descend_ne_descend`, `locate_sibling`: other names in the same folder lead elsewhere.
* `entryAt_put`: what stands at the places after one has been written.
* `locate_put`, `find?_put`: where paths lead then, and to what.
-/
namespace Reckoner

namespace Path

theorem descend_of_ne_up (p : Path) {component : String} (h : component ≠ "..") :
    p.descend component = ⟨p.anchor, p.components ++ [component]⟩ := by
  simp [descend, h]

theorem leadsUp_descend (p : Path) {component : String} (h : component ≠ "..") :
    (p.descend component).leadsUp = false := by
  simp [descend_of_ne_up p h, leadsUp, h]

/-- What a name other than `..` leads to, no other component leads to. -/
theorem descend_ne_descend (p : Path) {name component : String} (h : name ≠ "..")
    (other : component ≠ name) : p.descend component ≠ p.descend name := by
  intro same
  have components := congrArg Path.components same
  rw [descend_of_ne_up p h] at components
  by_cases up : component = ".."
  · -- the other component leads back, stays, or goes on with `..`
    subst up
    have length := congrArg List.length components
    by_cases above : p.leadsUp
    · by_cases relative : p.anchor = .relative
      · simp [descend, above, relative, h.symm] at components
      · simp [descend, above, relative] at length
    · simp [descend, above] at length
  · simp [descend_of_ne_up p up, other] at components

end Path

namespace Folder

variable {f : Folder} {p place : Path}

/-! ## Following a path -/

theorem locate_beside (f : Folder) (p : Path) (name : String) :
    f.locate (p.beside name) = (f.locate p.parent).bind fun place => f.follow place name := by
  simp [locate, Path.beside, Path.parent, List.foldlM_append]

theorem follow_eq_some {component : String} (h : f.follow p component = some place) :
    f.entryAt p = some .folder ∧ place = p.descend component := by
  unfold follow at h
  split at h
  · exact ⟨‹_›, (Option.some.inj h).symm⟩
  · cases h

/-- A path with another name leads somewhere, if the path does, and not to the same place. -/
theorem locate_sibling {name : String} (located : f.locate p = some place)
    (nonempty : p.components ≠ []) (h : name ≠ "..") (other : p.name ≠ name) :
    ∃ there, f.locate (p.beside name) = some there ∧ there ≠ place ∧ there.leadsUp = false := by
  rw [← Path.beside_name nonempty, locate_beside, Option.bind_eq_some_iff] at located
  obtain ⟨parent, inParent, followed⟩ := located
  obtain ⟨isFolder, rfl⟩ := follow_eq_some followed
  refine ⟨parent.descend name, ?_, (parent.descend_ne_descend h other).symm,
    parent.leadsUp_descend h⟩
  rw [locate_beside, inParent, Option.bind_some, follow, if_pos isFolder]

theorem lookup_filter_ne (entries : List (Path × Entry)) {q : Path} (h : q ≠ p) :
    (entries.filter (·.1 != p)).lookup q = entries.lookup q := by
  induction entries with
  | nil => rfl
  | cons entry entries ih =>
    obtain ⟨key, e⟩ := entry
    by_cases here : key = p
    · have away : (q == p) = false := by simpa using h
      simpa [here, List.lookup_cons, away] using ih
    · simp [here, List.lookup_cons, ih]

theorem entryAt_put (f : Folder) (h : p.leadsUp = false) (e : Entry) (q : Path) :
    (f.put p e).entryAt q = if q = p then some e else f.entryAt q := by
  by_cases here : q = p
  · simp [entryAt, put, here, h]
  · have away : (q == p) = false := by simpa using here
    simp only [entryAt, put, List.lookup_cons, away, lookup_filter_ne _ here, if_neg here]

variable {content : Content}

/-- No more can be reached through a file than where no folder stands. -/
theorem follow_put (h : p.leadsUp = false) (free : f.entryAt p ≠ some .folder) :
    (f.put p (.file content)).follow = f.follow := by
  funext q component
  simp only [follow, entryAt_put f h]
  by_cases here : q = p
  · simp [here, free]
  · rw [if_neg here]

theorem locate_put (h : p.leadsUp = false) (free : f.entryAt p ≠ some .folder) (q : Path) :
    (f.put p (.file content)).locate q = f.locate q := by
  simp only [locate, follow_put h free]

theorem find?_put (h : p.leadsUp = false) (free : f.entryAt p ≠ some .folder) (q : Path) :
    (f.put p (.file content)).find? q =
      if f.locate q = some p then some (.file content) else f.find? q := by
  simp only [find?, locate_put h free]
  cases f.locate q with
  | none => simp
  | some place => simp [entryAt_put f h]

end Folder

end Reckoner
