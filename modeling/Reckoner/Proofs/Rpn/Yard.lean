import Reckoner.Rpn
import Reckoner.Proofs.Outcome

/-!
# The yard

The conversion to reverse Polish notation reads elements one by one into a yard.
What is proved here of one step holds of a whole reading by induction on the
elements read.

Results:
* `release_held`, `release_opening`: a release writes all operators at the top of what
  is held that it may write, and never passes an open parenthesis.
* `step_rewritten`, `finish_rewritten`: what has been written decides nothing.
* `read_below`: what is put below all that is written stays there.
* `read_above`: what is read after an open parenthesis does not depend on anything
  written or held before it.
* `read_group`: a conversion between parentheses is one block of the output.
* `ofElements_perm`: the output has each element of the input once, save parentheses.
* `depth_step`: the number of open parentheses after one step.
-/
namespace Reckoner

/-- Whether an element is a parenthesis. -/
def Element.isParenthesis : Element → Bool
  | opening | closing => true
  | _ => false

namespace Rpn

open Outcome

namespace Yard

def read (y : Yard) (es : List Element) : Except Malformed Yard :=
  es.foldlM (fun y e => y.step (some e)) y

@[simp]
theorem read_nil (y : Yard) : y.read [] = .ok y := rfl

@[simp]
theorem read_cons (y : Yard) (e : Element) (es : List Element) :
    y.read (e :: es) = y.step (some e) >>= fun y => y.read es :=
  List.foldlM_cons

theorem read_append (y : Yard) (es fs : List Element) :
    y.read (es ++ fs) = y.read es >>= fun y => y.read fs :=
  List.foldlM_append

end Yard

theorem ofElements_eq_read (es : List Element) :
    ofElements es = Yard.start.read es >>= Yard.finish := by
  simp only [ofElements, ofSlots, Yard.read, List.foldlM_map]

theorem ofElements_eq_ok {es : List Element} {rpn : Rpn} :
    ofElements es = .ok rpn ↔ ∃ y, Yard.start.read es = .ok y ∧ y.finish = .ok rpn := by
  rw [ofElements_eq_read, bind_eq_ok]

namespace Yard

/-- All operators on top that may be written are. -/
theorem release_held {p : Operator → Bool} {ops : List Operator} (h : ∀ op ∈ ops, p op)
    (written : List Element) (held : List Held) :
    release p written (ops.map .operator ++ held) =
      release p ((ops.map Element.operator).reverse ++ written) held := by
  induction ops generalizing written with
  | nil => rfl
  | cons op ops ih =>
    have first : p op := h op (List.mem_cons_self ..)
    have others : ∀ op ∈ ops, p op := fun op mem => h op (List.mem_cons_of_mem _ mem)
    simp only [List.map_cons, List.cons_append, release, first, if_true, List.reverse_cons,
      List.append_assoc, List.nil_append]
    exact ih others _

@[simp]
theorem release_nil (p : Operator → Bool) (written : List Element) :
    release p written [] = ⟨written, []⟩ := rfl

@[simp]
theorem release_opening (p : Operator → Bool) (written : List Element) (held : List Held) :
    release p written (.opening :: held) = ⟨written, .opening :: held⟩ := rfl

theorem release_operator (p : Operator → Bool) (written : List Element) (op : Operator)
    (held : List Held) :
    release p written (.operator op :: held) =
      if p op then release p (.operator op :: written) held
      else ⟨written, .operator op :: held⟩ := rfl

/-- A `)` writes all that is held down to its `(`, which is dropped. -/
theorem step_closing_eq_ok {y y' : Yard} :
    y.step (some .closing) = .ok y' ↔
      release (fun _ => true) y.written y.held = ⟨y'.written, .opening :: y'.held⟩ := by
  simp only [step]
  constructor
  · intro h
    split at h
    · rename_i written held eq
      cases h
      exact eq
    · cases h
  · intro h
    rw [h]

/-! ## What is written is not looked at -/

/-- A yard with something else written, made of what was. -/
def rewritten (f : List Element → List Element) (y : Yard) : Yard := ⟨f y.written, y.held⟩

section Rewritten

variable (f : List Element → List Element)
  (keeps : ∀ op written, f (.operator op :: written) = .operator op :: f written)

include keeps

theorem release_rewritten (p : Operator → Bool) (written : List Element) (held : List Held) :
    release p (f written) held = (release p written held).rewritten f := by
  induction held generalizing written with
  | nil => rfl
  | cons h held ih =>
    cases h with
    | opening => rfl
    | operator op =>
      rw [release_operator, release_operator]
      split
      · rw [← keeps]
        exact ih (.operator op :: written)
      · rfl

theorem step_rewritten {e : Element} (same : ∀ written, f (e :: written) = e :: f written)
    (y : Yard) : (y.rewritten f).step (some e) = (y.step (some e)).map (rewritten f) := by
  cases e with
  | number v => simp [step, rewritten, write, same]
  | var name => simp [step, rewritten, write, same]
  | operator op =>
    cases op with
    | binary op p =>
      simp only [step, rewritten, release_rewritten f keeps]
      rfl
    | unary op p => rfl
  | opening => rfl
  | closing =>
    simp only [step, rewritten, release_rewritten f keeps]
    rcases release (fun _ => true) y.written y.held with ⟨written, _ | ⟨_ | op, held⟩⟩
    · rfl
    · rfl
    · rfl

theorem finish_rewritten {g : Rpn → Rpn}
    (reversed : ∀ written, (f written).reverse = g written.reverse) (y : Yard) :
    (y.rewritten f).finish = y.finish.map g := by
  simp only [finish, rewritten, release_rewritten f keeps]
  rcases release (fun _ => true) y.written y.held with ⟨written, _ | ⟨_ | op, held⟩⟩
  · simp only [ok_map, reversed]
  · rfl
  · rfl

end Rewritten

/-- What is put below all that is written stays there. -/
theorem read_below (below : List Element) (y : Yard) (es : List Element) :
    (y.rewritten (· ++ below)).read es = (y.read es).map (rewritten (· ++ below)) := by
  induction es generalizing y with
  | nil => rfl
  | cons e es ih =>
    have stepped : (y.rewritten (· ++ below)).step (some e) =
        (y.step (some e)).map (rewritten (· ++ below)) :=
      step_rewritten (· ++ below) (fun _ _ => rfl) (fun _ => rfl) y
    rw [read_cons, read_cons, stepped]
    cases y.step (some e) with
    | error cause => rfl
    | ok next => exact ih next

theorem finish_below (below : List Element) (y : Yard) :
    (y.rewritten (· ++ below)).finish = y.finish.map (below.reverse ++ ·) :=
  finish_rewritten (· ++ below) (fun _ _ => rfl) (fun _ => List.reverse_append) y

/-! ## Above an open parenthesis -/

/-- A yard on top of an open parenthesis, below which much may have been written and held. -/
def above (written : List Element) (held : List Held) (y : Yard) : Yard :=
  ⟨y.written ++ written, y.held ++ .opening :: held⟩

variable (below : List Element) (beneath : List Held)

theorem release_above (p : Operator → Bool) (written : List Element) (held : List Held) :
    release p (written ++ below) (held ++ .opening :: beneath) =
      (release p written held).above below beneath := by
  induction held generalizing written with
  | nil => rfl
  | cons h held ih =>
    cases h with
    | opening => rfl
    | operator op =>
      simp only [List.cons_append, release_operator]
      split
      · exact ih (.operator op :: written)
      · rfl

/-- A step that succeeds goes the same way above an open parenthesis. -/
theorem step_above {y y' : Yard} {e : Element} (h : y.step (some e) = .ok y') :
    (y.above below beneath).step (some e) = .ok (y'.above below beneath) := by
  cases e with
  | number v => cases h; rfl
  | var name => cases h; rfl
  | operator op =>
    cases op with
    | binary op p =>
      cases h
      simp only [step, above, release_above]
      rfl
    | unary op p => cases h; rfl
  | opening => cases h; rfl
  | closing =>
    rw [step_closing_eq_ok] at h ⊢
    simp only [above, release_above, h]
    rfl

theorem read_above {y y' : Yard} {es : List Element} (h : y.read es = .ok y') :
    (y.above below beneath).read es = .ok (y'.above below beneath) := by
  induction es generalizing y with
  | nil => cases h; rfl
  | cons e es ih =>
    rw [read_cons] at h
    obtain ⟨next, stepped, rest⟩ := bind_eq_ok.1 h
    rw [read_cons, step_above below beneath stepped, ok_bind]
    exact ih rest

theorem finish_eq_ok {y : Yard} {rpn : Rpn} :
    y.finish = .ok rpn ↔ release (fun _ => true) y.written y.held = ⟨rpn.reverse, []⟩ := by
  unfold finish
  constructor
  · intro h
    split at h
    · rename_i written eq
      cases h
      rw [eq, List.reverse_reverse]
    · cases h
  · intro h
    simp [h]

/-- Elements that have reverse Polish notation by themselves are written as one block when they
stand between parentheses, wherever that is. -/
theorem read_group {es : List Element} {rpn : Rpn} (h : ofElements es = .ok rpn) (y : Yard) :
    y.read (.opening :: es ++ [.closing]) = .ok ⟨rpn.reverse ++ y.written, y.held⟩ := by
  obtain ⟨inner, ran, finished⟩ := ofElements_eq_ok.1 h
  have opened : y.step (some .opening) = .ok (start.above y.written y.held) := rfl
  have closed : (inner.above y.written y.held).step (some .closing) =
      .ok ⟨rpn.reverse ++ y.written, y.held⟩ := by
    simp only [step, above, release_above, finish_eq_ok.1 finished]
    rfl
  rw [List.cons_append, read_cons, opened, ok_bind, read_append, read_above _ _ ran, ok_bind,
    read_cons, closed, ok_bind, read_nil]

end Yard

/-! ## Nothing is lost -/

/-- The element that is held back; a parenthesis is never written. -/
def Held.element? : Held → Option Element
  | .opening => none
  | .operator op => some (.operator op)

namespace Yard

/-- All elements in a yard that are or will be written. -/
def contents (y : Yard) : List Element := y.written ++ y.held.filterMap Held.element?

theorem contents_hold_operator (y : Yard) (op : Operator) :
    (y.hold (.operator op)).contents.Perm (.operator op :: y.contents) :=
  List.perm_middle

theorem contents_release (p : Operator → Bool) (written : List Element) (held : List Held) :
    (release p written held).contents.Perm (contents ⟨written, held⟩) := by
  induction held generalizing written with
  | nil => exact .refl _
  | cons h held ih =>
    cases h with
    | opening => exact .refl _
    | operator op =>
      rw [release_operator]
      split
      · exact (ih (.operator op :: written)).trans List.perm_middle.symm
      · exact .refl _

theorem contents_step {y y' : Yard} {e : Element} (h : y.step (some e) = .ok y') :
    y'.contents.Perm ([e].filter (!·.isParenthesis) ++ y.contents) := by
  cases e with
  | number v => cases h; exact .refl _
  | var name => cases h; exact .refl _
  | operator op =>
    cases op with
    | binary op p =>
      cases h
      exact (contents_hold_operator _ _).trans ((contents_release _ _ _).cons _)
    | unary op p =>
      cases h
      exact contents_hold_operator _ _
  | opening => cases h; exact .refl _
  | closing =>
    have kept := contents_release (fun _ => true) y.written y.held
    rw [step_closing_eq_ok.1 h] at kept
    exact kept

theorem contents_read {y y' : Yard} {es : List Element} (h : y.read es = .ok y') :
    y'.contents.Perm (es.filter (!·.isParenthesis) ++ y.contents) := by
  induction es generalizing y with
  | nil => cases h; exact .refl _
  | cons e es ih =>
    rw [read_cons] at h
    obtain ⟨next, stepped, rest⟩ := bind_eq_ok.1 h
    have moved := (contents_step stepped).append_left (es.filter (!·.isParenthesis))
    rw [← List.singleton_append, List.filter_append, List.append_assoc]
    refine (ih rest).trans (moved.trans ?_)
    rw [← List.append_assoc, ← List.append_assoc]
    exact List.perm_append_comm.append_right _

theorem contents_finish {y : Yard} {rpn : Rpn} (h : y.finish = .ok rpn) : rpn.Perm y.contents := by
  have kept := contents_release (fun _ => true) y.written y.held
  rw [finish_eq_ok.1 h] at kept
  have written : contents ⟨rpn.reverse, []⟩ = rpn.reverse := List.append_nil _
  rw [written] at kept
  exact (List.reverse_perm rpn).symm.trans kept

end Yard

/-- The output has each element of the input as often as the input, save parentheses. -/
theorem ofElements_perm {es : List Element} {rpn : Rpn} (h : ofElements es = .ok rpn) :
    rpn.Perm (es.filter (!·.isParenthesis)) := by
  obtain ⟨y, ran, finished⟩ := ofElements_eq_ok.1 h
  have all := Yard.contents_read ran
  have empty : Yard.start.contents = [] := rfl
  rw [empty, List.append_nil] at all
  exact (Yard.contents_finish finished).trans all

namespace Yard

/-! ## Open parentheses -/

/-- The number of parentheses that are open. -/
def depth (y : Yard) : Nat := y.held.count .opening

theorem depth_release (p : Operator → Bool) (written : List Element) (held : List Held) :
    (release p written held).depth = held.count .opening := by
  induction held generalizing written with
  | nil => rfl
  | cons h held ih =>
    cases h with
    | opening => rfl
    | operator op =>
      have other : (Held.operator op :: held).count .opening = held.count .opening :=
        List.count_cons_of_ne (by simp)
      rw [release_operator, other]
      split
      · exact ih (.operator op :: written)
      · exact other

theorem depth_step {y y' : Yard} {e : Element} (h : y.step (some e) = .ok y') :
    y'.depth + [e].count .closing = y.depth + [e].count .opening := by
  cases e with
  | number v => cases h; rfl
  | var name => cases h; rfl
  | operator op =>
    cases op with
    | binary op p =>
      cases h
      have kept := depth_release (fun waiting => p ≤ waiting.precedence) y.written y.held
      simpa [depth, hold] using kept
    | unary op p =>
      cases h
      simp [depth, hold]
  | opening =>
    cases h
    simp [depth, hold]
  | closing =>
    have kept := depth_release (fun _ => true) y.written y.held
    rw [step_closing_eq_ok.1 h] at kept
    simpa [depth] using kept

theorem depth_finish {y : Yard} {rpn : Rpn} (h : y.finish = .ok rpn) : y.depth = 0 := by
  have kept := depth_release (fun _ => true) y.written y.held
  rw [finish_eq_ok.1 h] at kept
  exact kept.symm

end Yard

end Rpn

end Reckoner
