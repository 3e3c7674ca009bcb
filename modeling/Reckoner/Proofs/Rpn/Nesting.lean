import Mathlib.Data.List.Count
import Mathlib.Data.List.Induction
import Reckoner.Proofs.Placement
import Reckoner.Proofs.Rpn.Operands

/-!
# Nested parentheses

Whether elements in infix order have reverse Polish notation depends on their parentheses alone,
whatever stands between them: the yard holds an open parenthesis until the `)` that closes it, and
it has no other reason to stop but a slot without an element. What has been written is never looked
at again, so what stands between a `(` and its `)` is written as one block, at a place that does not
depend on it.

Main definitions:
* `pending`: the number of parentheses that are open after some slots.
* `Readable`: every slot has an element, and every `)` a `(` before it.

Results:
* `step_readable`, `exists_yard`: the yard reads slots that are readable, one and all, and holds the
  parentheses that are open.
* `exists_around`: what is written before a block, and after it, does not depend on the block.
* `exists_block`: what stands between a `(` and its `)` is one block of the output.
* `readable_iff_fronts`: elements are readable if no prefix closes more than it opens.
* `ofSlots_outcome`: which slots have reverse Polish notation, and why others have none.
-/
namespace Reckoner.Rpn

open Outcome

/-- The number of open parentheses after a slot, when `depth` were open before it. -/
def nest (depth : Nat) : Option Element → Nat
  | some .opening => depth + 1
  | some .closing => depth - 1
  | _ => depth

/-- The number of parentheses that are open after some slots. -/
def pending (slots : List (Option Element)) : Nat := slots.foldl nest 0

/-- Whether a slot cannot be read where `depth` parentheses are open: it holds no element, or a `)`
although none is. -/
def Unreadable (depth : Nat) (slot : Option Element) : Prop :=
  slot = none ∨ slot = some .closing ∧ depth = 0

/-- No slot is unreadable where it stands. -/
def Readable (slots : List (Option Element)) : Prop :=
  ∀ before slot after, slots = before ++ slot :: after → ¬Unreadable (pending before) slot

theorem pending_append_singleton (slots : List (Option Element)) (slot : Option Element) :
    pending (slots ++ [slot]) = nest (pending slots) slot := by
  rw [pending, List.foldl_append]
  rfl

theorem Readable.of_append {slots more : List (Option Element)} (h : Readable (slots ++ more)) :
    Readable slots := by
  intro before slot after cut
  refine h before slot (after ++ more) ?_
  rw [cut, List.append_assoc, List.cons_append]

theorem readable_append_singleton {slots : List (Option Element)} {slot : Option Element} :
    Readable (slots ++ [slot]) ↔ Readable slots ∧ ¬Unreadable (pending slots) slot := by
  constructor
  · intro h
    exact ⟨h.of_append, h slots slot [] rfl⟩
  · rintro ⟨others, last⟩ before s after cut
    rcases List.eq_nil_or_concat after with rfl | ⟨init, t, rfl⟩
    · obtain ⟨rfl, eq⟩ := List.append_inj' cut rfl
      cases eq
      exact last
    · have inside : slots = before ++ s :: init := by
        rw [List.concat_eq_append, ← List.cons_append, ← List.append_assoc] at cut
        exact (List.append_inj' cut rfl).1
      exact others before s init inside

/-- Of the slots that cannot be read one is the first. -/
theorem exists_first_unreadable {slots : List (Option Element)} (h : ¬Readable slots) :
    ∃ before slot after, slots = before ++ slot :: after ∧ Readable before ∧
      Unreadable (pending before) slot := by
  induction slots using List.reverseRecOn with
  | nil =>
    refine absurd (fun before slot after cut => ?_) h
    cases before <;> cases cut
  | append_singleton slots last ih =>
    by_cases others : Readable slots
    · by_cases bad : Unreadable (pending slots) last
      · exact ⟨slots, last, [], rfl, others, bad⟩
      · exact absurd (readable_append_singleton.2 ⟨others, bad⟩) h
    · obtain ⟨before, slot, after, rfl, readable, bad⟩ := ih others
      exact ⟨before, slot, after ++ [last], by simp, readable, bad⟩

/-- Readable slots are elements. -/
theorem exists_elements {slots : List (Option Element)} (h : Readable slots) :
    ∃ es : List Element, slots = es.map some := by
  induction slots using List.reverseRecOn with
  | nil => exact ⟨[], rfl⟩
  | append_singleton slots last ih =>
    obtain ⟨others, fits⟩ := readable_append_singleton.1 h
    obtain ⟨es, rfl⟩ := ih others
    cases last with
    | none => exact absurd (.inl rfl) fits
    | some e => exact ⟨es ++ [e], by simp⟩

/-! ## The yard and the parentheses -/

namespace Yard

/-- A release without a condition goes on to an open parenthesis, or to the end. -/
theorem release_all (written : List Element) (held : List Held) :
    (release (fun _ => true) written held).held = [] ∨
      ∃ rest, (release (fun _ => true) written held).held = .opening :: rest := by
  induction held generalizing written with
  | nil => exact .inl rfl
  | cons h held ih =>
    cases h with
    | opening => exact .inr ⟨held, rfl⟩
    | operator op => exact ih (.operator op :: written)

/-- What is held has an open parenthesis below it if and only if one is open. -/
theorem release_all_of_depth (y : Yard) :
    (y.depth = 0 ∧ (release (fun _ => true) y.written y.held).held = []) ∨
      (y.depth ≠ 0 ∧
        ∃ rest, (release (fun _ => true) y.written y.held).held = .opening :: rest) := by
  have kept := depth_release (fun _ => true) y.written y.held
  rcases release_all y.written y.held with empty | ⟨rest, top⟩
  · rw [depth, empty, List.count_nil] at kept
    exact .inl ⟨kept.symm, empty⟩
  · rw [depth, top, List.count_cons_self] at kept
    exact .inr ⟨by rw [depth]; omega, rest, top⟩

theorem step_unmatched {y : Yard} (h : y.depth = 0) :
    y.step (some .closing) = .error .unmatchedClosing := by
  rcases y.release_all_of_depth with ⟨-, empty⟩ | ⟨opened, -⟩
  · simp only [step]
    split
    · rename_i released
      rw [released] at empty
      cases empty
    · rfl
  · exact absurd h opened

theorem step_readable {y : Yard} {slot : Option Element} (h : ¬Unreadable y.depth slot) :
    ∃ y', y.step slot = .ok y' ∧ y'.depth = nest y.depth slot := by
  cases slot with
  | none => exact absurd (.inl rfl) h
  | some e =>
    obtain ⟨y', stepped⟩ : ∃ y', y.step (some e) = .ok y' := by
      cases e with
      | number v => exact ⟨_, rfl⟩
      | var name => exact ⟨_, rfl⟩
      | operator op => cases op <;> exact ⟨_, rfl⟩
      | opening => exact ⟨_, rfl⟩
      | closing =>
        rcases y.release_all_of_depth with ⟨shut, -⟩ | ⟨-, rest, top⟩
        · exact absurd (.inr ⟨rfl, shut⟩) h
        · refine ⟨⟨(release (fun _ => true) y.written y.held).written, rest⟩, ?_⟩
          rw [step_closing_eq_ok, ← top]
    refine ⟨y', stepped, ?_⟩
    have moved := depth_step stepped
    cases e with
    | number v => exact moved
    | var name => exact moved
    | operator op => exact moved
    | opening => exact moved
    | closing => exact Nat.eq_sub_of_add_eq moved

/-- The yard reads all slots that are readable, and holds the parentheses that are open. -/
theorem exists_yard {slots : List (Option Element)} (h : Readable slots) :
    ∃ y, slots.foldlM step start = .ok y ∧ y.depth = pending slots := by
  induction slots using List.reverseRecOn with
  | nil => exact ⟨start, rfl, rfl⟩
  | append_singleton slots last ih =>
    obtain ⟨others, fits⟩ := readable_append_singleton.1 h
    obtain ⟨y, ran, depth⟩ := ih others
    rw [← depth] at fits
    obtain ⟨y', stepped, depth'⟩ := step_readable fits
    refine ⟨y', ?_, ?_⟩
    · rw [List.foldlM_append, ran, ok_bind, List.foldlM_cons, stepped]
      rfl
    · rw [depth', depth, pending_append_singleton]

/-- Nothing that comes later is looked at once a slot cannot be read. -/
theorem ofSlots_of_step_error {before after : List (Option Element)} {slot : Option Element}
    {y : Yard} {cause : Malformed} (ran : before.foldlM step start = .ok y)
    (stopped : y.step slot = .error cause) :
    ofSlots (before ++ slot :: after) = .error cause := by
  rw [ofSlots, List.foldlM_append, ran, ok_bind, List.foldlM_cons, stopped]
  rfl

theorem finish_of_depth (y : Yard) :
    (y.depth = 0 → ∃ rpn, y.finish = .ok rpn) ∧
      (y.depth ≠ 0 → y.finish = .error .unmatchedOpening) := by
  rcases y.release_all_of_depth with ⟨shut, empty⟩ | ⟨opened, rest, top⟩
  · refine ⟨fun _ => ?_, fun opened => absurd shut opened⟩
    refine ⟨(release (fun _ => true) y.written y.held).written.reverse, ?_⟩
    rw [finish_eq_ok, List.reverse_reverse, ← empty]
  · refine ⟨fun shut => absurd shut opened, fun _ => ?_⟩
    unfold finish
    split
    · rename_i released
      rw [released] at top
      cases top
    · rfl

end Yard

theorem ofSlots_of_pending {slots : List (Option Element)} (h : Readable slots)
    (opened : pending slots ≠ 0) : ofSlots slots = .error .unmatchedOpening := by
  obtain ⟨y, ran, depth⟩ := Yard.exists_yard h
  rw [ofSlots, ran, ok_bind]
  exact y.finish_of_depth.2 (depth ▸ opened)

theorem exists_ofSlots {slots : List (Option Element)} (h : Readable slots)
    (shut : pending slots = 0) : ∃ rpn, ofSlots slots = .ok rpn := by
  obtain ⟨y, ran, depth⟩ := Yard.exists_yard h
  rw [ofSlots, ran, ok_bind]
  exact y.finish_of_depth.1 (depth.trans shut)

theorem ofSlots_of_unreadable {before : List (Option Element)} (h : Readable before)
    (slot : Option Element) (after : List (Option Element)) :
    (slot = none → ofSlots (before ++ slot :: after) = .error .emptySlot) ∧
      (slot = some .closing → pending before = 0 →
        ofSlots (before ++ slot :: after) = .error .unmatchedClosing) := by
  obtain ⟨y, ran, depth⟩ := Yard.exists_yard h
  constructor
  · rintro rfl
    exact Yard.ofSlots_of_step_error ran rfl
  · rintro rfl shut
    exact Yard.ofSlots_of_step_error ran (Yard.step_unmatched (depth.trans shut))

/-! ## Blocks -/

/-- What is written around a block does not depend on the block. -/
theorem exists_around {before inside after : List Element} {rpn block : Rpn}
    (whole : ofElements (before ++ .opening :: inside ++ .closing :: after) = .ok rpn)
    (part : ofElements inside = .ok block) :
    ∃ l r, ∀ inner block, ofElements inner = .ok block →
      ofElements (before ++ .opening :: inner ++ .closing :: after) = .ok (l ++ block ++ r) := by
  have regroup (inner : List Element) :
      before ++ .opening :: inner ++ .closing :: after =
        before ++ ((.opening :: inner ++ [.closing]) ++ after) := by
    simp
  obtain ⟨last, ran, finished⟩ := ofElements_eq_ok.1 whole
  rw [regroup, Yard.read_append] at ran
  obtain ⟨y, ranBefore, ran⟩ := bind_eq_ok.1 ran
  -- after a group the yard goes on as if nothing had been written, and what was is below
  have go {inner : List Element} {block : Rpn} (part : ofElements inner = .ok block) :
      y.read ((.opening :: inner ++ [.closing]) ++ after) =
        ((⟨[], y.held⟩ : Yard).read after).map
          (Yard.rewritten (· ++ (block.reverse ++ y.written))) := by
    rw [Yard.read_append, Yard.read_group part, ok_bind]
    exact Yard.read_below (block.reverse ++ y.written) ⟨[], y.held⟩ after
  rw [go part] at ran
  obtain ⟨z, ranAfter, rfl⟩ := map_eq_ok.1 ran
  rw [Yard.finish_below] at finished
  obtain ⟨r, finishedAfter, -⟩ := map_eq_ok.1 finished
  refine ⟨y.written.reverse, r, fun inner block part => ?_⟩
  rw [ofElements_eq_read, regroup, Yard.read_append, ranBefore, ok_bind, go part, ranAfter, ok_map,
    ok_bind, Yard.finish_below, finishedAfter, ok_map, List.reverse_append, List.reverse_reverse]

/-! ## Counting parentheses -/

theorem pending_add_count {slots : List (Option Element)} (h : Readable slots) :
    pending slots + slots.count (some .closing) = slots.count (some .opening) := by
  induction slots using List.reverseRecOn with
  | nil => rfl
  | append_singleton slots last ih =>
    obtain ⟨others, fits⟩ := readable_append_singleton.1 h
    have counted := ih others
    rw [pending_append_singleton, List.count_append, List.count_append]
    cases last with
    | none => exact absurd (.inl rfl) fits
    | some e =>
      cases e with
      | number v => simpa [nest] using counted
      | var name => simpa [nest] using counted
      | operator op => simpa [nest] using counted
      | opening => simp [nest]; omega
      | closing =>
        have opened : pending slots ≠ 0 := fun shut => fits (.inr ⟨rfl, shut⟩)
        simp [nest]
        omega

theorem count_some (es : List Element) (e : Element) : (es.map some).count (some e) = es.count e :=
  List.count_map_of_injective es some (fun _ _ => Option.some.inj) e

theorem readable_iff_fronts (es : List Element) :
    Readable (es.map some) ↔
      ∀ front, front <+: es → front.count .closing ≤ front.count .opening := by
  constructor
  · rintro h front ⟨rest, rfl⟩
    rw [List.map_append] at h
    have counted := pending_add_count h.of_append
    rw [count_some, count_some] at counted
    omega
  · intro h
    induction es using List.reverseRecOn with
    | nil =>
      intro before slot after cut
      cases before <;> cases cut
    | append_singleton es e ih =>
      have others := ih fun front within => h front (within.trans (List.prefix_append es [e]))
      rw [List.map_append, List.map_singleton]
      refine readable_append_singleton.2 ⟨others, ?_⟩
      rintro (lacking | ⟨closes, shut⟩)
      · cases lacking
      · cases closes
        have all := h (es ++ [.closing]) (List.prefix_refl _)
        have counted := pending_add_count others
        rw [count_some, count_some, shut] at counted
        simp at all
        omega

/-! ## Slots and elements -/

theorem filterMap_some (es : List Element) : (es.map some).filterMap id = es := by
  simp [List.filterMap_map]

/-- Slots that have reverse Polish notation are elements. -/
theorem exists_elements_of_ofSlots {slots : List (Option Element)} {rpn : Rpn}
    (h : ofSlots slots = .ok rpn) : ∃ es : List Element, slots = es.map some := by
  refine exists_elements (Classical.byContradiction fun bad => ?_)
  obtain ⟨before, slot, after, rfl, readable, stops⟩ := exists_first_unreadable bad
  rcases stops with empty | ⟨closes, shut⟩
  · rw [(ofSlots_of_unreadable readable _ _).1 empty] at h
    cases h
  · rw [(ofSlots_of_unreadable readable _ _).2 closes shut] at h
    cases h

/-- The slots of a group, and those around it, are elements if all slots are. -/
theorem exists_elements_of_group {es : List Element} {before inside after : List (Option Element)}
    (h : es.map some = before ++ some .opening :: inside ++ some .closing :: after) :
    ∃ bs is as, before = bs.map some ∧ inside = is.map some ∧ after = as.map some ∧
      es = bs ++ .opening :: is ++ .closing :: as := by
  rw [List.append_assoc, List.cons_append] at h
  obtain ⟨bs, group, rfl, rfl, fromOpening⟩ := List.map_eq_append_iff.1 h
  obtain ⟨_, rest, rfl, opens, fromInside⟩ := List.map_eq_cons_iff.1 fromOpening
  obtain rfl := Option.some.inj opens
  obtain ⟨is, closed, rfl, rfl, fromClosing⟩ := List.map_eq_append_iff.1 fromInside
  obtain ⟨_, as, rfl, closes, rfl⟩ := List.map_eq_cons_iff.1 fromClosing
  obtain rfl := Option.some.inj closes
  exact ⟨bs, is, as, rfl, rfl, rfl, by simp⟩

/-- What stands between a parenthesis and the one that closes it is one block of the output, at a
place that does not depend on it. -/
theorem exists_block {slots before inside after : List (Option Element)} {rpn : Rpn}
    (whole : ofSlots slots = .ok rpn)
    (cut : slots = before ++ some .opening :: inside ++ some .closing :: after)
    (readable : Readable inside) (closed : pending inside = 0) :
    ∃ l block r, rpn = l ++ block ++ r ∧
      block.Perm ((inside.filterMap id).filter (!·.isParenthesis)) ∧
      ∀ inner block', ofSlots inner = .ok block' →
        ofSlots (before ++ some .opening :: inner ++ some .closing :: after) =
          .ok (l ++ block' ++ r) := by
  obtain ⟨es, rfl⟩ := exists_elements_of_ofSlots whole
  obtain ⟨bs, is, as, rfl, rfl, rfl, rfl⟩ := exists_elements_of_group cut
  obtain ⟨block, part⟩ := exists_ofSlots readable closed
  obtain ⟨l, r, around⟩ := exists_around whole part
  have same : rpn = l ++ block ++ r := Except.ok.inj (whole.symm.trans (around is block part))
  refine ⟨l, block, r, same, ?_, ?_⟩
  · rw [filterMap_some]
    exact ofElements_perm part
  · intro inner block' other
    obtain ⟨inner, rfl⟩ := exists_elements_of_ofSlots other
    have slots : bs.map some ++ some .opening :: inner.map some ++ some .closing :: as.map some =
        (bs ++ .opening :: inner ++ .closing :: as).map some := by
      simp
    rw [slots]
    exact around inner block' other

/-- Elements of tokens have as many parentheses of one kind as of the other, so that none can be
left open unless one has been closed too early. -/
theorem ofElements_of_ofTokens {tokens : List Token} {es : List Element}
    (h : Element.ofTokens tokens = .ok es) :
    ((∃ front, front <+: es ∧ front.count .opening < front.count .closing) →
      ofElements es = .error .unmatchedClosing) ∧
    ((∀ front, front <+: es → front.count .closing ≤ front.count .opening) →
      ∃ rpn, ofElements es = .ok rpn) := by
  constructor
  · rintro ⟨front, within, early⟩
    have bad : ¬Readable (es.map some) := fun readable => by
      have le := (readable_iff_fronts es).1 readable front within
      omega
    obtain ⟨before, slot, after, cut, readable, stops⟩ := exists_first_unreadable bad
    rw [ofElements, cut]
    rcases stops with rfl | ⟨closes, shut⟩
    · have slotted : none ∈ es.map some := by
        rw [cut]
        exact List.mem_append_right _ (List.mem_cons_self ..)
      obtain ⟨e, -, empty⟩ := List.mem_map.1 slotted
      cases empty
    · exact (ofSlots_of_unreadable readable _ _).2 closes shut
  · intro le
    have readable := (readable_iff_fronts es).2 le
    refine exists_ofSlots readable ?_
    have counted := pending_add_count readable
    have even : es.count .opening = es.count .closing := by
      simpa [Element.balanced] using (Element.ofTokens_eq_ok.1 h).2
    rw [count_some, count_some] at counted
    omega

/-- What the conversion does with any slots. Where some slot holds no element, or a `)` that has no
`(` to close, the first such slot decides the error. Where there is none, a `(` that is never closed
is the error. And where each is closed, the output has the elements of the input that are no
parentheses, each once, with the operands in their order; what stands between a `(` and its `)` is
one block of it, at a place that does not depend on what the block is. Elements in which tokens are
classified have only one of these errors: that a `)` comes too early. -/
theorem ofSlots_outcome (slots : List (Option Element)) :
    (¬Readable slots → ∃ before slot after, slots = before ++ slot :: after ∧ Readable before ∧
      Unreadable (pending before) slot) ∧
    (∀ before slot after, slots = before ++ slot :: after → Readable before →
      (slot = none →
        (ofSlots slots).mapError Malformed.detail = .error "unexpected element None") ∧
      (slot = some .closing → pending before = 0 →
        (ofSlots slots).mapError Malformed.detail = .error "')' without matching '('")) ∧
    (Readable slots → pending slots ≠ 0 →
      (ofSlots slots).mapError Malformed.detail = .error "'(' without matching ')'") ∧
    (Readable slots → pending slots = 0 →
      ∃ rpn, ofSlots slots = .ok rpn ∧
        rpn.Perm ((slots.filterMap id).filter (!·.isParenthesis)) ∧
        rpn.filter Element.isOperand = (slots.filterMap id).filter Element.isOperand ∧
        ∀ before inside after,
          slots = before ++ some .opening :: inside ++ some .closing :: after →
          Readable inside → pending inside = 0 →
          ∃ l block r, rpn = l ++ block ++ r ∧
            block.Perm ((inside.filterMap id).filter (!·.isParenthesis)) ∧
            ∀ inner block', ofSlots inner = .ok block' →
              ofSlots (before ++ some .opening :: inner ++ some .closing :: after) =
                .ok (l ++ block' ++ r)) ∧
    (∀ tokens es, Element.ofTokens tokens = .ok es →
      ((∃ front, front <+: es ∧ front.count .opening < front.count .closing) →
        (ofElements es).mapError Malformed.detail = .error "')' without matching '('") ∧
      ((∀ front, front <+: es → front.count .closing ≤ front.count .opening) →
        ∃ rpn, ofElements es = .ok rpn)) := by
  refine ⟨exists_first_unreadable, ?stops, ?unclosed, ?written, ?classified⟩
  case stops =>
    rintro before slot after rfl readable
    obtain ⟨empty, closes⟩ := ofSlots_of_unreadable readable slot after
    refine ⟨fun lacking => ?_, fun closing shut => ?_⟩
    · rw [empty lacking]
      rfl
    · rw [closes closing shut]
      rfl
  case unclosed =>
    intro readable opened
    rw [ofSlots_of_pending readable opened]
    rfl
  case written =>
    intro readable closed
    obtain ⟨rpn, converted⟩ := exists_ofSlots readable closed
    refine ⟨rpn, converted, ?_, ?_, fun before inside after cut => exists_block converted cut⟩
    all_goals
      obtain ⟨es, rfl⟩ := exists_elements readable
      rw [filterMap_some]
    · exact ofElements_perm converted
    · exact operands_ofElements converted
  case classified =>
    intro tokens es classified
    obtain ⟨refused, fine⟩ := ofElements_of_ofTokens classified
    refine ⟨fun early => ?_, fine⟩
    rw [refused early]
    rfl

end Reckoner.Rpn
