import Reckoner.Text.Quoted

/-!
# Variable stores

A store gives each of finitely many names a value. Its entries are kept in the
order of their names (by code points), so that two stores that give the same
names the same values are equal.

Main definitions:
* `Store.get?`: the value of a name.
* `Store.set`: gives a name a value; nothing is ever removed.
* `Store.names`, `Store.size`: the names in order, and their number.
-/
namespace Reckoner

/-- A finite map from names to integers. -/
structure Store where
  /-- the names with their values -/
  entries : List (String × Int)
  /-- the names ascend strictly -/
  ascending : entries.Pairwise (·.1 < ·.1)
  deriving DecidableEq

namespace Store

def empty : Store := ⟨[], .nil⟩

def get? (s : Store) (name : String) : Option Int := s.entries.lookup name

def contains (s : Store) (name : String) : Bool := (s.get? name).isSome

def names (s : Store) : List String := s.entries.map Prod.fst

def size (s : Store) : Nat := s.entries.length

/-- The names for a log; values may be too long to be shown. -/
def text (s : Store) : String :=
  "VariableStore(names=[" ++ ", ".intercalate (s.names.map Text.quoted) ++ "])"

/-! ## Setting a value -/

/-- Put a name with its value in its place among ascending entries. -/
def place (name : String) (value : Int) : List (String × Int) → List (String × Int)
  | [] => [(name, value)]
  | (n, v) :: rest =>
    if name < n then (name, value) :: (n, v) :: rest
    else if name = n then (name, value) :: rest
    else (n, v) :: place name value rest

theorem fst_of_mem_place {name : String} {value : Int} {entries : List (String × Int)}
    {e : String × Int} (h : e ∈ place name value entries) : e.1 = name ∨ e ∈ entries := by
  induction entries with
  | nil => simp_all [place]
  | cons head rest ih =>
    obtain ⟨n, v⟩ := head
    unfold place at h
    split at h
    · rcases List.mem_cons.1 h with rfl | h
      · exact .inl rfl
      · exact .inr h
    · split at h
      · rcases List.mem_cons.1 h with rfl | h
        · exact .inl rfl
        · exact .inr (List.mem_cons_of_mem _ h)
      · rcases List.mem_cons.1 h with rfl | h
        · exact .inr (List.mem_cons_self ..)
        · exact (ih h).imp id (List.mem_cons_of_mem _)

theorem ascending_place (name : String) (value : Int) {entries : List (String × Int)}
    (h : entries.Pairwise (·.1 < ·.1)) : (place name value entries).Pairwise (·.1 < ·.1) := by
  induction entries with
  | nil => simp [place]
  | cons head rest ih =>
    obtain ⟨n, v⟩ := head
    obtain ⟨first, tail⟩ := List.pairwise_cons.1 h
    unfold place
    split
    · rename_i lt
      refine List.pairwise_cons.2 ⟨fun e he => ?_, h⟩
      rcases List.mem_cons.1 he with rfl | he
      · exact lt
      · exact String.lt_trans lt (first e he)
    · split
      · rename_i eq
        exact List.pairwise_cons.2 ⟨fun e he => eq ▸ first e he, tail⟩
      · rename_i notLt ne
        refine List.pairwise_cons.2 ⟨fun e he => ?_, ih tail⟩
        rcases fst_of_mem_place he with eq | he
        · rw [eq]
          exact Decidable.byContradiction fun h =>
            ne (String.le_antisymm (String.not_lt.1 h) (String.not_lt.1 notLt))
        · exact first e he

/-- Give a name a value, in place of any value it has. -/
def set (s : Store) (name : String) (value : Int) : Store :=
  ⟨place name value s.entries, ascending_place name value s.ascending⟩

/-- The store of the given names; of two values for a name the later one counts. -/
def ofList (pairs : List (String × Int)) : Store :=
  pairs.foldl (fun s (name, value) => s.set name value) empty

/-! ## Stores as maps -/

@[simp]
theorem get?_empty (name : String) : empty.get? name = none := rfl

theorem lookup_place (name n : String) (value : Int) (entries : List (String × Int)) :
    (place name value entries).lookup n = if n = name then some value else entries.lookup n := by
  induction entries with
  | nil =>
    simp only [place, List.lookup_cons, List.lookup_nil]
    split <;> simp_all
  | cons head rest ih =>
    obtain ⟨m, v⟩ := head
    unfold place
    split
    · simp only [List.lookup_cons]; grind
    · split
      · subst_vars; simp only [List.lookup_cons]; grind
      · simp only [List.lookup_cons, ih]; grind

theorem get?_set (s : Store) (name n : String) (value : Int) :
    (s.set name value).get? n = if n = name then some value else s.get? n :=
  lookup_place name n value s.entries

@[simp]
theorem get?_set_self (s : Store) (name : String) (value : Int) :
    (s.set name value).get? name = some value := by
  simp [get?_set]

theorem get?_set_of_ne {n name : String} (s : Store) (value : Int) (h : n ≠ name) :
    (s.set name value).get? n = s.get? n := by
  simp [get?_set, h]

theorem lookup_eq_none_of_lt {n : String} {entries : List (String × Int)}
    (h : ∀ e ∈ entries, n < e.1) : entries.lookup n = none := by
  induction entries with
  | nil => rfl
  | cons head rest ih =>
    have lt := h head (List.mem_cons_self ..)
    have ne : (n == head.1) = false := by
      rw [beq_eq_false_iff_ne]
      intro eq
      exact String.lt_irrefl n (eq ▸ lt)
    rw [List.lookup_cons, ne]
    exact ih fun e he => h e (List.mem_cons_of_mem _ he)

/-- Below the first of ascending names there is none. -/
theorem lookup_cons_eq_none {n : String} {e : String × Int} {entries : List (String × Int)}
    (h : (e :: entries).Pairwise (·.1 < ·.1)) (lt : n < e.1) :
    (e :: entries).lookup n = none := by
  refine lookup_eq_none_of_lt fun e' he' => ?_
  rcases List.mem_cons.1 he' with rfl | he'
  · exact lt
  · exact String.lt_trans lt ((List.pairwise_cons.1 h).1 e' he')

theorem entries_ext {xs ys : List (String × Int)} (hx : xs.Pairwise (·.1 < ·.1))
    (hy : ys.Pairwise (·.1 < ·.1)) (h : ∀ n, xs.lookup n = ys.lookup n) : xs = ys := by
  induction xs generalizing ys with
  | nil =>
    cases ys with
    | nil => rfl
    | cons y ys =>
      obtain ⟨n, w⟩ := y
      simpa using h n
  | cons x xs ih =>
    obtain ⟨m, v⟩ := x
    cases ys with
    | nil => simpa using h m
    | cons y ys =>
      obtain ⟨n, w⟩ := y
      have notLt : ¬m < n := fun lt => by simpa [lookup_cons_eq_none hy lt] using h m
      have notGt : ¬n < m := fun lt => by simpa [lookup_cons_eq_none hx lt] using h n
      obtain rfl : m = n := String.le_antisymm (String.not_lt.1 notGt) (String.not_lt.1 notLt)
      obtain rfl : v = w := by simpa using h m
      obtain ⟨xFirst, hx⟩ := List.pairwise_cons.1 hx
      obtain ⟨yFirst, hy⟩ := List.pairwise_cons.1 hy
      have rest : ∀ k, xs.lookup k = ys.lookup k := fun k => by
        by_cases eq : k = m
        · subst eq
          rw [lookup_eq_none_of_lt xFirst, lookup_eq_none_of_lt yFirst]
        · simpa [List.lookup_cons, beq_false_of_ne eq] using h k
      rw [ih hx hy rest]

/-- Stores that give all names the same values are equal. -/
theorem ext_get? {s t : Store} (h : ∀ name, s.get? name = t.get? name) : s = t := by
  obtain ⟨xs, hx⟩ := s
  obtain ⟨ys, hy⟩ := t
  obtain rfl : xs = ys := entries_ext hx hy h
  rfl

end Store

end Reckoner
