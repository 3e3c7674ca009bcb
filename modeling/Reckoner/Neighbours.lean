/-!
# Elements and the ones before them

Several passes over a sequence decide about an element from the one right before
it: `withPrevious` hands them both.
-/
namespace Reckoner

variable {α : Type}

/-- Each element together with the one before it; `before` comes before the first. -/
def withPrevious (before : Option α) (xs : List α) : List (Option α × α) :=
  (before :: xs.map some).zip xs

@[simp]
theorem withPrevious_nil (before : Option α) : withPrevious before ([] : List α) = [] := rfl

@[simp]
theorem withPrevious_cons (before : Option α) (x : α) (xs : List α) :
    withPrevious before (x :: xs) = (before, x) :: withPrevious (some x) xs := rfl

/-- The second part of a sequence goes on from the last element of the first. -/
theorem withPrevious_append (before : Option α) (xs ys : List α) :
    withPrevious before (xs ++ ys) =
      withPrevious before xs ++ withPrevious (xs.getLast?.or before) ys := by
  induction xs generalizing before with
  | nil => simp
  | cons x xs ih =>
    have last : (x :: xs).getLast?.or before = xs.getLast?.or (some x) := by
      simp [List.getLast?_cons]
    simp [ih, last]

end Reckoner
