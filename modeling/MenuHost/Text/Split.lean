/-!
# Cutting lists at separators

The readers of this library take a text apart in a few ways only: at every
separator (`List.splitOn`), at the first one (`cut`), and by trimming both ends
(`trim`). All three work on lists, so that they serve characters and bytes.
-/

namespace MenuHost.Text

variable {α : Type}

/-- What stands before and after the first separator, if there is one. -/
def cut [DecidableEq α] (sep : α) (xs : List α) : Option (List α × List α) :=
  match xs.dropWhile (· ≠ sep) with
  | [] => none
  | _ :: after => some (xs.takeWhile (· ≠ sep), after)

/-- The list without the elements at either end that satisfy `p`. -/
def trim (p : α → Bool) (xs : List α) : List α :=
  ((xs.dropWhile p).reverse.dropWhile p).reverse

/-- Where no separator stands, all is dropped up to one. -/
theorem dropWhile_of_notMem [DecidableEq α] {sep : α} {xs : List α} (h : sep ∉ xs)
    (ys : List α) : (xs ++ ys).dropWhile (· ≠ sep) = ys.dropWhile (· ≠ sep) := by
  refine List.dropWhile_append_of_pos fun x hx => ?_
  exact decide_eq_true fun eq => h (eq ▸ hx)

/-- Cutting at a separator that is really the first. -/
theorem cut_append_cons [DecidableEq α] {sep : α} {xs : List α} (h : sep ∉ xs)
    (ys : List α) : cut sep (xs ++ sep :: ys) = some (xs, ys) := by
  have taken : (xs ++ sep :: ys).takeWhile (· ≠ sep) = xs := by
    have other : ∀ x ∈ xs, decide (x ≠ sep) = true :=
      fun x hx => decide_eq_true fun eq => h (eq ▸ hx)
    rw [List.takeWhile_append_of_pos other]
    simp
  rw [cut, dropWhile_of_notMem h, taken, List.dropWhile_cons]
  simp

/-- A list without separators cannot be cut. -/
theorem cut_of_notMem [DecidableEq α] {sep : α} {xs : List α} (h : sep ∉ xs) :
    cut sep xs = none := by
  have gone := dropWhile_of_notMem h []
  rw [List.append_nil] at gone
  rw [cut, gone]
  rfl

end MenuHost.Text
