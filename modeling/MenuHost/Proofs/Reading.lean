import Mathlib.Data.List.Forall2

/-!
# Readings that succeed

A reader is put together from steps that may each be refused. It succeeds
if every step does; these facts take such a reader apart, step by step
(`bind_eq_ok_iff`) and item by item (`mapM_eq_ok_iff`, `foldlM_eq_ok_iff`).
-/

namespace MenuHost

variable {ε σ α β : Type}

theorem bind_eq_ok_iff {x : Except ε α} {f : α → Except ε β} {b : β} :
    (x >>= f) = .ok b ↔ ∃ a, x = .ok a ∧ f a = .ok b := by
  cases x with
  | error e => exact ⟨nofun, fun ⟨_, hx, _⟩ => nomatch hx⟩
  | ok a =>
      constructor
      · intro h
        exact ⟨a, rfl, h⟩
      · rintro ⟨_, hx, h⟩
        cases hx
        exact h

theorem map_eq_ok_iff {x : Except ε α} {f : α → β} {b : β} :
    x.map f = .ok b ↔ ∃ a, x = .ok a ∧ f a = b := by
  cases x <;> simp [Except.map]

/-- A list is read if each of its items is. -/
theorem mapM_eq_ok_iff {f : α → Except ε β} {xs : List α} {ys : List β} :
    xs.mapM f = .ok ys ↔ List.Forall₂ (fun x y => f x = .ok y) xs ys := by
  induction xs generalizing ys with
  | nil => simp [pure, Except.pure, eq_comm]
  | cons x xs ih =>
      simp only [List.mapM_cons, bind_eq_ok_iff, ih, List.forall₂_cons_left_iff]
      constructor
      · rintro ⟨y, hy, rest, hrest, h⟩
        cases h
        exact ⟨y, rest, hy, hrest, rfl⟩
      · rintro ⟨y, rest, hy, hrest, rfl⟩
        exact ⟨y, hy, rest, hrest, rfl⟩

/-- A fold succeeds if each item has a meaning, and then folds these. -/
theorem foldlM_eq_ok_iff {f : σ → α → Except ε σ} {Is : α → β → Prop} {put : σ → β → σ}
    (h : ∀ s x t, f s x = .ok t ↔ ∃ y, Is x y ∧ t = put s y) {xs : List α} {s t : σ} :
    xs.foldlM f s = .ok t ↔ ∃ ys, List.Forall₂ Is xs ys ∧ t = ys.foldl put s := by
  induction xs generalizing s with
  | nil => simp [pure, Except.pure, eq_comm]
  | cons x xs ih =>
      simp only [List.foldlM_cons, bind_eq_ok_iff, h, ih, List.forall₂_cons_left_iff]
      constructor
      · rintro ⟨_, ⟨y, hy, rfl⟩, ys, hys, rfl⟩
        exact ⟨y :: ys, ⟨y, ys, hy, hys, rfl⟩, rfl⟩
      · rintro ⟨_, ⟨y, ys, hy, hys, rfl⟩, rfl⟩
        exact ⟨_, ⟨y, hy, rfl⟩, ys, hys, rfl⟩

/-- Items that are written forms, taken together. -/
theorem forall₂_map_iff {P : β → Prop} {write : β → α} {xs : List α} {ys : List β} :
    List.Forall₂ (fun x y => P y ∧ x = write y) xs ys ↔ (∀ y ∈ ys, P y) ∧ xs = ys.map write := by
  constructor
  · intro h
    induction h with
    | nil => exact ⟨nofun, rfl⟩
    | cons hitem _ ih =>
        obtain ⟨hy, rfl⟩ := hitem
        exact ⟨List.forall_mem_cons.mpr ⟨hy, ih.1⟩, congrArg (_ :: ·) ih.2⟩
  · rintro ⟨h, rfl⟩
    induction ys with
    | nil => exact .nil
    | cons y ys ih =>
        obtain ⟨hy, hys⟩ := List.forall_mem_cons.mp h
        exact .cons ⟨hy, rfl⟩ (ih hys)

end MenuHost
