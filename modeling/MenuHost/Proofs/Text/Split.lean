import Mathlib.Data.List.TakeWhile
import MenuHost.Text.Split

/-!
# Cutting lists and what is left

Two kinds of facts about the ways to take a list apart, which the
readers of cookies, forms and dates share:

- cutting commutes with an injective renaming of the elements
  (`splitOn_map`, `cut_map`, `trim_map`), so that bytes can be cut
  where a reader cuts characters;
- the parts hold nothing but elements of the list (`mem_of_mem_splitOn`
  and the others), and parts between separators hold no separator. So
  a list has these parts exactly if it is what joins them
  (`splitOn_eq_cons_iff`).
-/

namespace MenuHost.Text

variable {α β : Type} [DecidableEq α] [DecidableEq β]

/-! ## Renaming the elements -/

theorem splitOn_cons_of_ne {sep x : α} (h : x ≠ sep) (xs : List α) :
    ∃ part rest, xs.splitOn sep = part :: rest ∧ (x :: xs).splitOn sep = (x :: part) :: rest := by
  obtain ⟨part, rest, hsplit⟩ := List.exists_cons_of_ne_nil (List.splitOn_ne_nil sep xs)
  refine ⟨part, rest, hsplit, ?_⟩
  rw [List.splitOn_cons_eq_if_modifyHead, hsplit, if_neg (by simpa using h)]
  rfl

theorem splitOn_cons_self (sep : α) (xs : List α) :
    (sep :: xs).splitOn sep = [] :: xs.splitOn sep :=
  List.splitOn_append_cons_self [] xs

theorem splitOn_map {f : α → β} (hf : ∀ x y, f x = f y → x = y) (sep : α) (xs : List α) :
    (xs.map f).splitOn (f sep) = (xs.splitOn sep).map (List.map f) := by
  induction xs with
  | nil => rfl
  | cons x xs ih =>
      by_cases hx : x = sep
      · subst hx
        rw [List.map_cons, splitOn_cons_self, splitOn_cons_self, ih]
        rfl
      · have hfx : f x ≠ f sep := fun h => hx (hf x sep h)
        obtain ⟨part, rest, hxs, hsplit⟩ := splitOn_cons_of_ne hx xs
        obtain ⟨part', rest', hxs', hsplit'⟩ := splitOn_cons_of_ne hfx (xs.map f)
        rw [ih, hxs, List.map_cons] at hxs'
        obtain ⟨rfl, rfl⟩ := List.cons.inj hxs'
        rw [List.map_cons, hsplit', hsplit]
        rfl

theorem cut_map {f : α → β} (hf : ∀ x y, f x = f y → x = y) (sep : α) (xs : List α) :
    cut (f sep) (xs.map f) =
      (cut sep xs).map fun (before, after) => (before.map f, after.map f) := by
  have hpred : (fun y => decide (y ≠ f sep)) ∘ f = fun x => decide (x ≠ sep) := by
    funext x
    simp only [Function.comp, decide_eq_decide]
    exact not_congr ⟨hf x sep, congrArg f⟩
  rw [cut, cut, List.dropWhile_map, List.takeWhile_map, hpred]
  cases xs.dropWhile fun x => decide (x ≠ sep) <;> simp

omit [DecidableEq α] [DecidableEq β] in
theorem trim_map (f : α → β) (p : β → Bool) (xs : List α) :
    trim p (xs.map f) = (trim (p ∘ f) xs).map f := by
  simp [trim, List.dropWhile_map, ← List.map_reverse]

/-! ## The elements of the parts -/

theorem mem_of_mem_splitOn {sep : α} {xs part : List α} (h : part ∈ xs.splitOn sep) :
    ∀ x ∈ part, x ∈ xs ∧ x ≠ sep := by
  induction xs generalizing part with
  | nil =>
      obtain rfl := List.mem_singleton.mp h
      simp
  | cons y ys ih =>
      by_cases hy : y = sep
      · subst hy
        rw [splitOn_cons_self] at h
        rcases List.mem_cons.mp h with rfl | h
        · simp
        · exact fun x hx => ⟨List.mem_cons_of_mem _ (ih h x hx).1, (ih h x hx).2⟩
      · obtain ⟨first, rest, hys, hsplit⟩ := splitOn_cons_of_ne hy ys
        rw [hsplit] at h
        intro x hx
        rcases List.mem_cons.mp h with rfl | h
        · rcases List.mem_cons.mp hx with rfl | hx
          · exact ⟨List.mem_cons_self .., hy⟩
          · have hfirst := ih (hys ▸ List.mem_cons_self ..) x hx
            exact ⟨List.mem_cons_of_mem _ hfirst.1, hfirst.2⟩
        · have hrest := ih (hys ▸ List.mem_cons_of_mem _ h) x hx
          exact ⟨List.mem_cons_of_mem _ hrest.1, hrest.2⟩

theorem mem_of_mem_cut {sep : α} {xs before after : List α}
    (h : cut sep xs = some (before, after)) :
    (∀ x ∈ before, x ∈ xs) ∧ ∀ x ∈ after, x ∈ xs := by
  simp only [cut] at h
  split at h
  · cases h
  · next y rest hdrop =>
      obtain ⟨rfl, rfl⟩ := Prod.mk.inj (Option.some.inj h)
      refine ⟨fun x hx => List.takeWhile_subset _ hx, fun x hx => ?_⟩
      exact List.dropWhile_subset _ (hdrop ▸ List.mem_cons_of_mem _ hx)

omit [DecidableEq α] in
theorem mem_of_mem_trim {p : α → Bool} {xs : List α} {x : α} (h : x ∈ trim p xs) : x ∈ xs := by
  have hdrop := List.dropWhile_subset _ (List.mem_reverse.mp h)
  exact List.dropWhile_subset _ (List.mem_reverse.mp hdrop)

omit [DecidableEq α] in
/-- What holds of the separator and of each part holds of the list that joins them. -/
theorem forall_mem_intercalate {p : α → Prop} {sep : α} {parts : List (List α)} (hsep : p sep)
    (h : ∀ part ∈ parts, ∀ x ∈ part, p x) : ∀ x ∈ [sep].intercalate parts, p x := by
  induction parts with
  | nil => exact nofun
  | cons part rest ih =>
      have hpart := h part (List.mem_cons_self ..)
      have hrest := ih fun q hq => h q (List.mem_cons_of_mem _ hq)
      cases rest with
      | nil =>
          rw [List.intercalate_singleton]
          exact hpart
      | cons next rest =>
          intro x hx
          rw [List.intercalate_cons_cons, List.append_assoc, List.singleton_append] at hx
          rcases List.mem_append.mp hx with hx | hx
          · exact hpart x hx
          · rcases List.mem_cons.mp hx with rfl | hx
            · exact hsep
            · exact hrest x hx

theorem splitOn_eq_cons_iff {sep : α} {xs part : List α} {parts : List (List α)} :
    xs.splitOn sep = part :: parts ↔
      (∀ p ∈ part :: parts, sep ∉ p) ∧ xs = [sep].intercalate (part :: parts) := by
  constructor
  · intro h
    refine ⟨fun p hp hsep => ?_, ?_⟩
    · exact (mem_of_mem_splitOn (h ▸ hp) sep hsep).2 rfl
    · rw [← h, List.intercalate_splitOn]
  · rintro ⟨hparts, rfl⟩
    exact List.splitOn_intercalate sep hparts (List.cons_ne_nil _ _)

omit [DecidableEq α] in
/-- What can be checked of each element holds of all elements. -/
theorem forall_mem_of_all {p : α → Prop} [DecidablePred p] {xs : List α}
    (h : (xs.all fun x => decide (p x)) = true) : ∀ x ∈ xs, p x := by
  simpa using h

omit [DecidableEq α] in
/-- Taking ends at the first element to stop at. -/
theorem takeWhile_append_stop {p : α → Bool} {x : α} (hx : p x = false) (xs ys : List α) :
    (xs ++ x :: ys).takeWhile p = xs.takeWhile p := by
  induction xs with
  | nil => simp [hx]
  | cons y xs ih => rw [List.cons_append, List.takeWhile_cons, List.takeWhile_cons, ih]

theorem cut_eq_some_iff {sep : α} {xs before after : List α} :
    cut sep xs = some (before, after) ↔ xs = before ++ sep :: after ∧ sep ∉ before := by
  constructor
  · intro h
    by_cases hsep : sep ∈ xs
    · obtain ⟨front, back, rfl, hfront⟩ := List.eq_append_cons_of_mem hsep
      rw [cut_append_cons hfront] at h
      obtain ⟨rfl, rfl⟩ := Prod.mk.inj (Option.some.inj h)
      exact ⟨rfl, hfront⟩
    · rw [cut_of_notMem hsep] at h
      cases h
  · rintro ⟨rfl, hsep⟩
    exact cut_append_cons hsep after

/-! ## Nothing to trim -/

omit [DecidableEq α] in
theorem dropWhile_eq_self_iff {p : α → Bool} {xs : List α} :
    xs.dropWhile p = xs ↔ ∀ x, xs.head? = some x → p x = false := by
  rw [List.dropWhile_eq_self_iff]
  cases xs <;> simp

omit [DecidableEq α] in
/-- A list that neither begins nor ends with blanks is not trimmed. -/
theorem trim_of_ends {p : α → Bool} {xs : List α} (hhead : ∀ x, xs.head? = some x → p x = false)
    (hlast : ∀ x, xs.getLast? = some x → p x = false) : trim p xs = xs := by
  rw [trim, dropWhile_eq_self_iff.mpr hhead, dropWhile_eq_self_iff.mpr, List.reverse_reverse]
  intro x hx
  rw [List.head?_reverse] at hx
  exact hlast x hx

omit [DecidableEq α] in
theorem trim_of_forall {p : α → Bool} {xs : List α} (h : ∀ x ∈ xs, p x = false) :
    trim p xs = xs :=
  trim_of_ends (fun x hx => h x (List.mem_of_head? hx)) fun x hx => h x (List.mem_of_getLast? hx)

/-! ## What trimming takes away -/

omit [DecidableEq α] in
theorem trim_sublist_dropWhile (p : α → Bool) (xs : List α) :
    (trim p xs).Sublist (xs.dropWhile p) := by
  have hends := (List.dropWhile_sublist (l := (xs.dropWhile p).reverse) p).reverse
  rwa [List.reverse_reverse] at hends

omit [DecidableEq α] in
theorem trim_sublist (p : α → Bool) (xs : List α) : (trim p xs).Sublist xs :=
  (trim_sublist_dropWhile p xs).trans (List.dropWhile_sublist p)

omit [DecidableEq α] in
/-- Trimming leaves a list as it is only if it neither begins nor ends with blanks. -/
theorem trim_eq_self_iff {p : α → Bool} {xs : List α} :
    trim p xs = xs ↔
      (∀ x, xs.head? = some x → p x = false) ∧ ∀ x, xs.getLast? = some x → p x = false := by
  constructor
  · intro h
    have hfront : xs.dropWhile p = xs := by
      have hafter := (trim_sublist_dropWhile p xs).length_le
      rw [h] at hafter
      exact (List.dropWhile_sublist p).eq_of_length_le hafter
    rw [trim, hfront] at h
    have hback : xs.reverse.dropWhile p = xs.reverse := by
      rw [← List.reverse_reverse (xs.reverse.dropWhile p), h]
    refine ⟨dropWhile_eq_self_iff.mp hfront, fun x hx => ?_⟩
    rw [← List.head?_reverse] at hx
    exact dropWhile_eq_self_iff.mp hback x hx
  · rintro ⟨hhead, hlast⟩
    exact trim_of_ends hhead hlast

end MenuHost.Text
