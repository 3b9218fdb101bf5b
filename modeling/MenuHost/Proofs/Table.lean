import Mathlib.Data.List.Induction
import MenuHost.Table

/-!
# Last entries and keys

Tables made of lists and histories of runs agree in one point: of two
entries of a key the later one counts. `append_singleton_eq_iff` says
where the last element of a list stands when the list is split, and
`Table.get?_ofList_eq_some_iff` reads lookups in `Table.ofList` off the
list by it.

The keys of a table are those that it finds something for, each once
(`Table.mem_keys_iff`, `Table.nodup_keys`). So tables can be counted by
what they find.
-/

namespace MenuHost

variable {α : Type}

/-- A list with one more element at its end is split at that element or
before it. -/
theorem append_singleton_eq_iff {xs before after : List α} {x y : α} :
    xs ++ [x] = before ++ y :: after ↔
      (xs = before ∧ x = y ∧ after = []) ∨ ∃ mid, xs = before ++ y :: mid ∧ after = mid ++ [x] := by
  rcases List.eq_nil_or_concat after with rfl | ⟨mid, z, rfl⟩
  · simp [List.append_singleton_inj]
  · rw [List.concat_eq_append, ← List.cons_append, ← List.append_assoc, List.append_singleton_inj]
    constructor
    · rintro ⟨rfl, rfl⟩
      exact Or.inr ⟨mid, rfl, rfl⟩
    · rintro (⟨-, -, hnil⟩ | ⟨mid', rfl, heq⟩)
      · simp at hnil
      · obtain ⟨rfl, rfl⟩ := List.append_singleton_inj.mp heq
        exact ⟨rfl, rfl⟩

namespace Table

theorem ofList_append_singleton (entries : List (String × α)) (e : String × α) :
    ofList (entries ++ [e]) = (ofList entries).insert e.1 e.2 := by
  simp [ofList]

/-- A table of a list finds the last entry of a key. -/
theorem get?_ofList_eq_some_iff {entries : List (String × α)} {k : String} {value : α} :
    (ofList entries).get? k = some value ↔
      ∃ before after, entries = before ++ (k, value) :: after ∧ ∀ e ∈ after, e.1 ≠ k := by
  induction entries using List.reverseRecOn with
  | nil => simp [ofList]
  | append_singleton init last ih =>
      simp only [ofList_append_singleton, get?_insert, append_singleton_eq_iff]
      by_cases hk : k = last.1
      · rw [if_pos hk]
        constructor
        · rintro ⟨⟩
          exact ⟨init, [], Or.inl ⟨rfl, Prod.ext hk.symm rfl, rfl⟩, by simp⟩
        · rintro ⟨before, after, ⟨rfl, rfl, rfl⟩ | ⟨mid, rfl, rfl⟩, hne⟩
          · rfl
          · exact absurd hk.symm (hne last (by simp))
      · rw [if_neg hk, ih]
        constructor
        · rintro ⟨before, after, rfl, hne⟩
          refine ⟨before, after ++ [last], Or.inr ⟨after, rfl, rfl⟩, fun e he => ?_⟩
          rcases List.mem_append.mp he with he | he
          · exact hne e he
          · exact List.mem_singleton.mp he ▸ Ne.symm hk
        · rintro ⟨before, after, ⟨rfl, rfl, rfl⟩ | ⟨mid, rfl, rfl⟩, hne⟩
          · exact absurd rfl hk
          · exact ⟨before, mid, rfl, fun e he => hne e (by simp [he])⟩

/-! ## Keys -/

theorem mem_keys_iff {t : Table α} {k : String} : k ∈ t.keys ↔ ∃ value, t.get? k = some value := by
  obtain ⟨entries, ordered⟩ := t
  simp only [keys, get?]
  clear ordered
  induction entries with
  | nil => simp
  | cons head rest ih =>
      rw [List.map_cons, List.mem_cons, lookup_entry, ih]
      by_cases hk : k = head.1 <;> simp [hk]

theorem nodup_keys (t : Table α) : t.keys.Nodup := by
  refine List.pairwise_map.mpr (t.ordered.imp ?_)
  intro a b hlt heq
  rw [heq] at hlt
  exact String.lt_irrefl _ hlt

/-! ## Other values -/

def map {β : Type} (f : α → β) (t : Table α) : Table β :=
  ⟨t.entries.map fun e => (e.1, f e.2), List.pairwise_map.mpr t.ordered⟩

theorem get?_map {β : Type} (f : α → β) (t : Table α) (k : String) :
    (t.map f).get? k = (t.get? k).map f := by
  obtain ⟨entries, ordered⟩ := t
  simp only [map, get?]
  clear ordered
  induction entries with
  | nil => rfl
  | cons head rest ih =>
      rw [List.map_cons, lookup_entry, lookup_entry, ih]
      split <;> rfl

theorem map_insert {β : Type} (f : α → β) (t : Table α) (key : String) (value : α) :
    (t.insert key value).map f = (t.map f).insert key (f value) := by
  refine ext fun k => ?_
  rw [get?_map, get?_insert, get?_insert, get?_map]
  split <;> rfl

theorem map_eq_self {f : α → α} (h : ∀ value, f value = value) (t : Table α) : t.map f = t := by
  refine ext fun k => ?_
  rw [get?_map, funext h]
  exact Option.map_id'

end Table

end MenuHost
