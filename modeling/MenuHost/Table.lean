/-!
# Tables

Finite maps from texts. The entries stand in the order of their keys and no key
stands twice, so two tables with the same lookups are the same table (`ext`).

Each operation has one equation for its lookups: `get?_insert`, `get?_erase`,
`get?_filter`.
-/

namespace MenuHost

/-- A finite map from texts. -/
structure Table (α : Type) where
  entries : List (String × α)
  ordered : entries.Pairwise (·.1 < ·.1)

namespace Table

variable {α : Type}

/-! ## Entries -/

/-- Puts an entry at its place, instead of any entry of the same key. -/
def put (key : String) (value : α) : List (String × α) → List (String × α)
  | [] => [(key, value)]
  | (k, v) :: rest =>
    if key < k then (key, value) :: (k, v) :: rest
    else if key = k then (key, value) :: rest
    else (k, v) :: put key value rest

theorem mem_put {key : String} {value : α} {e : String × α} {entries : List (String × α)}
    (h : e ∈ put key value entries) : e = (key, value) ∨ e ∈ entries := by
  induction entries with
  | nil => simp_all [put]
  | cons head rest ih =>
    simp only [put] at h
    split at h
    · simp_all
    · split at h
      · simp only [List.mem_cons] at h ⊢
        rcases h with h | h
        · exact .inl h
        · exact .inr (.inr h)
      · simp only [List.mem_cons] at h ⊢
        rcases h with h | h
        · exact .inr (.inl h)
        · exact (ih h).imp_right .inr

theorem put_ordered {key : String} {value : α} {entries : List (String × α)}
    (h : entries.Pairwise (·.1 < ·.1)) : (put key value entries).Pairwise (·.1 < ·.1) := by
  induction entries with
  | nil => simp [put]
  | cons head rest ih =>
    rw [List.pairwise_cons] at h
    simp only [put]
    split
    · next lt =>
      refine List.pairwise_cons.2 ⟨fun e he => ?_, List.pairwise_cons.2 h⟩
      rcases List.mem_cons.1 he with rfl | he
      · exact lt
      · exact String.lt_trans lt (h.1 e he)
    · split
      · next eq => exact List.pairwise_cons.2 ⟨fun e he => eq ▸ h.1 e he, h.2⟩
      · next not_lt ne =>
        refine List.pairwise_cons.2 ⟨fun e he => ?_, ih h.2⟩
        rcases mem_put he with rfl | he
        · rcases Std.lt_trichotomy key head.1 with lt | eq | gt
          · exact absurd lt not_lt
          · exact absurd eq ne
          · exact gt
        · exact h.1 e he

theorem lookup_entry (k : String) (e : String × α) (rest : List (String × α)) :
    (e :: rest).lookup k = if k = e.1 then some e.2 else rest.lookup k := by
  obtain ⟨key, value⟩ := e
  rw [List.lookup_cons]
  by_cases h : k = key
  · simp [h]
  · simp [beq_false_of_ne h, h]

theorem lookup_put (key k : String) (value : α) (entries : List (String × α)) :
    (put key value entries).lookup k = if k = key then some value else entries.lookup k := by
  induction entries with
  | nil => simp [put, lookup_entry]
  | cons head rest ih =>
    simp only [put]
    split
    · simp only [lookup_entry]
    · split
      · next eq =>
        simp only [lookup_entry, eq]
        split <;> rfl
      · next ne =>
        simp only [lookup_entry, ih]
        split
        · next eq => rw [if_neg fun h : k = key => ne (h.symm.trans eq)]
        · rfl

/-- Where every key is greater, there is nothing to find. -/
theorem lookup_of_lt {k : String} {entries : List (String × α)}
    (h : ∀ e ∈ entries, k < e.1) : entries.lookup k = none := by
  induction entries with
  | nil => rfl
  | cons head rest ih =>
    have lt := h head (List.mem_cons_self ..)
    have ne : k ≠ head.1 := fun eq => String.lt_irrefl head.1 (eq ▸ lt)
    rw [lookup_entry, if_neg ne]
    exact ih fun e he => h e (List.mem_cons_of_mem _ he)

/-! ## Tables -/

def empty : Table α := ⟨[], .nil⟩

instance : Inhabited (Table α) := ⟨empty⟩

def get? (t : Table α) (key : String) : Option α :=
  t.entries.lookup key

def contains (t : Table α) (key : String) : Bool :=
  (t.get? key).isSome

def keys (t : Table α) : List String :=
  t.entries.map (·.1)

def size (t : Table α) : Nat :=
  t.entries.length

/-- Gives a key a value, instead of any value it had. -/
def insert (t : Table α) (key : String) (value : α) : Table α :=
  ⟨put key value t.entries, put_ordered t.ordered⟩

def filter (p : String → α → Bool) (t : Table α) : Table α :=
  ⟨t.entries.filter fun e => p e.1 e.2, t.ordered.filter _⟩

def erase (t : Table α) (key : String) : Table α :=
  t.filter fun k _ => k ≠ key

/-- The table of a list of entries; the last one of a key counts. -/
def ofList (entries : List (String × α)) : Table α :=
  entries.foldl (fun t e => t.insert e.1 e.2) empty

@[simp] theorem get?_empty (k : String) : (empty : Table α).get? k = none := rfl

theorem get?_insert (t : Table α) (key k : String) (value : α) :
    (t.insert key value).get? k = if k = key then some value else t.get? k :=
  lookup_put key k value t.entries

/-- A filter keeps exactly the values that satisfy it. -/
theorem get?_filter (p : String → α → Bool) (t : Table α) (k : String) :
    (t.filter p).get? k = (t.get? k).filter (p k) := by
  obtain ⟨entries, ordered⟩ := t
  simp only [get?, filter]
  induction entries with
  | nil => rfl
  | cons head rest ih =>
    rw [List.pairwise_cons] at ordered
    have ih := ih ordered.2
    rw [lookup_entry, List.filter_cons]
    by_cases hk : k = head.1
    · subst hk
      rw [lookup_of_lt ordered.1] at ih
      by_cases hp : p head.1 head.2 <;> simp [lookup_entry, Option.filter, hp, ih]
    · by_cases hp : p head.1 head.2 <;> simp [lookup_entry, hp, ih, hk]

theorem get?_erase (t : Table α) (key k : String) :
    (t.erase key).get? k = if k = key then none else t.get? k := by
  simp only [erase, get?_filter]
  by_cases h : k = key <;> cases t.get? k <;> simp [Option.filter, h]

/-- Two tables with the same lookups are the same. -/
theorem ext {t u : Table α} (h : ∀ k, t.get? k = u.get? k) : t = u := by
  obtain ⟨xs, hxs⟩ := t
  obtain ⟨ys, hys⟩ := u
  simp only [get?] at h
  suffices eq : xs = ys by subst eq; rfl
  induction xs generalizing ys with
  | nil =>
    cases ys with
    | nil => rfl
    | cons y ys => simpa [lookup_entry] using h y.1
  | cons x xs ih =>
    cases ys with
    | nil => simpa [lookup_entry] using h x.1
    | cons y ys =>
      rw [List.pairwise_cons] at hxs hys
      have key : x.1 = y.1 := by
        rcases Std.lt_trichotomy x.1 y.1 with lt | eq | gt
        · have ne : x.1 ≠ y.1 := fun eq => String.lt_irrefl y.1 (eq ▸ lt)
          have := h x.1
          rw [lookup_entry, if_pos rfl, lookup_entry, if_neg ne,
            lookup_of_lt fun e he => String.lt_trans lt (hys.1 e he)] at this
          simp at this
        · exact eq
        · have ne : y.1 ≠ x.1 := fun eq => String.lt_irrefl x.1 (eq ▸ gt)
          have := h y.1
          rw [lookup_entry, if_neg ne, lookup_entry, if_pos rfl,
            lookup_of_lt fun e he => String.lt_trans gt (hxs.1 e he)] at this
          simp at this
      have value : x.2 = y.2 := by simpa [lookup_entry, key] using h x.1
      have tails : xs = ys := by
        refine ih hxs.2 ys hys.2 fun k => ?_
        by_cases hk : k = x.1
        · rw [hk, lookup_of_lt hxs.1, lookup_of_lt fun e he => key ▸ hys.1 e he]
        · simpa [lookup_entry, hk, ← key] using h k
      rw [tails, Prod.ext key value]

end Table

end MenuHost
