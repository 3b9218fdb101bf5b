import MenuHost.Menu.Config
import MenuHost.Proofs.Reading

/-!
# The shape of a menu configuration

Which values have a typed view, and which view that is. `IsConfig` says it
without a reader: a configuration is an object of two members or an array
of two elements, and either way both of them may be missing; an entry is
an object or an array too, but of two strings that must both be there. The
readers of `Menu.Config` report the first fault that they meet, and in
which order they look is of no account here: a reader accepts what its
relation allows and refuses everything else (`Reads`).

Each reader has one lemma that trades it for its relation, and the
grammar of the whole is put together from these.
-/

namespace MenuHost.Menu

/-! ## The grammar -/

/-- An entry is an object with both members, or an array of both strings. -/
inductive IsEntry : Json → MenuEntry → Prop
  | object {members : List (String × Json)} {e : MenuEntry}
      (hname : Json.member? "Name" members = some (.string e.name))
      (hlocation : Json.member? "Location" members = some (.string e.location)) :
      IsEntry (.object members) e
  | array (e : MenuEntry) : IsEntry (.array [.string e.name, .string e.location]) e

inductive IsMenu : Json → List MenuEntry → Prop
  | array {items : List Json} {menu : List MenuEntry} (h : List.Forall₂ IsEntry items menu) :
      IsMenu (.array items) menu

inductive IsKind : Json → Option String → Prop
  | null : IsKind .null none
  | string (s : String) : IsKind (.string s) (some s)

/-- What is there has the shape, and what is missing stands for the default. -/
inductive IfThere {α : Type} (Is : Json → α → Prop) (default : α) : Option Json → α → Prop
  | absent : IfThere Is default none default
  | present {v : Json} {a : α} (h : Is v a) : IfThere Is default (some v) a

/-- A configuration is an object, of whose members two count, or an array of at
most two elements. -/
inductive IsConfig : Json → SystemMenuConfig → Prop
  | object {members : List (String × Json)} {c : SystemMenuConfig}
      (hkind : IfThere IsKind none (Json.member? "Type" members) c.kind)
      (hmenu : IfThere IsMenu [] (Json.member? "Menu" members) c.menu) :
      IsConfig (.object members) c
  | array {items : List Json} {c : SystemMenuConfig} (hlength : items.length ≤ 2)
      (hkind : IfThere IsKind none items[0]? c.kind)
      (hmenu : IfThere IsMenu [] items[1]? c.menu) :
      IsConfig (.array items) c

/-- A reader gives what a value stands for, and any other value is an invalid
configuration to it. -/
structure Reads {α : Type} (read : Json → Except ShapeError α) (Is : Json → α → Prop) (v : Json) :
    Prop where
  accepts : ∀ a, viewAs read v = .ok a ↔ Is v a
  refuses : (∃ why, viewAs read v = .error (.invalidConfig why)) ↔ ∀ a, ¬Is v a

theorem viewAs_eq_ok_iff {α : Type} {read : Json → Except ShapeError α} {v : Json} {a : α} :
    viewAs read v = .ok a ↔ read v = .ok a := by
  unfold viewAs
  cases read v <;> simp

theorem reads_of_iff {α : Type} {read : Json → Except ShapeError α} {Is : Json → α → Prop}
    (h : ∀ v a, read v = .ok a ↔ Is v a) (v : Json) : Reads read Is v := by
  refine ⟨fun a => viewAs_eq_ok_iff.trans (h v a), ?_⟩
  constructor
  · rintro ⟨why, hwhy⟩ a ha
    rw [viewAs_eq_ok_iff.mpr ((h v a).mpr ha)] at hwhy
    cases hwhy
  · intro hnone
    unfold viewAs
    cases hread : read v with
    | ok a => exact absurd ((h v a).mp hread) (hnone a)
    | error e => exact ⟨e.message, rfl⟩

/-! ## Readers -/

theorem stringOfJson_eq_ok_iff {v : Json} {s : String} :
    stringOfJson v = .ok s ↔ v = .string s := by
  cases v <;> simp [stringOfJson]

theorem field?_eq_ok_iff {α : Type} {read : Json → Except ShapeError α} {key : String}
    {members : List (String × Json)} {o : Option α} :
    field? read key members = .ok o ↔
      (Json.member? key members = none ∧ o = none)
        ∨ ∃ v a, Json.member? key members = some v ∧ read v = .ok a ∧ o = some a := by
  unfold field?
  cases Json.member? key members with
  | none => simp [eq_comm]
  | some v => simp [map_eq_ok_iff, eq_comm (a := o)]

/-- A member with a default is read if it is missing or has the shape. -/
theorem field?_getD_eq_ok_iff {α : Type} {read : Json → Except ShapeError α}
    {Is : Json → α → Prop} (h : ∀ v a, read v = .ok a ↔ Is v a) {key : String}
    {members : List (String × Json)} {default a : α} :
    (∃ o, field? read key members = .ok o ∧ o.getD default = a) ↔
      IfThere Is default (Json.member? key members) a := by
  constructor
  · rintro ⟨o, hread, rfl⟩
    rcases field?_eq_ok_iff.mp hread with ⟨hnone, rfl⟩ | ⟨v, b, hsome, hb, rfl⟩
    · rw [hnone]
      exact .absent
    · rw [hsome]
      exact .present ((h v b).mp hb)
  · intro hthere
    generalize hmember : Json.member? key members = o at hthere
    cases hthere with
    | absent => exact ⟨none, field?_eq_ok_iff.mpr (Or.inl ⟨hmember, rfl⟩), rfl⟩
    | present hv =>
        exact ⟨some a, field?_eq_ok_iff.mpr (Or.inr ⟨_, a, hmember, (h _ a).mpr hv, rfl⟩), rfl⟩

theorem field?_string_eq_ok_iff {key : String} {members : List (String × Json)} {s : String} :
    field? stringOfJson key members = .ok (some s)
      ↔ Json.member? key members = some (.string s) := by
  simp [field?_eq_ok_iff, stringOfJson_eq_ok_iff]

theorem entry_eq_ok_iff (v : Json) (e : MenuEntry) : MenuEntry.ofJson v = .ok e ↔ IsEntry v e := by
  constructor
  · intro h
    cases v with
    | object members =>
        obtain ⟨location, hlocation, h⟩ := bind_eq_ok_iff.mp h
        obtain ⟨name, hname, h⟩ := bind_eq_ok_iff.mp h
        cases name with
        | none => cases h
        | some name =>
            cases location with
            | none => cases h
            | some location =>
                cases h
                exact .object (field?_string_eq_ok_iff.mp hname)
                  (field?_string_eq_ok_iff.mp hlocation)
    | array items =>
        match items with
        | [] => cases h
        | [name] =>
            obtain ⟨_, -, h⟩ := bind_eq_ok_iff.mp h
            cases h
        | name :: location :: rest =>
            obtain ⟨name, hname, h⟩ := bind_eq_ok_iff.mp h
            obtain ⟨location, hlocation, h⟩ := bind_eq_ok_iff.mp h
            cases rest with
            | cons surplus rest => cases h
            | nil =>
                cases h
                rw [stringOfJson_eq_ok_iff.mp hname, stringOfJson_eq_ok_iff.mp hlocation]
                exact .array { name, location }
    | _ => cases h
  · intro h
    cases h with
    | object hname hlocation =>
        refine bind_eq_ok_iff.mpr ⟨_, field?_string_eq_ok_iff.mpr hlocation, ?_⟩
        exact bind_eq_ok_iff.mpr ⟨_, field?_string_eq_ok_iff.mpr hname, rfl⟩
    | array => rfl

theorem entries_eq_ok_iff {items : List Json} {menu : List MenuEntry} :
    entriesOfJson items = .ok menu ↔ List.Forall₂ IsEntry items menu := by
  induction items generalizing menu with
  | nil => simp [entriesOfJson, eq_comm]
  | cons item rest ih =>
      simp only [entriesOfJson, bind_eq_ok_iff, entry_eq_ok_iff, ih,
        List.forall₂_cons_left_iff]
      constructor
      · rintro ⟨e, he, entries, hentries, h⟩
        cases h
        exact ⟨e, entries, he, hentries, rfl⟩
      · rintro ⟨e, entries, he, hentries, rfl⟩
        exact ⟨e, he, entries, hentries, rfl⟩

theorem menu_eq_ok_iff (v : Json) (menu : List MenuEntry) :
    menuOfJson v = .ok menu ↔ IsMenu v menu := by
  constructor
  · intro h
    cases v with
    | array items => exact .array (entries_eq_ok_iff.mp h)
    | _ => cases h
  · rintro ⟨h⟩
    exact entries_eq_ok_iff.mpr h

theorem kind_eq_ok_iff (v : Json) (kind : Option String) :
    SystemMenuConfig.kindOfJson v = .ok kind ↔ IsKind v kind := by
  constructor
  · intro h
    cases v with
    | null =>
        cases h
        exact .null
    | string s =>
        cases h
        exact .string s
    | _ => cases h
  · intro h
    cases h <;> rfl

/-- A configuration that is written as an array has what its elements stand for,
and defaults for those that are missing. -/
theorem config_array_eq_ok_iff {items : List Json} {c : SystemMenuConfig} :
    SystemMenuConfig.ofJson (.array items) = .ok c ↔ IsConfig (.array items) c := by
  match items with
  | [] =>
      constructor
      · intro h
        cases h
        exact .array (Nat.zero_le 2) .absent .absent
      · intro h
        obtain ⟨kind, menu⟩ := c
        cases h with
        | array _ hkind hmenu =>
            cases hkind
            cases hmenu
            rfl
  | [v] =>
      simp only [SystemMenuConfig.ofJson, bind_eq_ok_iff, kind_eq_ok_iff]
      constructor
      · rintro ⟨kind, hkind, h⟩
        cases h
        exact .array (by simp) (.present hkind) .absent
      · intro h
        obtain ⟨kind, menu⟩ := c
        cases h with
        | array _ hkind hmenu =>
            cases hmenu
            cases hkind with
            | present hv => exact ⟨_, hv, rfl⟩
  | v :: w :: rest =>
      simp only [SystemMenuConfig.ofJson, bind_eq_ok_iff, kind_eq_ok_iff, menu_eq_ok_iff]
      constructor
      · rintro ⟨kind, hkind, menu, hmenu, h⟩
        cases rest with
        | cons surplus rest => cases h
        | nil =>
            cases h
            exact .array (by simp) (.present hkind) (.present hmenu)
      · intro h
        obtain ⟨kind, menu⟩ := c
        cases h with
        | array hlength hkind hmenu =>
            obtain rfl : rest = [] := List.eq_nil_of_length_eq_zero (by simpa using hlength)
            cases hkind with
            | present hv =>
                cases hmenu with
                | present hw => exact ⟨_, hv, _, hw, rfl⟩

theorem config_eq_ok_iff (v : Json) (c : SystemMenuConfig) :
    SystemMenuConfig.ofJson v = .ok c ↔ IsConfig v c := by
  cases v with
  | array items => exact config_array_eq_ok_iff
  | object members =>
      obtain ⟨kind, menu⟩ := c
      simp only [SystemMenuConfig.ofJson, bind_eq_ok_iff]
      constructor
      · rintro ⟨found, hmenu, given, hkind, h⟩
        cases h
        exact .object ((field?_getD_eq_ok_iff kind_eq_ok_iff).mp ⟨given, hkind, rfl⟩)
          ((field?_getD_eq_ok_iff menu_eq_ok_iff).mp ⟨found, hmenu, rfl⟩)
      · intro h
        cases h with
        | object hkind hmenu =>
            obtain ⟨given, hgiven, rfl⟩ := (field?_getD_eq_ok_iff kind_eq_ok_iff).mpr hkind
            obtain ⟨found, hfound, rfl⟩ := (field?_getD_eq_ok_iff menu_eq_ok_iff).mpr hmenu
            exact ⟨found, hfound, given, hgiven, rfl⟩
  | _ => exact ⟨nofun, nofun⟩

/-! ## Members that do not count -/

theorem field?_congr {α : Type} {key : String} {members others : List (String × Json)}
    (h : Json.member? key others = Json.member? key members)
    (read : Json → Except ShapeError α) : field? read key others = field? read key members := by
  rw [field?, field?, h]

theorem viewAs_congr {α : Type} {read : Json → Except ShapeError α} {v w : Json}
    (h : read w = read v) : viewAs read w = viewAs read v := by
  rw [viewAs, viewAs, h]

/-- **The shape of a menu configuration.** The view of a value as a configuration,
as an entry or as a menu is what the grammar says that it stands for, and a value
that the grammar does not know is an invalid configuration. Of an object only the
members count that the grammar names: whatever else is in it, the view and the
error are the same. -/
theorem views_follow_the_grammar (v : Json) :
    Reads SystemMenuConfig.ofJson IsConfig v
      ∧ Reads MenuEntry.ofJson IsEntry v
      ∧ Reads menuOfJson IsMenu v
      ∧ ∀ members others,
        ((∀ key ∈ ["Type", "Menu"], Json.member? key others = Json.member? key members) →
          viewAs SystemMenuConfig.ofJson (.object others)
            = viewAs SystemMenuConfig.ofJson (.object members))
        ∧ ((∀ key ∈ ["Name", "Location"], Json.member? key others = Json.member? key members) →
          viewAs MenuEntry.ofJson (.object others)
            = viewAs MenuEntry.ofJson (.object members)) := by
  refine ⟨reads_of_iff config_eq_ok_iff v, reads_of_iff entry_eq_ok_iff v,
    reads_of_iff menu_eq_ok_iff v, fun members others => ⟨fun h => ?_, fun h => ?_⟩⟩
  · refine viewAs_congr ?_
    have hkind := field?_congr (h "Type" (by simp)) SystemMenuConfig.kindOfJson
    have hmenu := field?_congr (h "Menu" (by simp)) menuOfJson
    simp only [SystemMenuConfig.ofJson, SystemMenuConfig.kindKey, SystemMenuConfig.menuKey, hkind,
      hmenu]
  · refine viewAs_congr ?_
    have hname := field?_congr (h "Name" (by simp)) stringOfJson
    have hlocation := field?_congr (h "Location" (by simp)) stringOfJson
    simp only [MenuEntry.ofJson, MenuEntry.nameKey, MenuEntry.locationKey, hname, hlocation]

/-- A configuration and an entry by position; the kind is left out, and so are the
members of the other entry that nobody asks for. -/
example :
    let entry := Json.object
      [("Icon", .null), ("Location", .string "edit"), ("Name", .string "Edit")]
    viewAs SystemMenuConfig.ofJson
        (.array [.null, .array [.array [.string "File", .string "file"], entry]])
      = .ok { menu := [⟨"File", "file"⟩, ⟨"Edit", "edit"⟩] } := rfl

end MenuHost.Menu
