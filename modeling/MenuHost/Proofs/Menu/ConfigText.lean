import MenuHost.Proofs.Json.ReadBack
import MenuHost.Proofs.Menu.ConfigShape

/-!
# The text of a menu configuration

A configuration and an entry survive their own text. Writing and reading are
no mirror images of each other: a kind is left out where there is none, the menu
is always written, and the reader takes arrays, members that do not count and
any order of members besides. What is written is an object in any case, so only
that half of the grammar of `Menu.ConfigShape` is needed, and a reader that is
traded for its relation has nothing to do with texts any more: it remains to say
which value the text is read as (`MenuEntry.readsAs`, `SystemMenuConfig.readsAs`).
That value has its members in the order of their keys, which the written one has
not.

`RoundTrips` says for one reader and one writer what follows
(`roundTrips_of_readsAs`).
-/

namespace MenuHost

namespace Json

theorem member?_setMember (key k : String) (v : Json) (members : List (String × Json)) :
    member? k (setMember key v members) = if k = key then some v else member? k members :=
  Table.lookup_put key k v members

end Json

namespace Menu

open Json (ReadsAs)

/-! ## Texts and views -/

/-- The view of the value that a text stands for. -/
def textView? {α : Type} (read : Json → Except ShapeError α) (text : String) :
    Option (Except WidgetError α) :=
  (Json.parse? text).map (viewAs read)

/-- The text of the view of a text. -/
def normalText? {α : Type} (read : Json → Except ShapeError α) (write : α → Json)
    (text : String) : Option String :=
  match textView? read text with
  | some (.ok a) => some (write a).compact
  | _ => none

/-- Views survive being written. Whatever a view was read from, the value and the
text that it is written as have that view again, and a text that was written is
written as itself. -/
structure RoundTrips {α : Type} (read : Json → Except ShapeError α) (write : α → Json) : Prop where
  text : ∀ a, textView? read (write a).compact = some (.ok a)
  apart : ∀ a b, (write a).compact = (write b).compact → a = b
  again : ∀ v a, viewAs read v = .ok a →
    viewAs read (write a) = viewAs read v
      ∧ textView? read (write a).compact = some (viewAs read v)
      ∧ normalText? read write (write a).compact = some (write a).compact
  normal : ∀ text t, normalText? read write text = some t → normalText? read write t = some t

/-- It is enough that a view stands for the value it is written as, and for the
value that the text of this one is read as. -/
theorem roundTrips_of_readsAs {α : Type} {read : Json → Except ShapeError α} {write : α → Json}
    {Is : Json → α → Prop} (hread : ∀ v a, read v = .ok a ↔ Is v a)
    (hwrite : ∀ a, Is (write a) a) (htext : ∀ a, ∃ w, ReadsAs (write a) w ∧ Is w a) :
    RoundTrips read write := by
  have text : ∀ a, textView? read (write a).compact = some (.ok a) := by
    intro a
    obtain ⟨w, hw, ha⟩ := htext a
    rw [textView?, Json.parse?_compact hw, Option.map_some,
      viewAs_eq_ok_iff.mpr ((hread w a).mpr ha)]
  have normal : ∀ a, normalText? read write (write a).compact = some (write a).compact := by
    intro a
    simp only [normalText?, text a]
  refine ⟨text, fun a b h => ?_, fun v a h => ?_, fun _ t h => ?_⟩
  · have hsame := text b
    rw [← h, text a] at hsame
    cases hsame
    rfl
  · rw [h]
    exact ⟨viewAs_eq_ok_iff.mpr ((hread _ a).mpr (hwrite a)), text a, normal a⟩
  · unfold normalText? at h
    split at h
    · cases h
      exact normal _
    · cases h

/-! ## Entries -/

namespace MenuEntry

theorem isEntry_toJson (e : MenuEntry) : IsEntry e.toJson e :=
  .object rfl rfl

theorem readsAs (e : MenuEntry) : ∃ w, ReadsAs e.toJson w ∧ IsEntry w e := by
  have members : ReadsAs.Members [(nameKey, .string e.name), (locationKey, .string e.location)]
      [(nameKey, .string e.name), (locationKey, .string e.location)] :=
    .cons ⟨rfl, .string _⟩ (.cons ⟨rfl, .string _⟩ .nil)
  refine ⟨_, .object members, .object ?_ ?_⟩
  · simp [ReadsAs.sorted, Json.member?_setMember, nameKey, locationKey]
  · simp [ReadsAs.sorted, Json.member?_setMember, locationKey]

end MenuEntry

/-! ## Configurations -/

theorem isMenu_map_toJson (menu : List MenuEntry) :
    IsMenu (.array (menu.map MenuEntry.toJson)) menu := by
  refine .array (List.forall₂_map_left_iff.mpr (List.forall₂_same.mpr fun e _ => ?_))
  exact e.isEntry_toJson

theorem entries_readsAs (menu : List MenuEntry) :
    ∃ items, List.Forall₂ ReadsAs (menu.map MenuEntry.toJson) items
      ∧ List.Forall₂ IsEntry items menu := by
  induction menu with
  | nil => exact ⟨[], .nil, .nil⟩
  | cons e menu ih =>
      obtain ⟨w, hw, he⟩ := e.readsAs
      obtain ⟨items, hitems, hmenu⟩ := ih
      exact ⟨w :: items, .cons hw hitems, .cons he hmenu⟩

theorem menu_readsAs (menu : List MenuEntry) :
    ∃ w, ReadsAs (.array (menu.map MenuEntry.toJson)) w ∧ IsMenu w menu := by
  obtain ⟨items, hitems, hmenu⟩ := entries_readsAs menu
  exact ⟨.array items, .array hitems, .array hmenu⟩

namespace SystemMenuConfig

theorem isConfig_toJson (c : SystemMenuConfig) : IsConfig c.toJson c := by
  obtain ⟨kind, menu⟩ := c
  cases kind with
  | none => exact .object .absent (.present (isMenu_map_toJson menu))
  | some kind => exact .object (.present (.string kind)) (.present (isMenu_map_toJson menu))

theorem readsAs (c : SystemMenuConfig) : ∃ w, ReadsAs c.toJson w ∧ IsConfig w c := by
  obtain ⟨kind, menu⟩ := c
  obtain ⟨w, hw, hmenu⟩ := menu_readsAs menu
  cases kind with
  | none =>
      have members : ReadsAs.Members [(menuKey, .array (menu.map MenuEntry.toJson))]
          [(menuKey, w)] := .cons ⟨rfl, hw⟩ .nil
      exact ⟨_, .object members, .object .absent (.present hmenu)⟩
  | some kind =>
      have members : ReadsAs.Members
          [(kindKey, .string kind), (menuKey, .array (menu.map MenuEntry.toJson))]
          [(kindKey, .string kind), (menuKey, w)] :=
        .cons ⟨rfl, .string _⟩ (.cons ⟨rfl, hw⟩ .nil)
      have hkind : Json.member? "Type"
          (ReadsAs.sorted [(kindKey, .string kind), (menuKey, w)] []) = some (.string kind) := by
        simp [ReadsAs.sorted, Json.member?_setMember, kindKey, menuKey]
      have hmenus : Json.member? "Menu"
          (ReadsAs.sorted [(kindKey, .string kind), (menuKey, w)] []) = some w := by
        simp [ReadsAs.sorted, Json.member?_setMember, menuKey]
      refine ⟨_, .object members, .object ?_ ?_⟩
      · rw [hkind]
        exact .present (.string kind)
      · rw [hmenus]
        exact .present hmenu

end SystemMenuConfig

/-- **The text of a menu configuration.** A configuration is read back from its
compact text, whatever its strings hold, so different configurations have
different texts; above all, no kind is not an empty kind. What a configuration was
read from does not matter: it is written as one text, and read from it again. All
of this is true of entries, too. -/
theorem configs_survive_their_text :
    RoundTrips SystemMenuConfig.ofJson SystemMenuConfig.toJson
      ∧ RoundTrips MenuEntry.ofJson MenuEntry.toJson
      ∧ ∀ kind menu others,
        (SystemMenuConfig.toJson { kind := none, menu }).compact
          ≠ (SystemMenuConfig.toJson { kind := some kind, menu := others }).compact := by
  have configs : RoundTrips SystemMenuConfig.ofJson SystemMenuConfig.toJson :=
    roundTrips_of_readsAs config_eq_ok_iff SystemMenuConfig.isConfig_toJson
      SystemMenuConfig.readsAs
  refine ⟨configs, ?_, fun kind menu others h => ?_⟩
  · exact roundTrips_of_readsAs entry_eq_ok_iff MenuEntry.isEntry_toJson MenuEntry.readsAs
  · exact nomatch configs.apart _ _ h

/-- A name with a quotation mark, a backslash and a control character in it, and
no kind. -/
example :
    let c : SystemMenuConfig := { menu := [⟨"\"é\\\u0001", ""⟩] }
    c.toJson.compact = "\x7b\"Menu\":[\x7b\"Name\":\"\\\"é\\\\\\u0001\",\"Location\":\"\"\x7d]\x7d"
      ∧ textView? SystemMenuConfig.ofJson c.toJson.compact = some (.ok c) := by
  decide +kernel

end Menu

end MenuHost
