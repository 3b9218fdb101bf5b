import Mathlib.Data.List.Nodup
import Mathlib.Data.List.Pairwise
import MenuHost.Proofs.Menu.Actions

/-!
# Whose an element is

Elements stay on the page when their widgets are dropped, so a page holds
the elements of all widgets that were ever built. An inventory is a list of
these widgets: in the order in which they were built their elements are the
elements of the page, one after the other, and the same holds of their
listeners (`Page.Inventory`). So no two widgets share an element or a
listener, and each is shown as it was made, but for the listener, which is
attached as long as the widget is alive.

A widget is alive as long as a name stands for it (`Client.Alive`). One that
is only built to be shown is dropped by the action that builds it and is
never alive between two actions.

The inventory is not kept by the client: `Client.builtBy` reads it off a run.
`Client.Kept` speaks of the named widgets only, which is enough to tell what
a click starts; here it is also about those that no name stands for any more.
-/

namespace MenuHost.Menu

/-- Two members of a list that have something in common are the same. -/
theorem eq_of_mem_flatMap {α β : Type} {f : α → List β} {xs : List α} (h : (xs.flatMap f).Nodup)
    {x y : α} {b : β} (hx : x ∈ xs) (hy : y ∈ xs) (hbx : b ∈ f x) (hby : b ∈ f y) : x = y := by
  obtain ⟨-, hdisjoint⟩ := List.nodup_flatMap.mp h
  have hsymm : Std.Symm (Function.onFun List.Disjoint f) := ⟨fun _ _ => List.disjoint_symm⟩
  by_contra hne
  exact hdisjoint.forall hx hy hne hbx hby

/-! ## Elements of a widget -/

/-- The elements that a widget puts on a page, in the order in which they are made. -/
def Widget.elements : Widget → List Nat
  | systemMenu menu => [menu.control, menu.root]
  | placeholder root => [root]

theorem Widget.root_mem_elements (w : Widget) : w.root ∈ w.elements := by
  cases w <;> simp [root, elements]

/-- A widget gets the next elements, and the next listener if it has one. -/
theorem Factory.allocates (f : Factory) (p : Page) (config : Json) :
    List.range (f.build p config).2.elements.length
        = List.range p.elements.length ++ (f.build p config).1.elements
      ∧ List.range (f.build p config).2.listenerCount
        = List.range p.listenerCount ++ (f.build p config).1.listener?.toList := by
  cases f with
  | systemMenu =>
      simp [build, SystemMenu.create_eq, Widget.elements, Widget.listener?, List.range_succ]
  | placeholder text =>
      simp [build, Page.createElement, Widget.elements, Widget.listener?, List.range_succ]

/-- A menu as it is seen, with a number of listeners on its control. -/
def menuTree (listeners : Nat) : Tree :=
  .node menuTag rootText 0 [.node menuTag logoutText listeners []]

/-- What an answer shows of a widget. -/
def Answer.tree? : Answer → Option Tree
  | .tree shown => some shown
  | .menu shown _ _ => some shown
  | .inspected shown _ => some shown
  | _ => none

namespace Page

/-- A menu is seen as it was made, and the one child of its root is its control. -/
def Displays (p : Page) (menu : SystemMenu) (listeners : Nat) : Prop :=
  p.tree menu.root = menuTree listeners ∧ p.childrenOf menu.root = [menu.control]

theorem Shows.tree_menu {p : Page} {menu : SystemMenu} (h : p.Shows (.systemMenu menu))
    (hbelow : menu.control < menu.root) :
    p.tree menu.root = menuTree (p.listenersOn menu.control).length := by
  obtain ⟨hroot, hcontrol⟩ := h
  obtain ⟨depth, hdepth⟩ := Nat.exists_eq_add_of_lt hbelow
  have hnone : p.listenersOn menu.root = [] := by simp [listenersOn, hroot]
  -- the number of the root is the depth that is left for the control
  have hchild : p.treeTo menu.root menu.control
      = .node menuTag logoutText (p.listenersOn menu.control).length [] := by
    rw [hdepth]
    simp [treeTo, hcontrol]
  simp [tree, treeTo, hroot, hnone, hchild, menuTree]

/-- The widgets are all that were ever built on the page, in this order, and
`alive` says which of them were not dropped. -/
structure Inventory (p : Page) (alive : Widget → Prop) (ws : List Widget) : Prop where
  elements : ws.flatMap Widget.elements = List.range p.elements.length
  listeners : ws.flatMap (·.listener?.toList) = List.range p.listenerCount
  shows : ∀ w ∈ ws, p.Shows w
  attached : ∀ w ∈ ws, ∀ l, w.listener? = some l → (l ∈ p.attached ↔ alive w)

namespace Inventory

variable {p : Page} {alive : Widget → Prop} {ws : List Widget} {v w : Widget}

theorem nodup_elements (h : p.Inventory alive ws) : (ws.flatMap Widget.elements).Nodup :=
  h.elements ▸ List.nodup_range

theorem eq_of_root (h : p.Inventory alive ws) (hv : v ∈ ws) (hw : w ∈ ws)
    (hroot : v.root = w.root) : v = w :=
  eq_of_mem_flatMap h.nodup_elements hv hw v.root_mem_elements (hroot ▸ w.root_mem_elements)

theorem eq_of_listener (h : p.Inventory alive ws) (hv : v ∈ ws) (hw : w ∈ ws) {l : Nat}
    (hlv : v.listener? = some l) (hlw : w.listener? = some l) : v = w := by
  have hnodup : (ws.flatMap (·.listener?.toList)).Nodup := h.listeners ▸ List.nodup_range
  exact eq_of_mem_flatMap hnodup hv hw (Option.mem_toList.mpr hlv) (Option.mem_toList.mpr hlw)

theorem known (h : p.Inventory alive ws) (hw : w ∈ ws) {l : Nat} (hl : w.listener? = some l) :
    l < p.listenerCount := by
  have hmem : l ∈ ws.flatMap (·.listener?.toList) :=
    List.mem_flatMap.mpr ⟨w, hw, Option.mem_toList.mpr hl⟩
  rwa [h.listeners, List.mem_range] at hmem

/-- The control of a menu was made before its root. -/
theorem control_lt_root (h : p.Inventory alive ws) {menu : SystemMenu}
    (hmenu : .systemMenu menu ∈ ws) : menu.control < menu.root := by
  have hordered : (ws.flatMap Widget.elements).Pairwise (· < ·) :=
    h.elements ▸ List.pairwise_lt_range
  have hmine := (List.pairwise_flatMap.mp hordered).1 _ hmenu
  simpa [Widget.elements] using hmine

theorem congr (h : p.Inventory alive ws) {q : Page} {alive' : Widget → Prop}
    (hdocument : q.document = p.document) (halive : ∀ w ∈ ws, (alive' w ↔ alive w)) :
    q.Inventory alive' ws := by
  simp only [document, Prod.mk.injEq] at hdocument
  obtain ⟨helements, hattached, hcount⟩ := hdocument
  refine ⟨?_, ?_, fun w hw => ?_, fun w hw l hl => ?_⟩
  · rw [helements, h.elements]
  · rw [hcount, h.listeners]
  · exact (h.shows w hw).mono (helements ▸ List.prefix_refl _)
  · rw [hattached, h.attached w hw l hl, halive w hw]

/-- What is built next was not built before. -/
theorem notMem_built (h : p.Inventory alive ws) (f : Factory) (config : Json) :
    (f.build p config).1 ∉ ws := by
  intro hmem
  have hnodup : (List.range p.elements.length ++ (f.build p config).1.elements).Nodup :=
    (f.allocates p config).1 ▸ List.nodup_range
  have hroot := (f.build p config).1.root_mem_elements
  refine List.disjoint_of_nodup_append hnodup ?_ hroot
  rw [← h.elements]
  exact List.mem_flatMap.mpr ⟨_, hmem, hroot⟩

theorem build (h : p.Inventory alive ws) (f : Factory) (config : Json) :
    (f.build p config).2.Inventory (fun v => alive v ∨ v = (f.build p config).1)
      (ws ++ [(f.build p config).1]) := by
  have hbuilt := f.built p config
  have hnew := h.notMem_built f config
  obtain ⟨helements, hlisteners⟩ := f.allocates p config
  generalize f.build p config = result at hbuilt hnew helements hlisteners ⊢
  obtain ⟨w, q⟩ := result
  refine ⟨?_, ?_, fun v hv => ?_, fun v hv l hl => ?_⟩
  · rw [List.flatMap_append, h.elements, helements, List.flatMap_singleton]
  · rw [List.flatMap_append, h.listeners, hlisteners, List.flatMap_singleton]
  · rcases List.mem_append.mp hv with hv | hv
    · exact (h.shows v hv).mono hbuilt.elements
    · rw [List.mem_singleton.mp hv]
      exact hbuilt.holds.shows
  · rcases List.mem_append.mp hv with hv | hv
    · -- an old listener is not the new widget's
      have hold : w.listener? ≠ some l := fun hlw =>
        Nat.not_le_of_lt (h.known hv hl) (hbuilt.fresh l hlw)
      have hne : v ≠ w := fun heq => hnew (heq ▸ hv)
      rw [hbuilt.attached, h.attached v hv l hl, or_iff_left hold, or_iff_left hne]
    · obtain rfl := List.mem_singleton.mp hv
      exact iff_of_true ((hbuilt.holds.attached l hl).mpr rfl) (Or.inr rfl)

theorem drop (h : p.Inventory alive ws) (hw : w ∈ ws) :
    (w.drop p).Inventory (fun v => alive v ∧ v ≠ w) ws := by
  obtain ⟨helements, hcount, -⟩ := w.drop_frame p
  refine ⟨?_, ?_, fun v hv => ?_, fun v hv l hl => ?_⟩
  · rw [helements, h.elements]
  · rw [hcount, h.listeners]
  · exact (h.shows v hv).mono (helements ▸ List.prefix_refl _)
  · have hsame : w.listener? = some l ↔ v = w :=
      ⟨fun hlw => h.eq_of_listener hv hw hl hlw, fun heq => heq ▸ hl⟩
    rw [Widget.mem_attached_drop, h.attached v hv l hl, Ne, hsame]

/-- A menu has its listener while it is alive, and none afterwards. -/
theorem displays (h : p.Inventory alive ws) {menu : SystemMenu} (hmenu : .systemMenu menu ∈ ws) :
    (alive (.systemMenu menu) → p.Displays menu 1)
      ∧ (¬alive (.systemMenu menu) → p.Displays menu 0) := by
  have hshows := h.shows _ hmenu
  have htree := hshows.tree_menu (h.control_lt_root hmenu)
  have hattached := h.attached _ hmenu menu.listener rfl
  have hlisteners : p.listenersOn menu.control
      = [menu.listener].filter (p.attached.contains ·) := by
    rw [listenersOn, hshows.2]
    rfl
  refine ⟨fun halive => ⟨?_, hshows.root.2⟩, fun hdropped => ⟨?_, hshows.root.2⟩⟩
  · have hmem := hattached.mpr halive
    rw [htree, hlisteners]
    simp [hmem]
  · have hnotMem := mt hattached.mp hdropped
    rw [htree, hlisteners]
    simp [hnotMem]

theorem displays_built (h : p.Inventory alive ws) (f : Factory) (config : Json)
    {menu : SystemMenu} (hmenu : (f.build p config).1 = .systemMenu menu) :
    (f.build p config).2.Displays menu 1 := by
  have hbuilt := h.build f config
  rw [hmenu] at hbuilt
  exact (hbuilt.displays (List.mem_append_right _ (List.mem_singleton_self _))).1 (Or.inr rfl)

/-- Releasing a name drops the widget that is alive under it. -/
theorem release {c : Client} (h : c.page.Inventory alive ws) (name : String)
    (hknown : ∀ w, c.widgetOf name = some w → w ∈ ws) :
    (c.release name).page.Inventory
      (fun v => alive v ∧ c.widgets.get? name ≠ some { widget := v }) ws := by
  unfold Client.release
  split
  · next w hget =>
      refine (h.drop (hknown w (by simp [Client.widgetOf, hget]))).congr rfl fun v _ => ?_
      simp [hget, eq_comm]
  · next hnot =>
      exact h.congr rfl fun v _ => and_iff_left fun hget => hnot v hget

end Inventory

end Page

namespace Client

/-- A widget is alive as long as a name stands for it and it was not dropped. -/
def Alive (c : Client) (w : Widget) : Prop :=
  ∃ name, c.widgets.get? name = some { widget := w }

/-- An action drops a widget: it releases the name under which the widget is alive. -/
def Drops (c : Client) (action : Action) (w : Widget) : Prop :=
  ∃ name, c.released action = some name ∧ c.widgets.get? name = some { widget := w }

/-- The widgets that are built in a run, in this order. -/
def builtBy (c : Client) : List Action → List Widget
  | [] => []
  | action :: rest => (c.built action).toList ++ (c.step action).2.builtBy rest

/-- The widgets are all that were ever built, and no two names stand for the same. -/
structure Inventory (c : Client) (ws : List Widget) : Prop where
  page : c.page.Inventory c.Alive ws
  known : ∀ {name w}, c.widgetOf name = some w → w ∈ ws
  apart : ∀ {name name' w}, c.widgetOf name = some w → c.widgetOf name' = some w → name = name'

section

variable {c d : Client} {ws : List Widget} {v w : Widget} {name : String}

theorem widgetOf_of_get? {kept : KeptWidget} (hget : c.widgets.get? name = some kept) :
    c.widgetOf name = some kept.widget := by
  rw [widgetOf, hget]
  rfl

theorem get?_release (c : Client) (name other : String) :
    (c.release name).widgets.get? other
      = if other = name then (c.widgets.get? name).map ({ · with alive := false })
        else c.widgets.get? other := by
  unfold release
  split
  · next w hget => rw [Table.get?_insert, hget, Option.map_some]
  · next hnot =>
      split
      · next heq =>
          subst heq
          cases hget : c.widgets.get? other with
          | none => rfl
          | some kept =>
              obtain ⟨w, alive⟩ := kept
              cases alive with
              | true => exact absurd hget (hnot w)
              | false => rfl
      · rfl

theorem get?_release_self (c : Client) (name : String) (w : Widget) :
    (c.release name).widgets.get? name ≠ some { widget := w } := by
  rw [get?_release, if_pos rfl]
  intro hget
  obtain ⟨kept, -, hkept⟩ := Option.map_eq_some_iff.mp hget
  cases hkept

theorem elements_release (c : Client) (name : String) :
    (c.release name).page.elements = c.page.elements := by
  rcases c.release_cases name with ⟨w, -, hrelease⟩ | hrelease
  · rw [hrelease]
    exact (w.drop_frame c.page).1
  · rw [hrelease]

theorem Inventory.mem_of_alive (h : c.Inventory ws) (halive : c.Alive w) : w ∈ ws := by
  obtain ⟨name, hget⟩ := halive
  exact h.known (widgetOf_of_get? hget)

/-- Only the widget of the name is dropped, because no other name stands for it. -/
theorem alive_release
    (hapart : ∀ {name name' w}, c.widgetOf name = some w → c.widgetOf name' = some w → name = name')
    (name : String) (v : Widget) :
    (c.release name).Alive v ↔ c.Alive v ∧ c.widgets.get? name ≠ some { widget := v } := by
  constructor
  · rintro ⟨other, hother⟩
    have hne : other ≠ name := by
      rintro rfl
      exact c.get?_release_self other v hother
    rw [get?_release, if_neg hne] at hother
    refine ⟨⟨other, hother⟩, fun hname => hne ?_⟩
    exact hapart (widgetOf_of_get? hother) (widgetOf_of_get? hname)
  · rintro ⟨⟨other, hother⟩, hname⟩
    have hne : other ≠ name := by
      rintro rfl
      exact hname hother
    exact ⟨other, by rw [get?_release, if_neg hne, hother]⟩

theorem alive_keep (c : Client) (name : String) (v w : Widget) :
    (c.keep name w).Alive v ↔ (c.release name).Alive v ∨ v = w := by
  simp only [Alive, keep, Table.get?_insert]
  constructor
  · rintro ⟨other, hother⟩
    split at hother
    · cases hother
      exact Or.inr rfl
    · exact Or.inl ⟨other, hother⟩
  · rintro (⟨other, hother⟩ | rfl)
    · have hne : other ≠ name := by
        rintro rfl
        exact c.get?_release_self other v hother
      exact ⟨other, by rw [if_neg hne, hother]⟩
    · exact ⟨name, if_pos rfl⟩

theorem alive_congr (hwidgets : d.widgets = c.widgets) (v : Widget) : d.Alive v ↔ c.Alive v := by
  rw [Alive, hwidgets, Alive]

/-! ## One action -/

namespace Changes

variable {released : Option String} {built : Option Widget}

/-- A widget is alive after an action if it was alive and its name was not
released, or if it was built to be kept. -/
theorem alive (hchanges : c.Changes d released built) (h : c.Inventory ws) (v : Widget) :
    d.Alive v
      ↔ (c.Alive v ∧ ∀ name, released = some name → c.widgets.get? name ≠ some { widget := v })
        ∨ (released.isSome ∧ built = some v) := by
  cases hchanges with
  | nothing hview => simpa using alive_congr (congrArg Prod.snd hview) v
  | release name hview =>
      rw [alive_congr (congrArg Prod.snd hview), alive_release h.apart]
      simp
  | preview f hview =>
      have hsame : d.Alive v ↔ c.Alive v := alive_congr (congrArg Prod.snd hview) v
      simpa using hsame
  | keep f config name hview =>
      have hsame : d.Alive v ↔ (c.Alive v ∧ c.widgets.get? name ≠ some { widget := v })
          ∨ v = (f.build c.page config).1 := by
        have hreleased := alive_release (c := { c with page := (f.build c.page config).2 })
          h.apart name v
        rw [alive_congr (congrArg Prod.snd hview), alive_keep, hreleased]
        rfl
      rw [hsame]
      simp [eq_comm]

/-- A name stands for the widget that it stood for, or it was released and stands
for the widget that was built. -/
theorem widgetOf_cases (hchanges : c.Changes d released built) (name : String) :
    d.widgetOf name = c.widgetOf name
      ∨ (released = some name ∧ built.isSome ∧ d.widgetOf name = built) := by
  cases hchanges with
  | nothing hview => exact Or.inl (widgetOf_congr hview name)
  | release other hview =>
      exact Or.inl ((widgetOf_congr hview name).trans (c.widgetOf_release other name))
  | preview f hview => exact Or.inl (widgetOf_congr hview name)
  | keep f config other hview =>
      rw [widgetOf_congr hview, widgetOf_keep]
      split
      · next heq => exact Or.inr ⟨congrArg some heq.symm, rfl, rfl⟩
      · exact Or.inl rfl

/-- A widget that is built is a new one. -/
theorem notMem (hchanges : c.Changes d released built) (h : c.Inventory ws) :
    ∀ w, built = some w → w ∉ ws := by
  rintro w rfl
  cases hchanges with
  | preview f hview => exact h.page.notMem_built f .null
  | keep f config name hview => exact h.page.notMem_built f config

theorem page (hchanges : c.Changes d released built) (h : c.Inventory ws) :
    d.page.Inventory d.Alive (ws ++ built.toList) := by
  have halive := hchanges.alive h
  have hnotMem := hchanges.notMem h
  cases hchanges with
  | nothing hview =>
      rw [Option.toList_none, List.append_nil]
      exact h.page.congr (congrArg Prod.fst hview) fun v _ => by simpa using halive v
  | release name hview =>
      rw [Option.toList_none, List.append_nil]
      have hreleased := h.page.release name fun w => h.known
      exact hreleased.congr (congrArg Prod.fst hview) fun v _ => by simpa using halive v
  | preview f hview =>
      have hlast : (f.build c.page .null).1 ∈ ws ++ [(f.build c.page .null).1] := by simp
      have hshown := (h.page.build f .null).drop hlast
      refine hshown.congr (congrArg Prod.fst hview) fun v _ => ?_
      have hold : c.Alive v → v ≠ (f.build c.page .null).1 := by
        rintro hv rfl
        exact hnotMem _ rfl (h.mem_of_alive hv)
      have hv : d.Alive v ↔ c.Alive v := by simpa using halive v
      rw [hv, or_and_right, and_iff_left_of_imp hold]
      simp
  | keep f config name hview =>
      -- the widget is on the page before the name is released
      have hkept := (h.page.build f config).release
        (c := { c with page := (f.build c.page config).2 })
        name fun w hw => List.mem_append_left _ (h.known hw)
      refine hkept.congr (congrArg Prod.fst hview) fun v _ => ?_
      have hnew : v = (f.build c.page config).1 → c.widgets.get? name ≠ some { widget := v } := by
        rintro rfl hget
        exact hnotMem _ rfl (h.known (widgetOf_of_get? hget))
      have hv : d.Alive v ↔ (c.Alive v ∧ c.widgets.get? name ≠ some { widget := v })
          ∨ v = (f.build c.page config).1 := by
        simpa [eq_comm] using halive v
      rw [hv, or_and_right, and_iff_left_of_imp hnew]

theorem inventory (hchanges : c.Changes d released built) (h : c.Inventory ws) :
    d.Inventory (ws ++ built.toList) := by
  have hnotMem := hchanges.notMem h
  refine ⟨hchanges.page h, fun {name w} hname => ?_, fun {name name' w} hname hname' => ?_⟩
  · rcases hchanges.widgetOf_cases name with hold | ⟨-, -, hnew⟩
    · exact List.mem_append_left _ (h.known (hold ▸ hname))
    · exact List.mem_append_right _ (Option.mem_toList.mpr (hnew ▸ hname))
  · rcases hchanges.widgetOf_cases name with hold | ⟨hreleased, -, hnew⟩
      <;> rcases hchanges.widgetOf_cases name' with hold' | ⟨hreleased', -, hnew'⟩
    · exact h.apart (hold ▸ hname) (hold' ▸ hname')
    · exact absurd (h.known (hold ▸ hname)) (hnotMem w (hnew' ▸ hname'))
    · exact absurd (h.known (hold' ▸ hname')) (hnotMem w (hnew ▸ hname))
    · exact Option.some.inj (hreleased.symm.trans hreleased')

/-- Elements stay on the page, and stay what they are. -/
theorem elements (hchanges : c.Changes d released built) :
    c.page.elements <+: d.page.elements := by
  have hdocument : ∀ {e : Client}, d.view = e.view → d.page.elements = e.page.elements :=
    fun hview => congrArg (·.1.1) hview
  cases hchanges with
  | nothing hview => exact hdocument hview ▸ List.prefix_refl _
  | release name hview =>
      exact ((hdocument hview).trans (elements_release ..)) ▸ List.prefix_refl _
  | preview f hview =>
      have hshown : d.page.elements = (f.build c.page .null).2.elements :=
        (hdocument hview).trans (Widget.drop_frame ..).1
      rw [hshown]
      exact (f.built c.page .null).elements
  | keep f config name hview =>
      have hkept : d.page.elements = (f.build c.page config).2.elements :=
        (hdocument hview).trans (elements_release ..)
      rw [hkept]
      exact (f.built c.page config).elements

end Changes

/-- An action that builds a widget shows it. -/
theorem answer_of_built {action : Action} (hbuilt : c.built action = some w) :
    ∃ (f : Factory) (config : Json) (answer : Answer), (f.build c.page config).1 = w
      ∧ (c.step action).1.result = .ok answer
      ∧ answer.tree? = some ((f.build c.page config).2.tree w.root) := by
  cases action with
  | set key f =>
      obtain ⟨previous, hget, rfl⟩ := Option.map_eq_some_iff.mp hbuilt
      refine ⟨previous, .null, _, rfl, rfl, ?_⟩
      simp only [Registry.set, hget]
      rfl
  | get key =>
      obtain ⟨f, hget, rfl⟩ := Option.map_eq_some_iff.mp hbuilt
      refine ⟨f, .null, .tree (c.preview f).1, rfl, ?_, rfl⟩
      simp only [Client.step, perform, hget, answered]
  | create key config name =>
      obtain ⟨f, hget, rfl⟩ := Option.map_eq_some_iff.mp hbuilt
      refine ⟨f, config, .tree _, rfl, ?_, rfl⟩
      simp only [Client.step, perform, Registry.find, hget, answered]
  | createMenu config name =>
      obtain rfl := Option.some.inj hbuilt
      exact ⟨.systemMenu, config, _, rfl, rfl, rfl⟩
  | _ => cases hbuilt

namespace Inventory

theorem step (h : c.Inventory ws) (action : Action) :
    (c.step action).2.Inventory (ws ++ (c.built action).toList) :=
  (c.changes_step action).inventory h

/-- A widget stays alive until its name is released. -/
theorem alive_step (h : c.Inventory ws) (hw : w ∈ ws) (action : Action) :
    (c.step action).2.Alive w ↔ c.Alive w ∧ ¬c.Drops action w := by
  have hold : ¬((c.released action).isSome ∧ c.built action = some w) := fun hbuilt =>
    (c.changes_step action).notMem h w hbuilt.2 hw
  rw [(c.changes_step action).alive h, or_iff_left hold]
  simp [Drops]

/-- A widget that is built under a name is alive; one that is built to be shown is not. -/
theorem alive_built (h : c.Inventory ws) {action : Action} (hbuilt : c.built action = some w) :
    (c.step action).2.Alive w ↔ (c.released action).isSome := by
  have hnew : ¬c.Alive w := fun halive =>
    (c.changes_step action).notMem h w hbuilt (h.mem_of_alive halive)
  rw [(c.changes_step action).alive h]
  simp [hnew, hbuilt]

/-- An action that does not drop a widget leaves it its look. -/
theorem tree_step (h : c.Inventory ws) (hw : w ∈ ws) {action : Action}
    (hdrops : ¬c.Drops action w) :
    (c.step action).2.page.tree w.root = c.page.tree w.root := by
  have hstep := h.step action
  have hw' : w ∈ ws ++ (c.built action).toList := List.mem_append_left _ hw
  have halive : (c.step action).2.Alive w ↔ c.Alive w :=
    (h.alive_step hw action).trans (and_iff_left hdrops)
  cases w with
  | systemMenu menu =>
      by_cases hnow : c.Alive (.systemMenu menu)
      · have hafter := (hstep.page.displays hw').1 (halive.mpr hnow)
        exact hafter.1.trans ((h.page.displays hw).1 hnow).1.symm
      · have hafter := (hstep.page.displays hw').2 (mt halive.mp hnow)
        exact hafter.1.trans ((h.page.displays hw).2 hnow).1.symm
  | placeholder root =>
      obtain ⟨text, hroot⟩ := h.page.shows _ hw
      obtain ⟨more, hmore⟩ := (c.changes_step action).elements
      have hafter : (c.step action).2.page.elements[root]?
          = some ⟨placeholderTag, text, [], []⟩ := by
        rw [← hmore, List.getElem?_append_left (List.getElem?_eq_some_iff.mp hroot).1, hroot]
      simp [Widget.root, Page.tree, Page.treeTo, Page.listenersOn, hroot, hafter]

/-- The first child of a new menu is its control. -/
theorem result_createMenu (h : c.Inventory ws) (config : Json) (name : String) :
    (c.step (.createMenu config name)).1.result = .ok (.menu (menuTree 1) config true) := by
  let menu := (SystemMenu.create c.page config).1
  let page := (SystemMenu.create c.page config).2
  have hresult : (c.step (.createMenu config name)).1.result
      = .ok (.menu (page.tree menu.root) config
        ((page.childrenOf menu.root).head? == some menu.control)) := rfl
  obtain ⟨htree, hchildren⟩ : page.Displays menu 1 :=
    h.page.displays_built .systemMenu config rfl
  rw [hresult, htree, hchildren, List.head?_cons, beq_self_eq_true]

theorem result_sameRoot (h : c.Inventory ws) {other : String} (hname : c.widgetOf name = some v)
    (hother : c.widgetOf other = some w) :
    (c.step (.sameRoot name other)).1.result = .ok (.flag (name = other)) := by
  obtain ⟨kept, hget, rfl⟩ := Option.map_eq_some_iff.mp hname
  obtain ⟨kept', hget', rfl⟩ := Option.map_eq_some_iff.mp hother
  have hroots : (kept.widget.root == kept'.widget.root) = decide (name = other) := by
    rw [Bool.beq_eq_decide_eq, decide_eq_decide]
    constructor
    · intro hroot
      have hsame := h.page.eq_of_root (h.known hname) (h.known hother) hroot
      exact h.apart hname (hsame ▸ hother)
    · rintro rfl
      rw [hget] at hget'
      cases hget'
      rfl
  simp only [Client.step, perform, named_of_some hget, named_of_some hget', bind, Except.bind,
    answered, hroots]

/-! ## Runs -/

theorem runAll (h : c.Inventory ws) (actions : List Action) :
    (c.runAll actions).2.Inventory (ws ++ c.builtBy actions) := by
  induction actions generalizing c ws with
  | nil =>
      rw [builtBy, List.append_nil]
      exact h
  | cons action rest ih =>
      have hrest := ih (h.step action)
      rw [List.append_assoc] at hrest
      exact hrest

/-- A widget that was dropped is never alive again. -/
theorem not_alive_runAll (h : c.Inventory ws) (hw : w ∈ ws) (hdropped : ¬c.Alive w)
    (more : List Action) : ¬(c.runAll more).2.Alive w := by
  induction more generalizing c ws with
  | nil => exact hdropped
  | cons action rest ih =>
      refine ih (h.step action) (List.mem_append_left _ hw) fun halive => hdropped ?_
      exact ((h.alive_step hw action).mp halive).1

theorem empty : Inventory {} [] := by
  refine ⟨⟨rfl, rfl, nofun, nofun⟩, ?_, ?_⟩
  · intro name w hget
    simp [widgetOf] at hget
  · intro name name' w hget
    simp [widgetOf] at hget

end Inventory

end

/-- **Menus keep their shape.** After any run every element of the page belongs
to exactly one of the widgets that were built in it. A menu is seen as it was
made, with one listener on its control while it is alive; once it is dropped
there is none, whatever happens afterwards. An action drops no widget but the
one whose name it releases, and changes the look of no other. An action that
builds a menu shows it with its listener, also if it drops it at once. Two names
stand for different roots, and a name keeps its root until another widget is put
under it. -/
theorem menus_keep_their_shape (actions : List Action) :
    let c := (runAll {} actions).2
    let widgets := builtBy {} actions
    ((widgets.flatMap Widget.elements).Nodup
        ∧ (∀ x, x ∈ widgets.flatMap Widget.elements ↔ x < c.page.elements.length)
        ∧ ∀ name w, c.widgetOf name = some w → w ∈ widgets)
      ∧ (∀ menu, .systemMenu menu ∈ widgets →
        (c.Alive (.systemMenu menu) → c.page.Displays menu 1)
        ∧ (¬c.Alive (.systemMenu menu) → ∀ more,
          let d := (c.runAll more).2
          ¬d.Alive (.systemMenu menu) ∧ d.page.Displays menu 0))
      ∧ (∀ w ∈ widgets, ∀ action,
        let d := (c.step action).2
        (d.Alive w ↔ c.Alive w ∧ ¬c.Drops action w)
        ∧ (¬c.Drops action w → d.page.tree w.root = c.page.tree w.root))
      ∧ (∀ action menu, c.built action = some (.systemMenu menu) →
        (∃ answer, (c.step action).1.result = .ok answer ∧ answer.tree? = some (menuTree 1))
        ∧ ((c.step action).2.Alive (.systemMenu menu) ↔ (c.released action).isSome))
      ∧ (∀ config name,
        (c.step (.createMenu config name)).1.result = .ok (.menu (menuTree 1) config true))
      ∧ (∀ name other v w, c.widgetOf name = some v → c.widgetOf other = some w →
        (c.step (.sameRoot name other)).1.result = .ok (.flag (name = other)))
      ∧ ∀ name more, (∀ action ∈ more, action.puts? ≠ some name) →
        (c.runAll more).2.widgetOf name = c.widgetOf name := by
  intro c widgets
  have h : c.Inventory widgets := Inventory.empty.runAll actions
  refine ⟨⟨h.page.nodup_elements, fun x => ?_, fun name w => h.known⟩, fun menu hmenu => ?_,
    fun w hw action => ?_, fun action menu hbuilt => ?_, h.result_createMenu,
    fun name other v w => h.result_sameRoot, fun name more => widgetOf_runAll⟩
  · rw [h.page.elements, List.mem_range]
  · refine ⟨(h.page.displays hmenu).1, fun hdropped more => ?_⟩
    have hlater := h.not_alive_runAll hmenu hdropped more
    have hstill := (h.runAll more).page.displays (List.mem_append_left _ hmenu)
    exact ⟨hlater, hstill.2 hlater⟩
  · exact ⟨h.alive_step hw action, h.tree_step hw⟩
  · obtain ⟨f, config, answer, hwidget, hresult, htree⟩ := answer_of_built hbuilt
    have hshown := h.page.displays_built f config hwidget
    exact ⟨⟨answer, hresult, htree.trans (congrArg some hshown.1)⟩, h.alive_built hbuilt⟩

/-- Two menus, one of which is dropped: it has lost its listener for good, and the
other one has its own. -/
theorem menus_keep_their_shape_dropped :
    let actions := [.createMenu .null "menu", .createMenu .null "other", .drop "menu"]
    let c := (runAll {} actions).2
    let menu : SystemMenu := { root := 1, control := 0, listener := 0, config := .null }
    let other : SystemMenu := { root := 3, control := 2, listener := 1, config := .null }
    c.page.Displays other 1 ∧ ∀ more, (c.runAll more).2.page.Displays menu 0 := by
  intro actions c menu other
  have hbuilt : builtBy {} actions = [.systemMenu menu, .systemMenu other] := rfl
  obtain ⟨-, -, haction, -⟩ := menus_keep_their_shape (actions.take 2)
  obtain ⟨-, hmenus, -⟩ := menus_keep_their_shape actions
  have hdropped : ¬c.Alive (.systemMenu menu) := by
    intro halive
    obtain ⟨hkept, -⟩ := haction (.systemMenu menu) (List.mem_cons_self ..) (.drop "menu")
    exact (hkept.mp halive).2 ⟨"menu", rfl, rfl⟩
  have halive : c.Alive (.systemMenu other) := ⟨"other", rfl⟩
  refine ⟨(hmenus other (by simp [hbuilt])).1 halive, fun more => ?_⟩
  exact ((hmenus menu (by simp [hbuilt])).2 hdropped more).2

end Client

end MenuHost.Menu
