import MenuHost.Proofs.Menu.EventLoop

/-!
# Widgets and their listeners

Who holds which listener. A click reaches the listeners that are attached
to an element, so this decides which clicks start a task. `Client.Kept`
says that every widget of a client has its elements on the page as they
were made, that its listener is attached as long as the widget is alive,
and that no other widget holds it.

Building a widget, releasing a name and keeping a widget under a name
leave this as it is. That no action does anything else to widgets is not
said here; it needs the actions one by one.
-/

namespace MenuHost.Menu

/-! ## One widget -/

namespace Widget

def listener? : Widget → Option Nat
  | systemMenu menu => some menu.listener
  | placeholder _ => none

def control? : Widget → Option Nat
  | systemMenu menu => some menu.control
  | placeholder _ => none

/-- Dropping a widget detaches its listener and changes nothing else. -/
theorem drop_eq (w : Widget) (p : Page) :
    w.drop p = { p with attached := p.attached.filter (w.listener? ≠ some ·) } := by
  cases w with
  | systemMenu menu => simp [drop, Page.detach, listener?, eq_comm]
  | placeholder root => simp [drop, listener?]

theorem mem_attached_drop {w : Widget} {p : Page} {l : Nat} :
    l ∈ (w.drop p).attached ↔ l ∈ p.attached ∧ w.listener? ≠ some l := by
  simp [drop_eq]

theorem drop_frame (w : Widget) (p : Page) :
    (w.drop p).elements = p.elements ∧ (w.drop p).listenerCount = p.listenerCount
      ∧ (w.drop p).loop = p.loop := by
  rw [drop_eq]
  exact ⟨rfl, rfl, rfl⟩

end Widget

namespace Page

def document (p : Page) : List Element × List Nat × Nat :=
  (p.elements, p.attached, p.listenerCount)

theorem document_run (p : Page) : p.run.1.document = p.document := by
  cases h : p.holding with
  | true => rw [(run_of_holding h).1, document, document]
  | false => rw [(run_of_not_holding h).1, document, document]

/-- The elements of a widget are on the page as they were made. -/
def Shows (p : Page) : Widget → Prop
  | .systemMenu menu =>
    p.elements[menu.root]? = some ⟨menuTag, rootText, [], [menu.control]⟩
      ∧ p.elements[menu.control]? = some ⟨menuTag, logoutText, [menu.listener], []⟩
  | .placeholder root => ∃ text, p.elements[root]? = some ⟨placeholderTag, text, [], []⟩

namespace Shows

variable {p q : Page} {w : Widget}

theorem mono (h : p.Shows w) (hgrown : p.elements <+: q.elements) : q.Shows w := by
  have hstays : ∀ {i : Nat} {e : Element}, p.elements[i]? = some e → q.elements[i]? = some e := by
    obtain ⟨more, hmore⟩ := hgrown
    intro i e hget
    rw [← hmore, List.getElem?_append_left (List.getElem?_eq_some_iff.mp hget).1, hget]
  cases w with
  | systemMenu menu => exact ⟨hstays h.1, hstays h.2⟩
  | placeholder root =>
      obtain ⟨text, hget⟩ := h
      exact ⟨text, hstays hget⟩

/-- The root of a widget has no listener, and the control is its only child. -/
theorem root (h : p.Shows w) :
    p.listenersOn w.root = [] ∧ p.childrenOf w.root = w.control?.toList := by
  cases w with
  | systemMenu menu => simp [listenersOn, childrenOf, Widget.root, Widget.control?, h.1]
  | placeholder root =>
      obtain ⟨text, hroot⟩ := h
      simp [listenersOn, childrenOf, Widget.root, Widget.control?, hroot]

end Shows

/-- A widget is kept on the page: it is shown, and its listener is attached as
long as it is alive. -/
structure Holds (p : Page) (kept : KeptWidget) : Prop where
  shows : p.Shows kept.widget
  known : ∀ l, kept.widget.listener? = some l → l < p.listenerCount
  attached : ∀ l, kept.widget.listener? = some l → (l ∈ p.attached ↔ kept.alive = true)

namespace Holds

variable {p q : Page} {kept : KeptWidget}

theorem mono (h : p.Holds kept) (helements : p.elements <+: q.elements)
    (hcount : p.listenerCount ≤ q.listenerCount)
    (hattached : ∀ l, kept.widget.listener? = some l → (l ∈ q.attached ↔ l ∈ p.attached)) :
    q.Holds kept :=
  ⟨h.shows.mono helements, fun l hl => Nat.lt_of_lt_of_le (h.known l hl) hcount,
    fun l hl => (hattached l hl).trans (h.attached l hl)⟩

/-- Dropping a widget leaves those alone that have another listener. -/
theorem drop (h : p.Holds kept) {w : Widget}
    (hapart : ∀ l, kept.widget.listener? = some l → w.listener? ≠ some l) :
    (w.drop p).Holds kept := by
  obtain ⟨helements, hcount, -⟩ := w.drop_frame p
  refine h.mono (helements ▸ List.prefix_refl _) (Nat.le_of_eq hcount.symm) fun l hl => ?_
  rw [Widget.mem_attached_drop]
  exact and_iff_left (hapart l hl)

theorem drop_self {w : Widget} (h : p.Holds { widget := w }) :
    (w.drop p).Holds { widget := w, alive := false } := by
  obtain ⟨helements, hcount, -⟩ := w.drop_frame p
  refine ⟨h.shows.mono (helements ▸ List.prefix_refl _), fun l hl => hcount ▸ h.known l hl,
    fun l hl => ?_⟩
  rw [Widget.mem_attached_drop]
  exact iff_of_false (fun hmem => hmem.2 hl) nofun

/-- The control of a system menu has one listener, until the widget is dropped. -/
theorem listenersOn_control {menu : SystemMenu} {alive : Bool}
    (h : p.Holds { widget := .systemMenu menu, alive }) :
    p.listenersOn menu.control = if alive then [menu.listener] else [] := by
  have hattached := h.attached menu.listener rfl
  simp only [listenersOn, h.shows.2]
  cases alive <;> simp_all

end Holds

/-- One page comes from another by building a widget: elements are added, and
the widget's listener is new. -/
structure Built (p : Page) (w : Widget) (q : Page) : Prop where
  holds : q.Holds { widget := w }
  fresh : ∀ l, w.listener? = some l → p.listenerCount ≤ l
  elements : p.elements <+: q.elements
  attached : ∀ l, l ∈ q.attached ↔ l ∈ p.attached ∨ w.listener? = some l
  listenerCount : p.listenerCount ≤ q.listenerCount
  loop : q.loop = p.loop

end Page

theorem SystemMenu.create_eq (p : Page) (config : Json) :
    create p config = (⟨p.elements.length + 1, p.elements.length, p.listenerCount, config⟩,
      { p with
        elements := p.elements ++ [⟨menuTag, logoutText, [p.listenerCount], []⟩,
          ⟨menuTag, rootText, [], [p.elements.length]⟩]
        attached := p.listenerCount :: p.attached
        listenerCount := p.listenerCount + 1 }) := by
  simp [create, Page.createElement, Page.listen, List.modify_eq_take_drop]

theorem Factory.built (f : Factory) (p : Page) (config : Json) :
    p.Built (f.build p config).1 (f.build p config).2 := by
  cases f with
  | systemMenu =>
      simp only [build, SystemMenu.create_eq]
      refine ⟨⟨?_, ?_, ?_⟩, ?_, List.prefix_append .., ?_, Nat.le_succ _, rfl⟩
      · simp [Page.Shows]
      · simp [Widget.listener?]
      · simp [Widget.listener?]
      · simp [Widget.listener?]
      · simp [Widget.listener?, or_comm, eq_comm]
  | placeholder text =>
      refine ⟨⟨?_, nofun, nofun⟩, nofun, List.prefix_append .., ?_, Nat.le_refl _, rfl⟩
      · simp [build, Page.createElement, Page.Shows]
      · simp [build, Page.createElement, Widget.listener?]

namespace Client

/-! ## The widgets of a client -/

/-- Every widget of a client is kept on the page, and has its own listener. -/
structure Kept (c : Client) : Prop where
  holds : ∀ {name kept}, c.widgets.get? name = some kept → c.page.Holds kept
  apart : ∀ {name name' kept kept' l}, c.widgets.get? name = some kept →
    c.widgets.get? name' = some kept' → kept.widget.listener? = some l →
    kept'.widget.listener? = some l → name = name'

/-- A widget that is on the page and that no name stands for yet: no widget of
the client holds its listener. -/
structure Admits (c : Client) (w : Widget) : Prop where
  holds : c.page.Holds { widget := w }
  apart : ∀ {name kept l}, c.widgets.get? name = some kept → kept.widget.listener? = some l →
    w.listener? ≠ some l

theorem release_cases (c : Client) (name : String) :
    (∃ widget, c.widgets.get? name = some { widget }
        ∧ c.release name = { c with
          page := widget.drop c.page
          widgets := c.widgets.insert name { widget, alive := false } })
      ∨ c.release name = c := by
  unfold release
  split
  · next widget hget => exact Or.inl ⟨widget, hget, rfl⟩
  · exact Or.inr rfl

/-- Releasing a name asks nothing of the event loop, and every widget stays known. -/
theorem release_frame (c : Client) (name : String) :
    (c.release name).page.loop = c.page.loop ∧ (c.release name).history = c.history
      ∧ ∀ {name' kept'}, (c.release name).widgets.get? name' = some kept' →
        ∃ kept, c.widgets.get? name' = some kept ∧ kept.widget = kept'.widget := by
  rcases c.release_cases name with ⟨widget, hget, hrelease⟩ | hrelease
  · rw [hrelease]
    refine ⟨(widget.drop_frame c.page).2.2, rfl, fun {name' kept'} hget' => ?_⟩
    simp only [Table.get?_insert] at hget'
    split at hget'
    · next heq =>
        cases hget'
        exact ⟨{ widget }, heq ▸ hget, rfl⟩
    · exact ⟨kept', hget', rfl⟩
  · rw [hrelease]
    exact ⟨rfl, rfl, fun {name' kept'} hget' => ⟨kept', hget', rfl⟩⟩

namespace Kept

variable {c d : Client}

/-- Only document and widgets matter. -/
theorem congr (h : c.Kept) (hdocument : d.page.document = c.page.document)
    (hwidgets : d.widgets = c.widgets) : d.Kept := by
  simp only [Page.document, Prod.mk.injEq] at hdocument
  obtain ⟨helements, hattached, hcount⟩ := hdocument
  refine ⟨fun hget => ?_, fun hget hget' => h.apart (hwidgets ▸ hget) (hwidgets ▸ hget')⟩
  exact (h.holds (hwidgets ▸ hget)).mono (helements ▸ List.prefix_refl _) (Nat.le_of_eq hcount.symm)
    fun l _ => hattached ▸ Iff.rfl

theorem ne_of_built (h : c.Kept) {w : Widget} {q : Page} (hbuilt : c.page.Built w q)
    {name : String} {kept : KeptWidget} (hget : c.widgets.get? name = some kept) {l : Nat}
    (hl : kept.widget.listener? = some l) : w.listener? ≠ some l := fun hnew =>
  Nat.not_le_of_lt ((h.holds hget).known l hl) (hbuilt.fresh l hnew)

theorem built (h : c.Kept) {w : Widget} {q : Page} (hbuilt : c.page.Built w q) :
    Kept { c with page := q } := by
  refine ⟨fun hget => (h.holds hget).mono hbuilt.elements hbuilt.listenerCount fun l hl => ?_,
    h.apart⟩
  rw [hbuilt.attached]
  exact or_iff_left (h.ne_of_built hbuilt hget hl)

/-- A widget that is dropped at once leaves no trace. -/
theorem preview (h : c.Kept) {w : Widget} {q : Page} (hbuilt : c.page.Built w q) :
    Kept { c with page := w.drop q } :=
  ⟨fun hget => ((h.built hbuilt).holds hget).drop fun _ hl => h.ne_of_built hbuilt hget hl, h.apart⟩

theorem release (h : c.Kept) (name : String) : (c.release name).Kept := by
  obtain ⟨-, -, hwidgets⟩ := c.release_frame name
  constructor
  · intro name' kept' hget'
    rcases c.release_cases name with ⟨widget, hget, hrelease⟩ | hrelease
    · rw [hrelease] at hget' ⊢
      simp only [Table.get?_insert] at hget'
      split at hget'
      · cases hget'
        exact (h.holds hget).drop_self
      · next hne =>
          -- the dropped listener is that of the released name only
          exact (h.holds hget').drop fun l hl hsame => hne (h.apart hget' hget hl hsame)
    · rw [hrelease] at hget' ⊢
      exact h.holds hget'
  · intro name' name'' kept' kept'' l hget' hget'' hl hl'
    obtain ⟨first, hfirst, hwidget⟩ := hwidgets hget'
    obtain ⟨second, hsecond, hwidget'⟩ := hwidgets hget''
    exact h.apart hfirst hsecond (hwidget ▸ hl) (hwidget' ▸ hl')

/-- A widget is kept beside the others, or instead of one of them. -/
theorem insert (h : c.Kept) {w : Widget} (hw : c.Admits w) (name : String) :
    Kept { c with widgets := c.widgets.insert name { widget := w } } := by
  constructor
  · intro name' kept' hget'
    simp only [Table.get?_insert] at hget'
    split at hget'
    · cases hget'
      exact hw.holds
    · exact h.holds hget'
  · intro name' name'' kept' kept'' l hget' hget'' hl hl'
    simp only [Table.get?_insert] at hget' hget''
    split at hget' <;> split at hget''
    · next heq heq' => exact heq.trans heq'.symm
    · cases hget'
      exact absurd hl (hw.apart hget'' hl')
    · cases hget''
      exact absurd hl' (hw.apart hget' hl)
    · exact h.apart hget' hget'' hl hl'

theorem keep (h : c.Kept) {w : Widget} (hw : c.Admits w) (name : String) :
    (c.keep name w).Kept := by
  refine (h.release name).insert ⟨?_, fun hget' hl => ?_⟩ name
  · rcases c.release_cases name with ⟨widget, hget, hrelease⟩ | hrelease
    · rw [hrelease]
      exact hw.holds.drop fun l hl hsame => hw.apart hget hsame hl
    · rw [hrelease]
      exact hw.holds
  · obtain ⟨kept, hget, hwidget⟩ := (c.release_frame name).2.2 hget'
    exact hw.apart hget (hwidget ▸ hl)

end Kept

end Client

end MenuHost.Menu
