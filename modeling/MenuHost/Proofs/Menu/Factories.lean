import MenuHost.Proofs.Menu.Deliveries
import MenuHost.Proofs.Menu.Inventory
import MenuHost.Proofs.Menu.Recast

/-!
# Factories and the widgets that they made

A registry is a map in which the last factory of a key counts. What the keys were
set to is a list, and the registry after it answers every question from this
list alone (`Registry.LastWins`): only the last factory of a key is left, and a
key is known as soon as it was set once. This holds of factories of any kind,
because a registry never looks into them.

A client has a registry among other things. Two of its actions set a key, all
others leave the registry as it is (`registered_eq`), so the list is read off a
run, and what the actions on the registry answer follows from it
(`Client.Obeys`). To answer, the client builds a widget and drops it again, which
leaves its mark on the page: that a widget already there is not affected needs
the inventory of the page (`Client.Spares`). The other way round, whoever asks
for no factory cannot tell registries apart (`runAll_withRegistry`).
-/

namespace MenuHost.Menu

/-! ## Registries -/

namespace Registry

variable {φ : Type}

/-- The factory that a key was last set to. -/
def lastSet? (sets : List (String × φ)) (key : String) : Option φ :=
  ((sets.filter (·.1 = key)).map Prod.snd).getLast?

/-- The registry after keys were set, one after the other. -/
def ofSets (sets : List (String × φ)) : Registry φ :=
  sets.foldl (fun r s => (r.set s.1 s.2).2) empty

theorem lastSet?_append_singleton (sets : List (String × φ)) (s : String × φ) (key : String) :
    lastSet? (sets ++ [s]) key = if key = s.1 then some s.2 else lastSet? sets key := by
  by_cases hkey : key = s.1
  · simp [lastSet?, hkey]
  · simp [lastSet?, hkey, Ne.symm hkey]

theorem isSome_lastSet? {sets : List (String × φ)} {key : String} :
    (lastSet? sets key).isSome ↔ key ∈ sets.map Prod.fst := by
  simp [lastSet?]

theorem lastSet?_eq_none_iff {sets : List (String × φ)} {key : String} :
    lastSet? sets key = none ↔ key ∉ sets.map Prod.fst := by
  rw [← isSome_lastSet?, Option.not_isSome_iff_eq_none]

/-- What setting a key logs after keys were set: it warns if this one was. -/
def lineAfter (sets : List (String × φ)) (key : String) : LogLine :=
  if key ∈ sets.map Prod.fst then
    .warn ("widget " ++ key ++ " was registered twice, keeping the latest")
  else
    .debug ("registered widget " ++ key)

/-- What a registry answers after keys were set in some order. -/
structure LastWins (r : Registry φ) (sets : List (String × φ)) : Prop where
  get : ∀ key, r.get key = lastSet? sets key
  find : ∀ key, r.find key = (lastSet? sets key).elim (.error (.unknownWidget key)) .ok
  present : ∀ key, (r.get key).isSome ↔ key ∈ sets.map Prod.fst
  contains : ∀ key, r.contains key = true ↔ key ∈ sets.map Prod.fst
  keys : ∀ key, r.keys.count key = if key ∈ sets.map Prod.fst then 1 else 0
  replaced : ∀ key f, (r.set key f).1 = r.get key
  line : ∀ key, r.setLine key = lineAfter sets key

theorem mem_keys_iff {r : Registry φ} {key : String} : key ∈ r.keys ↔ (r.get key).isSome := by
  rw [keys, Table.mem_keys_iff, Option.isSome_iff_exists]
  rfl

theorem lastWins_of_get {r : Registry φ} {sets : List (String × φ)}
    (h : ∀ key, r.get key = lastSet? sets key) : r.LastWins sets := by
  have hpresent : ∀ key, (r.get key).isSome ↔ key ∈ sets.map Prod.fst := fun key => by
    rw [h, isSome_lastSet?]
  have hcontains : ∀ key, r.contains key = true ↔ key ∈ sets.map Prod.fst := hpresent
  refine ⟨h, fun key => ?_, hpresent, hcontains, fun key => ?_, fun _ _ => rfl, fun key => ?_⟩
  · rw [find, h]
    cases lastSet? sets key <;> rfl
  · have hnodup : r.keys.Nodup := r.factories.nodup_keys
    rw [hnodup.count]
    simp only [mem_keys_iff, hpresent]
  · simp only [setLine, lineAfter, hcontains]

/-! ### Setting a key -/

theorem LastWins.empty : (empty : Registry φ).LastWins [] :=
  lastWins_of_get fun _ => rfl

theorem LastWins.append_singleton {r : Registry φ} {sets : List (String × φ)}
    (h : r.LastWins sets) (s : String × φ) : (r.set s.1 s.2).2.LastWins (sets ++ [s]) := by
  refine lastWins_of_get fun key => ?_
  have hinsert := r.factories.get?_insert s.1 key s.2
  rw [lastSet?_append_singleton, ← h.get]
  exact hinsert

theorem LastWins.foldl {r : Registry φ} {sets : List (String × φ)} (h : r.LastWins sets)
    (more : List (String × φ)) :
    (more.foldl (fun r s => (r.set s.1 s.2).2) r).LastWins (sets ++ more) := by
  induction more generalizing r sets with
  | nil =>
      rw [List.append_nil]
      exact h
  | cons s more ih =>
      rw [List.append_cons]
      exact ih (h.append_singleton s)

theorem lastWins_ofSets (sets : List (String × φ)) : (ofSets sets).LastWins sets :=
  LastWins.empty.foldl sets

end Registry

/-! ## Clients -/

/-- The elements of a widget have no listener but the widget's. -/
theorem Page.Shows.exists_element {p : Page} {w : Widget} (h : p.Shows w) {x : Nat}
    (hx : x ∈ w.elements) :
    ∃ e, p.elements[x]? = some e ∧ ∀ l ∈ e.listeners, w.listener? = some l := by
  cases w with
  | systemMenu menu =>
      rcases List.mem_pair.mp hx with rfl | rfl
      · exact ⟨_, h.2, fun l hl => congrArg some (List.mem_singleton.mp hl).symm⟩
      · exact ⟨_, h.1, nofun⟩
  | placeholder root =>
      obtain ⟨text, hroot⟩ := h
      obtain rfl := List.mem_singleton.mp hx
      exact ⟨_, hroot, nofun⟩

def Action.sets? : Action → Option (String × Factory)
  | .set key f => some (key, f)
  | .register => some (systemMenuKey, .systemMenu)
  | _ => none

namespace Client

open Registry (lastSet? lineAfter lastSet?_eq_none_iff)

variable {c d : Client} {ws : List Widget} {w : Widget} {action : Action}

/-! ### Whoever asks for no factory -/

/-- Nothing is changed but the registry. -/
def replacing (registry : Registry Factory) : Recast where
  registry _ := registry

theorem replacing_client (registry : Registry Factory) (c : Client) :
    (replacing registry).client c = { c with registry } := by
  have hkept : ∀ kept, (replacing registry).kept kept = kept := by
    rintro ⟨widget, alive⟩
    cases widget <;> rfl
  rw [Recast.client, Table.map_eq_self hkept]
  rfl

theorem runAll_withRegistry {actions : List Action}
    (hasks : ∀ action ∈ actions, action.asksRegistry = false) (c : Client)
    (registry : Registry Factory) :
    { c with registry }.runAll actions
      = ((c.runAll actions).1, { (c.runAll actions).2 with registry }) := by
  have haction : (replacing registry).action = id := by
    funext action
    cases action <;> rfl
  have hanswer : (replacing registry).answer = id := by
    funext answer
    cases answer <;> rfl
  have hstep : (replacing registry).step = id := by
    funext s
    rw [Recast.step, hanswer, Except.map_id]
    rfl
  have hsame : ∀ action ∈ actions, action.asksRegistry = true →
      (replacing registry).registry = id := by
    intro action hmem htrue
    cases (hasks action hmem).symm.trans htrue
  have hruns := Recast.runAll_recast hsame c
  rw [haction, hstep, List.map_id, List.map_id, replacing_client, replacing_client] at hruns
  exact hruns

/-! ### Actions that set a key -/

theorem registered_eq (c : Client) (action : Action) :
    c.registered action = action.sets?.elim c.registry fun s => (c.registry.set s.1 s.2).2 := by
  cases action <;> rfl

theorem lastWins_runAll {sets : List (String × Factory)} (h : c.registry.LastWins sets)
    (actions : List Action) :
    (c.runAll actions).2.registry.LastWins (sets ++ actions.filterMap Action.sets?) := by
  induction actions generalizing c sets with
  | nil =>
      rw [List.filterMap_nil, List.append_nil]
      exact h
  | cons action rest ih =>
      have hstep := (c.registry_step action).trans (c.registered_eq action)
      cases hsets : action.sets? with
      | none =>
          rw [hsets] at hstep
          rw [List.filterMap_cons_none hsets]
          exact ih (hstep ▸ h)
      | some s =>
          rw [hsets] at hstep
          rw [List.filterMap_cons_some hsets, List.append_cons]
          exact ih (hstep ▸ h.append_singleton s)

/-! ### Answers -/

/-- What a client answers after keys were set: a widget of a key is made by the
last factory of the key, and where there is none, nothing is. -/
structure Obeys (c : Client) (sets : List (String × Factory)) : Prop where
  made : ∀ key f config name, lastSet? sets key = some f →
    c.step (.create key config name)
      = ({ result := .ok (.tree ((f.build c.page config).2.tree (f.build c.page config).1.root)) },
        { c with page := (f.build c.page config).2 }.keep name (f.build c.page config).1)
  unknown : ∀ key config name, key ∉ sets.map Prod.fst →
    c.step (.create key config name) = ({ result := .error (.widget (.unknownWidget key)) }, c)
  get : ∀ key, c.step (.get key) = (lastSet? sets key).elim ({ result := .ok .noTree }, c)
    fun f => ({ result := .ok (.tree (c.preview f).1) }, (c.preview f).2)
  contains : ∀ key,
    c.step (.contains key) = ({ result := .ok (.flag (key ∈ sets.map Prod.fst)) }, c)
  keys : ∃ ks, c.step .keys = ({ result := .ok (.keys ks) }, c)
    ∧ ∀ key, ks.count key = if key ∈ sets.map Prod.fst then 1 else 0
  replaced : ∀ key f, (c.step (.set key f)).1
    = { result := (c.step (.get key)).1.result, activity := .logged (lineAfter sets key) }
  register : (c.step .register).1
    = { result := .ok .done, activity := .logged (lineAfter sets systemMenuKey) }

/-- An action on the way of which nothing happens leaves no trace in the record. -/
theorem step_of_idle {answer : Answer} (hok : c.perform action = .ok (answer, .none, d)) :
    c.step action = ({ result := .ok answer }, d) := by
  rw [step, hok]
  simp [Activity.none]

theorem step_get (c : Client) (key : String) :
    c.step (.get key) = (c.registry.get key).elim ({ result := .ok .noTree }, c)
      fun f => ({ result := .ok (.tree (c.preview f).1) }, (c.preview f).2) := by
  cases hget : c.registry.get key with
  | none => exact step_of_idle (by simp only [perform, hget]; rfl)
  | some f => exact step_of_idle (by simp only [perform, hget]; rfl)

theorem step_set (c : Client) (key : String) (f : Factory) :
    (c.step (.set key f)).1
      = { result := (c.step (.get key)).1.result
          activity := .logged (c.registry.setLine key) } := by
  rw [step_get]
  simp only [step, perform, setFactory, Registry.set]
  cases c.registry.get key <;> rfl

theorem obeys_of_lastWins {sets : List (String × Factory)} (h : c.registry.LastWins sets) :
    c.Obeys sets := by
  refine ⟨fun key f config name hf => ?_, fun key config name hnone => ?_, fun key => ?_,
    fun key => ?_, ⟨c.registry.keys, step_of_idle rfl, h.keys⟩, fun key f => ?_, ?_⟩
  · have hfind := h.find key
    rw [hf] at hfind
    refine step_of_idle ?_
    simp only [perform, hfind]
    rfl
  · have hfind := h.find key
    rw [lastSet?_eq_none_iff.mpr hnone] at hfind
    simp only [step, perform, hfind]
    rfl
  · rw [step_get, h.get]
  · have hflag : c.registry.contains key = decide (key ∈ sets.map Prod.fst) := by
      rw [Bool.eq_iff_iff, h.contains key, decide_eq_true_iff]
    rw [← hflag]
    exact step_of_idle rfl
  · rw [step_set, h.line]
  · rw [← h.line]
    rfl

/-! ### Widgets that are already there -/

/-- One client comes from another without any effect on some widgets: names, event
loop and record stay as they are, and so do the elements of the widgets with the
listeners on them. -/
structure Spares (c d : Client) (ws : List Widget) : Prop where
  widgets : d.widgets = c.widgets
  loop : d.page.loop = c.page.loop
  history : d.history = c.history
  elements : ∀ w ∈ ws, ∀ x ∈ w.elements,
    d.page.elements[x]? = c.page.elements[x]? ∧ d.page.listenersOn x = c.page.listenersOn x
  tree : ∀ w ∈ ws, d.page.tree w.root = c.page.tree w.root

theorem Changes.widgets {built : Option Widget} (h : c.Changes d none built) :
    d.widgets = c.widgets := by
  cases h with
  | nothing hview => exact congrArg Prod.snd hview
  | preview f hview => exact congrArg Prod.snd hview

namespace Inventory

/-- The named widgets are among those that were built. -/
theorem kept (h : c.Inventory ws) : c.Kept := by
  refine ⟨fun {name kept} hget => ?_, fun {name name' kept kept' l} hget hget' hl hl' => ?_⟩
  · have hmem := h.known (widgetOf_of_get? hget)
    refine ⟨h.page.shows _ hmem, fun l => h.page.known hmem, fun l hl => ?_⟩
    rw [h.page.attached _ hmem l hl]
    constructor
    · rintro ⟨other, hother⟩
      -- no other name stands for the widget
      have hsame : c.widgetOf other = some kept.widget := by rw [widgetOf, hother]; rfl
      obtain rfl := h.apart (widgetOf_of_get? hget) hsame
      rw [Option.some.inj (hget.symm.trans hother)]
    · intro halive
      obtain ⟨w, alive⟩ := kept
      subst halive
      exact ⟨name, hget⟩
  · have hsame := h.page.eq_of_listener (h.known (widgetOf_of_get? hget))
      (h.known (widgetOf_of_get? hget')) hl hl'
    exact h.apart (widgetOf_of_get? hget) (hsame ▸ widgetOf_of_get? hget')

/-- An action that does not drop a widget leaves its elements as they are. -/
theorem elements_step (h : c.Inventory ws) (hw : w ∈ ws) {action : Action}
    (hdrops : ¬c.Drops action w) {x : Nat} (hx : x ∈ w.elements) :
    (c.step action).2.page.elements[x]? = c.page.elements[x]?
      ∧ (c.step action).2.page.listenersOn x = c.page.listenersOn x := by
  have hstep := h.step action
  have halive : (c.step action).2.Alive w ↔ c.Alive w :=
    (h.alive_step hw action).trans (and_iff_left hdrops)
  have hattached : ∀ l, w.listener? = some l →
      (l ∈ (c.step action).2.page.attached ↔ l ∈ c.page.attached) := by
    intro l hl
    rw [hstep.page.attached w (List.mem_append_left _ hw) l hl, halive, h.page.attached w hw l hl]
  obtain ⟨e, hget, hmine⟩ := (h.page.shows w hw).exists_element hx
  have hsame : (c.step action).2.page.elements[x]? = some e := by
    obtain ⟨more, hmore⟩ := (c.changes_step action).elements
    rw [← hmore, List.getElem?_append_left (List.getElem?_eq_some_iff.mp hget).1, hget]
  refine ⟨hsame.trans hget.symm, ?_⟩
  rw [Page.listenersOn, Page.listenersOn, hsame, hget]
  refine List.filter_congr fun l hl => Bool.eq_iff_iff.mpr ?_
  rw [List.contains_iff_mem, List.contains_iff_mem]
  exact hattached l (hmine l hl)

theorem spares (h : c.Inventory ws) {action : Action} (hasks : action.asksRegistry = true)
    (hreleased : c.released action = none) : c.Spares (c.step action).2 ws := by
  have hdrops : ∀ w, ¬c.Drops action w := by
    rintro w ⟨name, hname, -⟩
    cases hreleased.symm.trans hname
  have hserve : c.page.serve (c.spawned action) action = (c.page, []) := by
    cases action with
    | register | set | get | contains | keys | create => exact Prod.ext c.page.spawn_zero rfl
    | _ => cases hasks
  obtain ⟨-, hloop, hhistory⟩ := step_serves h.kept action
  rw [hserve] at hloop hhistory
  have hchanges := c.changes_step action
  rw [hreleased] at hchanges
  refine ⟨hchanges.widgets, hloop, hhistory.trans (List.append_nil _), fun w hw x hx => ?_,
    fun w hw => ?_⟩
  · exact h.elements_step hw (hdrops w) hx
  · exact h.tree_step hw (hdrops w)

end Inventory

/-- **The last factory counts.** A registry answers from the keys that were set,
whatever its factories are. So does a client after any run: a widget is made by the
last factory of its key, and a key that was never set is reported as unknown and
changes nothing. Only setting a key changes the registry. An action that asks the
registry and puts no widget under a name, above all one that replaces a factory,
spares every widget that was built before; and what asks for no factory runs in the
same way whatever the keys are set to. -/
theorem last_factory_counts :
    (∀ (φ : Type) (sets : List (String × φ)), (Registry.ofSets sets).LastWins sets)
      ∧ ∀ actions : List Action,
        let c := (runAll {} actions).2
        let sets := actions.filterMap Action.sets?
        c.registry.LastWins sets
          ∧ c.Obeys sets
          ∧ (∀ action, action.sets? = none → (c.step action).2.registry = c.registry)
          ∧ (∀ action, action.asksRegistry = true → c.released action = none →
            c.Spares (c.step action).2 (builtBy {} actions))
          ∧ ∀ more registry, (∀ action ∈ more, action.asksRegistry = false) →
            { c with registry }.runAll more
              = ((c.runAll more).1, { (c.runAll more).2 with registry }) := by
  refine ⟨fun φ sets => Registry.lastWins_ofSets sets, fun actions => ?_⟩
  intro c sets
  have hempty : ({} : Client).registry.LastWins [] := Registry.LastWins.empty
  have hlast : c.registry.LastWins sets := lastWins_runAll hempty actions
  have hinventory : c.Inventory (builtBy {} actions) := Inventory.empty.runAll actions
  refine ⟨hlast, obeys_of_lastWins hlast, fun action hnone => ?_, fun action => hinventory.spares,
    fun more registry hasks => runAll_withRegistry hasks c registry⟩
  rw [registry_step, registered_eq, hnone]
  rfl

/-- A menu whose factory is replaced: the key stands for placeholders from now on,
and the menu keeps its look. No other key is known. -/
theorem last_factory_counts_replaced :
    let actions := [.register, .create systemMenuKey .null "menu",
      .set systemMenuKey (.placeholder "later")]
    let c := (runAll {} actions).2
    c.registry.get systemMenuKey = some (.placeholder "later")
      ∧ c.page.tree 1 = menuTree 1
      ∧ ∀ config name, c.step (.create "other" config name)
        = ({ result := .error (.widget (.unknownWidget "other")) }, c) := by
  intro actions c
  obtain ⟨-, hruns⟩ := last_factory_counts
  obtain ⟨-, -, -, hspares, -⟩ := hruns (actions.take 2)
  obtain ⟨hlast, hobeys, -⟩ := hruns actions
  let menu : SystemMenu := { root := 1, control := 0, listener := 0, config := .null }
  have hbuilt : builtBy {} (actions.take 2) = [.systemMenu menu] := rfl
  refine ⟨(hlast.get systemMenuKey).trans (by decide), ?_, fun config name => ?_⟩
  · have htree := (hspares (.set systemMenuKey (.placeholder "later")) rfl rfl).tree
      (.systemMenu menu) (by simp [hbuilt])
    exact htree
  · exact hobeys.unknown "other" config name (by decide)

end Client

end MenuHost.Menu
