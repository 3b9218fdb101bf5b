import MenuHost.Proofs.Menu.Widgets

/-!
# What an action does

There are many kinds of actions, and few things that they do.
`Client.Does` says for each action what becomes of a client, whether the
action can be done or not:

- of document and named widgets, by `Changes`: a widget is built, a name
  is released, a widget is kept under a name, in one of the four
  combinations that there are;
- of the registry, by `registered`;
- of the event loop and the record, by `Page.serve`, for as many listeners
  as the clicks of the action meet (`met`).

`does_step` goes through the actions one by one. Nothing else has to, in
order to know what becomes of a client: what the four changes preserve, and
what the event loop does, holds of every step by this lemma. Two things
follow here already. Widgets stay in order (`kept_step`), and among widgets
in order a click meets a listener only on the control of a system menu
that is alive (`met_eq_spawned`). And a name stands for the same widget
until another one is put under it (`widgetOf_runAll`).
-/

namespace MenuHost.Menu

/-- The element that a click on a widget goes to. -/
def Target.element? (p : Page) (w : Widget) : Target → Option Nat
  | .root => some w.root
  | .control => (p.childrenOf w.root).head?

/-- The name under which an action puts a new widget. -/
def Action.puts? : Action → Option String
  | .create _ _ name => some name
  | .createMenu _ name => some name
  | _ => none

namespace Client

/-! ## Document and widgets -/

/-- The document and the named widgets of a client. -/
def view (c : Client) : (List Element × List Nat × Nat) × Table KeptWidget :=
  (c.page.document, c.widgets)

/-- The widget that an action builds: to be kept under a name, or only to be
shown. -/
def built (c : Client) : Action → Option Widget
  | .create key config _ => (c.registry.get key).map fun f => (f.build c.page config).1
  | .createMenu config _ => some (Factory.systemMenu.build c.page config).1
  | .get key => (c.registry.get key).map fun f => (f.build c.page .null).1
  | .set key _ => (c.registry.get key).map fun f => (f.build c.page .null).1
  | _ => none

/-- The name whose widget an action drops, if there is one. -/
def released (c : Client) : Action → Option String
  | .drop name => some name
  | .create key _ name => if c.registry.contains key then some name else none
  | .createMenu _ name => some name
  | _ => none

/-- What an action does to document and widgets, with the name that it releases
and the widget that it builds. -/
inductive Changes (c : Client) (d : Client) : Option String → Option Widget → Prop
  | nothing (h : d.view = c.view) : Changes c d none none
  | release (name : String) (h : d.view = (c.release name).view) : Changes c d (some name) none
  | preview (f : Factory) (h : d.view = (c.preview f).2.view) :
      Changes c d none (some (f.build c.page .null).1)
  | keep (f : Factory) (config : Json) (name : String)
      (h : d.view = (keep { c with page := (f.build c.page config).2 } name
        (f.build c.page config).1).view) :
      Changes c d (some name) (some (f.build c.page config).1)

theorem Kept.of_view {c d : Client} (h : c.Kept) (hview : d.view = c.view) : d.Kept :=
  h.congr (congrArg Prod.fst hview) (congrArg Prod.snd hview)

/-- None of the changes brings widgets out of order. -/
theorem Changes.kept {c d : Client} {name : Option String} {widget : Option Widget}
    (h : c.Changes d name widget) (hkept : c.Kept) : d.Kept := by
  cases h with
  | nothing hview => exact hkept.of_view hview
  | release name hview => exact (hkept.release name).of_view hview
  | preview f hview => exact (hkept.preview (f.built c.page .null)).of_view hview
  | keep f config name hview =>
      have hbuilt := f.built c.page config
      have hadmits : Admits { c with page := (f.build c.page config).2 }
          (f.build c.page config).1 :=
        ⟨hbuilt.holds, fun hget hl => hkept.ne_of_built hbuilt hget hl⟩
      exact ((hkept.built hbuilt).keep hadmits name).of_view hview

/-! ## One action -/

def registered (c : Client) : Action → Registry Factory
  | .register => (c.registry.set systemMenuKey .systemMenu).2
  | .set key f => (c.registry.set key f).2
  | _ => c.registry

/-- How many listeners the clicks of an action meet. -/
def met (c : Client) : Action → Nat
  | .click name target times =>
    ((c.widgets.get? name).bind fun kept => target.element? c.page kept.widget).elim 0
      fun element => times * (c.page.listenersOn element).length
  | _ => 0

/-- What becomes of a client by an action. -/
structure Does (c : Client) (action : Action) (d : Client) : Prop where
  changes : c.Changes d (c.released action) (c.built action)
  registry : d.registry = c.registered action
  loop : d.page.loop = (c.page.serve (c.met action) action).1.loop
  history : d.history = c.history ++ (c.page.serve (c.met action) action).2

/-- The client after what an action came to. -/
def settle (c : Client) : Except ClientError (Answer × Activity × Client) → Client
  | .ok (_, activity, after) => { after with history := after.history ++ activity.events }
  | .error _ => c

section

variable {c d : Client} {action : Action}

theorem settle_perform (c : Client) (action : Action) :
    (c.step action).2 = c.settle (c.perform action) := by
  unfold step
  cases c.perform action <;> rfl

theorem named_of_some {name : String} {kept : KeptWidget}
    (hget : c.widgets.get? name = some kept) : c.named name = .ok kept := by
  simp [named, hget]

theorem named_of_none {name : String} (hget : c.widgets.get? name = none) :
    c.named name = .error (.unknownName name) := by
  simp [named, hget]

/-- An action that asks nothing of the event loop. -/
theorem Does.idle (hserve : c.page.serve (c.met action) action = (c.page.spawn 0, []))
    (hchanges : c.Changes d (c.released action) (c.built action))
    (hregistry : d.registry = c.registered action) (hloop : d.page.loop = c.page.loop)
    (hhistory : d.history = c.history ++ []) : c.Does action d := by
  rw [Page.spawn_zero] at hserve
  exact ⟨hchanges, hregistry, by rw [hserve]; exact hloop, by rw [hserve]; exact hhistory⟩

/-- An action that is refused, or does nothing but answer. -/
theorem Does.nothing (hserve : c.page.serve (c.met action) action = (c.page.spawn 0, []))
    (hchanges : c.Changes c (c.released action) (c.built action))
    (hregistry : c.registry = c.registered action) : c.Does action c :=
  .idle hserve hchanges hregistry rfl (List.append_nil _).symm

/-- An action on a name that is not known does nothing; otherwise it goes on with
the widget. -/
theorem Does.of_named {name : String}
    {k : KeptWidget → Except ClientError (Answer × Activity × Client)}
    (hnone : c.widgets.get? name = none → c.Does action c)
    (hsome : ∀ kept, c.widgets.get? name = some kept → c.Does action (c.settle (k kept))) :
    c.Does action (c.settle (c.named name >>= k)) := by
  cases hget : c.widgets.get? name with
  | none =>
      rw [named_of_none hget]
      exact hnone hget
  | some kept =>
      rw [named_of_some hget]
      exact hsome kept hget

theorem registry_release (c : Client) (name : String) :
    (c.release name).registry = c.registry := by
  rcases c.release_cases name with ⟨widget, -, hrelease⟩ | hrelease <;> rw [hrelease]

/-- A widget that is built and kept under a name. -/
theorem Does.keep {f : Factory} {config : Json} {name : String} {answer : Answer}
    (hserve : c.page.serve (c.met action) action = (c.page.spawn 0, []))
    (hreleased : c.released action = some name)
    (hbuilt : c.built action = some (f.build c.page config).1)
    (hregistry : c.registered action = c.registry) :
    c.Does action (c.settle (answered answer
      (Client.keep { c with page := (f.build c.page config).2 } name
        (f.build c.page config).1))) := by
  obtain ⟨hloop, hhistory, -⟩ := release_frame { c with page := (f.build c.page config).2 } name
  refine .idle hserve ?_ ?_ (hloop.trans (f.built c.page config).loop)
    (congrArg (· ++ []) hhistory)
  · rw [hreleased, hbuilt]
    exact .keep f config name rfl
  · rw [hregistry]
    exact registry_release _ name

/-- A widget that is built, looked at and dropped. -/
theorem Does.preview {f : Factory}
    (hserve : c.page.serve (c.met action) action = (c.page.spawn 0, []))
    (hreleased : c.released action = none)
    (hbuilt : c.built action = some (f.build c.page .null).1)
    (hregistry : d.registry = c.registered action) (hpage : d.page = (c.preview f).2.page)
    (hwidgets : d.widgets = c.widgets) (hhistory : d.history = c.history ++ []) :
    c.Does action d := by
  have hloop : (c.preview f).2.page.loop = c.page.loop :=
    (Widget.drop_frame ..).2.2.trans (f.built c.page .null).loop
  refine .idle hserve ?_ hregistry (hpage ▸ hloop) hhistory
  rw [hreleased, hbuilt]
  exact .preview f (congrArg₂ (fun p ws => (p.document, ws)) hpage hwidgets)

/-- The clicks of an action go to one element, and meet all listeners on it each time. -/
theorem Does.click {name : String} {target : Target} {times element : Nat} {kept : KeptWidget}
    (hget : c.widgets.get? name = some kept)
    (helement : target.element? c.page kept.widget = some element) :
    c.Does (.click name target times)
      (c.settle (answered .done { c with page := c.page.clickTimes element times })) := by
  have hmet : c.met (.click name target times)
      = times * (c.page.listenersOn element).length := by
    simp only [met, hget, Option.bind_some, helement, Option.elim_some]
  rw [Page.clickTimes_eq]
  refine ⟨.nothing rfl, rfl, ?_, rfl⟩
  rw [hmet]
  rfl

/-- **One step.** Every action does what `Does` says, whether or not it can be
done. -/
theorem does_step (c : Client) (action : Action) : c.Does action (c.step action).2 := by
  rw [settle_perform]
  cases action with
  | respond reply => exact ⟨.nothing rfl, rfl, rfl, rfl⟩
  | hold on => exact ⟨.nothing rfl, rfl, rfl, rfl⟩
  | answer request reply =>
      rcases c.page.answer_cases request reply with ⟨task, -, hanswer⟩ | ⟨-, hanswer⟩
      · simp only [perform, hanswer]
        refine ⟨.nothing rfl, rfl, ?_, rfl⟩
        simp only [Page.serve, hanswer]
        rfl
      · -- a refusal, which to the event loop is an answer to nobody
        simp only [perform, hanswer]
        refine ⟨.nothing rfl, rfl, ?_, (List.append_nil _).symm⟩
        simp only [Page.serve, hanswer]
        rfl
  | register => exact .idle rfl (.nothing rfl) rfl rfl rfl
  | set key f =>
      simp only [perform, setFactory, Registry.set]
      cases hget : c.registry.get key with
      | none =>
          refine .idle rfl ?_ rfl rfl rfl
          simp only [built, hget]
          exact .nothing rfl
      | some previous =>
          have hbuilt : c.built (.set key f) = some (previous.build c.page .null).1 := by
            simp only [built, hget, Option.map_some]
          exact .preview rfl rfl hbuilt rfl rfl rfl rfl
  | get key =>
      simp only [perform]
      cases hget : c.registry.get key with
      | none =>
          refine .idle rfl ?_ rfl rfl rfl
          simp only [built, hget]
          exact .nothing rfl
      | some f =>
          have hbuilt : c.built (.get key) = some (f.build c.page .null).1 := by
            simp only [built, hget, Option.map_some]
          exact .preview rfl rfl hbuilt rfl rfl rfl rfl
  | contains key => exact .idle rfl (.nothing rfl) rfl rfl rfl
  | keys => exact .idle rfl (.nothing rfl) rfl rfl rfl
  | create key config name =>
      have hcontains : c.registry.contains key = (c.registry.get key).isSome := rfl
      simp only [perform, Registry.find]
      cases hget : c.registry.get key with
      | none =>
          -- refused, and by the same lookup nothing counts as released or built
          rw [hget] at hcontains
          refine .nothing rfl ?_ rfl
          simp only [released, hcontains, built, hget]
          exact .nothing rfl
      | some f =>
          rw [hget] at hcontains
          refine .keep rfl ?_ ?_ rfl
          · simp only [released, hcontains, Option.isSome_some, if_true]
          · simp only [built, hget, Option.map_some]
  | createMenu config name => exact .keep (f := .systemMenu) rfl rfl rfl rfl
  | click name target times =>
      refine .of_named (fun hget => ?_) fun kept hget => ?_
      · refine .nothing ?_ (.nothing rfl) rfl
        simp only [met, hget]
        rfl
      · cases target with
        | root => exact .click hget rfl
        | control =>
            cases hchild : (c.page.childrenOf kept.widget.root).head? with
            | none =>
                refine .nothing ?_ (.nothing rfl) rfl
                simp only [met, hget, Option.bind_some, Target.element?, hchild]
                rfl
            | some child => exact .click hget hchild
  | opened name =>
      refine .of_named (fun _ => .nothing rfl (.nothing rfl) rfl) fun kept hget => ?_
      obtain ⟨widget, alive⟩ := kept
      cases alive with
      | false => exact .nothing rfl (.nothing rfl) rfl
      | true => cases widget <;> exact .idle rfl (.nothing rfl) rfl rfl rfl
  | drop name =>
      refine .of_named (fun hget => .nothing rfl (.release name ?_) rfl) fun kept hget => ?_
      · rw [release, hget]
      · obtain ⟨hloop, hhistory, -⟩ := c.release_frame name
        exact .idle rfl (.release name rfl) (registry_release c name) hloop
          (congrArg (· ++ []) hhistory)
  | run => exact ⟨.nothing (congrArg (·, c.widgets) c.page.document_run), rfl, rfl, rfl⟩
  | inspect name =>
      exact .of_named (fun _ => .nothing rfl (.nothing rfl) rfl)
        fun kept hget => .idle rfl (.nothing rfl) rfl rfl rfl
  | sameRoot name other =>
      exact .of_named (fun _ => .nothing rfl (.nothing rfl) rfl) fun kept hget =>
        .of_named (fun _ => .nothing rfl (.nothing rfl) rfl)
          fun kept' hget' => .idle rfl (.nothing rfl) rfl rfl rfl
  | logout =>
      refine ⟨.nothing (congrArg (·, c.widgets) ?_), rfl, rfl, rfl⟩
      show c.page.logout.2.1.document = c.page.document
      rw [c.page.logout_eq.1]
      rfl
  | recorded => exact .idle rfl (.nothing rfl) rfl rfl rfl

theorem changes_step (c : Client) (action : Action) :
    c.Changes (c.step action).2 (c.released action) (c.built action) :=
  (c.does_step action).changes

theorem registry_step (c : Client) (action : Action) :
    (c.step action).2.registry = c.registered action :=
  (c.does_step action).registry

theorem kept_step (h : c.Kept) (action : Action) : (c.step action).2.Kept :=
  (c.changes_step action).kept h

/-! ## Clicks -/

/-- The logout tasks that an action starts: one for each click on the control of
a system menu that is alive. -/
def spawned (c : Client) : Action → Nat
  | .click name .control times =>
    match c.widgets.get? name with
    | some { widget := .systemMenu _, alive := true } => times
    | _ => 0
  | _ => 0

/-- Among widgets that are in order, a click meets no other listener. -/
theorem met_eq_spawned (h : c.Kept) (action : Action) : c.met action = c.spawned action := by
  cases action with
  | click name target times =>
      cases hget : c.widgets.get? name with
      | none => cases target <;> simp [met, spawned, hget]
      | some kept =>
          obtain ⟨hroot, hchildren⟩ := (h.holds hget).shows.root
          cases target with
          | root => simp [met, spawned, hget, Target.element?, hroot]
          | control =>
              obtain ⟨widget, alive⟩ := kept
              cases widget with
              | placeholder root =>
                  simp [met, spawned, hget, Target.element?, hchildren, Widget.control?]
              | systemMenu menu =>
                  have hlisteners := (h.holds hget).listenersOn_control
                  cases alive <;>
                    simp [met, spawned, hget, Target.element?, hchildren, Widget.control?,
                      hlisteners]
  | _ => rfl

/-- An action does to the event loop what is asked of it, and records what
happens. -/
theorem step_serves (h : c.Kept) (action : Action) :
    (c.step action).2.Kept
      ∧ (c.step action).2.page.loop = (c.page.serve (c.spawned action) action).1.loop
      ∧ (c.step action).2.history = c.history ++ (c.page.serve (c.spawned action) action).2 := by
  have hdoes := c.does_step action
  rw [← met_eq_spawned h]
  exact ⟨kept_step h action, hdoes.loop, hdoes.history⟩

theorem spawned_serve (c : Client) (action : Action) :
    (c.page.serve (c.spawned action) action).1.taskCount = c.page.taskCount + c.spawned action
      ∧ ∀ task, c.page.taskCount ≤ task → task < c.page.taskCount + c.spawned action →
        task ∈ (c.page.serve (c.spawned action) action).1.fresh := by
  cases action with
  | click name target times =>
      exact ⟨rfl, fun task hle hlt =>
        List.mem_append_right _ (List.mem_range'_1.mpr ⟨hle, hlt⟩)⟩
  | answer request reply =>
      refine ⟨?_, fun task hle hlt => absurd hlt (Nat.not_lt.mpr hle)⟩
      rcases c.page.answer_cases request reply with ⟨task, -, hanswer⟩ | ⟨-, hanswer⟩ <;>
        simp only [Page.serve, hanswer] <;> rfl
  | run => exact ⟨c.page.run_frame.1, fun task hle hlt => absurd hlt (Nat.not_lt.mpr hle)⟩
  | logout =>
      refine ⟨?_, fun task hle hlt => absurd hlt (Nat.not_lt.mpr hle)⟩
      simp only [Page.serve, Page.logout_eq]
      rfl
  | _ => exact ⟨rfl, fun task hle hlt => absurd hlt (Nat.not_lt.mpr hle)⟩

/-- The tasks that an action starts are the next ones, and they are fresh. -/
theorem step_spawned (h : c.Kept) (action : Action) :
    (c.step action).2.page.taskCount = c.page.taskCount + c.spawned action
      ∧ ∀ task, c.page.taskCount ≤ task → task < (c.step action).2.page.taskCount →
        task ∈ (c.step action).2.page.fresh := by
  obtain ⟨-, hloop, -⟩ := step_serves h action
  obtain ⟨hcount, hfresh, -⟩ := Page.tasks_congr hloop
  obtain ⟨hspawned, hnew⟩ := spawned_serve c action
  rw [hcount, hfresh, hspawned]
  exact ⟨rfl, hnew⟩

end

/-! ## Runs -/

theorem runAll_append (c : Client) (actions more : List Action) :
    (c.runAll (actions ++ more)).2 = ((c.runAll actions).2.runAll more).2 := by
  induction actions generalizing c with
  | nil => rfl
  | cons action rest ih => exact ih (c.step action).2

/-! ## Names -/

/-- The widget of a name, alive or not. -/
def widgetOf (c : Client) (name : String) : Option Widget :=
  (c.widgets.get? name).map (·.widget)

theorem widgetOf_release (c : Client) (name other : String) :
    (c.release name).widgetOf other = c.widgetOf other := by
  rcases c.release_cases name with ⟨widget, hget, hrelease⟩ | hrelease
  · rw [hrelease, widgetOf, widgetOf, Table.get?_insert]
    split
    · next heq => rw [heq, hget]; rfl
    · rfl
  · rw [hrelease]

theorem widgetOf_keep (c : Client) (name other : String) (w : Widget) :
    (c.keep name w).widgetOf other = if other = name then some w else c.widgetOf other := by
  have hrelease := c.widgetOf_release name other
  rw [widgetOf] at hrelease
  rw [keep, widgetOf, Table.get?_insert]
  split
  · rfl
  · exact hrelease

theorem widgetOf_congr {c d : Client} (h : d.view = c.view) (name : String) :
    d.widgetOf name = c.widgetOf name :=
  congrArg (fun v => (v.2.get? name).map KeptWidget.widget) h

/-- An action that drops the widget of a name and builds another keeps this one
under the name. -/
theorem puts?_of_built {c : Client} {action : Action} {name : String} {w : Widget}
    (hreleased : c.released action = some name) (hbuilt : c.built action = some w) :
    action.puts? = some name := by
  cases action with
  | create key config other =>
      rw [released] at hreleased
      split at hreleased
      · exact hreleased
      · cases hreleased
  | createMenu config other => exact hreleased
  | drop other => cases hbuilt
  | _ => cases hreleased

/-- An action that puts no widget under a name leaves it its widget. -/
theorem widgetOf_step {c : Client} {action : Action} {name : String}
    (h : action.puts? ≠ some name) : (c.step action).2.widgetOf name = c.widgetOf name := by
  have hchanges := c.changes_step action
  generalize hreleased : c.released action = released at hchanges
  generalize hbuilt : c.built action = built at hchanges
  cases hchanges with
  | nothing hview => exact widgetOf_congr hview name
  | release other hview =>
      rw [widgetOf_congr hview name]
      exact c.widgetOf_release other name
  | preview f hview =>
      rw [widgetOf_congr hview name]
      rfl
  | keep f config other hview =>
      have hne : name ≠ other := by
        rintro rfl
        exact h (puts?_of_built hreleased hbuilt)
      rw [widgetOf_congr hview name, widgetOf_keep, if_neg hne]
      rfl

theorem widgetOf_runAll {c : Client} {actions : List Action} {name : String}
    (h : ∀ action ∈ actions, action.puts? ≠ some name) :
    (c.runAll actions).2.widgetOf name = c.widgetOf name := by
  induction actions generalizing c with
  | nil => rfl
  | cons action rest ih =>
      have hrest := ih (c := (c.step action).2) fun a ha => h a (List.mem_cons_of_mem _ ha)
      exact hrest.trans (widgetOf_step (h action (List.mem_cons_self ..)))

end Client

end MenuHost.Menu
