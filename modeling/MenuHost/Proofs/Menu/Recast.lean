import MenuHost.Proofs.Menu.Actions
import MenuHost.Proofs.Table

/-!
# What actions do not look into

Some of what a client holds is passed on by its actions and not looked
into: the configurations of widgets, and, where no factory is asked for,
the registry. A `Recast` puts something else in the place of both wherever
they stand, and `runAll_recast` says that a run of the recast client is the
run of the client, recast.

Two results come from this one. Runs that differ in configurations are the
same run once these are blanked out, and whoever asks for no factory cannot
tell registries apart.

`perform_recast` goes through the actions again, because what an action
answers is part of the comparison, and every one answers from another part
of the client. What they share is before it: a recast commutes with
releasing a name and with keeping a widget.
-/

namespace MenuHost.Menu

/-- An action that asks the registry, or sets one of its keys. -/
def Action.asksRegistry : Action → Bool
  | .register | .set .. | .get _ | .contains _ | .keys | .create .. => true
  | _ => false

/-- What is put in the place of each configuration and of the registry. -/
structure Recast where
  config : Json → Json := id
  registry : Registry Factory → Registry Factory := id

namespace Recast

variable (r : Recast)

def widget : Widget → Widget
  | .systemMenu menu => .systemMenu { menu with config := r.config menu.config }
  | .placeholder root => .placeholder root

def kept (k : KeptWidget) : KeptWidget :=
  { k with widget := r.widget k.widget }

def client (c : Client) : Client :=
  { c with registry := r.registry c.registry, widgets := c.widgets.map r.kept }

def action : Action → Action
  | .create key config name => .create key (r.config config) name
  | .createMenu config name => .createMenu (r.config config) name
  | action => action

def answer : Answer → Answer
  | .menu shown config first => .menu shown (r.config config) first
  | answer => answer

/-- What an action comes to, recast. -/
def outcome : Except ClientError (Answer × Activity × Client) →
    Except ClientError (Answer × Activity × Client)
  | .ok (answer, activity, c) => .ok (r.answer answer, activity, r.client c)
  | .error e => .error e

def step (s : Client.Step) : Client.Step :=
  { s with result := s.result.map r.answer }

/-! ## Widgets -/

theorem root_widget (w : Widget) : (r.widget w).root = w.root := by
  cases w <;> rfl

theorem root_kept (k : KeptWidget) : (r.kept k).widget.root = k.widget.root :=
  r.root_widget k.widget

theorem opened_widget (w : Widget) : (r.widget w).opened = w.opened := by
  cases w <;> rfl

theorem drop_widget (w : Widget) (p : Page) : (r.widget w).drop p = w.drop p := by
  cases w <;> rfl

theorem build_config (f : Factory) (p : Page) (config : Json) :
    f.build p (r.config config) = (r.widget (f.build p config).1, (f.build p config).2) := by
  cases f <;> rfl

/-! ## Clients -/

variable {r} {c : Client} {a : Action}

theorem named_client (c : Client) (name : String) :
    (r.client c).named name = (c.named name).map r.kept := by
  have hget : (r.client c).widgets.get? name = (c.widgets.get? name).map r.kept :=
    c.widgets.get?_map r.kept name
  rw [Client.named, Client.named, hget]
  cases c.widgets.get? name <;> rfl

theorem release_client (c : Client) (name : String) :
    (r.client c).release name = r.client (c.release name) := by
  have hget : (r.client c).widgets.get? name = (c.widgets.get? name).map r.kept :=
    c.widgets.get?_map r.kept name
  unfold Client.release
  rw [hget]
  cases c.widgets.get? name with
  | none => rfl
  | some kept =>
      obtain ⟨widget, alive⟩ := kept
      cases alive with
      | false => rfl
      | true =>
          simp only [Option.map_some, kept, client, drop_widget, Table.map_insert]

theorem keep_client (c : Client) (name : String) (w : Widget) :
    (r.client c).keep name (r.widget w) = r.client (c.keep name w) := by
  unfold Client.keep
  rw [release_client]
  simp only [client, kept, Table.map_insert]

/-- An action on a name goes on with the recast widget. -/
theorem bind_named {name : String}
    {k k' : KeptWidget → Except ClientError (Answer × Activity × Client)}
    (h : ∀ kept, k' (r.kept kept) = r.outcome (k kept)) :
    ((r.client c).named name >>= k') = r.outcome (c.named name >>= k) := by
  rw [named_client]
  cases c.named name with
  | error e => rfl
  | ok kept => exact h kept

/-- An action that asks for no factory does the same on a recast client, and any other
action does so if the registry is left as it is. -/
theorem perform_recast (h : a.asksRegistry = true → r.registry = id) (c : Client) :
    (r.client c).perform (r.action a) = r.outcome (c.perform a) := by
  cases a with
  | respond reply => rfl
  | hold on => rfl
  | answer request reply =>
      simp only [action, Client.perform, client]
      cases c.page.answer? request reply <;> rfl
  | register =>
      -- from here on the registry is asked, so it is the one that both clients have
      obtain ⟨config, registry⟩ := r
      obtain rfl : registry = id := h rfl
      rfl
  | set key f =>
      obtain ⟨config, registry⟩ := r
      obtain rfl : registry = id := h rfl
      simp only [action, Client.perform, Client.setFactory, Registry.set, client, id]
      cases c.registry.get key <;> rfl
  | get key =>
      obtain ⟨config, registry⟩ := r
      obtain rfl : registry = id := h rfl
      simp only [action, Client.perform, client, id]
      cases c.registry.get key <;> rfl
  | contains key =>
      obtain ⟨config, registry⟩ := r
      obtain rfl : registry = id := h rfl
      rfl
  | keys =>
      obtain ⟨config, registry⟩ := r
      obtain rfl : registry = id := h rfl
      rfl
  | create key config name =>
      have hfind : (r.client c).registry.find key = c.registry.find key :=
        congrArg (·.find key) (congrFun (h rfl) c.registry)
      simp only [action, Client.perform, hfind]
      cases c.registry.find key with
      | error e => rfl
      | ok f =>
          have hpage : (r.client c).page = c.page := rfl
          simp only [hpage, build_config, root_widget, outcome, Client.answered]
          rw [← keep_client]
          rfl
  | createMenu config name =>
      simp only [action, Client.perform, outcome, Client.answered]
      rw [← keep_client]
      rfl
  | click name target times =>
      refine bind_named fun kept => ?_
      simp only [root_kept]
      cases target with
      | root => rfl
      | control =>
          simp only [client]
          cases (c.page.childrenOf kept.widget.root).head? <;> rfl
  | opened name =>
      refine bind_named fun kept => ?_
      obtain ⟨w, alive⟩ := kept
      cases alive with
      | false => rfl
      | true =>
          simp only [kept, opened_widget]
          rfl
  | drop name =>
      refine bind_named fun kept => ?_
      rw [release_client]
      rfl
  | run => rfl
  | inspect name =>
      refine bind_named fun kept => ?_
      simp only [root_kept]
      rfl
  | sameRoot name other =>
      refine bind_named fun kept => bind_named fun kept' => ?_
      simp only [root_kept]
      rfl
  | logout => rfl
  | recorded => rfl

theorem step_recast (h : a.asksRegistry = true → r.registry = id) (c : Client) :
    (r.client c).step (r.action a) = (r.step (c.step a).1, r.client (c.step a).2) := by
  unfold Client.step
  rw [perform_recast h]
  cases c.perform a <;> rfl

/-- **Recasting.** A run is recast step by step, if the registry is left as it is or is never
asked. -/
theorem runAll_recast {actions : List Action}
    (h : ∀ a ∈ actions, a.asksRegistry = true → r.registry = id) (c : Client) :
    (r.client c).runAll (actions.map r.action)
      = ((c.runAll actions).1.map r.step, r.client (c.runAll actions).2) := by
  induction actions generalizing c with
  | nil => rfl
  | cons a rest ih =>
      have hstep := step_recast (h a (List.mem_cons_self ..)) c
      have hrest := ih fun b hb => h b (List.mem_cons_of_mem _ hb)
      rw [List.map_cons, Client.runAll, hstep]
      dsimp only
      rw [hrest, Client.runAll]
      rfl

end Recast

end MenuHost.Menu
