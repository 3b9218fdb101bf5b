import MenuHost.Proofs.Menu.Actions

/-!
# Which clicks are delivered

A click is delivered if it meets the control of a system menu that is
alive. Whether it does is a matter of names: which of them stand for such
a menu, and which factories there are to make more of them. Neither
depends on what the event loop has done so far, and so a run of the tasks
can be put anywhere between other actions and the same clicks are
delivered (`delivered_withoutRuns`).

The work is in `lives_step`. It reads off `Changes` what an action does to
the living menus, in terms of the registry and the menus that were alive
before, and of nothing else.
-/

namespace MenuHost.Menu

def Widget.isMenu : Widget → Bool
  | systemMenu _ => true
  | placeholder _ => false

def Factory.makesMenu : Factory → Bool
  | systemMenu => true
  | placeholder _ => false

theorem Factory.isMenu_build (f : Factory) (p : Page) (config : Json) :
    (f.build p config).1.isMenu = f.makesMenu := by
  cases f <;> rfl

def Action.isRun : Action → Bool
  | .run => true
  | _ => false

def withoutRuns (actions : List Action) : List Action :=
  actions.filter (!·.isRun)

namespace Client

/-! ## Living menus -/

/-- Whether a name stands for a system menu that is alive. -/
def lives (c : Client) (name : String) : Bool :=
  (c.widgets.get? name).any fun kept => kept.widget.isMenu && kept.alive

/-- The clicks on the control of a living menu start tasks, and no others do. -/
theorem spawned_click (c : Client) (name : String) (target : Target) (times : Nat) :
    c.spawned (.click name target times) =
      if target = .control ∧ c.lives name = true then times else 0 := by
  cases target with
  | root => rfl
  | control =>
      simp only [spawned, lives]
      cases c.widgets.get? name with
      | none => rfl
      | some kept =>
          obtain ⟨widget, alive⟩ := kept
          cases widget <;> cases alive <;> simp [Widget.isMenu]

theorem lives_congr {c d : Client} (h : d.widgets = c.widgets) (name : String) :
    d.lives name = c.lives name := by
  rw [lives, lives, h]

theorem lives_insert (c : Client) (name other : String) (kept : KeptWidget) :
    lives { c with widgets := c.widgets.insert name kept } other =
      if other = name then kept.widget.isMenu && kept.alive else c.lives other := by
  rw [lives, Table.get?_insert]
  split <;> rfl

theorem lives_release (c : Client) (name other : String) :
    (c.release name).lives other = if other = name then false else c.lives other := by
  unfold release
  split
  · next widget hget =>
      refine (lives_insert ..).trans ?_
      rw [Bool.and_false]
  · next hdead =>
      by_cases heq : other = name
      · -- nothing was there to release
        rw [if_pos heq, heq, lives]
        cases hget : c.widgets.get? name with
        | none => rfl
        | some kept =>
            obtain ⟨widget, alive⟩ := kept
            cases alive with
            | true => exact absurd hget (hdead widget)
            | false => exact Bool.and_false _
      · rw [if_neg heq]

theorem lives_keep (c : Client) (name other : String) (w : Widget) :
    (c.keep name w).lives other = if other = name then w.isMenu else c.lives other := by
  refine (lives_insert ..).trans ?_
  rw [lives_release, Bool.and_true]
  split <;> rfl

/-- What is alive after an action: the released name stands for no living menu,
unless one has been built and put under it. -/
theorem lives_step (c : Client) (action : Action) (name : String) :
    (c.step action).2.lives name =
      if c.released action = some name then (c.built action).any Widget.isMenu
      else c.lives name := by
  have hchanges := c.changes_step action
  generalize c.released action = released at hchanges ⊢
  generalize c.built action = built at hchanges ⊢
  cases hchanges with
  | nothing hview => exact lives_congr (congrArg Prod.snd hview) name
  | release other hview =>
      rw [lives_congr (congrArg Prod.snd hview) name, lives_release]
      simp only [Option.some.injEq, eq_comm, Option.any_none]
  | preview f hview => exact lives_congr (congrArg Prod.snd hview) name
  | keep f config other hview =>
      rw [lives_congr (congrArg Prod.snd hview) name, lives_keep]
      simp only [Option.some.injEq, eq_comm, Option.any_some]
      rfl

/-! ## The same clicks -/

/-- Two clients have the same factories, and the same names stand for living
menus. -/
structure Peers (c d : Client) : Prop where
  registry : d.registry = c.registry
  lives : ∀ name, d.lives name = c.lives name

namespace Peers

variable {c d : Client}

theorem released (h : Peers c d) (action : Action) : d.released action = c.released action := by
  cases action <;> simp only [Client.released, h.registry]

theorem built (h : Peers c d) (action : Action) :
    (d.built action).any Widget.isMenu = (c.built action).any Widget.isMenu := by
  have hany : ∀ (p : Page) (key : String) (config : Json),
      ((c.registry.get key).map fun f => (f.build p config).1).any Widget.isMenu
        = (c.registry.get key).any Factory.makesMenu := by
    intro p key config
    cases c.registry.get key with
    | none => rfl
    | some f => exact f.isMenu_build p config
  cases action with
  | create | get | set => simp only [Client.built, h.registry, hany]
  | _ => rfl

theorem step (h : Peers c d) (action : Action) : Peers (c.step action).2 (d.step action).2 := by
  constructor
  · rw [registry_step, registry_step]
    cases action <;> simp only [registered, h.registry]
  · intro name
    rw [lives_step, lives_step, h.released, h.built, h.lives]

theorem spawned (h : Peers c d) (action : Action) : d.spawned action = c.spawned action := by
  cases action with
  | click name target times => rw [spawned_click, spawned_click, h.lives]
  | _ => rfl

/-- The event loop is no part of the comparison. -/
theorem run (c : Client) : Peers c (c.step .run).2 :=
  ⟨registry_step c .run, fun name => lives_step c .run name⟩

end Peers

/-- The tasks that a run of actions starts: the clicks that are delivered. -/
def delivered (c : Client) : List Action → Nat
  | [] => 0
  | action :: rest => c.spawned action + (c.step action).2.delivered rest

theorem delivered_append (c : Client) (actions more : List Action) :
    c.delivered (actions ++ more) = c.delivered actions + (c.runAll actions).2.delivered more := by
  induction actions generalizing c with
  | nil => exact (Nat.zero_add _).symm
  | cons action rest ih =>
      rw [List.cons_append, delivered, delivered, ih, Nat.add_assoc]
      rfl

theorem Peers.delivered {c d : Client} (h : Peers c d) (actions : List Action) :
    d.delivered actions = c.delivered actions := by
  induction actions generalizing c d with
  | nil => rfl
  | cons action rest ih => rw [Client.delivered, Client.delivered, h.spawned, ih (h.step action)]

/-- Runs of the tasks make no difference to which clicks are delivered. -/
theorem delivered_withoutRuns (c : Client) (actions : List Action) :
    c.delivered (withoutRuns actions) = c.delivered actions := by
  induction actions generalizing c with
  | nil => rfl
  | cons action rest ih =>
      cases action with
      | run =>
          have hrest : c.delivered (.run :: rest) = (c.step .run).2.delivered rest :=
            Nat.zero_add _
          rw [hrest, ← ih, (Peers.run c).delivered]
          rfl
      | _ => exact congrArg (_ + ·) (ih _)

end Client

end MenuHost.Menu
