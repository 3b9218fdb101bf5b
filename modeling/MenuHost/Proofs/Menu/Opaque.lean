import Mathlib.Data.List.Forall2
import MenuHost.Menu.Config
import MenuHost.Proofs.Menu.Recast

/-!
# Configurations are opaque

A system menu keeps the configuration that it was made with and looks at
none of it. To say that nothing else looks at it either, two runs are
compared that differ in the configurations of their actions and in nothing
else (`Reconfigured`). With every configuration blanked out they are one
run (`runAll_blanking`), and blanking leaves page, registry and history as
they are. So these are the same at every step, and so is every answer,
except the one that reads a configuration back; that one gives in each run
what was put in.

The comparison needs nothing of what is known about reachable clients: it
holds of the runs from any client.
-/

namespace MenuHost.Menu

/-! ## Without configurations -/

/-- The action with another configuration, if it has one. -/
def Action.withConfig (config : Json) : Action → Action
  | .create key _ name => .create key config name
  | .createMenu _ name => .createMenu config name
  | action => action

/-- The answer without the configuration that it gives back. -/
def Answer.blank : Answer → Answer
  | .menu shown _ first => .menu shown .null first
  | answer => answer

/-- One action is the other, with another configuration if there is any. -/
def Reconfigured (a b : Action) : Prop :=
  ∃ config, b = a.withConfig config

namespace Client

def Step.blank (s : Step) : Step :=
  { s with result := s.result.map Answer.blank }

/-! ## Two runs -/

/-- Every configuration is blanked out, and nothing else changed. -/
def blanking : Recast where
  config _ := .null

theorem blanking_step : blanking.step = Step.blank := by
  have hanswer : blanking.answer = Answer.blank := by
    funext answer
    cases answer <;> rfl
  funext s
  rw [Recast.step, hanswer, Step.blank]

theorem blanking_action {a b : Action} (h : Reconfigured a b) :
    blanking.action b = blanking.action a := by
  obtain ⟨config, rfl⟩ := h
  cases a <;> rfl

/-- Runs that differ in configurations are the same when these are blanked out. -/
theorem runAll_blanking {as bs : List Action} (h : List.Forall₂ Reconfigured as bs) (c : Client) :
    (c.runAll bs).1.map Step.blank = (c.runAll as).1.map Step.blank
      ∧ blanking.client (c.runAll bs).2 = blanking.client (c.runAll as).2 := by
  have hsame : bs.map blanking.action = as.map blanking.action := by
    induction h with
    | nil => rfl
    | cons hfirst _ ih => rw [List.map_cons, List.map_cons, blanking_action hfirst, ih]
  have hrecast : ∀ actions : List Action, (blanking.client c).runAll (actions.map blanking.action)
      = ((c.runAll actions).1.map Step.blank, blanking.client (c.runAll actions).2) := by
    intro actions
    rw [← blanking_step]
    exact Recast.runAll_recast (fun _ _ _ => rfl) c
  have hruns := (hrecast bs).symm.trans (hsame ▸ hrecast as)
  exact ⟨congrArg Prod.fst hruns, congrArg Prod.snd hruns⟩

/-! ## What a menu keeps -/

/-- A menu that was created under a name keeps its configuration there, whatever
happens to it, until another widget is put under the name. -/
theorem config_kept (c : Client) (config : Json) (name : String) {more : List Action}
    (h : ∀ action ∈ more, action.puts? ≠ some name) :
    ∃ menu, (c.runAll (.createMenu config name :: more)).2.widgetOf name = some (.systemMenu menu)
      ∧ menu.config = config := by
  have hlater : (c.runAll (.createMenu config name :: more)).2.widgetOf name
      = (c.step (.createMenu config name)).2.widgetOf name := widgetOf_runAll h
  refine ⟨(SystemMenu.create c.page config).1, ?_, rfl⟩
  rw [hlater]
  exact (widgetOf_keep _ name name _).trans (if_pos rfl)

/-- **Configurations are opaque.** Take two runs that differ only in the
configurations that are passed in. At every step the page, what has happened on
it and the registry are the same, and all answers, events and log lines are,
except for the configuration that is read back from a menu that was created
directly. That is in every run the one that was passed in, when the menu is
created and for as long as its name is not given to another widget. -/
theorem configs_are_opaque {as bs : List Action} (h : List.Forall₂ Reconfigured as bs) :
    (runAll {} bs).1.map Step.blank = (runAll {} as).1.map Step.blank
      ∧ (∀ n,
        let c := (runAll {} (as.take n)).2
        let d := (runAll {} (bs.take n)).2
        d.page = c.page ∧ d.history = c.history ∧ d.registry = c.registry)
      ∧ ∀ before config name more, (∀ action ∈ more, action.puts? ≠ some name) →
        (∃ shown first, ((runAll {} before).2.step (.createMenu config name)).1.result
          = .ok (.menu shown config first))
        ∧ ∃ menu, (runAll {} (before ++ .createMenu config name :: more)).2.widgetOf name
            = some (.systemMenu menu)
          ∧ menu.config = config := by
  refine ⟨(runAll_blanking h {}).1, fun n => ?_, fun before config name more hmore => ?_⟩
  · obtain ⟨-, hblank⟩ := runAll_blanking (List.forall₂_take n h) {}
    obtain ⟨hpage, hregistry, -, hhistory⟩ := Client.mk.inj hblank
    exact ⟨hpage, hhistory, hregistry⟩
  · refine ⟨⟨_, _, rfl⟩, ?_⟩
    rw [runAll_append]
    exact config_kept _ config name hmore

/-- The menu of one run has the file menu as its configuration and the other has
none. Both are clicked, run and dropped alike, and keep what they had. -/
theorem configs_are_opaque_menu :
    let file := SystemMenuConfig.toJson { menu := [⟨"File", "file"⟩] }
    let more := [Action.click "menu" .control 1, .run, .drop "menu"]
    let as := .createMenu .null "menu" :: more
    let bs := .createMenu file "menu" :: more
    List.Forall₂ Reconfigured as bs
      ∧ (runAll {} bs).1.map Step.blank = (runAll {} as).1.map Step.blank
      ∧ (runAll {} bs).2.page = (runAll {} as).2.page
      ∧ ∃ menu, (runAll {} bs).2.widgetOf "menu" = some (.systemMenu menu)
        ∧ menu.config = file := by
  intro file more as bs
  have hsame : ∀ action ∈ more, Reconfigured action action := by
    intro action haction
    simp only [more, List.mem_cons, List.not_mem_nil, or_false] at haction
    rcases haction with rfl | rfl | rfl <;> exact ⟨.null, rfl⟩
  have hruns : List.Forall₂ Reconfigured as bs :=
    .cons ⟨file, rfl⟩ (List.forall₂_same.mpr hsame)
  obtain ⟨hsteps, hpages, hconfigs⟩ := configs_are_opaque hruns
  obtain ⟨-, hkept⟩ := hconfigs [] file "menu" more (by decide)
  exact ⟨hruns, hsteps, (hpages 4).1, hkept⟩

end Client

end MenuHost.Menu
