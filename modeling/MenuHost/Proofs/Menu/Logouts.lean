import MenuHost.Proofs.Menu.Stages
import MenuHost.Proofs.Menu.Actions

/-!
# One click, one request, one effect

What any run of a client amounts to. `Accounted` is the invariant of a
run, and it joins three accounts that every action keeps:

- of the widgets, which decides what a click starts (`Widgets`);
- of each single task, which stands at a stage that agrees with all that
  has happened and arrived for it (`Stages`);
- of requests and effects as a whole, which are in `Balance`: a request is
  posted when a task is first run or a logout is called directly, and it
  has its effect or is still to be processed.

The comparison of two runs that differ in a bystander needs no account of
the rest: `eventsOf_runAll_of_alike` follows one task through both.
-/

namespace MenuHost.Menu

/-! ## Requests and effects in balance -/

def Action.direct : Action → Nat
  | .logout => 1
  | _ => 0

namespace Client

/-- The endpoints of all requests, held open or not. -/
def posts (history : List Event) : List String :=
  history.filterMap fun e =>
    match e.effect with
    | .post endpoint => some endpoint
    | _ => none

/-- How many logouts have had their effect. -/
def settled (history : List Event) : Nat :=
  (navigations history).length + (alerts history).length

/-- So many requests, all of them to the logout endpoint, and so many effects. -/
structure Balance (history : List Event) (requests effects : Nat) : Prop where
  posts : posts history = List.replicate requests logoutEndpoint
  settled : settled history = effects

namespace Balance

theorem nil : Balance [] 0 0 := ⟨rfl, rfl⟩

theorem append {history more : List Event} {m n i j : Nat} (h : Balance history m i)
    (h' : Balance more n j) : Balance (history ++ more) (m + n) (i + j) := by
  constructor
  · rw [Client.posts, List.filterMap_append, ← List.replicate_append_replicate, ← h.posts,
      ← h'.posts]
    rfl
  · rw [← h.settled, ← h'.settled]
    simp only [Client.settled, navigations, alerts, List.filterMap_append, List.length_append]
    omega

theorem request {e : Event} (h : e.effect = .post logoutEndpoint) : Balance [e] 1 0 := by
  constructor <;> simp [Client.posts, Client.settled, navigations, alerts, h]

theorem effect {e : Event} {reply : Reply} (h : e.effect = effectFor reply) : Balance [e] 0 1 := by
  rcases effectFor_cases reply with heffect | heffect <;>
    constructor <;> simp [Client.posts, Client.settled, navigations, alerts, h, heffect]

theorem flatMap {α : Type} {f : α → List Event} {m i : Nat} (h : ∀ a, Balance (f a) m i)
    (l : List α) : Balance (l.flatMap f) (l.length * m) (l.length * i) := by
  induction l with
  | nil => simpa using nil
  | cons a rest ih =>
      rw [List.flatMap_cons, List.length_cons, Nat.succ_mul, Nat.succ_mul, Nat.add_comm _ m,
        Nat.add_comm _ i]
      exact (h a).append ih

end Balance

end Client

namespace Page

open Client

def started (p : Page) : Nat :=
  p.taskCount - p.fresh.length

/-- The requests whose reply is still to be processed: it has not come, or the
task has not been run since. -/
def unprocessed (p : Page) : Nat :=
  p.requests.countP (!·.answered) + p.ready.length

theorem started_congr {p q : Page} (h : q.loop = p.loop) : q.started = p.started :=
  show q.loop.started = p.loop.started from congrArg started h

theorem unprocessed_congr {p q : Page} (h : q.loop = p.loop) : q.unprocessed = p.unprocessed :=
  show q.loop.unprocessed = p.loop.unprocessed from congrArg unprocessed h

/-- A run posts for each fresh task, and brings to an end what it does not leave
open. -/
theorem balance_run (p : Page) : ∃ effects, Balance p.run.2.events p.fresh.length effects
    ∧ effects + p.run.1.unprocessed = p.unprocessed + p.fresh.length := by
  have hends : Balance (p.ready.flatMap fun e => [endOf e.1 e.2]) 0 p.ready.length := by
    simpa using Balance.flatMap (fun e : Nat × Reply => .effect (e := endOf e.1 e.2) rfl) p.ready
  cases h : p.holding with
  | true =>
      have hposts : Balance (p.fresh.map (postOf · true)) p.fresh.length 0 := by
        rw [List.map_eq_flatMap]
        simpa using Balance.flatMap (fun task => .request (e := postOf task true) rfl) p.fresh
      rw [(run_of_holding h).1, (run_of_holding h).2]
      refine ⟨_, by simpa using hends.append hposts, ?_⟩
      simp [unprocessed, List.countP_map, Function.comp_def]
      omega
  | false =>
      have hserved : Balance (p.served.flatMap fun e => [postOf e.1 false, endOf e.1 e.2])
          p.fresh.length p.fresh.length := by
        have hlength : p.served.length = p.fresh.length := by simp [served]
        simpa [hlength] using Balance.flatMap (fun e : Nat × Reply =>
          (Balance.request (e := postOf e.1 false) rfl).append (.effect (e := endOf e.1 e.2) rfl))
          p.served
      rw [(run_of_not_holding h).1, (run_of_not_holding h).2]
      refine ⟨_, by simpa using hends.append hserved, ?_⟩
      simp [unprocessed]
      omega

theorem started_spawn (p : Page) (n : Nat) : (p.spawn n).started = p.started := by
  simp only [started, spawn, List.length_append, List.length_range']
  omega

/-- An answer moves a request from those without an answer to those whose task
is to be run. -/
theorem unprocessed_answer (p : Page) (request : Nat) (reply : Reply) :
    ((p.answer? request reply).getD p).unprocessed = p.unprocessed := by
  rcases p.answer_cases request reply with ⟨task, hopen, hanswer⟩ | ⟨-, hanswer⟩
  · obtain ⟨hlt, hget⟩ := List.getElem?_eq_some_iff.mp hopen
    have hpos : 0 < p.requests.countP (!·.answered) :=
      List.countP_pos_iff.mpr ⟨_, List.mem_of_getElem? hopen, rfl⟩
    rw [hanswer, Option.getD_some]
    simp only [unprocessed, List.countP_set hlt, hget, List.length_append, List.length_singleton]
    simp
    omega
  · rw [hanswer, Option.getD_none]

/-- The requests of an action are those of the tasks that it runs and of direct
logouts, and each of them has its effect or is still to be processed. -/
theorem balance_serve {p : Page} (h : p.Tidy) (clicked : Nat) (action : Action) :
    ∃ requests effects, Balance (p.serve clicked action).2 requests effects
      ∧ (p.serve clicked action).1.started + action.direct = p.started + requests
      ∧ effects + (p.serve clicked action).1.unprocessed = p.unprocessed + requests := by
  cases action with
  | respond reply => exact ⟨0, 0, .nil, rfl, Nat.zero_add _⟩
  | hold on => exact ⟨0, 0, .nil, rfl, Nat.zero_add _⟩
  | answer request reply =>
      refine ⟨0, 0, .nil, ?_, (Nat.zero_add _).trans (p.unprocessed_answer request reply)⟩
      rcases p.answer_cases request reply with ⟨task, -, hanswer⟩ | ⟨-, hanswer⟩ <;>
        simp only [serve, hanswer] <;> rfl
  | run =>
      obtain ⟨effects, hbalance, hunprocessed⟩ := p.balance_run
      obtain ⟨hcount, hfresh, -, -⟩ := p.run_frame
      refine ⟨_, effects, hbalance, ?_, hunprocessed⟩
      have hle := h.length_fresh_le
      simp only [serve, started, hcount, hfresh, Action.direct, List.length_nil]
      omega
  | logout =>
      simp only [serve, logout_eq]
      exact ⟨1, 1, (Balance.request rfl).append (.effect rfl), rfl, Nat.add_comm ..⟩
  | _ => exact ⟨0, 0, .nil, p.started_spawn clicked, Nat.zero_add _⟩

end Page

namespace Client

/-! ## Runs -/

/-- The replies that a run brings, each with the task that it is for. -/
def arrivals (c : Client) : List Action → List (Nat × Reply)
  | [] => []
  | action :: rest => c.page.arriving action ++ (c.step action).2.arrivals rest

def directs : List Action → Nat
  | [] => 0
  | action :: rest => action.direct + directs rest

/-- What a run keeps: widgets and event loop are in order, every task stands at a
stage that its events and replies agree with, and requests and effects are in
balance. -/
structure Accounted (c : Client) (direct : Nat) (arrived : List (Nat × Reply)) : Prop where
  kept : c.Kept
  tidy : c.page.Tidy
  stages : ∀ task, ∃ s, c.page.At task s ∧ eventsOf task c.history = s.events task
    ∧ repliesTo task arrived = s.replies
  balance : ∃ effects, Balance c.history (c.page.started + direct) effects
    ∧ effects + c.page.unprocessed = c.page.started + direct

namespace Accounted

variable {c : Client} {direct : Nat} {arrived : List (Nat × Reply)}

theorem empty : Accounted {} 0 [] where
  kept := by constructor <;> simp
  tidy := by constructor <;> simp
  stages task := ⟨.unborn, Nat.zero_le task, rfl, rfl⟩
  balance := ⟨0, .nil, rfl⟩

theorem step (h : Accounted c direct arrived) (action : Action) :
    Accounted (c.step action).2 (direct + action.direct) (arrived ++ c.page.arriving action) := by
  obtain ⟨hkept, hloop, hhistory⟩ := step_serves h.kept action
  constructor
  · exact hkept
  · exact (h.tidy.serve _ action).congr hloop
  · intro task
    obtain ⟨s, hat, hevents, hreplies⟩ := h.stages task
    obtain ⟨s', hmoves⟩ := Page.exists_moves h.tidy hat (c.spawned action) action
    refine ⟨s', (Page.at_congr hloop).mpr hmoves.stands, ?_, ?_⟩
    · rw [hhistory, eventsOf_append, hevents, hmoves.events]
    · rw [repliesTo_append, hreplies, hmoves.replies]
  · obtain ⟨effects, hbalance, hsettled⟩ := h.balance
    obtain ⟨requests, more, hmore, hstarted, hunprocessed⟩ :=
      Page.balance_serve h.tidy (c.spawned action) action
    have hstarted' : (c.step action).2.page.started
        = (c.page.serve (c.spawned action) action).1.started := Page.started_congr hloop
    have hunprocessed' : (c.step action).2.page.unprocessed
        = (c.page.serve (c.spawned action) action).1.unprocessed := Page.unprocessed_congr hloop
    have hrequests : (c.step action).2.page.started + (direct + action.direct)
        = c.page.started + direct + requests := by
      omega
    refine ⟨effects + more, ?_, by omega⟩
    rw [hhistory, hrequests]
    exact hbalance.append hmore

theorem run (h : Accounted c direct arrived) (actions : List Action) :
    Accounted (c.runAll actions).2 (direct + directs actions) (arrived ++ c.arrivals actions) := by
  induction actions generalizing c direct arrived with
  | nil => simpa [runAll, directs, arrivals] using h
  | cons action rest ih =>
      have hrest := ih (h.step action)
      rw [List.append_assoc, Nat.add_assoc] at hrest
      exact hrest

end Accounted

/-! ## Bystanders -/

/-- Clients whose pages are alike to a task stay so, and what happens to the task
is the same. -/
theorem eventsOf_runAll_of_alike {c d : Client} {task : Nat} {s : Stage} (hc : c.Kept) (hd : d.Kept)
    (hctidy : c.page.Tidy) (hdtidy : d.page.Tidy) (hs : s ≠ .unborn)
    (halike : c.page.Alike d.page task s)
    (hevents : eventsOf task c.history = eventsOf task d.history)
    (more : List Action) :
    eventsOf task (c.runAll more).2.history = eventsOf task (d.runAll more).2.history := by
  -- the stage is general, since the task moves on in both runs together
  induction more generalizing c d s with
  | nil => exact hevents
  | cons action rest ih =>
      obtain ⟨hckept, hcloop, hchistory⟩ := step_serves hc action
      obtain ⟨hdkept, hdloop, hdhistory⟩ := step_serves hd action
      obtain ⟨hnext, hsame⟩ :=
        halike.serve hctidy hdtidy hs (c.spawned action) (d.spawned action) action
      have hafter : eventsOf task (c.step action).2.history
          = eventsOf task (d.step action).2.history := by
        rw [hchistory, hdhistory, eventsOf_append, eventsOf_append, hevents, hsame]
      exact ih hckept hdkept ((hctidy.serve _ action).congr hcloop)
        ((hdtidy.serve _ action).congr hdloop) (Stage.next_ne_unborn hs) (hnext.congr hcloop hdloop)
        hafter

/-- An action that does not concern a task can be left out. -/
theorem eventsOf_runAll_bystander {c : Client} {direct : Nat} {arrived : List (Nat × Reply)}
    (h : Accounted c direct arrived) {task : Nat} (htask : task < c.page.taskCount)
    {bystander : Action} (hbystander : c.page.Bystander task bystander) (more : List Action) :
    eventsOf task (c.runAll (bystander :: more)).2.history
      = eventsOf task (c.runAll more).2.history := by
  obtain ⟨s, hat, -, -⟩ := h.stages task
  have hs : s ≠ .unborn := by
    rintro rfl
    exact Nat.not_le_of_lt htask hat
  obtain ⟨hkept, hloop, hhistory⟩ := step_serves h.kept bystander
  obtain ⟨halike, hnone⟩ :=
    Page.alike_bystander h.tidy hs hat hbystander (c.spawned bystander)
  have hsame : eventsOf task c.history = eventsOf task (c.step bystander).2.history := by
    rw [hhistory, eventsOf_append, hnone, List.append_nil]
  exact (eventsOf_runAll_of_alike h.kept hkept h.tidy ((h.tidy.serve _ bystander).congr hloop) hs
    (halike.congr rfl hloop) hsame more).symm

/-- **One click, one request, one effect.** In every run: an action starts as
many logout tasks as it clicks on controls of living menus. Every task stands at
a stage that tells all that has happened for it: nothing before it is run, then
one request, and when its reply has come and it was run again, the one effect of
this reply. A run of the tasks leaves none behind that could go on. So there are
as many requests as tasks that were run and direct logouts, and as many effects
as requests whose reply was processed. And what happens to a task stays the same
when menus are dropped, opened or clicked again after its click, or when the
requests of others are answered. -/
theorem one_click_one_request_one_effect (actions : List Action) :
    let c := (runAll {} actions).2
    (∀ action,
      let after := (c.step action).2
      after.page.taskCount = c.page.taskCount + c.spawned action
        ∧ ∀ task, c.page.taskCount ≤ task → task < after.page.taskCount → task ∈ after.page.fresh)
      ∧ (∀ task, ∃ stage, c.page.At task stage ∧ eventsOf task c.history = stage.events task
        ∧ repliesTo task (arrivals {} actions) = stage.replies)
      ∧ ((c.step .run).2.page.fresh = [] ∧ (c.step .run).2.page.ready = [])
      ∧ posts c.history = List.replicate (c.page.started + directs actions) logoutEndpoint
      ∧ (navigations c.history).length + (alerts c.history).length + c.page.unprocessed
        = (posts c.history).length
      ∧ ∀ task bystander, task < c.page.taskCount → c.page.Bystander task bystander → ∀ more,
        eventsOf task (runAll {} (actions ++ bystander :: more)).2.history
          = eventsOf task (runAll {} (actions ++ more)).2.history := by
  intro c
  have h : Accounted c (directs actions) (arrivals {} actions) := by
    simpa using Accounted.empty.run actions
  obtain ⟨-, hrun, -⟩ := step_serves h.kept .run
  obtain ⟨-, hfresh, hready⟩ := Page.tasks_congr hrun
  obtain ⟨-, hnoFresh, hnoReady, -⟩ := c.page.run_frame
  obtain ⟨effects, hbalance, hsettled⟩ := h.balance
  refine ⟨fun action => step_spawned h.kept action, h.stages,
    ⟨hfresh.trans hnoFresh, hready.trans hnoReady⟩, hbalance.posts, ?_, ?_⟩
  · rw [hbalance.posts, List.length_replicate, ← hsettled, ← hbalance.settled]
    rfl
  · intro task bystander htask hbystander more
    rw [runAll_append, runAll_append]
    exact eventsOf_runAll_bystander h htask hbystander more

/-- Two clicks while requests are held open; then the menu is dropped and clicked
again, which starts nothing, and the second request is answered. -/
theorem one_click_one_request_one_effect_dropped :
    let before : List Action :=
      [.createMenu .null "menu", .hold true, .click "menu" .control 2, .run]
    let more : List Action := [.click "menu" .control 1, .answer 1 (.ok .notFound), .run]
    let c := (runAll {} (before ++ .drop "menu" :: more)).2
    eventsOf 0 c.history = [postOf 0 true]
      ∧ eventsOf 1 c.history = [postOf 1 true, ⟨.task 1, .navigate homePath, false⟩]
      ∧ c.page.taskCount = 2
      ∧ posts c.history = [logoutEndpoint, logoutEndpoint]
      ∧ (navigations c.history).length + (alerts c.history).length + 1 = 2 := by
  intro before more c
  obtain ⟨-, -, -, -, -, hbystander⟩ := one_click_one_request_one_effect before
  obtain ⟨-, -, -, hposts, heffects, -⟩ :=
    one_click_one_request_one_effect (before ++ .drop "menu" :: more)
  refine ⟨?_, ?_, by decide, hposts, ?_⟩
  · rw [hbystander 0 (.drop "menu") (by decide) trivial more]
    decide
  · rw [hbystander 1 (.drop "menu") (by decide) trivial more]
    decide
  · rw [hposts] at heffects
    exact heffects

end Client

end MenuHost.Menu
