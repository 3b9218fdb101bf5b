import MenuHost.Proofs.Menu.EventLoop

/-!
# How far a logout has come

The life of a logout task, from the click to the effect. A `Stage` says
how far it has come, and with that all that has happened for it so far
(`Stage.events`) and which replies have come for it (`Stage.replies`).
`Page.At` reads the stage off the page.

- Every action moves every task to a stage that agrees with the events
  and replies of this action (`exists_moves`). There is one lemma for
  answers, one for runs, and one for all the rest, which moves nothing.
- A task that was started depends on little: its place among the fresh
  ones, then the number of its request. `Alike` compares two pages in
  just this, so that whatever others do on one of them and not on the
  other (`Bystander`) makes no difference to the task (`Alike.serve`).
-/

namespace MenuHost.Menu

/-- How far the logout of a task has come. -/
inductive Stage where
  /-- No click has started the task. -/
  | unborn
  /-- It has not been run; so many tasks are run before it. -/
  | fresh (before : Nat)
  /-- It has posted, and its request of this number is held open. -/
  | waiting (request : Nat)
  /-- The answer to its request has come, and it has not been run since. -/
  | answered (reply : Reply)
  /-- It has ended with this reply; `held` tells whether its request was held open. -/
  | finished (held : Bool) (reply : Reply)

namespace Stage

/-- All that has happened on behalf of a task. -/
def events (task : Nat) : Stage → List Event
  | unborn => []
  | fresh _ => []
  | waiting _ => [postOf task true]
  | answered _ => [postOf task true]
  | finished held reply => [postOf task held, endOf task reply]

/-- The replies that have come for a task. -/
def replies : Stage → List Reply
  | unborn => []
  | fresh _ => []
  | waiting _ => []
  | answered reply => [reply]
  | finished _ reply => [reply]

/-- The next stage of a task that was started. Of the page it depends on the
scripted replies, on whether requests are held open, and on their number. -/
def next (p : Page) : Stage → Action → Stage
  | fresh before, .run =>
    if p.holding then waiting (p.requests.length + before)
    else finished false (p.scripted before)
  | waiting request, .answer index reply =>
    if index = request then answered reply else waiting request
  | answered reply, .run => finished true reply
  | s, _ => s

theorem next_ne_unborn {p : Page} {s : Stage} {action : Action} (h : s ≠ unborn) :
    s.next p action ≠ unborn := by
  unfold next
  split
  · split <;> nofun
  · split <;> nofun
  · nofun
  · exact h

end Stage

namespace Page

/-- Where a task stands at a stage. -/
def At (p : Page) (task : Nat) : Stage → Prop
  | .unborn => p.taskCount ≤ task
  | .fresh before => p.fresh[before]? = some task
  | .waiting request => p.requests[request]? = some { task }
  | .answered reply => (task, reply) ∈ p.ready
  | .finished _ _ => task < p.taskCount ∧ task ∉ p.fresh ∧ { task } ∉ p.requests
    ∧ task ∉ p.ready.map (·.1)

/-- The replies that an action brings, each with the task that it is for. -/
def arriving (p : Page) : Action → List (Nat × Reply)
  | .answer request reply =>
    match p.requests[request]? with
    | some { task, answered := false } => [(task, reply)]
    | _ => []
  | .run => if p.holding then [] else p.served
  | _ => []

theorem at_congr {p q : Page} {task : Nat} {s : Stage} (hloop : q.loop = p.loop) :
    q.At task s ↔ p.At task s := by
  have h := Iff.of_eq (congrArg (Page.At · task s) hloop)
  cases s <;> exact h

theorem Tidy.lt_of_at {p : Page} (h : p.Tidy) {task : Nat} {s : Stage} (hat : p.At task s)
    (hs : s ≠ .unborn) : task < p.taskCount := by
  cases s with
  | unborn => exact absurd rfl hs
  | fresh before => exact h.lt_of_fresh (List.mem_of_getElem? hat)
  | waiting request => exact h.lt_of_request (List.mem_of_getElem? hat)
  | answered reply => exact h.lt_of_request (h.answered _ hat)
  | finished held reply => exact hat.1

/-! ## The events of a task in a run -/

theorem map_fst_served (p : Page) : p.served.map (·.1) = p.fresh :=
  List.ext_getElem? fun i => by simp [served, Function.comp_def]

theorem repliesTo_served {p : Page} (h : p.Tidy) {task before : Nat}
    (hfresh : p.fresh[before]? = some task) : repliesTo task p.served = [p.scripted before] := by
  refine repliesTo_of_mem ?_ (List.mem_iff_getElem?.mpr ⟨before, by simp [served, hfresh]⟩)
  rw [map_fst_served]
  exact h.nodup_fresh

theorem eventsOf_run_of_holding {p : Page} (h : p.holding = true) (task : Nat) :
    eventsOf task p.run.2.events
      = ((repliesTo task p.ready).flatMap fun reply => [endOf task reply])
        ++ (p.fresh.filter (· = task)).map (postOf · true) := by
  rw [(run_of_holding h).2, eventsOf_append,
    eventsOf_flatMap (f := fun task reply => [endOf task reply]) (by simp [endOf])]
  simp [eventsOf, List.filter_map, Function.comp_def, postOf]

theorem eventsOf_run_of_not_holding {p : Page} (h : p.holding = false) (task : Nat) :
    eventsOf task p.run.2.events
      = ((repliesTo task p.ready).flatMap fun reply => [endOf task reply])
        ++ (repliesTo task p.served).flatMap
          fun reply => [postOf task false, endOf task reply] := by
  rw [(run_of_not_holding h).2, eventsOf_append,
    eventsOf_flatMap (f := fun task reply => [endOf task reply]) (by simp [endOf]),
    eventsOf_flatMap (f := fun task reply => [postOf task false, endOf task reply])
      (by simp [postOf, endOf])]

/-- A task that is not fresh takes part in a run only if its answer has come. -/
theorem eventsOf_run_of_notMem {p : Page} {task : Nat} (h : task ∉ p.fresh) :
    eventsOf task p.run.2.events
        = ((repliesTo task p.ready).flatMap fun reply => [endOf task reply])
      ∧ repliesTo task (p.arriving .run) = [] := by
  cases hholding : p.holding with
  | true =>
      have hnone : p.fresh.filter (· = task) = [] :=
        List.filter_eq_nil_iff.mpr fun other hother heq => h (of_decide_eq_true heq ▸ hother)
      rw [eventsOf_run_of_holding hholding, hnone]
      exact ⟨List.append_nil _, by simp [arriving, hholding, repliesTo]⟩
  | false =>
      have hserved := repliesTo_of_notMem (p.map_fst_served ▸ h)
      rw [eventsOf_run_of_not_holding hholding, hserved]
      exact ⟨List.append_nil _, by simp [arriving, hholding, hserved]⟩

/-! ## One action -/

/-- An action moves a task from one stage to another: it stands there
afterwards, and what has happened and arrived for it since is the difference. -/
structure Moves (p : Page) (clicked : Nat) (action : Action) (task : Nat) (s s' : Stage) :
    Prop where
  stands : (p.serve clicked action).1.At task s'
  events : s'.events task = s.events task ++ eventsOf task (p.serve clicked action).2
  replies : s'.replies = s.replies ++ repliesTo task (p.arriving action)

section

variable {p : Page} {clicked : Nat} {action : Action} {task : Nat} {s : Stage}

/-- A task stays where it is if nothing happens or arrives for it. -/
theorem Moves.stay (hat : (p.serve clicked action).1.At task s)
    (hevents : eventsOf task (p.serve clicked action).2 = [])
    (hreplies : repliesTo task (p.arriving action) = []) : p.Moves clicked action task s s :=
  ⟨hat, by simp [hevents], by simp [hreplies]⟩

theorem at_spawn (h : p.Tidy) (hs : s ≠ .unborn) (hat : p.At task s) (n : Nat) :
    (p.spawn n).At task s := by
  have hlt := h.lt_of_at hat hs
  cases s with
  | unborn => exact absurd rfl hs
  | fresh before =>
      exact (List.getElem?_append_left (List.getElem?_eq_some_iff.mp hat).1).trans hat
  | waiting request => exact hat
  | answered reply => exact hat
  | finished held reply =>
      refine ⟨Nat.lt_add_right n hlt, fun hmem => ?_, hat.2.2⟩
      rcases List.mem_append.mp hmem with hmem | hmem
      · exact hat.2.1 hmem
      · exact Nat.not_le_of_lt hlt (List.mem_range'_1.mp hmem).1

theorem at_spawn_of_unborn (hat : p.At task .unborn) (n : Nat) :
    (p.spawn n).At task .unborn ∨ ∃ before, (p.spawn n).At task (.fresh before) := by
  rcases Nat.lt_or_ge task (p.taskCount + n) with hlt | hle
  · have hle : p.taskCount ≤ task := hat
    refine Or.inr ⟨p.fresh.length + (task - p.taskCount), ?_⟩
    simp only [At, spawn]
    rw [List.getElem?_append_right (Nat.le_add_right ..), Nat.add_sub_cancel_left,
      List.getElem?_range' (by omega)]
    simp [Nat.add_sub_cancel' hle]
  · exact Or.inl hle

/-- A task with an open request waits for its answer. -/
theorem eq_waiting_of_open (h : p.Tidy) {request : Nat}
    (hopen : p.requests[request]? = some { task }) (hat : p.At task s) : s = .waiting request := by
  have hmem := List.mem_of_getElem? hopen
  cases s with
  | unborn => exact absurd hat (Nat.not_le_of_lt (h.lt_of_request hmem))
  | fresh before => exact absurd hmem (h.notMem_of_fresh (List.mem_of_getElem? hat) false)
  | waiting own =>
      have hlt := (List.getElem?_eq_some_iff.mp hat).1
      rw [(List.getElem?_inj hlt h.nodup_requests.of_map).mp (hat.trans hopen.symm)]
  | answered came => cases h.eq_of_mem hmem (h.answered _ hat)
  | finished held came => exact absurd hmem hat.2.2.1

theorem moves_answer_of_ne {request : Nat} (hne : p.requests[request]? ≠ some { task })
    (hat : p.At task s) (reply : Reply) : p.Moves clicked (.answer request reply) task s s := by
  rcases p.answer_cases request reply with ⟨other, hopen, hanswer⟩ | ⟨hnone, hanswer⟩
  · have hother : task ≠ other := by
      rintro rfl
      exact hne hopen
    have hserve : p.serve clicked (.answer request reply) = ({ p with
        requests := p.requests.set request { task := other, answered := true }
        ready := p.ready ++ [(other, reply)] }, []) := by
      simp only [serve, hanswer, Option.getD_some]
    have harriving : p.arriving (.answer request reply) = [(other, reply)] := by
      simp only [arriving, hopen]
    refine .stay ?_ (by rw [hserve]; rfl)
      (by rw [harriving]; exact repliesTo_of_notMem (by simpa using hother))
    rw [hserve]
    cases s with
    | unborn => exact hat
    | fresh before => exact hat
    | waiting own =>
        have hrequest : request ≠ own := by
          rintro rfl
          exact hne hat
        exact (List.getElem?_set_ne hrequest).trans hat
    | answered came => exact List.mem_append_left _ hat
    | finished held came =>
        refine ⟨hat.1, hat.2.1, fun hmem => ?_, ?_⟩
        · rcases List.mem_or_eq_of_mem_set hmem with hmem | heq
          · exact hat.2.2.1 hmem
          · cases heq
        · simpa using ⟨by simpa using hat.2.2.2, hother⟩
  · have hserve : p.serve clicked (.answer request reply) = (p, []) := by
      simp only [serve, hanswer, Option.getD_none]
    refine .stay (by rw [hserve]; exact hat) (by rw [hserve]; rfl) ?_
    simp only [arriving]
    rfl

theorem moves_answer (h : p.Tidy) (hat : p.At task s) (request : Nat) (reply : Reply) :
    p.Moves clicked (.answer request reply) task s (s.next p (.answer request reply)) := by
  by_cases hopen : p.requests[request]? = some { task }
  · obtain rfl := eq_waiting_of_open h hopen hat
    rcases p.answer_cases request reply with ⟨other, hother, hanswer⟩ | ⟨hnone, -⟩
    · cases hopen.symm.trans hother
      simp only [Stage.next, if_true]
      refine ⟨?_, ?_, ?_⟩
      · simp only [serve, hanswer, Option.getD_some]
        exact List.mem_append_right _ (List.mem_singleton_self _)
      · rfl
      · simp [arriving, hopen, Stage.replies, repliesTo]
    · exact absurd hopen (hnone task)
  · have hnext : s.next p (.answer request reply) = s := by
      cases s with
      | waiting own =>
          have hne : request ≠ own := by
            rintro rfl
            exact hopen hat
          exact if_neg hne
      | _ => rfl
    rw [hnext]
    exact moves_answer_of_ne hopen hat reply

/-- A run ends a task that has no open request and is not fresh. -/
theorem at_run_finished (htask : task < p.taskCount) (hfresh : task ∉ p.fresh)
    (hclosed : { task } ∉ p.requests) (held : Bool) (reply : Reply) :
    p.run.1.At task (.finished held reply) := by
  obtain ⟨hcount, hnoFresh, hnoReady, hrequests⟩ := p.run_frame
  refine ⟨hcount ▸ htask, by simp [hnoFresh], fun hmem => ?_, by simp [hnoReady]⟩
  rw [hrequests] at hmem
  rcases List.mem_append.mp hmem with hmem | hmem
  · exact hclosed hmem
  · split at hmem
    · obtain ⟨other, hother, heq⟩ := List.mem_map.mp hmem
      cases heq
      exact hfresh hother
    · exact absurd hmem List.not_mem_nil

/-- A fresh task posts when it is run, and ends at once if its request is not
held open. -/
theorem moves_run_fresh (h : p.Tidy) {before : Nat} (hat : p.At task (.fresh before)) :
    p.Moves clicked .run task (.fresh before) ((Stage.fresh before).next p .run) := by
  have hmem := List.mem_of_getElem? hat
  -- the task is in no other place, so the run goes over it once
  have hready := repliesTo_of_notMem (h.notMem_ready (h.notMem_of_fresh hmem true))
  cases hholding : p.holding with
  | true =>
      have hone : p.fresh.filter (· = task) = [task] := by
        rw [List.filter_eq, List.count_eq_one_of_mem h.nodup_fresh hmem]
        rfl
      simp only [Stage.next, hholding, if_true]
      refine ⟨?_, ?_, ?_⟩
      · simp only [serve, run_of_holding hholding, At]
        rw [List.getElem?_append_right (Nat.le_add_right ..), Nat.add_sub_cancel_left,
          List.getElem?_map, show p.fresh[before]? = some task from hat]
        rfl
      · rw [serve, eventsOf_run_of_holding hholding, hready, hone]
        rfl
      · simp [arriving, hholding, Stage.replies, repliesTo]
  | false =>
      have hserved := repliesTo_served h hat
      simp only [Stage.next, hholding]
      refine ⟨?_, ?_, ?_⟩
      · simp only [serve, run_of_not_holding hholding]
        exact ⟨h.lt_of_fresh hmem, List.not_mem_nil, h.notMem_of_fresh hmem false,
          List.not_mem_nil⟩
      · rw [serve, eventsOf_run_of_not_holding hholding, hready, hserved]
        rfl
      · simp [arriving, hholding, hserved, Stage.replies]

theorem moves_run (h : p.Tidy) (hs : s ≠ .unborn) (hat : p.At task s) :
    p.Moves clicked .run task s (s.next p .run) := by
  cases s with
  | unborn => exact absurd rfl hs
  | fresh before => exact moves_run_fresh h hat
  | waiting request =>
      have hmem := List.mem_of_getElem? hat
      obtain ⟨hevents, hreplies⟩ := eventsOf_run_of_notMem fun hf => h.notMem_of_fresh hf false hmem
      rw [repliesTo_of_notMem (h.notMem_ready_of_open hmem)] at hevents
      refine .stay ?_ hevents hreplies
      show p.run.1.requests[request]? = some { task }
      rw [p.run_frame.2.2.2]
      exact (List.getElem?_append_left (List.getElem?_eq_some_iff.mp hat).1).trans hat
  | answered reply =>
      have hmem := h.answered _ hat
      have hfresh : task ∉ p.fresh := fun hf => h.notMem_of_fresh hf true hmem
      have hclosed : { task } ∉ p.requests := fun hopen => nomatch h.eq_of_mem hopen hmem
      obtain ⟨hevents, hreplies⟩ := eventsOf_run_of_notMem hfresh
      rw [repliesTo_of_mem h.ready_once hat] at hevents
      refine ⟨at_run_finished (h.lt_of_request hmem) hfresh hclosed true reply, ?_, ?_⟩
      · rw [serve, hevents]
        rfl
      · rw [hreplies]
        rfl
  | finished held reply =>
      obtain ⟨hlt, hfresh, hclosed, hready⟩ := hat
      obtain ⟨hevents, hreplies⟩ := eventsOf_run_of_notMem hfresh
      rw [repliesTo_of_notMem hready] at hevents
      exact .stay (at_run_finished hlt hfresh hclosed held reply) hevents hreplies

/-- Apart from answers and runs, nothing moves a task. -/
theorem moves_of_ne (h : p.Tidy) (hs : s ≠ .unborn) (hat : p.At task s)
    (hanswer : ∀ request reply, action ≠ .answer request reply) (hrun : action ≠ .run) :
    p.Moves clicked action task s s := by
  cases action with
  | answer request reply => exact absurd rfl (hanswer request reply)
  | run => exact absurd rfl hrun
  | respond reply => exact .stay (by cases s <;> exact hat) rfl rfl
  | hold on => exact .stay (by cases s <;> exact hat) rfl rfl
  | logout =>
      refine .stay ?_ ?_ rfl
      · simp only [serve, logout_eq]
        cases s <;> exact hat
      · simp only [serve, logout_eq]
        rfl
  | _ => exact .stay (at_spawn h hs hat clicked) rfl rfl

/-- Every action moves a task that was started to its next stage. -/
theorem moves_next (h : p.Tidy) (hs : s ≠ .unborn) (hat : p.At task s) (clicked : Nat)
    (action : Action) : p.Moves clicked action task s (s.next p action) := by
  cases action with
  | answer request reply => exact moves_answer h hat request reply
  | run => exact moves_run h hs hat
  | _ =>
      -- the stages that another action could change are those of an answer or a run
      cases s <;> exact moves_of_ne h hs hat nofun nofun

/-- A task is started by a click, and is fresh then. -/
theorem exists_moves_unborn (h : p.Tidy) (hat : p.At task .unborn) :
    ∃ s', p.Moves clicked action task .unborn s' := by
  have hfresh : task ∉ p.fresh := fun hmem => Nat.not_le_of_lt (h.lt_of_fresh hmem) hat
  have hrequest : ∀ answered, { task, answered } ∉ p.requests :=
    fun _ hmem => Nat.not_le_of_lt (h.lt_of_request hmem) hat
  cases action with
  | answer request reply =>
      exact ⟨_, moves_answer_of_ne (fun hopen => hrequest _ (List.mem_of_getElem? hopen)) hat reply⟩
  | run =>
      have hlater : p.run.1.taskCount ≤ task := by
        rw [p.run_frame.1]
        exact hat
      obtain ⟨hevents, hreplies⟩ := eventsOf_run_of_notMem hfresh
      rw [repliesTo_of_notMem (h.notMem_ready (hrequest true))] at hevents
      exact ⟨_, .stay hlater hevents hreplies⟩
  | respond reply => exact ⟨_, .stay hat rfl rfl⟩
  | hold on => exact ⟨_, .stay hat rfl rfl⟩
  | logout =>
      refine ⟨_, .stay (s := .unborn) ?_ ?_ rfl⟩
      · simp only [serve, logout_eq]
        exact hat
      · simp only [serve, logout_eq]
        rfl
  | _ =>
      rcases at_spawn_of_unborn hat clicked with hlater | ⟨before, hfresh⟩
      · exact ⟨_, .stay hlater rfl rfl⟩
      · exact ⟨.fresh before, hfresh, rfl, rfl⟩

theorem exists_moves (h : p.Tidy) (hat : p.At task s) (clicked : Nat) (action : Action) :
    ∃ s', p.Moves clicked action task s s' := by
  by_cases hs : s = .unborn
  · subst hs
    exact exists_moves_unborn h hat
  · exact ⟨_, moves_next h hs hat clicked action⟩

end

/-! ## Two pages -/

/-- What a fresh task finds when it is run, beside its place among the others. -/
def outlook (p : Page) : List Reply × Bool × Nat :=
  (p.replies, p.holding, p.requests.length)

/-- Two pages are alike to a task: it stands at the same stage, and as long as it
has not been run, it has the same to expect. -/
structure Alike (p q : Page) (task : Nat) (s : Stage) : Prop where
  left : p.At task s
  right : q.At task s
  outlook : ∀ before, s = .fresh before → p.outlook = q.outlook

theorem outlook_answer (p : Page) (request : Nat) (reply : Reply) :
    ((p.answer? request reply).getD p).outlook = p.outlook := by
  rcases p.answer_cases request reply with ⟨task, -, hanswer⟩ | ⟨-, hanswer⟩ <;>
    simp [hanswer, outlook]

/-- An action other than a run has the same consequences for what a fresh task
has to expect, whatever else is on the pages. -/
theorem outlook_serve {p q : Page} (h : p.outlook = q.outlook) {action : Action}
    (hrun : action ≠ .run) (m n : Nat) :
    (p.serve m action).1.outlook = (q.serve n action).1.outlook := by
  cases action with
  | run => exact absurd rfl hrun
  | answer request reply => exact (outlook_answer ..).trans (h.trans (outlook_answer ..).symm)
  | respond reply =>
      exact congrArg (fun o : List Reply × Bool × Nat => (o.1 ++ [reply], o.2)) h
  | hold on => exact congrArg (fun o : List Reply × Bool × Nat => (o.1, on, o.2.2)) h
  | logout =>
      simp only [serve, logout_eq]
      exact congrArg (fun o : List Reply × Bool × Nat => (o.1.drop 1, o.2)) h
  | _ => exact h

theorem next_congr {p q : Page} {s : Stage}
    (h : ∀ before, s = .fresh before → p.outlook = q.outlook) (action : Action) :
    s.next p action = s.next q action := by
  cases s with
  | fresh before =>
      have houtlook := h before rfl
      simp only [Page.outlook, Prod.mk.injEq] at houtlook
      obtain ⟨hreplies, hholding, hlength⟩ := houtlook
      cases action <;> simp [Stage.next, scripted, hreplies, hholding, hlength]
  | _ => cases action <;> rfl

theorem eq_fresh_of_next {p : Page} {s : Stage} {action : Action} {before : Nat}
    (h : s.next p action = .fresh before) : s = .fresh before ∧ action ≠ .run := by
  cases action with
  | run =>
      cases s with
      | fresh place =>
          simp only [Stage.next] at h
          split at h <;> cases h
      | _ => cases h
  | answer index reply =>
      cases s with
      | waiting request =>
          simp only [Stage.next] at h
          split at h <;> cases h
      | _ => exact ⟨h, nofun⟩
  | _ => cases s <;> exact ⟨h, nofun⟩

theorem Alike.congr {p q p' q' : Page} {task : Nat} {s : Stage} (h : Alike p q task s)
    (hp : p'.loop = p.loop) (hq : q'.loop = q.loop) : Alike p' q' task s := by
  have houtlook : ∀ {p p' : Page}, p'.loop = p.loop → p'.outlook = p.outlook := fun {p p'} hloop =>
    show p'.loop.outlook = p.loop.outlook from congrArg Page.outlook hloop
  refine ⟨(at_congr hp).mpr h.left, (at_congr hq).mpr h.right, fun before hbefore => ?_⟩
  rw [houtlook hp, houtlook hq]
  exact h.outlook before hbefore

/-- Pages that are alike to a task stay so, and the same happens to it. -/
theorem Alike.serve {p q : Page} {task : Nat} {s : Stage} (h : Alike p q task s) (hp : p.Tidy)
    (hq : q.Tidy) (hs : s ≠ .unborn) (m n : Nat) (action : Action) :
    Alike (p.serve m action).1 (q.serve n action).1 task (s.next p action)
      ∧ eventsOf task (p.serve m action).2 = eventsOf task (q.serve n action).2 := by
  have hleft := moves_next hp hs h.left m action
  have hright := moves_next hq hs h.right n action
  rw [← next_congr h.outlook action] at hright
  refine ⟨⟨hleft.stands, hright.stands, fun before hbefore => ?_⟩, ?_⟩
  · obtain ⟨hfresh, hrun⟩ := eq_fresh_of_next hbefore
    exact outlook_serve (h.outlook before hfresh) hrun m n
  · exact List.append_cancel_left (hleft.events.symm.trans hright.events)

/-- What does not concern a task: anything but runs, direct logouts, changes of
what is scripted or held open, and the answer to its own request. -/
def Bystander (p : Page) (task : Nat) : Action → Prop
  | .respond _ => False
  | .hold _ => False
  | .run => False
  | .logout => False
  | .answer request _ => p.requests[request]? ≠ some { task }
  | _ => True

theorem alike_bystander {p : Page} {task : Nat} {s : Stage} {action : Action} (h : p.Tidy)
    (hs : s ≠ .unborn) (hat : p.At task s) (hbystander : p.Bystander task action) (n : Nat) :
    Alike p (p.serve n action).1 task s ∧ eventsOf task (p.serve n action).2 = [] := by
  obtain ⟨hmoves, houtlook⟩ :
      p.Moves n action task s s ∧ p.outlook = (p.serve n action).1.outlook := by
    cases action with
    | answer request reply =>
        exact ⟨moves_answer_of_ne hbystander hat reply, (outlook_answer ..).symm⟩
    | respond reply => exact hbystander.elim
    | hold on => exact hbystander.elim
    | run => exact hbystander.elim
    | logout => exact hbystander.elim
    | _ => exact ⟨moves_of_ne h hs hat nofun nofun, rfl⟩
  exact ⟨⟨hat, hmoves.stands, fun _ _ => houtlook⟩, List.self_eq_append_right.mp hmoves.events⟩

end Page

end MenuHost.Menu
