import Mathlib.Data.List.Nodup
import Mathlib.Data.List.Perm.Subperm
import MenuHost.Menu.Client

/-!
# The event loop of a page

What an action asks of the event loop, without the elements and listeners
of the page. `Page.serve` is this part of an action: clicks come in as a
number of tasks to start, and the rest of the document plays no role.

- A run of the tasks has a closed form. While requests are held open,
  every fresh task leaves its request behind (`run_of_holding`);
  otherwise the fresh tasks take the scripted replies one after the other
  and end (`run_of_not_holding`). Either way the tasks whose answer has
  come end first.
- `Page.Tidy` says that no task is in two places at once. Every action
  keeps it (`Tidy.serve`), and it is what makes the events of one task
  readable from the lists of the page: a task has one reply among those
  that are handed out (`repliesTo_of_mem`).
-/

namespace MenuHost.Menu

/-! ## Events and replies of a task -/

/-- What a logout does to the world when its reply has come. -/
def effectFor : Reply → Effect
  | .ok status =>
    if status.code = 200 ∨ status.code = 404 then .navigate homePath
    else .alert logoutFailedMessage
  | .error _ => .alert logoutFailedMessage

theorem effectFor_cases (reply : Reply) :
    effectFor reply = .navigate homePath ∨ effectFor reply = .alert logoutFailedMessage := by
  cases reply with
  | error e => exact Or.inr rfl
  | ok status => exact ite_eq_or_eq ..

theorem effect_ofReply (reply : Reply) :
    (LogoutOutcome.ofReply reply).effect = effectFor reply := by
  cases reply with
  | error e => rfl
  | ok status =>
      have hok : status = .ok ↔ status.code = 200 := by
        cases status
        simp [Http.Status.ok]
      have hnotFound : status = .notFound ↔ status.code = 404 := by
        cases status
        simp [Http.Status.notFound]
      simp only [LogoutOutcome.ofReply, effectFor, hok, hnotFound]
      by_cases h200 : status.code = 200
      · simp [h200, LogoutOutcome.effect]
      · by_cases h404 : status.code = 404 <;> simp [h200, h404, LogoutOutcome.effect]

def postOf (task : Nat) (held : Bool) : Event :=
  { origin := .task task, effect := .post logoutEndpoint, held }

/-- The effect that a task ends with. -/
def endOf (task : Nat) (reply : Reply) : Event :=
  { origin := .task task, effect := effectFor reply }

def eventsOf (task : Nat) (history : List Event) : List Event :=
  history.filter (·.origin = .task task)

def repliesTo (task : Nat) (replies : List (Nat × Reply)) : List Reply :=
  (replies.filter (·.1 = task)).map (·.2)

theorem eventsOf_append (task : Nat) (history more : List Event) :
    eventsOf task (history ++ more) = eventsOf task history ++ eventsOf task more :=
  List.filter_append ..

theorem repliesTo_append (task : Nat) (replies more : List (Nat × Reply)) :
    repliesTo task (replies ++ more) = repliesTo task replies ++ repliesTo task more := by
  simp [repliesTo]

theorem repliesTo_of_notMem {task : Nat} {replies : List (Nat × Reply)}
    (h : task ∉ replies.map (·.1)) : repliesTo task replies = [] := by
  rw [repliesTo, List.map_eq_nil_iff, List.filter_eq_nil_iff]
  intro e he heq
  exact h (List.mem_map.mpr ⟨e, he, of_decide_eq_true heq⟩)

/-- Where no task stands twice, a task has one reply. -/
theorem repliesTo_of_mem {task : Nat} {reply : Reply} {replies : List (Nat × Reply)}
    (hnd : (replies.map (·.1)).Nodup) (h : (task, reply) ∈ replies) :
    repliesTo task replies = [reply] := by
  obtain ⟨before, after, rfl⟩ := List.append_of_mem h
  rw [List.map_append, List.map_cons, List.nodup_middle, List.nodup_cons, List.mem_append,
    not_or] at hnd
  have hhead : repliesTo task ((task, reply) :: after) = reply :: repliesTo task after := by
    simp [repliesTo]
  rw [repliesTo_append, hhead, repliesTo_of_notMem hnd.1.1, repliesTo_of_notMem hnd.1.2,
    List.nil_append]

/-- A task takes part in the events of its own replies only. -/
theorem eventsOf_flatMap {f : Nat → Reply → List Event}
    (hf : ∀ task reply, ∀ e ∈ f task reply, e.origin = .task task) (task : Nat)
    (replies : List (Nat × Reply)) :
    eventsOf task (replies.flatMap fun e => f e.1 e.2)
      = (repliesTo task replies).flatMap (f task) := by
  induction replies with
  | nil => rfl
  | cons e rest ih =>
      obtain ⟨other, reply⟩ := e
      rw [List.flatMap_cons, eventsOf_append, ih]
      by_cases h : other = task
      · subst h
        have hall : eventsOf other (f other reply) = f other reply :=
          List.filter_eq_self.mpr fun e he => decide_eq_true (hf other reply e he)
        simp [repliesTo, hall]
      · have hnone : eventsOf task (f other reply) = [] := by
          rw [eventsOf, List.filter_eq_nil_iff]
          intro e he heq
          exact h (Origin.task.inj ((hf other reply e he).symm.trans (of_decide_eq_true heq)))
        simp [repliesTo, hnone, h]

namespace Page

/-! ## What the event loop does -/

/-- The event loop of a page, without its document. -/
def loop (p : Page) : Page :=
  { p with elements := [], attached := [], listenerCount := 0 }

theorem tasks_congr {p q : Page} (h : q.loop = p.loop) :
    q.taskCount = p.taskCount ∧ q.fresh = p.fresh ∧ q.ready = p.ready := by
  simp only [loop, mk.injEq] at h
  simp [h]

def spawn (p : Page) (n : Nat) : Page :=
  { p with
    fresh := p.fresh ++ List.range' p.taskCount n
    taskCount := p.taskCount + n }

theorem spawn_zero (p : Page) : p.spawn 0 = p := by
  simp [spawn]

theorem spawn_spawn (p : Page) (m n : Nat) : (p.spawn m).spawn n = p.spawn (m + n) := by
  simp [spawn, List.range'_append_1, Nat.add_assoc]

theorem click_eq (p : Page) (element : Nat) :
    p.click element = p.spawn (p.listenersOn element).length := by
  simp [click, spawn, List.range'_eq_map_range]

theorem clickTimes_eq (p : Page) (element times : Nat) :
    p.clickTimes element times = p.spawn (times * (p.listenersOn element).length) := by
  induction times with
  | zero => simp [clickTimes, Nat.repeat, spawn]
  | succ times ih =>
      -- a click starts tasks and attaches nothing, so the next one meets the same listeners
      have hsame : (p.clickTimes element times).listenersOn element = p.listenersOn element := by
        rw [ih]
        rfl
      show (p.clickTimes element times).click element = _
      rw [click_eq, hsame, ih, spawn_spawn, Nat.succ_mul]

/-- The reply to the request that stands at a place of the queue, if it is not
held open. -/
def scripted (p : Page) (i : Nat) : Reply :=
  p.replies[i]?.getD unscripted

/-- The fresh tasks with the replies that they get if they are not held open. -/
def served (p : Page) : List (Nat × Reply) :=
  p.fresh.mapIdx fun i task => (task, p.scripted i)

theorem takeReply_eq (p : Page) :
    p.takeReply = (p.scripted 0, { p with replies := p.replies.drop 1 }) := by
  obtain ⟨elements, attached, listenerCount, replies⟩ := p
  cases replies <;> rfl

theorem start_of_holding {p : Page} (h : p.holding = true) (task : Nat) :
    p.start task = ({ p with requests := p.requests ++ [{ task }] }, posted (.task task) true) :=
  if_pos h

theorem start_of_not_holding {p : Page} (h : p.holding = false) (task : Nat) :
    p.start task = ({ p with replies := p.replies.drop 1 },
      posted (.task task) false ++ finish (.task task) (p.scripted 0)) := by
  simp [start, h, takeReply_eq]

theorem startAll_cons (p : Page) (task : Nat) (rest : List Nat) :
    p.startAll (task :: rest) = (((p.start task).1.startAll rest).1,
      (p.start task).2 ++ ((p.start task).1.startAll rest).2) := rfl

/-- While requests are held open, each task leaves its request behind. -/
theorem startAll_of_holding {p : Page} (h : p.holding = true) (tasks : List Nat) :
    (p.startAll tasks).1 = { p with requests := p.requests ++ tasks.map (HeldRequest.mk · false) }
      ∧ (p.startAll tasks).2.events = tasks.map (postOf · true) := by
  induction tasks generalizing p with
  | nil => exact ⟨by simp [startAll], rfl⟩
  | cons task rest ih =>
      obtain ⟨hpage, hevents⟩ := ih (p := (p.start task).1) (by rw [start_of_holding h]; exact h)
      rw [startAll_cons, Activity.events_append, hpage, hevents, start_of_holding h]
      exact ⟨by simp, rfl⟩

/-- While requests are not held open, each task takes the next scripted reply
and ends. -/
theorem startAll_of_not_holding {p : Page} (h : p.holding = false) (tasks : List Nat) :
    (p.startAll tasks).1 = { p with replies := p.replies.drop tasks.length }
      ∧ (p.startAll tasks).2.events
        = (tasks.mapIdx fun i task => (task, p.scripted i)).flatMap fun e =>
          [postOf e.1 false, endOf e.1 e.2] := by
  induction tasks generalizing p with
  | nil => exact ⟨by simp [startAll], rfl⟩
  | cons task rest ih =>
      obtain ⟨hpage, hevents⟩ :=
        ih (p := (p.start task).1) (by rw [start_of_not_holding h]; exact h)
      rw [startAll_cons, Activity.events_append, hpage, hevents, start_of_not_holding h,
        List.mapIdx_cons, List.flatMap_cons]
      constructor
      · simp
      · simp [scripted, posted, finish, postOf, endOf, effect_ofReply]

/-- A run first ends the tasks whose answer has come. -/
theorem events_run (p : Page) :
    p.run.2.events = (p.ready.flatMap fun e => [endOf e.1 e.2])
      ++ ({ p with ready := [], fresh := [] }.startAll p.fresh).2.events := by
  have hresumed : ∀ (ready : List (Nat × Reply)) (a : Activity),
      (ready.foldl (fun a e => a ++ finish (.task e.1) e.2) a).events
        = a.events ++ ready.flatMap fun e => [endOf e.1 e.2] := by
    intro ready
    induction ready with
    | nil => simp
    | cons e rest ih =>
        intro a
        rw [List.foldl_cons, ih]
        simp [finish, endOf, effect_ofReply]
  exact congrArg (· ++ _) (hresumed p.ready .none)

theorem run_of_holding {p : Page} (h : p.holding = true) :
    p.run.1 = { p with
        fresh := []
        ready := []
        requests := p.requests ++ p.fresh.map (HeldRequest.mk · false) }
      ∧ p.run.2.events
        = (p.ready.flatMap fun e => [endOf e.1 e.2]) ++ p.fresh.map (postOf · true) := by
  obtain ⟨hpage, hevents⟩ :=
    startAll_of_holding (p := { p with ready := [], fresh := [] }) h p.fresh
  exact ⟨hpage, by rw [events_run, hevents]⟩

theorem run_of_not_holding {p : Page} (h : p.holding = false) :
    p.run.1 = { p with
        fresh := []
        ready := []
        replies := p.replies.drop p.fresh.length }
      ∧ p.run.2.events = (p.ready.flatMap fun e => [endOf e.1 e.2])
        ++ p.served.flatMap fun e => [postOf e.1 false, endOf e.1 e.2] := by
  obtain ⟨hpage, hevents⟩ :=
    startAll_of_not_holding (p := { p with ready := [], fresh := [] }) h p.fresh
  exact ⟨hpage, by rw [events_run, hevents]; rfl⟩

/-- A run leaves no task behind that could go on. -/
theorem run_frame (p : Page) :
    p.run.1.taskCount = p.taskCount ∧ p.run.1.fresh = [] ∧ p.run.1.ready = []
      ∧ p.run.1.requests
        = p.requests ++ if p.holding then p.fresh.map (HeldRequest.mk · false) else [] := by
  cases h : p.holding with
  | true => simp [run_of_holding h]
  | false => simp [run_of_not_holding h]

/-- What an action means to the event loop, if it clicks so many listeners: the
page afterwards, and the events. -/
def serve (p : Page) (clicked : Nat) : Action → Page × List Event
  | .respond reply => ({ p with replies := p.replies ++ [reply] }, [])
  | .hold on => ({ p with holding := on }, [])
  | .answer request reply => ((p.answer? request reply).getD p, [])
  | .run => (p.run.1, p.run.2.events)
  | .logout => (p.logout.2.1, p.logout.2.2.events)
  | _ => (p.spawn clicked, [])

/-- Only a request that still waits can be answered. -/
theorem answer_cases (p : Page) (request : Nat) (reply : Reply) :
    (∃ task, p.requests[request]? = some { task }
        ∧ p.answer? request reply = some { p with
          requests := p.requests.set request { task, answered := true }
          ready := p.ready ++ [(task, reply)] })
      ∨ ((∀ task, p.requests[request]? ≠ some { task }) ∧ p.answer? request reply = none) := by
  unfold answer?
  split
  · next task heq => exact Or.inl ⟨task, heq, rfl⟩
  · next hne => exact Or.inr ⟨fun task heq => hne task heq, rfl⟩

theorem logout_eq (p : Page) : p.logout.2.1 = { p with replies := p.replies.drop 1 }
    ∧ p.logout.2.2.events
      = [{ origin := .direct, effect := .post logoutEndpoint },
        { origin := .direct, effect := effectFor (p.scripted 0) }] := by
  simp [logout, takeReply_eq, posted, finish, effect_ofReply]

/-! ## Every task in one place -/

/-- Every task stands in one place: it is fresh, or it has at most one request;
and only the tasks of answered requests are ready, once each. -/
structure Tidy (p : Page) : Prop where
  once : (p.fresh ++ p.requests.map (·.task)).Nodup
  counted : ∀ task ∈ p.fresh ++ p.requests.map (·.task), task < p.taskCount
  ready_once : (p.ready.map (·.1)).Nodup
  answered : ∀ e ∈ p.ready, { task := e.1, answered := true } ∈ p.requests

namespace Tidy

variable {p : Page}

theorem congr (h : p.Tidy) {q : Page} (hloop : q.loop = p.loop) : q.Tidy := by
  have htidy : q.loop.Tidy := hloop ▸ ⟨h.once, h.counted, h.ready_once, h.answered⟩
  exact ⟨htidy.once, htidy.counted, htidy.ready_once, htidy.answered⟩

theorem nodup_fresh (h : p.Tidy) : p.fresh.Nodup :=
  (List.nodup_append.mp h.once).1

theorem nodup_requests (h : p.Tidy) : (p.requests.map (·.task)).Nodup :=
  (List.nodup_append.mp h.once).2.1

theorem lt_of_fresh (h : p.Tidy) {task : Nat} (htask : task ∈ p.fresh) : task < p.taskCount :=
  h.counted task (List.mem_append_left _ htask)

theorem lt_of_request (h : p.Tidy) {task : Nat} {answered : Bool}
    (hmem : { task, answered } ∈ p.requests) : task < p.taskCount :=
  h.counted task (List.mem_append_right _ (List.mem_map_of_mem (f := HeldRequest.task) hmem))

theorem length_fresh_le (h : p.Tidy) : p.fresh.length ≤ p.taskCount := by
  have hsub : p.fresh ⊆ List.range p.taskCount :=
    fun task htask => List.mem_range.mpr (h.lt_of_fresh htask)
  simpa using (h.nodup_fresh.subperm hsub).length_le

theorem notMem_of_fresh (h : p.Tidy) {task : Nat} (htask : task ∈ p.fresh) (answered : Bool) :
    { task, answered } ∉ p.requests := fun hmem =>
  (List.nodup_append.mp h.once).2.2 task htask task (List.mem_map_of_mem hmem) rfl

theorem eq_of_mem (h : p.Tidy) {task : Nat} {a b : Bool} (ha : { task, answered := a } ∈ p.requests)
    (hb : { task, answered := b } ∈ p.requests) : a = b :=
  congrArg HeldRequest.answered
    (List.inj_on_of_nodup_map h.nodup_requests ha hb rfl)

theorem notMem_ready (h : p.Tidy) {task : Nat} (hne : { task, answered := true } ∉ p.requests) :
    task ∉ p.ready.map (·.1) := by
  intro hready
  obtain ⟨e, he, rfl⟩ := List.mem_map.mp hready
  exact hne (h.answered e he)

theorem notMem_ready_of_open (h : p.Tidy) {task : Nat} (hopen : { task } ∈ p.requests) :
    task ∉ p.ready.map (·.1) :=
  h.notMem_ready fun hmem => nomatch h.eq_of_mem hopen hmem

theorem spawn (h : p.Tidy) (n : Nat) : (p.spawn n).Tidy := by
  have hnew : ∀ task ∈ List.range' p.taskCount n, p.taskCount ≤ task ∧ task < p.taskCount + n := by
    intro task htask
    rwa [List.mem_range'_1] at htask
  refine ⟨?_, ?_, h.ready_once, h.answered⟩
  · have hperm : ((p.spawn n).fresh ++ (p.spawn n).requests.map (·.task)).Perm
        ((p.fresh ++ p.requests.map (·.task)) ++ List.range' p.taskCount n) := by
      simp only [Page.spawn, List.append_assoc]
      exact List.Perm.append_left _ List.perm_append_comm
    rw [hperm.nodup_iff, List.nodup_append]
    refine ⟨h.once, List.nodup_range', fun old hold new hmem heq => ?_⟩
    have hlt := h.counted old hold
    have hle := (hnew new hmem).1
    omega
  · intro task htask
    simp only [Page.spawn, List.mem_append, List.append_assoc] at htask ⊢
    rcases htask with hfresh | htask | hrequest
    · exact Nat.lt_add_right n (h.counted task (by simp [hfresh]))
    · exact (hnew task htask).2
    · exact Nat.lt_add_right n (h.counted task (by simp [hrequest]))

theorem answer (h : p.Tidy) {request task : Nat} (hopen : p.requests[request]? = some { task })
    (reply : Reply) : Tidy { p with
      requests := p.requests.set request { task, answered := true }
      ready := p.ready ++ [(task, reply)] } := by
  obtain ⟨hlt, hget⟩ := List.getElem?_eq_some_iff.mp hopen
  have htasks : (p.requests.set request { task, answered := true }).map (·.task)
      = p.requests.map (·.task) := by
    have hlt' : request < (p.requests.map (·.task)).length := by simpa using hlt
    have hself := List.set_getElem_self hlt'
    rw [List.getElem_map, hget] at hself
    rw [List.map_set]
    exact hself
  refine ⟨?_, ?_, ?_, ?_⟩
  · rw [htasks]
    exact h.once
  · rw [htasks]
    exact h.counted
  · rw [List.map_append, List.nodup_append]
    refine ⟨h.ready_once, List.nodup_singleton _, ?_⟩
    rintro ready hready _ hmem rfl
    rw [List.mem_singleton.mp hmem] at hready
    exact h.notMem_ready_of_open (List.mem_of_getElem? hopen) hready
  · intro e he
    rcases List.mem_append.mp he with he | he
    · -- the request that is answered now was open, so it is none of the answered ones
      obtain ⟨i, hi⟩ := List.mem_iff_getElem?.mp (h.answered e he)
      have hne : request ≠ i := by
        rintro rfl
        cases hopen.symm.trans hi
      exact List.mem_iff_getElem?.mpr ⟨i, by rw [List.getElem?_set_ne hne, hi]⟩
    · rw [List.mem_singleton.mp he]
      exact List.mem_set hlt _

theorem run (h : p.Tidy) : p.run.1.Tidy := by
  cases hholding : p.holding with
  | true =>
      have htasks : (p.requests ++ p.fresh.map (HeldRequest.mk · false)).map (·.task)
          = p.requests.map (·.task) ++ p.fresh := by
        simp [Function.comp_def]
      rw [(run_of_holding hholding).1]
      refine ⟨?_, ?_, List.nodup_nil, nofun⟩
      · rw [htasks, List.nil_append, List.perm_append_comm.nodup_iff]
        exact h.once
      · rw [htasks, List.nil_append]
        exact fun task htask => h.counted task (List.perm_append_comm.mem_iff.mp htask)
  | false =>
      rw [(run_of_not_holding hholding).1]
      exact ⟨h.nodup_requests,
        fun task htask => h.counted task (List.mem_append_right _ htask), List.nodup_nil, nofun⟩

theorem serve (h : p.Tidy) (clicked : Nat) (action : Action) : (p.serve clicked action).1.Tidy := by
  cases action with
  | respond reply => exact ⟨h.once, h.counted, h.ready_once, h.answered⟩
  | hold on => exact ⟨h.once, h.counted, h.ready_once, h.answered⟩
  | answer request reply =>
      rcases p.answer_cases request reply with ⟨task, hopen, hanswer⟩ | ⟨-, hanswer⟩
      · simp only [Page.serve, hanswer, Option.getD_some]
        exact h.answer hopen reply
      · simp only [Page.serve, hanswer, Option.getD_none]
        exact h
  | run => exact h.run
  | logout =>
      simp only [Page.serve, logout_eq]
      exact ⟨h.once, h.counted, h.ready_once, h.answered⟩
  | _ => exact h.spawn clicked

end Tidy

end Page

end MenuHost.Menu
