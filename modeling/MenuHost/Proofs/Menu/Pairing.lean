import Mathlib.Data.List.Induction
import Mathlib.Data.List.ReduceOption
import MenuHost.Proofs.Menu.Deliveries

/-!
# Replies are paired with clicks

As long as no request is held open, a task that is run takes the next
scripted reply and ends. So the history of a client is a list of pairs, a
request and an effect for each click that was delivered, in the order of
the clicks (`pairs`), and the replies are handed out in the order in
which they were queued.

Which reply a task gets is said without the event loop. `Paired` keeps,
for the tasks that have been run, the reply that each of them took, or
`none` if the queue was empty. Task `k` is run by the first run after its
click (`RunsAfter`), and takes the reply that stands in the queue behind
those which the tasks before it took. If all replies are queued before
the first run, this depends on the number of clicks only, and where the
runs stand between them is of no account (`eq_offers`).
-/

namespace MenuHost.Menu

/-! ## Actions and what they queue -/

/-- No request is held open from here on, and nothing logs out without a click. -/
def Action.LeavesNoRequest : Action → Prop
  | .hold on => on = false
  | .logout => False
  | _ => True

def Action.reply? : Action → Option Reply
  | .respond reply => some reply
  | _ => none

def queued (actions : List Action) : List Reply :=
  actions.filterMap Action.reply?

/-- All replies are queued before the first run. -/
def QueuesFirst (actions : List Action) : Prop :=
  ∃ first rest, actions = first ++ rest ∧ (∀ action ∈ first, action.isRun = false)
    ∧ queued rest = []

theorem queued_append (actions more : List Action) :
    queued (actions ++ more) = queued actions ++ queued more :=
  List.filterMap_append ..

theorem queued_withoutRuns (actions : List Action) :
    queued (withoutRuns actions) = queued actions := by
  induction actions with
  | nil => rfl
  | cons action rest ih =>
      cases action with
      | respond reply => exact congrArg (reply :: ·) ih
      | _ => exact ih

/-- At every run, all replies have been queued. -/
theorem QueuesFirst.queued_eq {actions before : List Action} (h : QueuesFirst actions)
    (hrun : before ++ [.run] <+: actions) : queued before = queued actions := by
  obtain ⟨first, rest, rfl, hfirst, hrest⟩ := h
  obtain ⟨after, hafter⟩ := hrun
  rcases List.append_eq_append_iff.mp hafter with ⟨more, rfl, -⟩ | ⟨more, hbefore, rfl⟩
  · exact nomatch hfirst .run (by simp)
  · have hmore : queued more = [] := (List.append_eq_nil_iff.mp (queued_append .. ▸ hrest)).1
    have hqueued := congrArg queued hbefore
    rw [queued_append, queued_append, hmore] at hqueued
    rw [queued_append, hrest, ← hqueued]
    exact (List.append_nil _).symm

theorem QueuesFirst.concat_run {actions : List Action} (h : QueuesFirst actions) :
    QueuesFirst (actions ++ [.run]) := by
  obtain ⟨first, rest, rfl, hfirst, hrest⟩ := h
  refine ⟨first, rest ++ [.run], List.append_assoc .., hfirst, ?_⟩
  rw [queued_append, hrest]
  rfl

/-! ## Requests and effects in pairs -/

/-- The events of tasks that were run one after the other, given the reply that
each of them took. -/
def pairs (taken : List (Option Reply)) : List Event :=
  taken.zipIdx.flatMap fun (reply, task) =>
    [postOf task false, endOf task (reply.getD Page.unscripted)]

/-- What a queue offers to so many tasks. -/
def offers (replies : List Reply) (n : Nat) : List (Option Reply) :=
  (List.range n).map (replies[·]?)

theorem offers_succ (replies : List Reply) (n : Nat) :
    offers replies (n + 1) = offers replies n ++ [replies[n]?] := by
  rw [offers, List.range_succ, List.map_append]
  rfl

theorem length_offers (replies : List Reply) (n : Nat) : (offers replies n).length = n := by
  simp [offers]

theorem take_offers {replies : List Reply} {m n : Nat} (h : m ≤ n) :
    (offers replies n).take m = offers replies m := by
  rw [offers, ← List.map_take, List.take_range, Nat.min_eq_left h]
  rfl

/-- The replies that are taken are the first ones of the queue. -/
theorem reduceOption_offers (replies : List Reply) (n : Nat) :
    (offers replies n).reduceOption = replies.take n := by
  induction n with
  | zero => rfl
  | succ n ih =>
      rw [offers_succ, List.reduceOption_append, ih, List.take_add_one]
      cases replies[n]? <;> rfl

theorem getElem?_min_length (replies : List Reply) (n : Nat) :
    replies[min n replies.length]? = replies[n]? := by
  rcases Nat.le_total n replies.length with h | h
  · rw [Nat.min_eq_left h]
  · rw [Nat.min_eq_right h, List.getElem?_eq_none (Nat.le_refl _), List.getElem?_eq_none h]

/-- Tasks that always take what stands behind the replies that are taken already
are offered the queue in order. -/
theorem eq_offers {replies : List Reply} {taken : List (Option Reply)}
    (h : ∀ k o, taken[k]? = some o → o = replies[(taken.take k).reduceOption.length]?) :
    taken = offers replies taken.length := by
  induction taken using List.reverseRecOn with
  | nil => rfl
  | append_singleton taken o ih =>
      have htaken : taken = offers replies taken.length := by
        refine ih fun k o' hk => ?_
        have hlt := (List.getElem?_eq_some_iff.mp hk).1
        have hnext := h k o' (by rw [List.getElem?_append_left hlt, hk])
        rwa [List.take_append_of_le_length (Nat.le_of_lt hlt)] at hnext
      have hlast := h taken.length o (by simp)
      rw [List.take_left, htaken, reduceOption_offers, List.length_take, getElem?_min_length]
        at hlast
      rw [List.length_append, List.length_singleton, offers_succ, ← htaken, hlast]

/-- Tasks that are offered a queue when others have taken what was before it. -/
theorem source_append_offers {taken : List (Option Reply)} {replies : List Reply} {n k : Nat}
    {o : Option Reply} (hge : taken.length ≤ k) (hk : (taken ++ offers replies n)[k]? = some o) :
    k < taken.length + n ∧ o = (taken.reduceOption ++ replies)[
      ((taken ++ offers replies n).take k).reduceOption.length]? := by
  rw [List.getElem?_append_right hge] at hk
  obtain ⟨hbound, ho⟩ := List.getElem?_eq_some_iff.mp hk
  rw [length_offers] at hbound
  have htake : (taken ++ offers replies n).take k = taken ++ offers replies (k - taken.length) := by
    rw [List.take_append, List.take_of_length_le hge, take_offers (Nat.le_of_lt hbound)]
  refine ⟨by omega, ?_⟩
  rw [htake, List.reduceOption_append, reduceOption_offers, List.length_append, List.length_take,
    List.getElem?_append_right (Nat.le_add_right ..), Nat.add_sub_cancel_left,
    getElem?_min_length, ← ho]
  simp [offers]

theorem pairs_append (taken more : List (Option Reply)) :
    pairs (taken ++ more) = pairs taken ++ (more.zipIdx taken.length).flatMap fun e =>
      [postOf e.2 false, endOf e.2 (e.1.getD Page.unscripted)] := by
  rw [pairs, List.zipIdx_append, List.flatMap_append, Nat.zero_add]
  rfl

namespace Page

theorem replies_congr {p q : Page} (h : q.loop = p.loop) : q.replies = p.replies :=
  show q.loop.replies = p.loop.replies from congrArg Page.replies h

/-- No request is or was held open; the tasks from `ran` on are fresh, in the order
of their clicks. -/
structure Quiet (p : Page) (ran : Nat) : Prop where
  holding : p.holding = false
  requests : p.requests = []
  ready : p.ready = []
  least : ran ≤ p.taskCount
  fresh : p.fresh = List.range' ran (p.taskCount - ran)

namespace Quiet

variable {p : Page} {ran : Nat}

theorem congr (h : p.Quiet ran) {q : Page} (hloop : q.loop = p.loop) : q.Quiet ran := by
  have hquiet : q.loop.Quiet ran := hloop ▸ ⟨h.holding, h.requests, h.ready, h.least, h.fresh⟩
  exact ⟨hquiet.holding, hquiet.requests, hquiet.ready, hquiet.least, hquiet.fresh⟩

theorem spawn (h : p.Quiet ran) (n : Nat) : (p.spawn n).Quiet ran := by
  have hleast := h.least
  refine ⟨h.holding, h.requests, h.ready, Nat.le_add_right_of_le hleast, ?_⟩
  have hsum : ran + 1 * (p.taskCount - ran) = p.taskCount := by omega
  have hcount : p.taskCount - ran + n = p.taskCount + n - ran := by omega
  show p.fresh ++ List.range' p.taskCount n = List.range' ran (p.taskCount + n - ran)
  rw [h.fresh, ← hcount, ← List.range'_append, hsum]

/-- The fresh tasks are served what the queue offers. -/
theorem served (h : p.Quiet ran) :
    (p.served.flatMap fun e => [postOf e.1 false, endOf e.1 e.2])
      = ((offers p.replies (p.taskCount - ran)).zipIdx ran).flatMap fun e =>
        [postOf e.2 false, endOf e.2 (e.1.getD unscripted)] := by
  have hserved : p.served = ((offers p.replies (p.taskCount - ran)).zipIdx ran).map
      fun e => (e.2, e.1.getD unscripted) := by
    refine List.ext_getElem ?_ fun i _ _ => ?_
    · simp [Page.served, h.fresh, length_offers]
    · simp [Page.served, h.fresh, offers, scripted]
  rw [hserved, List.flatMap_map]

/-- A run serves all fresh tasks. -/
theorem run (h : p.Quiet ran) :
    p.run.1.Quiet p.taskCount ∧ p.run.1.replies = p.replies.drop (p.taskCount - ran)
      ∧ p.run.2.events = ((offers p.replies (p.taskCount - ran)).zipIdx ran).flatMap fun e =>
          [postOf e.2 false, endOf e.2 (e.1.getD unscripted)] := by
  obtain ⟨hpage, hevents⟩ := run_of_not_holding h.holding
  refine ⟨?_, ?_, ?_⟩
  · rw [hpage]
    exact ⟨h.holding, h.requests, rfl, Nat.le_refl _, by simp⟩
  · rw [hpage, h.fresh, List.length_range']
  · rw [hevents, h.ready, h.served]
    rfl

/-- Nothing but a run makes events, and what is queued waits behind the rest. -/
theorem serve (h : p.Quiet ran) {action : Action} (hplain : action.LeavesNoRequest)
    (hrun : action.isRun = false) (clicked : Nat) :
    (p.serve clicked action).1.Quiet ran
      ∧ (p.serve clicked action).1.replies = p.replies ++ action.reply?.toList
      ∧ (p.serve clicked action).2 = [] := by
  cases action with
  | respond reply => exact ⟨⟨h.holding, h.requests, h.ready, h.least, h.fresh⟩, rfl, rfl⟩
  | hold on =>
      exact ⟨⟨hplain, h.requests, h.ready, h.least, h.fresh⟩, (List.append_nil _).symm, rfl⟩
  | answer request reply =>
      have hanswer : p.answer? request reply = none := by
        rw [answer?, h.requests]
        rfl
      have hserve : p.serve clicked (.answer request reply) = (p, []) := by
        rw [Page.serve, hanswer]
        rfl
      rw [hserve]
      exact ⟨h, (List.append_nil _).symm, rfl⟩
  | run => cases hrun
  | logout => cases hplain
  | _ => exact ⟨h.spawn clicked, (List.append_nil _).symm, rfl⟩

end Quiet

end Page

namespace Client

/-! ## Which run a task gets its reply in -/

def reached (actions : List Action) : Client :=
  (runAll {} actions).2

theorem reached_concat (actions : List Action) (action : Action) :
    reached (actions ++ [action]) = ((reached actions).step action).2 :=
  runAll_append ..

theorem delivered_concat (actions : List Action) (action : Action) :
    delivered {} (actions ++ [action]) = delivered {} actions + (reached actions).spawned action :=
  delivered_append ..

/-- The run after `before` is the first one after the click of task `k`. -/
structure RunsAfter (actions before : List Action) (k : Nat) : Prop where
  run : before ++ [.run] <+: actions
  clicked : k < delivered {} before
  first : ∀ earlier, earlier ++ [.run] <+: before → delivered {} earlier ≤ k

theorem RunsAfter.mono {actions before more : List Action} {k : Nat}
    (h : RunsAfter actions before k) (hmore : actions <+: more) : RunsAfter more before k :=
  ⟨h.run.trans hmore, h.clicked, h.first⟩

/-- What is known of a client where no request was held open, given what the tasks
that were run have taken. -/
structure Paired (actions : List Action) (taken : List (Option Reply)) : Prop where
  kept : (reached actions).Kept
  quiet : (reached actions).page.Quiet taken.length
  count : (reached actions).page.taskCount = delivered {} actions
  history : (reached actions).history = pairs taken
  order : taken.reduceOption ++ (reached actions).page.replies = queued actions
  ran : ∀ before, before ++ [.run] <+: actions → delivered {} before ≤ taken.length
  source : ∀ k o, taken[k]? = some o → ∃ before, RunsAfter actions before k
    ∧ o = (queued before)[(taken.take k).reduceOption.length]?

namespace Paired

variable {actions : List Action} {taken : List (Option Reply)}

theorem empty : Paired [] [] where
  kept := by constructor <;> simp [reached, runAll]
  quiet := ⟨rfl, rfl, rfl, Nat.le_refl _, rfl⟩
  count := rfl
  history := rfl
  order := rfl
  ran := fun before h => by simp at h
  source := nofun

/-- Without a run no task takes a reply. -/
theorem step (h : Paired actions taken) {action : Action} (hplain : action.LeavesNoRequest)
    (hrun : action.isRun = false) : Paired (actions ++ [action]) taken := by
  have hprefix : actions <+: actions ++ [action] := List.prefix_append ..
  obtain ⟨hkept, hloop, hhistory⟩ := step_serves h.kept action
  obtain ⟨hcount, -⟩ := step_spawned h.kept action
  obtain ⟨hquiet, hreplies, hevents⟩ :=
    h.quiet.serve hplain hrun ((reached actions).spawned action)
  rw [← reached_concat] at hkept hloop hhistory hcount
  constructor
  · exact hkept
  · exact hquiet.congr hloop
  · rw [hcount, h.count, delivered_concat]
  · rw [hhistory, hevents, List.append_nil, h.history]
  · rw [Page.replies_congr hloop, hreplies, ← List.append_assoc, h.order, queued_append]
    cases action <;> rfl
  · intro before hbefore
    rcases List.prefix_concat_iff.mp hbefore with heq | hbefore
    · obtain ⟨-, hlast⟩ := List.append_inj' heq rfl
      rw [← List.singleton_inj.mp hlast] at hrun
      cases hrun
    · exact h.ran before hbefore
  · intro k o hk
    obtain ⟨before, hafter, ho⟩ := h.source k o hk
    exact ⟨before, hafter.mono hprefix, ho⟩

/-- In a run the tasks that are left take what the queue offers. -/
theorem step_run (h : Paired actions taken) :
    Paired (actions ++ [.run]) (taken ++ offers (reached actions).page.replies
      (delivered {} actions - taken.length)) := by
  have hprefix : actions <+: actions ++ [.run] := List.prefix_append ..
  obtain ⟨hkept, hloop, hhistory⟩ := step_serves h.kept .run
  obtain ⟨hcount, -⟩ := step_spawned h.kept .run
  obtain ⟨hquiet, hreplies, hevents⟩ := h.quiet.run
  rw [← reached_concat] at hkept hloop hhistory hcount
  have hdelivered : delivered {} (actions ++ [.run]) = delivered {} actions := delivered_concat ..
  have hleast : taken.length ≤ delivered {} actions := h.count ▸ h.quiet.least
  have hlength : (taken ++ offers (reached actions).page.replies
      (delivered {} actions - taken.length)).length = delivered {} actions := by
    rw [List.length_append, length_offers]
    omega
  constructor
  · exact hkept
  · rw [hlength, ← h.count]
    exact hquiet.congr hloop
  · rw [hcount, hdelivered]
    exact h.count
  · rw [hhistory, pairs_append, ← h.count, h.history]
    exact congrArg (_ ++ ·) hevents
  · have hrest : (reached (actions ++ [.run])).page.replies
        = (reached actions).page.replies.drop (delivered {} actions - taken.length) := by
      rw [Page.replies_congr hloop, ← h.count]
      exact hreplies
    rw [hrest, List.reduceOption_append, reduceOption_offers, List.append_assoc,
      List.take_append_drop, h.order, queued_append]
    exact (List.append_nil _).symm
  · intro before hbefore
    rw [hlength]
    rcases List.prefix_concat_iff.mp hbefore with heq | hbefore
    · exact Nat.le_of_eq (congrArg _ (List.append_inj' heq rfl).1)
    · exact Nat.le_trans (h.ran before hbefore) hleast
  · intro k o hk
    by_cases hlt : k < taken.length
    · rw [List.getElem?_append_left hlt] at hk
      obtain ⟨before, hafter, ho⟩ := h.source k o hk
      rw [List.take_append_of_le_length (Nat.le_of_lt hlt)]
      exact ⟨before, hafter.mono hprefix, ho⟩
    · -- all tasks that were not run before are run by this run
      have hge := Nat.not_lt.mp hlt
      obtain ⟨hbound, ho⟩ := source_append_offers hge hk
      rw [h.order] at ho
      refine ⟨actions, ⟨List.prefix_refl _, by omega, fun earlier hearlier => ?_⟩, ho⟩
      exact Nat.le_trans (h.ran earlier hearlier) hge

theorem exists_of_plain {actions : List Action}
    (hplain : ∀ action ∈ actions, action.LeavesNoRequest) : ∃ taken, Paired actions taken := by
  induction actions using List.reverseRecOn with
  | nil => exact ⟨[], empty⟩
  | append_singleton actions action ih =>
      obtain ⟨taken, h⟩ := ih fun a ha => hplain a (List.mem_append_left _ ha)
      cases hrun : action.isRun with
      | false => exact ⟨taken, h.step (hplain action (by simp)) hrun⟩
      | true =>
          cases action with
          | run => exact ⟨_, h.step_run⟩
          | _ => cases hrun

/-- A task gets the reply of its own number as long as no task before it went
without. -/
theorem nth_of_source {queue : List Reply} {k : Nat} {o : Option Reply}
    (hk : taken[k]? = some o) (ho : o = queue[(taken.take k).reduceOption.length]?)
    (hnone : none ∉ taken.take k) : o = queue[k]? := by
  have hle := Nat.le_of_lt (List.getElem?_eq_some_iff.mp hk).1
  have hall : ∀ x ∈ taken.take k, x.isSome = true := by
    intro x hx
    cases x with
    | none => exact absurd hx hnone
    | some reply => rfl
  have hlength := List.reduceOption_length_eq_iff.mpr hall
  rw [List.length_take_of_le hle] at hlength
  rw [ho, hlength]

end Paired

/-! ## Replies that are queued first -/

/-- After a final run, all clicks have been served from the queue in order. -/
theorem reached_of_queuesFirst {actions : List Action}
    (hplain : ∀ action ∈ actions, action.LeavesNoRequest) (hfirst : QueuesFirst actions) :
    (reached (actions ++ [.run])).history = pairs (offers (queued actions) (delivered {} actions))
      ∧ (reached (actions ++ [.run])).page.replies
        = (queued actions).drop (delivered {} actions) := by
  obtain ⟨taken, h⟩ : ∃ taken, Paired (actions ++ [.run]) taken := by
    refine Paired.exists_of_plain fun action haction => ?_
    rcases List.mem_append.mp haction with haction | haction
    · exact hplain action haction
    · rw [List.mem_singleton.mp haction]
      trivial
  have hqueued : queued (actions ++ [.run]) = queued actions := by
    rw [queued_append]
    exact List.append_nil _
  have hlength : taken.length = delivered {} actions := by
    have hdelivered : delivered {} (actions ++ [.run]) = delivered {} actions :=
      delivered_concat ..
    have hmost := h.quiet.least
    rw [h.count, hdelivered] at hmost
    exact Nat.le_antisymm hmost (h.ran actions (List.prefix_refl _))
  have htaken : taken = offers (queued actions) (delivered {} actions) := by
    rw [← hlength]
    refine eq_offers fun k o hk => ?_
    obtain ⟨before, hafter, ho⟩ := h.source k o hk
    rw [← hqueued, ← hfirst.concat_run.queued_eq hafter.run]
    exact ho
  have horder := h.order
  rw [htaken, reduceOption_offers, hqueued] at horder
  refine ⟨by rw [h.history, htaken], List.append_cancel_left (horder.trans ?_)⟩
  exact (List.take_append_drop ..).symm

/-- **Replies are paired with clicks.** Where no request is held open, the events are
a request and an effect for each delivered click that was run, in the order of the
clicks. Every run leaves no such click behind, and the replies are handed out in the
order in which they were queued: the task of a click gets the one that stands in the
queue behind those that were taken before it, in the first run after the click, or
none if there is no such reply by then. As long as no task went without a reply, this
is the reply of the task's own number. If all replies are queued before the first run,
the task of each click gets the reply of its number, and wherever runs are put in or
left out, after a final run the events and the remaining replies are the same. -/
theorem replies_pair_with_clicks {actions : List Action}
    (hplain : ∀ action ∈ actions, action.LeavesNoRequest) :
    (∃ taken : List (Option Reply),
      (reached actions).history = pairs taken
        ∧ (∀ before, before ++ [.run] <+: actions → delivered {} before ≤ taken.length)
        ∧ taken.reduceOption ++ (reached actions).page.replies = queued actions
        ∧ ∀ k o, taken[k]? = some o → ∃ before, RunsAfter actions before k
          ∧ o = (queued before)[(taken.take k).reduceOption.length]?
          ∧ (none ∉ taken.take k → o = (queued before)[k]?))
      ∧ (QueuesFirst actions →
        (reached (actions ++ [.run])).history
            = pairs ((List.range (delivered {} actions)).map ((queued actions)[·]?))
          ∧ (reached (actions ++ [.run])).page.replies
            = (queued actions).drop (delivered {} actions)
          ∧ ∀ other, QueuesFirst other → withoutRuns other = withoutRuns actions →
            (reached (other ++ [.run])).history = (reached (actions ++ [.run])).history
              ∧ (reached (other ++ [.run])).page.replies
                = (reached (actions ++ [.run])).page.replies) := by
  constructor
  · obtain ⟨taken, h⟩ := Paired.exists_of_plain hplain
    refine ⟨taken, h.history, h.ran, h.order, fun k o hk => ?_⟩
    obtain ⟨before, hafter, ho⟩ := h.source k o hk
    exact ⟨before, hafter, ho, fun hnone => Paired.nth_of_source hk ho hnone⟩
  · intro hfirst
    obtain ⟨hhistory, hreplies⟩ := reached_of_queuesFirst hplain hfirst
    refine ⟨hhistory, hreplies, fun other hother hsame => ?_⟩
    have hplain' : ∀ action ∈ other, action.LeavesNoRequest := by
      intro action haction
      cases hrun : action.isRun with
      | false =>
          have hmem : action ∈ withoutRuns other := List.mem_filter.mpr ⟨haction, by simp [hrun]⟩
          rw [hsame] at hmem
          exact hplain action (List.mem_filter.mp hmem).1
      | true =>
          cases action with
          | run => trivial
          | _ => cases hrun
    obtain ⟨hhistory', hreplies'⟩ := reached_of_queuesFirst hplain' hother
    have hqueued : queued other = queued actions := by
      rw [← queued_withoutRuns, hsame, queued_withoutRuns]
    have hdelivered : delivered {} other = delivered {} actions := by
      rw [← delivered_withoutRuns, hsame, delivered_withoutRuns]
    rw [hhistory, hreplies, hhistory', hreplies', hqueued, hdelivered]
    exact ⟨rfl, rfl⟩

/-- Two menus, three clicks and two replies, run at once or in between. -/
theorem replies_pair_with_clicks_two_menus :
    let setup : List Action := [.createMenu .null "a", .createMenu .null "b",
      .respond (.ok .ok), .respond (.error ⟨"connection refused"⟩)]
    let actions := setup ++ [.click "a" .control 1, .click "b" .control 2]
    let other := setup ++ [.click "a" .control 1, .run, .run, .click "b" .control 2]
    (∀ action ∈ actions, action.LeavesNoRequest)
      ∧ (reached (actions ++ [.run])).history
        = [postOf 0 false, endOf 0 (.ok .ok), postOf 1 false,
          endOf 1 (.error ⟨"connection refused"⟩), postOf 2 false, endOf 2 Page.unscripted]
      ∧ (reached (actions ++ [.run])).page.replies = []
      ∧ (reached (other ++ [.run])).history = (reached (actions ++ [.run])).history := by
  intro setup actions other
  have hplain : ∀ action ∈ actions, action.LeavesNoRequest := by
    simp [actions, setup, Action.LeavesNoRequest]
  have hsetup : ∀ action ∈ setup, action.isRun = false := by
    simp [setup, Action.isRun]
  obtain ⟨-, hfirst⟩ := replies_pair_with_clicks hplain
  obtain ⟨hhistory, hreplies, hother⟩ := hfirst ⟨setup, _, rfl, hsetup, rfl⟩
  have hdelivered : delivered {} actions = 3 := by decide
  rw [hdelivered] at hhistory hreplies
  exact ⟨hplain, hhistory, hreplies, (hother other ⟨setup, _, rfl, hsetup, rfl⟩ rfl).1⟩

end Client

end MenuHost.Menu
