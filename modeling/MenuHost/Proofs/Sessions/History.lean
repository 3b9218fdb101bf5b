import MenuHost.Proofs.Password.Record
import MenuHost.Proofs.Sessions.Operations
import MenuHost.Proofs.Table

/-!
# The store as the history of its run

A store keeps a table; a run leaves a history. This file relates the
two: which sessions a store has recorded can be read off the run that
led to it, without looking at any table.

- `Clocked.history` lists what a run did, with the clock of each
  operation (`history_steps`).
- `Stands` says that a session was started and not ended since: the
  last login that returned the token was for that identity, and
  neither of the two was logged out later. Expiry is not part of it,
  because expired sessions stay recorded.
- `Recorded` is the invariant: the table holds exactly the sessions
  that stand, each with its expiry thirty days after its login.
  `Recorded.perform` keeps it over one operation, `Recorded.runAll`
  over a run.

Tokens may be handed out again after they were taken back, and the
clock may move backwards. Neither needs a case of its own: a later
login of a token hides the earlier one from `Stands`, and the clock is
compared only when a token is looked up.
-/

namespace MenuHost.Sessions

open MenuHost.Time

/-! ## Histories -/

/-- One operation of a run: when it was carried out and what it led to. -/
structure Event where
  op : Operation
  clock : Timestamp
  step : Step

namespace Event

/-- A login for the identity that returned the token. -/
def Starts (e : Event) (token identity : String) : Prop :=
  (∃ password draws, e.op = .login identity password draws)
    ∧ ∃ expires, e.step.result = .ok (.started token expires)

/-- A logout of the token, or of everything the identity has. -/
def Ends (e : Event) (token identity : String) : Prop :=
  e.op = .logout token ∨ e.op = .logoutIdentity identity

end Event

namespace Clocked

/-- The store of a list of users before its first operation. -/
def start (users : List User) (decoy : Option String) (now : Timestamp) : Clocked :=
  ⟨Store.new users decoy, now⟩

def event (c : Clocked) (op : Operation) : Event :=
  ⟨op, c.now, (c.perform op).1⟩

def history (c : Clocked) : List Operation → List Event
  | [] => []
  | op :: rest => c.event op :: (c.perform op).2.history rest

/-- A history repeats the operations of the run and what they led to. -/
theorem history_steps (c : Clocked) (ops : List Operation) :
    (c.history ops).map (·.op) = ops ∧ (c.history ops).map (·.step) = (c.runAll ops).1 := by
  induction ops generalizing c with
  | nil => exact ⟨rfl, rfl⟩
  | cons op rest ih =>
      obtain ⟨hops, hsteps⟩ := ih (c.perform op).2
      simp [history, runAll, event, hops, hsteps]

end Clocked

/-! ## Sessions that stand -/

/-- The last login that returned the token was for the identity, at the
time `started`, and no later operation logged out either of them. -/
def Stands (events : List Event) (token identity : String) (started : Timestamp) : Prop :=
  ∃ before e after, events = before ++ e :: after
    ∧ e.Starts token identity ∧ e.clock = started
    ∧ ∀ later ∈ after, ¬later.Ends token identity ∧ ∀ other, ¬later.Starts token other

/-- When a session that was started at a time expires: thirty days later,
to the nanosecond. -/
def expiryOf (started : Timestamp) : Timestamp :=
  ⟨started.secs + 30 * 24 * 60 * 60, started.nanos⟩

theorem plusDays_lifetimeDays (t : Timestamp) : t.plusDays lifetimeDays = expiryOf t := by
  simp [Timestamp.plusDays, lifetimeDays, secondsPerDay, expiryOf]

theorem lt_expiryOf (now : Timestamp) : now < expiryOf now := by
  simp only [Timestamp.lt_iff, expiryOf]
  omega

/-- A login that finds a free draw starts a session that is found at once. -/
theorem Clocked.owner_perform_login {c : Clocked} {identity password : String}
    {draws : Nat → String} {k : Nat} (hav : c.store.available = true)
    (hcheck : Store.check (c.store.users.get? identity) c.store.decoy password = .ok ())
    (hk : k < maxDraws) (hfree : ¬c.store.Taken (draws k))
    (htaken : ∀ j < k, c.store.Taken (draws j)) :
    (c.perform (.login identity password draws)).2.owner (draws k) = .ok (some identity) := by
  have hlogin := Store.login_of_free hav hcheck hk hfree htaken c.now
  rw [plusDays_lifetimeDays] at hlogin
  rw [Clocked.perform, hlogin]
  exact (Store.identity_insert hav c.now _ _).trans
    (congrArg Except.ok (if_pos (lt_expiryOf c.now)))

theorem not_stands_nil {token identity : String} {started : Timestamp} :
    ¬Stands [] token identity started := by
  rintro ⟨before, e, after, h, -⟩
  simp at h

/-- What one more event does to the sessions that stand. -/
theorem stands_concat {events : List Event} {e : Event} {token identity : String}
    {started : Timestamp} :
    Stands (events ++ [e]) token identity started ↔
      (e.Starts token identity ∧ e.clock = started)
        ∨ (Stands events token identity started ∧ ¬e.Ends token identity
          ∧ ∀ other, ¬e.Starts token other) := by
  constructor
  · rintro ⟨before, e', after, hsplit, hstarts, hclock, hlater⟩
    rcases append_singleton_eq_iff.mp hsplit with ⟨rfl, rfl, rfl⟩ | ⟨mid, rfl, rfl⟩
    · exact Or.inl ⟨hstarts, hclock⟩
    · refine Or.inr ⟨⟨before, e', mid, rfl, hstarts, hclock, ?_⟩, hlater e (by simp)⟩
      intro later hmem
      exact hlater later (by simp [hmem])
  · rintro (⟨hstarts, hclock⟩ | ⟨⟨before, e', after, rfl, hstarts, hclock, hlater⟩, hlast⟩)
    · exact ⟨events, e, [], rfl, hstarts, hclock, by simp⟩
    · refine ⟨before, e', after ++ [e], by simp, hstarts, hclock, ?_⟩
      intro later hmem
      rcases List.mem_append.mp hmem with hmem | hmem
      · exact hlater later hmem
      · obtain rfl := List.mem_singleton.mp hmem
        exact hlast

/-! ## What an event starts and ends -/

/-- An operation that neither starts nor ends sessions. -/
def Operation.IsIdle : Operation → Prop
  | .login _ _ _ | .logout _ | .logoutIdentity _ => False
  | .identity _ | .advance _ _ | .poison => True

namespace Event

/-- An event that starts no session and ends none. -/
def Silent (e : Event) : Prop :=
  ∀ token identity, ¬e.Starts token identity ∧ ¬e.Ends token identity

theorem not_starts_of_error {e : Event} {error : SessionError}
    (h : e.step.result = .error error) (token identity : String) :
    ¬e.Starts token identity := by
  rintro ⟨-, expires, hok⟩
  rw [h] at hok
  cases hok

theorem silent_of_failed_login {e : Event} {error : SessionError}
    {identity password : String} {draws : Nat → String}
    (hop : e.op = .login identity password draws) (h : e.step.result = .error error) :
    e.Silent := by
  refine fun token other => ⟨not_starts_of_error h token other, ?_⟩
  rintro (hend | hend) <;> rw [hop] at hend <;> cases hend

theorem not_starts_of_not_login {e : Event}
    (h : ∀ identity password draws, e.op ≠ .login identity password draws)
    (token identity : String) : ¬e.Starts token identity := by
  rintro ⟨⟨password, draws, hop⟩, -⟩
  exact h identity password draws hop

theorem silent_of_isIdle {e : Event} (h : e.op.IsIdle) : e.Silent := by
  intro token identity
  refine ⟨?_, ?_⟩
  · rintro ⟨⟨password, draws, hop⟩, -⟩
    rw [hop] at h
    exact h
  · rintro (hop | hop)
    · rw [hop] at h
      exact h
    · rw [hop] at h
      exact h

end Event

/-! ## The invariant -/

/-- The table holds exactly the sessions that stand. -/
def Recorded (c : Clocked) (events : List Event) : Prop :=
  ∀ token session, c.store.sessions.get? token = some session ↔
    ∃ started, Stands events token session.identity started
      ∧ session.expires = expiryOf started

namespace Recorded

variable {c c' : Clocked} {events : List Event}

theorem start (users : List User) (decoy : Option String) (now : Timestamp) :
    Recorded (Clocked.start users decoy now) [] := by
  intro token session
  simp [Clocked.start, Store.new, not_stands_nil]

theorem silent (h : Recorded c events) {e : Event} (he : e.Silent)
    (hsame : c'.store.sessions = c.store.sessions) : Recorded c' (events ++ [e]) := by
  intro token session
  rw [hsame, h token session]
  simp [stands_concat, he token session.identity, he token]

/-- A login that returned a token puts its session in place of any other
session of the token. -/
theorem starts (h : Recorded c events) {e : Event} {token identity password : String}
    {draws : Nat → String} (hop : e.op = .login identity password draws)
    (hresult : e.step.result = .ok (.started token (expiryOf e.clock)))
    (hinsert : c'.store.sessions =
      c.store.sessions.insert token ⟨identity, expiryOf e.clock⟩) :
    Recorded c' (events ++ [e]) := by
  have hstarts : ∀ t i, e.Starts t i ↔ t = token ∧ i = identity := by
    intro t i
    constructor
    · rintro ⟨⟨_, _, hlogin⟩, _, hok⟩
      rw [hop] at hlogin
      rw [hresult] at hok
      cases hlogin
      cases hok
      exact ⟨rfl, rfl⟩
    · rintro ⟨rfl, rfl⟩
      exact ⟨⟨password, draws, hop⟩, _, hresult⟩
  have hends : ∀ t i, ¬e.Ends t i := by
    rintro t i (hend | hend) <;> rw [hop] at hend <;> cases hend
  intro t session
  simp only [hinsert, Table.get?_insert, stands_concat, hstarts, hends]
  by_cases ht : t = token
  · -- whatever stood for the token before, this login is now the last one
    subst ht
    rw [if_pos rfl, Option.some.injEq]
    constructor
    · rintro rfl
      exact ⟨e.clock, Or.inl ⟨⟨rfl, rfl⟩, rfl⟩, rfl⟩
    · rintro ⟨_, ⟨⟨-, hi⟩, rfl⟩ | ⟨-, -, hnone⟩, hx⟩
      · cases session
        simp_all
      · exact (hnone identity ⟨rfl, rfl⟩).elim
  · rw [if_neg ht, h t session]
    simp [ht]

/-- Taking back sessions: those that an event ends are gone, the others
stay. -/
theorem ends (h : Recorded c events) {e : Event}
    (hstarts : ∀ token identity, ¬e.Starts token identity)
    (hkept : ∀ token session, c'.store.sessions.get? token = some session ↔
      c.store.sessions.get? token = some session ∧ ¬e.Ends token session.identity) :
    Recorded c' (events ++ [e]) := by
  intro token session
  rw [hkept, h token session]
  simp only [stands_concat, hstarts, false_and, false_or, not_false_eq_true, implies_true,
    and_true]
  constructor
  · rintro ⟨⟨started, hstands, hx⟩, hnot⟩
    exact ⟨started, ⟨hstands, hnot⟩, hx⟩
  · rintro ⟨started, ⟨hstands, hnot⟩, hx⟩
    exact ⟨⟨started, hstands, hx⟩, hnot⟩

theorem perform (h : Recorded c events) (hav : c.store.available = true) (op : Operation) :
    Recorded (c.perform op).2 (events ++ [c.event op]) := by
  cases op with
  | login identity password draws =>
      rcases c.store.login_cases c.now draws identity password with
        ⟨-, hl⟩ | ⟨-, e, -, hl⟩ | ⟨-, -, -, hl⟩ | ⟨-, -, k, -, -, -, hl⟩
      · have hfail : (c.perform (.login identity password draws)).1.result
            = .error .storeUnavailable := by simp [Clocked.perform, hl, Store.refused, Except.map]
        exact h.silent (Event.silent_of_failed_login rfl hfail) (by simp [Clocked.perform, hl])
      · have hfail : (c.perform (.login identity password draws)).1.result
            = .error .loginFailed := by simp [Clocked.perform, hl, Store.refused, Except.map]
        exact h.silent (Event.silent_of_failed_login rfl hfail) (by simp [Clocked.perform, hl])
      · have hfail : (c.perform (.login identity password draws)).1.result
            = .error .tokenExhausted := by simp [Clocked.perform, hl, Except.map]
        exact h.silent (Event.silent_of_failed_login rfl hfail) (by simp [Clocked.perform, hl])
      · have hstarted : (c.perform (.login identity password draws)).1.result
            = .ok (.started (draws k) (expiryOf c.now)) := by
          simp [Clocked.perform, hl, Except.map, plusDays_lifetimeDays]
        exact h.starts rfl hstarted
          (by simp [Clocked.event, Clocked.perform, hl, plusDays_lifetimeDays])
  | logout token =>
      obtain ⟨log, hl⟩ := Store.logout_of_available hav token
      refine h.ends (Event.not_starts_of_not_login (by simp [Clocked.event])) fun t session => ?_
      by_cases ht : t = token
      · simp [Clocked.perform, hl, Table.get?_erase, ht, Event.Ends, Clocked.event]
      · simp [Clocked.perform, hl, Table.get?_erase, ht, Event.Ends, Clocked.event, Ne.symm ht]
  | logoutIdentity identity =>
      obtain ⟨count, hl⟩ := Store.logoutIdentity_of_available hav identity
      refine h.ends (Event.not_starts_of_not_login (by simp [Clocked.event])) fun t session => ?_
      by_cases hi : session.identity = identity
      · simp [Clocked.perform, hl, Table.get?_filter, Option.filter_eq_some_iff, hi, Event.Ends,
          Clocked.event]
      · simp [Clocked.perform, hl, Table.get?_filter, Option.filter_eq_some_iff, hi, Event.Ends,
          Clocked.event, Ne.symm hi]
  | identity token => exact h.silent (Event.silent_of_isIdle trivial) rfl
  | advance secs nanos => exact h.silent (Event.silent_of_isIdle trivial) rfl
  | poison => exact h.silent (Event.silent_of_isIdle trivial) rfl

theorem runAll (h : Recorded c events) {ops : List Operation}
    (hav : c.store.available = true) (hops : Operation.poison ∉ ops) :
    Recorded (c.runAll ops).2 (events ++ c.history ops) := by
  -- the events so far are general: each operation of the run adds its own to them
  induction ops generalizing c events with
  | nil => simpa [Clocked.runAll, Clocked.history] using h
  | cons op rest ih =>
      rw [List.mem_cons, not_or] at hops
      have hav' := (c.frame_perform op).2.2.mpr ⟨hav, Ne.symm hops.1⟩
      have htail := ih (h.perform hav op) hav' hops.2
      rwa [List.append_assoc, List.singleton_append] at htail

end Recorded

/-! ## Lookups after a run -/

/-- A session of the identity that stands and has not expired by the clock. -/
def Lives (events : List Event) (now : Timestamp) (token identity : String) : Prop :=
  ∃ started, Stands events token identity started ∧ now < expiryOf started

/-- **Refinement.** After any run from a new store that was not made
unavailable, a token is somebody's exactly when the history says so, and
nobody's in every other case. -/
theorem owner_runAll_iff (users : List User) (decoy : Option String) (now : Timestamp)
    {ops : List Operation} (hops : Operation.poison ∉ ops) (token : String) :
    let c := Clocked.start users decoy now
    let after := (c.runAll ops).2
    (∀ identity, after.owner token = .ok (some identity) ↔
        Lives (c.history ops) after.now token identity)
      ∧ (after.owner token = .ok none ↔
        ∀ identity, ¬Lives (c.history ops) after.now token identity) := by
  intro c after
  have hav : after.store.available = true :=
    (c.available_runAll ops).mpr ⟨rfl, hops⟩
  have hrec : Recorded after (c.history ops) :=
    (Recorded.start users decoy now).runAll rfl hops
  constructor
  · intro identity
    rw [Clocked.owner, Store.identity_eq_ok_some_iff]
    constructor
    · rintro ⟨-, session, hget, hlt, rfl⟩
      obtain ⟨started, hstands, hx⟩ := (hrec token session).mp hget
      exact ⟨started, hstands, hx ▸ hlt⟩
    · rintro ⟨started, hstands, hlt⟩
      exact ⟨hav, ⟨identity, expiryOf started⟩, (hrec token _).mpr ⟨started, hstands, rfl⟩,
        hlt, rfl⟩
  · rw [Clocked.owner, Store.identity_eq_ok_none_iff]
    constructor
    · rintro ⟨-, hnone⟩ identity ⟨started, hstands, hlt⟩
      exact hnone _ ((hrec token ⟨identity, expiryOf started⟩).mpr ⟨started, hstands, rfl⟩) hlt
    · intro hnone
      refine ⟨hav, fun session hget hlt => ?_⟩
      obtain ⟨started, hstands, hx⟩ := (hrec token session).mp hget
      exact hnone session.identity ⟨started, hstands, hx ▸ hlt⟩

/-- Alice logs in and is found a second later. -/
theorem owner_runAll_alice :
    ∃ record,
      let c := Clocked.start [⟨"alice", record⟩] none Timestamp.epoch
      let ops := [Operation.login "alice" "wonderland" fun _ => "abc", .advance 1 0]
      Operation.poison ∉ ops ∧ (c.runAll ops).2.owner "abc" = .ok (some "alice") := by
  obtain ⟨record, -, hverify⟩ := Password.exists_record (Vector.replicate 16 0)
    (show "wonderland".utf8ByteSize < Password.passwordLimit by decide)
  refine ⟨record, ?_⟩
  intro c ops
  have hops : Operation.poison ∉ ops := by simp [ops]
  have hcheck : Store.check (c.store.users.get? "alice") c.store.decoy "wonderland" = .ok () :=
    Store.check_eq_ok_iff.mpr ⟨record, rfl, hverify⟩
  have hfree : ¬c.store.Taken "abc" := Store.not_taken_new _ none "abc"
  have hlogin : c.store.login c.now (fun _ => "abc") "alice" "wonderland" = _ :=
    Store.login_of_free (k := 0) rfl hcheck (by decide) hfree (by simp) c.now
  have hstarted : (c.perform (.login "alice" "wonderland" fun _ => "abc")).1.result
      = .ok (.started "abc" (expiryOf Timestamp.epoch)) := by
    rw [Clocked.perform, hlogin]
    rfl
  refine ⟨hops, ((owner_runAll_iff _ _ _ hops "abc").1 "alice").mpr ?_⟩
  refine ⟨Timestamp.epoch, ⟨[], _, [_], rfl, ⟨⟨_, _, rfl⟩, _, hstarted⟩, rfl, ?_⟩, ?_⟩
  · intro later hmem
    have hidle : later.op.IsIdle := by
      rw [List.mem_singleton.mp hmem]
      trivial
    have hsilent := Event.silent_of_isIdle hidle
    exact ⟨(hsilent "abc" "alice").2, fun other => (hsilent "abc" other).1⟩
  · show Timestamp.epoch.advance 1 0 < expiryOf Timestamp.epoch
    decide
end MenuHost.Sessions
