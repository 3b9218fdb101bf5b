import MenuHost.Proofs.Server.Login
import MenuHost.Proofs.Server.Sections

/-!
# Requests at the same time

Between the sections of a request others run, so a request acts on what
may no longer be so: a login on a password that was checked before, and
logging out everywhere on an owner that was looked up before. This file
shows that neither gap can be seen, for every interleaving of any number
of requests.

- The write section of a login does what the whole login would do at that
  moment, because what was checked cannot change (`Flight.next_granting`).
- It records its session for a token that has no record, so it replaces
  none (`Store.get?_grant`), and two sessions that are recorded at the
  same time have different tokens (`Pool.Holds`).
- The write section of a logout everywhere takes back what is recorded at
  that moment for the owner that was found: sessions that began after the
  lookup too, and those of others never.
-/

namespace MenuHost.Server

open MenuHost.Http MenuHost.Sessions MenuHost.Time

namespace Pool

/-- The next section of request `i` starts a session: it is the write section of
a login, and it returns the token. -/
def Starts (p : Pool) (i : Nat) (token : String) (session : Session) : Prop :=
  ∃ draws form, p.flights[i]? = some (.granting draws form)
    ∧ (p.sessions.store.grant p.sessions.now draws form.identity).1.result
      = .ok (token, session.expires)
    ∧ session.identity = form.identity

/-- The session that request `i` started during the turns is recorded: it was
recorded then, and at every moment since. -/
def Holds (p : Pool) (turns : List Turn) (i : Nat) (token : String) (session : Session) : Prop :=
  ∃ before since, turns = before ++ .request i :: since
    ∧ (p.run before).Starts i token session
    ∧ ∀ mid, mid <+: since → (p.run (before ++ .request i :: mid)).recorded token = some session

/-- The next section of request `i` is the lookup of a logout everywhere, and it
finds the identity. -/
def LooksUp (p : Pool) (i : Nat) (identity : String) : Prop :=
  ∃ r token, p.flights[i]? = some (.received r) ∧ r.route = .logoutAll
    ∧ sessionOf? r.request.headers = some token
    ∧ p.sessions.owner token = .ok (some identity)

theorem recorded_of_starts {p : Pool} {i : Nat} {token : String} {session : Session}
    (h : p.Starts i token session) : p.recorded token = none := by
  obtain ⟨draws, form, -, hresult, -⟩ := h
  rcases p.sessions.store.grant_cases p.sessions.now draws form.identity with
    ⟨e, herror, -⟩ | ⟨k, hfree, hok, -⟩
  · cases herror.symm.trans hresult
  · obtain ⟨rfl, -⟩ := Prod.mk.inj (Except.ok.inj (hok.symm.trans hresult))
    exact Classical.not_not.mp hfree

/-- Where a record is still there, a session is started for another token. -/
theorem ne_of_recorded {p : Pool} {i : Nat} {token token' : String} {session session' : Session}
    (hrecorded : p.recorded token = some session) (h : p.Starts i token' session') :
    token ≠ token' := by
  rintro rfl
  cases hrecorded.symm.trans (recorded_of_starts h)

/-- Two logins whose sessions are recorded at the same time hold different
tokens. -/
theorem ne_of_holds {p : Pool} {turns : List Turn} {i j : Nat} {token token' : String}
    {session session' : Session} (hij : i ≠ j) (h : p.Holds turns i token session)
    (h' : p.Holds turns j token' session') : token ≠ token' := by
  obtain ⟨before, since, rfl, hstarts, hkept⟩ := h
  obtain ⟨before', since', hsplit, hstarts', hkept'⟩ := h'
  -- one of the two turns comes first; its record is there when the other begins
  rcases List.append_eq_append_iff.mp hsplit with ⟨mid, rfl, hrest⟩ | ⟨mid, rfl, hrest⟩
  · cases mid with
    | nil => exact absurd (Turn.request.inj (List.cons.inj hrest).1) hij
    | cons t mid =>
        obtain ⟨rfl, rfl⟩ := List.cons.inj hrest
        exact ne_of_recorded (hkept mid (List.prefix_append ..)) hstarts'
  · cases mid with
    | nil => exact absurd (Turn.request.inj (List.cons.inj hrest).1).symm hij
    | cons t mid =>
        obtain ⟨rfl, rfl⟩ := List.cons.inj hrest
        exact (ne_of_recorded (hkept' mid (List.prefix_append ..)) hstarts).symm

/-! ## The write section of a login -/

/-- The write section of a login replaces no record, and does what the whole
login would do now. -/
theorem turn_granting {c : Clocked} {p : Pool} (h : Reached c p) {i : Nat}
    {draws : Nat → String} {form : LoginForm}
    (hflight : p.flights[i]? = some (.granting draws form)) :
    (∀ token session, p.recorded token = some session →
        (p.turn (.request i)).recorded token = some session)
      ∧ (p.turn (.request i)).flights[i]? = some (.answered (login p.sessions draws form).1)
      ∧ (p.turn (.request i)).sessions = (login p.sessions draws form).2 := by
  have hnext := Flight.next_granting (h.sound_of_getElem? hflight)
  refine ⟨fun token session hget => ?_, ?_, ?_⟩
  · rw [turn_request hflight]
    exact Store.get?_grant hget p.sessions.now draws form.identity
  · rw [flights_turn_request hflight, hnext]
  · rw [turn_request hflight, hnext]

/-! ## The write section of a logout everywhere -/

/-- The lookup is one section, and what it found is remembered until the next
one, whatever others do. -/
theorem flights_of_looksUp {p : Pool} {i : Nat} {identity : String} (h : p.LooksUp i identity)
    {since : List Turn} (hsince : .request i ∉ since) :
    ∃ token, (p.run (.request i :: since)).flights[i]? = some (.ending token (some identity)) := by
  obtain ⟨⟨route, draws, request⟩, token, hflight, hroute, hfound, howner⟩ := h
  obtain rfl : route = .logoutAll := hroute
  refine ⟨token, ?_⟩
  rw [run, flights_run hsince, flights_turn_request hflight]
  simp only [Flight.next, Flight.begin, hfound, howner]

/-- The write section of a logout everywhere takes back what is recorded for the
owner now, and nothing else. -/
theorem turn_ending {p : Pool} (hav : p.sessions.store.available = true) {i : Nat} {token : String}
    {owner : Option String} (hflight : p.flights[i]? = some (.ending token owner)) :
    Drops p.sessions (TakenBack token owner) (p.turn (.request i)).sessions
      ∧ ∃ reply, (p.turn (.request i)).flights[i]? = some (.answered reply)
        ∧ reply.response = cleared := by
  obtain ⟨hresponse, hdrops⟩ := endAll_of_available hav token owner
  rw [flights_turn_request hflight, turn_request hflight]
  exact ⟨hdrops, _, rfl, hresponse⟩

end Pool

/-- **Requests do not disturb each other.** In every interleaving of any
requests: the write section of a login leaves every record as it is, and
returns and records what the whole login would at that moment; two
logins whose sessions are recorded at the same time hold different
tokens; and when a logout everywhere has found an owner, its write
section takes back all that is then recorded for this owner, also what
began after the lookup, and nothing of others. -/
theorem sessions_kept_apart (c : Clocked) (requests : List Incoming) (turns : List Turn) :
    let start := Pool.start c requests
    let p := start.run turns
    (∀ i draws form, p.flights[i]? = some (.granting draws form) →
      let after := p.turn (.request i)
      (∀ token session, p.recorded token = some session → after.recorded token = some session)
        ∧ after.flights[i]? = some (.answered (login p.sessions draws form).1)
        ∧ after.sessions = (login p.sessions draws form).2)
      ∧ (∀ i j token token' session session', i ≠ j → start.Holds turns i token session →
        start.Holds turns j token' session' → token ≠ token')
      ∧ ∀ before since i identity, turns = before ++ .request i :: since → .request i ∉ since →
        (start.run before).LooksUp i identity →
        let after := p.turn (.request i)
        Drops p.sessions (fun _ session => session.identity = identity) after.sessions
          ∧ ∃ reply, after.flights[i]? = some (.answered reply) ∧ reply.response = cleared := by
  intro start p
  have hreached := fun turns => (Reached.start c requests).run turns
  refine ⟨fun i draws form hflight => Pool.turn_granting (hreached turns) hflight,
    fun i j token token' session session' hij h h' => Pool.ne_of_holds hij h h', ?_⟩
  rintro before since i identity hturns hsince hlookup
  obtain ⟨token, hflight⟩ := Pool.flights_of_looksUp hlookup hsince
  rw [← Pool.run_append, ← hturns] at hflight
  -- the lookup has found a store that is available, and it stays so
  obtain ⟨_, _, -, -, -, howner⟩ := hlookup
  have hav : p.sessions.store.available = true := by
    rw [(hreached turns).frame.2.2, ← (hreached before).frame.2.2]
    exact (Store.identity_eq_ok_some_iff.mp howner).1
  exact Pool.turn_ending hav hflight

/-- Alice logs in while she is logged out everywhere: the session that starts
between the lookup and the end is taken back with the one before. -/
theorem sessions_kept_apart_alice :
    ∃ record,
      let sessions := Table.ofList [("abc", Session.mk "alice" ⟨1, 0⟩)]
      let c : Clocked := ⟨{ Store.new [⟨"alice", record⟩] none with sessions }, .epoch⟩
      let login : Incoming :=
        ⟨.login, fun _ => "def",
          { method := Method.post
            uri := { path := "/api/login" }
            headers := [.ofTexts "content-type" LoginForm.mediaType]
            body := Form.encode [("identity", "alice"), ("password", "wonderland")] }⟩
      let logout : Incoming :=
        ⟨.logoutAll, fun _ => "", ⟨Method.post, { path := "/api/logout/all" },
          [⟨"cookie", .ofText "SESSIONID=abc"⟩], []⟩⟩
      let start := Pool.start c [login, logout]
      let p := start.run [.request 0, .request 0, .request 1, .request 0]
      (start.run [.request 0, .request 0]).LooksUp 1 "alice"
        ∧ p.recorded "abc" = some ⟨"alice", ⟨1, 0⟩⟩
        ∧ p.recorded "def" = some ⟨"alice", expiryOf .epoch⟩
        ∧ (p.turn (.request 1)).recorded "abc" = none
        ∧ (p.turn (.request 1)).recorded "def" = none := by
  obtain ⟨record, -, hverify⟩ := Password.exists_record (Vector.replicate 16 0)
    (show "wonderland".utf8ByteSize < Password.passwordLimit by decide)
  refine ⟨record, ?_⟩
  intro sessions c login logout start p
  have hlogs : LogsIn login.request "alice" "wonderland" :=
    ⟨rfl, rfl, _, Form.writes_encode _, by decide, by decide⟩
  have hform : LoginForm.ofRequest login.request = .ok ⟨"alice", "wonderland"⟩ :=
    ofRequest_of_logsIn hlogs ⟨by decide, by decide⟩
  have hcheck : Store.check (c.store.users.get? "alice") c.store.decoy "wonderland" = .ok () :=
    Store.check_eq_ok_iff.mpr ⟨record, rfl, hverify⟩
  have habc : sessions.get? "abc" = some ⟨"alice", ⟨1, 0⟩⟩ := by decide
  have hfree : ¬c.store.Taken "def" :=
    fun htaken => htaken (show sessions.get? "def" = none by decide)
  have hfound : sessionOf? logout.request.headers = some "abc" := by decide
  have howner : c.owner "abc" = .ok (some "alice") := Store.identity_eq_ok_some_iff.mpr
    ⟨rfl, _, habc, show Timestamp.epoch < ⟨1, 0⟩ by decide, rfl⟩
  -- the login has read and checked, then the owner is looked up
  have hread : start.turn (.request 0) = ⟨c, [.checking login.draws ⟨"alice", "wonderland"⟩
      (c.store.users.get? "alice") c.store.decoy, .received logout]⟩ := by
    rw [Pool.turn_request (f := .received login) rfl]
    simp only [Flight.next, Flight.begin, login] at hform ⊢
    simp only [hform]
    rfl
  have hchecked : start.run [.request 0, .request 0]
      = ⟨c, [.granting login.draws ⟨"alice", "wonderland"⟩, .received logout]⟩ := by
    rw [Pool.run, hread, Pool.run, Pool.turn_request rfl]
    simp only [Flight.next, hcheck]
    rfl
  have hlookup : (start.run [.request 0, .request 0]).LooksUp 1 "alice" := by
    rw [hchecked]
    exact ⟨logout, "abc", rfl, rfl, hfound, howner⟩
  have hgranting : start.run [.request 0, .request 0, .request 1]
      = ⟨c, [.granting login.draws ⟨"alice", "wonderland"⟩, .ending "abc" (some "alice")]⟩ := by
    show (start.run [.request 0, .request 0]).turn (.request 1) = _
    rw [hchecked, Pool.turn_request rfl]
    simp only [Flight.next, Flight.begin, logout] at hfound ⊢
    simp only [hfound, howner]
    rfl
  have hdecided := sessions_kept_apart c [login, logout]
  obtain ⟨hkept, -, hstarted⟩ := (hdecided [.request 0, .request 0, .request 1]).1 0 _ _
    (congrArg (·.flights[0]?) hgranting)
  obtain ⟨hdrops, -⟩ := (hdecided [.request 0, .request 0, .request 1, .request 0]).2.2
    [.request 0, .request 0] [.request 0] 1 "alice" rfl (by simp) hlookup
  have hold : p.recorded "abc" = some ⟨"alice", ⟨1, 0⟩⟩ :=
    hkept _ _ ((congrArg (·.recorded "abc") hgranting).trans habc)
  have hnew : p.recorded "def" = some ⟨"alice", expiryOf .epoch⟩ := by
    have hstate : p.sessions = (c.perform (.login "alice" "wonderland" login.draws)).2 :=
      hstarted.trans (by rw [hgranting]; exact state_login c _ _)
    have hdraw : ¬c.store.Taken (login.draws 0) := hfree
    have hlogin := Store.login_of_free rfl hcheck (by decide) hdraw (by simp) c.now
    rw [Pool.recorded, hstate, Clocked.perform, hlogin, plusDays_lifetimeDays]
    exact (Table.get?_insert ..).trans (if_pos rfl)
  exact ⟨hlookup, hold, hnew, hdrops.get?_eq_none hold rfl, hdrops.get?_eq_none hnew rfl⟩

end MenuHost.Server
