import MenuHost.Proofs.Server.Login
import MenuHost.Proofs.Server.Logout

/-!
# Failures, and a store that stays unavailable

A login looks up, checks, draws and records, and logging out everywhere
looks up before it ends anything, so either could give up half way. None
does: an operation that fails leaves the store as it was
(`Clocked.perform_of_error`).

One failure is for good. A store that is unavailable turns every call
away before it looks at anything else, so no password is checked and no
token is drawn (`Clocked.perform_of_unavailable`), and every request
that needs the store is answered alike (`respondRoute_of_unavailable`).
Nothing that can be asked of a server makes its store available again
(`unavailable_runAll`). Both halves are put together in
`unavailable_for_good`.
-/

namespace MenuHost.Sessions

/-! ## The store -/

/-- An operation that calls on the store. The others move the clock, or make the
store unavailable. -/
def Operation.IsCall : Operation → Prop
  | .login _ _ _ | .logout _ | .logoutIdentity _ | .identity _ => True
  | .advance _ _ | .poison => False

namespace Clocked

/-- An operation that fails changes nothing. -/
theorem perform_of_error {c : Clocked} {op : Operation} {e : SessionError}
    (h : (c.perform op).1.result = .error e) : (c.perform op).2 = c := by
  cases op with
  | login identity password draws =>
      have hfailed : (c.store.login c.now draws identity password).1.result.map
          (fun granted => Answer.started granted.1 granted.2) = .error e := h
      rcases c.store.login_failed_or_started c.now draws identity password with
        ⟨e, -, hsame⟩ | ⟨k, hl⟩
      · simp [perform, hsame]
      · rw [hl] at hfailed
        cases hfailed
  | logout token =>
      cases hav : c.store.available with
      | true => simp [perform, Store.logout, hav] at h
      | false => simp [perform, Store.logout, hav]
  | logoutIdentity identity =>
      cases hav : c.store.available with
      | true => simp [perform, Store.logoutIdentity, hav] at h
      | false => simp [perform, Store.logoutIdentity, hav]
  | identity token => rfl
  | advance secs nanos => cases h
  | poison => cases h

/-- An unavailable store fails every call in the same way, and draws nothing. -/
theorem perform_of_unavailable {c : Clocked} {op : Operation} (hdown : c.store.available = false)
    (hcall : op.IsCall) : c.perform op = ({ result := .error .storeUnavailable }, c) := by
  cases op with
  | login identity password draws =>
      rw [perform, Store.login_of_unavailable hdown]
      rfl
  | logout token => simp [perform, Store.logout, hdown]
  | logoutIdentity identity => simp [perform, Store.logoutIdentity, hdown]
  | identity token =>
      rw [perform, owner, Store.identity_of_unavailable hdown]
      rfl
  | advance secs nanos => cases hcall
  | poison => cases hcall

end Clocked

end MenuHost.Sessions

namespace MenuHost.Server

open MenuHost.Http MenuHost.Sessions

/-! ## Requests -/

/-- A request that the route cannot answer without the store: a form that logs
in, or a logout with a session cookie. -/
def NeedsStore (r : Request) : Route → Prop
  | .login => ∃ form, LoginForm.ofRequest r = .ok form
  | .logout | .logoutAll => ∃ token, sessionOf? r.headers = some token

/-- Without the store every such request fails alike. -/
theorem respondRoute_of_unavailable {c : Clocked} {route : Route} {r : Request}
    (hdown : c.store.available = false) (hneeds : NeedsStore r route) (draws : Nat → String) :
    App.respondRoute c route draws r = (sessionFailure .storeUnavailable, c) := by
  cases route with
  | login =>
      obtain ⟨form, hform⟩ := hneeds
      rw [App.respondRoute, hform]
      show login c draws form = _
      rw [login, Store.login_of_unavailable hdown]
      rfl
  | logout =>
      obtain ⟨token, hfound⟩ := hneeds
      simp [App.respondRoute, logout, hfound, Store.logout, hdown]
  | logoutAll =>
      obtain ⟨token, hfound⟩ := hneeds
      simp [App.respondRoute, logoutAll, hfound, Clocked.owner, Store.identity_of_unavailable hdown]

/-- The answer of a server that could not ask its store. -/
structure FailsInside (s : App) (out : Reply × App) : Prop where
  status : out.1.response.status = Status.internalServerError
  cookie : setCookies out.1.response = []
  drawn : out.1.drawn = 0
  state : out.2 = s

theorem failsInside_of_unavailable {s : App} {r : Request} {route : Route}
    (hdown : s.sessions.store.available = false) (hmethod : r.method = Method.post)
    (hroute : Route.ofPath? r.uri.path = some route) (hneeds : NeedsStore r route)
    (draws : Nat → String) : FailsInside s (s.respond draws r) := by
  rw [respond_eq hmethod hroute, respondRoute_of_unavailable hdown hneeds]
  refine ⟨?_, ?_, rfl, rfl⟩
  · show (compress r.headers AppError.internalServerError.response).status = _
    rw [status_compress]
    rfl
  · show setCookies (compress r.headers AppError.internalServerError.response) = []
    rw [setCookies_compress, setCookies_appError]

/-! ## Runs -/

/-- No input makes the store available again. -/
theorem unavailable_runAll {s : App} (hdown : s.sessions.store.available = false)
    (inputs : List Input) : (s.runAll inputs).2.sessions.store.available = false := by
  obtain ⟨ops, hstate⟩ := state_runAll s inputs
  rw [hstate, Bool.eq_false_iff]
  intro hav
  rw [((s.sessions.available_runAll ops).mp hav).1] at hdown
  cases hdown

/-- **Failures.** An operation that fails changes nothing, on any server. And
when the store was made unavailable, then after whatever else has been asked of
the server every call on the store fails for that reason and draws nothing;
every form that logs in and every logout with a session cookie fails inside;
and a logout without one is answered as before. -/
theorem unavailable_for_good (s : App) (more : List Input) :
    let down := (s.perform (.operation .poison)).2
    let later := (down.runAll more).2
    (∀ op e, (s.sessions.perform op).1.result = .error e → (s.sessions.perform op).2 = s.sessions)
      ∧ (∀ op : Operation, op.IsCall →
        (later.sessions.perform op).1.result = .error .storeUnavailable
          ∧ (later.sessions.perform op).1.drawn = 0)
      ∧ (∀ draws r form, PostsTo r "/api/login" → LoginForm.ofRequest r = .ok form →
        FailsInside later (later.respond draws r))
      ∧ (∀ draws r token, LogsOut r → sessionOf? r.headers = some token →
        FailsInside later (later.respond draws r))
      ∧ ∀ draws r, LogsOut r → sessionOf? r.headers = none →
        (later.respond draws r).1.response.status = Status.ok := by
  intro down later
  have hdown : later.sessions.store.available = false := unavailable_runAll rfl more
  refine ⟨fun op e h => Clocked.perform_of_error h, ?_, ?_, ?_, ?_⟩
  · intro op hcall
    rw [Clocked.perform_of_unavailable hdown hcall]
    exact ⟨rfl, rfl⟩
  · intro draws r form hpost hform
    have hroute : Route.ofPath? r.uri.path = some .login := by rw [hpost.path]; rfl
    exact failsInside_of_unavailable hdown hpost.method hroute ⟨form, hform⟩ draws
  · intro draws r token hlogs hfound
    obtain ⟨route, hroute, rfl | rfl⟩ := route_of_logsOut hlogs
    · exact failsInside_of_unavailable hdown hlogs.method hroute ⟨token, hfound⟩ draws
    · exact failsInside_of_unavailable hdown hlogs.method hroute ⟨token, hfound⟩ draws
  · intro draws r hlogs hfound
    obtain ⟨route, hroute, hlogout⟩ := route_of_logsOut hlogs
    obtain ⟨log, hnothing⟩ := logout_of_none (c := later.sessions) hfound hlogout draws rfl
    rw [respond_eq hlogs.method hroute, hnothing]
    exact status_compress _ _

/-- A login that is refused leaves nothing behind. After the store was made
unavailable and a day has passed, Alice can neither log in nor out with her
cookie, and without it she is told that she is logged out. -/
theorem unavailable_for_good_alice :
    let s : App := ⟨.start [⟨"alice", "no record"⟩] none .epoch, ⟨.directory .fresh [], []⟩⟩
    let login := Operation.login "alice" "wonderland" fun _ => "abc"
    let down := (s.perform (.operation .poison)).2
    let later := (down.runAll [.operation (.advance 86400 0), .operation login]).2
    let form := Request.mk Method.post { path := "/api/login" }
      [.ofTexts "content-type" LoginForm.mediaType]
      (Form.encode [("identity", "alice"), ("password", "wonderland")])
    let logout := fun headers => Request.mk Method.post { path := "/api/logout" } headers []
    let cookie := Header.mk "cookie" (.ofText "SESSIONID=abc")
    (s.sessions.perform login).1.result = .error .loginFailed
      ∧ (s.sessions.perform login).2 = s.sessions
      ∧ (later.sessions.perform login).1.result = .error .storeUnavailable
      ∧ FailsInside later (later.respond (fun _ => "abc") form)
      ∧ FailsInside later (later.respond (fun _ => "abc") (logout [cookie]))
      ∧ (later.respond (fun _ => "abc") (logout [])).1.response.status = Status.ok := by
  intro s login down later form logout cookie
  have hverdict := unavailable_for_good s [.operation (.advance 86400 0), .operation login]
  obtain ⟨hfailed, hcalls, hforms, hcookies, hothers⟩ := hverdict
  have hcheck : Store.check (s.sessions.store.users.get? "alice") s.sessions.store.decoy
      "wonderland" ≠ .ok () := nofun
  have hrefused : (s.sessions.perform login).1.result = .error .loginFailed := by
    have hlogin := Store.login_of_refused (s := s.sessions.store) rfl hcheck s.sessions.now
      fun _ => "abc"
    simp [login, Clocked.perform, hlogin.1, Except.map]
  have hform : LoginForm.ofRequest form = .ok ⟨"alice", "wonderland"⟩ :=
    ofRequest_of_logsIn ⟨rfl, rfl, _, Form.writes_encode _, by decide, by decide⟩
      ⟨by decide, by decide⟩
  have hlogs : ∀ headers, LogsOut (logout headers) := fun headers => ⟨rfl, Or.inl rfl⟩
  exact ⟨hrefused, hfailed login _ hrefused, (hcalls login trivial).1,
    hforms _ form _ ⟨rfl, rfl⟩ hform, hcookies _ _ "abc" (hlogs _) (by decide),
    hothers _ _ (hlogs _) rfl⟩

end MenuHost.Server
