import MenuHost.Proofs.Server.Routes
import MenuHost.Proofs.Sessions.Revocation
import MenuHost.Proofs.Sessions.SetCookie

/-!
# What a logout takes back

The handlers that log out, opened once: `logout_of_some` and
`endAll_of_available` say what is answered and which records are gone,
and every statement about logging out follows from the two.

- The answer to a session cookie is `cleared`, whatever the cookie
  named: it takes the cookie back (`clearsCookie_cleared`) and says
  nothing about whether there was a session.
- `respond_logoutAll` states how far the authority of a cookie reaches.
  The cookie of a running session ends all sessions of its owner. Any
  other cookie ends at most the session it names: an expired one cannot
  be used against the newer sessions of the same user.
-/

namespace MenuHost.Server

open MenuHost.Http MenuHost.Sessions MenuHost.Time

/-! ## Cookies that are taken back -/

/-- Name and value of the cookie that a header sets. -/
def setPair? (value : HeaderValue) : Option (List Char × List Char) :=
  value.text?.bind fun text => (text.splitOn ';').head?.bind cookiePair?

/-- The one cookie that the response sets has the name of the session cookie
and no time left to live. -/
def ClearsCookie (r : Response) : Prop :=
  ∃ value, setCookies r = [value]
    ∧ (setPair? value).map (·.1) = some cookieName.toList
    ∧ attribute? "Max-Age" value = some "0".toList

theorem not_clearsCookie_of_nil {r : Response} (h : setCookies r = []) : ¬ClearsCookie r := by
  rintro ⟨value, hvalue, -⟩
  rw [h] at hvalue
  cases hvalue

theorem clearsCookie_compress {request : Headers} {r : Response} :
    ClearsCookie (compress request r) ↔ ClearsCookie r := by
  rw [ClearsCookie, setCookies_compress, ClearsCookie]

/-- The response that takes the session cookie back. -/
def cleared : Response := (sessionCleared []).response

theorem response_sessionCleared (log : List LogLine) :
    (sessionCleared log).response = cleared := by
  unfold cleared sessionCleared withCookie
  cases clearingCookie? <;> rfl

theorem cleared_eq {value : HeaderValue} (h : clearingCookie? = some value) :
    cleared = okText "" [⟨"set-cookie", value⟩] := by
  rw [cleared, sessionCleared, h, withCookie]

theorem status_cleared : cleared.status = Status.ok := by
  obtain ⟨value, hvalue⟩ := exists_clearingCookie
  rw [cleared_eq hvalue]
  rfl

theorem clearsCookie_cleared : ClearsCookie cleared := by
  obtain ⟨value, hvalue⟩ := exists_clearingCookie
  have hname : (clearingCookie?.bind setPair?).map (·.1) = some cookieName.toList := by decide
  have hage : clearingCookie?.bind (attribute? "Max-Age") = some "0".toList := by decide
  rw [hvalue, Option.bind_some] at hname hage
  refine ⟨value, ?_, hname, hage⟩
  rw [cleared_eq hvalue, okText, setCookies_ofText]
  rfl

theorem setCookies_okText (body : String) : setCookies (okText body) = [] := by
  rw [okText, setCookies_ofText]
  rfl

theorem setCookies_appError (e : AppError) : setCookies e.response = [] := by
  rw [AppError.response, setCookies_ofText]
  rfl

/-! ## The handlers -/

/-- Without a session cookie neither handler does anything. -/
theorem logout_of_none {c : Clocked} {headers : Headers} (h : sessionOf? headers = none)
    {route : Route} (hroute : route = .logout ∨ route = .logoutAll) (draws : Nat → String)
    {r : Request} (hr : r.headers = headers) :
    ∃ log, App.respondRoute c route draws r = ({ response := okText "", log }, c) := by
  subst hr
  rcases hroute with rfl | rfl
  · exact ⟨_, by rw [App.respondRoute, logout, h]⟩
  · exact ⟨_, by rw [App.respondRoute, logoutAll, h]⟩

theorem logout_of_some {c : Clocked} {headers : Headers} {token : String}
    (hfound : sessionOf? headers = some token) :
    (c.store.available = true ∧ (logout c headers).1.response = cleared
        ∧ Drops c (fun t _ => t = token) (logout c headers).2)
      ∨ (c.store.available = false
        ∧ (logout c headers).1.response = AppError.internalServerError.response
        ∧ (logout c headers).2 = c) := by
  cases hav : c.store.available with
  | true =>
      obtain ⟨log, hlogout⟩ := Store.logout_of_available hav token
      simp only [logout, hfound, hlogout]
      exact Or.inl ⟨trivial, response_sessionCleared _, .erase c token⟩
  | false =>
      have hlogout : c.store.logout token = .error .storeUnavailable := by
        simp [Store.logout, hav]
      simp only [logout, hfound, hlogout]
      exact Or.inr ⟨trivial, rfl, trivial⟩

/-- The records that logging out everywhere is after, by what the lookup of the
cookie's owner found: all of the owner, or else just the one of the token. -/
def TakenBack (token : String) (owner : Option String) (t : String) (session : Session) : Prop :=
  match owner with
  | some identity => session.identity = identity
  | none => t = token

theorem endAll_of_available {c : Clocked} (hav : c.store.available = true) (token : String)
    (owner : Option String) :
    (endAll c token owner).1.response = cleared
      ∧ Drops c (TakenBack token owner) (endAll c token owner).2 := by
  cases owner with
  | some identity =>
      obtain ⟨count, hlogout⟩ := Store.logoutIdentity_of_available hav identity
      simp only [endAll, hlogout]
      exact ⟨response_sessionCleared _, .filter c identity⟩
  | none =>
      obtain ⟨log, hlogout⟩ := Store.logout_of_available hav token
      simp only [endAll, hlogout]
      exact ⟨response_sessionCleared _, .erase c token⟩

theorem exists_owner {c : Clocked} (hav : c.store.available = true) (token : String) :
    ∃ owner, c.owner token = .ok owner :=
  ⟨_, Store.identity_of_available hav c.now token⟩

theorem logoutAll_of_owner {c : Clocked} {headers : Headers} {token : String}
    {owner : Option String} (hfound : sessionOf? headers = some token)
    (howner : c.owner token = .ok owner) : logoutAll c headers = endAll c token owner := by
  simp only [logoutAll, hfound, howner]

/-! ## The requests -/

structure PostsTo (r : Request) (path : String) : Prop where
  method : r.method = Method.post
  path : r.uri.path = path

/-- Logging out everywhere, by what the lookup of the owner finds. -/
theorem respond_of_owner {s : App} {r : Request} (hpost : PostsTo r "/api/logout/all")
    (hav : s.sessions.store.available = true) {token : String} {owner : Option String}
    (hfound : sessionOf? r.headers = some token) (howner : s.sessions.owner token = .ok owner)
    (draws : Nat → String) :
    (s.respond draws r).1.response = compress r.headers cleared
      ∧ (s.respond draws r).2.site = s.site
      ∧ Drops s.sessions (TakenBack token owner) (s.respond draws r).2.sessions := by
  have hroute : Route.ofPath? r.uri.path = some .logoutAll := by rw [hpost.path]; rfl
  obtain ⟨hsent, hkept⟩ := respond_of_route (s := s) hpost.method hroute draws
  have hhandler : App.respondRoute s.sessions .logoutAll draws r
      = endAll s.sessions token owner := logoutAll_of_owner hfound howner
  obtain ⟨hresponse, hdrops⟩ := endAll_of_available hav token owner
  rw [hhandler] at hsent hkept
  rw [hsent, hkept, hresponse]
  exact ⟨rfl, rfl, hdrops⟩

/-- Neither way to log out does anything without a session cookie. -/
theorem respond_of_no_session {s : App} {r : Request} {path : String} (hpost : PostsTo r path)
    {route : Route} (hroute : Route.ofPath? path = some route)
    (hlogs : route = .logout ∨ route = .logoutAll) (hfound : sessionOf? r.headers = none)
    (draws : Nat → String) :
    (s.respond draws r).1.response = compress r.headers (okText "")
      ∧ (s.respond draws r).2 = s := by
  obtain ⟨hsent, hkept⟩ := respond_of_route (s := s) hpost.method (hpost.path ▸ hroute) draws
  obtain ⟨log, hnothing⟩ := logout_of_none (c := s.sessions) hfound hlogs draws rfl
  rw [hnothing] at hsent hkept
  exact ⟨hsent, hkept⟩

/-- **The authority of a cookie.** Logging out everywhere always succeeds.
With the cookie of a running session it takes back every record of the
owner, running or expired, and none of anybody else; with the cookie of
no session, or of an expired one, it takes back at most the record of
that token; and without a cookie it does nothing. -/
theorem respond_logoutAll {s : App} (hav : s.sessions.store.available = true) {r : Request}
    (hpost : PostsTo r "/api/logout/all") (draws : Nat → String) :
    let out := s.respond draws r
    let found := sessionOf? r.headers
    let recorded := s.sessions.store.sessions.get?
    out.1.response.status = Status.ok
      ∧ out.2.site = s.site
      ∧ (∀ token session, found = some token → recorded token = some session →
        s.sessions.now < session.expires →
        Drops s.sessions (fun _ other => other.identity = session.identity) out.2.sessions
          ∧ ClearsCookie out.1.response)
      ∧ (∀ token, found = some token →
        (∀ session, recorded token = some session → ¬s.sessions.now < session.expires) →
        Drops s.sessions (fun t _ => t = token) out.2.sessions ∧ ClearsCookie out.1.response)
      ∧ (found = none → out.2 = s ∧ setCookies out.1.response = []) := by
  intro out found recorded
  have hended : ∀ token owner, found = some token → s.sessions.owner token = .ok owner →
      out.1.response = compress r.headers cleared ∧ out.2.site = s.site
        ∧ Drops s.sessions (TakenBack token owner) out.2.sessions :=
    fun _ _ hfound howner => respond_of_owner hpost hav hfound howner draws
  have hclears : out.1.response = compress r.headers cleared → ClearsCookie out.1.response :=
    fun h => h ▸ clearsCookie_compress.mpr clearsCookie_cleared
  refine ⟨?_, ?_, ?_, ?_, ?_⟩
  · cases hfound : found with
    | none =>
        rw [(respond_of_no_session hpost rfl (Or.inr rfl) hfound draws).1, status_compress]
        rfl
    | some token =>
        obtain ⟨owner, howner⟩ := exists_owner hav token
        rw [(hended token owner hfound howner).1, status_compress, status_cleared]
  · cases hfound : found with
    | none => rw [(respond_of_no_session hpost rfl (Or.inr rfl) hfound draws).2]
    | some token =>
        obtain ⟨owner, howner⟩ := exists_owner hav token
        exact (hended token owner hfound howner).2.1
  · intro token session hfound hget hlt
    have howner : s.sessions.owner token = .ok (some session.identity) :=
      Store.identity_eq_ok_some_iff.mpr ⟨hav, session, hget, hlt, rfl⟩
    obtain ⟨hresponse, -, hdrops⟩ := hended token _ hfound howner
    exact ⟨hdrops, hclears hresponse⟩
  · intro token hfound hdead
    have howner : s.sessions.owner token = .ok none :=
      Store.identity_eq_ok_none_iff.mpr ⟨hav, hdead⟩
    obtain ⟨hresponse, -, hdrops⟩ := hended token _ hfound howner
    exact ⟨hdrops, hclears hresponse⟩
  · intro hfound
    obtain ⟨hresponse, hsame⟩ := respond_of_no_session hpost rfl (Or.inr rfl) hfound draws
    refine ⟨hsame, ?_⟩
    rw [hresponse, setCookies_compress, setCookies_okText]

/-- The cookie of Alice's running session ends both of her sessions, and Bob
stays logged in. -/
theorem respond_logoutAll_alice :
    let later : Timestamp := ⟨1, 0⟩
    let sessions := Table.ofList
      [("new", Session.mk "alice" later), ("old", ⟨"alice", .epoch⟩), ("other", ⟨"bob", later⟩)]
    let s : App := ⟨⟨{ Store.bare with sessions }, .epoch⟩, ⟨.directory .fresh [], []⟩⟩
    let r := Request.mk Method.post { path := "/api/logout/all" }
      [⟨"cookie", .ofText "SESSIONID=new"⟩] []
    let after := (s.respond (fun _ => "") r).2.sessions.store.sessions
    s.sessions.store.available = true ∧ PostsTo r "/api/logout/all"
      ∧ after.get? "new" = none ∧ after.get? "old" = none
      ∧ after.get? "other" = some ⟨"bob", later⟩ := by
  intro later sessions s r after
  have hpost : PostsTo r "/api/logout/all" := ⟨rfl, rfl⟩
  have hfound : sessionOf? r.headers = some "new" := by decide
  have hnew : sessions.get? "new" = some ⟨"alice", later⟩ := by decide
  have hold : sessions.get? "old" = some ⟨"alice", .epoch⟩ := by decide
  have hother : sessions.get? "other" = some ⟨"bob", later⟩ := by decide
  have hverdict := respond_logoutAll (s := s) rfl hpost fun _ => ""
  obtain ⟨hdrops, -⟩ := hverdict.2.2.1 "new" _ hfound hnew (show Timestamp.epoch < later by decide)
  exact ⟨rfl, hpost, hdrops.get?_eq_none hnew rfl, hdrops.get?_eq_none hold rfl,
    (hdrops.records "other" _).mpr ⟨hother, show "bob" ≠ "alice" by decide⟩⟩

end MenuHost.Server
