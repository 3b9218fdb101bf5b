import MenuHost.Menu.Page
import MenuHost.Proofs.Server.Revocation

/-!
# The page and the server agree on logging out

The page knows of a logout only the status that comes back, and draws
its own conclusion: home, or an alert. `respond_logout_agrees` holds that
conclusion against what the server has really done, for every server,
available or not, and every request:

- the page goes home exactly if the token of the request, should it have
  one, has no session any more;
- it shows the alert exactly if the server could do nothing, and then
  nothing has changed and the cookie is still the browser's;
- it never takes the server for one without the endpoint.

What the server does depends on the cookie and on nothing that the
logout changes (`respond_logout_cases`), so to send the request again
changes neither the answer nor the store.
-/

namespace MenuHost.Server

open MenuHost.Http MenuHost.Sessions MenuHost.Menu

/-! ## The server's part -/

/-- What a post to the logout endpoint leads to: there is no session cookie,
or its token has no record any more, or the store is unavailable. -/
theorem respond_logout_cases (s : App) {r : Request} (hpost : PostsTo r "/api/logout")
    (draws : Nat → String) :
    (sessionOf? r.headers = none
        ∧ (s.respond draws r).1.response = compress r.headers (okText "")
        ∧ (s.respond draws r).2 = s)
      ∨ (∃ token, sessionOf? r.headers = some token ∧ s.sessions.store.available = true
        ∧ (s.respond draws r).1.response = compress r.headers cleared
        ∧ (s.respond draws r).2.site = s.site
        ∧ Drops s.sessions (fun t _ => t = token) (s.respond draws r).2.sessions)
      ∨ (sessionOf? r.headers ≠ none ∧ s.sessions.store.available = false
        ∧ (s.respond draws r).1.response
          = compress r.headers AppError.internalServerError.response
        ∧ (s.respond draws r).2 = s) := by
  cases hfound : sessionOf? r.headers with
  | none => exact Or.inl ⟨rfl, respond_of_no_session hpost rfl (Or.inl rfl) hfound draws⟩
  | some token =>
      have hroute : Route.ofPath? r.uri.path = some .logout := by rw [hpost.path]; rfl
      obtain ⟨hsent, hkept⟩ := respond_of_route (s := s) hpost.method hroute draws
      have hhandler : App.respondRoute s.sessions .logout draws r
        = logout s.sessions r.headers := rfl
      rw [hhandler] at hsent hkept
      rw [hsent, hkept]
      rcases logout_of_some (c := s.sessions) hfound with
        ⟨hav, hresponse, hdrops⟩ | ⟨hav, hresponse, hsame⟩
      · exact Or.inr (Or.inl ⟨token, rfl, hav, by rw [hresponse], rfl, hdrops⟩)
      · exact Or.inr (Or.inr ⟨nofun, hav, by rw [hresponse], by rw [hsame]⟩)

theorem eq_of_sessions_of_site {s t : App} (hsessions : s.sessions = t.sessions)
    (hsite : s.site = t.site) : s = t := by
  cases s
  cases t
  congr

/-- The same request once more: the same answer, and nothing left to do. -/
theorem respond_logout_again (s : App) {r : Request} (hpost : PostsTo r "/api/logout")
    (draws draws' : Nat → String) :
    let out := s.respond draws r
    (out.2.respond draws' r).1.response = out.1.response ∧ (out.2.respond draws' r).2 = out.2 := by
  intro out
  rcases respond_logout_cases s hpost draws with
    ⟨hnone, hresponse, hsame⟩ | ⟨token, hfound, hav, hresponse, hsite, hdrops⟩
      | ⟨hsome, hdown, hresponse, hsame⟩
  · obtain ⟨hagain, hkept⟩ := respond_of_no_session (s := out.2) hpost rfl (Or.inl rfl) hnone draws'
    exact ⟨hagain.trans hresponse.symm, hkept⟩
  · rcases respond_logout_cases out.2 hpost draws' with
      ⟨hnone, -⟩ | ⟨token', hfound', -, hresponse', hsite', hdrops'⟩ | ⟨-, hdown, -⟩
    · exact absurd (hnone.symm.trans hfound) nofun
    · obtain rfl : token' = token := Option.some.inj (hfound'.symm.trans hfound)
      exact ⟨hresponse'.trans hresponse.symm,
        eq_of_sessions_of_site (hdrops.again hdrops') hsite'⟩
    · exact absurd (hdown.symm.trans (hdrops.available.trans hav)) nofun
  · rw [hsame]
    rcases respond_logout_cases s hpost draws' with
      ⟨hnone, -⟩ | ⟨_, -, hav, -⟩ | ⟨-, -, hresponse', hsame'⟩
    · exact absurd hnone hsome
    · exact absurd (hav.symm.trans hdown) nofun
    · exact ⟨hresponse'.trans hresponse.symm, hsame'⟩

/-! ## The page's part -/

/-- The page, when the status of a response is what its next request gets back. -/
def receiving (p : Page) (r : Response) : Page :=
  { p with replies := .ok r.status :: p.replies }

/-- What the page does in a logout whose request was answered with a response. -/
def effectsOf (p : Page) (r : Response) : List Effect :=
  (receiving p r).logout.2.2.events.map (·.effect)

theorem effectsOf_eq (p : Page) (r : Response) :
    effectsOf p r = [.post logoutEndpoint, (LogoutOutcome.ofReply (.ok r.status)).effect] := rfl

theorem effectsOf_ok (p : Page) {r : Response} (h : r.status = Status.ok) :
    (receiving p r).logout.1 = .success
      ∧ effectsOf p r = [.post logoutEndpoint, .navigate homePath] := by
  have houtcome : LogoutOutcome.ofReply (.ok r.status) = .success := by rw [h]; rfl
  exact ⟨houtcome, by rw [effectsOf_eq, houtcome]; rfl⟩

theorem effectsOf_internalServerError (p : Page) {r : Response}
    (h : r.status = Status.internalServerError) :
    (receiving p r).logout.1 = .failure (.unexpectedStatus Status.internalServerError)
      ∧ effectsOf p r = [.post logoutEndpoint, .alert logoutFailedMessage] := by
  have houtcome : LogoutOutcome.ofReply (.ok r.status)
      = .failure (.unexpectedStatus Status.internalServerError) := by rw [h]; rfl
  exact ⟨houtcome, by rw [effectsOf_eq, houtcome]; rfl⟩

/-! ## Agreement -/

/-- **Agreement.** Whatever page receives the status that the server answers a
logout with: it goes home exactly when the token of the request has no
record any more or there was none, with every other record kept; it
shows the alert exactly when there is a token and the store is
unavailable, with nothing changed and no cookie set; and it never takes
the endpoint for missing. The cookie is taken back exactly when there
was one and the store is available, known or not, and the same request
leads to the same answer and the same server again. -/
theorem respond_logout_agrees (s : App) {r : Request} (hpost : PostsTo r "/api/logout")
    (draws : Nat → String) (page : Page) :
    let out := s.respond draws r
    let found := sessionOf? r.headers
    let available := s.sessions.store.available = true
    let goesHome := effectsOf page out.1.response
      = [.post logoutEndpoint, .navigate homePath]
    let alerts := effectsOf page out.1.response
      = [.post logoutEndpoint, .alert logoutFailedMessage]
    (receiving page out.1.response).logout.1 ≠ .toleratedNotFound
      ∧ (goesHome ↔ available ∨ found = none)
      ∧ (goesHome → out.2.site = s.site
        ∧ Drops s.sessions (fun token _ => found = some token) out.2.sessions)
      ∧ (alerts ↔ found ≠ none ∧ ¬available)
      ∧ (alerts → out.2 = s ∧ setCookies out.1.response = [])
      ∧ (ClearsCookie out.1.response ↔ found ≠ none ∧ available)
      ∧ (¬ClearsCookie out.1.response → setCookies out.1.response = [])
      ∧ ∀ draws', (out.2.respond draws' r).1.response = out.1.response
        ∧ (out.2.respond draws' r).2 = out.2 := by
  intro out found available goesHome alerts
  have hagain := fun draws' => respond_logout_again s hpost draws draws'
  rcases respond_logout_cases s hpost draws with
    ⟨hnone, hresponse, hsame⟩ | ⟨token, hfound, hav, hresponse, hsite, hdrops⟩
      | ⟨hsome, hdown, hresponse, hsame⟩
  · have hstatus : out.1.response.status = Status.ok := by rw [hresponse, status_compress]; rfl
    obtain ⟨houtcome, heffects⟩ := effectsOf_ok page hstatus
    have hquiet : ¬alerts := fun h => absurd (heffects.symm.trans h) (by simp)
    have hcookies : setCookies out.1.response = [] := by
      rw [hresponse, setCookies_compress, setCookies_okText]
    refine ⟨by rw [houtcome]; nofun, iff_of_true heffects (Or.inr hnone), fun _ => ?_,
      iff_of_false hquiet fun h => h.1 hnone, fun h => absurd h hquiet,
      iff_of_false (not_clearsCookie_of_nil hcookies) fun h => h.1 hnone, fun _ => hcookies, hagain⟩
    rw [show out.2 = s from hsame]
    exact ⟨rfl, .nothing s.sessions fun token _ h => absurd (hnone.symm.trans h) nofun⟩
  · have hstatus : out.1.response.status = Status.ok := by
      rw [hresponse, status_compress, status_cleared]
    obtain ⟨houtcome, heffects⟩ := effectsOf_ok page hstatus
    have hquiet : ¬alerts := fun h => absurd (heffects.symm.trans h) (by simp)
    have hclears : ClearsCookie out.1.response :=
      hresponse ▸ clearsCookie_compress.mpr clearsCookie_cleared
    have hsome : found ≠ none := fun h => absurd (h.symm.trans hfound) nofun
    refine ⟨by rw [houtcome]; nofun, iff_of_true heffects (Or.inl hav), fun _ => ⟨hsite, ?_⟩,
      iff_of_false hquiet fun h => h.2 hav, fun h => absurd h hquiet,
      iff_of_true hclears ⟨hsome, hav⟩, fun h => absurd hclears h, hagain⟩
    refine hdrops.congr fun t _ => ?_
    rw [show found = some token from hfound, Option.some.injEq]
    exact eq_comm
  · have hstatus : out.1.response.status = Status.internalServerError := by
      rw [hresponse, status_compress]
      rfl
    obtain ⟨houtcome, heffects⟩ := effectsOf_internalServerError page hstatus
    have haway : ¬goesHome := fun h => absurd (heffects.symm.trans h) (by simp)
    have hcookies : setCookies out.1.response = [] := by
      rw [hresponse, setCookies_compress, setCookies_appError]
    have hunavailable : ¬available := fun h => absurd (h.symm.trans hdown) nofun
    exact ⟨by rw [houtcome]; nofun,
      iff_of_false haway fun h => h.elim hunavailable hsome, fun h => absurd h haway,
      iff_of_true heffects ⟨hsome, hunavailable⟩, fun _ => ⟨hsame, hcookies⟩,
      iff_of_false (not_clearsCookie_of_nil hcookies) fun h => hunavailable h.2,
      fun _ => hcookies, hagain⟩

/-- Alice's page goes home when her session has ended. While the store is
unavailable, it shows the alert and nothing has changed. -/
theorem respond_logout_agrees_alice :
    let sessions := Table.ofList [("abc", Session.mk "alice" ⟨1, 0⟩)]
    let c : Clocked := ⟨{ Store.bare with sessions }, .epoch⟩
    let up : App := ⟨c, ⟨.directory .fresh [], []⟩⟩
    let down : App := ⟨c.poison, ⟨.directory .fresh [], []⟩⟩
    let r := Request.mk Method.post { path := "/api/logout" }
      [⟨"cookie", .ofText "SESSIONID=abc"⟩] []
    let draws := fun _ : Nat => ""
    PostsTo r "/api/logout"
      ∧ effectsOf {} (up.respond draws r).1.response = [.post logoutEndpoint, .navigate homePath]
      ∧ (up.respond draws r).2.sessions.store.sessions.get? "abc" = none
      ∧ effectsOf {} (down.respond draws r).1.response
        = [.post logoutEndpoint, .alert logoutFailedMessage]
      ∧ (down.respond draws r).2 = down := by
  intro sessions c up down r draws
  have hpost : PostsTo r "/api/logout" := ⟨rfl, rfl⟩
  have hfound : sessionOf? r.headers = some "abc" := by decide
  obtain ⟨-, hhome, hgone, -⟩ := respond_logout_agrees up hpost draws {}
  obtain ⟨-, -, -, halert, hkept, -⟩ := respond_logout_agrees down hpost draws {}
  have hgoes := hhome.mpr (Or.inl rfl)
  have halerts := halert.mpr ⟨fun h => absurd (h.symm.trans hfound) nofun, nofun⟩
  have hrecorded : sessions.get? "abc" = some ⟨"alice", ⟨1, 0⟩⟩ := by decide
  exact ⟨hpost, hgoes, (hgone hgoes).2.get?_eq_none hrecorded hfound, halerts, (hkept halerts).1⟩

end MenuHost.Server
