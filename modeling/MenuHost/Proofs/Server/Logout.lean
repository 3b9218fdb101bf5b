import MenuHost.Proofs.Server.Reachable
import MenuHost.Proofs.Server.Revocation

/-!
# Logging out over HTTP

Both ways to log out look for the session cookie first. If it is found,
its session ends: logging out erases the token, and logging out
everywhere erases all sessions of the owner, this one among them. If it
is not found, the request is answered as if it had been, and nothing
changes.

So everything depends on whether the cookie is found. In a line of plain
text it always is, whatever other cookies stand around it; in any other
line it never is (`sessionOf?_of_carriedOnce`). `owner_respond_logout`
states the consequence: a session survives its own logout exactly when
the line of its cookie also holds a byte that is not plain text, such as
an unrelated cookie with an accented letter.
-/

namespace MenuHost.Server

open MenuHost.Http MenuHost.Sessions MenuHost.Time

/-! ## The handlers -/

/-- Both ways to log out end the running session whose cookie they find. -/
theorem owner_respondRoute {c : Clocked} {token identity : String} {r : Request}
    (hlive : c.owner token = .ok (some identity)) (hfound : sessionOf? r.headers = some token)
    {route : Route} (hroute : route = .logout ∨ route = .logoutAll) (draws : Nat → String) :
    (App.respondRoute c route draws r).1.response = cleared
      ∧ (App.respondRoute c route draws r).2.owner token = .ok none := by
  obtain ⟨hav, session, hget, -, howner⟩ := Store.identity_eq_ok_some_iff.mp hlive
  rcases hroute with rfl | rfl
  · rcases logout_of_some hfound with ⟨-, hresponse, hdrops⟩ | ⟨hdown, -⟩
    · exact ⟨hresponse, hdrops.owner_eq_none hav fun _ _ => rfl⟩
    · exact absurd (hav.symm.trans hdown) nofun
  · obtain ⟨hresponse, hdrops⟩ := endAll_of_available hav token (some identity)
    rw [App.respondRoute, logoutAll_of_owner hfound hlive]
    refine ⟨hresponse, hdrops.owner_eq_none hav fun kept hkept => ?_⟩
    obtain rfl : session = kept := Option.some.inj (hget.symm.trans hkept)
    exact howner

/-! ## The requests -/

/-- A post to one of the two routes that log out. -/
structure LogsOut (r : Request) : Prop where
  method : r.method = Method.post
  path : r.uri.path = "/api/logout" ∨ r.uri.path = "/api/logout/all"

theorem route_of_logsOut {r : Request} (h : LogsOut r) :
    ∃ route, Route.ofPath? r.uri.path = some route ∧ (route = .logout ∨ route = .logoutAll) := by
  rcases h.path with hpath | hpath
  · exact ⟨.logout, by rw [hpath]; rfl, Or.inl rfl⟩
  · exact ⟨.logoutAll, by rw [hpath]; rfl, Or.inr rfl⟩

/-- The token of a running session on a reachable server is never empty. -/
theorem ne_empty_of_owner {s : App} (hs : Reachable s) {token identity : String}
    (hlive : s.sessions.owner token = .ok (some identity)) : token ≠ "" := by
  obtain ⟨-, session, hget, -⟩ := Store.identity_eq_ok_some_iff.mp hlive
  have htaken : s.sessions.store.Taken token := fun hnone => by
    rw [hget] at hnone
    cases hnone
  obtain ⟨bits, rfl⟩ := exists_bits_of_taken hs htaken
  exact tokenText_ne_empty bits

/-- **What a logout ends.** A request to log out with the cookie of a
running session is answered with success. The session is over afterwards
exactly when the line of the cookie is plain text; otherwise nothing has
happened, and the cookie is not taken back either. -/
theorem owner_respond_logout {s : App} (hs : Reachable s) {r : Request} {line : HeaderValue}
    {token identity : String} (hlive : s.sessions.owner token = .ok (some identity))
    (hlogs : LogsOut r) (honce : CarriedOnce r.headers line token) (draws : Nat → String) :
    let out := s.respond draws r
    out.1.response.status = Status.ok
      ∧ (out.2.sessions.owner token = .ok none ↔ line.bytes.all isTextByte = true)
      ∧ (¬line.bytes.all isTextByte = true → out.2 = s ∧ setCookies out.1.response = []) := by
  intro out
  obtain ⟨route, hpath, hroute⟩ := route_of_logsOut hlogs
  obtain ⟨hsent, hkept⟩ := respond_of_route (s := s) hlogs.method hpath draws
  have hstatus : out.1.response.status
      = (App.respondRoute s.sessions route draws r).1.response.status := by
    rw [hsent, status_compress]
  have hsession := sessionOf?_of_carriedOnce honce (ne_empty_of_owner hs hlive)
  by_cases hplain : line.bytes.all isTextByte = true
  · rw [if_pos hplain] at hsession
    obtain ⟨hresponse, hended⟩ := owner_respondRoute hlive hsession hroute draws
    rw [hresponse] at hstatus
    refine ⟨hstatus.trans status_cleared, iff_of_true ?_ hplain, fun hnot => absurd hplain hnot⟩
    rw [hkept]
    exact hended
  · -- the whole line is passed over, and the request seems to have no session
    rw [if_neg hplain] at hsession
    obtain ⟨log, hnothing⟩ := logout_of_none (c := s.sessions) hsession hroute draws rfl
    rw [hnothing] at hsent hkept hstatus
    have hsame : out.2 = s := hkept
    refine ⟨hstatus, iff_of_false ?_ hplain, fun _ => ⟨hsame, ?_⟩⟩
    · rw [hsame, hlive]
      exact fun h => by cases h
    · rw [hsent, setCookies_compress, okText, setCookies_ofText]
      rfl

/-- Alice's session ends beside a plain cookie, and survives beside one with an
accented letter. -/
theorem owner_respond_logout_alice :
    ∃ record,
      let token := "AAAAAAAAAAAAAAAAAAAAAA"
      let c := Clocked.start [⟨"alice", record⟩] none Timestamp.epoch
      let login := Operation.login "alice" "wonderland" fun _ => token
      let s : App := ⟨(c.perform login).2, ⟨.directory .fresh [], []⟩⟩
      let r := fun line : HeaderValue =>
        Request.mk Method.post { path := "/api/logout" } [⟨"cookie", line⟩] []
      let plain := HeaderValue.ofText ("theme=e; SESSIONID=" ++ token)
      let accented := HeaderValue.ofText ("theme=é; SESSIONID=" ++ token)
      Reachable s ∧ s.sessions.owner token = .ok (some "alice")
        ∧ (∀ line, LogsOut (r line))
        ∧ CarriedOnce (r plain).headers plain token
        ∧ CarriedOnce (r accented).headers accented token
        ∧ (s.respond (fun _ => token) (r plain)).2.sessions.owner token = .ok none
        ∧ (s.respond (fun _ => token) (r accented)).2 = s := by
  obtain ⟨record, -, hverify⟩ := Password.exists_record (Vector.replicate 16 0)
    (show "wonderland".utf8ByteSize < Password.passwordLimit by decide)
  refine ⟨record, ?_⟩
  intro token c login s r plain accented
  have hdrawn : IsDrawn login := fun identity password draws heq k => by
    obtain ⟨-, -, rfl⟩ := Operation.login.inj heq
    exact ⟨Vector.replicate 16 0, show token = tokenText (Vector.replicate 16 0) by decide⟩
  have hs : Reachable s := Reachable.perform (.start _ none _ ⟨.directory .fresh [], []⟩) hdrawn
  have hcheck : Store.check (c.store.users.get? "alice") c.store.decoy "wonderland" = .ok () :=
    Store.check_eq_ok_iff.mpr ⟨record, rfl, hverify⟩
  have hfree : ¬c.store.Taken token := Store.not_taken_new _ none token
  have hlive : s.sessions.owner token = .ok (some "alice") :=
    Clocked.owner_perform_login (k := 0) rfl hcheck (by decide) hfree (by simp)
  have hlogs : ∀ line, LogsOut (r line) := fun line => ⟨rfl, Or.inl rfl⟩
  have hplain : CarriedOnce (r plain).headers plain token :=
    ⟨[], [], [Text.Utf8.encode "theme=e"], Text.Utf8.encode (" SESSIONID=" ++ token), [], rfl,
      by decide, by decide, by decide, by simp⟩
  have haccented : CarriedOnce (r accented).headers accented token :=
    ⟨[], [], [Text.Utf8.encode "theme=é"], Text.Utf8.encode (" SESSIONID=" ++ token), [], rfl,
      by decide, by decide, by decide, by simp⟩
  have hended := owner_respond_logout hs hlive (hlogs plain) hplain fun _ => token
  have hkept := owner_respond_logout hs hlive (hlogs accented) haccented fun _ => token
  exact ⟨hs, hlive, hlogs, hplain, haccented, hended.2.1.mpr (by decide),
    (hkept.2.2 (by decide)).1⟩

end MenuHost.Server
