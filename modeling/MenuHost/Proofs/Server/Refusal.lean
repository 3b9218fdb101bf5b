import MenuHost.Proofs.Server.Login
import MenuHost.Proofs.Server.Reachable
import MenuHost.Proofs.Server.Revocation
import MenuHost.Proofs.Sessions.Credentials

/-!
# What a refused login gives away

Somebody who tries identities would like to know which of them exist.
The store checks a password against the user's record, or against the
decoy if there is no user, and these two ways must not differ in what
comes out of them. They could at one point: a record that cannot be used
is logged in other words than a password that does not match. No record
made by `hash` is of that kind, so `login_of_not_admits` gives both ways
the same outcome.

`refusals_look_alike` compares two attempts on one server. They leave the
same store and draw nothing, and over HTTP the responses are the same,
whatever else the two requests say; only the identity in the log differs.
-/

namespace MenuHost.Server

open MenuHost.Http MenuHost.Sessions MenuHost.Time

/-! ## Attempts -/

/-- A login that was refused, as the store returns it. -/
structure TurnedAway (s : Store) (identity : String) (out : Store.Login × Store) : Prop where
  result : out.1.result = .error .loginFailed
  drawn : out.1.drawn = 0
  log : out.1.log = [rejection identity]
  state : out.2 = s

/-- A login that was refused, as the server answers it. -/
structure TurnsAway (s : App) (identity : String) (out : Reply × App) : Prop where
  response : out.1.response = AppError.unauthorized.response
  drawn : out.1.drawn = 0
  log : out.1.log = [rejection identity]
  state : out.2 = s

/-- A post of a form with the credentials. -/
structure Submits (r : Request) (identity password : String) : Prop where
  post : PostsTo r "/api/login"
  form : LoginForm.ofRequest r = .ok ⟨identity, password⟩

/-- The server adds nothing to what the store says, and the client's other headers
have no influence: the text of the refusal is too short to be compressed. -/
theorem turnsAway_of_refused {s : App} {r : Request} {identity password : String}
    {draws : Nat → String} (hsubmits : Submits r identity password)
    (hrefused : s.sessions.store.login s.sessions.now draws identity password =
      (Store.refused .loginFailed [rejection identity], s.sessions.store)) :
    TurnsAway s identity (s.respond draws r) := by
  have hroute : Route.ofPath? r.uri.path = some .login := by rw [hsubmits.post.path]; rfl
  have hhandler : App.respondRoute s.sessions .login draws r =
      (sessionFailure .loginFailed [rejection identity], s.sessions) := by
    rw [App.respondRoute, hsubmits.form]
    show login s.sessions draws ⟨identity, password⟩ = _
    rw [login, hrefused]
    rfl
  rw [respond_eq hsubmits.post.method hroute, hhandler]
  exact ⟨compress_appError r.headers .unauthorized, rfl, rfl, rfl⟩

/-! ## Two attempts -/

/-- **Refused logins look alike.** Take a server in any state that it reaches
with its store available, and two attempts with wrong credentials, for
identities known or not. Both leave everything as it was, draw nothing and
log the same line but for the identity; over HTTP they get the same
response. -/
theorem refusals_look_alike {users : List User} {decoy : Option String} (hmade : Made users decoy)
    (now : Timestamp) (site : Files.Site) (inputs : List Input) :
    let s := (App.runAll ⟨.start users decoy now, site⟩ inputs).2
    s.sessions.store.available = true →
    ∀ {i p j q : String}, ¬Admits users i p → ¬Admits users j q → ∀ draws draws' : Nat → String,
      TurnedAway s.sessions.store i (s.sessions.store.login s.sessions.now draws i p)
        ∧ TurnedAway s.sessions.store j (s.sessions.store.login s.sessions.now draws' j q)
        ∧ ∀ r r', Submits r i p → Submits r' j q →
          (s.respond draws r).1.response = (s.respond draws' r').1.response
            ∧ TurnsAway s i (s.respond draws r) ∧ TurnsAway s j (s.respond draws' r') := by
  intro s hav i p j q hi hj draws draws'
  obtain ⟨ops, hstate⟩ := state_runAll ⟨.start users decoy now, site⟩ inputs
  have hrun : s.sessions = ((Clocked.start users decoy now).runAll ops).2 :=
    congrArg App.sessions hstate
  have hfirst := login_of_not_admits hmade hrun hav hi draws
  have hsecond := login_of_not_admits hmade hrun hav hj draws'
  refine ⟨?_, ?_, fun r r' hr hr' => ?_⟩
  · rw [hfirst]
    exact ⟨rfl, rfl, rfl, rfl⟩
  · rw [hsecond]
    exact ⟨rfl, rfl, rfl, rfl⟩
  · have hone := turnsAway_of_refused hr hfirst
    have hother := turnsAway_of_refused hr' hsecond
    exact ⟨hone.response.trans hother.response.symm, hone, hother⟩

/-- After Alice has logged in, Bob and Carol try, who are no users, Carol with
the password of the decoy. -/
theorem refusals_look_alike_bob :
    ∃ record decoy,
      let users := [User.mk "alice" record]
      let inputs := [Input.operation (.login "alice" "wonderland" fun _ => "abc")]
      let s := (App.runAll ⟨.start users (some decoy) .epoch, ⟨.directory .fresh [], []⟩⟩ inputs).2
      let submit := fun identity password => Request.mk Method.post { path := "/api/login" }
        [.ofTexts "content-type" LoginForm.mediaType]
        (Form.encode [("identity", identity), ("password", password)])
      Made users (some decoy) ∧ s.sessions.store.available = true
        ∧ Password.verify decoy "looking-glass" = .ok ()
        ∧ ¬Admits users "bob" "builder" ∧ ¬Admits users "carol" "looking-glass"
        ∧ (s.respond (fun _ => "xyz") (submit "bob" "builder")).1.response
          = (s.respond (fun _ => "xyz") (submit "carol" "looking-glass")).1.response
        ∧ TurnsAway s "carol" (s.respond (fun _ => "xyz") (submit "carol" "looking-glass")) := by
  obtain ⟨record, hrecord, -⟩ := Password.exists_record (Vector.replicate 16 0)
    (show "wonderland".utf8ByteSize < Password.passwordLimit by decide)
  obtain ⟨decoy, hdecoy, hverify⟩ := Password.exists_record (Vector.replicate 16 1)
    (show "looking-glass".utf8ByteSize < Password.passwordLimit by decide)
  refine ⟨record, decoy, ?_⟩
  intro users inputs s submit
  have hmade : Made users (some decoy) := by
    refine ⟨fun user huser => ?_, fun stored hstored => ?_⟩
    · obtain rfl := List.mem_singleton.mp huser
      exact ⟨"wonderland", Vector.replicate 16 0, by simp [User.create, hrecord]⟩
    · obtain rfl := Option.some.inj hstored
      exact ⟨_, _, hdecoy⟩
  have hav : s.sessions.store.available = true :=
    (Clocked.available_runAll (.start users (some decoy) .epoch)
      [.login "alice" "wonderland" fun _ => "abc"]).mpr ⟨rfl, by simp⟩
  have hunknown : ∀ {identity password}, "alice" ≠ identity → ¬Admits users identity password := by
    rintro identity password hne ⟨before, user, after, hsplit, hname, -⟩
    have hmem : user ∈ users := hsplit ▸ by simp
    obtain rfl := List.mem_singleton.mp hmem
    exact hne hname
  have hsubmits : ∀ {identity password},
      LoginForm.ofRequest (submit identity password) = .ok ⟨identity, password⟩ →
        Submits (submit identity password) identity password := fun hform => ⟨⟨rfl, rfl⟩, hform⟩
  have hbob := hsubmits <| ofRequest_of_logsIn (r := submit "bob" "builder")
    ⟨rfl, rfl, _, Form.writes_encode _, by decide, by decide⟩ ⟨by decide, by decide⟩
  have hcarol := hsubmits <| ofRequest_of_logsIn (r := submit "carol" "looking-glass")
    ⟨rfl, rfl, _, Form.writes_encode _, by decide, by decide⟩ ⟨by decide, by decide⟩
  have hno : ¬Admits users "bob" "builder" := hunknown (by decide)
  have hno' : ¬Admits users "carol" "looking-glass" := hunknown (by decide)
  obtain ⟨-, -, hverdict⟩ := refusals_look_alike hmade .epoch ⟨.directory .fresh [], []⟩ inputs
    hav hno hno' (fun _ => "xyz") fun _ => "xyz"
  obtain ⟨hsame, -, haway⟩ := hverdict _ _ hbob hcarol
  exact ⟨hmade, hav, hverify, hno, hno', hsame, haway⟩

end MenuHost.Server
