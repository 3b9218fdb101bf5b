import MenuHost.Proofs.Http.Form
import MenuHost.Proofs.Server.Routes
import MenuHost.Proofs.Sessions.History
import MenuHost.Proofs.Sessions.SetCookie

/-!
# Logging in over HTTP

A login passes through the reader of forms, the store, the writer of
cookies and the compression of responses. Two outcomes are possible, and
nothing in between:

- `HandsOut`: the response sets one cookie, and the cookie works. What
  the browser sends back is read as a token whose session is the only
  thing that changed, and the date of the cookie is that of the session.
- `LeavesNoTrace`: the response sets no cookie and the server is as it
  was.

The handler records the session before it builds the cookie, so a cookie
that cannot be built would leave a session behind that nobody has. That
never happens, because every token and every date can stand in a header
(`exists_cookie`).
-/

namespace MenuHost.Server

open MenuHost.Http MenuHost.Sessions MenuHost.Time

/-! ## Forms that log in -/

def fieldValues (name : String) (pairs : List (String × String)) : List String :=
  (pairs.filter fun pair => pair.1 = name).map (·.2)

theorem fieldValues_cons (name : String) (pair : String × String)
    (pairs : List (String × String)) :
    fieldValues name (pair :: pairs) =
      (if pair.1 = name then [pair.2] else []) ++ fieldValues name pairs := by
  by_cases h : pair.1 = name <;> simp [fieldValues, h]

theorem eq_none_of_append_cons {α : Type} {value : Option α} {x y : α} {xs : List α}
    (h : value.toList ++ x :: xs = [y]) : value = none ∧ x = y ∧ xs = [] := by
  cases value with
  | none => simpa using h
  | some v => simp at h

/-- One identity and one password, wherever they stand, are collected. -/
theorem collect_of_fieldValues {pairs : List (String × String)} {identity password : Option String}
    {i p : String}
    (hi : identity.toList ++ fieldValues LoginForm.identityField pairs = [i])
    (hp : password.toList ++ fieldValues LoginForm.passwordField pairs = [p]) :
    LoginForm.collect identity password pairs = .ok ⟨i, p⟩ := by
  induction pairs generalizing identity password with
  | nil =>
      obtain rfl : identity = some i := by cases identity <;> simp_all [fieldValues]
      obtain rfl : password = some p := by cases password <;> simp_all [fieldValues]
      rfl
  | cons pair rest ih =>
      -- a field that was collected cannot come again, for its value is the only one
      obtain ⟨name, value⟩ := pair
      rw [fieldValues_cons] at hi hp
      have hfields : LoginForm.identityField ≠ LoginForm.passwordField := by decide
      by_cases hname : name = LoginForm.identityField
      · subst hname
        rw [if_pos rfl, List.singleton_append] at hi
        rw [if_neg hfields, List.nil_append] at hp
        obtain ⟨rfl, rfl, hrest⟩ := eq_none_of_append_cons hi
        rw [LoginForm.collect, if_pos rfl]
        exact ih (by rw [hrest]; rfl) hp
      · rw [if_neg hname, List.nil_append] at hi
        by_cases hother : name = LoginForm.passwordField
        · subst hother
          rw [if_pos rfl, List.singleton_append] at hp
          obtain ⟨rfl, rfl, hrest⟩ := eq_none_of_append_cons hp
          rw [LoginForm.collect, if_neg hname, if_pos rfl]
          exact ih hi (by rw [hrest]; rfl)
        · rw [if_neg hother, List.nil_append] at hp
          rw [LoginForm.collect, if_neg hname, if_neg hother]
          exact ih hi hp

/-- A request that logs in: a post of a form with one identity and one
password. How the form is written, and what else is in it, is left open. -/
structure LogsIn (r : Request) (identity password : String) : Prop where
  method : r.method = Method.post
  path : r.uri.path = "/api/login"
  form : ∃ pairs, Form.Writes pairs r.body
    ∧ fieldValues LoginForm.identityField pairs = [identity]
    ∧ fieldValues LoginForm.passwordField pairs = [password]

/-- The server takes the form of a request: it is declared as one, and not too
large. -/
def TakesForm (r : Request) : Prop :=
  LoginForm.isForm r.headers = true ∧ r.body.length ≤ LoginForm.maxBodySize

theorem ofRequest_of_logsIn {r : Request} {identity password : String}
    (h : LogsIn r identity password) (htaken : TakesForm r) :
    LoginForm.ofRequest r = .ok ⟨identity, password⟩ := by
  obtain ⟨pairs, hwrites, hi, hp⟩ := h.form
  have hcollect : LoginForm.ofPairs (Form.decode r.body) = .ok ⟨identity, password⟩ := by
    rw [Form.decode_of_writes hwrites]
    exact collect_of_fieldValues hi hp
  rw [LoginForm.ofRequest, if_neg (not_not_intro htaken.1), if_neg (Nat.not_lt.mpr htaken.2),
    hcollect]

theorem ofRequest_of_not_takesForm {r : Request} (h : ¬TakesForm r) :
    ∃ e, LoginForm.ofRequest r = .error e := by
  by_cases hform : LoginForm.isForm r.headers = true
  · have hlarge : LoginForm.maxBodySize < r.body.length :=
      Nat.lt_of_not_le fun hsize => h ⟨hform, hsize⟩
    exact ⟨_, by rw [LoginForm.ofRequest, if_neg (not_not_intro hform), if_pos hlarge]⟩
  · exact ⟨_, by rw [LoginForm.ofRequest, if_pos hform]⟩

/-! ## The handler -/

theorem status_ofSession (e : SessionError) :
    (AppError.ofSession e).response.status ≠ Status.ok := by
  cases e <;> decide

theorem status_rejection (e : FormRejection) : e.response.status ≠ Status.ok := by
  cases e with
  | contentType => decide
  | tooLarge => decide
  | fields e => exact show Status.unprocessable ≠ Status.ok by decide

/-- The handler does what the store says: it hands out the token that was
granted, in a cookie that can always be built, or passes the error on. -/
theorem login_outcomes (c : Clocked) (bits : Nat → TokenBits) (form : LoginForm) :
    let draws := fun k => tokenText (bits k)
    let granted := (c.store.login c.now draws form.identity form.password).1.result
    (∃ k value, granted = .ok (draws k, expiryOf c.now)
        ∧ c.store.available = true ∧ ¬c.store.Taken (draws k)
        ∧ cookie? (draws k) (expiryOf c.now) = some value
        ∧ (login c draws form).1.response = okText "Login Successful" [⟨"set-cookie", value⟩]
        ∧ (login c draws form).2 = { c with store := { c.store with
            sessions := c.store.sessions.insert (draws k) ⟨form.identity, expiryOf c.now⟩ } })
      ∨ ∃ e, granted = .error e ∧ (login c draws form).1.response = (AppError.ofSession e).response
        ∧ (login c draws form).2 = c := by
  intro draws granted
  rcases c.store.login_cases c.now draws form.identity form.password with
    ⟨-, h⟩ | ⟨-, e, -, h⟩ | ⟨-, -, -, h⟩ | ⟨hav, -, k, -, hfree, -, h⟩
  · exact Or.inr ⟨.storeUnavailable, by simp [granted, h, Store.refused],
      by simp [login, h, Store.refused, sessionFailure], by simp [login, h, Store.refused]⟩
  · exact Or.inr ⟨.loginFailed, by simp [granted, h, Store.refused],
      by simp [login, h, Store.refused, sessionFailure], by simp [login, h, Store.refused]⟩
  · exact Or.inr ⟨.tokenExhausted, by simp [granted, h],
      by simp [login, h, sessionFailure], by simp [login, h]⟩
  · obtain ⟨value, hvalue, -⟩ := exists_cookie (bits k) (expiryOf c.now)
    have hcookie : cookie? (draws k) (expiryOf c.now) = some value := hvalue
    rw [plusDays_lifetimeDays] at h
    exact Or.inl ⟨k, value, by simp [granted, h], hav, hfree, hcookie,
      by simp [login, h, hcookie, withCookie], by simp [login, h, hcookie]⟩

/-! ## The two outcomes -/

def App.withSession (s : App) (token : String) (session : Session) : App :=
  { s with sessions := { s.sessions with store := { s.sessions.store with
      sessions := s.sessions.store.sessions.insert token session } } }

/-- A session of the identity was recorded for the token, and nothing else
was changed; the one cookie of the response gives the token back, and its
date is the second in which the session expires. -/
structure HandsOut (s : App) (identity token : String) (out : Reply × App) : Prop where
  status : out.1.response.status = Status.ok
  fresh : ¬s.sessions.store.Taken token
  recorded : out.2 = s.withSession token ⟨identity, expiryOf s.sessions.now⟩
  owner : out.2.sessions.owner token = .ok (some identity)
  cookie : ∃ value begins, setCookies out.1.response = [value] ∧ ReadBackAs value token
    ∧ (attribute? "Expires" value).bind readDate? = some begins
    ∧ begins.InSecond (expiryOf s.sessions.now)
    ∧ (∀ now, now < begins → out.2.sessions.store.identity now token = .ok (some identity))
    ∧ ∀ now, ¬now < ⟨begins.secs, begins.nanos + nanosPerSecond⟩ →
        out.2.sessions.store.identity now token = .ok none

/-- The response sets no cookie, and the server is as it was. -/
structure LeavesNoTrace (s : App) (out : Reply × App) : Prop where
  status : out.1.response.status ≠ Status.ok
  cookie : setCookies out.1.response = []
  state : out.2 = s

/-- The server takes the form, and the store grants a token. -/
def Grants (s : App) (draws : Nat → String) (r : Request) (identity password : String) : Prop :=
  TakesForm r ∧ ∃ token expires,
    (s.sessions.store.login s.sessions.now draws identity password).1.result = .ok (token, expires)

theorem nanosFit_expiryOf {now : Timestamp} (h : Timestamp.nanosFit now.secs now.nanos = true) :
    Timestamp.nanosFit (expiryOf now).secs (expiryOf now).nanos = true := by
  show Timestamp.nanosFit (now.secs + 30 * 24 * 60 * 60) now.nanos = true
  simp only [Timestamp.nanosFit, Bool.or_eq_true, Bool.and_eq_true, decide_eq_true_eq,
    beq_iff_eq] at h ⊢
  omega

theorem handsOut_of_granted {s : App} {r : Request} {identity : String} {bits : TokenBits}
    {value : HeaderValue} {out : Reply × App}
    (hclock : Timestamp.nanosFit s.sessions.now.secs s.sessions.now.nanos = true)
    (hav : s.sessions.store.available = true) (hfree : ¬s.sessions.store.Taken (tokenText bits))
    (hvalue : cookie? (tokenText bits) (expiryOf s.sessions.now) = some value)
    (hresponse : out.1.response =
      compress r.headers (okText "Login Successful" [⟨"set-cookie", value⟩]))
    (hstate : out.2 = s.withSession (tokenText bits) ⟨identity, expiryOf s.sessions.now⟩) :
    HandsOut s identity (tokenText bits) out := by
  obtain ⟨value', hvalue', hbytes, htext⟩ := exists_cookie bits (expiryOf s.sessions.now)
  obtain rfl : value' = value := Option.some.inj (hvalue'.symm.trans hvalue)
  have hfit := nanosFit_expiryOf hclock
  have hsecond := Timestamp.inSecond_floor hfit
  have hlookup : ∀ now, out.2.sessions.store.identity now (tokenText bits)
      = .ok (if now < expiryOf s.sessions.now then some identity else none) := fun now => by
    rw [hstate]
    exact Store.identity_insert hav now _ _
  refine ⟨?_, hfree, hstate, ?_, value', _, ?_, readBackAs_of_bytes hbytes,
    readDate?_expires htext hfit, hsecond, fun now hnow => ?_, fun now hnow => ?_⟩
  · rw [hresponse, status_compress]
    rfl
  · have hnow : out.2.sessions.now = s.sessions.now := by rw [hstate]; rfl
    rw [Clocked.owner, hnow, hlookup, if_pos (lt_expiryOf _)]
  · rw [hresponse, setCookies_compress, okText, setCookies_ofText]
    rfl
  · rw [hlookup, if_pos (hsecond.lt_of_lt hnow)]
  · rw [hlookup, if_neg (hsecond.not_lt_of_not_lt hnow)]

theorem leavesNoTrace_of_text {s : App} {r : Request} {out : Reply × App} {status : Status}
    {mediaType body : String} (hstatus : status ≠ Status.ok)
    (hresponse : out.1.response = compress r.headers (.ofText status mediaType body))
    (hstate : out.2 = s) : LeavesNoTrace s out := by
  refine ⟨?_, ?_, hstate⟩
  · rw [hresponse, status_compress]
    exact hstatus
  · rw [hresponse, setCookies_compress, setCookies_ofText]
    rfl

/-- **Logging in over HTTP.** A post of a form with an identity and a
password, on any server and at any time, either hands out a cookie that
works or leaves no trace; it does the former exactly when the store
grants a token. -/
theorem respond_login {s : App} {r : Request} {identity password : String}
    (hclock : Timestamp.nanosFit s.sessions.now.secs s.sessions.now.nanos = true)
    (hlogs : LogsIn r identity password) (bits : Nat → TokenBits) :
    let draws := fun k => tokenText (bits k)
    let out := s.respond draws r
    (Grants s draws r identity password ∧ ∃ k, HandsOut s identity (draws k) out)
      ∨ (¬Grants s draws r identity password ∧ LeavesNoTrace s out) := by
  intro draws out
  have hroute : Route.ofPath? r.uri.path = some .login := by rw [hlogs.path]; rfl
  obtain ⟨hsent, hkept⟩ := respond_of_route (s := s) hlogs.method hroute draws
  by_cases htaken : TakesForm r
  · -- the store decides, and by `login_outcomes` no cookie fails after it has granted
    have hhandler : App.respondRoute s.sessions .login draws r
        = login s.sessions draws ⟨identity, password⟩ := by
      rw [App.respondRoute, ofRequest_of_logsIn hlogs htaken]
    rw [hhandler] at hsent hkept
    rcases login_outcomes s.sessions bits ⟨identity, password⟩ with
      ⟨k, value, hgranted, hav, hfree, hvalue, hresponse, hstate⟩ | ⟨e, hfailed, hresponse, hstate⟩
    · exact Or.inl ⟨⟨htaken, _, _, hgranted⟩, k, handsOut_of_granted hclock hav hfree hvalue
        (hsent.trans (congrArg (compress r.headers) hresponse))
        (hkept.trans (congrArg (App.mk · s.site) hstate))⟩
    · refine Or.inr ⟨?_, leavesNoTrace_of_text (status_ofSession e)
        (hsent.trans (congrArg (compress r.headers) hresponse))
        (hkept.trans (congrArg (App.mk · s.site) hstate))⟩
      rintro ⟨-, token, expires, hgranted⟩
      cases hfailed.symm.trans hgranted
  · obtain ⟨e, hrefused⟩ := ofRequest_of_not_takesForm htaken
    have hhandler : App.respondRoute s.sessions .login draws r
        = ({ response := e.response }, s.sessions) := by
      rw [App.respondRoute, hrefused]
    rw [hhandler] at hsent hkept
    exact Or.inr ⟨fun hgrants => htaken hgrants.1,
      leavesNoTrace_of_text (status_rejection e) hsent hkept⟩

/-- Alice logs in at the beginning of 1970, and gets a cookie that works. -/
theorem respond_login_alice :
    ∃ record,
      let s : App :=
        ⟨⟨Store.new [⟨"alice", record⟩] none, Timestamp.epoch⟩, ⟨.directory .fresh [], []⟩⟩
      let draws := fun _ : Nat => tokenText (Vector.replicate 16 0)
      let r : Request :=
        { method := Method.post
          uri := { path := "/api/login" }
          headers := [.ofTexts "content-type" LoginForm.mediaType]
          body := Form.encode [("identity", "alice"), ("password", "wonderland")] }
      Timestamp.nanosFit s.sessions.now.secs s.sessions.now.nanos = true
        ∧ LogsIn r "alice" "wonderland"
        ∧ ∃ k, HandsOut s "alice" (draws k) (s.respond draws r) := by
  obtain ⟨record, -, hverify⟩ := Password.exists_record (Vector.replicate 16 0)
    (show "wonderland".utf8ByteSize < Password.passwordLimit by decide)
  refine ⟨record, ?_⟩
  intro s draws r
  have hlogs : LogsIn r "alice" "wonderland" :=
    ⟨rfl, rfl, _, Form.writes_encode _, by decide, by decide⟩
  have htaken : TakesForm r := ⟨by decide, by decide⟩
  have hclock : Timestamp.nanosFit s.sessions.now.secs s.sessions.now.nanos = true := rfl
  have hcheck : Store.check (s.sessions.store.users.get? "alice") s.sessions.store.decoy
      "wonderland" = .ok () := Store.check_eq_ok_iff.mpr ⟨record, rfl, hverify⟩
  have hfree : ¬s.sessions.store.Taken (draws 0) := Store.not_taken_new _ none _
  have hgrants : Grants s draws r "alice" "wonderland" :=
    ⟨htaken, _, _, congrArg (·.1.result)
      (Store.login_of_free (k := 0) rfl hcheck (by decide) hfree (by simp) s.sessions.now)⟩
  refine ⟨hclock, hlogs, ?_⟩
  rcases respond_login hclock hlogs fun _ => Vector.replicate 16 0 with h | h
  · exact h.2
  · exact absurd hgrants h.1

end MenuHost.Server
