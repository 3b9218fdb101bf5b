import MenuHost.Proofs.Server.Sections
import MenuHost.Proofs.Sessions.Renaming
import MenuHost.Server.Run

/-!
# The server does not read tokens

What the store knows of tokens, `Proofs.Sessions.Renaming`, is here taken
to whole runs of a server: operations on the store and posts to the
routes, in any order. Tokens leave the server in two places, the result of
a login and the cookie it sets, and come in by operations and by the
session cookie.

- `Response.rename` renames the token in a cookie that is set and leaves
  everything else of the response alone; `RequestRenamed` relates two
  requests that differ in the token of their session cookie.
- Each handler answers a renamed request on a renamed store with the
  renamed reply (`respondRoute_renamed`). Compression does not look at
  cookies (`compress_rename`), so the client sees the same.
- `tokens_are_opaque` follows by induction over the run. Nothing here
  renames a log line, so no line can depend on what a token is.
-/

namespace MenuHost.Http

open MenuHost.Sessions

/-! ## Responses with their tokens renamed -/

/-- The value of a header with the value of its cookie renamed, if that is the
text of a token. -/
def HeaderValue.renameCookie (ρ : Renaming) (v : HeaderValue) : HeaderValue :=
  match v.text?.bind (Text.cut '=') with
  | some (name, rest) =>
    let value := String.ofList (rest.takeWhile (· ≠ ';'))
    if IsTokenText value then
      .ofText (String.ofList name ++ "=" ++ ρ value ++ String.ofList (rest.dropWhile (· ≠ ';')))
    else v
  | none => v

/-- The header renamed, if it sets a cookie. -/
def Header.renameCookie (ρ : Renaming) (h : Header) : Header :=
  if h.name = "set-cookie" then { h with value := h.value.renameCookie ρ } else h

def Response.rename (ρ : Renaming) (r : Response) : Response :=
  { r with headers := r.headers.map (Header.renameCookie ρ) }

theorem name_renameCookie (ρ : Renaming) (h : Header) : (h.renameCookie ρ).name = h.name := by
  unfold Header.renameCookie
  split <;> rfl

theorem renameCookie_of_ne {ρ : Renaming} {h : Header} (hname : h.name ≠ "set-cookie") :
    h.renameCookie ρ = h := if_neg hname

end MenuHost.Http

namespace MenuHost.Server

open MenuHost.Http MenuHost.Sessions MenuHost.Time

variable {ρ : Renaming}

theorem all_rename {name : String} (hname : name ≠ "set-cookie") (headers : Headers) :
    Headers.all (headers.map (Header.renameCookie ρ)) name = headers.all name := by
  induction headers with
  | nil => rfl
  | cons h rest ih =>
      rw [List.map_cons, all_cons, all_cons, ih, name_renameCookie]
      by_cases hh : h.name = name
      · rw [if_pos hh, if_pos hh, Header.renameCookie, if_neg (hh ▸ hname)]
      · rw [if_neg hh, if_neg hh]

theorem rename_ofText (status : Status) (mediaType body : String) (headers : Headers) :
    (Response.ofText status mediaType body headers).rename ρ =
      .ofText status mediaType body (headers.map (Header.renameCookie ρ)) := by
  have htype : (contentType mediaType).renameCookie ρ = contentType mediaType :=
    renameCookie_of_ne (show "content-type" ≠ "set-cookie" by decide)
  have hlength : ∀ n, (contentLength n).renameCookie ρ = contentLength n := fun _ =>
    renameCookie_of_ne (show "content-length" ≠ "set-cookie" by decide)
  simp only [Response.ofText, Response.rename, List.map_cons, htype, hlength]

theorem first?_rename (r : Response) {name : String} (hname : name ≠ "set-cookie") :
    (r.rename ρ).headers.first? name = r.headers.first? name := by
  rw [Headers.first?, Headers.first?, Response.rename, all_rename hname]

theorem content_rename (r : Response) : (r.rename ρ).content = r.content := by
  simp only [Response.content, first?_rename r (show "content-encoding" ≠ "set-cookie" by decide)]
  rfl

theorem length_rename (r : Response) : (r.rename ρ).length = r.length := by
  rw [Response.length, content_rename]
  rfl

theorem isCompressible_rename (r : Response) : isCompressible (r.rename ρ) = isCompressible r := by
  simp only [isCompressible, headerText, length_rename,
    first?_rename r (show "content-encoding" ≠ "set-cookie" by decide),
    first?_rename r (show "content-type" ≠ "set-cookie" by decide)]

theorem filter_rename {p : Header → Bool} (hp : ∀ h : Header, p (h.renameCookie ρ) = p h)
    (headers : Headers) :
    (headers.map (Header.renameCookie ρ)).filter p =
      (headers.filter p).map (Header.renameCookie ρ) := by
  simp only [List.filter_map, Function.comp_def, hp]

/-- A header that compression adds is no cookie. -/
theorem append_rename {name : String} (hname : name ≠ "set-cookie") (headers : Headers)
    (value : String) :
    headers.map (Header.renameCookie ρ) ++ [Header.ofTexts name value] =
      (headers ++ [Header.ofTexts name value]).map (Header.renameCookie ρ) := by
  have hadded : (Header.ofTexts name value).renameCookie ρ = .ofTexts name value :=
    renameCookie_of_ne hname
  rw [List.map_append, List.map_singleton, hadded]

theorem compress_rename (request : Headers) (r : Response) :
    compress request (r.rename ρ) = (compress request r).rename ρ := by
  have hvary := append_rename (ρ := ρ) (show "vary" ≠ "set-cookie" by decide) r.headers
    "accept-encoding"
  have hkept : ∀ h : Header, decide ((h.renameCookie ρ).name ≠ "accept-ranges"
        ∧ (h.renameCookie ρ).name ≠ "content-length")
      = decide (h.name ≠ "accept-ranges" ∧ h.name ≠ "content-length") := by
    intro h
    rw [name_renameCookie]
  simp only [compress, isCompressible_rename, content_rename]
  split
  · split
    · simp only [Response.rename]
      rw [hvary, filter_rename hkept, append_rename (by decide)]
    · simp only [Response.rename]
      rw [hvary]
  · rfl

theorem renameCookie_cookieText {token : String} (htoken : IsTokenText token)
    (expires : Timestamp) :
    (HeaderValue.ofText (cookieText token expires none)).renameCookie ρ
      = .ofText (cookieText (ρ token) expires none) := by
  have hplain := isPlain_of_isTokenText htoken
  have htext := (ofText_of_isPlain (isPlain_of_mem_cookieText expires none fun c hc =>
    (hplain c hc).1)).2
  rw [toList_cookieText, List.append_assoc] at htext
  -- the date behind the first semicolon is kept, whatever it is
  generalize hrest : (" Expires=".toList ++ expires.text.toList)
        ++ ';' :: (' ' :: cookieAttributes.toList) = rest at htext
  have hcut : Text.cut '=' ("SESSIONID=".toList ++ (token.toList ++ ';' :: rest))
      = some ("SESSIONID".toList, token.toList ++ ';' :: rest) := by
    show Text.cut '=' ("SESSIONID".toList ++ '=' :: (token.toList ++ ';' :: rest)) = _
    exact Text.cut_append_cons (by decide) _
  have htake : (token.toList ++ ';' :: rest).takeWhile (· ≠ ';') = token.toList := by
    rw [List.takeWhile_append_of_pos fun c hc => decide_eq_true (hplain c hc).2.1,
      List.takeWhile_cons_of_neg (by decide), List.append_nil]
  have hdrop : (token.toList ++ ';' :: rest).dropWhile (· ≠ ';') = ';' :: rest := by
    rw [Text.dropWhile_of_notMem fun hmem => (hplain _ hmem).2.1 rfl]
    simp
  rw [HeaderValue.renameCookie, htext, Option.bind_some, hcut]
  simp only [htake, hdrop, String.ofList_toList, if_pos htoken]
  congr 1
  rw [← String.toList_inj, toList_cookieText, ← hrest]
  simp

theorem renameCookie_clearing {value : HeaderValue} (h : clearingCookie? = some value) :
    value.renameCookie ρ = value := by
  have hvalue : (clearingCookie?.bind fun v => v.text?.bind (Text.cut '=')).map
      (fun pair => String.ofList (pair.2.takeWhile (· ≠ ';'))) = some deletedValue := by decide
  rw [h, Option.bind_some] at hvalue
  obtain ⟨⟨name, rest⟩, hcut, hdeleted⟩ := Option.map_eq_some_iff.mp hvalue
  have hno : ¬IsTokenText deletedValue := by decide
  rw [HeaderValue.renameCookie, hcut]
  simp only at hdeleted ⊢
  rw [hdeleted, if_neg hno]

/-! ## Replies -/

/-- The reply with the tokens in its cookies renamed; draws and log stay. -/
def Reply.rename (ρ : Renaming) (r : Reply) : Reply :=
  { r with response := r.response.rename ρ }

/-- A reply that sets no cookie. -/
theorem rename_text (status : Status) (mediaType body : String) (log : List LogLine)
    (drawn : Nat) :
    Reply.rename ρ ⟨.ofText status mediaType body, log, drawn⟩ =
      ⟨.ofText status mediaType body, log, drawn⟩ := by
  rw [Reply.rename, rename_ofText]
  rfl

theorem rename_sessionFailure (e : SessionError) (log : List LogLine) (drawn : Nat) :
    (sessionFailure e log drawn).rename ρ = sessionFailure e log drawn :=
  rename_text _ _ _ _ _

theorem rename_sessionCleared (log : List LogLine) :
    (sessionCleared log).rename ρ = sessionCleared log := by
  obtain ⟨value, hvalue⟩ := exists_clearingCookie
  have hcookie : Header.renameCookie ρ ⟨"set-cookie", value⟩ = ⟨"set-cookie", value⟩ := by
    rw [Header.renameCookie, if_pos rfl, renameCookie_clearing hvalue]
  rw [sessionCleared, hvalue, withCookie, Reply.rename, okText, rename_ofText, List.map_singleton,
    hcookie]

theorem loginReply_rename (form : LoginForm) {l : Store.Login}
    (htoken : ∀ {token expires}, l.result = .ok (token, expires) → IsTokenText token) :
    loginReply form (l.rename ρ) = (loginReply form l).rename ρ := by
  obtain ⟨result, drawn, log⟩ := l
  cases result with
  | error e => exact (rename_sessionFailure e log drawn).symm
  | ok granted =>
      obtain ⟨token, expires⟩ := granted
      have hold : IsTokenText token := htoken rfl
      have hcookie := renameCookie_cookieText (ρ := ρ) hold expires
      simp only [loginReply, Store.Login.rename, Except.map, cookie?_of_isTokenText hold,
        cookie?_of_isTokenText (ρ.isTokenText hold), withCookie, Reply.rename, okText,
        rename_ofText, List.map_singleton, Header.renameCookie, if_true, hcookie]

/-! ## Requests -/

def sessionLine (token : String) : HeaderValue :=
  .ofText (cookieName ++ "=" ++ token)

theorem isPlain_of_mem_sessionLine {token : String} (htoken : IsTokenText token) :
    ∀ c ∈ (cookieName ++ "=" ++ token).toList, IsPlain c ∧ c ≠ ';' := by
  have hname : ∀ c ∈ (cookieName ++ "=").toList, IsPlain c ∧ c ≠ ';' :=
    Text.forall_mem_of_all (p := fun c => IsPlain c ∧ c ≠ ';') (by decide)
  intro c hc
  rw [String.toList_append] at hc
  rcases List.mem_append.mp hc with hc | hc
  · exact hname c hc
  · obtain ⟨hplain, hsemi, -⟩ := isPlain_of_isTokenText htoken c hc
    exact ⟨hplain, hsemi⟩

theorem sessionOfPiece?_sessionLine {token : String} (htoken : IsTokenText token) :
    sessionOfPiece? (cookieName ++ "=" ++ token).toList = some token := by
  have hcut : Text.cut '=' (cookieName ++ "=" ++ token).toList
      = some (cookieName.toList, token.toList) := by
    rw [String.toList_append]
    show Text.cut '=' (cookieName.toList ++ '=' :: token.toList) = _
    exact Text.cut_append_cons (by decide) _
  have hpair : cookiePair? (cookieName ++ "=" ++ token).toList
      = some (cookieName.toList, token.toList) := by
    rw [cookiePair?, hcut, Option.map_some]
    show some (Text.trim isCookieBlank cookieName.toList, Text.trim isCookieBlank _) = _
    rw [Text.trim_of_forall fun c hc => (isPlain_of_isTokenText htoken c hc).2.2]
    rfl
  have hne : token.toList ≠ [] := fun hnil => by
    have hlength := htoken.1
    rw [hnil] at hlength
    cases hlength
  rw [sessionOfPiece?, hpair]
  simp [hne]

theorem sessionOf?_of_sessionLine {headers : Headers} {token : String}
    (htoken : IsTokenText token) (hline : headers.all "cookie" = [sessionLine token]) :
    sessionOf? headers = some token := by
  have hplain := isPlain_of_mem_sessionLine htoken
  have htext := (ofText_of_isPlain fun c hc => (hplain c hc).1).2
  have hpieces := List.splitOn_eq_singleton fun hmem => (hplain _ hmem).2 rfl
  rw [sessionOf?, hline, sessionLine, List.findSome?_cons, htext, Option.bind_some,
    sessionOfLine?, hpieces, List.findSome?_cons, sessionOfPiece?_sessionLine htoken]

/-- The second request is the first with its session cookie, if it has one,
renamed. The cookie then is all there is about cookies. -/
structure RequestRenamed (ρ : Renaming) (r r' : Request) : Prop where
  method : r'.method = r.method
  uri : r'.uri = r.uri
  body : r'.body = r.body
  others : r'.headers.filter (·.name ≠ "cookie") = r.headers.filter (·.name ≠ "cookie")
  cookies : (sessionOf? r.headers = none ∧ r'.headers.all "cookie" = r.headers.all "cookie")
    ∨ ∃ token, IsTokenText token ∧ r.headers.all "cookie" = [sessionLine token]
      ∧ r'.headers.all "cookie" = [sessionLine (ρ token)]

namespace RequestRenamed

variable {r r' : Request}

theorem all (h : RequestRenamed ρ r r') {name : String} (hname : name ≠ "cookie") :
    r'.headers.all name = r.headers.all name := by
  have hothers : ∀ headers : Headers,
      Headers.all (headers.filter (·.name ≠ "cookie")) name = headers.all name := fun headers =>
    all_filter headers fun _ => decide_eq_true hname
  rw [← hothers, h.others, hothers]

theorem ofRequest (h : RequestRenamed ρ r r') :
    LoginForm.ofRequest r' = LoginForm.ofRequest r := by
  have hform : LoginForm.isForm r'.headers = LoginForm.isForm r.headers := by
    simp only [LoginForm.isForm, Headers.first?, h.all (show "content-type" ≠ "cookie" by decide)]
  rw [LoginForm.ofRequest, LoginForm.ofRequest, hform, h.body]

theorem compress (h : RequestRenamed ρ r r') (response : Response) :
    Server.compress r'.headers response = Server.compress r.headers response := by
  simp only [Server.compress, h.all (show "accept-encoding" ≠ "cookie" by decide)]

theorem session (h : RequestRenamed ρ r r') :
    (sessionOf? r.headers = none ∧ sessionOf? r'.headers = none)
      ∨ ∃ token, IsTokenText token ∧ sessionOf? r.headers = some token
        ∧ sessionOf? r'.headers = some (ρ token) := by
  rcases h.cookies with ⟨hnone, hsame⟩ | ⟨token, htoken, hline, hline'⟩
  · refine Or.inl ⟨hnone, ?_⟩
    rw [sessionOf?, hsame]
    exact hnone
  · exact Or.inr ⟨token, htoken, sessionOf?_of_sessionLine htoken hline,
      sessionOf?_of_sessionLine (ρ.isTokenText htoken) hline'⟩

end RequestRenamed

/-! ## Handlers -/

/-- The second answer is the first with its tokens renamed, and so are the sessions
that are left. -/
structure AnsweredAlike (ρ : Renaming) (out out' : Reply × Clocked) : Prop where
  reply : out'.1 = out.1.rename ρ
  state : out.2.Renamed ρ out'.2

theorem login_renamed {c c' : Clocked} {draws : Nat → String} (h : c.Renamed ρ c')
    (hdraws : ∀ k, IsTokenText (draws k)) (form : LoginForm) :
    AnsweredAlike ρ (login c draws form) (login c' (fun k => ρ (draws k)) form) := by
  obtain ⟨hlogin, hkept⟩ := h.store.login hdraws c.now form.identity form.password
  rw [login_eq, login_eq, h.now, hlogin]
  exact ⟨loginReply_rename form (Store.isTokenText_of_login hdraws), hkept, rfl⟩

/-- How the handlers answer after they have ended sessions. -/
def afterEnding {β : Type} (c : Clocked) (ended : Except SessionError (β × Store))
    (log : β → List LogLine) : Reply × Clocked :=
  match ended with
  | .error e => (sessionFailure e, c)
  | .ok (value, store) => (sessionCleared (log value), { c with store })

theorem logout_of_found {headers : Headers} {token : String}
    (hfound : sessionOf? headers = some token) (c : Clocked) :
    logout c headers =
      afterEnding c (c.store.logout token) (· ++ [.trace "user logged out"]) := by
  simp only [logout, hfound, afterEnding]
  cases c.store.logout token <;> rfl

theorem endAll_some (c : Clocked) (token identity : String) :
    endAll c token (some identity) = afterEnding c (c.store.logoutIdentity identity)
      fun count => [.trace ("ended " ++ toString count ++ " sessions of " ++ identity)] := by
  simp only [endAll, afterEnding]
  cases c.store.logoutIdentity identity <;> rfl

theorem endAll_none (c : Clocked) (token : String) :
    endAll c token none = afterEnding c (c.store.logout token) id := by
  simp only [endAll, afterEnding]
  cases c.store.logout token <;> rfl

theorem afterEnding_renamed {β : Type} {c c' : Clocked}
    {ended ended' : Except SessionError (β × Store)} (h : c.Renamed ρ c')
    (halike : Store.Alike ρ ended ended') (log : β → List LogLine) :
    AnsweredAlike ρ (afterEnding c ended log) (afterEnding c' ended' log) := by
  rcases halike with ⟨e, rfl, rfl⟩ | ⟨value, kept, kept', rfl, rfl, hkept⟩
  · exact ⟨(rename_sessionFailure e [] 0).symm, h⟩
  · exact ⟨(rename_sessionCleared _).symm, hkept, h.now⟩

theorem logout_renamed {c c' : Clocked} {r r' : Request} (h : c.Renamed ρ c')
    (hr : RequestRenamed ρ r r') :
    AnsweredAlike ρ (logout c r.headers) (logout c' r'.headers) := by
  rcases hr.session with ⟨hnone, hnone'⟩ | ⟨token, htoken, hfound, hfound'⟩
  · simp only [logout, hnone, hnone']
    exact ⟨(rename_text _ _ _ _ _).symm, h⟩
  · rw [logout_of_found hfound, logout_of_found hfound']
    exact afterEnding_renamed h (h.store.logout htoken) _

theorem endAll_renamed {c c' : Clocked} {token : String} (h : c.Renamed ρ c')
    (htoken : IsTokenText token) (owner : Option String) :
    AnsweredAlike ρ (endAll c token owner) (endAll c' (ρ token) owner) := by
  cases owner with
  | some identity =>
      rw [endAll_some, endAll_some]
      exact afterEnding_renamed h (h.store.logoutIdentity identity) _
  | none =>
      rw [endAll_none, endAll_none]
      exact afterEnding_renamed h (h.store.logout htoken) _

theorem logoutAll_renamed {c c' : Clocked} {r r' : Request} (h : c.Renamed ρ c')
    (hr : RequestRenamed ρ r r') :
    AnsweredAlike ρ (logoutAll c r.headers) (logoutAll c' r'.headers) := by
  rcases hr.session with ⟨hnone, hnone'⟩ | ⟨token, htoken, hfound, hfound'⟩
  · simp only [logoutAll, hnone, hnone']
    exact ⟨(rename_text _ _ _ _ _).symm, h⟩
  · have howner : c'.owner (ρ token) = c.owner token := by
      rw [Clocked.owner, h.now, h.store.identity htoken]
      rfl
    simp only [logoutAll, hfound, hfound', howner]
    cases c.owner token with
    | error e => exact ⟨(rename_sessionFailure e [] 0).symm, h⟩
    | ok owner => exact endAll_renamed h htoken owner

theorem respondRoute_renamed {c c' : Clocked} {r r' : Request} {draws : Nat → String}
    (h : c.Renamed ρ c') (hr : RequestRenamed ρ r r') (hdraws : ∀ k, IsTokenText (draws k))
    (route : Route) :
    AnsweredAlike ρ (App.respondRoute c route draws r)
      (App.respondRoute c' route (fun k => ρ (draws k)) r') := by
  cases route with
  | login =>
      simp only [App.respondRoute, hr.ofRequest]
      cases LoginForm.ofRequest r with
      | ok form => exact login_renamed h hdraws form
      | error e => exact ⟨(rename_text _ _ _ _ _).symm, h⟩
  | logout => exact logout_renamed h hr
  | logoutAll => exact logoutAll_renamed h hr

/-! ## Runs -/

/-- The second input is the first with the tokens renamed that it draws and names.
Of requests only posts to the routes are looked at. -/
inductive InputRenamed (ρ : Renaming) : Input → Input → Prop where
  | operation {op : Operation} (h : op.OverTokens) :
      InputRenamed ρ (.operation op) (.operation (op.rename ρ))
  | request {draws : Nat → String} {r r' : Request} {route : Route}
      (hdraws : ∀ k, IsTokenText (draws k)) (hpost : r.method = Method.post)
      (hroute : Route.ofPath? r.uri.path = some route) (hr : RequestRenamed ρ r r') :
      InputRenamed ρ (.request draws r) (.request (fun k => ρ (draws k)) r')

def Output.rename (ρ : Renaming) : Output → Output
  | .step s => .step (s.rename ρ)
  | .reply r => .reply (r.rename ρ)

def Output.log : Output → List LogLine
  | .step s => s.log
  | .reply r => r.log

theorem log_rename (out : Output) : (out.rename ρ).log = out.log := by
  cases out <;> rfl

/-- The same site, and sessions that differ in names. -/
structure App.Renamed (ρ : Renaming) (s s' : App) : Prop where
  sessions : s.sessions.Renamed ρ s'.sessions
  site : s'.site = s.site

theorem perform_renamed {s s' : App} {input input' : Input} (h : App.Renamed ρ s s')
    (hinput : InputRenamed ρ input input') :
    (s'.perform input').1 = (s.perform input).1.rename ρ
      ∧ App.Renamed ρ (s.perform input).2 (s'.perform input').2 := by
  cases hinput with
  | @operation op hop =>
      obtain ⟨hstep, hstate⟩ := Clocked.perform_renamed h.sessions hop
      exact ⟨congrArg Output.step hstep, hstate, h.site⟩
  | @request draws r r' route hdraws hpost hroute hr =>
      obtain ⟨hreply, hstate⟩ := respondRoute_renamed h.sessions hr hdraws route
      have hpost' := hr.method.trans hpost
      have hroute' : Route.ofPath? r'.uri.path = some route := hr.uri ▸ hroute
      simp only [App.perform, respond_eq hpost hroute, respond_eq hpost' hroute', hreply]
      refine ⟨?_, hstate, h.site⟩
      simp only [Output.rename, Reply.rename, hr.compress, compress_rename]

theorem runAll_renamed {s s' : App} {inputs inputs' : List Input} (h : App.Renamed ρ s s')
    (hinputs : List.Forall₂ (InputRenamed ρ) inputs inputs') :
    (s'.runAll inputs').1 = (s.runAll inputs).1.map (Output.rename ρ) := by
  induction hinputs generalizing s s' with
  | nil => rfl
  | cons hinput _ ih =>
      obtain ⟨hout, hstate⟩ := perform_renamed h hinput
      rw [App.runAll_cons, App.runAll_cons, hout, ih hstate]
      rfl

/-- **Opaque tokens.** Take two new servers with the same users, and two runs that
differ in tokens only: in the second everything that is drawn or sent in is
renamed. Then it gives the same outputs, with the tokens that are handed out
renamed and nothing else, and the logs do not differ at all. -/
theorem tokens_are_opaque (ρ : Renaming) (users : List User) {decoy decoy' : Option String}
    (hdecoy : ∀ stored ∈ decoy, Password.IsRecord stored)
    (hdecoy' : ∀ stored ∈ decoy', Password.IsRecord stored) (now : Timestamp)
    (site : Files.Site) {inputs inputs' : List Input}
    (hinputs : List.Forall₂ (InputRenamed ρ) inputs inputs') :
    let outputs := (App.runAll ⟨.start users decoy now, site⟩ inputs).1
    let outputs' := (App.runAll ⟨.start users decoy' now, site⟩ inputs').1
    outputs' = outputs.map (Output.rename ρ)
      ∧ outputs'.map Output.log = outputs.map Output.log := by
  intro outputs outputs'
  have hstart : App.Renamed ρ ⟨.start users decoy now, site⟩ ⟨.start users decoy' now, site⟩ :=
    ⟨⟨Store.renamed_new users hdecoy hdecoy', rfl⟩, rfl⟩
  have hrun : outputs' = outputs.map (Output.rename ρ) := runAll_renamed hstart hinputs
  refine ⟨hrun, ?_⟩
  rw [hrun, List.map_map]
  exact List.map_congr_left fun out _ => log_rename out

/-- Exchanges two digits. -/
def exchange (c : Char) : Char :=
  if c = 'A' then 'B' else if c = 'B' then 'A' else c

theorem exchange_exchange (c : Char) : exchange (exchange c) = c := by
  unfold exchange
  split
  · simp_all
  · split <;> simp_all

/-- The renaming that exchanges two digits in every token. -/
def exchanged : Renaming where
  rename token := String.ofList (token.toList.map exchange)
  isTokenText := by
    intro token h
    refine ⟨by simpa using h.1, ?_⟩
    rw [String.toList_ofList, List.all_map]
    refine List.all_eq_true.mpr fun d hd => ?_
    have hdigit := List.all_eq_true.mp h.2 d hd
    show isTokenDigit (exchange d) = true
    unfold exchange
    split
    · decide
    · split
      · decide
      · exact hdigit
  injective := by
    intro token other _ _ h
    have hback := congrArg (List.map exchange) (String.ofList_injective h)
    exact String.toList_inj.mp
      (by simpa [List.map_map, Function.comp_def, exchange_exchange] using hback)

/-- Alice logs in, looks whose session it is, logs out by her cookie and looks
again, with one token and with another; the decoys differ as well. -/
theorem tokens_are_opaque_alice :
    let token := "AAAAAAAAAAAAAAAAAAAAAA"
    let inputs := fun token => [Input.operation (.login "alice" "wonderland" fun _ => token),
      .operation (.identity token),
      .request (fun _ => token)
        ⟨Method.post, { path := "/api/logout" }, [⟨"cookie", sessionLine token⟩], []⟩,
      .operation (.identity token)]
    ∃ record decoy decoy',
      let start := fun decoy =>
        App.mk (.start [⟨"alice", record⟩] (some decoy) .epoch) ⟨.directory .fresh [], []⟩
      let outputs := ((start decoy).runAll (inputs token)).1
      let outputs' := ((start decoy').runAll (inputs (exchanged token))).1
      exchanged token = "BBBBBBBBBBBBBBBBBBBBBB"
        ∧ Password.IsRecord decoy ∧ Password.IsRecord decoy'
        ∧ List.Forall₂ (InputRenamed exchanged) (inputs token) (inputs (exchanged token))
        ∧ outputs.head?.map Output.log = some [.trace "session started for alice"]
        ∧ outputs' = outputs.map (Output.rename exchanged)
        ∧ outputs'.map Output.log = outputs.map Output.log := by
  intro token inputs
  obtain ⟨record, -, hverify⟩ := Password.exists_record (Vector.replicate 16 0)
    (show "wonderland".utf8ByteSize < Password.passwordLimit by decide)
  obtain ⟨decoy, hdecoy, -⟩ := Password.exists_record (Vector.replicate 16 1)
    (show token.utf8ByteSize < Password.passwordLimit by decide)
  obtain ⟨decoy', hdecoy', -⟩ := Password.exists_record (Vector.replicate 16 1)
    (show "BBBBBBBBBBBBBBBBBBBBBB".utf8ByteSize < Password.passwordLimit by decide)
  refine ⟨record, decoy, decoy', ?_⟩
  intro start outputs outputs'
  have htoken : IsTokenText token := by decide
  have hother : exchanged token = "BBBBBBBBBBBBBBBBBBBBBB" := by decide
  have hrequest : ∀ {name}, IsTokenText name → ∀ uri, RequestRenamed exchanged
      ⟨Method.post, uri, [⟨"cookie", sessionLine name⟩], []⟩
      ⟨Method.post, uri, [⟨"cookie", sessionLine (exchanged name)⟩], []⟩ := fun hname uri =>
    ⟨rfl, rfl, rfl, rfl, Or.inr ⟨_, hname, rfl, rfl⟩⟩
  have hinputs : List.Forall₂ (InputRenamed exchanged) (inputs token) (inputs (exchanged token)) :=
    .cons (.operation fun _ => htoken) (.cons (.operation htoken) (.cons
      (.request (fun _ => htoken) rfl rfl (hrequest htoken _)) (.cons (.operation htoken) .nil)))
  have hrecord : Password.IsRecord decoy := ⟨_, _, hdecoy⟩
  have hrecord' : Password.IsRecord decoy' := ⟨_, _, hdecoy'⟩
  have hsome : ∀ {record}, Password.IsRecord record →
      ∀ stored ∈ some record, Password.IsRecord stored := by simp
  obtain ⟨hrun, hlogs⟩ := tokens_are_opaque exchanged [⟨"alice", record⟩]
    (hsome hrecord) (hsome hrecord') .epoch ⟨.directory .fresh [], []⟩ hinputs
  refine ⟨hother, hrecord, hrecord', hinputs, ?_, hrun, hlogs⟩
  let store := (start decoy).sessions.store
  have hcheck : Store.check (store.users.get? "alice") store.decoy "wonderland" = .ok () :=
    Store.check_eq_ok_iff.mpr ⟨record, rfl, hverify⟩
  have hfree : ¬store.Taken token := Store.not_taken_new _ (some decoy) token
  have hlogin : store.login (start decoy).sessions.now (fun _ => token) "alice" "wonderland" = _ :=
    Store.login_of_free (k := 0) rfl hcheck (by decide) hfree (by simp) _
  show some (store.login (start decoy).sessions.now (fun _ => token) "alice" "wonderland").1.log = _
  rw [hlogin]
  rfl

end MenuHost.Server
