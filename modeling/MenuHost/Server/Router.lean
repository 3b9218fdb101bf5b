import MenuHost.Server.Compression
import MenuHost.Server.Error
import MenuHost.Server.LoginForm
import MenuHost.Sessions.Cookie
import MenuHost.Sessions.Run
import MenuHost.Files.Serve

/-!
# The server

Three routes log in and out; everything else is a file of the site. `respond`
answers a request: it returns the response, the log, the number of tokens drawn
and the server afterwards.

A request without a session cookie cannot log out, and need not: it is answered
as if it had.
-/

namespace MenuHost.Server

open MenuHost.Http MenuHost.Sessions MenuHost.Files

/-- What the server works on: its sessions with their clock, and its site. -/
structure App where
  sessions : Clocked
  site : Site

/-- What a request leads to. -/
structure Reply where
  response : Response
  log : List LogLine := []
  /-- How many tokens were drawn. -/
  drawn : Nat := 0

/-! ## Responses -/

def AppError.response (e : AppError) : Response :=
  .ofText e.status plainText e.message

def okText (body : String) (headers : Headers := []) : Response :=
  .ofText Status.ok plainText body headers

/-- A response that failed for a session error, with its log. -/
def sessionFailure (e : SessionError) (log : List LogLine := []) (drawn : Nat := 0) : Reply :=
  { response := (AppError.ofSession e).response, log := log ++ AppError.sessionLog e, drawn }

/-- A response that hands out a cookie; without one it fails. -/
def withCookie (cookie : Option HeaderValue) (what body : String) (log : List LogLine)
    (drawn : Nat := 0) : Reply :=
  match cookie with
  | some value => { response := okText body [⟨"set-cookie", value⟩], log, drawn }
  | none =>
    { response := AppError.internalServerError.response
      log := log ++
        [.error ("could not build " ++ what ++ ": " ++ HeaderError.invalidValue.message)]
      drawn }

/-- The response that takes the session cookie back. -/
def sessionCleared (log : List LogLine) : Reply :=
  withCookie clearingCookie? "expired session cookie" "" log

def FormRejection.response (r : FormRejection) : Response :=
  .ofText r.status plainText r.message

/-! ## Routes -/

def login (c : Clocked) (draws : Nat → String) (form : LoginForm) : Reply × Clocked :=
  let (login, store) := c.store.login c.now draws form.identity form.password
  let c := { c with store }
  match login.result with
  | .error e => (sessionFailure e login.log login.drawn, c)
  | .ok (token, expires) =>
    match cookie? token expires with
    | none => (withCookie none "session cookie" "" login.log login.drawn, c)
    | some value =>
      let log := login.log ++ [.trace ("user " ++ form.identity ++ " logged in")]
      (withCookie (some value) "session cookie" "Login Successful" log login.drawn, c)

def logout (c : Clocked) (headers : Headers) : Reply × Clocked :=
  match sessionOf? headers with
  | none =>
    ({ response := okText "", log := [.trace "logout without a session cookie"] }, c)
  | some token =>
    match c.store.logout token with
    | .error e => (sessionFailure e, c)
    | .ok (log, store) =>
      (sessionCleared (log ++ [.trace "user logged out"]), { c with store })

/-- What logging out everywhere ends, after the lookup of whose session the cookie
is: all sessions of that identity, or else whatever the token names. -/
def endAll (c : Clocked) (token : String) (owner : Option String) : Reply × Clocked :=
  match owner with
  | some identity =>
    match c.store.logoutIdentity identity with
    | .error e => (sessionFailure e, c)
    | .ok (count, store) =>
      (sessionCleared [.trace ("ended " ++ toString count ++ " sessions of " ++ identity)],
        { c with store })
  | none =>
    match c.store.logout token with
    | .error e => (sessionFailure e, c)
    | .ok (log, store) => (sessionCleared log, { c with store })

/-- Ends every session of the identity behind the cookie. -/
def logoutAll (c : Clocked) (headers : Headers) : Reply × Clocked :=
  match sessionOf? headers with
  | none =>
    ({ response := okText "", log := [.trace "logout everywhere without a session cookie"] }, c)
  | some token =>
    match c.owner token with
    | .error e => (sessionFailure e, c)
    | .ok owner => endAll c token owner

/-- Answers with a file of the site, or that there is none. Only the first header
about codings is looked at. -/
def serveFile (site : Site) (r : Request) : Reply :=
  let accepted := Coding.accepted (r.headers.first? "accept-encoding").toList
  match site.find r.uri accepted with
  | .ok file => { response := file.response }
  | .error status =>
    { response := AppError.notFound.response
      log := [.trace ("no static file for " ++ r.uri.text ++ ": " ++ status.text)] }

/-- The paths that are not files. -/
inductive Route where
  | login
  | logout
  | logoutAll
deriving Repr, DecidableEq

def Route.ofPath? (path : String) : Option Route :=
  if path = "/api/login" then some .login
  else if path = "/api/logout" then some .logout
  else if path = "/api/logout/all" then some .logoutAll
  else none

/-- The response to a request for a route with another method. -/
def methodNotAllowed : Response where
  status := Status.methodNotAllowed
  headers := [.ofTexts "allow" Method.post.name, contentLength 0]
  body := .plain []

namespace App

def respondRoute (c : Clocked) (route : Route) (draws : Nat → String) (r : Request) :
    Reply × Clocked :=
  match route with
  | .login =>
    match LoginForm.ofRequest r with
    | .ok form => login c draws form
    | .error e => ({ response := e.response }, c)
  | .logout => logout c r.headers
  | .logoutAll => logoutAll c r.headers

/-- Answers a request, before compression. -/
def answer (s : App) (draws : Nat → String) (r : Request) : Reply × App :=
  match Route.ofPath? r.uri.path with
  | none => (serveFile s.site r, s)
  | some route =>
    if r.method = Method.post then
      let (reply, sessions) := respondRoute s.sessions route draws r
      (reply, { s with sessions })
    else ({ response := methodNotAllowed }, s)

def respond (s : App) (draws : Nat → String) (r : Request) : Reply × App :=
  let (reply, s) := s.answer draws r
  ({ reply with response := compress r.headers reply.response }, s)

end App

end MenuHost.Server
