import MenuHost.Log
import MenuHost.Password.Hash
import MenuHost.Table
import MenuHost.Time.Timestamp

/-!
# The session store

Users with their password records, and the sessions that were started and not
ended. A session is found by its token until it expires; expired ones stay in
the store, and their tokens are not given out again.

A login takes three sections: it looks up the records to check against
(`records`), checks the password (`check`), and starts the session (`grant`).
For an identity that is not known a decoy is checked, so that it costs as much as
a known one; the decoy lets nobody in.

A store that has become unavailable answers nothing any more.
-/

namespace MenuHost.Sessions

open MenuHost.Time

def lifetimeDays : Nat := 30

/-- How many tokens a login draws at most. -/
def maxDraws : Nat := 5

inductive SessionError where
  | loginFailed
  | tokenExhausted
  | storeUnavailable
deriving Repr, DecidableEq

def SessionError.message : SessionError → String
  | .loginFailed => "login failed"
  | .tokenExhausted => "could not allocate a unique session token"
  | .storeUnavailable => "session store is unavailable"

/-- A user: who it is, and the record of the password. -/
structure User where
  identity : String
  record : String
deriving Repr, DecidableEq

/-- Makes a user; the password itself is not kept. -/
def User.create (identity password : String) (salt : Password.Salt) :
    Except Password.HashError User :=
  match Password.hash salt password with
  | .ok record => .ok { identity, record }
  | .error e => .error e

/-- A session: whose it is, and when it ends by itself. -/
structure Session where
  identity : String
  expires : Timestamp
deriving Repr, DecidableEq

structure Store where
  users : Table String
  decoy : Option String
  sessions : Table Session
  available : Bool := true

namespace Store

/-- The store of a list of users, of whom the last of an identity counts, with
the record of a password that nobody knows as decoy. -/
def new (users : List User) (decoy : Option String) : Store where
  users := .ofList (users.map fun u => (u.identity, u.record))
  decoy := decoy
  sessions := .empty

def bare : Store := new [] none

/-- The store that answers nothing any more. -/
def poison (s : Store) : Store := { s with available := false }

/-! ## Logging in -/

/-- The records to check an identity's password against: its own, and the
decoy. -/
def records (s : Store) (identity : String) :
    Except SessionError (Option String × Option String) :=
  if s.available then .ok (s.users.get? identity, s.decoy) else .error .storeUnavailable

/-- Checks a password against a user's record. Without one the decoy is checked
and the check fails. -/
def check (record decoy : Option String) (password : String) : Except Password.HashError Unit :=
  match record, decoy with
  | some record, _ => Password.verify record password
  | none, some decoy =>
    match Password.verify decoy password with
    | .ok () => .error .mismatch
    | .error e => .error e
  | none, none => .error .mismatch

/-- What a login returns: a token and when it expires, or an error. -/
structure Login where
  result : Except SessionError (String × Timestamp)
  /-- How many tokens were drawn. -/
  drawn : Nat := 0
  log : List LogLine := []

/-- A login that failed before it drew a token. -/
def refused (e : SessionError) (log : List LogLine := []) : Login :=
  { result := .error e, log }

/-- The first draw whose token no session has. -/
def freeDraw? (s : Store) (draws : Nat → String) : Option Nat :=
  (List.range maxDraws).find? fun k => !s.sessions.contains (draws k)

def grant (s : Store) (now : Timestamp) (draws : Nat → String) (identity : String) :
    Login × Store :=
  if s.available then
    let expires := now.plusDays lifetimeDays
    match s.freeDraw? draws with
    | some k =>
      ({ result := .ok (draws k, expires), drawn := k + 1
         log := [.trace ("session started for " ++ identity)] },
        { s with sessions := s.sessions.insert (draws k) { identity, expires } })
    | none => ({ result := .error .tokenExhausted, drawn := maxDraws }, s)
  else (refused .storeUnavailable, s)

def login (s : Store) (now : Timestamp) (draws : Nat → String) (identity password : String) :
    Login × Store :=
  match s.records identity with
  | .error e => (refused e, s)
  | .ok (record, decoy) =>
    match check record decoy password with
    | .error e =>
      (refused .loginFailed
        [.trace ("login rejected for " ++ identity ++ ": " ++ e.message)], s)
    | .ok () => s.grant now draws identity

/-! ## Logging out and looking up -/

/-- Ends the session of a token, if there is one; the log says whose it was. -/
def logout (s : Store) (token : String) : Except SessionError (List LogLine × Store) :=
  if s.available then
    let log := match s.sessions.get? token with
      | some session => [.trace ("session ended for " ++ session.identity)]
      | none => []
    .ok (log, { s with sessions := s.sessions.erase token })
  else .error .storeUnavailable

/-- Ends all sessions of an identity and counts them. -/
def logoutIdentity (s : Store) (identity : String) : Except SessionError (Nat × Store) :=
  if s.available then
    let kept := s.sessions.filter fun _ session => session.identity ≠ identity
    .ok (s.sessions.size - kept.size, { s with sessions := kept })
  else .error .storeUnavailable

/-- Whose session a token is, if it has one that has not expired. -/
def identity (s : Store) (now : Timestamp) (token : String) :
    Except SessionError (Option String) :=
  if s.available then
    .ok (((s.sessions.get? token).filter fun session => now < session.expires).map (·.identity))
  else .error .storeUnavailable

end Store

end MenuHost.Sessions
