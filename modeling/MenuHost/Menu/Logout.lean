import MenuHost.Http.Status
import MenuHost.Log

/-!
# Logging out from the page

The page posts to the logout endpoint and looks at the status that comes back.
Success, and an endpoint that is gone because the session already was, send the
browser home; everything else is shown to the user.
-/

namespace MenuHost.Menu

open MenuHost.Http

/-- Where a logout is posted to, relative to the current document. -/
def logoutEndpoint : String := "api/logout"

/-- Where the browser goes after a logout. -/
def homePath : String := "/"

def logoutFailedMessage : String := "Unknown error, application may be down."

/-! ## Replies and outcomes -/

/-- The request never led to a status. -/
structure TransportError where
  reason : String
deriving Repr, DecidableEq

def TransportError.message (e : TransportError) : String :=
  "logout request failed: " ++ e.reason

/-- What comes back for a request. -/
abbrev Reply := Except TransportError Status

inductive LogoutFailure where
  | transport (error : TransportError)
  | unexpectedStatus (status : Status)
deriving Repr, DecidableEq

def LogoutFailure.message : LogoutFailure → String
  | .transport e => e.message
  | .unexpectedStatus s => "unexpected logout response status " ++ s.text

/-- How a logout ended, as far as the user is concerned. -/
inductive LogoutOutcome where
  | success
  | toleratedNotFound
  | failure (why : LogoutFailure)
deriving Repr, DecidableEq

namespace LogoutOutcome

/-- Only the status the server sends for a logout, and that of a missing
endpoint, are no failures. -/
def ofReply : Reply → LogoutOutcome
  | .ok status =>
    if status = Status.ok then success
    else if status = Status.notFound then toleratedNotFound
    else failure (.unexpectedStatus status)
  | .error e => failure (.transport e)

end LogoutOutcome

/-! ## Effects -/

/-- What the page does to the world around it. -/
inductive Effect where
  | post (endpoint : String)
  | navigate (path : String)
  | alert (text : String)
deriving Repr, DecidableEq

def LogoutOutcome.effect : LogoutOutcome → Effect
  | .success => .navigate homePath
  | .toleratedNotFound => .navigate homePath
  | .failure _ => .alert logoutFailedMessage

def LogoutOutcome.logLine : LogoutOutcome → LogLine
  | .success => .trace "user logged out"
  | .toleratedNotFound => .debug "logout endpoint not found, assuming session already ended"
  | .failure why => .warn why.message

end MenuHost.Menu
