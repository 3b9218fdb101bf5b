import MenuHost.Http.Status
import MenuHost.Sessions.Store

/-!
# Errors of the server

What a request that failed is answered: a status and its text. Errors of the
session store become such answers; those that are not the client's fault are
logged.
-/

namespace MenuHost.Server

open MenuHost.Http MenuHost.Sessions

/-- The media type of plain answers. -/
def plainText : String := "text/plain; charset=utf-8"

inductive AppError where
  | notFound
  | unauthorized
  | internalServerError
deriving Repr, DecidableEq

namespace AppError

/-- The wording of an error, which is also the body of its response. -/
def message : AppError → String
  | notFound => "Not Found"
  | unauthorized => "Unauthorized"
  | internalServerError => "Internal Server Error"

def status : AppError → Status
  | notFound => Status.notFound
  | unauthorized => Status.unauthorized
  | internalServerError => Status.internalServerError

/-- What a session error is answered with. -/
def ofSession : SessionError → AppError
  | .loginFailed => unauthorized
  | .tokenExhausted => internalServerError
  | .storeUnavailable => internalServerError

def sessionLog (e : SessionError) : List LogLine :=
  match e with
  | .loginFailed => []
  | .tokenExhausted => [.error e.message]
  | .storeUnavailable => [.error e.message]

end AppError

end MenuHost.Server
