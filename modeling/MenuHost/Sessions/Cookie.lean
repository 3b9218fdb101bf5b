import MenuHost.Http.Header
import MenuHost.Text.Split
import MenuHost.Time.Calendar

/-!
# The session cookie

The header that hands a session to the browser, the one that takes it back, and
the reader that finds a session among the cookies of a request.

Cookies are read leniently: lines that are not plain text, pieces without an
equals sign, other names and empty values are passed over, wherever they stand.
-/

namespace MenuHost.Sessions

open MenuHost.Http MenuHost.Time

def cookieName : String := "SESSIONID"

/-- What a session cookie is limited to. -/
def cookieAttributes : String := "Secure; SameSite=Lax; HttpOnly; Path=/"

/-! ## Writing -/

def cookieText (value : String) (expires : Timestamp) (maxAge : Option Nat) : String :=
  cookieName ++ "=" ++ value ++ "; Expires=" ++ expires.text ++ "; " ++
    (match maxAge with
      | some seconds => "Max-Age=" ++ toString seconds ++ "; "
      | none => "") ++
    cookieAttributes

/-- The header that hands out a session, if the value can stand in a header. -/
def cookie? (value : String) (expires : Timestamp) : Option HeaderValue :=
  HeaderValue.ofString? (cookieText value expires none)

def deletedValue : String := "deleted"

/-- The header that takes a session back. -/
def clearingCookie? : Option HeaderValue :=
  HeaderValue.ofString? (cookieText deletedValue Timestamp.epoch (some 0))

/-! ## Reading -/

/-- Whether a character is blank around names and values: a space or a tab. -/
def isCookieBlank (c : Char) : Bool :=
  c == ' ' || c == '\t'

def cookiePair? (piece : List Char) : Option (List Char × List Char) :=
  (Text.cut '=' piece).map fun (name, value) =>
    (Text.trim isCookieBlank name, Text.trim isCookieBlank value)

/-- The value of a piece that carries a session. -/
def sessionOfPiece? (piece : List Char) : Option String :=
  match cookiePair? piece with
  | some (name, value) =>
    if name = cookieName.toList ∧ value ≠ [] then some (String.ofList value) else none
  | none => none

def sessionOfLine? (line : List Char) : Option String :=
  (line.splitOn ';').findSome? sessionOfPiece?

def sessionOf? (headers : Headers) : Option String :=
  (headers.all "cookie").findSome? fun line => line.text?.bind sessionOfLine?

end MenuHost.Sessions
