import MenuHost.Http.Form
import MenuHost.Http.Message

/-!
# The login form

What a login request must look like: a form of limited size with exactly one
identity and exactly one password. Other fields are ignored.
-/

namespace MenuHost.Server

open MenuHost.Http

structure LoginForm where
  identity : String
  password : String
deriving Repr, DecidableEq

/-- Why pairs are no login. -/
inductive FieldError where
  | duplicate (name : String)
  | missing (name : String)
deriving Repr, DecidableEq

def FieldError.message : FieldError → String
  | .duplicate name => "duplicate field `" ++ name ++ "`"
  | .missing name => "missing field `" ++ name ++ "`"

/-- Why a request is refused before anybody is logged in. -/
inductive FormRejection where
  | contentType
  | tooLarge
  | fields (error : FieldError)
deriving Repr, DecidableEq

namespace FormRejection

def message : FormRejection → String
  | contentType =>
    "Form requests must have `Content-Type: application/x-www-form-urlencoded`"
  | tooLarge => "Failed to buffer the request body: length limit exceeded"
  | fields e => "Failed to deserialize form body: " ++ e.message

def status : FormRejection → Status
  | contentType => Status.unsupportedMediaType
  | tooLarge => Status.contentTooLarge
  | fields _ => Status.unprocessable

end FormRejection

namespace LoginForm

def identityField : String := "identity"

def passwordField : String := "password"

/-- The media type of forms. -/
def mediaType : String := "application/x-www-form-urlencoded"

def maxBodySize : Nat := 2097152

/-- Takes in the pairs of a form after those that gave `identity` and `password`. -/
def collect (identity password : Option String) :
    List (String × String) → Except FieldError LoginForm
  | [] =>
    match identity, password with
    | some identity, some password => .ok { identity, password }
    | none, _ => .error (.missing identityField)
    | some _, none => .error (.missing passwordField)
  | (name, value) :: rest =>
    if name = identityField then
      if identity.isSome then .error (.duplicate identityField)
      else collect (some value) password rest
    else if name = passwordField then
      if password.isSome then .error (.duplicate passwordField)
      else collect identity (some value) rest
    else collect identity password rest

/-- The login of the pairs of a form. -/
def ofPairs (pairs : List (String × String)) : Except FieldError LoginForm :=
  collect none none pairs

/-- Whether the first content type of a request is that of forms. -/
def isForm (headers : Headers) : Bool :=
  match (headers.first? "content-type").bind HeaderValue.text? with
  | some text => mediaType.toList.isPrefixOf text
  | none => false

def ofRequest (r : Request) : Except FormRejection LoginForm :=
  if ¬ isForm r.headers then .error .contentType
  else if maxBodySize < r.body.length then .error .tooLarge
  else
    match ofPairs (Form.decode r.body) with
    | .ok form => .ok form
    | .error e => .error (.fields e)

end LoginForm

end MenuHost.Server
