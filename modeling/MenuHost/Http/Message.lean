import MenuHost.Gzip.Member
import MenuHost.Http.Method
import MenuHost.Http.Status
import MenuHost.Http.Uri

/-!
# Requests and responses

A response's body is kept as the bytes to be sent, or as content that is sent
compressed: of that, only the content matters here. A body can also break off
before its first byte.
-/

namespace MenuHost.Http

structure Request where
  method : Method
  uri : Uri
  headers : Headers := []
  body : List UInt8 := []

inductive Body where
  | plain (bytes : List UInt8)
  | compressed (content : List UInt8)
  /-- Nothing, where so many bytes were to come. -/
  | broken (promised : Nat)
deriving Repr, DecidableEq

structure Response where
  status : Status
  headers : Headers
  body : Body
deriving Repr, DecidableEq

namespace HeaderValue

/-- The value of a text, without the controls that no value can hold. -/
def ofText (s : String) : HeaderValue where
  bytes := (Text.Utf8.encode s).filter isValueByte
  valid := by simp [List.all_filter]

end HeaderValue

def Header.ofTexts (name value : String) : Header := ⟨name, .ofText value⟩

def contentLength (n : Nat) : Header :=
  .ofTexts "content-length" (toString n)

def contentType (mediaType : String) : Header :=
  .ofTexts "content-type" mediaType

namespace Response

def ofText (status : Status) (mediaType body : String) (headers : Headers := []) : Response :=
  let bytes := Text.Utf8.encode body
  { status
    headers := contentType mediaType :: contentLength bytes.length :: headers
    body := .plain bytes }

/-- What the client sees of the body: its content, if it was sent as gzip. -/
def content (r : Response) : List UInt8 :=
  match r.body with
  | .compressed content => content
  | .broken _ => []
  | .plain bytes =>
    if (r.headers.first? "content-encoding").any fun v => v = .ofText "gzip" then
      (Gzip.decode? bytes).getD bytes
    else bytes

/-- How long the body is, by what is known before it is sent. -/
def length (r : Response) : Nat :=
  match r.body with
  | .broken promised => promised
  | _ => r.content.length

end Response

end MenuHost.Http
