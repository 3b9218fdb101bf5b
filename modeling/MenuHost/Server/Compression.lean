import MenuHost.Http.Coding
import MenuHost.Http.Message

/-!
# Compressing responses

Responses are sent as gzip to clients that prefer it, if that pays: not when they
have a coding already, are short, or are of a kind that does not shrink.
-/

namespace MenuHost.Server

open MenuHost.Http

def minCompressedSize : Nat := 32

/-- The text of the first header of a name; empty if there is none. -/
def headerText (headers : Headers) (name : String) : List Char :=
  ((headers.first? name).bind HeaderValue.text?).getD []

/-- Whether a media type is worth compressing: no streams of messages or events,
and of images only drawings. -/
def isCompressibleType (mediaType : List Char) : Bool :=
  !"application/grpc".toList.isPrefixOf mediaType &&
    (mediaType == "image/svg+xml".toList || !"image/".toList.isPrefixOf mediaType) &&
    !"text/event-stream".toList.isPrefixOf mediaType

def isCompressible (r : Response) : Bool :=
  (r.headers.first? "content-encoding").isNone &&
    minCompressedSize ≤ r.length &&
    isCompressibleType (headerText r.headers "content-type")

/-- Compresses a response for a request's headers. One that could be compressed
says that it depends on what the client accepts. -/
def compress (request : Headers) (r : Response) : Response :=
  if isCompressible r then
    let headers := r.headers ++ [.ofTexts "vary" "accept-encoding"]
    match Coding.preferred? (Coding.accepted (request.all "accept-encoding")) with
    | some .gzip =>
      { r with
        headers :=
          headers.filter (fun h => h.name ≠ "accept-ranges" ∧ h.name ≠ "content-length") ++
            [.ofTexts "content-encoding" "gzip"]
        body := match r.body with
          | .broken promised => .broken promised
          | _ => .compressed r.content }
    | _ => { r with headers }
  else r

end MenuHost.Server
