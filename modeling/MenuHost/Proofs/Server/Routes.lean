import MenuHost.Server.Router

/-!
# From a request to its route and back

What the handlers of the routes say is not yet what the client sees: the
response passes through compression. `respond_of_route` takes a post to
its handler, and `status_compress` and `setCookies_compress` bring the
status and the cookies of its response back unchanged; a short text comes
back whole (`compress_ofText`). The statements about single routes build
on these only.
-/

namespace MenuHost.Server

open MenuHost.Http MenuHost.Sessions

/-! ## Headers -/

theorem all_cons (h : Header) (headers : Headers) (name : String) :
    Headers.all (h :: headers) name = (if h.name = name then [h.value] else [])
      ++ headers.all name := by
  unfold Headers.all
  by_cases hname : h.name = name <;> simp [hname]

theorem all_append (headers more : Headers) (name : String) :
    Headers.all (headers ++ more) name = headers.all name ++ more.all name := by
  simp [Headers.all]

theorem all_filter (headers : Headers) {p : Header → Bool} {name : String}
    (h : ∀ value, p ⟨name, value⟩ = true) :
    Headers.all (headers.filter p) name = headers.all name := by
  have hkept : ∀ header : Header, header.name = name → p header = true := by
    rintro header rfl
    exact h header.value
  rw [Headers.all, List.filter_filter]
  refine congrArg (List.map _) (List.filter_congr fun header _ => ?_)
  by_cases hname : header.name = name
  · simp [hname, hkept header hname]
  · simp [hname]

def setCookies (r : Response) : List HeaderValue :=
  r.headers.all "set-cookie"

theorem setCookies_ofText (status : Status) (mediaType body : String) (headers : Headers) :
    setCookies (.ofText status mediaType body headers) = headers.all "set-cookie" := by
  have htype : (contentType mediaType).name ≠ "set-cookie" :=
    show "content-type" ≠ "set-cookie" by decide
  have hlength : ∀ n, (contentLength n).name ≠ "set-cookie" := fun _ =>
    show "content-length" ≠ "set-cookie" by decide
  rw [setCookies, Response.ofText, all_cons, all_cons, if_neg htype, if_neg (hlength _)]
  rfl

/-! ## Compression -/

theorem status_compress (request : Headers) (r : Response) :
    (compress request r).status = r.status := by
  unfold compress
  split
  · split <;> rfl
  · rfl

/-- Compression touches only headers that describe the body. -/
theorem all_compress (request : Headers) (r : Response) {name : String}
    (hname : name ∉ ["vary", "accept-ranges", "content-length", "content-encoding"]) :
    (compress request r).headers.all name = r.headers.all name := by
  simp only [List.mem_cons, List.not_mem_nil, or_false, not_or] at hname
  obtain ⟨hvary, hranges, hlength, hcoding⟩ := hname
  have hnone : ∀ header value, header ≠ name →
      Headers.all [Header.ofTexts header value] name = [] := by
    intro header value hne
    rw [all_cons, if_neg (show (Header.ofTexts header value).name ≠ name from hne)]
    rfl
  unfold compress
  split
  · have hadded : Headers.all (r.headers ++ [.ofTexts "vary" "accept-encoding"]) name
        = r.headers.all name := by
      rw [all_append, hnone _ _ (Ne.symm hvary), List.append_nil]
    split
    · rw [all_append, hnone _ _ (Ne.symm hcoding), List.append_nil, all_filter, hadded]
      simp [hranges, hlength]
    · exact hadded
  · rfl

theorem setCookies_compress (request : Headers) (r : Response) :
    setCookies (compress request r) = setCookies r :=
  all_compress request r (by decide)

/-- A short text is sent as it is, whatever the client prefers. -/
theorem compress_ofText {body : String} {headers : Headers}
    (hcoding : headers.all "content-encoding" = [])
    (hshort : (Text.Utf8.encode body).length < minCompressedSize) (request : Headers)
    (status : Status) (mediaType : String) :
    compress request (.ofText status mediaType body headers) =
      .ofText status mediaType body headers := by
  have htype : (contentType mediaType).name ≠ "content-encoding" :=
    show "content-type" ≠ "content-encoding" by decide
  have hlength : ∀ n, (contentLength n).name ≠ "content-encoding" := fun _ =>
    show "content-length" ≠ "content-encoding" by decide
  have hfirst : Headers.first? (Response.ofText status mediaType body headers).headers
      "content-encoding" = none := by
    rw [Headers.first?, Response.ofText, all_cons, all_cons, if_neg htype, if_neg (hlength _),
      hcoding]
    rfl
  have hlong : (Response.ofText status mediaType body headers).length
      = (Text.Utf8.encode body).length := by
    have hcontent : (Response.ofText status mediaType body headers).content
        = Text.Utf8.encode body := by
      rw [Response.content, hfirst]
      rfl
    exact congrArg List.length hcontent
  rw [compress, if_neg]
  rw [isCompressible, hlong, decide_eq_false (Nat.not_le.mpr hshort)]
  simp

theorem compress_appError (request : Headers) (e : AppError) :
    compress request e.response = e.response := by
  have hcoding : Headers.all [] "content-encoding" = [] := rfl
  have hshort : (Text.Utf8.encode e.message).length < minCompressedSize := by
    cases e <;> decide
  exact compress_ofText hcoding hshort request e.status plainText

/-! ## Routes -/

/-- A post to a route is answered by its handler, and only the response is changed after it. -/
theorem respond_eq {s : App} {r : Request} {route : Route} (hpost : r.method = Method.post)
    (hroute : Route.ofPath? r.uri.path = some route) (draws : Nat → String) :
    s.respond draws r =
      ({ (App.respondRoute s.sessions route draws r).1 with
          response := compress r.headers (App.respondRoute s.sessions route draws r).1.response },
        { s with sessions := (App.respondRoute s.sessions route draws r).2 }) := by
  simp [App.respond, App.answer, hroute, hpost]

/-- A post to a route is answered by its handler, and the response is compressed. -/
theorem respond_of_route {s : App} {r : Request} {route : Route} (hpost : r.method = Method.post)
    (hroute : Route.ofPath? r.uri.path = some route) (draws : Nat → String) :
    (s.respond draws r).1.response =
        compress r.headers (App.respondRoute s.sessions route draws r).1.response
      ∧ (s.respond draws r).2 =
        { s with sessions := (App.respondRoute s.sessions route draws r).2 } := by
  rw [respond_eq hpost hroute]
  exact ⟨rfl, rfl⟩

end MenuHost.Server
