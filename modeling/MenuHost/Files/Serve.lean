import MenuHost.Http.Coding
import MenuHost.Http.Message
import MenuHost.Http.Percent
import MenuHost.Files.MediaType
import MenuHost.Time.Calendar

/-!
# Serving files

Which file below the site's root a request target names. A directory stands for
its index file when the target ends in a slash. A client that prefers gzip gets
the compressed sibling of a file, if there is one.

The names of a target never lead out of the root: they are taken apart after
decoding, and a path that would go up or begin anew is refused (`names?`). What is
tried for other codings starts from these names, but need not stay below the root.

Whether something is a directory is asked of the path that a target names, and not
again of what is opened in the end. A directory that is opened is served like a file:
with its size and its time, and with a body that breaks off.
-/

namespace MenuHost.Files

open MenuHost.Http

/-- A tree and the path of the site's root in it. -/
structure Site where
  tree : Node
  root : Path

structure ServedFile where
  opened : Opened
  mediaType : String
  coding : Coding

namespace Site

/-- The file that stands for a directory. -/
def indexName : String := "index.html"

/-- What the names of compressed siblings end in. -/
def gzipEnding : String := ".gz"

/-! ## Names -/

/-- Takes apart a decoded path; names that go up, and a path that begins anew, are
refused. -/
def safeNames? (path : String) : Option Path :=
  let names := (Node.pathOf path).filter (!isBlankName ·)
  if path.toList.head? = some '/' ∨ ".." ∈ names then none else some names

/-- The names below the root that a target's path stands for. -/
def names? (path : String) : Option Path := do
  let bytes := Text.Utf8.encode (String.ofList (path.toList.dropWhile (· == '/')))
  safeNames? (← Text.Utf8.decode? (Percent.decode bytes))

/-! ## Opening -/

/-- The path at which a coding of a file is kept. Where the path goes up at its end,
the ending is a name of its own. -/
def codedPath (coding : Coding) (path : Path) : Path :=
  match coding with
  | .gzip =>
    if endsUp path then path ++ [gzipEnding] else mapLastName (· ++ gzipEnding) path
  | .identity => path

def dropExtension (path : Path) : Path :=
  mapLastName (fun name => (splitExtension name).1) path

/-- The codings that are left when one has been tried. -/
def without (coding : Coding) (accepted : List Weighted) : List Weighted :=
  accepted.filter (·.coding ≠ coding)

theorem length_without {coding : Coding} {accepted : List Weighted}
    (h : Coding.preferred? accepted = some coding) :
    (without coding accepted).length < accepted.length := by
  obtain ⟨w, hw, rfl⟩ := Coding.preferred?_mem h
  rw [without, List.length_filter_lt_length_iff_exists]
  exact ⟨w, hw, by simp⟩

/-- Opens the file in the coding that is preferred. Where that is missing the
extension is dropped, which takes back the ending of a compressed sibling, and
the next coding is tried; without any coding the path is opened as it is. -/
def openBest (tree : Node) (accepted : List Weighted) (path : Path) :
    Except WalkError (Opened × Coding) :=
  match _h : Coding.preferred? accepted with
  | none => (tree.openAt path).map fun opened => (opened, .identity)
  | some coding =>
    match tree.openAt (codedPath coding path) with
    | .ok opened => .ok (opened, coding)
    | .error .missing =>
      openBest tree (without coding accepted) (dropExtension (codedPath coding path))
    | .error e => .error e
termination_by accepted.length
decreasing_by exact length_without _h

/-! ## Finding -/

def failureStatus : WalkError → Status
  | .missing => Status.notFound
  | .notDirectory => Status.notFound
  | .noName => Status.notFound
  | .unusable => Status.internalServerError

/-- The file for a target and the codings that are accepted, or the status that
there is instead. A directory whose name lacks the slash at the end redirects to
where it has one; a star and an authority alone have no path to add it to. -/
def find (site : Site) (uri : Uri) (accepted : List Weighted) : Except Status ServedFile :=
  match names? uri.path with
  | none => .error Status.notFound
  | some names =>
    let path := site.root ++ names
    if site.tree.isDirectory path ∧ uri.path.toList.getLast? ≠ some '/' then
      if uri.path.toList.head? = some '/' then .error Status.temporaryRedirect
      else .error Status.internalServerError
    else
      let path := if site.tree.isDirectory path then path ++ [indexName] else path
      match openBest site.tree accepted path with
      | .ok (opened, coding) => .ok { opened, mediaType := mediaTypeOf path, coding }
      | .error e => .error (failureStatus e)

end Site

def Opened.body : Opened → Body
  | file content _ => .plain content
  | directory stat => .broken stat.size

def ServedFile.response (f : ServedFile) : Response where
  status := Status.ok
  headers :=
    [contentType f.mediaType, .ofTexts "accept-ranges" "bytes",
      contentLength f.opened.stat.size,
      .ofTexts "last-modified" f.opened.stat.modified.timestamp.text] ++
    match f.coding with
    | .gzip => [.ofTexts "content-encoding" "gzip"]
    | .identity => []
  body := f.opened.body

end MenuHost.Files
