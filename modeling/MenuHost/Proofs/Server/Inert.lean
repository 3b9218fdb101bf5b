import MenuHost.Proofs.Server.Login
import MenuHost.Proofs.Server.Revocation
import MenuHost.Server.Run

/-!
# Requests that touch no session

Sessions start and end through three routes, and only by posts. `Inert`
names the three reasons for which a request is none of these: it is no
post, its path is no route, or it brings the login route something that is
no login. The first two are read off the request line. The third is a
property of the whole form: `ofRequest_eq_ok_iff` says that the reader of
forms, which goes through the pairs one by one and stops at the first
fault, accepts exactly the forms with one identity and one password.

An inert request leaves the server as it is, whatever state that is in.
So it can be put anywhere into a run (`runAll_original`): the other inputs
find the server as they would have without it.
-/

namespace MenuHost.Server

open MenuHost.Http MenuHost.Sessions

/-! ## Forms that are no login -/

/-- The request brings a form with exactly one identity and one password. -/
structure BringsLogin (r : Request) : Prop where
  taken : TakesForm r
  identity : (fieldValues LoginForm.identityField (Form.decode r.body)).length = 1
  password : (fieldValues LoginForm.passwordField (Form.decode r.body)).length = 1

theorem fieldValues_of_collect {pairs : List (String × String)} {identity password : Option String}
    {form : LoginForm} (h : LoginForm.collect identity password pairs = .ok form) :
    identity.toList ++ fieldValues LoginForm.identityField pairs = [form.identity]
      ∧ password.toList ++ fieldValues LoginForm.passwordField pairs = [form.password] := by
  induction pairs generalizing identity password with
  | nil =>
      cases identity with
      | none => cases h
      | some i =>
          cases password with
          | none => cases h
          | some p =>
              cases h
              exact ⟨rfl, rfl⟩
  | cons pair rest ih =>
      obtain ⟨name, value⟩ := pair
      have hfields : LoginForm.identityField ≠ LoginForm.passwordField := by decide
      rw [fieldValues_cons, fieldValues_cons]
      rw [LoginForm.collect] at h
      split at h
      · next hname =>
          subst hname
          split at h
          · cases h
          · next hnone =>
              obtain rfl : identity = none := by simpa using hnone
              rw [if_pos rfl, if_neg hfields]
              exact ih h
      · next hname =>
          rw [if_neg hname]
          split at h
          · next hother =>
              rw [if_pos hother]
              split at h
              · cases h
              · next hnone =>
                  obtain rfl : password = none := by simpa using hnone
                  exact ih h
          · next hother =>
              rw [if_neg hother]
              exact ih h

/-- The reader of forms accepts a request exactly if it brings a login. -/
theorem ofRequest_eq_ok_iff {r : Request} :
    (∃ form, LoginForm.ofRequest r = .ok form) ↔ BringsLogin r := by
  constructor
  · rintro ⟨form, hform⟩
    have htaken : TakesForm r := by
      by_contra hno
      obtain ⟨e, he⟩ := ofRequest_of_not_takesForm hno
      cases he.symm.trans hform
    rw [LoginForm.ofRequest, if_neg (not_not_intro htaken.1), if_neg (Nat.not_lt.mpr htaken.2)]
      at hform
    split at hform
    · next pairs hpairs =>
        obtain ⟨hidentity, hpassword⟩ := fieldValues_of_collect hpairs
        simp only [Option.toList_none, List.nil_append] at hidentity hpassword
        exact ⟨htaken, by rw [hidentity]; rfl, by rw [hpassword]; rfl⟩
    · cases hform
  · rintro ⟨htaken, hidentity, hpassword⟩
    obtain ⟨i, hi⟩ := List.length_eq_one_iff.mp hidentity
    obtain ⟨p, hp⟩ := List.length_eq_one_iff.mp hpassword
    have hcollect : LoginForm.ofPairs (Form.decode r.body) = .ok ⟨i, p⟩ :=
      collect_of_fieldValues hi hp
    exact ⟨⟨i, p⟩, by rw [LoginForm.ofRequest, if_neg (not_not_intro htaken.1),
      if_neg (Nat.not_lt.mpr htaken.2), hcollect]⟩

/-! ## Inert requests -/

/-- The paths by which sessions are started and ended. -/
def sessionPaths : List String := ["/api/login", "/api/logout", "/api/logout/all"]

theorem ofPath?_eq_none_iff {path : String} :
    Route.ofPath? path = none ↔ path ∉ sessionPaths := by
  unfold Route.ofPath? sessionPaths
  constructor
  · intro h
    split at h
    · cases h
    · split at h
      · cases h
      · split at h
        · cases h
        · simp [*]
  · intro h
    simp only [List.mem_cons, List.not_mem_nil, or_false, not_or] at h
    rw [if_neg h.1, if_neg h.2.1, if_neg h.2.2]

/-- A request that is no post to one of these paths, or that brings the login
route no login. -/
inductive Inert (r : Request) : Prop where
  | otherMethod (h : r.method ≠ Method.post)
  | otherPath (h : r.uri.path ∉ sessionPaths)
  | noLogin (hpath : r.uri.path = "/api/login") (h : ¬BringsLogin r)

/-- The server is as it was, no token was drawn, and no cookie is set. -/
structure LeavesAlone (s : App) (out : Reply × App) : Prop where
  state : out.2 = s
  cookie : setCookies out.1.response = []
  drawn : out.1.drawn = 0

theorem setCookies_file (file : Files.ServedFile) : setCookies file.response = [] := by
  have hother : ∀ {name value} {headers : Headers}, name ≠ "set-cookie" →
      Headers.all (.ofTexts name value :: headers) "set-cookie" = headers.all "set-cookie" := by
    intro name value headers hname
    rw [all_cons, if_neg (show (Header.ofTexts name value).name ≠ _ from hname)]
    rfl
  obtain ⟨opened, mediaType, coding⟩ := file
  rw [setCookies, Files.ServedFile.response, all_append, contentType, contentLength,
    hother (by decide), hother (by decide), hother (by decide), hother (by decide)]
  cases coding with
  | gzip => exact hother (by decide)
  | identity => rfl

theorem serveFile_frame (site : Files.Site) (r : Request) :
    setCookies (serveFile site r).response = [] ∧ (serveFile site r).drawn = 0 := by
  simp only [serveFile]
  split
  · next file _ => exact ⟨setCookies_file file, rfl⟩
  · exact ⟨setCookies_appError .notFound, rfl⟩

theorem answer_of_inert {r : Request} (h : Inert r) (s : App) (draws : Nat → String) :
    LeavesAlone s (s.answer draws r) := by
  unfold App.answer
  split
  · obtain ⟨hcookie, hdrawn⟩ := serveFile_frame s.site r
    exact ⟨rfl, hcookie, hdrawn⟩
  · next route hroute =>
      split
      · next hpost =>
          -- a post to a route is inert for its form only
          cases h with
          | otherMethod hmethod => exact absurd hpost hmethod
          | otherPath hpath => cases (ofPath?_eq_none_iff.mpr hpath).symm.trans hroute
          | noLogin hpath hform =>
              rw [hpath] at hroute
              obtain rfl : Route.login = route := Option.some.inj hroute
              cases hread : LoginForm.ofRequest r with
              | ok form => exact absurd (ofRequest_eq_ok_iff.mp ⟨form, hread⟩) hform
              | error e =>
                  simp only [App.respondRoute, hread]
                  exact ⟨rfl, setCookies_ofText .., rfl⟩
      · exact ⟨rfl, rfl, rfl⟩

theorem respond_of_inert {r : Request} (h : Inert r) (s : App) (draws : Nat → String) :
    LeavesAlone s (s.respond draws r) := by
  obtain ⟨hstate, hcookie, hdrawn⟩ := answer_of_inert h s draws
  exact ⟨hstate, (setCookies_compress ..).trans hcookie, hdrawn⟩

/-! ## Runs -/

/-- An input of a run; `added` marks one that was put into the run. -/
structure Entry where
  input : Input
  added : Bool := false

def Input.IsInert : Input → Prop
  | .operation _ => False
  | .request _ r => Inert r

namespace Entry

/-- All inputs of a run. -/
def whole (run : List Entry) : List Input :=
  run.map (·.input)

/-- The inputs of the run before others were put in. -/
def original (run : List Entry) : List Input :=
  (run.filter (!·.added)).map (·.input)

/-- What the run answers to its original inputs. -/
def originalOutputs (run : List Entry) (outputs : List Output) : List Output :=
  ((run.zip outputs).filter (!·.1.added)).map (·.2)

end Entry

section

variable {s : App} {run : List Entry}

/-- Inputs that were put in and are inert change nothing for the others. -/
theorem runAll_original (h : ∀ e ∈ run, e.added = true → e.input.IsInert) :
    Entry.originalOutputs run (s.runAll (Entry.whole run)).1 = (s.runAll (Entry.original run)).1
      ∧ (s.runAll (Entry.whole run)).2 = (s.runAll (Entry.original run)).2 := by
  induction run generalizing s with
  | nil => exact ⟨rfl, rfl⟩
  | cons e rest ih =>
      have hrest : ∀ e ∈ rest, e.added = true → e.input.IsInert := fun e he =>
        h e (List.mem_cons_of_mem _ he)
      obtain ⟨houtputs, hstate⟩ := ih (s := (s.perform e.input).2) hrest
      have hwhole : Entry.whole (e :: rest) = e.input :: Entry.whole rest := rfl
      rw [hwhole, App.runAll_cons]
      cases hadded : e.added with
      | true =>
          have hinert := h e (List.mem_cons_self ..) hadded
          have hsame : (s.perform e.input).2 = s := by
            cases hinput : e.input with
            | operation op =>
                rw [hinput] at hinert
                exact hinert.elim
            | request draws r =>
                rw [hinput] at hinert
                exact (respond_of_inert hinert s draws).state
          have horiginal : Entry.original (e :: rest) = Entry.original rest := by
            simp [Entry.original, hadded]
          rw [hsame] at houtputs hstate ⊢
          rw [horiginal]
          refine ⟨?_, hstate⟩
          rw [← houtputs]
          simp [Entry.originalOutputs, hadded]
      | false =>
          have horiginal : Entry.original (e :: rest) = e.input :: Entry.original rest := by
            simp [Entry.original, hadded]
          rw [horiginal, App.runAll_cons]
          refine ⟨?_, hstate⟩
          rw [← houtputs]
          simp [Entry.originalOutputs, hadded]

end

/-- **Only posts to the three routes touch sessions.** Any other request, and
one that brings the login route no login, leaves a server in whatever state as
it is and sets no cookie. So such requests can be put anywhere into a run: the
other inputs get the same answers, and the server ends up the same. -/
theorem only_posts_touch_sessions (s : App) :
    (∀ draws r, Inert r → LeavesAlone s (s.respond draws r))
      ∧ ∀ run : List Entry, (∀ e ∈ run, e.added = true → e.input.IsInert) →
        Entry.originalOutputs run (s.runAll (Entry.whole run)).1
            = (s.runAll (Entry.original run)).1
          ∧ (s.runAll (Entry.whole run)).2 = (s.runAll (Entry.original run)).2 := by
  constructor
  · intro draws r h
    exact respond_of_inert h s draws
  · intro run h
    exact runAll_original h

/-- Between her login and a lookup of her session, Alice follows a link to the
logout route, and a form with two identities comes in. -/
theorem only_posts_touch_sessions_alice :
    ∃ record,
      let s : App := ⟨.start [⟨"alice", record⟩] none .epoch, ⟨.directory .fresh [], []⟩⟩
      let login := Input.operation (.login "alice" "wonderland" fun _ => "abc")
      let lookup := Input.operation (.identity "abc")
      let link := Request.mk ⟨"GET"⟩ { path := "/api/logout" }
        [.ofTexts "cookie" "SESSIONID=abc"] []
      let twice := Request.mk Method.post { path := "/api/login" }
        [.ofTexts "content-type" LoginForm.mediaType]
        (Form.encode [("identity", "alice"), ("identity", "bob"), ("password", "wonderland")])
      let added := fun r => Entry.mk (.request (fun _ => "xyz") r) true
      let run := [Entry.mk login false, added link, added twice, Entry.mk lookup false]
      (∀ e ∈ run, e.added = true → e.input.IsInert)
        ∧ LeavesAlone s (s.respond (fun _ => "xyz") twice)
        ∧ Entry.originalOutputs run (s.runAll (Entry.whole run)).1
          = (s.runAll [login, lookup]).1 := by
  obtain ⟨record, -, -⟩ := Password.exists_record (Vector.replicate 16 0)
    (show "wonderland".utf8ByteSize < Password.passwordLimit by decide)
  refine ⟨record, ?_⟩
  intro s login lookup link twice added run
  have hlink : Inert link := .otherMethod (by decide)
  have htwice : Inert twice := by
    refine .noLogin rfl fun hlogin => ?_
    have hone := hlogin.identity
    rw [Form.decode_of_writes (Form.writes_encode _)] at hone
    exact absurd hone (by decide)
  have hrun : ∀ e ∈ run, e.added = true → e.input.IsInert := by
    intro e he hadded
    simp only [run, List.mem_cons, List.not_mem_nil, or_false] at he
    rcases he with rfl | rfl | rfl | rfl
    · cases hadded
    · exact hlink
    · exact htwice
    · cases hadded
  obtain ⟨halone, hruns⟩ := only_posts_touch_sessions s
  exact ⟨hrun, halone _ _ htwice, (hruns run hrun).1⟩

end MenuHost.Server
