import MenuHost.Proofs.Http.FieldName
import MenuHost.Proofs.Sessions.CookieValue

/-!
# Cookies spread over headers

A client may send its cookies in one header or in many, and a proxy may
join the headers or take them apart. None of this is seen by the reader:
all that matters is the list of pieces that the plain cookie lines fall
into, in order (`requestPieces`). `sessionOf?_eq` reads a request that way, so
everything about headers becomes a fact about lists of pieces: appending
requests appends them, lines that are not plain have none, and a
semicolon between two lines makes one line with the pieces of both
(`sessionOfBytes?_intercalate`).

`Carries` says which pieces count, and `sessionOf?_eq_some_iff` that the first
of them is the session.
-/

namespace MenuHost.Sessions

open MenuHost.Http

/-! ## Pieces that carry a session -/

/-- The piece has an equals sign, the name of the session cookie before the first
one, and a value after it. -/
def Carries (piece value : List UInt8) : Prop :=
  ∃ before after, piece = before ++ nameSeparator :: after ∧ nameSeparator ∉ before
    ∧ Text.trim isBlankByte before = Text.Utf8.encode cookieName
    ∧ Text.trim isBlankByte after = value ∧ value ≠ []

theorem rawPair?_eq_some_iff {piece name value : List UInt8} :
    rawPair? piece = some (name, value) ↔
      ∃ before after, piece = before ++ nameSeparator :: after ∧ nameSeparator ∉ before
        ∧ Text.trim isBlankByte before = name ∧ Text.trim isBlankByte after = value := by
  constructor
  · intro h
    obtain ⟨⟨before, after⟩, hcut, hpair⟩ := Option.map_eq_some_iff.mp h
    obtain ⟨hname, hvalue⟩ := Prod.mk.inj hpair
    obtain ⟨hpiece, hbefore⟩ := Text.cut_eq_some_iff.mp hcut
    exact ⟨before, after, hpiece, hbefore, hname, hvalue⟩
  · rintro ⟨before, after, hpiece, hbefore, rfl, rfl⟩
    rw [rawPair?, Text.cut_eq_some_iff.mpr ⟨hpiece, hbefore⟩, Option.map_some]

theorem carries_iff {piece value : List UInt8} :
    Carries piece value ↔
      rawPair? piece = some (Text.Utf8.encode cookieName, value) ∧ value ≠ [] := by
  rw [rawPair?_eq_some_iff]
  constructor
  · rintro ⟨before, after, hpiece, hbefore, hname, hvalue, hne⟩
    exact ⟨⟨before, after, hpiece, hbefore, hname, hvalue⟩, hne⟩
  · rintro ⟨⟨before, after, hpiece, hbefore, hname, hvalue⟩, hne⟩
    exact ⟨before, after, hpiece, hbefore, hname, hvalue, hne⟩

def sessionIn? (piece : List UInt8) : Option String :=
  sessionOfPiece? (piece.map byteChar)

theorem sessionIn?_eq_some_iff_exists {piece : List UInt8} {token : String} :
    sessionIn? piece = some token ↔
      ∃ value, Carries piece value ∧ String.ofList (value.map byteChar) = token := by
  rw [sessionIn?, sessionOfPiece?_map]
  constructor
  · intro h
    obtain ⟨⟨name, value⟩, hraw, hvalue⟩ := Option.bind_eq_some_iff.mp h
    obtain ⟨⟨hname, hne⟩, htoken⟩ := Option.ite_none_right_eq_some.mp hvalue
    exact ⟨value, carries_iff.mpr ⟨hname ▸ hraw, hne⟩, Option.some.inj htoken⟩
  · rintro ⟨value, hcarries, rfl⟩
    obtain ⟨hraw, hne⟩ := carries_iff.mp hcarries
    rw [hraw, Option.bind_some]
    exact if_pos ⟨rfl, hne⟩

theorem sessionIn?_eq_none_iff {piece : List UInt8} :
    sessionIn? piece = none ↔ ∀ value, ¬Carries piece value := by
  rw [Option.eq_none_iff_forall_ne_some]
  constructor
  · intro h value hcarries
    exact h _ (sessionIn?_eq_some_iff_exists.mpr ⟨value, hcarries, rfl⟩)
  · intro h token htoken
    obtain ⟨value, hcarries, -⟩ := sessionIn?_eq_some_iff_exists.mp htoken
    exact h value hcarries

/-- In a plain piece the session is the text of the value. -/
theorem sessionIn?_eq_some_iff {piece : List UInt8} {token : String}
    (hplain : ∀ b ∈ piece, b.toNat < 128) :
    sessionIn? piece = some token ↔ Carries piece (Text.Utf8.encode token) := by
  have hvalue : ∀ {value}, Carries piece value → ∀ b ∈ value, b.toNat < 128 := by
    rintro _ ⟨before, after, rfl, -, -, rfl, -⟩ b hb
    exact hplain b (List.mem_append_right _ (List.mem_cons_of_mem _ (Text.mem_of_mem_trim hb)))
  rw [sessionIn?_eq_some_iff_exists]
  constructor
  · rintro ⟨value, hcarries, rfl⟩
    rwa [encode_ofList_map_byteChar (hvalue hcarries)]
  · intro hcarries
    exact ⟨_, hcarries, ofList_map_byteChar (hvalue hcarries) rfl⟩

/-! ## Blanks before a piece -/

theorem rawPair?_cons_blank {b : UInt8} (hb : isBlankByte b = true) (piece : List UInt8) :
    rawPair? (b :: piece) = rawPair? piece := by
  have hsep : nameSeparator ≠ b := by
    rintro rfl
    cases hb
  by_cases hpiece : nameSeparator ∈ piece
  · obtain ⟨before, after, rfl, hbefore⟩ := List.eq_append_cons_of_mem hpiece
    have htrim : Text.trim isBlankByte (b :: before) = Text.trim isBlankByte before := by
      rw [Text.trim, List.dropWhile_cons_of_pos hb, Text.trim]
    have hcons : nameSeparator ∉ b :: before := List.not_mem_cons_of_ne_of_not_mem hsep hbefore
    rw [rawPair?, rawPair?, ← List.cons_append, Text.cut_append_cons hcons,
      Text.cut_append_cons hbefore, Option.map_some, Option.map_some]
    dsimp only
    rw [htrim]
  · have hcons : nameSeparator ∉ b :: piece := List.not_mem_cons_of_ne_of_not_mem hsep hpiece
    rw [rawPair?, rawPair?, Text.cut_of_notMem hcons, Text.cut_of_notMem hpiece]

/-! ## Lines as lists of pieces -/

def sessionOfBytes? (bytes : List UInt8) : Option String :=
  (bytes.splitOn pieceSeparator).findSome? sessionIn?

theorem sessionOfBytes?_append (bytes more : List UInt8) :
    sessionOfBytes? (bytes ++ pieceSeparator :: more) =
      (sessionOfBytes? bytes).or (sessionOfBytes? more) := by
  rw [sessionOfBytes?, List.splitOn_append_cons_self, List.findSome?_append]
  rfl

theorem sessionOfBytes?_cons_blank {b : UInt8} (hb : isBlankByte b = true) (bytes : List UInt8) :
    sessionOfBytes? (b :: bytes) = sessionOfBytes? bytes := by
  have hsep : b ≠ pieceSeparator := by
    rintro rfl
    cases hb
  obtain ⟨piece, rest, hbytes, hsplit⟩ := Text.splitOn_cons_of_ne hsep bytes
  have hpiece : sessionIn? (b :: piece) = sessionIn? piece := by
    rw [sessionIn?, sessionIn?, sessionOfPiece?_map, sessionOfPiece?_map, rawPair?_cons_blank hb]
  rw [sessionOfBytes?, sessionOfBytes?, hbytes, hsplit, List.findSome?_cons, List.findSome?_cons,
    hpiece]

/-- What cookies are joined with: a semicolon, with or without a space after it. -/
def IsGlue (glue : List UInt8) : Prop :=
  glue = [pieceSeparator] ∨ glue = [pieceSeparator, 0x20]

theorem sessionOfBytes?_glue {glue : List UInt8} (hglue : IsGlue glue) (bytes more : List UInt8) :
    sessionOfBytes? (bytes ++ glue ++ more)
      = (sessionOfBytes? bytes).or (sessionOfBytes? more) := by
  obtain rfl | rfl := hglue
  · rw [List.append_assoc, List.singleton_append, sessionOfBytes?_append]
  · rw [List.append_assoc, List.cons_append, List.singleton_append, sessionOfBytes?_append,
      sessionOfBytes?_cons_blank rfl]

/-- Joined lines have the first session of any of them. -/
theorem sessionOfBytes?_intercalate {glue : List UInt8} (hglue : IsGlue glue)
    (lines : List (List UInt8)) :
    sessionOfBytes? (glue.intercalate lines) = lines.findSome? sessionOfBytes? := by
  induction lines with
  | nil => rfl
  | cons line lines ih =>
      cases lines with
      | nil => rw [List.intercalate_singleton, List.findSome?_singleton]
      | cons next rest =>
          have hfirst : ([line] ++ next :: rest).findSome? sessionOfBytes? = _ :=
            List.findSome?_append
          rw [List.findSome?_singleton, List.singleton_append] at hfirst
          rw [List.intercalate_cons_cons, sessionOfBytes?_glue hglue, ih, hfirst]

/-! ## The plain lines of a request -/

/-- The cookie lines of a request that are visible ASCII, spaces and tabs. -/
def plainLines (headers : Headers) : List (List UInt8) :=
  ((headers.all "cookie").map (·.bytes)).filter fun bytes => bytes.all isTextByte

theorem plainLines_append (headers more : Headers) :
    plainLines (headers ++ more) = plainLines headers ++ plainLines more := by
  simp [plainLines, Headers.all]

/-- Headers of other names have no plain cookie lines, nor have lines with other bytes. -/
theorem plainLines_singleton_eq_nil {h : Header}
    (hother : h.name ≠ "cookie" ∨ ¬h.value.bytes.all isTextByte = true) :
    plainLines [h] = [] := by
  by_cases hname : h.name = "cookie"
  · have hbytes := hother.resolve_left (not_not_intro hname)
    simp only [plainLines, Headers.all, List.filter_singleton, hname, decide_true, cond_true,
      List.map_cons, List.map_nil, Bool.not_eq_true _ ▸ hbytes, cond_false]
  · simp [plainLines, Headers.all, hname]

/-- A request is read line by line, each as its bytes. -/
theorem sessionOf?_eq (headers : Headers) :
    sessionOf? headers = (plainLines headers).findSome? sessionOfBytes? := by
  rw [sessionOf?, plainLines]
  induction headers.all "cookie" with
  | nil => rfl
  | cons line lines ih =>
      rw [List.findSome?_cons, List.map_cons, List.filter_cons, ih]
      by_cases hplain : line.bytes.all isTextByte = true
      · rw [text?_eq_some hplain, Option.bind_some, sessionOfLine?_map, if_pos hplain,
          List.findSome?_cons]
        rfl
      · rw [text?_eq_none hplain, Option.bind_none, if_neg hplain]

theorem sessionOf?_append (headers more : Headers) :
    sessionOf? (headers ++ more) = (sessionOf? headers).or (sessionOf? more) := by
  simp only [sessionOf?_eq, plainLines_append, List.findSome?_append]

theorem sessionOf?_insert {h : Header}
    (hother : h.name ≠ "cookie" ∨ ¬h.value.bytes.all isTextByte = true) (before after : Headers) :
    sessionOf? (before ++ h :: after) = sessionOf? (before ++ after) := by
  have hsplit : before ++ h :: after = before ++ ([h] ++ after) := rfl
  simp only [sessionOf?_eq, hsplit, plainLines_append, plainLines_singleton_eq_nil hother,
    List.nil_append]

/-! ## One header for all -/

theorem isTextByte_of_mem_plainLines {headers : Headers} {line : List UInt8}
    (hline : line ∈ plainLines headers) : ∀ b ∈ line, isTextByte b = true :=
  List.all_eq_true.mp (List.mem_filter.mp hline).2

theorem isTextByte_of_mem_intercalate {glue : List UInt8} (hglue : IsGlue glue)
    {lines : List (List UInt8)} (hlines : ∀ line ∈ lines, ∀ b ∈ line, isTextByte b = true) :
    ∀ b ∈ glue.intercalate lines, isTextByte b = true := by
  have hmem : ∀ b ∈ glue, isTextByte b = true := by
    obtain rfl | rfl := hglue
    · exact Text.forall_mem_of_all (by decide)
    · exact Text.forall_mem_of_all (by decide)
  induction lines with
  | nil => intro b hb; cases hb
  | cons line lines ih =>
      have hline := hlines line (List.mem_cons_self ..)
      cases lines with
      | nil => rwa [List.intercalate_singleton]
      | cons next rest =>
          intro b hb
          rw [List.intercalate_cons_cons] at hb
          rcases List.mem_append.mp hb with hb | hb
          · rcases List.mem_append.mp hb with hb | hb
            · exact hline b hb
            · exact hmem b hb
          · exact ih (fun line hmem => hlines line (List.mem_cons_of_mem _ hmem)) b hb

/-- All plain cookie lines can be sent as one header, which is read like them. -/
theorem exists_joined {glue : List UInt8} (hglue : IsGlue glue) (headers : Headers) :
    ∃ joined : HeaderValue, joined.bytes = glue.intercalate (plainLines headers)
      ∧ sessionOf? [⟨"cookie", joined⟩] = sessionOf? headers := by
  have hlines : ∀ line ∈ plainLines headers, ∀ b ∈ line, isTextByte b = true :=
    fun line hline => isTextByte_of_mem_plainLines hline
  have htext := isTextByte_of_mem_intercalate hglue hlines
  have hvalid : (glue.intercalate (plainLines headers)).all isValueByte = true :=
    List.all_eq_true.mpr fun b hb => isValueByte_of_isTextByte (htext b hb)
  refine ⟨⟨_, hvalid⟩, rfl, ?_⟩
  have hplain : plainLines [⟨"cookie", ⟨_, hvalid⟩⟩] = [glue.intercalate (plainLines headers)] :=
    List.filter_eq_self.mpr fun line hline => by
      obtain rfl := List.mem_singleton.mp hline
      exact List.all_eq_true.mpr htext
  rw [sessionOf?_eq, hplain, List.findSome?_singleton, sessionOfBytes?_intercalate hglue,
    sessionOf?_eq]

/-! ## What is found -/

def requestPieces (headers : Headers) : List (List UInt8) :=
  (plainLines headers).flatMap (List.splitOn pieceSeparator)

theorem ascii_of_mem_requestPieces {headers : Headers} {piece : List UInt8}
    (hpiece : piece ∈ requestPieces headers) : ∀ b ∈ piece, b.toNat < 128 := by
  intro b hb
  obtain ⟨line, hline, hsplit⟩ := List.mem_flatMap.mp hpiece
  exact isTextByte_lt (isTextByte_of_mem_plainLines hline b
    (Text.mem_of_mem_splitOn hsplit b hb).1)

theorem sessionOf?_eq_findSome? (headers : Headers) :
    sessionOf? headers = (requestPieces headers).findSome? sessionIn? := by
  rw [sessionOf?_eq, requestPieces]
  induction plainLines headers with
  | nil => rfl
  | cons line lines ih =>
      rw [List.flatMap_cons, List.findSome?_append, ← ih, ← List.singleton_append,
        List.findSome?_append, List.findSome?_singleton]
      rfl

/-- The session of a request is the value of the first piece that carries one. -/
theorem sessionOf?_eq_some_iff {headers : Headers} {token : String} :
    sessionOf? headers = some token ↔
      ∃ before piece after, requestPieces headers = before ++ piece :: after
        ∧ (∀ other ∈ before, ∀ value, ¬Carries other value)
        ∧ Carries piece (Text.Utf8.encode token) := by
  rw [sessionOf?_eq_findSome?, List.findSome?_eq_some_iff]
  constructor
  · rintro ⟨before, piece, after, hpieces, hpiece, hbefore⟩
    have hmem : piece ∈ requestPieces headers := by simp [hpieces]
    have hascii := ascii_of_mem_requestPieces hmem
    exact ⟨before, piece, after, hpieces,
      fun other hother => sessionIn?_eq_none_iff.mp (hbefore other hother),
      (sessionIn?_eq_some_iff hascii).mp hpiece⟩
  · rintro ⟨before, piece, after, hpieces, hbefore, hpiece⟩
    have hmem : piece ∈ requestPieces headers := by simp [hpieces]
    have hascii := ascii_of_mem_requestPieces hmem
    exact ⟨before, piece, after, hpieces, (sessionIn?_eq_some_iff hascii).mpr hpiece,
      fun other hother => sessionIn?_eq_none_iff.mpr (hbefore other hother)⟩

/-- **Splitting and merging.** Cookies may be spread over headers in any way, and
joined with semicolons again. Headers of other names and lines that are not plain
text can be left out wherever they stand, the case of names does not matter, and of
two parts of a request the first that has a session decides. The session is the value
of the first piece that carries one. -/
theorem cookies_split_and_merge (headers : Headers) :
    (∀ glue, IsGlue glue → ∃ joined : HeaderValue,
        joined.bytes = glue.intercalate (plainLines headers)
          ∧ sessionOf? [⟨"cookie", joined⟩] = sessionOf? headers)
      ∧ (∀ before h after, headers = before ++ h :: after →
          (h.name ≠ "cookie" ∨ ¬h.value.bytes.all isTextByte = true) →
          sessionOf? headers = sessionOf? (before ++ after))
      ∧ (∀ fields, Headers.ofFields fields = .ok headers →
          (headers.all "cookie").map (·.bytes) =
              (fields.filter fun f => f.1.map Char.toLower = "cookie").map (·.2)
            ∧ ∀ fields', SameUpToCase fields fields' → Headers.ofFields fields' = .ok headers)
      ∧ (∀ more, sessionOf? (headers ++ more) = (sessionOf? headers).or (sessionOf? more))
      ∧ ∀ token, sessionOf? headers = some token ↔
          ∃ before piece after, requestPieces headers = before ++ piece :: after
            ∧ (∀ other ∈ before, ∀ value, ¬Carries other value)
            ∧ Carries piece (Text.Utf8.encode token) := by
  refine ⟨fun glue hglue => exists_joined hglue headers, ?_, ?_, sessionOf?_append headers,
    fun token => sessionOf?_eq_some_iff⟩
  · rintro before h after rfl hother
    exact sessionOf?_insert hother before after
  · intro fields hfields
    exact ⟨bytes_all_ofFields hfields "cookie", fun fields' hsame => ofFields_congr hsame ▸ hfields⟩

/-- Three cookie headers, the second of which is passed over. -/
theorem cookies_split_and_merge_three_lines :
    ∃ (headers : Headers) (joined : HeaderValue),
      Headers.ofFields
          [("Cookie", Text.Utf8.encode "theme=dark; sessionid=a"),
            ("cookie", Text.Utf8.encode "SESSIONID=é"),
            ("COOKIE", Text.Utf8.encode "SESSIONID=; SESSIONID = tok ")] = .ok headers
        ∧ joined.bytes =
          Text.Utf8.encode "theme=dark; sessionid=a; SESSIONID=; SESSIONID = tok "
        ∧ sessionOf? headers = some "tok" ∧ sessionOf? [⟨"cookie", joined⟩] = some "tok" := by
  obtain ⟨headers, hheaders⟩ : ∃ headers, Headers.ofFields
      [("Cookie", Text.Utf8.encode "theme=dark; sessionid=a"),
        ("cookie", Text.Utf8.encode "SESSIONID=é"),
        ("COOKIE", Text.Utf8.encode "SESSIONID=; SESSIONID = tok ")] = .ok headers := ⟨_, rfl⟩
  obtain ⟨hjoin, -, hfields, -, hfound⟩ := cookies_split_and_merge headers
  have hlines : plainLines headers = [Text.Utf8.encode "theme=dark; sessionid=a",
      Text.Utf8.encode "SESSIONID=; SESSIONID = tok "] := by
    rw [plainLines, (hfields _ hheaders).1]
    decide +kernel
  have htok : sessionOf? headers = some "tok" := by
    refine (hfound "tok").mpr ⟨[Text.Utf8.encode "theme=dark", Text.Utf8.encode " sessionid=a",
      Text.Utf8.encode "SESSIONID="], Text.Utf8.encode " SESSIONID = tok ", [], ?_, ?_, ?_⟩
    · rw [requestPieces, hlines]
      decide
    · have hnone : ∀ other ∈ [Text.Utf8.encode "theme=dark", Text.Utf8.encode " sessionid=a",
          Text.Utf8.encode "SESSIONID="], sessionIn? other = none := by decide
      exact fun other hother => sessionIn?_eq_none_iff.mp (hnone other hother)
    · exact ⟨Text.Utf8.encode " SESSIONID ", Text.Utf8.encode " tok ", by decide⟩
  obtain ⟨joined, hbytes, hsame⟩ := hjoin [pieceSeparator, 0x20] (.inr rfl)
  exact ⟨headers, joined, hheaders, by rw [hbytes, hlines]; decide, htok, hsame.trans htok⟩

end MenuHost.Sessions
