import MenuHost.Proofs.Text.Split
import MenuHost.Proofs.Text.Utf8
import MenuHost.Sessions.Cookie

/-!
# Cookie lines, byte by byte

A header value is bytes; the reader of cookies works on characters and
only on lines that are plain text. This file says what it finds in
terms of the bytes alone:

- `cookiePieces` and `rawPair?` cut a line as the rules for cookies do,
  whatever its bytes are, and `NamesSession` picks the pieces whose name
  is that of the session cookie;
- `sessionOfLine?_map` shows that on a plain line the reader sees just
  these pieces;
- `sessionOf?_of_carriedOnce` is the upshot: among any other cookies and
  lines, the one session cookie of a request is found exactly when the
  line in which it stands is plain text.
-/

namespace MenuHost.Sessions

open MenuHost.Http

/-! ## Pieces of a line -/

def pieceSeparator : UInt8 := 0x3b

/-- The byte between the name and the value of a piece. -/
def nameSeparator : UInt8 := 0x3d

/-- A space or a tab. -/
def isBlankByte (b : UInt8) : Bool :=
  b == 0x20 || b == 0x09

def cookiePieces (line : HeaderValue) : List (List UInt8) :=
  line.bytes.splitOn pieceSeparator

/-- Name and value of a piece, cut at its first equals sign and trimmed of
spaces and tabs. -/
def rawPair? (piece : List UInt8) : Option (List UInt8 × List UInt8) :=
  (Text.cut nameSeparator piece).map fun (name, value) =>
    (Text.trim isBlankByte name, Text.trim isBlankByte value)

def NamesSession (piece : List UInt8) : Prop :=
  ∃ value, rawPair? piece = some (Text.Utf8.encode cookieName, value)

theorem namesSession_iff {piece : List UInt8} :
    NamesSession piece ↔ (rawPair? piece).map (·.1) = some (Text.Utf8.encode cookieName) := by
  simp [NamesSession, Option.map_eq_some_iff]

instance (piece : List UInt8) : Decidable (NamesSession piece) :=
  decidable_of_iff' _ namesSession_iff

/-! ## Bytes as characters -/

def byteChar (b : UInt8) : Char := Char.ofNat b.toNat

theorem toNat_byteChar (b : UInt8) : (byteChar b).toNat = b.toNat := by
  have hb := b.toNat_lt
  have hvalid : b.toNat.isValidChar := Or.inl (by omega)
  rw [byteChar, Char.ofNat, dif_pos hvalid]
  rfl

theorem byteChar_injective (b c : UInt8) (h : byteChar b = byteChar c) : b = c := by
  have hnat := congrArg Char.toNat h
  rw [toNat_byteChar, toNat_byteChar] at hnat
  exact UInt8.toNat_inj.mp hnat

theorem isCookieBlank_byteChar : isCookieBlank ∘ byteChar = isBlankByte := by
  funext b
  have hspace : byteChar b = ' ' ↔ b = 0x20 :=
    ⟨fun h => byteChar_injective b 0x20 h, fun h => h ▸ rfl⟩
  have htab : byteChar b = '\t' ↔ b = 0x09 :=
    ⟨fun h => byteChar_injective b 0x09 h, fun h => h ▸ rfl⟩
  show (byteChar b == ' ' || byteChar b == '\t') = (b == 0x20 || b == 0x09)
  rw [Bool.eq_iff_iff]
  simp only [Bool.or_eq_true, beq_iff_eq, hspace, htab]

theorem cookiePair?_map (piece : List UInt8) :
    cookiePair? (piece.map byteChar) =
      (rawPair? piece).map fun (name, value) => (name.map byteChar, value.map byteChar) := by
  have hcut := Text.cut_map byteChar_injective nameSeparator piece
  have hsep : byteChar nameSeparator = '=' := rfl
  rw [hsep] at hcut
  rw [cookiePair?, rawPair?, hcut, Option.map_map, Option.map_map]
  congr 1
  funext pair
  simp [Text.trim_map, isCookieBlank_byteChar]

theorem encode_ofList_map_byteChar {bytes : List UInt8} (hascii : ∀ b ∈ bytes, b.toNat < 128) :
    Text.Utf8.encode (String.ofList (bytes.map byteChar)) = bytes := by
  rw [Text.Utf8.encode_of_ascii, String.toList_ofList, List.map_map]
  · refine (List.map_congr_left fun b hb => ?_).trans (List.map_id _)
    simp [toNat_byteChar]
  · intro c hc
    rw [String.toList_ofList] at hc
    obtain ⟨b, hb, rfl⟩ := List.mem_map.mp hc
    rw [toNat_byteChar]
    exact hascii b hb

theorem ofList_map_byteChar {bytes : List UInt8} {s : String}
    (hascii : ∀ b ∈ bytes, b.toNat < 128) (hs : Text.Utf8.encode s = bytes) :
    String.ofList (bytes.map byteChar) = s :=
  Text.Utf8.encode_injective ((encode_ofList_map_byteChar hascii).trans hs.symm)

/-! ## What the reader sees of a plain line -/

theorem isTextByte_lt {b : UInt8} (h : isTextByte b = true) : b.toNat < 128 := by
  simp only [isTextByte, Bool.or_eq_true, Bool.and_eq_true, decide_eq_true_eq, beq_iff_eq,
    UInt8.lt_iff_toNat_lt, UInt8.le_iff_toNat_le, UInt8.reduceToNat] at h
  rcases h with ⟨-, h⟩ | rfl
  · omega
  · decide

theorem text?_eq_some {line : HeaderValue} (h : line.bytes.all isTextByte = true) :
    line.text? = some (line.bytes.map byteChar) := if_pos h

theorem text?_eq_none {line : HeaderValue} (h : ¬line.bytes.all isTextByte = true) :
    line.text? = none := if_neg h

theorem cookieName_toList :
    cookieName.toList = (Text.Utf8.encode cookieName).map byteChar := by decide

/-- What the reader makes of a piece. -/
theorem sessionOfPiece?_map (piece : List UInt8) :
    sessionOfPiece? (piece.map byteChar) = (rawPair? piece).bind fun (name, value) =>
      if name = Text.Utf8.encode cookieName ∧ value ≠ [] then
        some (String.ofList (value.map byteChar))
      else none := by
  rw [sessionOfPiece?, cookiePair?_map]
  cases rawPair? piece with
  | none => rfl
  | some pair =>
      simp only [Option.map_some, Option.bind_some, cookieName_toList, ne_eq, List.map_eq_nil_iff,
        List.map_inj_right byteChar_injective]

/-- Only a piece with the name of the session cookie is a session. -/
theorem sessionOfPiece?_map_eq_none {piece : List UInt8} (h : ¬NamesSession piece) :
    sessionOfPiece? (piece.map byteChar) = none := by
  rw [sessionOfPiece?_map]
  cases hraw : rawPair? piece with
  | none => rfl
  | some pair =>
      obtain ⟨name, value⟩ := pair
      refine if_neg ?_
      rintro ⟨rfl, -⟩
      exact h ⟨value, hraw⟩

/-- A session cookie with a plain, non-empty value is read as that value. -/
theorem sessionOfPiece?_map_eq_some {piece : List UInt8} {token : String}
    (hraw : rawPair? piece = some (Text.Utf8.encode cookieName, Text.Utf8.encode token))
    (hne : token ≠ "") (hascii : ∀ b ∈ Text.Utf8.encode token, b.toNat < 128) :
    sessionOfPiece? (piece.map byteChar) = some token := by
  have hvalue : Text.Utf8.encode token ≠ [] := fun hnil =>
    hne (Text.Utf8.encode_injective hnil)
  rw [sessionOfPiece?_map, hraw, Option.bind_some]
  exact (if_pos ⟨rfl, hvalue⟩).trans (congrArg some (ofList_map_byteChar hascii rfl))

theorem sessionOfLine?_map (bytes : List UInt8) :
    sessionOfLine? (bytes.map byteChar) =
      (bytes.splitOn pieceSeparator).findSome? fun piece =>
        sessionOfPiece? (piece.map byteChar) := by
  have hsep : byteChar pieceSeparator = ';' := rfl
  rw [sessionOfLine?, ← hsep, Text.splitOn_map byteChar_injective, List.findSome?_map]
  rfl

/-- A line without session cookies gives no session, plain or not. -/
theorem sessionOfLine?_eq_none {line : HeaderValue}
    (h : ∀ piece ∈ cookiePieces line, ¬NamesSession piece) :
    line.text?.bind sessionOfLine? = none := by
  by_cases hplain : line.bytes.all isTextByte = true
  · rw [text?_eq_some hplain, Option.bind_some, sessionOfLine?_map, List.findSome?_eq_none_iff]
    exact fun piece hmem => sessionOfPiece?_map_eq_none (h piece hmem)
  · rw [text?_eq_none hplain, Option.bind_none]

/-! ## The one session cookie of a request -/

/-- Of all pieces of all cookie lines of a request exactly one has the name
of the session cookie: it stands in `line`, and its value is `token`. -/
def CarriedOnce (headers : Headers) (line : HeaderValue) (token : String) : Prop :=
  ∃ earlier later before piece after,
    headers.all "cookie" = earlier ++ line :: later
      ∧ cookiePieces line = before ++ piece :: after
      ∧ rawPair? piece = some (Text.Utf8.encode cookieName, Text.Utf8.encode token)
      ∧ (∀ other ∈ before ++ after, ¬NamesSession other)
      ∧ ∀ l ∈ earlier ++ later, ∀ other ∈ cookiePieces l, ¬NamesSession other

theorem ascii_of_rawPair? {line : HeaderValue} {piece name value : List UInt8}
    (hplain : line.bytes.all isTextByte = true) (hpiece : piece ∈ cookiePieces line)
    (hraw : rawPair? piece = some (name, value)) : ∀ b ∈ value, b.toNat < 128 := by
  intro b hb
  obtain ⟨⟨before, after⟩, hcut, heq⟩ := Option.map_eq_some_iff.mp hraw
  obtain ⟨-, rfl⟩ := Prod.mk.inj heq
  have hafter := (Text.mem_of_mem_cut hcut).2 b (Text.mem_of_mem_trim hb)
  have hline := (Text.mem_of_mem_splitOn hpiece b hafter).1
  exact isTextByte_lt (List.all_eq_true.mp hplain b hline)

/-- **What is found.** The one session cookie of a request is read exactly
when its line is plain text; otherwise the request seems to have none. -/
theorem sessionOf?_of_carriedOnce {headers : Headers} {line : HeaderValue} {token : String}
    (h : CarriedOnce headers line token) (hne : token ≠ "") :
    sessionOf? headers = if line.bytes.all isTextByte = true then some token else none := by
  obtain ⟨earlier, later, before, piece, after, hlines, hpieces, hraw, hothers, hrest⟩ := h
  -- the other lines give nothing, whether they can be read or not
  have hnone : ∀ lines : List HeaderValue, (∀ l ∈ lines, l ∈ earlier ++ later) →
      lines.findSome? (fun l => l.text?.bind sessionOfLine?) = none := fun lines hsub =>
    List.findSome?_eq_none_iff.mpr fun l hl => sessionOfLine?_eq_none (hrest l (hsub l hl))
  rw [sessionOf?, hlines, List.findSome?_append, hnone earlier (by simp +contextual),
    Option.none_or, List.findSome?_cons]
  by_cases hplain : line.bytes.all isTextByte = true
  · have hmem : piece ∈ cookiePieces line := by simp [hpieces]
    have hfound := sessionOfPiece?_map_eq_some hraw hne (ascii_of_rawPair? hplain hmem hraw)
    have hbefore : before.findSome? (fun p => sessionOfPiece? (p.map byteChar)) = none :=
      List.findSome?_eq_none_iff.mpr fun p hp =>
        sessionOfPiece?_map_eq_none (hothers p (List.mem_append_left _ hp))
    rw [cookiePieces] at hpieces
    rw [text?_eq_some hplain, Option.bind_some, sessionOfLine?_map, hpieces,
      List.findSome?_append, hbefore, Option.none_or, List.findSome?_cons, hfound, if_pos hplain]
  · rw [text?_eq_none hplain, Option.bind_none, if_neg hplain]
    exact hnone later (by simp +contextual)

end MenuHost.Sessions
