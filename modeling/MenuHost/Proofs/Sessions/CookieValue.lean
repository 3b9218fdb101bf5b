import Mathlib.Data.List.TakeWhile
import MenuHost.Proofs.Sessions.SetCookie

/-!
# Values that come back

Any text can be handed to `cookie?`, not only a token. Which texts a
header can hold, and which of them the reader finds again in what the
browser sends back, are two different questions: a header may hold bytes
outside ASCII, but a line with such bytes is passed over; a semicolon ends
the cookie, and blanks at the ends of a value are trimmed.

`isSome_cookie?_iff` answers the first question and
`sessionOf?_of_sentBack` the second. The idea behind the second is that
reading only ever takes bytes away: from the value to what stands before
its first semicolon, and from there to what trimming leaves. So where the
value comes back, neither step took anything.
-/

namespace MenuHost.Sessions

open MenuHost.Http

/-! ## The bytes of the header -/

/-- What follows the value in a header that hands out a session. -/
def valueSuffix (expires : Time.Timestamp) : String :=
  " Expires=" ++ expires.text ++ "; " ++ cookieAttributes

theorem encode_cookieText (value : String) (expires : Time.Timestamp) :
    Text.Utf8.encode (cookieText value expires none) =
      Text.Utf8.encode cookieName ++ nameSeparator :: (Text.Utf8.encode value
        ++ pieceSeparator :: Text.Utf8.encode (valueSuffix expires)) := by
  have hexpires : Text.Utf8.encode "; Expires="
      = pieceSeparator :: Text.Utf8.encode " Expires=" := rfl
  have hequals : Text.Utf8.encode "=" = [nameSeparator] := rfl
  simp [cookieText, valueSuffix, hexpires, hequals]

theorem isPlain_of_mem_valueSuffix (expires : Time.Timestamp) :
    ∀ c ∈ (valueSuffix expires).toList, IsPlain c := by
  have hnone : ∀ c ∈ "".toList, IsPlain c := by simp
  have hsuffix : (valueSuffix expires).toList <:+ (cookieText "" expires none).toList :=
    ⟨"SESSIONID=;".toList, by simp [toList_cookieText, valueSuffix]⟩
  exact fun c hc => isPlain_of_mem_cookieText expires none hnone c (hsuffix.subset hc)

theorem isValueByte_of_isPlain {s : String} (h : ∀ c ∈ s.toList, IsPlain c) :
    ∀ b ∈ Text.Utf8.encode s, isValueByte b = true := by
  obtain ⟨header, -, hbytes, -⟩ := ofString?_of_isPlain h
  rw [Text.Utf8.encode_of_ascii fun c hc => (h c hc).lt_128, ← hbytes]
  exact List.all_eq_true.mp header.valid

theorem bytes_of_cookie? {value : String} {expires : Time.Timestamp} {header : HeaderValue}
    (h : cookie? value expires = some header) :
    header.bytes = Text.Utf8.encode (cookieText value expires none) := by
  obtain ⟨hvalid, hsome⟩ := Option.dite_none_right_eq_some.mp h
  rw [← Option.some.inj hsome]

/-! ## Values that a header can hold -/

/-- No control but the tab. -/
def Admissible (value : String) : Prop :=
  ∀ b ∈ Text.Utf8.encode value, (b < 0x20 → b = 0x09) ∧ b ≠ 0x7f

theorem isValueByte_iff {b : UInt8} :
    isValueByte b = true ↔ (b < 0x20 → b = 0x09) ∧ b ≠ 0x7f := by
  simp only [isValueByte, Bool.or_eq_true, Bool.and_eq_true, decide_eq_true_eq, beq_iff_eq,
    bne_iff_ne, UInt8.lt_iff_toNat_lt, UInt8.le_iff_toNat_le, UInt8.reduceToNat, ne_eq,
    ← UInt8.toNat_inj]
  omega

/-- A cookie can be built of just the values that a header can hold. -/
theorem isSome_cookie?_iff {value : String} {expires : Time.Timestamp} :
    (cookie? value expires).isSome = true ↔ Admissible value := by
  have hname : ∀ b ∈ Text.Utf8.encode cookieName, isValueByte b = true :=
    Text.forall_mem_of_all (by decide)
  have hsuffix := isValueByte_of_isPlain (isPlain_of_mem_valueSuffix expires)
  have hall : (Text.Utf8.encode (cookieText value expires none)).all isValueByte = true
      ↔ Admissible value := by
    rw [List.all_eq_true, encode_cookieText]
    constructor
    · intro h b hb
      exact isValueByte_iff.mp (h b (by simp [hb]))
    · intro h b hb
      simp only [List.mem_append, List.mem_cons] at hb
      rcases hb with hb | rfl | hb | rfl | hb
      · exact hname b hb
      · rfl
      · exact isValueByte_iff.mpr (h b hb)
      · rfl
      · exact hsuffix b hb
  rw [← hall, cookie?, HeaderValue.ofString?, HeaderValue.ofBytes?]
  split
  · next h => simp [h]
  · next h => simp [h]

/-! ## Values that come back -/

/-- The request has one cookie line, and that is the text of the header up to
its first semicolon. -/
def SentBack (header : HeaderValue) (request : Headers) : Prop :=
  ∃ line : HeaderValue, line.bytes = header.bytes.takeWhile (· ≠ pieceSeparator)
    ∧ request.all "cookie" = [line]

theorem exists_sentBack (header : HeaderValue) : ∃ request, SentBack header request := by
  have hvalid : (header.bytes.takeWhile (· ≠ pieceSeparator)).all isValueByte = true :=
    List.all_eq_true.mpr fun b hb =>
      List.all_eq_true.mp header.valid b (List.takeWhile_subset _ hb)
  exact ⟨[⟨"cookie", ⟨_, hvalid⟩⟩], ⟨_, hvalid⟩, rfl, rfl⟩

/-- A value that is plain text without semicolons, and neither empty nor blank
at either end. -/
structure Survives (value : String) : Prop where
  nonempty : value ≠ ""
  plain : ∀ b ∈ Text.Utf8.encode value, (0x20 ≤ b ∧ b ≤ 0x7e) ∨ b = 0x09
  unbroken : ∀ b ∈ Text.Utf8.encode value, b ≠ pieceSeparator
  head : ∀ b, (Text.Utf8.encode value).head? = some b → b ≠ 0x20 ∧ b ≠ 0x09
  last : ∀ b, (Text.Utf8.encode value).getLast? = some b → b ≠ 0x20 ∧ b ≠ 0x09

theorem isTextByte_iff {b : UInt8} :
    isTextByte b = true ↔ (0x20 ≤ b ∧ b ≤ 0x7e) ∨ b = 0x09 := by
  simp only [isTextByte, Bool.or_eq_true, Bool.and_eq_true, decide_eq_true_eq, beq_iff_eq,
    UInt8.lt_iff_toNat_lt, UInt8.le_iff_toNat_le, UInt8.reduceToNat, ← UInt8.toNat_inj]
  omega

theorem isBlankByte_eq_false_iff {b : UInt8} :
    isBlankByte b = false ↔ b ≠ 0x20 ∧ b ≠ 0x09 := by
  simp [isBlankByte]

/-- What the reader finds in a line that is one session cookie. -/
theorem sessionOf?_of_bytes {request : Headers} {line : HeaderValue} {rest : List UInt8}
    (hrequest : request.all "cookie" = [line])
    (hline : line.bytes = Text.Utf8.encode cookieName ++ nameSeparator :: rest)
    (hrest : pieceSeparator ∉ rest) :
    sessionOf? request =
      if rest.all isTextByte = true ∧ Text.trim isBlankByte rest ≠ [] then
        some (String.ofList ((Text.trim isBlankByte rest).map byteChar))
      else none := by
  have hsep : pieceSeparator ∉ line.bytes := by
    rw [hline, List.mem_append, List.mem_cons]
    rintro (h | h | h)
    · exact (isBare_of_mem_cookieName _ h).2.1 rfl
    · cases h
    · exact hrest h
  have hraw : rawPair? line.bytes
      = some (Text.Utf8.encode cookieName, Text.trim isBlankByte rest) := by
    rw [rawPair?, hline, Text.cut_append_cons (by decide), Option.map_some]
    dsimp only
    rw [Text.trim_of_forall fun b hb => (isBare_of_mem_cookieName b hb).2.2]
  have hplain : line.bytes.all isTextByte = rest.all isTextByte := by
    have hname : (Text.Utf8.encode cookieName).all isTextByte = true := by decide
    rw [hline, List.all_append, List.all_cons, hname]
    rfl
  have hread : line.text?.bind sessionOfLine? =
      if rest.all isTextByte = true ∧ Text.trim isBlankByte rest ≠ [] then
        some (String.ofList ((Text.trim isBlankByte rest).map byteChar))
      else none := by
    by_cases htext : rest.all isTextByte = true
    · rw [text?_eq_some (hplain.trans htext), Option.bind_some, sessionOfLine?_map,
        List.splitOn_eq_singleton hsep, List.findSome?_singleton, sessionOfPiece?_map, hraw,
        Option.bind_some]
      simp only [true_and, htext]
    · rw [text?_eq_none (hplain ▸ htext), Option.bind_none, if_neg fun h => htext h.1]
  rw [sessionOf?, hrequest, List.findSome?_singleton, hread]

/-- What comes back of a value is what stands before its first semicolon. -/
theorem takeWhile_bytes_of_cookie? {value : String} {expires : Time.Timestamp}
    {header : HeaderValue} (h : cookie? value expires = some header) :
    header.bytes.takeWhile (· ≠ pieceSeparator) =
      Text.Utf8.encode cookieName ++ nameSeparator ::
        (Text.Utf8.encode value).takeWhile (· ≠ pieceSeparator) := by
  have hname : ∀ b ∈ Text.Utf8.encode cookieName, decide (b ≠ pieceSeparator) = true :=
    fun b hb => decide_eq_true (isBare_of_mem_cookieName b hb).2.1
  rw [bytes_of_cookie? h, encode_cookieText, List.takeWhile_append_of_pos hname,
    List.takeWhile_cons_of_pos (by decide), Text.takeWhile_append_stop (by simp)]

/-- **What comes back.** A value is read back from what the browser sends of its
cookie if it survives, and only then. -/
theorem sessionOf?_of_sentBack {value : String} {expires : Time.Timestamp}
    {header : HeaderValue} {request : Headers} (hheader : cookie? value expires = some header)
    (hback : SentBack header request) : sessionOf? request = some value ↔ Survives value := by
  obtain ⟨line, hline, hrequest⟩ := hback
  rw [takeWhile_bytes_of_cookie? hheader] at hline
  have hstop : pieceSeparator ∉ (Text.Utf8.encode value).takeWhile (· ≠ pieceSeparator) := by
    intro h
    have hne := List.mem_takeWhile_imp h
    simp at hne
  rw [sessionOf?_of_bytes hrequest hline hstop]
  constructor
  · intro hfound
    obtain ⟨⟨htext, hne⟩, heq⟩ := Option.ite_none_right_eq_some.mp hfound
    have htext := List.all_eq_true.mp htext
    have hascii : ∀ b ∈ Text.trim isBlankByte
        ((Text.Utf8.encode value).takeWhile (· ≠ pieceSeparator)), b.toNat < 128 :=
      fun b hb => isTextByte_lt (htext b (Text.mem_of_mem_trim hb))
    have hbytes := encode_ofList_map_byteChar hascii
    rw [Option.some.inj heq] at hbytes
    -- all bytes of the value are left, so nothing was cut off and nothing trimmed
    have htrim := (Text.trim_sublist isBlankByte
      ((Text.Utf8.encode value).takeWhile (· ≠ pieceSeparator))).length_le
    rw [← hbytes] at htrim
    have hwhole := (List.takeWhile_sublist _).eq_of_length_le htrim
    rw [hwhole] at hbytes htext hne
    obtain ⟨hhead, hlast⟩ := Text.trim_eq_self_iff.mp hbytes.symm
    refine ⟨?_, fun b hb => isTextByte_iff.mp (htext b hb), fun b hb => ?_,
      fun b hb => isBlankByte_eq_false_iff.mp (hhead b hb),
      fun b hb => isBlankByte_eq_false_iff.mp (hlast b hb)⟩
    · rintro rfl
      exact hne rfl
    · rw [← hwhole] at hb
      exact fun h => hstop (h ▸ hb)
  · rintro ⟨hne, hplain, hunbroken, hhead, hlast⟩
    have hwhole : (Text.Utf8.encode value).takeWhile (· ≠ pieceSeparator)
        = Text.Utf8.encode value :=
      List.takeWhile_eq_self_iff.mpr fun b hb => decide_eq_true (hunbroken b hb)
    have htrim : Text.trim isBlankByte (Text.Utf8.encode value) = Text.Utf8.encode value :=
      Text.trim_of_ends (fun b hb => isBlankByte_eq_false_iff.mpr (hhead b hb))
        fun b hb => isBlankByte_eq_false_iff.mpr (hlast b hb)
    have htext : ∀ b ∈ Text.Utf8.encode value, isTextByte b = true :=
      fun b hb => isTextByte_iff.mpr (hplain b hb)
    have hsome : Text.Utf8.encode value ≠ [] := fun h => hne (Text.Utf8.encode_injective h)
    rw [hwhole, htrim, if_pos ⟨List.all_eq_true.mpr htext, hsome⟩,
      ofList_map_byteChar (fun b hb => isTextByte_lt (htext b hb)) rfl]

/-- Tokens survive. -/
theorem survives_tokenText (bits : TokenBits) : Survives (tokenText bits) := by
  have hbare := isBare_of_mem_tokenText bits
  have hblank : ∀ b ∈ Text.Utf8.encode (tokenText bits), b ≠ 0x20 ∧ b ≠ 0x09 :=
    fun b hb => isBlankByte_eq_false_iff.mp (hbare b hb).2.2
  exact ⟨tokenText_ne_empty bits, fun b hb => isTextByte_iff.mp (hbare b hb).1,
    fun b hb => (hbare b hb).2.1, fun b hb => hblank b (List.mem_of_head? hb),
    fun b hb => hblank b (List.mem_of_getLast? hb)⟩

/-! ## Both together -/

/-- **The round trip of a cookie.** A cookie can be built of exactly those values
that hold no control but the tab, and holds none itself; the value is read back from
it exactly if it survives, as all tokens do. -/
theorem cookie_round_trip (value : String) (expires : Time.Timestamp) :
    ((cookie? value expires).isSome = true ↔ Admissible value)
      ∧ (∀ header, cookie? value expires = some header →
          (∀ b ∈ header.bytes, b ≠ 0x0d ∧ b ≠ 0x0a ∧ b ≠ 0x00)
            ∧ (∃ request, SentBack header request)
            ∧ ∀ request, SentBack header request →
                (sessionOf? request = some value ↔ Survives value))
      ∧ ∀ bits, ∃ header, cookie? (tokenText bits) expires = some header
          ∧ ∀ request, SentBack header request → sessionOf? request = some (tokenText bits) := by
  refine ⟨isSome_cookie?_iff, fun header hheader => ⟨fun b hb => ?_, exists_sentBack header,
    fun request hback => sessionOf?_of_sentBack hheader hback⟩, fun bits => ?_⟩
  · have hvalue := List.all_eq_true.mp header.valid b hb
    refine ⟨?_, ?_, ?_⟩
    all_goals
      rintro rfl
      cases hvalue
  · obtain ⟨header, hheader, -⟩ := exists_cookie bits expires
    exact ⟨header, hheader, fun request hback =>
      (sessionOf?_of_sentBack hheader hback).mpr (survives_tokenText bits)⟩

/-- A value with a blank and an equals sign inside comes back. One outside ASCII
does not, though a header holds it. -/
theorem cookie_round_trip_inside_and_outside_ascii :
    (∃ header request, cookie? "a =b" .epoch = some header ∧ SentBack header request
        ∧ sessionOf? request = some "a =b")
      ∧ ∃ header request, cookie? "é" .epoch = some header ∧ SentBack header request
        ∧ sessionOf? request ≠ some "é" := by
  have hround : ∀ value, Admissible value → ∃ header request,
      cookie? value .epoch = some header ∧ SentBack header request
        ∧ (sessionOf? request = some value ↔ Survives value) := by
    intro value hvalue
    obtain ⟨hsome, hback, -⟩ := cookie_round_trip value .epoch
    obtain ⟨header, hheader⟩ := Option.isSome_iff_exists.mp (hsome.mpr hvalue)
    obtain ⟨-, ⟨request, hrequest⟩, hread⟩ := hback header hheader
    exact ⟨header, request, hheader, hrequest, hread request hrequest⟩
  constructor
  · obtain ⟨header, request, hheader, hrequest, hread⟩ :=
      hround "a =b" (Text.forall_mem_of_all (by decide))
    have hsurvives : Survives "a =b" :=
      ⟨by decide, Text.forall_mem_of_all (by decide), Text.forall_mem_of_all (by decide),
        fun b hb => Option.some.inj hb ▸ by decide, fun b hb => Option.some.inj hb ▸ by decide⟩
    exact ⟨header, request, hheader, hrequest, hread.mpr hsurvives⟩
  · obtain ⟨header, request, hheader, hrequest, hread⟩ :=
      hround "é" (Text.forall_mem_of_all (by decide))
    have hbroken : ¬Survives "é" := fun h =>
      absurd (h.plain 0xc3 (by decide)) (by decide)
    exact ⟨header, request, hheader, hrequest, fun h => hbroken (hread.mp h)⟩

end MenuHost.Sessions
