import MenuHost.Http.Message
import MenuHost.Proofs.Sessions.CookieLine
import MenuHost.Proofs.Sessions.Token
import MenuHost.Proofs.Time.DateText

/-!
# The header that hands out a session

Everything in the header of a session cookie is plain text: the token by
its alphabet, the date by `isDateChar_of_mem_text`, the rest by its
spelling. So the header can always be built (`exists_cookie`,
`exists_clearingCookie`), for every token and every time.

What the browser makes of it is read off the header's own text. Up to
its first semicolon it is the cookie that comes back, and it comes back
as the token (`readBackAs_of_bytes`); its `Expires` attribute names the
second of the expiry (`readDate?_expires`).
-/

namespace MenuHost.Sessions

open MenuHost.Http

/-! ## Plain texts in headers -/

/-- Visible ASCII or a space. -/
def IsPlain (c : Char) : Prop :=
  0x20 ≤ c.toNat ∧ c.toNat < 0x7f

instance (c : Char) : Decidable (IsPlain c) :=
  inferInstanceAs (Decidable (0x20 ≤ c.toNat ∧ c.toNat < 0x7f))

theorem IsPlain.lt_128 {c : Char} (h : IsPlain c) : c.toNat < 128 :=
  Nat.lt_trans h.2 (by decide)

theorem byteChar_ofNat {c : Char} (hc : c.toNat < 128) : byteChar (UInt8.ofNat c.toNat) = c := by
  have hnat : (UInt8.ofNat c.toNat).toNat = c.toNat := by
    simp only [UInt8.toNat_ofNat']
    omega
  rw [byteChar, hnat, Char.ofNat_toNat]

theorem isTextByte_of_isPlain {c : Char} (hc : IsPlain c) :
    isTextByte (UInt8.ofNat c.toNat) = true := by
  obtain ⟨hlow, hhigh⟩ := hc
  simp only [isTextByte, Bool.or_eq_true, Bool.and_eq_true, decide_eq_true_eq,
    UInt8.le_iff_toNat_le, UInt8.lt_iff_toNat_lt, UInt8.toNat_ofNat', UInt8.reduceToNat]
  exact Or.inl (by omega)

theorem isValueByte_of_isTextByte {b : UInt8} (h : isTextByte b = true) :
    isValueByte b = true := by
  simp only [isTextByte, isValueByte, Bool.or_eq_true, Bool.and_eq_true, decide_eq_true_eq,
    beq_iff_eq, bne_iff_ne, UInt8.lt_iff_toNat_lt, UInt8.le_iff_toNat_le, UInt8.reduceToNat, ne_eq,
    ← UInt8.toNat_inj] at h ⊢
  omega

/-- A plain text can stand in a header, and is read from it again. -/
theorem ofString?_of_isPlain {s : String} (h : ∀ c ∈ s.toList, IsPlain c) :
    ∃ value, HeaderValue.ofString? s = some value
      ∧ value.bytes = s.toList.map (fun c => UInt8.ofNat c.toNat)
      ∧ value.text? = some s.toList := by
  have hlt : ∀ c ∈ s.toList, c.toNat < 128 := fun c hc => (h c hc).lt_128
  have hbytes := Text.Utf8.encode_of_ascii hlt
  have htext : (Text.Utf8.encode s).all isTextByte = true := by
    rw [hbytes, List.all_map]
    exact List.all_eq_true.mpr fun c hc => isTextByte_of_isPlain (h c hc)
  have hvalue : (Text.Utf8.encode s).all isValueByte = true :=
    List.all_eq_true.mpr fun b hb => isValueByte_of_isTextByte (List.all_eq_true.mp htext b hb)
  refine ⟨⟨Text.Utf8.encode s, hvalue⟩, dif_pos hvalue, hbytes, ?_⟩
  rw [text?_eq_some htext]
  simp only [hbytes, List.map_map]
  congr 1
  exact (List.map_congr_left fun c hc => byteChar_ofNat (hlt c hc)).trans (List.map_id _)

theorem ofText_of_isPlain {s : String} (h : ∀ c ∈ s.toList, IsPlain c) :
    HeaderValue.ofString? s = some (.ofText s)
      ∧ (HeaderValue.ofText s).text? = some s.toList := by
  obtain ⟨value, hvalue, hbytes, htext⟩ := ofString?_of_isPlain h
  have hencode := Text.Utf8.encode_of_ascii fun c hc => (h c hc).lt_128
  have heq : HeaderValue.ofText s = value := by
    obtain ⟨bytes, hvalid⟩ := value
    simp only at hbytes
    subst hbytes
    simp only [HeaderValue.ofText, HeaderValue.mk.injEq]
    rw [hencode, List.filter_eq_self]
    exact List.all_eq_true.mp hvalid
  rw [heq]
  exact ⟨hvalue, htext⟩

/-! ## The cookie that hands out a session -/

theorem range_of_isAlphanum {c : Char} (h : c.isAlphanum = true) :
    ((65 ≤ c.toNat ∧ c.toNat ≤ 90) ∨ (97 ≤ c.toNat ∧ c.toNat ≤ 122))
      ∨ (48 ≤ c.toNat ∧ c.toNat ≤ 57) := by
  delta Char.isAlphanum Char.isAlpha Char.isUpper Char.isLower Char.isDigit at h
  simp only [Bool.or_eq_true, Bool.and_eq_true, decide_eq_true_eq, ge_iff_le,
    UInt32.le_iff_toNat_le] at h
  exact h

theorem isPlain_of_isDateChar {c : Char} (h : Time.isDateChar c = true) :
    IsPlain c ∧ c ≠ ';' := by
  simp only [Time.isDateChar, Bool.or_eq_true, beq_iff_eq] at h
  rcases h with (((((h | rfl) | rfl) | rfl) | rfl) | rfl)
  · have hrange := range_of_isAlphanum h
    refine ⟨⟨by omega, by omega⟩, fun heq => ?_⟩
    have hsemi : c.toNat = 59 := congrArg Char.toNat heq
    omega
  all_goals decide

theorem isPlain_of_isDigit {c : Char} (h : c.isDigit = true) : IsPlain c :=
  (isPlain_of_isDateChar (Time.isDateChar_of_isDigit h)).1

/-- A cookie with a plain value is plain. -/
theorem isPlain_of_mem_cookieText {value : String} (expires : Time.Timestamp)
    (maxAge : Option Nat) (hvalue : ∀ c ∈ value.toList, IsPlain c) :
    ∀ c ∈ (cookieText value expires maxAge).toList, IsPlain c := by
  have hname : ∀ c ∈ cookieName.toList, IsPlain c := Text.forall_mem_of_all (by decide)
  have hequals : ∀ c ∈ "=".toList, IsPlain c := Text.forall_mem_of_all (by decide)
  have hexpires : ∀ c ∈ "; Expires=".toList, IsPlain c := Text.forall_mem_of_all (by decide)
  have hsemi : ∀ c ∈ "; ".toList, IsPlain c := Text.forall_mem_of_all (by decide)
  have hattributes : ∀ c ∈ cookieAttributes.toList, IsPlain c := Text.forall_mem_of_all (by decide)
  have hage : ∀ c ∈ "Max-Age=".toList, IsPlain c := Text.forall_mem_of_all (by decide)
  intro c hc
  simp only [cookieText, String.toList_append, List.mem_append] at hc
  rcases hc with ((((((hc | hc) | hc) | hc) | hc) | hc) | hc) | hc
  · exact hname c hc
  · exact hequals c hc
  · exact hvalue c hc
  · exact hexpires c hc
  · exact (isPlain_of_isDateChar (Time.isDateChar_of_mem_text hc)).1
  · exact hsemi c hc
  · cases maxAge with
    | none => cases hc
    | some seconds =>
        simp only [String.toList_append, List.mem_append] at hc
        rcases hc with (hc | hc) | hc
        · exact hage c hc
        · rw [Nat.toString_eq_repr, Nat.toList_repr] at hc
          exact isPlain_of_isDigit (Nat.isDigit_of_mem_toDigits (by decide) (by decide) hc)
        · exact hsemi c hc
  · exact hattributes c hc

theorem isPlain_of_isTokenText {token : String} (h : IsTokenText token) :
    ∀ c ∈ token.toList, IsPlain c ∧ c ≠ ';' ∧ isCookieBlank c = false := fun c hc =>
  Base64.forall_of_value? (p := fun c => IsPlain c ∧ c ≠ ';' ∧ isCookieBlank c = false)
    (by decide) (List.all_eq_true.mp h.2 c hc)

theorem isPlain_of_mem_tokenText (bits : TokenBits) :
    ∀ c ∈ (tokenText bits).toList, IsPlain c ∧ c ≠ ';' := by
  intro c hc
  obtain ⟨hplain, hsemi, -⟩ := isPlain_of_isTokenText (isTokenText_tokenText bits) c hc
  exact ⟨hplain, hsemi⟩

/-- The header of a token can be built, whenever it expires. -/
theorem exists_cookie (bits : TokenBits) (expires : Time.Timestamp) :
    ∃ value, cookie? (tokenText bits) expires = some value
      ∧ value.bytes = (cookieText (tokenText bits) expires none).toList.map
        (fun c => UInt8.ofNat c.toNat)
      ∧ value.text? = some (cookieText (tokenText bits) expires none).toList :=
  ofString?_of_isPlain <| isPlain_of_mem_cookieText expires none fun c hc =>
    (isPlain_of_mem_tokenText bits c hc).1

theorem cookie?_of_isTokenText {token : String} (htoken : IsTokenText token)
    (expires : Time.Timestamp) :
    cookie? token expires = some (.ofText (cookieText token expires none)) :=
  (ofText_of_isPlain (isPlain_of_mem_cookieText expires none fun c hc =>
    (isPlain_of_isTokenText htoken c hc).1)).1

theorem exists_clearingCookie : ∃ value, clearingCookie? = some value := by
  have hplain : ∀ c ∈ deletedValue.toList, IsPlain c := Text.forall_mem_of_all (by decide)
  obtain ⟨value, hvalue, -⟩ := ofString?_of_isPlain
    (isPlain_of_mem_cookieText Time.Timestamp.epoch (some 0) hplain)
  exact ⟨value, hvalue⟩

/-- The text that hands out a token up to its first semicolon, the expiry,
and the rest. -/
theorem toList_cookieText (token : String) (expires : Time.Timestamp) :
    (cookieText token expires none).toList =
      ("SESSIONID=".toList ++ token.toList) ++ ';' :: ((" Expires=".toList ++ expires.text.toList)
        ++ ';' :: (' ' :: cookieAttributes.toList)) := by
  simp [cookieText, cookieName]

/-! ## What comes back -/

/-- A byte that the reader leaves alone: plain text, neither a separator of
pieces nor blank. -/
def IsBare (b : UInt8) : Prop :=
  isTextByte b = true ∧ b ≠ pieceSeparator ∧ isBlankByte b = false

instance (b : UInt8) : Decidable (IsBare b) :=
  inferInstanceAs (Decidable (isTextByte b = true ∧ b ≠ pieceSeparator ∧ isBlankByte b = false))

theorem isBare_of_mem_cookieName : ∀ b ∈ Text.Utf8.encode cookieName, IsBare b :=
  Text.forall_mem_of_all (by decide)

theorem encode_tokenText (bits : TokenBits) :
    Text.Utf8.encode (tokenText bits) =
      (tokenText bits).toList.map fun c => UInt8.ofNat c.toNat :=
  Text.Utf8.encode_of_ascii fun c hc => (isPlain_of_mem_tokenText bits c hc).1.lt_128

theorem isBare_of_mem_tokenText (bits : TokenBits) :
    ∀ b ∈ Text.Utf8.encode (tokenText bits), IsBare b := by
  intro b hb
  rw [encode_tokenText] at hb
  obtain ⟨c, hc, rfl⟩ := List.mem_map.mp hb
  exact forall_mem_tokenText (p := fun c => IsBare (UInt8.ofNat c.toNat)) (by decide) bits c hc

/-- The bytes of the session cookie of a token. -/
def tokenLine (bits : TokenBits) : List UInt8 :=
  Text.Utf8.encode cookieName ++ nameSeparator :: Text.Utf8.encode (tokenText bits)

theorem isBare_of_mem_tokenLine (bits : TokenBits) : ∀ b ∈ tokenLine bits, IsBare b := by
  intro b hb
  rcases List.mem_append.mp hb with hb | hb
  · exact isBare_of_mem_cookieName b hb
  · rcases List.mem_cons.mp hb with rfl | hb
    · decide
    · exact isBare_of_mem_tokenText bits b hb

/-- A line that is the session cookie of a token and nothing else. -/
theorem carriedOnce_tokenLine {bits : TokenBits} {line : HeaderValue}
    (hline : line.bytes = tokenLine bits) :
    CarriedOnce [⟨"cookie", line⟩] line (tokenText bits)
      ∧ line.bytes.all isTextByte = true := by
  have hbare : ∀ b ∈ line.bytes, IsBare b := hline ▸ isBare_of_mem_tokenLine bits
  have hpieces : cookiePieces line = [line.bytes] :=
    List.splitOn_eq_singleton fun h => (hbare _ h).2.1 rfl
  have hcut : Text.cut nameSeparator line.bytes
      = some (Text.Utf8.encode cookieName, Text.Utf8.encode (tokenText bits)) := by
    rw [hline]
    exact Text.cut_append_cons (by decide) _
  have hraw : rawPair? line.bytes
      = some (Text.Utf8.encode cookieName, Text.Utf8.encode (tokenText bits)) := by
    rw [rawPair?, hcut, Option.map_some]
    show some (Text.trim isBlankByte _, Text.trim isBlankByte _) = _
    rw [Text.trim_of_forall fun b hb => (isBare_of_mem_cookieName b hb).2.2,
      Text.trim_of_forall fun b hb => (isBare_of_mem_tokenText bits b hb).2.2]
  exact ⟨⟨[], [], [], line.bytes, [], rfl, hpieces, hraw, by simp, by simp⟩,
    List.all_eq_true.mpr fun b hb => (hbare b hb).1⟩

/-- The header begins with that line, and a semicolon ends it. -/
theorem exists_bytes_cookieText (bits : TokenBits) (expires : Time.Timestamp) :
    ∃ rest, ((cookieText (tokenText bits) expires none).toList.map
      fun c => UInt8.ofNat c.toNat) = tokenLine bits ++ pieceSeparator :: rest := by
  rw [toList_cookieText, List.map_append, List.map_append, List.map_cons, tokenLine,
    encode_tokenText]
  exact ⟨_, rfl⟩

/-- What the browser sends back of a header, the text up to its first semicolon,
is a cookie line in which the token is found. -/
def ReadBackAs (value : HeaderValue) (token : String) : Prop :=
  ∃ back, HeaderValue.ofBytes? (value.bytes.takeWhile (· ≠ pieceSeparator)) = some back
    ∧ sessionOf? [⟨"cookie", back⟩] = some token

theorem readBackAs_of_bytes {bits : TokenBits} {expires : Time.Timestamp} {value : HeaderValue}
    (hbytes : value.bytes = (cookieText (tokenText bits) expires none).toList.map
      fun c => UInt8.ofNat c.toNat) : ReadBackAs value (tokenText bits) := by
  obtain ⟨rest, hrest⟩ := exists_bytes_cookieText bits expires
  have htake : value.bytes.takeWhile (· ≠ pieceSeparator) = tokenLine bits := by
    have hline : ∀ b ∈ tokenLine bits, decide (b ≠ pieceSeparator) = true := fun b hb =>
      decide_eq_true (isBare_of_mem_tokenLine bits b hb).2.1
    rw [hbytes, hrest, List.takeWhile_append_of_pos hline,
      List.takeWhile_cons_of_neg (by decide), List.append_nil]
  have hvalid : (value.bytes.takeWhile (· ≠ pieceSeparator)).all isValueByte = true :=
    List.all_eq_true.mpr fun b hb =>
      List.all_eq_true.mp value.valid b (List.takeWhile_subset _ hb)
  refine ⟨⟨_, hvalid⟩, dif_pos hvalid, ?_⟩
  have hback : (HeaderValue.mk _ hvalid).bytes = tokenLine bits := htake
  obtain ⟨honce, hplain⟩ := carriedOnce_tokenLine hback
  rw [sessionOf?_of_carriedOnce honce (tokenText_ne_empty bits), if_pos hplain]

/-! ## When it expires -/

theorem isCookieBlank_of_isAlpha {c : Char} (h : c.isAlpha = true) : isCookieBlank c = false := by
  have hspace : c ≠ ' ' := fun heq => by subst heq; cases h
  have htab : c ≠ '\t' := fun heq => by subst heq; cases h
  simp [isCookieBlank, hspace, htab]

/-- The value of an attribute: of the first piece of its name after the cookie itself. -/
def attribute? (name : String) (value : HeaderValue) : Option (List Char) :=
  value.text?.bind fun text =>
    ((text.splitOn ';').tail.filterMap cookiePair?).lookup name.toList

theorem cookiePair?_expires (expires : Time.Timestamp) :
    cookiePair? (" Expires=".toList ++ expires.text.toList)
      = some ("Expires".toList, expires.text.toList) := by
  have hcut : Text.cut '=' (" Expires=".toList ++ expires.text.toList)
      = some (" Expires".toList, expires.text.toList) := by
    show Text.cut '=' (" Expires".toList ++ '=' :: expires.text.toList) = _
    exact Text.cut_append_cons (by decide) _
  have hname : Text.trim isCookieBlank " Expires".toList = "Expires".toList := by decide
  have htrim : Text.trim isCookieBlank expires.text.toList = expires.text.toList := by
    obtain ⟨first, hhead, hfirst⟩ := Time.head?_text expires
    refine Text.trim_of_ends (fun c hc => ?_) fun c hc => ?_
    · obtain rfl := Option.some.inj (hhead.symm.trans hc)
      exact isCookieBlank_of_isAlpha hfirst
    · obtain rfl := Option.some.inj ((Time.getLast?_text expires).symm.trans hc)
      rfl
  rw [cookiePair?, hcut, Option.map_some]
  show some (Text.trim isCookieBlank _, Text.trim isCookieBlank _) = _
  rw [hname, htrim]

/-- The header names the second of the expiry. -/
theorem readDate?_expires {bits : TokenBits} {expires : Time.Timestamp} {value : HeaderValue}
    (htext : value.text? = some (cookieText (tokenText bits) expires none).toList)
    (hfit : Time.Timestamp.nanosFit expires.secs expires.nanos = true) :
    (attribute? "Expires" value).bind Time.readDate? = some expires.floor := by
  have hcookie : ';' ∉ "SESSIONID=".toList ++ (tokenText bits).toList := fun hmem => by
    rcases List.mem_append.mp hmem with hmem | hmem
    · exact absurd hmem (by decide)
    · exact (isPlain_of_mem_tokenText bits _ hmem).2 rfl
  have hdate : ';' ∉ " Expires=".toList ++ expires.text.toList := fun hmem => by
    rcases List.mem_append.mp hmem with hmem | hmem
    · exact absurd hmem (by decide)
    · exact (isPlain_of_isDateChar (Time.isDateChar_of_mem_text hmem)).2 rfl
  have hfound : attribute? "Expires" value = some expires.text.toList := by
    rw [attribute?, htext, Option.bind_some, toList_cookieText,
      List.splitOn_append_cons_self_of_not_mem hcookie,
      List.splitOn_append_cons_self_of_not_mem hdate, List.tail_cons, List.filterMap_cons_some
      (cookiePair?_expires expires), List.lookup_cons, beq_self_eq_true]
  rw [hfound, Option.bind_some, Time.readDate?_text hfit]

end MenuHost.Sessions
