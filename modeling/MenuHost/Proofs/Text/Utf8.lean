import MenuHost.Text.Utf8

/-!
# Reading UTF-8 back

Lenient reading repairs malformed bytes, so it must be shown to leave
well-formed ones alone: `decodeLenient_encode`. The step is
`readChar_encodeChar`, one case for each length of a character's code;
in every case the second byte passes the check that keeps out codes
longer than needed, surrogates and numbers that are no characters.

Texts of ASCII are their own bytes (`encode_of_ascii`).
-/

namespace MenuHost.Text.Utf8

/-- The bytes of a text are those of its characters. -/
theorem encode_eq_flatMap (s : String) : encode s = s.toList.flatMap String.utf8EncodeChar := by
  have h := String.utf8Encode_toList (b := s)
  show s.toByteArray.data.toList = _
  rw [← h]
  simp [List.utf8Encode]

@[simp] theorem encode_append (s t : String) : encode (s ++ t) = encode s ++ encode t := by
  simp only [encode_eq_flatMap, String.toList_append, List.flatMap_append]

theorem encode_injective {s t : String} (h : encode s = encode t) : s = t := by
  have hdecode := congrArg decode? h
  rw [decode?_encode, decode?_encode] at hdecode
  exact Option.some.inj hdecode

/-! ## One character -/

section ReadChar

variable {v : Nat} {b c d e : UInt8} {rest : List UInt8}

theorem isContinuation_iff : isContinuation b = true ↔ 0x80 ≤ b.toNat ∧ b.toNat ≤ 0xbf := by
  simp [isContinuation, UInt8.le_iff_toNat_le]

theorem isSecond_iff :
    isSecond b c = true ↔
      (0x80 ≤ c.toNat ∧ c.toNat ≤ 0xbf)
        ∧ (b.toNat = 0xe0 → 0xa0 ≤ c.toNat) ∧ (b.toNat = 0xed → c.toNat ≤ 0x9f)
        ∧ (b.toNat = 0xf0 → 0x90 ≤ c.toNat) ∧ (b.toNat = 0xf4 → c.toNat ≤ 0x8f) := by
  simp only [isSecond, isContinuation, beq_iff_eq, ← UInt8.toNat_inj, UInt8.reduceToNat]
  repeat' split
  all_goals
    simp only [Bool.and_eq_true, decide_eq_true_eq, UInt8.le_iff_toNat_le, UInt8.reduceToNat]
    omega

theorem readChar_one (hb : b.toNat = v) (hv : v < 0x80) :
    readChar b rest = (some (Char.ofNat v), rest) := by
  simp [readChar, UInt8.lt_iff_toNat_lt, hb, hv]

theorem readChar_two (hv : 0x80 ≤ v ∧ v < 0x800) (hb : b.toNat = v / 64 + 0xc0)
    (hc : c.toNat = v % 64 + 0x80) :
    readChar b (c :: rest) = (some (Char.ofNat v), rest) := by
  have hsecond : isSecond b c = true := isSecond_iff.mpr (by omega)
  have hbits : charOfBits (b.toNat % 32) [c] = Char.ofNat v := by
    simp only [charOfBits, List.foldl_cons, List.foldl_nil]
    congr 1
    omega
  have h1 : ¬b < 0x80 := by simp only [UInt8.lt_iff_toNat_lt, UInt8.reduceToNat]; omega
  have h2 : (0xc2 ≤ b && b ≤ 0xdf) = true := by
    simp only [Bool.and_eq_true, decide_eq_true_eq, UInt8.le_iff_toNat_le, UInt8.reduceToNat]
    omega
  unfold readChar
  simp only [if_neg h1, if_pos h2, hsecond, hbits, if_true]

theorem readChar_three (hv : 0x800 ≤ v ∧ v < 0x10000) (hscalar : v < 0xd800 ∨ 0xdfff < v)
    (hb : b.toNat = v / 4096 + 0xe0) (hc : c.toNat = v / 64 % 64 + 0x80)
    (hd : d.toNat = v % 64 + 0x80) :
    readChar b (c :: d :: rest) = (some (Char.ofNat v), rest) := by
  have hsecond : isSecond b c = true := isSecond_iff.mpr (by omega)
  have hthird : isContinuation d = true := isContinuation_iff.mpr (by omega)
  have hbits : charOfBits (b.toNat % 16) [c, d] = Char.ofNat v := by
    simp only [charOfBits, List.foldl_cons, List.foldl_nil]
    congr 1
    omega
  have h1 : ¬b < 0x80 := by simp only [UInt8.lt_iff_toNat_lt, UInt8.reduceToNat]; omega
  have h2 : ¬(0xc2 ≤ b && b ≤ 0xdf) = true := by
    simp only [Bool.and_eq_true, decide_eq_true_eq, UInt8.le_iff_toNat_le, UInt8.reduceToNat]
    omega
  have h3 : (0xe0 ≤ b && b ≤ 0xef) = true := by
    simp only [Bool.and_eq_true, decide_eq_true_eq, UInt8.le_iff_toNat_le, UInt8.reduceToNat]
    omega
  unfold readChar
  simp only [if_neg h1, if_neg h2, if_pos h3, hsecond, hthird, hbits, if_true]

theorem readChar_four (hv : 0x10000 ≤ v ∧ v < 0x110000) (hb : b.toNat = v / 262144 + 0xf0)
    (hc : c.toNat = v / 4096 % 64 + 0x80) (hd : d.toNat = v / 64 % 64 + 0x80)
    (he : e.toNat = v % 64 + 0x80) :
    readChar b (c :: d :: e :: rest) = (some (Char.ofNat v), rest) := by
  have hsecond : isSecond b c = true := isSecond_iff.mpr (by omega)
  have hthird : isContinuation d = true := isContinuation_iff.mpr (by omega)
  have hfourth : isContinuation e = true := isContinuation_iff.mpr (by omega)
  have hbits : charOfBits (b.toNat % 8) [c, d, e] = Char.ofNat v := by
    simp only [charOfBits, List.foldl_cons, List.foldl_nil]
    congr 1
    omega
  have h1 : ¬b < 0x80 := by simp only [UInt8.lt_iff_toNat_lt, UInt8.reduceToNat]; omega
  have h2 : ¬(0xc2 ≤ b && b ≤ 0xdf) = true := by
    simp only [Bool.and_eq_true, decide_eq_true_eq, UInt8.le_iff_toNat_le, UInt8.reduceToNat]
    omega
  have h3 : ¬(0xe0 ≤ b && b ≤ 0xef) = true := by
    simp only [Bool.and_eq_true, decide_eq_true_eq, UInt8.le_iff_toNat_le, UInt8.reduceToNat]
    omega
  have h4 : (0xf0 ≤ b && b ≤ 0xf4) = true := by
    simp only [Bool.and_eq_true, decide_eq_true_eq, UInt8.le_iff_toNat_le, UInt8.reduceToNat]
    omega
  unfold readChar
  simp only [if_neg h1, if_neg h2, if_neg h3, if_pos h4, hsecond, hthird, hfourth, hbits, if_true]

end ReadChar

/-- The code of a character is read back, whatever follows it. -/
theorem readChar_encodeChar (c : Char) (rest : List UInt8) :
    ∃ b tail, String.utf8EncodeChar c = b :: tail ∧ readChar b (tail ++ rest) = (some c, rest) := by
  have hvalid : c.val.toNat < 0xd800 ∨ 0xdfff < c.val.toNat ∧ c.val.toNat < 0x110000 := c.valid
  have hchar : Char.ofNat c.val.toNat = c := Char.ofNat_toNat c
  generalize hv : c.val.toNat = v at hvalid hchar
  unfold String.utf8EncodeChar
  simp only [hv]
  by_cases h1 : v ≤ 0x7f
  · rw [if_pos h1]
    refine ⟨_, [], rfl, ?_⟩
    rw [readChar_one (v := v) (by simp only [UInt8.toNat_ofNat']; omega) (by omega), hchar]
    rfl
  · rw [if_neg h1]
    by_cases h2 : v ≤ 0x7ff
    · rw [if_pos h2]
      refine ⟨_, [_], rfl, ?_⟩
      rw [List.singleton_append, readChar_two (v := v) (by omega), hchar]
      all_goals simp only [UInt8.toNat_ofNat']; omega
    · rw [if_neg h2]
      by_cases h3 : v ≤ 0xffff
      · rw [if_pos h3]
        refine ⟨_, [_, _], rfl, ?_⟩
        rw [List.cons_append, List.singleton_append,
          readChar_three (v := v) (by omega) (by omega), hchar]
        all_goals simp only [UInt8.toNat_ofNat']; omega
      · rw [if_neg h3]
        refine ⟨_, [_, _, _], rfl, ?_⟩
        rw [List.cons_append, List.cons_append, List.singleton_append,
          readChar_four (v := v) (by omega), hchar]
        all_goals simp only [UInt8.toNat_ofNat']; omega

/-! ## Texts -/

theorem lenientFrom_flatMap (acc cs : List Char) :
    lenientFrom acc (cs.flatMap String.utf8EncodeChar) = acc.reverse ++ cs := by
  induction cs generalizing acc with
  | nil => simp [lenientFrom]
  | cons c cs ih =>
      obtain ⟨b, tail, hcode, hread⟩ := readChar_encodeChar c (cs.flatMap String.utf8EncodeChar)
      rw [List.flatMap_cons, hcode, List.cons_append, lenientFrom, hread]
      simp [ih]

/-- Lenient reading reads every text back from its bytes. -/
theorem decodeLenient_encode (s : String) : decodeLenient (encode s) = s := by
  rw [decodeLenient, encode_eq_flatMap, lenientFrom_flatMap]
  simp

/-! ## ASCII -/

theorem encodeChar_of_ascii {c : Char} (hc : c.toNat < 128) :
    String.utf8EncodeChar c = [UInt8.ofNat c.toNat] := by
  unfold String.utf8EncodeChar
  have h : c.val.toNat ≤ 0x7f := by
    have heq : c.val.toNat = c.toNat := rfl
    omega
  exact if_pos h

/-- A text of ASCII has one byte for each character. -/
theorem encode_of_ascii {s : String} (hs : ∀ c ∈ s.toList, c.toNat < 128) :
    encode s = s.toList.map fun c => UInt8.ofNat c.toNat := by
  rw [encode_eq_flatMap]
  generalize s.toList = cs at hs
  induction cs with
  | nil => rfl
  | cons c cs ih =>
      rw [List.flatMap_cons, encodeChar_of_ascii (hs c (by simp)),
        ih fun x hx => hs x (List.mem_cons_of_mem _ hx)]
      rfl

end MenuHost.Text.Utf8
