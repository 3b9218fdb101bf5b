import Mathlib.Data.List.Induction
import MenuHost.Proofs.Password.Record
import MenuHost.Proofs.Reading
import MenuHost.Proofs.Text.Split

/-!
# The fields of a password record

Each reader of a field, traded for what it accepts. A field has one text
only: a number is read from its decimal digits and from no others
(`readDecimal_eq_ok_iff`), bytes from what base64 writes for them
(`readBase64_eq_ok_iff`), and a list of parameters from its parameters
with commas between them (`readParameters_eq_ok_iff`). Where a reader
succeeds, the text can therefore be computed from what was read, which is
the form in which the grammar of whole records needs it.

The readers measure in bytes and refuse characters one by one. As
everything that they accept is ASCII, the two amount to a length and a
condition on each character (`IsName`, `IsValue`).
-/

namespace MenuHost.Password

/-! ## Characters -/

/-- A character of a value is one byte long and separates nothing. -/
theorem valueChar_spec {c : Char} (h : isValueChar c = true) :
    c.utf8Size = 1 ∧ c ≠ '$' ∧ c ≠ '=' ∧ c ≠ ',' := by
  refine ⟨?_, ?_, ?_, ?_⟩
  · have hz : c ≤ 'z' := by
      simp only [isValueChar, Bool.or_eq_true, Bool.and_eq_true, decide_eq_true_eq,
        beq_iff_eq] at h
      rcases h with ((((((h | h) | h) | rfl) | rfl) | rfl) | rfl)
      · exact Char.le_trans h.2 (by decide)
      · exact h.2
      · exact Char.le_trans h.2 (by decide)
      all_goals decide
    exact Char.utf8Size_eq_one_iff.mpr (UInt32.le_trans hz (by decide))
  all_goals
    rintro rfl
    revert h
    decide

theorem isValueChar_of_isNameChar {c : Char} (h : isNameChar c = true) : isValueChar c = true := by
  simp only [isNameChar, Bool.or_eq_true] at h
  simp only [isValueChar, Bool.or_eq_true]
  tauto

theorem byteLength_of_isValueChar {cs : List Char} (h : ∀ c ∈ cs, isValueChar c = true) :
    byteLength cs = cs.length :=
  byteLength_of_forall fun c hc => (valueChar_spec (h c hc)).1

/-- A name has 1 to 32 characters. -/
structure IsName (cs : List Char) : Prop where
  least : 1 ≤ cs.length
  most : cs.length ≤ 32
  chars : ∀ c ∈ cs, isNameChar c = true

/-- A value has at most 64 characters. -/
structure IsValue (cs : List Char) : Prop where
  most : cs.length ≤ 64
  chars : ∀ c ∈ cs, isValueChar c = true

theorem IsName.isValue {cs : List Char} (h : IsName cs) : IsValue cs where
  most := Nat.le_trans h.most (by decide)
  chars := fun c hc => isValueChar_of_isNameChar (h.chars c hc)

theorem IsValue.notMem {cs : List Char} (h : IsValue cs) : '$' ∉ cs ∧ '=' ∉ cs ∧ ',' ∉ cs :=
  ⟨fun hc => (valueChar_spec (h.chars _ hc)).2.1 rfl,
    fun hc => (valueChar_spec (h.chars _ hc)).2.2.1 rfl,
    fun hc => (valueChar_spec (h.chars _ hc)).2.2.2 rfl⟩

theorem find?_isValueChar_eq_none_iff {cs : List Char} :
    cs.find? (fun c => !isValueChar c) = none ↔ ∀ c ∈ cs, isValueChar c = true := by
  simp [List.find?_eq_none]

theorem readName_eq_ok_iff {cs name : List Char} :
    readName cs = .ok name ↔ IsName cs ∧ cs = name := by
  unfold readName
  constructor
  · intro h
    split at h
    · next hname =>
        obtain ⟨hleast, hmost, hchars⟩ := hname
        have hchars := List.all_eq_true.mp hchars
        rw [byteLength_of_isValueChar fun c hc => isValueChar_of_isNameChar (hchars c hc)]
          at hleast hmost
        exact ⟨⟨hleast, hmost, hchars⟩, Except.ok.inj h⟩
    · cases h
  · rintro ⟨h, rfl⟩
    rw [byteLength_of_isValueChar h.isValue.chars,
      if_pos ⟨h.least, h.most, List.all_eq_true.mpr h.chars⟩]

theorem readValue_eq_ok_iff {cs value : List Char} :
    readValue cs = .ok value ↔ IsValue cs ∧ cs = value := by
  unfold readValue
  constructor
  · intro h
    split at h
    · cases h
    · next hmost =>
      split at h
      · cases h
      · next hfind =>
        have hchars := find?_isValueChar_eq_none_iff.mp hfind
        rw [byteLength_of_isValueChar hchars] at hmost
        exact ⟨⟨Nat.not_lt.mp hmost, hchars⟩, Except.ok.inj h⟩
  · rintro ⟨h, rfl⟩
    rw [byteLength_of_isValueChar h.chars, if_neg (Nat.not_lt.mpr h.most),
      find?_isValueChar_eq_none_iff.mpr h.chars]

/-! ## Numbers -/

theorem digitChar_of_isDigit {c : Char} (h : c.isDigit = true) :
    Nat.digitChar (c.toNat - '0'.toNat) = c := by
  have hchars : ∀ n < 10, Nat.digitChar n = Char.ofNat ('0'.toNat + n) := by decide
  obtain ⟨hleast, hmost⟩ := Char.isDigit_iff_toNat.mp h
  have hzero : '0'.toNat = 48 := rfl
  have hnine : '9'.toNat = 57 := rfl
  rw [hchars _ (by omega), Nat.add_sub_cancel' hleast, Char.ofNat_toNat]

theorem decimalValue_append_singleton (cs : List Char) (c : Char) :
    decimalValue (cs ++ [c]) = 10 * decimalValue cs + (c.toNat - '0'.toNat) := by
  rw [decimalValue, List.foldl_append]
  rfl

/-- Digits without a leading zero are how their value is written. -/
theorem toDigits_decimalValue {cs : List Char} (hne : cs ≠ [])
    (hdigits : ∀ c ∈ cs, c.isDigit = true) (hlead : cs.head? = some '0' → cs = ['0']) :
    Nat.toDigits 10 (decimalValue cs) = cs := by
  induction cs using List.reverseRecOn with
  | nil => exact absurd rfl hne
  | append_singleton ds c ih =>
      have hc := hdigits c (by simp)
      have hlt : c.toNat - '0'.toNat < 10 := by
        have hmost := (Char.isDigit_iff_toNat.mp hc).2
        have hzero : '0'.toNat = 48 := rfl
        have hnine : '9'.toNat = 57 := rfl
        omega
      have hlast := (Nat.toDigits_of_lt_base hlt).trans (congrArg ([·]) (digitChar_of_isDigit hc))
      rw [decimalValue_append_singleton]
      cases ds with
      | nil =>
          rw [decimalValue, List.foldl_nil, Nat.mul_zero, Nat.zero_add, List.nil_append]
          exact hlast
      | cons first rest =>
          -- the last digit is not the first, so the first is not a zero
          have hfirst : first ≠ '0' := by
            rintro rfl
            simp at hlead
          have hds := ih (by simp) (fun d hd => hdigits d (List.mem_append_left _ hd))
            (fun h => absurd (Option.some.inj h) hfirst)
          have hpos : 0 < decimalValue (first :: rest) := by
            refine Nat.pos_of_ne_zero fun hzero => ?_
            rw [hzero] at hds
            exact hfirst (List.cons.inj hds).1.symm
          rw [← Nat.toDigits_append_toDigits (by decide) hpos hlt, hds, hlast]

theorem head?_toDigits_ne {n : Nat} (h : 0 < n) : (Nat.toDigits 10 n).head? ≠ some '0' := by
  induction n using Nat.strongRecOn with
  | ind n ih =>
      by_cases hn : n < 10
      · have hdigits : ∀ m < 10, 0 < m → Nat.digitChar m ≠ '0' := by decide
        rw [Nat.toDigits_of_lt_base hn]
        exact fun hzero => hdigits n hn h (Option.some.inj hzero)
      · rw [Nat.toDigits_of_base_le (by decide) (Nat.not_lt.mp hn),
          List.head?_append_of_ne_nil _ Nat.toDigits_ne_nil]
        exact ih (n / 10) (by omega) (by omega)

theorem decimalValue_toDigits (n : Nat) : decimalValue (Nat.toDigits 10 n) = n := by
  rw [decimalValue, ← Nat.ofDigitChars_eq_foldl, Nat.ofDigitChars_ten_toDigits]

theorem not_isDigit_eq : (fun c : Char => !('0' ≤ c && c ≤ '9')) = fun c => !c.isDigit := by
  funext c
  simp only [Char.isDigit, Char.le_def]

/-- A number is read from its decimal digits, and from nothing else. -/
theorem readDecimal_eq_ok_iff {cs : List Char} {n : Nat} :
    readDecimal cs = .ok n ↔ cs = Nat.toDigits 10 n ∧ n < decimalLimit := by
  constructor
  · intro h
    cases cs with
    | nil => cases h
    | cons first rest =>
        simp only [readDecimal, not_isDigit_eq] at h
        split at h
        · cases h
        · next hfind =>
          split at h
          · cases h
          · next hgood =>
            obtain ⟨hlead, hlimit⟩ := not_or.mp hgood
            obtain rfl := Except.ok.inj h
            refine ⟨(toDigits_decimalValue (by simp) ?_ ?_).symm, Nat.not_le.mp hlimit⟩
            · simpa using List.find?_eq_none.mp hfind
            · intro hzero
              rw [Option.some.inj hzero] at hlead ⊢
              by_cases hrest : rest = []
              · rw [hrest]
              · exact absurd ⟨rfl, hrest⟩ hlead
  · rintro ⟨rfl, hlimit⟩
    have hdigits : (Nat.toDigits 10 n).find? (fun c => !c.isDigit) = none :=
      List.find?_eq_none.mpr fun c hc => by
        simp [Nat.isDigit_of_mem_toDigits (by decide) (by decide) hc]
    have hvalue := decimalValue_toDigits n
    generalize hcs : Nat.toDigits 10 n = cs at hdigits hvalue
    cases cs with
    | nil => exact absurd hcs Nat.toDigits_ne_nil
    | cons first rest =>
        have hlead : ¬(first = '0' ∧ rest ≠ []) := by
          rintro ⟨rfl, hrest⟩
          by_cases hn : n = 0
          · subst hn
            exact hrest (List.cons.inj hcs).2.symm
          · exact head?_toDigits_ne (Nat.pos_of_ne_zero hn) (by rw [hcs]; rfl)
        simp only [readDecimal, not_isDigit_eq, hdigits, hvalue]
        rw [if_neg (not_or.mpr ⟨hlead, Nat.not_le.mpr hlimit⟩)]

theorem isValueChar_of_isDigit {c : Char} (h : c.isDigit = true) : isValueChar c = true := by
  have hrange : ('0' ≤ c && c ≤ '9') = true := by
    have hfun := congrFun not_isDigit_eq c
    simp only [h, Bool.not_true, Bool.not_eq_false'] at hfun
    exact hfun
  simp only [isValueChar, hrange, Bool.or_true, Bool.true_or]

/-- A number has at most ten digits, which a value admits. -/
theorem isValue_toDigits {n : Nat} (h : n < decimalLimit) : IsValue (Nat.toDigits 10 n) where
  most := by
    have hten : (Nat.toDigits 10 n).length ≤ 10 :=
      (Nat.length_toDigits_le_iff (by decide) (by decide)).mpr (Nat.lt_trans h (by decide))
    omega
  chars := fun _ hc =>
    isValueChar_of_isDigit (Nat.isDigit_of_mem_toDigits (by decide) (by decide) hc)

/-! ## Bytes -/

theorem decodedLength_encode (bytes : List UInt8) :
    Base64.decodedLength (byteLength (Base64.standard.encode bytes)) = bytes.length := by
  rw [byteLength_encode, Base64.decodedLength]
  omega

theorem readBase64_eq_ok_iff {most : Nat} {cs : List Char} {bytes : List UInt8} :
    readBase64 most cs = .ok bytes ↔
      cs = Base64.standard.encode bytes ∧ bytes.length ≤ most := by
  constructor
  · intro h
    unfold readBase64 at h
    split at h
    · cases h
    · next hmost =>
      split at h
      · next hdecode =>
          obtain rfl := Base64.decode_eq_some_iff.mp hdecode
          rw [decodedLength_encode] at hmost
          obtain rfl := Except.ok.inj h
          exact ⟨rfl, Nat.not_lt.mp hmost⟩
      · cases h
  · rintro ⟨rfl, hmost⟩
    exact readBase64_encode hmost

theorem isValue_encode {bytes : List UInt8} (h : bytes.length ≤ 48) :
    IsValue (Base64.standard.encode bytes) where
  most := by
    rw [Base64.length_encode]
    omega
  chars := fun _ hc => (digit_spec hc).2.1

/-- A salt has 4 to 64 characters. -/
structure IsSalt (cs : List Char) : Prop extends IsValue cs where
  least : 4 ≤ cs.length

theorem readSalt_eq_ok_iff {cs salt : List Char} :
    readSalt cs = .ok salt ↔ IsSalt cs ∧ cs = salt := by
  unfold readSalt
  constructor
  · intro h
    split at h
    · cases h
    · next hleast =>
      split at h
      · cases h
      · next hmost =>
        split at h
        · cases h
        · next hfind =>
          have hchars := find?_isValueChar_eq_none_iff.mp hfind
          rw [byteLength_of_isValueChar hchars] at hleast hmost
          exact ⟨⟨⟨Nat.not_lt.mp hmost, hchars⟩, Nat.not_lt.mp hleast⟩, Except.ok.inj h⟩
  · rintro ⟨h, rfl⟩
    rw [byteLength_of_isValueChar h.chars, if_neg (Nat.not_lt.mpr h.least),
      if_neg (Nat.not_lt.mpr h.most), find?_isValueChar_eq_none_iff.mpr h.chars]

/-- An output has 10 to 64 bytes. -/
def IsOutput (bytes : List UInt8) : Prop :=
  10 ≤ bytes.length ∧ bytes.length ≤ 64

theorem readOutput_eq_ok_iff {cs : List Char} {bytes : List UInt8} :
    readOutput cs = .ok bytes ↔ cs = Base64.standard.encode bytes ∧ IsOutput bytes := by
  constructor
  · intro h
    obtain ⟨read, hread, h⟩ := bind_eq_ok_iff.mp h
    obtain ⟨hcs, hmost⟩ := readBase64_eq_ok_iff.mp hread
    split at h
    · cases h
    · next hleast =>
        obtain rfl := Except.ok.inj h
        exact ⟨hcs, Nat.not_lt.mp hleast, hmost⟩
  · rintro ⟨rfl, hleast, hmost⟩
    exact readOutput_encode hleast hmost

/-! ## Parameters -/

/-- A parameter as written: its name and its value around an equals sign. -/
def parameterText (p : List Char × List Char) : List Char :=
  p.1 ++ '=' :: p.2

/-- Parameters as written, with commas between them. -/
def parametersText (ps : List (List Char × List Char)) : List Char :=
  [','].intercalate (ps.map parameterText)

/-- Both sides of a parameter are well-formed. -/
def IsParameter (p : List Char × List Char) : Prop :=
  IsName p.1 ∧ IsValue p.2

theorem readParameter_eq_ok_iff {cs : List Char} {p : List Char × List Char} :
    readParameter cs = .ok p ↔ IsParameter p ∧ cs = parameterText p := by
  obtain ⟨name, value⟩ := p
  constructor
  · intro h
    unfold readParameter at h
    split at h
    · obtain ⟨_, -, h⟩ := bind_eq_ok_iff.mp h
      cases h
    · next left right rest hsplit =>
        obtain ⟨_, hleft, h⟩ := bind_eq_ok_iff.mp h
        obtain ⟨_, hright, h⟩ := bind_eq_ok_iff.mp h
        cases rest with
        | cons surplus rest => cases h
        | nil =>
            cases h
            obtain ⟨hname, rfl⟩ := readName_eq_ok_iff.mp hleft
            obtain ⟨hvalue, rfl⟩ := readValue_eq_ok_iff.mp hright
            have hcs := (Text.splitOn_eq_cons_iff.mp hsplit).2
            rw [List.intercalate_cons_cons, List.intercalate_singleton, List.append_assoc] at hcs
            exact ⟨⟨hname, hvalue⟩, hcs⟩
    · cases h
  · rintro ⟨⟨hname, hvalue⟩, rfl⟩
    rw [readParameter, parameterText,
      List.splitOn_append_cons_self_of_not_mem hname.isValue.notMem.2.1,
      List.splitOn_eq_singleton hvalue.notMem.2.1]
    exact bind_eq_ok_iff.mpr ⟨_, readName_eq_ok_iff.mpr ⟨hname, rfl⟩,
      bind_eq_ok_iff.mpr ⟨_, readValue_eq_ok_iff.mpr ⟨hvalue, rfl⟩, rfl⟩⟩

/-- A parameter is ASCII, and neither a comma nor a dollar sign stands in it. -/
theorem parameterText_spec {p : List Char × List Char} (h : IsParameter p) :
    ∀ c ∈ parameterText p, c.utf8Size = 1 ∧ c ≠ '$' ∧ c ≠ ',' := by
  intro c hc
  rcases List.mem_append.mp hc with hc | hc
  · have hchar := valueChar_spec (h.1.isValue.chars c hc)
    exact ⟨hchar.1, hchar.2.1, hchar.2.2.2⟩
  · rcases List.mem_cons.mp hc with rfl | hc
    · decide
    · have hchar := valueChar_spec (h.2.chars c hc)
      exact ⟨hchar.1, hchar.2.1, hchar.2.2.2⟩

theorem parametersText_spec {ps : List (List Char × List Char)} (h : ∀ p ∈ ps, IsParameter p) :
    ∀ c ∈ parametersText ps, c.utf8Size = 1 ∧ c ≠ '$' := by
  refine Text.forall_mem_intercalate (by decide) fun part hpart c hc => ?_
  obtain ⟨p, hp, rfl⟩ := List.mem_map.mp hpart
  have hchar := parameterText_spec (h p hp) c hc
  exact ⟨hchar.1, hchar.2.1⟩

/-- Parameters are read one by one from what stands between the commas. -/
theorem mapM_readParameter_eq_ok_iff {parts : List (List Char)}
    {ps : List (List Char × List Char)} :
    parts.mapM readParameter = .ok ps ↔
      (∀ p ∈ ps, IsParameter p) ∧ parts = ps.map parameterText := by
  rw [mapM_eq_ok_iff]
  simp only [readParameter_eq_ok_iff]
  exact forall₂_map_iff

theorem readParameters_eq_ok_iff {cs : List Char} {ps : List (List Char × List Char)} :
    readParameters cs = .ok ps ↔
      ps ≠ [] ∧ (∀ p ∈ ps, IsParameter p) ∧ cs.length ≤ 127 ∧ cs = parametersText ps := by
  have hbytes : (∀ p ∈ ps, IsParameter p) →
      byteLength (parametersText ps) = (parametersText ps).length := fun h =>
    byteLength_of_forall fun c hc => (parametersText_spec h c hc).1
  constructor
  · intro h
    unfold readParameters at h
    split at h
    · cases h
    · next hmost =>
        obtain ⟨hparameters, hsplit⟩ := mapM_readParameter_eq_ok_iff.mp h
        have hcs : cs = parametersText ps := by
          rw [parametersText, ← hsplit, List.intercalate_splitOn]
        rw [hcs, hbytes hparameters] at hmost
        refine ⟨?_, hparameters, hcs ▸ Nat.not_lt.mp hmost, hcs⟩
        rintro rfl
        exact List.splitOn_ne_nil _ _ hsplit
  · rintro ⟨hne, hparameters, hmost, rfl⟩
    obtain ⟨p, rest, rfl⟩ := List.exists_cons_of_ne_nil hne
    rw [readParameters, hbytes hparameters, if_neg (Nat.not_lt.mpr hmost)]
    refine mapM_readParameter_eq_ok_iff.mpr ⟨hparameters, ?_⟩
    refine List.splitOn_intercalate ',' (fun part hpart hcomma => ?_) (List.cons_ne_nil _ _)
    obtain ⟨q, hq, rfl⟩ := List.mem_map.mp hpart
    exact (parameterText_spec (hparameters q hq) ',' hcomma).2.2 rfl

end MenuHost.Password
