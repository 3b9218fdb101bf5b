import MenuHost.Http.Form
import MenuHost.Proofs.Text.Split
import MenuHost.Proofs.Text.Utf8
import Mathlib.Data.List.Forall2

/-!
# Forms, written in any way

Browsers and libraries differ in which bytes of a form they escape, and
in the case of the digits. `Writes` therefore is a relation and not a
function: a form can be written in many ways, and `decode_of_writes`
says that all of them are read as the same pairs. `encode` is one of the
ways (`writes_encode`).

The reader turns plus signs into spaces before it looks at escapes. That
is sound because the digits of an escape are no plus signs, and they are
no separators either, so neither step can take an escape apart.
-/

namespace MenuHost.Http.Form

def percentSign : UInt8 := 0x25

/-- The ways to write a byte of a name or value: as itself, unless it means
something in forms, a space as a plus sign, and any byte as an escape. -/
inductive WritesByte : UInt8 → List UInt8 → Prop where
  | asItself {b : UInt8} (h : b ∉ [plus, percentSign, pairSeparator, valueSeparator]) :
      WritesByte b [b]
  | asPlus : WritesByte space [plus]
  | asEscape {b high low : UInt8} (h : Percent.byte? high low = some b) :
      WritesByte b [percentSign, high, low]

/-- Bytes one after the other. -/
inductive WritesBytes : List UInt8 → List UInt8 → Prop where
  | nil : WritesBytes [] []
  | cons {b : UInt8} {bytes written rest : List UInt8} (h : WritesByte b written)
      (hrest : WritesBytes bytes rest) : WritesBytes (b :: bytes) (written ++ rest)

/-- A name and a value with the equals sign between them. -/
def WritesPair (pair : String × String) (written : List UInt8) : Prop :=
  ∃ name value, written = name ++ valueSeparator :: value
    ∧ WritesBytes (Text.Utf8.encode pair.1) name ∧ WritesBytes (Text.Utf8.encode pair.2) value

/-- Pairs with ampersands between them. -/
def Writes (pairs : List (String × String)) (written : List UInt8) : Prop :=
  ∃ parts, written = [pairSeparator].intercalate parts ∧ List.Forall₂ WritesPair pairs parts

/-! ## Escapes -/

theorem hexValue?_of_byte? {high low b : UInt8} (h : Percent.byte? high low = some b) :
    Percent.hexValue? high ≠ none ∧ Percent.hexValue? low ≠ none := by
  unfold Percent.byte? at h
  split at h
  · next hhigh hlow => simp [hhigh, hlow]
  · cases h

/-- The digits of an escape are none of the marks of forms. -/
theorem ne_of_hexValue? {digit mark : UInt8} (h : Percent.hexValue? digit ≠ none)
    (hmark : Percent.hexValue? mark = none) : digit ≠ mark := fun heq => h (heq ▸ hmark)

theorem decodeFrom_cons_of_ne {b : UInt8} (h : b ≠ percentSign) (acc rest : List UInt8) :
    Percent.decodeFrom acc (b :: rest) = Percent.decodeFrom (b :: acc) rest := by
  rw [Percent.decodeFrom]
  exact fun _ _ _ heq => absurd heq h

theorem decodeFrom_escape {high low b : UInt8} (h : Percent.byte? high low = some b)
    (acc rest : List UInt8) :
    Percent.decodeFrom acc (percentSign :: high :: low :: rest) =
      Percent.decodeFrom (b :: acc) rest := by
  rw [percentSign, Percent.decodeFrom, h]

theorem decodeFrom_of_notMem {bytes : List UInt8} (h : percentSign ∉ bytes) (acc : List UInt8) :
    Percent.decodeFrom acc bytes = acc.reverse ++ bytes := by
  induction bytes generalizing acc with
  | nil => rw [Percent.decodeFrom, List.append_nil]
  | cons b rest ih =>
      obtain ⟨hb, hrest⟩ := not_or.mp (mt List.mem_cons.mpr h)
      rw [decodeFrom_cons_of_ne (Ne.symm hb), ih hrest, List.reverse_cons, List.append_assoc]
      rfl

/-- Without a percent sign nothing is escaped. -/
theorem decode_of_notMem {bytes : List UInt8} (h : percentSign ∉ bytes) :
    Percent.decode bytes = bytes := decodeFrom_of_notMem h []

/-! ## Reading names and values -/

/-- No way of writing a byte uses a separator. -/
theorem WritesByte.notMem {b : UInt8} {written : List UInt8} (h : WritesByte b written) :
    pairSeparator ∉ written ∧ valueSeparator ∉ written := by
  cases h with
  | asItself h =>
      simp only [List.mem_cons, List.not_mem_nil, or_false, not_or] at h ⊢
      exact ⟨Ne.symm h.2.2.1, Ne.symm h.2.2.2⟩
  | asPlus => decide
  | asEscape h =>
      obtain ⟨hhigh, hlow⟩ := hexValue?_of_byte? h
      have hdigits : ∀ mark, mark ≠ percentSign → Percent.hexValue? mark = none →
          ∀ high low, Percent.hexValue? high ≠ none → Percent.hexValue? low ≠ none →
          mark ∉ [percentSign, high, low] := by
        intro mark hmark hnone high low hhigh hlow
        simp only [List.mem_cons, List.not_mem_nil, or_false, not_or]
        exact ⟨hmark, (ne_of_hexValue? hhigh hnone).symm, (ne_of_hexValue? hlow hnone).symm⟩
      exact ⟨hdigits _ (by decide) (by decide) _ _ hhigh hlow,
        hdigits _ (by decide) (by decide) _ _ hhigh hlow⟩

theorem WritesBytes.notMem {bytes written : List UInt8} (h : WritesBytes bytes written) :
    pairSeparator ∉ written ∧ valueSeparator ∉ written := by
  induction h with
  | nil => exact ⟨List.not_mem_nil, List.not_mem_nil⟩
  | cons h hrest ih =>
      have hbyte := h.notMem
      simp only [List.mem_append, not_or]
      exact ⟨⟨hbyte.1, ih.1⟩, hbyte.2, ih.2⟩

/-- The reader takes in one written byte. -/
theorem WritesByte.decodeFrom {b : UInt8} {written : List UInt8} (h : WritesByte b written)
    (acc rest : List UInt8) :
    Percent.decodeFrom acc ((written.map fun b => if b = plus then space else b) ++ rest) =
      Percent.decodeFrom (b :: acc) rest := by
  cases h with
  | asItself h =>
      simp only [List.mem_cons, List.not_mem_nil, or_false, not_or] at h
      rw [List.map_singleton, if_neg h.1, List.singleton_append, decodeFrom_cons_of_ne h.2.1]
  | asPlus =>
      rw [List.map_singleton, if_pos rfl, List.singleton_append, decodeFrom_cons_of_ne (by decide)]
  | asEscape h =>
      obtain ⟨hhigh, hlow⟩ := hexValue?_of_byte? h
      have hplus : Percent.hexValue? plus = none := by decide
      simp only [List.map_cons, List.map_nil, if_neg (ne_of_hexValue? hhigh hplus),
        if_neg (ne_of_hexValue? hlow hplus)]
      exact decodeFrom_escape h acc rest

theorem WritesBytes.decodeFrom {bytes written : List UInt8} (h : WritesBytes bytes written)
    (acc : List UInt8) :
    Percent.decodeFrom acc (written.map fun b => if b = plus then space else b) =
      acc.reverse ++ bytes := by
  -- what was read so far is general, because each byte moves over to it
  induction h generalizing acc with
  | nil => rw [List.map_nil, Percent.decodeFrom, List.append_nil]
  | cons h hrest ih =>
      rw [List.map_append, h.decodeFrom, ih, List.reverse_cons, List.append_assoc]
      rfl

theorem decodeText_of_writes {s : String} {written : List UInt8}
    (h : WritesBytes (Text.Utf8.encode s) written) : decodeText written = s := by
  rw [decodeText, Percent.decode, h.decodeFrom, List.reverse_nil, List.nil_append,
    Text.Utf8.decodeLenient_encode]

/-! ## Reading pairs -/

theorem WritesPair.notMem {pair : String × String} {written : List UInt8}
    (h : WritesPair pair written) : pairSeparator ∉ written := by
  obtain ⟨name, value, rfl, hname, hvalue⟩ := h
  simp only [List.mem_append, List.mem_cons, not_or]
  exact ⟨hname.notMem.1, by decide, hvalue.notMem.1⟩

theorem WritesPair.isEmpty {pair : String × String} {written : List UInt8}
    (h : WritesPair pair written) : written.isEmpty = false := by
  obtain ⟨name, value, rfl, -, -⟩ := h
  simp

theorem decodePair_of_writes {pair : String × String} {written : List UInt8}
    (h : WritesPair pair written) : decodePair written = pair := by
  obtain ⟨name, value, rfl, hname, hvalue⟩ := h
  rw [decodePair, Text.cut_append_cons hname.notMem.2]
  simp only [decodeText_of_writes hname, decodeText_of_writes hvalue]

/-- The pairs of a body of joined parts, none of which is empty. -/
theorem decode_intercalate {parts : List (List UInt8)} (hsep : ∀ p ∈ parts, pairSeparator ∉ p)
    (hempty : ∀ p ∈ parts, p.isEmpty = false) :
    decode ([pairSeparator].intercalate parts) = parts.map decodePair := by
  have hfilter : parts.filter (!·.isEmpty) = parts :=
    List.filter_eq_self.mpr fun p hp => by rw [hempty p hp]; rfl
  cases parts with
  | nil => rfl
  | cons part parts => rw [decode, List.splitOn_intercalate _ hsep (List.cons_ne_nil _ _), hfilter]

theorem parts_of_writes {pairs : List (String × String)} {parts : List (List UInt8)}
    (h : List.Forall₂ WritesPair pairs parts) :
    (∀ p ∈ parts, pairSeparator ∉ p ∧ p.isEmpty = false) ∧ parts.map decodePair = pairs := by
  induction h with
  | nil => exact ⟨by simp, rfl⟩
  | cons hpair hrest ih =>
      refine ⟨fun p hp => ?_, ?_⟩
      · rcases List.mem_cons.mp hp with rfl | hp
        · exact ⟨hpair.notMem, hpair.isEmpty⟩
        · exact ih.1 p hp
      · rw [List.map_cons, decodePair_of_writes hpair, ih.2]

/-- **Reading a form back.** However a form is written, it is read as its pairs. -/
theorem decode_of_writes {pairs : List (String × String)} {written : List UInt8}
    (h : Writes pairs written) : decode written = pairs := by
  obtain ⟨parts, rfl, hparts⟩ := h
  obtain ⟨hall, hpairs⟩ := parts_of_writes hparts
  rw [decode_intercalate (fun p hp => (hall p hp).1) fun p hp => (hall p hp).2, hpairs]

/-! ## The encoder -/

theorem hexValue?_hexDigit {n : UInt8} (h : n < 16) :
    Percent.hexValue? (Percent.hexDigit n) = some n := by
  have hall : ∀ k < 16, Percent.hexValue? (Percent.hexDigit (UInt8.ofNat k))
      = some (UInt8.ofNat k) := by decide
  simpa using hall n.toNat (UInt8.lt_iff_toNat_lt.mp h)

theorem byte?_hexDigit (b : UInt8) :
    Percent.byte? (Percent.hexDigit (b / 16)) (Percent.hexDigit (b % 16)) = some b := by
  have hb := b.toNat_lt
  have hhigh : b / 16 < 16 := by
    simp only [UInt8.lt_iff_toNat_lt, UInt8.toNat_div, UInt8.reduceToNat]
    omega
  have hlow : b % 16 < 16 := by
    simp only [UInt8.lt_iff_toNat_lt, UInt8.toNat_mod, UInt8.reduceToNat]
    omega
  have hsum : 16 * (b / 16) + b % 16 = b := by
    rw [← UInt8.toNat_inj]
    simp only [UInt8.toNat_add, UInt8.toNat_mul, UInt8.toNat_div, UInt8.toNat_mod,
      UInt8.reduceToNat]
    omega
  rw [Percent.byte?, hexValue?_hexDigit hhigh, hexValue?_hexDigit hlow]
  exact congrArg some hsum

theorem writesByte_encodeByte (b : UInt8) : WritesByte b (encodeByte b) := by
  unfold encodeByte
  split
  · next hspace => exact hspace ▸ .asPlus
  · split
    · next hplain =>
        refine .asItself fun hmark => ?_
        have hmarks : ∀ mark ∈ [plus, percentSign, pairSeparator, valueSeparator],
            isPlain mark = false := Text.forall_mem_of_all (by decide)
        rw [hmarks b hmark] at hplain
        cases hplain
    · exact .asEscape (byte?_hexDigit b)

theorem writesBytes_flatMap (bytes : List UInt8) :
    WritesBytes bytes (bytes.flatMap encodeByte) := by
  induction bytes with
  | nil => exact .nil
  | cons b bytes ih => exact .cons (writesByte_encodeByte b) ih

/-- The encoder is one way to write a form. -/
theorem writes_encode (pairs : List (String × String)) : Writes pairs (encode pairs) := by
  refine ⟨_, rfl, ?_⟩
  induction pairs with
  | nil => exact .nil
  | cons pair pairs ih =>
      exact .cons ⟨_, _, rfl, writesBytes_flatMap _, writesBytes_flatMap _⟩ ih

end MenuHost.Http.Form
