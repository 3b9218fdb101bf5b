import MenuHost.Proofs.Sessions.Token

/-!
# Tokens and their bits

A token loses none of its 128 bits, and shows nothing else: texts of the form
`IsToken` and vectors of 16 bytes are in one-to-one correspondence, `tokenText`
one way and `tokenBits?` the other (`tokens_are_their_bits`).

The form is said by the characters alone. 22 digits have room for 132 bits, so
not every text of the alphabet is a token; which ones are is seen from the
last digit, where four bits have to be zero. That this suffices is the half
that needs the code to be read back: whatever has the form can be decoded
(`Base64.exists_decode`), and has 16 bytes because of its length.
-/

namespace MenuHost.Sessions

/-! ## The form of tokens -/

/-- Letters and digits of ASCII, the hyphen and the underscore. -/
def IsUrlSafe (c : Char) : Prop :=
  ('A' ≤ c ∧ c ≤ 'Z') ∨ ('a' ≤ c ∧ c ≤ 'z') ∨ ('0' ≤ c ∧ c ≤ '9') ∨ c = '-' ∨ c = '_'

instance (c : Char) : Decidable (IsUrlSafe c) :=
  inferInstanceAs (Decidable (_ ∨ _))

/-- The digits that end a token: their last four bits are zero. -/
def lastTokenDigits : List Char := ['A', 'Q', 'g', 'w']

/-- What a token looks like. -/
structure IsToken (text : String) : Prop where
  length : text.toList.length = 22
  alphabet : ∀ c ∈ text.toList, IsUrlSafe c
  last : ∃ c, text.toList.getLast? = some c ∧ c ∈ lastTokenDigits

theorem isSome_value?_iff {c : Char} : (Base64.urlSafe.value? c).isSome = true ↔ IsUrlSafe c := by
  have hlast : Base64.urlSafe.lastDigits = ('-', '_') := rfl
  rw [Base64.value?, hlast, IsUrlSafe]
  split
  · next hupper => exact iff_of_true rfl (.inl hupper)
  split
  · next hlower => exact iff_of_true rfl (.inr (.inl hlower))
  split
  · next hdigit => exact iff_of_true rfl (.inr (.inr (.inl hdigit)))
  split
  · next hhyphen => exact iff_of_true rfl (.inr (.inr (.inr (.inl hhyphen))))
  split
  · next hunderscore => exact iff_of_true rfl (.inr (.inr (.inr (.inr hunderscore))))
  · next hupper hlower hdigit hhyphen hunderscore =>
      refine iff_of_false Bool.false_ne_true ?_
      rintro (h | h | h | h | h)
      · exact hupper h
      · exact hlower h
      · exact hdigit h
      · exact hhyphen h
      · exact hunderscore h

/-- Of the 64 digits these four are those with four zeros at the end. -/
theorem digit_mem_lastTokenDigits {n : Nat} (h : n < 64) (hspare : n % 16 = 0) :
    Base64.urlSafe.digit n ∈ lastTokenDigits := by
  revert n
  decide

theorem value?_of_mem_lastTokenDigits {c : Char} (h : c ∈ lastTokenDigits) :
    ∃ n, Base64.urlSafe.value? c = some n ∧ n % 16 = 0 := by
  simp only [lastTokenDigits, List.mem_cons, List.not_mem_nil, or_false] at h
  rcases h with rfl | rfl | rfl | rfl
  · exact ⟨0, by decide, rfl⟩
  · exact ⟨16, by decide, rfl⟩
  · exact ⟨32, by decide, rfl⟩
  · exact ⟨48, by decide, rfl⟩

/-! ## From bits to text and back -/

theorem isToken_tokenText (bits : TokenBits) : IsToken (tokenText bits) where
  length := length_tokenText bits
  alphabet := forall_mem_tokenText (by decide) bits
  last := by
    have hone : bits.toList.length % 3 = 1 := by
      rw [bits.length_toList]
      rfl
    obtain ⟨n, hn, hspare, hlast⟩ := Base64.getLast?_encode (a := .urlSafe) hone
    refine ⟨Base64.urlSafe.digit n, ?_, digit_mem_lastTokenDigits hn hspare⟩
    rw [tokenText, String.toList_ofList, hlast]

theorem tokenBits?_eq_some_iff {text : String} {bits : TokenBits} :
    tokenBits? text = some bits ↔ text = tokenText bits := by
  rw [tokenText, ← String.toList_inj, String.toList_ofList, ← Base64.decode_eq_some_iff, tokenBits?]
  constructor
  · intro h
    split at h
    · next bytes hbytes =>
        obtain ⟨hlength, hbits⟩ := Option.dite_none_right_eq_some.mp h
        obtain rfl := Option.some.inj hbits
        simpa using hbytes
    · cases h
  · intro h
    rw [h]
    simp [Vector.toList]

theorem tokenText_injective : Function.Injective tokenText := fun a b h => by
  have ha : tokenBits? (tokenText a) = some a := tokenBits?_eq_some_iff.mpr rfl
  rw [h, tokenBits?_eq_some_iff.mpr rfl] at ha
  exact (Option.some.inj ha).symm

/-- Whatever looks like a token has 16 bytes that it is the token of. -/
theorem exists_bits_of_isToken {text : String} (h : IsToken text) :
    ∃ bits, tokenText bits = text := by
  obtain ⟨hlength, halphabet, last, hlast, hmem⟩ := h
  obtain ⟨n, hvalue, hspare⟩ := value?_of_mem_lastTokenDigits hmem
  have hdigits : ∀ c ∈ text.toList, (Base64.urlSafe.value? c).isSome = true := fun c hc =>
    isSome_value?_iff.mpr (halphabet c hc)
  have htwo : text.toList.length % 4 = 2 := by rw [hlength]
  obtain ⟨bytes, hbytes⟩ := Base64.exists_decode hdigits htwo hlast hvalue hspare
  have htext := Base64.encode_of_decode hbytes
  have hsize : bytes.length = tokenSize := by
    have hcount := Base64.length_encode .urlSafe bytes
    rw [← htext, hlength] at hcount
    have hsixteen : tokenSize = 16 := rfl
    omega
  refine ⟨⟨bytes.toArray, by simpa using hsize⟩, ?_⟩
  rw [tokenText, ← String.toList_inj, String.toList_ofList, htext]
  rfl

/-- **Tokens are their bits.** Every 16 bytes have a token, from which they can be read
back; no two have the same; and every text that looks like a token is one. -/
theorem tokens_are_their_bits :
    (∀ bits : TokenBits,
      IsToken (tokenText bits) ∧ tokenBits? (tokenText bits) = some bits)
    ∧ (∀ bits other : TokenBits, tokenText bits = tokenText other ↔ bits = other)
    ∧ ∀ text : String, IsToken text ↔ ∃ bits, tokenText bits = text := by
  refine ⟨fun bits => ⟨isToken_tokenText bits, tokenBits?_eq_some_iff.mpr rfl⟩,
    fun bits other => tokenText_injective.eq_iff, fun text => ⟨exists_bits_of_isToken, ?_⟩⟩
  rintro ⟨bits, rfl⟩
  exact isToken_tokenText bits

end MenuHost.Sessions
