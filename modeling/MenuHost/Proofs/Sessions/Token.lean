import MenuHost.Proofs.Base64
import MenuHost.Sessions.Token

/-!
# The alphabet of tokens

A token is base64 text, so whatever holds of the 64 digits holds of
every token (`forall_mem_tokenText`). That is how the rest of the library
knows that a token can stand in a header, ends no cookie and has nothing
that a reader would trim.

`IsTokenText` is the same seen from outside. Of the texts that look like
tokens only one in sixteen can be drawn, for the last digit of a token has
four spare bits.
-/

namespace MenuHost.Sessions

theorem forall_mem_tokenText {p : Char → Prop} (h : ∀ n < 64, p (Base64.urlSafe.digit n))
    (bits : TokenBits) : ∀ c ∈ (tokenText bits).toList, p c := by
  rw [tokenText, String.toList_ofList]
  exact Base64.forall_mem_encode h bits.toList

theorem length_tokenText (bits : TokenBits) : (tokenText bits).toList.length = 22 := by
  rw [tokenText, String.toList_ofList, Base64.length_encode, bits.length_toList]
  rfl

theorem tokenText_ne_empty (bits : TokenBits) : tokenText bits ≠ "" := by
  intro h
  have hlen := length_tokenText bits
  rw [h] at hlen
  cases hlen

/-! ## Texts that look like tokens -/

/-- As long as a token and in its alphabet. A browser may send such a text that
was never drawn, and that no draw can yield. -/
def IsTokenText (text : String) : Prop :=
  text.toList.length = 22 ∧ text.toList.all isTokenDigit = true

instance (text : String) : Decidable (IsTokenText text) :=
  inferInstanceAs (Decidable (text.toList.length = 22 ∧ text.toList.all isTokenDigit = true))

theorem isTokenText_tokenText (bits : TokenBits) : IsTokenText (tokenText bits) :=
  ⟨length_tokenText bits, List.all_eq_true.mpr (forall_mem_tokenText (by decide) bits)⟩

end MenuHost.Sessions
