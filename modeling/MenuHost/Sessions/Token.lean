import MenuHost.Base64

/-!
# Session tokens

A token is the text of 128 random bits in the URL-safe alphabet: 22 digits, of
which the last takes only those values that leave its four spare bits at zero.
-/

namespace MenuHost.Sessions

/-- Bytes in a token. -/
def tokenSize : Nat := 16

abbrev TokenBits := Vector UInt8 tokenSize

def tokenText (bits : TokenBits) : String :=
  String.ofList (Base64.urlSafe.encode bits.toList)

def tokenBits? (text : String) : Option TokenBits :=
  match Base64.urlSafe.decode text.toList with
  | some bytes =>
    if h : bytes.length = tokenSize then some ⟨bytes.toArray, by simp [h]⟩ else none
  | none => none

def isTokenDigit (c : Char) : Bool :=
  (Base64.urlSafe.value? c).isSome

end MenuHost.Sessions
