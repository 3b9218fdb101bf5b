/-!
# Unpadded base64

Two alphabets of 64 digits and the code between bytes and digits without
padding: the standard alphabet is that of stored password records,
the URL-safe one that of session tokens.

Reading is strict: a last group of one digit, and bits of the last digit that no
byte takes up, are refused. So every list of bytes has one text.
-/

namespace MenuHost

/-- The alphabets; they differ in their last two digits. -/
inductive Base64 where
  | standard
  | urlSafe
deriving Repr, DecidableEq

namespace Base64

/-- The digit of value `62`, then of value `63`. -/
def lastDigits : Base64 → Char × Char
  | .standard => ('+', '/')
  | .urlSafe => ('-', '_')

/-- The digit of a value below 64. -/
def digit (a : Base64) (n : Nat) : Char :=
  if n < 26 then Char.ofNat ('A'.toNat + n)
  else if n < 52 then Char.ofNat ('a'.toNat + (n - 26))
  else if n < 62 then Char.ofNat ('0'.toNat + (n - 52))
  else if n = 62 then a.lastDigits.1
  else a.lastDigits.2

def value? (a : Base64) (c : Char) : Option Nat :=
  if 'A' ≤ c ∧ c ≤ 'Z' then some (c.toNat - 'A'.toNat)
  else if 'a' ≤ c ∧ c ≤ 'z' then some (c.toNat - 'a'.toNat + 26)
  else if '0' ≤ c ∧ c ≤ '9' then some (c.toNat - '0'.toNat + 52)
  else if c = a.lastDigits.1 then some 62
  else if c = a.lastDigits.2 then some 63
  else none

/-- Three bytes become four digits; one or two bytes at the end become two or
three, the missing bits being zero. -/
def encode (a : Base64) : List UInt8 → List Char
  | x :: y :: z :: rest =>
    let n := x.toNat * 65536 + y.toNat * 256 + z.toNat
    a.digit (n / 262144) :: a.digit (n / 4096 % 64) :: a.digit (n / 64 % 64) ::
      a.digit (n % 64) :: encode a rest
  | [x, y] =>
    let n := x.toNat * 1024 + y.toNat * 4
    [a.digit (n / 4096), a.digit (n / 64 % 64), a.digit (n % 64)]
  | [x] =>
    let n := x.toNat * 16
    [a.digit (n / 64), a.digit (n % 64)]
  | [] => []

/-- The bytes of a text, if it is one that `encode` writes. -/
def decode (a : Base64) : List Char → Option (List UInt8)
  | c :: d :: e :: f :: rest => do
    let n := (← a.value? c) * 262144 + (← a.value? d) * 4096 + (← a.value? e) * 64 + (← a.value? f)
    let bytes ← decode a rest
    some ((n / 65536).toUInt8 :: (n / 256 % 256).toUInt8 :: (n % 256).toUInt8 :: bytes)
  | [c, d, e] => do
    let n := (← a.value? c) * 4096 + (← a.value? d) * 64 + (← a.value? e)
    if n % 4 = 0 then some [(n / 1024).toUInt8, (n / 4 % 256).toUInt8] else none
  | [c, d] => do
    let n := (← a.value? c) * 64 + (← a.value? d)
    if n % 16 = 0 then some [(n / 16).toUInt8] else none
  | [_] => none
  | [] => some []

/-- The number of bytes that `n` digits hold. -/
def decodedLength (n : Nat) : Nat :=
  3 * (n / 4) + 3 * (n % 4) / 4

end Base64

end MenuHost
