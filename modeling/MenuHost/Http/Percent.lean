/-!
# Percent encoding

Bytes written as a percent sign and two hexadecimal digits of either case. A
percent sign that no two digits follow stands for itself.
-/

namespace MenuHost.Http.Percent

def hexValue? (b : UInt8) : Option UInt8 :=
  if 0x30 ≤ b && b ≤ 0x39 then some (b - 0x30)
  else if 0x41 ≤ b && b ≤ 0x46 then some (b - 0x41 + 10)
  else if 0x61 ≤ b && b ≤ 0x66 then some (b - 0x61 + 10)
  else none

def byte? (high low : UInt8) : Option UInt8 :=
  match hexValue? high, hexValue? low with
  | some h, some l => some (16 * h + l)
  | _, _ => none

/-- Decodes on after the bytes `acc`, the last one first. -/
def decodeFrom (acc : List UInt8) : List UInt8 → List UInt8
  | [] => acc.reverse
  | 0x25 :: high :: low :: rest =>
    match byte? high low with
    | some b => decodeFrom (b :: acc) rest
    | none => decodeFrom (0x25 :: acc) (high :: low :: rest)
  | b :: rest => decodeFrom (b :: acc) rest
termination_by bytes => bytes.length

def decode (bytes : List UInt8) : List UInt8 :=
  decodeFrom [] bytes

def hexDigit (n : UInt8) : UInt8 :=
  if n < 10 then 0x30 + n else 0x41 + (n - 10)

/-- A byte as a percent sign and two digits. -/
def escape (b : UInt8) : List UInt8 :=
  [0x25, hexDigit (b / 16), hexDigit (b % 16)]

end MenuHost.Http.Percent
