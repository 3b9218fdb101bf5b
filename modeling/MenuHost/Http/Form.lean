import MenuHost.Http.Percent
import MenuHost.Text.Split
import MenuHost.Text.Utf8

/-!
# Forms

The encoding in which browsers send forms: pairs between ampersands, each cut at
its first equals sign, with plus signs for spaces and percent escapes for bytes.
Names and values are UTF-8 and read leniently. Empty pairs are passed over, and a
pair without an equals sign has an empty value.
-/

namespace MenuHost.Http.Form

def pairSeparator : UInt8 := 0x26

def valueSeparator : UInt8 := 0x3d

def plus : UInt8 := 0x2b

def space : UInt8 := 0x20

def decodeText (bytes : List UInt8) : String :=
  Text.Utf8.decodeLenient (Percent.decode (bytes.map fun b => if b = plus then space else b))

def decodePair (bytes : List UInt8) : String × String :=
  match Text.cut valueSeparator bytes with
  | some (name, value) => (decodeText name, decodeText value)
  | none => (decodeText bytes, "")

def decode (bytes : List UInt8) : List (String × String) :=
  ((bytes.splitOn pairSeparator).filter (!·.isEmpty)).map decodePair

/-! ## Writing -/

/-- Whether a byte stands for itself: letters, digits and `*-._`. -/
def isPlain (b : UInt8) : Bool :=
  (0x30 ≤ b && b ≤ 0x39) || (0x41 ≤ b && b ≤ 0x5a) || (0x61 ≤ b && b ≤ 0x7a) ||
    b == 0x2a || b == 0x2d || b == 0x2e || b == 0x5f

def encodeByte (b : UInt8) : List UInt8 :=
  if b = space then [plus] else if isPlain b then [b] else Percent.escape b

def encodeText (s : String) : List UInt8 :=
  (Text.Utf8.encode s).flatMap encodeByte

def encode (pairs : List (String × String)) : List UInt8 :=
  [pairSeparator].intercalate
    (pairs.map fun (name, value) => encodeText name ++ valueSeparator :: encodeText value)

end MenuHost.Http.Form
