import MenuHost.Gzip.Inflate

/-!
# Gzip files

The content of a gzip file: that of its members, one after the other. A member is
a header with optional fields, a deflated stream, and the checksum and length of
its content, which must be right. Nothing but members may stand in a file.
-/

namespace MenuHost.Gzip

/-! ## Checksums -/

/-- One bit of the checksum's division. -/
def crcStep (crc : UInt32) : UInt32 :=
  if crc &&& 1 = 1 then (crc >>> 1) ^^^ 0xedb88320 else crc >>> 1

def crcByte (crc : UInt32) (b : UInt8) : UInt32 :=
  Nat.repeat crcStep 8 (crc ^^^ b.toUInt32)

def crc (bytes : List UInt8) : UInt32 :=
  bytes.foldl crcByte 0xffffffff ^^^ 0xffffffff

/-! ## Bytes -/

def dropExactly (n : Nat) (bytes : List UInt8) : Option (List UInt8) :=
  if bytes.length < n then none else some (bytes.drop n)

/-- The number of some bytes, the lowest first. -/
def numberOf (bytes : List UInt8) : Nat :=
  bytes.foldr (fun b n => b.toNat + 256 * n) 0

def readNumber (size : Nat) (bytes : List UInt8) : Option (Nat × List UInt8) :=
  (dropExactly size bytes).map (numberOf (bytes.take size), ·)

/-! ## Headers -/

def maxTextLength : Nat := 65535

/-- Drops a text and the zero behind it. -/
def dropText (bytes : List UInt8) : Option (List UInt8) :=
  let text := bytes.takeWhile (· != 0)
  if maxTextLength < text.length then none else dropExactly 1 (bytes.drop text.length)

/-- Drops the optional fields of a header: extra data, name and comment. -/
def dropFields (flags : UInt8) (bytes : List UInt8) : Option (List UInt8) := do
  let bytes ←
    if flags &&& 4 = 0 then some bytes
    else do
      let (size, rest) ← readNumber 2 bytes
      dropExactly size rest
  let bytes ← if flags &&& 8 = 0 then some bytes else dropText bytes
  if flags &&& 16 = 0 then some bytes else dropText bytes

/-- Drops the checksum of a header, if it is right. -/
def dropChecksum (header bytes : List UInt8) : Option (List UInt8) := do
  let (sum, rest) ← readNumber 2 bytes
  if (crc header).toNat % 65536 = sum then some rest else none

/-- The flags without a meaning, which must not be set. -/
def reservedFlags : UInt8 := 0xe0

/-- The deflated stream behind the header. -/
def dropHeader (bytes : List UInt8) : Option (List UInt8) :=
  match bytes with
  | 0x1f :: 0x8b :: 8 :: flags :: rest => do
    if flags &&& reservedFlags ≠ 0 then none
    let rest ← dropFields flags (← dropExactly 6 rest)
    if flags &&& 2 = 0 then some rest
    else dropChecksum (bytes.take (bytes.length - rest.length)) rest
  | _ => none

/-! ## Members -/

/-- Reads a member: its content, and what stands behind it. -/
def readMember (bytes : List UInt8) : Option (List UInt8 × List UInt8) := do
  let stream ← dropHeader bytes
  let (out, bits) ← inflate (bitsOf stream)
  let content := out.toList
  let (sum, rest) ← readNumber 4 (stream.drop (stream.length - bits.length / 8))
  let (size, rest) ← readNumber 4 rest
  if (crc content).toNat = sum ∧ content.length % 4294967296 = size then some (content, rest)
  else none

/-- Reads members up to the end, of which there are at most as many as bytes. -/
def readMembers : (fuel : Nat) → List UInt8 → Option (List UInt8)
  | 0, _ => none
  | fuel + 1, bytes => do
    let (content, rest) ← readMember bytes
    if rest.isEmpty then some content
    else do
      let more ← readMembers fuel rest
      some (content ++ more)

/-- The content of a gzip file, if it is one. -/
def decode? (bytes : List UInt8) : Option (List UInt8) :=
  readMembers bytes.length bytes

end MenuHost.Gzip
