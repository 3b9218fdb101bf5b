/-!
# Inflating

The bytes that a deflated stream stands for. The stream is read bit by
bit; codes are canonical Huffman codes, so the number of codes of each length and
the symbols in order are all there is to know about one.
-/

namespace MenuHost.Gzip

/-- Bits in the order in which they are read. -/
abbrev Bits := List Bool

/-- The bits of a byte, the lowest first. -/
def bitsOfByte (b : UInt8) : Bits :=
  (List.range 8).map b.toNat.testBit

def bitsOf (bytes : List UInt8) : Bits :=
  bytes.flatMap bitsOfByte

/-- Reads a number of some bits, the lowest first. -/
def readBits : (n : Nat) → Bits → Option (Nat × Bits)
  | 0, bits => some (0, bits)
  | _ + 1, [] => none
  | n + 1, bit :: bits => (readBits n bits).map fun (high, rest) => (2 * high + bit.toNat, rest)

/-! ## Huffman codes -/

def maxCodeLength : Nat := 15

/-- A canonical code: how many symbols have each length from 1 on, and the
symbols in the order of their codes. -/
structure Huffman where
  counts : List Nat
  symbols : Array Nat

/-- The code in which the symbols 0, 1, … have the given lengths. -/
def Huffman.ofLengths (lengths : List Nat) : Huffman where
  counts := (List.range maxCodeLength).map fun i => lengths.count (i + 1)
  symbols :=
    ((List.range maxCodeLength).flatMap fun i =>
      (lengths.zipIdx.filter (·.1 = i + 1)).map (·.2)).toArray

/-- Whether every sequence of bits begins with a code. Each code halves the room
that is left at its length; a complete one leaves none. -/
def Huffman.isComplete (h : Huffman) : Bool :=
  h.counts.foldl (fun filled count => 2 * (filled + count)) 0 = 65536

/-- Whether a code may be used: it is complete, or it has no symbol, or a single one
of one bit. -/
def Huffman.isUsable (h : Huffman) : Bool :=
  h.isComplete || h.symbols.isEmpty || (h.symbols.size == 1 && h.counts.head? == some 1)

/-- Reads on in a symbol: `code` are the bits so far, `first` is the first code of
this length and `index` the place of its symbol. -/
def Huffman.readFrom (symbols : Array Nat) :
    (counts : List Nat) → (code first index : Nat) → Bits → Option (Nat × Bits)
  | [], _, _, _, _ => none
  | _ :: _, _, _, _, [] => none
  | count :: counts, code, first, index, bit :: bits =>
    let code := 2 * code + bit.toNat
    if code < first + count then (symbols[index + (code - first)]?).map (·, bits)
    else Huffman.readFrom symbols counts code (2 * (first + count)) (index + count) bits

def Huffman.read (h : Huffman) (bits : Bits) : Option (Nat × Bits) :=
  Huffman.readFrom h.symbols h.counts 0 0 0 bits

/-! ## Lengths and distances -/

/-- Base and extra bits of the lengths from symbol 257 on. -/
def lengthCodes : List (Nat × Nat) := [
  (3, 0), (4, 0), (5, 0), (6, 0), (7, 0), (8, 0), (9, 0), (10, 0), (11, 1), (13, 1), (15, 1),
  (17, 1), (19, 2), (23, 2), (27, 2), (31, 2), (35, 3), (43, 3), (51, 3), (59, 3), (67, 4),
  (83, 4), (99, 4), (115, 4), (131, 5), (163, 5), (195, 5), (227, 5), (258, 0)]

/-- Base and extra bits of the distances. -/
def distanceCodes : List (Nat × Nat) := [
  (1, 0), (2, 0), (3, 0), (4, 0), (5, 1), (7, 1), (9, 2), (13, 2), (17, 3), (25, 3), (33, 4),
  (49, 4), (65, 5), (97, 5), (129, 6), (193, 6), (257, 7), (385, 7), (513, 8), (769, 8),
  (1025, 9), (1537, 9), (2049, 10), (3073, 10), (4097, 11), (6145, 11), (8193, 12), (12289, 12),
  (16385, 13), (24577, 13)]

def readExtra (codes : List (Nat × Nat)) (index : Nat) (bits : Bits) : Option (Nat × Bits) := do
  let (base, extra) ← codes[index]?
  let (n, bits) ← readBits extra bits
  some (base + n, bits)

/-- Repeats what stands some bytes back. -/
def copyBack (out : Array UInt8) (distance : Nat) : (length : Nat) → Option (Array UInt8)
  | 0 => some out
  | length + 1 =>
    if distance = 0 ∨ out.size < distance then none
    else (out[out.size - distance]?).bind fun b => copyBack (out.push b) distance length

/-! ## Blocks -/

/-- Reads the symbols of a block up to its end. Each takes at least one bit. -/
def inflateSymbols (literals distances : Huffman) :
    (fuel : Nat) → Array UInt8 → Bits → Option (Array UInt8 × Bits)
  | 0, _, _ => none
  | fuel + 1, out, bits => do
    let (symbol, bits) ← literals.read bits
    if symbol < 256 then inflateSymbols literals distances fuel (out.push symbol.toUInt8) bits
    else if symbol = 256 then some (out, bits)
    else
      let (length, bits) ← readExtra lengthCodes (symbol - 257) bits
      let (code, bits) ← distances.read bits
      let (distance, bits) ← readExtra distanceCodes code bits
      let out ← copyBack out distance length
      inflateSymbols literals distances fuel out bits

/-- The code lengths of blocks that bring no codes of their own. -/
def fixedLengths : List Nat :=
  List.replicate 144 8 ++ List.replicate 112 9 ++ List.replicate 24 7 ++ List.replicate 8 8

/-- The order in which the lengths of the code for code lengths are written. -/
def lengthOrder : List Nat := [16, 17, 18, 0, 8, 7, 9, 6, 10, 5, 11, 4, 12, 3, 13, 2, 14, 1, 15]

def readLengths (code : Huffman) (wanted : Nat) :
    (fuel : Nat) → Array Nat → Bits → Option (List Nat × Bits)
  | 0, _, _ => none
  | fuel + 1, lengths, bits =>
    if wanted ≤ lengths.size then
      if lengths.size = wanted then some (lengths.toList, bits) else none
    else do
      let (symbol, bits) ← code.read bits
      if symbol < 16 then readLengths code wanted fuel (lengths.push symbol) bits
      else
        let (value, extra, base) ←
          if symbol = 16 then lengths.back?.map fun l => (l, 2, 3)
          else if symbol = 17 then some (0, 3, 3)
          else some (0, 7, 11)
        let (n, bits) ← readBits extra bits
        readLengths code wanted fuel (lengths ++ Array.replicate (base + n) value) bits

/-- Reads the three-bit lengths of the code for code lengths. -/
def readOrdered : (order : List Nat) → (count : Nat) → List (Nat × Nat) → Bits →
    Option (List (Nat × Nat) × Bits)
  | symbol :: order, count + 1, acc, bits => do
    let (length, bits) ← readBits 3 bits
    readOrdered order count ((symbol, length) :: acc) bits
  | _, _, acc, bits => some (acc, bits)

/-- The most symbols of literals and lengths. -/
def maxLiterals : Nat := 286

/-- The most symbols of distances. -/
def maxDistances : Nat := 30

/-- Reads the two codes that a block brings. The code in which their lengths are
written has to be complete. -/
def readCodes (bits : Bits) : Option (Huffman × Huffman × Bits) := do
  let (hlit, bits) ← readBits 5 bits
  let (hdist, bits) ← readBits 5 bits
  let (hclen, bits) ← readBits 4 bits
  let (ordered, bits) ← readOrdered lengthOrder (hclen + 4) [] bits
  let code := Huffman.ofLengths ((List.range 19).map fun i => (ordered.lookup i).getD 0)
  let literalCount := hlit + 257
  let distanceCount := hdist + 1
  if maxLiterals < literalCount ∨ maxDistances < distanceCount ∨ !code.isComplete then none
  let wanted := literalCount + distanceCount
  let (lengths, bits) ← readLengths code wanted (wanted + 1) #[] bits
  let literals := Huffman.ofLengths (lengths.take literalCount)
  let distances := Huffman.ofLengths (lengths.drop literalCount)
  if literals.isUsable ∧ distances.isUsable then some (literals, distances, bits) else none

/-- Reads bytes that are stored as they are. -/
def readStored : (n : Nat) → Array UInt8 → Bits → Option (Array UInt8 × Bits)
  | 0, out, bits => some (out, bits)
  | n + 1, out, bits => do
    let (b, bits) ← readBits 8 bits
    readStored n (out.push b.toUInt8) bits

/-- Reads a block of stored bytes, which begins at the next whole byte: so many
bits are left over as do not fill a byte. -/
def inflateStored (out : Array UInt8) (bits : Bits) : Option (Array UInt8 × Bits) := do
  let (length, bits) ← readBits 16 (bits.drop (bits.length % 8))
  let (complement, bits) ← readBits 16 bits
  if length + complement ≠ 65535 then none else readStored length out bits

/-- Reads blocks up to the last one. -/
def inflateBlocks : (fuel : Nat) → Array UInt8 → Bits → Option (Array UInt8 × Bits)
  | 0, _, _ => none
  | fuel + 1, out, bits => do
    let (last, bits) ← readBits 1 bits
    let (kind, bits) ← readBits 2 bits
    let (out, bits) ←
      match kind with
      | 0 => inflateStored out bits
      | 1 =>
        inflateSymbols (Huffman.ofLengths fixedLengths) (Huffman.ofLengths (List.replicate 30 5))
          bits.length out bits
      | 2 =>
        match readCodes bits with
        | some (literals, distances, bits) =>
          inflateSymbols literals distances bits.length out bits
        | none => none
      | _ => none
    if last = 1 then some (out, bits) else inflateBlocks fuel out bits

/-- The inflated bytes, and the bits behind the stream. -/
def inflate (bits : Bits) : Option (Array UInt8 × Bits) :=
  inflateBlocks (bits.length + 1) #[] bits

end MenuHost.Gzip
