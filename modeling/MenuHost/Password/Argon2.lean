import MenuHost.Password.Blake2b

/-!
# Argon2

The memory-hard password digest in its three variants and both published
versions, without a secret key.

A digest fills a memory of 1024-byte blocks, each from the block before it and
an earlier one, and takes its tag from the last column. A block is eight lines
of sixteen words; its compression permutes the lines of the matrix of 16-byte
cells, then its columns, which `Block.transpose` turns into lines.

Sizes, indices and counters are `Nat`; only the words that are mixed wrap.
-/

namespace MenuHost.Password

/-- How a reference block is chosen: by the memory's content, by a fixed
sequence, or by the sequence during the first half of the first pass and by the
content after it. -/
inductive Variant where
  | dataDependent
  | dataIndependent
  | hybrid
deriving Repr, DecidableEq

/-- The published versions: 1.0 overwrites a block in later passes, 1.3 mixes
the new block into the old one. -/
inductive Version where
  | v10
  | v13
deriving Repr, DecidableEq

/-- The costs of a digest: memory in KiB, passes over it, and lanes. -/
structure Costs where
  memory : Nat
  passes : Nat
  lanes : Nat
deriving Repr, DecidableEq

/-- The code that stands for a variant in the hashed header. -/
def Variant.code : Variant → Nat
  | .dataDependent => 0
  | .dataIndependent => 1
  | .hybrid => 2

def Version.code : Version → Nat
  | .v10 => 0x10
  | .v13 => 0x13

namespace Argon2

/-- Sixteen words: a line or a column of a block. -/
structure Line where
  (w0 w1 w2 w3 w4 w5 w6 w7 w8 w9 w10 w11 w12 w13 w14 w15 : UInt64)

/-- A block of 1024 bytes: eight lines. -/
structure Block where
  (l0 l1 l2 l3 l4 l5 l6 l7 : Line)

namespace Line

def zero : Line := ⟨0, 0, 0, 0, 0, 0, 0, 0, 0, 0, 0, 0, 0, 0, 0, 0⟩

def xor (x y : Line) : Line :=
  ⟨x.w0 ^^^ y.w0, x.w1 ^^^ y.w1, x.w2 ^^^ y.w2, x.w3 ^^^ y.w3,
   x.w4 ^^^ y.w4, x.w5 ^^^ y.w5, x.w6 ^^^ y.w6, x.w7 ^^^ y.w7,
   x.w8 ^^^ y.w8, x.w9 ^^^ y.w9, x.w10 ^^^ y.w10, x.w11 ^^^ y.w11,
   x.w12 ^^^ y.w12, x.w13 ^^^ y.w13, x.w14 ^^^ y.w14, x.w15 ^^^ y.w15⟩

def toList (x : Line) : List UInt64 :=
  [x.w0, x.w1, x.w2, x.w3, x.w4, x.w5, x.w6, x.w7,
   x.w8, x.w9, x.w10, x.w11, x.w12, x.w13, x.w14, x.w15]

/-- The word at a place, counted modulo 16. -/
def word (x : Line) (i : Nat) : UInt64 :=
  match i % 16 with
  | 0 => x.w0 | 1 => x.w1 | 2 => x.w2 | 3 => x.w3
  | 4 => x.w4 | 5 => x.w5 | 6 => x.w6 | 7 => x.w7
  | 8 => x.w8 | 9 => x.w9 | 10 => x.w10 | 11 => x.w11
  | 12 => x.w12 | 13 => x.w13 | 14 => x.w14 | _ => x.w15

/-- The line held in the first 128 of `bytes`. -/
def ofBytes (bytes : List UInt8) : Line :=
  let w (i : Nat) := wordOfBytes (bytes.drop (8 * i))
  ⟨w 0, w 1, w 2, w 3, w 4, w 5, w 6, w 7, w 8, w 9, w 10, w 11, w 12, w 13, w 14, w 15⟩

/-- The sum of two words and twice the product of their lower halves. -/
@[inline] def addMul (x y : UInt64) : UInt64 :=
  x + y + 2 * (x &&& 0xffffffff) * (y &&& 0xffffffff)

/-- The quarter round: BLAKE2b's mixing function without message words, its
additions multiplied up by `addMul`. -/
@[inline] def quarter (a b c d : UInt64) : UInt64 × UInt64 × UInt64 × UInt64 :=
  let a := addMul a b
  let d := rotateRight (d ^^^ a) 32
  let c := addMul c d
  let b := rotateRight (b ^^^ c) 24
  let a := addMul a b
  let d := rotateRight (d ^^^ a) 16
  let c := addMul c d
  let b := rotateRight (b ^^^ c) 63
  (a, b, c, d)

/-- One round over the sixteen words taken as a 4 by 4 matrix: its columns,
then its diagonals. -/
def permute (x : Line) : Line :=
  let (a0, b0, c0, d0) := quarter x.w0 x.w4 x.w8 x.w12
  let (a1, b1, c1, d1) := quarter x.w1 x.w5 x.w9 x.w13
  let (a2, b2, c2, d2) := quarter x.w2 x.w6 x.w10 x.w14
  let (a3, b3, c3, d3) := quarter x.w3 x.w7 x.w11 x.w15
  let (a0, b1, c2, d3) := quarter a0 b1 c2 d3
  let (a1, b2, c3, d0) := quarter a1 b2 c3 d0
  let (a2, b3, c0, d1) := quarter a2 b3 c0 d1
  let (a3, b0, c1, d2) := quarter a3 b0 c1 d2
  ⟨a0, a1, a2, a3, b0, b1, b2, b3, c0, c1, c2, c3, d0, d1, d2, d3⟩

end Line

namespace Block

def zero : Block :=
  ⟨Line.zero, Line.zero, Line.zero, Line.zero, Line.zero, Line.zero, Line.zero, Line.zero⟩

def xor (x y : Block) : Block :=
  ⟨x.l0.xor y.l0, x.l1.xor y.l1, x.l2.xor y.l2, x.l3.xor y.l3,
   x.l4.xor y.l4, x.l5.xor y.l5, x.l6.xor y.l6, x.l7.xor y.l7⟩

/-- The columns of the 8 by 8 matrix of 16-byte cells, as lines. -/
def transpose (x : Block) : Block :=
  ⟨⟨x.l0.w0, x.l0.w1, x.l1.w0, x.l1.w1, x.l2.w0, x.l2.w1, x.l3.w0, x.l3.w1,
    x.l4.w0, x.l4.w1, x.l5.w0, x.l5.w1, x.l6.w0, x.l6.w1, x.l7.w0, x.l7.w1⟩,
   ⟨x.l0.w2, x.l0.w3, x.l1.w2, x.l1.w3, x.l2.w2, x.l2.w3, x.l3.w2, x.l3.w3,
    x.l4.w2, x.l4.w3, x.l5.w2, x.l5.w3, x.l6.w2, x.l6.w3, x.l7.w2, x.l7.w3⟩,
   ⟨x.l0.w4, x.l0.w5, x.l1.w4, x.l1.w5, x.l2.w4, x.l2.w5, x.l3.w4, x.l3.w5,
    x.l4.w4, x.l4.w5, x.l5.w4, x.l5.w5, x.l6.w4, x.l6.w5, x.l7.w4, x.l7.w5⟩,
   ⟨x.l0.w6, x.l0.w7, x.l1.w6, x.l1.w7, x.l2.w6, x.l2.w7, x.l3.w6, x.l3.w7,
    x.l4.w6, x.l4.w7, x.l5.w6, x.l5.w7, x.l6.w6, x.l6.w7, x.l7.w6, x.l7.w7⟩,
   ⟨x.l0.w8, x.l0.w9, x.l1.w8, x.l1.w9, x.l2.w8, x.l2.w9, x.l3.w8, x.l3.w9,
    x.l4.w8, x.l4.w9, x.l5.w8, x.l5.w9, x.l6.w8, x.l6.w9, x.l7.w8, x.l7.w9⟩,
   ⟨x.l0.w10, x.l0.w11, x.l1.w10, x.l1.w11, x.l2.w10, x.l2.w11, x.l3.w10, x.l3.w11,
    x.l4.w10, x.l4.w11, x.l5.w10, x.l5.w11, x.l6.w10, x.l6.w11, x.l7.w10, x.l7.w11⟩,
   ⟨x.l0.w12, x.l0.w13, x.l1.w12, x.l1.w13, x.l2.w12, x.l2.w13, x.l3.w12, x.l3.w13,
    x.l4.w12, x.l4.w13, x.l5.w12, x.l5.w13, x.l6.w12, x.l6.w13, x.l7.w12, x.l7.w13⟩,
   ⟨x.l0.w14, x.l0.w15, x.l1.w14, x.l1.w15, x.l2.w14, x.l2.w15, x.l3.w14, x.l3.w15,
    x.l4.w14, x.l4.w15, x.l5.w14, x.l5.w15, x.l6.w14, x.l6.w15, x.l7.w14, x.l7.w15⟩⟩

def permuteLines (x : Block) : Block :=
  ⟨x.l0.permute, x.l1.permute, x.l2.permute, x.l3.permute,
   x.l4.permute, x.l5.permute, x.l6.permute, x.l7.permute⟩

/-- The compression of two blocks into one: their exclusive or, permuted line
by line and column by column, and mixed with itself once more. -/
def compress (x y : Block) : Block :=
  let r := x.xor y
  r.xor (r.permuteLines.transpose.permuteLines.transpose)

/-- The line at a place, counted modulo 8. -/
def line (x : Block) (i : Nat) : Line :=
  match i % 8 with
  | 0 => x.l0 | 1 => x.l1 | 2 => x.l2 | 3 => x.l3
  | 4 => x.l4 | 5 => x.l5 | 6 => x.l6 | _ => x.l7

/-- The word at a place from 0 to 127. -/
def word (x : Block) (i : Nat) : UInt64 :=
  (x.line (i / 16)).word i

/-- The block held in the first 1024 of `bytes`. -/
def ofBytes (bytes : List UInt8) : Block :=
  let l (i : Nat) := Line.ofBytes (bytes.drop (128 * i))
  ⟨l 0, l 1, l 2, l 3, l 4, l 5, l 6, l 7⟩

def toBytes (x : Block) : List UInt8 :=
  [x.l0, x.l1, x.l2, x.l3, x.l4, x.l5, x.l6, x.l7].flatMap fun l => l.toList.flatMap bytesOfWord

end Block

/-- The four little-endian bytes of a number below 2³². -/
def le32 (n : Nat) : List UInt8 :=
  [n.toUInt8, (n >>> 8).toUInt8, (n >>> 16).toUInt8, (n >>> 24).toUInt8]

/-- The tail of a long digest: `n` times the first half of a 64-byte digest of
the one before, then a digest of the `rest` bytes still missing. -/
def longTail : Nat → Nat → List UInt8 → List UInt8
  | 0, rest, v => Blake2b.digest rest v
  | n + 1, rest, v =>
    let next := Blake2b.digest 64 v
    next.take 32 ++ longTail n rest next

/-- A digest of any size: a single BLAKE2b digest up to 64 bytes, and beyond
that the first halves of a chain of them, closed by a digest of 33 to 64
bytes. -/
def longDigest (size : Nat) (message : List UInt8) : List UInt8 :=
  let input := le32 size ++ message
  if size ≤ 64 then
    Blake2b.digest size input
  else
    let halves := (size + 31) / 32 - 2
    let first := Blake2b.digest 64 input
    first.take 32 ++ longTail (halves - 1) (size - 32 * halves) first

/-- The shape of the memory: lanes of `4 * segment` blocks. -/
structure Shape where
  variant : Variant
  version : Version
  passes : Nat
  lanes : Nat
  segment : Nat

/-- Blocks in a lane. -/
def Shape.lane (s : Shape) : Nat := 4 * s.segment

/-- Blocks in all. -/
def Shape.blocks (s : Shape) : Nat := s.lanes * s.lane

/-- A place in the filling order. -/
structure Place where
  pass : Nat
  slice : Nat
  lane : Nat

/-- Whether the reference blocks of a segment follow the fixed sequence. -/
def Place.isIndependent (p : Place) : Variant → Bool
  | .dataDependent => false
  | .dataIndependent => true
  | .hybrid => p.pass == 0 && p.slice < 2

/-- The `counter`-th block of the fixed sequence of a segment: 128 words, one
for each block to fill. -/
def addresses (s : Shape) (p : Place) (counter : Nat) : Block :=
  let input : Block :=
    { Block.zero with
      l0 := { Line.zero with
        w0 := p.pass.toUInt64, w1 := p.lane.toUInt64, w2 := p.slice.toUInt64
        w3 := s.blocks.toUInt64, w4 := s.passes.toUInt64, w5 := s.variant.code.toUInt64
        w6 := counter.toUInt64 } }
  Block.zero.compress (Block.zero.compress input)

/-- The block that a pseudo-random word refers to, as an index into the memory:
its upper half picks the lane, its lower half a block of the lane, recent ones
being likelier. -/
def referenceIndex (s : Shape) (p : Place) (index : Nat) (random : UInt64) : Nat :=
  let first := p.pass == 0
  let lane := if first && p.slice == 0 then p.lane else (random >>> 32).toNat % s.lanes
  let finished := if first then p.slice * s.segment else s.lane - s.segment
  let area :=
    if lane == p.lane then finished + index - 1
    else if index == 0 then finished - 1 else finished
  let low := (random &&& 0xffffffff).toNat
  let back := (area * ((low * low) >>> 32)) >>> 32
  let start := if first || p.slice == 3 then 0 else (p.slice + 1) * s.segment
  lane * s.lane + (start + (area - 1 - back)) % s.lane

/-- Fills the remaining `n` blocks of a segment, the next at `index`; `fixed`
is the current block of the fixed sequence. -/
def fillSegment (s : Shape) (p : Place) (independent : Bool) :
    Nat → Nat → Block → Array Block → Array Block
  | 0, _, _, memory => memory
  | n + 1, index, fixed, memory =>
    let column := p.slice * s.segment + index
    let here := p.lane * s.lane + column
    let before := p.lane * s.lane + (column + s.lane - 1) % s.lane
    let fixed := if independent && index % 128 == 0 then addresses s p (index / 128 + 1) else fixed
    let previous := memory.getD before Block.zero
    let random := if independent then fixed.word (index % 128) else previous.word 0
    let new := previous.compress (memory.getD (referenceIndex s p index random) Block.zero)
    let new :=
      if p.pass == 0 || s.version == .v10 then new else new.xor (memory.getD here Block.zero)
    fillSegment s p independent n (index + 1) fixed (memory.setIfInBounds here new)

/-- Fills one segment. The first two blocks of each lane are given. -/
def fillPlace (s : Shape) (memory : Array Block) (p : Place) : Array Block :=
  let independent := p.isIndependent s.variant
  let skip := if p.pass == 0 && p.slice == 0 then 2 else 0
  let fixed := if independent then addresses s p 1 else Block.zero
  fillSegment s p independent (s.segment - skip) skip fixed memory

/-- The filling order: pass by pass, slice by slice, lane by lane. -/
def places (s : Shape) : List Place :=
  (List.range s.passes).flatMap fun pass =>
    (List.range 4).flatMap fun slice =>
      (List.range s.lanes).map fun lane => ⟨pass, slice, lane⟩

/-- The 64-byte header digest over the costs and all inputs. -/
def header (variant : Variant) (version : Version) (costs : Costs) (size : Nat)
    (password salt associated : List UInt8) : List UInt8 :=
  Blake2b.digest 64 <|
    le32 costs.lanes ++ le32 size ++ le32 costs.memory ++ le32 costs.passes ++
    le32 version.code ++ le32 variant.code ++
    le32 password.length ++ password ++ le32 salt.length ++ salt ++
    le32 0 ++ le32 associated.length ++ associated

/-- The memory before the filling: the first two blocks of each lane come from
the header digest. -/
def initialMemory (s : Shape) (h0 : List UInt8) : Array Block :=
  (List.range s.lanes).foldl (fun memory lane =>
      [0, 1].foldl (fun memory column =>
          memory.setIfInBounds (lane * s.lane + column)
            (Block.ofBytes (longDigest 1024 (h0 ++ le32 column ++ le32 lane))))
        memory)
    (Array.replicate s.blocks Block.zero)

/-- The digest of a password: `size` bytes under a salt, some associated data
and the costs. -/
def digest (variant : Variant) (version : Version) (costs : Costs) (size : Nat)
    (password salt associated : List UInt8) : List UInt8 :=
  let s : Shape := ⟨variant, version, costs.passes, costs.lanes, costs.memory / (4 * costs.lanes)⟩
  let memory := (places s).foldl (fillPlace s)
    (initialMemory s (header variant version costs size password salt associated))
  let last := (List.range s.lanes).foldl
    (fun acc lane => acc.xor (memory.getD (lane * s.lane + (s.lane - 1)) Block.zero)) Block.zero
  longDigest size last.toBytes

end Argon2

end MenuHost.Password
