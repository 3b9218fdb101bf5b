/-!
# BLAKE2b

The unkeyed BLAKE2b hash of a list of bytes, with a digest of 1 to 64
bytes. `Argon2` builds its first blocks, its long digests and its final tag
from it.

Words are 64 bits wide and little-endian in memory. The chaining value is
eight words, the working vector sixteen, and a message is cut into blocks of
128 bytes, the last one padded with zeros.
-/

namespace MenuHost.Password

/-- The word whose little-endian bytes are the first eight of `bytes`; missing
bytes count as zero. -/
def wordOfBytes (bytes : List UInt8) : UInt64 :=
  (bytes.take 8).foldr (fun b w => (w <<< 8) ||| b.toUInt64) 0

/-- The eight little-endian bytes of a word. -/
def bytesOfWord (w : UInt64) : List UInt8 :=
  [w.toUInt8, (w >>> 8).toUInt8, (w >>> 16).toUInt8, (w >>> 24).toUInt8,
   (w >>> 32).toUInt8, (w >>> 40).toUInt8, (w >>> 48).toUInt8, (w >>> 56).toUInt8]

/-- Rotation of a word to the right, for `0 < n < 64`. -/
@[inline] def rotateRight (w : UInt64) (n : UInt64) : UInt64 :=
  (w >>> n) ||| (w <<< (64 - n))

namespace Blake2b

/-- The chaining value: eight words. -/
abbrev Chain := Vector UInt64 8

/-- The working vector and a message block: sixteen words. -/
abbrev Working := Vector UInt64 16

def blockSize : Nat := 128

def iv : Chain := #v[
  0x6a09e667f3bcc908, 0xbb67ae8584caa73b, 0x3c6ef372fe94f82b, 0xa54ff53a5f1d36f1,
  0x510e527fade682d1, 0x9b05688c2b3e6c1f, 0x1f83d9abfb41bd6b, 0x5be0cd19137e2179]

/-- The message word schedules of the twelve rounds. -/
def schedules : List (Vector (Fin 16) 16) := [
  #v[0, 1, 2, 3, 4, 5, 6, 7, 8, 9, 10, 11, 12, 13, 14, 15],
  #v[14, 10, 4, 8, 9, 15, 13, 6, 1, 12, 0, 2, 11, 7, 5, 3],
  #v[11, 8, 12, 0, 5, 2, 15, 13, 10, 14, 3, 6, 7, 1, 9, 4],
  #v[7, 9, 3, 1, 13, 12, 11, 14, 2, 6, 5, 10, 4, 0, 15, 8],
  #v[9, 0, 5, 7, 2, 4, 10, 15, 14, 1, 11, 12, 6, 8, 3, 13],
  #v[2, 12, 6, 10, 0, 11, 8, 3, 4, 13, 7, 5, 15, 14, 1, 9],
  #v[12, 5, 1, 15, 14, 13, 4, 10, 0, 7, 6, 3, 9, 2, 8, 11],
  #v[13, 11, 7, 14, 12, 1, 3, 9, 5, 0, 15, 4, 8, 6, 2, 10],
  #v[6, 15, 14, 9, 11, 3, 0, 8, 12, 2, 13, 7, 1, 4, 10, 5],
  #v[10, 2, 8, 4, 7, 6, 1, 5, 15, 11, 9, 14, 3, 12, 13, 0],
  #v[0, 1, 2, 3, 4, 5, 6, 7, 8, 9, 10, 11, 12, 13, 14, 15],
  #v[14, 10, 4, 8, 9, 15, 13, 6, 1, 12, 0, 2, 11, 7, 5, 3]]

/-- The mixing function: stirs two message words into four working words. -/
def mix (v : Working) (a b c d : Fin 16) (x y : UInt64) : Working :=
  let va := v[a] + v[b] + x
  let vd := rotateRight (v[d] ^^^ va) 32
  let vc := v[c] + vd
  let vb := rotateRight (v[b] ^^^ vc) 24
  let va := va + vb + y
  let vd := rotateRight (vd ^^^ va) 16
  let vc := vc + vd
  let vb := rotateRight (vb ^^^ vc) 63
  (((v.set a va).set b vb).set c vc).set d vd

/-- One round: four column steps, then four diagonal steps. -/
def round (m : Working) (v : Working) (s : Vector (Fin 16) 16) : Working :=
  let v := mix v 0 4 8 12 m[s[0]] m[s[1]]
  let v := mix v 1 5 9 13 m[s[2]] m[s[3]]
  let v := mix v 2 6 10 14 m[s[4]] m[s[5]]
  let v := mix v 3 7 11 15 m[s[6]] m[s[7]]
  let v := mix v 0 5 10 15 m[s[8]] m[s[9]]
  let v := mix v 1 6 11 12 m[s[10]] m[s[11]]
  let v := mix v 2 7 8 13 m[s[12]] m[s[13]]
  mix v 3 4 9 14 m[s[14]] m[s[15]]

/-- The sixteen words of a message block, padded with zeros. -/
def messageWords (block : List UInt8) : Working :=
  Vector.ofFn fun i => wordOfBytes (block.drop (8 * i.val))

/-- The compression function: takes up one block, with `count` message bytes
taken up so far (this block's included); `last` marks the final block. -/
def compress (h : Chain) (block : List UInt8) (count : Nat) (last : Bool) : Chain :=
  let m := messageWords block
  let v : Working := h ++ iv
  let v := v.set 12 (v[12] ^^^ count.toUInt64)
  let v := v.set 13 (v[13] ^^^ (count >>> 64).toUInt64)
  let v := if last then v.set 14 (v[14] ^^^ 0xffffffffffffffff) else v
  let v := schedules.foldl (round m) v
  Vector.ofFn fun i => h[i] ^^^ v[i.val] ^^^ v[i.val + 8]

/-- Takes up `bytes` block by block. The block that leaves nothing behind is
the final one, so a full last block is final too. `fuel` is at least the number
of blocks. -/
def absorb : Nat → Chain → List UInt8 → Nat → Chain
  | 0, h, _, _ => h
  | fuel + 1, h, bytes, count =>
    let rest := bytes.drop blockSize
    if rest.isEmpty then
      compress h bytes (count + bytes.length) true
    else
      absorb fuel (compress h (bytes.take blockSize) (count + blockSize) false)
        rest (count + blockSize)

/-- The chaining value before the first block: the parameter block of an
unkeyed sequential hash holds only the digest's size. -/
def start (size : Nat) : Chain :=
  iv.set 0 (iv[0] ^^^ 0x01010000 ^^^ size.toUInt64)

/-- The BLAKE2b digest of `message`, `size` bytes long (1 to 64). -/
def digest (size : Nat) (message : List UInt8) : List UInt8 :=
  let h := absorb (message.length / blockSize + 1) (start size) message 0
  (h.toList.flatMap bytesOfWord).take size

/-- A digest has the size that was asked for. -/
theorem length_digest {size : Nat} (hs : size ≤ 64) (message : List UInt8) :
    (digest size message).length = size := by
  simp only [digest, List.length_take, List.length_flatMap]
  have : ∀ ws : List UInt64, (ws.map fun w => (bytesOfWord w).length).sum = 8 * ws.length := by
    intro ws
    induction ws with
    | nil => rfl
    | cons w ws ih =>
      simp only [List.map_cons, List.sum_cons, ih, List.length_cons]
      simp [bytesOfWord]
      omega
  rw [this]
  simp
  omega

end Blake2b

end MenuHost.Password
