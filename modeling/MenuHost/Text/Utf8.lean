/-!
# UTF-8

The bytes of a text, and the text of bytes, strictly and leniently.

Lenient reading replaces malformed input by U+FFFD, once for each longest
beginning of a character that the input breaks off, and once for each byte that
can begin none.
-/

namespace MenuHost.Text.Utf8

def encode (s : String) : List UInt8 :=
  s.toUTF8.data.toList

def decode? (bytes : List UInt8) : Option String :=
  String.fromUTF8? ⟨bytes.toArray⟩

/-- Reading undoes writing. -/
@[simp] theorem decode?_encode (s : String) : decode? (encode s) = some s := by
  obtain ⟨bytes, valid⟩ := s
  simp [decode?, encode, String.fromUTF8?, String.fromUTF8, String.toUTF8, valid]

/-- Only the bytes of a text are read as it. -/
theorem encode_of_decode? {bytes : List UInt8} {s : String} (h : decode? bytes = some s) :
    encode s = bytes := by
  simp only [decode?, String.fromUTF8?] at h
  split at h
  · simp only [Option.some.injEq] at h
    subst h
    simp [encode, String.fromUTF8, String.toUTF8]
  · simp at h

/-! ## Lenient reading -/

def isContinuation (b : UInt8) : Bool :=
  0x80 ≤ b && b ≤ 0xbf

/-- Whether a byte can be the second of a character with a given first byte. -/
def isSecond (first second : UInt8) : Bool :=
  if first == 0xe0 then 0xa0 ≤ second && second ≤ 0xbf
  else if first == 0xed then 0x80 ≤ second && second ≤ 0x9f
  else if first == 0xf0 then 0x90 ≤ second && second ≤ 0xbf
  else if first == 0xf4 then 0x80 ≤ second && second ≤ 0x8f
  else isContinuation second

/-- The character of a code point that is put together from the bits of bytes. -/
def charOfBits (first : Nat) (rest : List UInt8) : Char :=
  Char.ofNat (rest.foldl (fun n b => 64 * n + b.toNat % 64) first)

/-- Reads the character that begins with a byte, or passes over what there is of
it; returns the rest of the input. -/
def readChar (b : UInt8) (rest : List UInt8) : Option Char × List UInt8 :=
  if b < 0x80 then (some (Char.ofNat b.toNat), rest)
  else if 0xc2 ≤ b && b ≤ 0xdf then
    match rest with
    | c :: rest' =>
      if isSecond b c then (some (charOfBits (b.toNat % 32) [c]), rest') else (none, rest)
    | [] => (none, [])
  else if 0xe0 ≤ b && b ≤ 0xef then
    match rest with
    | c :: rest' =>
      if isSecond b c then
        match rest' with
        | d :: rest'' =>
          if isContinuation d then (some (charOfBits (b.toNat % 16) [c, d]), rest'')
          else (none, rest')
        | [] => (none, [])
      else (none, rest)
    | [] => (none, [])
  else if 0xf0 ≤ b && b ≤ 0xf4 then
    match rest with
    | c :: rest' =>
      if isSecond b c then
        match rest' with
        | d :: rest'' =>
          if isContinuation d then
            match rest'' with
            | e :: rest''' =>
              if isContinuation e then (some (charOfBits (b.toNat % 8) [c, d, e]), rest''')
              else (none, rest'')
            | [] => (none, [])
          else (none, rest')
        | [] => (none, [])
      else (none, rest)
    | [] => (none, [])
  else (none, rest)

theorem readChar_length (b : UInt8) (rest : List UInt8) :
    (readChar b rest).2.length ≤ rest.length := by
  unfold readChar
  repeat' split
  all_goals
    try simp only [List.length_cons, List.length_nil]
    omega

/-- What stands for malformed input. -/
def replacement : Char := Char.ofNat 0xfffd

/-- Reads on after the characters `acc`, the last one first. -/
def lenientFrom (acc : List Char) : List UInt8 → List Char
  | [] => acc.reverse
  | b :: rest =>
    let read := readChar b rest
    lenientFrom (read.1.getD replacement :: acc) read.2
termination_by bytes => bytes.length
decreasing_by
  have := readChar_length b rest
  simp only [List.length_cons]
  omega

def decodeLenient (bytes : List UInt8) : String :=
  String.ofList (lenientFrom [] bytes)

end MenuHost.Text.Utf8
