import MenuHost.Json.Basic

/-!
# Reading JSON

The value that a text stands for, if it is one. Blanks may stand around every
token, escapes may come in any of their forms, and surrogate escapes must come in
pairs.

Integer literals are integers if they fit 64 bits, signed or unsigned. All other
numbers are doubles, among them the negative zero.
-/

namespace MenuHost.Json

/-- The blanks between tokens. -/
def isBlank (c : Char) : Bool :=
  c == ' ' || c == '\n' || c == '\r' || c == '\t'

def skipBlanks (cs : List Char) : List Char :=
  cs.dropWhile isBlank

def hexValue? (c : Char) : Option Nat :=
  if '0' ≤ c ∧ c ≤ '9' then some (c.toNat - '0'.toNat)
  else if 'a' ≤ c ∧ c ≤ 'f' then some (c.toNat - 'a'.toNat + 10)
  else if 'A' ≤ c ∧ c ≤ 'F' then some (c.toNat - 'A'.toNat + 10)
  else none

/-- The code unit of four hexadecimal digits. -/
def codeUnit? (a b c d : Char) : Option Nat := do
  some ((← hexValue? a) * 4096 + (← hexValue? b) * 256 + (← hexValue? c) * 16
    + (← hexValue? d))

/-- The character of a one-letter escape. -/
def shortEscape? : Char → Option Char
  | '"' => some '"'
  | '\\' => some '\\'
  | '/' => some '/'
  | 'b' => some '\x08'
  | 'f' => some '\x0c'
  | 'n' => some '\n'
  | 'r' => some '\r'
  | 't' => some '\t'
  | _ => none

/-- Reads on inside a string literal up to its closing quotation mark. `high` is
a first surrogate that waits for its second, `acc` holds the characters read, the
last one first. -/
def readString (high : Option Nat) (acc : List Char) : List Char → Option (String × List Char)
  | '\\' :: 'u' :: a :: b :: c :: d :: rest => do
    let unit ← codeUnit? a b c d
    match high with
    | some first =>
      if 0xDC00 ≤ unit ∧ unit ≤ 0xDFFF then
        readString none
          (Char.ofNat (0x10000 + (first - 0xD800) * 0x400 + (unit - 0xDC00)) :: acc) rest
      else none
    | none =>
      if 0xD800 ≤ unit ∧ unit ≤ 0xDBFF then readString (some unit) acc rest
      else if 0xDC00 ≤ unit ∧ unit ≤ 0xDFFF then none
      else readString none (Char.ofNat unit :: acc) rest
  | c :: rest =>
    if high.isSome then none
    else if c = '"' then some (String.ofList acc.reverse, rest)
    else if c = '\\' then
      match rest with
      | e :: rest => (shortEscape? e).bind fun c => readString none (c :: acc) rest
      | [] => none
    else if c.toNat < 0x20 then none
    else readString none (c :: acc) rest
  | [] => none

def digitsValue (cs : List Char) : Nat :=
  cs.foldl (fun n c => 10 * n + (c.toNat - '0'.toNat)) 0

def spanDigits (cs : List Char) : List Char × List Char :=
  cs.span Char.isDigit

/-- The exponent part, if one begins here. -/
def readExponent (cs : List Char) : Option (Option Int × List Char) :=
  match cs with
  | e :: rest =>
    if e = 'e' ∨ e = 'E' then
      let (negative, rest) := match rest with
        | '-' :: r => (true, r)
        | '+' :: r => (false, r)
        | r => (false, r)
      let (digits, rest) := spanDigits rest
      if digits.isEmpty then none
      else
        let n : Int := digitsValue digits
        some (some (if negative then -n else n), rest)
    else some (none, cs)
  | [] => some (none, [])

/-- The fraction part, if one begins here: its digits. -/
def readFraction (cs : List Char) : Option (Option (List Char) × List Char) :=
  match cs with
  | '.' :: rest =>
    let (digits, rest) := spanDigits rest
    if digits.isEmpty then none else some (some digits, rest)
  | _ => some (none, cs)

/-- The least integer that fits 64 bits. -/
def leastInteger : Int := -9223372036854775808

/-- The greatest integer that fits 64 bits. -/
def greatestInteger : Int := 18446744073709551615

/-- Takes digits behind those of a number for as long as the number fits 64 bits;
gives the digits that are left over, too. -/
def takeFitting : (n : Nat) → List Char → Nat × List Char
  | n, [] => (n, [])
  | n, c :: cs =>
    let m := 10 * n + (c.toNat - '0'.toNat)
    if m ≤ greatestInteger then takeFitting m cs else (n, c :: cs)

/-- The double of a literal. Of its digits, those that do not fit only count as
places. -/
def doubleOf? (negative : Bool) (whole places : List Char) (exponent : Int) : Option Double := do
  let (digits, wholeLeft) := takeFitting 0 whole
  let (digits, placesLeft) := takeFitting digits places
  let shift : Int := wholeLeft.length - (places.length - placesLeft.length)
  some ⟨negative, ← Magnitude.ofScientific? digits (exponent + shift)⟩

def readNumber (cs : List Char) : Option (Json × List Char) := do
  let (negative, cs) := match cs with
    | '-' :: r => (true, r)
    | r => (false, r)
  let (whole, cs) := spanDigits cs
  if whole.isEmpty ∨ (whole.head? = some '0' ∧ 1 < whole.length) then none
  let (fraction, cs) ← readFraction cs
  let (exponent, cs) ← readExponent cs
  let n := digitsValue whole
  let signed : Int := if negative then -n else n
  if fraction.isNone ∧ exponent.isNone ∧ ¬ (negative ∧ n = 0) ∧
      leastInteger ≤ signed ∧ signed ≤ greatestInteger then
    some (int signed, cs)
  else
    some (double (← doubleOf? negative whole (fraction.getD []) (exponent.getD 0)), cs)

/-- The rest behind a word, if the text begins with it. -/
def expect (word cs : List Char) : Option (List Char) :=
  if word.isPrefixOf cs then some (cs.drop word.length) else none

mutual

/-- Reads a value. `fuel` bounds the steps. -/
def readValue : Nat → List Char → Option (Json × List Char)
  | 0, _ => none
  | fuel + 1, cs =>
    match skipBlanks cs with
    | '"' :: rest => (readString none [] rest).map fun (s, rest) => (string s, rest)
    | '[' :: rest =>
      match skipBlanks rest with
      | ']' :: rest => some (array [], rest)
      | rest => readItems fuel [] rest
    | '{' :: rest =>
      match skipBlanks rest with
      | '}' :: rest => some (object [], rest)
      | rest => readMembers fuel [] rest
    | 'n' :: rest => (expect "ull".toList rest).map (null, ·)
    | 't' :: rest => (expect "rue".toList rest).map (bool true, ·)
    | 'f' :: rest => (expect "alse".toList rest).map (bool false, ·)
    | rest => readNumber rest

/-- Reads the items of an array from the next one on; `acc` holds those before,
the last one first. -/
def readItems : Nat → List Json → List Char → Option (Json × List Char)
  | 0, _, _ => none
  | fuel + 1, acc, cs => do
    let (item, rest) ← readValue fuel cs
    match skipBlanks rest with
    | ',' :: rest => readItems fuel (item :: acc) rest
    | ']' :: rest => some (array (item :: acc).reverse, rest)
    | _ => none

/-- Reads the members of an object from the next one on into `acc`. -/
def readMembers : Nat → List (String × Json) → List Char → Option (Json × List Char)
  | 0, _, _ => none
  | fuel + 1, acc, cs =>
    match skipBlanks cs with
    | '"' :: rest => do
      let (key, rest) ← readString none [] rest
      match skipBlanks rest with
      | ':' :: rest =>
        let (value, rest) ← readValue fuel rest
        match skipBlanks rest with
        | ',' :: rest => readMembers fuel (setMember key value acc) rest
        | '}' :: rest => some (object (setMember key value acc), rest)
        | _ => none
      | _ => none
    | _ => none

end

def parse? (text : String) : Option Json := do
  let cs := text.toList
  let (value, rest) ← readValue (2 * cs.length + 2) cs
  if (skipBlanks rest).isEmpty then some value else none

end MenuHost.Json
