import MenuHost.Json.Basic
import MenuHost.Number.Shortest

/-!
# Printing JSON

The compact text of a value: no blanks, members in the order in which they
stand, and only those characters escaped that must be: quotation mark,
backslash and the controls below U+0020.
-/

namespace MenuHost

def hexDigit (n : Nat) : Char :=
  if n < 10 then Char.ofNat ('0'.toNat + n) else Char.ofNat ('a'.toNat + (n - 10))

/-- The most digits before the point of a number that is written positionally. -/
def maxWholeDigits : Int := 16

/-- The most zeroes between the point and the digits of such a number. -/
def maxLeadingZeroes : Int := 4

def exponentText (exponent : Int) : List Char :=
  (if exponent < 0 then '-' else '+') :: Nat.toDigits 10 exponent.natAbs

/-- The text of a decimal: positionally, with at least one digit on either side of
the point, or else with an exponent. -/
def Decimal.text (d : Decimal) : List Char :=
  let digits := Nat.toDigits 10 d.digits
  let point := d.exponent + digits.length
  if 0 ≤ d.exponent ∧ point ≤ maxWholeDigits then
    digits ++ List.replicate d.exponent.toNat '0' ++ ['.', '0']
  else if 0 < point ∧ point ≤ maxWholeDigits then
    digits.take point.toNat ++ '.' :: digits.drop point.toNat
  else if point ≤ 0 ∧ -maxLeadingZeroes ≤ point then
    '0' :: '.' :: (List.replicate (-point).toNat '0' ++ digits)
  else
    digits.take 1 ++ (if digits.length = 1 then [] else '.' :: digits.drop 1) ++
      'e' :: exponentText (point - 1)

/-- The text of a double: its shortest decimal. -/
def Double.text (x : Double) : String :=
  let body := x.magnitude.shortest.text
  String.ofList (if x.negative then '-' :: body else body)

namespace Json

/-- A character inside a string literal. -/
def escape (c : Char) : List Char :=
  match c with
  | '"' => ['\\', '"']
  | '\\' => ['\\', '\\']
  | '\x08' => ['\\', 'b']
  | '\x0c' => ['\\', 'f']
  | '\n' => ['\\', 'n']
  | '\r' => ['\\', 'r']
  | '\t' => ['\\', 't']
  | c =>
    if c.toNat < 0x20 then
      ['\\', 'u', '0', '0', hexDigit (c.toNat / 16), hexDigit (c.toNat % 16)]
    else [c]

def quote (s : String) : List Char :=
  '"' :: (s.toList.flatMap escape ++ ['"'])

mutual

def print : Json → List Char
  | null => "null".toList
  | bool b => (if b then "true" else "false").toList
  | int n => (toString n).toList
  | double x => x.text.toList
  | string s => quote s
  | array items => '[' :: (printItems items ++ [']'])
  | object members => '{' :: (printMembers members ++ ['}'])

def printItems : List Json → List Char
  | [] => []
  | [item] => print item
  | item :: rest => print item ++ ',' :: printItems rest

def printMembers : List (String × Json) → List Char
  | [] => []
  | [(key, value)] => quote key ++ ':' :: print value
  | (key, value) :: rest => quote key ++ ':' :: (print value ++ ',' :: printMembers rest)

end

def compact (v : Json) : String :=
  String.ofList v.print

end Json

end MenuHost
