import MenuHost.Text.Utf8

/-!
# Headers

A header value is a list of bytes without controls other than the tab; a header
name is written in lower case, so names that differ in case only are the same.
-/

namespace MenuHost.Http

/-! ## Values -/

def isValueByte (b : UInt8) : Bool :=
  (0x20 ≤ b && b != 0x7f) || b == 0x09

/-- Whether a byte is visible ASCII, a space or a tab. -/
def isTextByte (b : UInt8) : Bool :=
  (0x20 ≤ b && b < 0x7f) || b == 0x09

structure HeaderValue where
  bytes : List UInt8
  valid : bytes.all isValueByte = true
deriving Repr, DecidableEq

namespace HeaderValue

def ofBytes? (bytes : List UInt8) : Option HeaderValue :=
  if h : bytes.all isValueByte then some ⟨bytes, h⟩ else none

def ofString? (s : String) : Option HeaderValue :=
  ofBytes? (Text.Utf8.encode s)

/-- The value as a text, if it is visible ASCII, spaces and tabs only. -/
def text? (v : HeaderValue) : Option (List Char) :=
  if v.bytes.all isTextByte then some (v.bytes.map fun b => Char.ofNat b.toNat) else none

end HeaderValue

/-! ## Names -/

/-- Whether a token of the protocol may hold a byte: letters, digits and
`!#$%&'*+-.^_` with the backtick, the bar and the tilde. -/
def isTokenByte (b : UInt8) : Bool :=
  (0x30 ≤ b && b ≤ 0x39) || (0x41 ≤ b && b ≤ 0x5a) || (0x61 ≤ b && b ≤ 0x7a) ||
    b == 0x21 || (0x23 ≤ b && b ≤ 0x27) || b == 0x2a || b == 0x2b || b == 0x2d ||
    b == 0x2e || b == 0x5e || b == 0x5f || b == 0x60 || b == 0x7c || b == 0x7e

def maxNameLength : Nat := 65535

/-- The name that a text stands for, in lower case. -/
def headerName? (s : String) : Option String :=
  let bytes := Text.Utf8.encode s
  if ¬ bytes.isEmpty ∧ bytes.length ≤ maxNameLength ∧ bytes.all isTokenByte then
    some (s.map Char.toLower)
  else none

/-! ## Headers -/

structure Header where
  name : String
  value : HeaderValue
deriving Repr, DecidableEq

abbrev Headers := List Header

inductive HeaderError where
  | invalidName
  | invalidValue
deriving Repr, DecidableEq

def HeaderError.message : HeaderError → String
  | .invalidName => "invalid HTTP header name"
  | .invalidValue => "failed to parse header value"

namespace Headers

/-- Headers from names and bytes; the first fault counts, names before values. -/
def ofFields : List (String × List UInt8) → Except HeaderError Headers
  | [] => .ok []
  | (name, bytes) :: rest =>
    match headerName? name with
    | none => .error .invalidName
    | some name =>
      match HeaderValue.ofBytes? bytes with
      | none => .error .invalidValue
      | some value => do
        let headers ← ofFields rest
        .ok (⟨name, value⟩ :: headers)

def all (headers : Headers) (name : String) : List HeaderValue :=
  (headers.filter (·.name = name)).map (·.value)

def first? (headers : Headers) (name : String) : Option HeaderValue :=
  (headers.all name).head?

end Headers

end MenuHost.Http
