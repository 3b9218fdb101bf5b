import MenuHost.Base64
import MenuHost.Text.Utf8
import MenuHost.Password.Argon2

/-!
# Stored password records

The text that stands for a password in storage: fields after dollar signs, namely
an algorithm, optionally a version and parameters, then a salt and an output,
as in `$argon2id$v=19$m=19456,t=2,p=1$c2FsdHNhbHQ$…`.

`Record.parse` checks the grammar of the fields only; a record may stop after any
field. `Record.recipe` gives the fields their meaning as Argon2 inputs. What is
wrong with a text is a `Defect`, whichever of the two finds it.
-/

namespace MenuHost.Password

/-- What is wrong with the value of a field. -/
inductive ValueDefect where
  | invalidChar (c : Char)
  | invalidFormat
  | malformed
  | tooLong
  | tooShort
deriving Repr, DecidableEq

/-- What is wrong with a record, or with the password to digest. -/
inductive Defect where
  | algorithm
  | base64Digits
  | base64Length
  | outputTooShort (least : Nat)
  | parameterName
  | parameterValue (defect : ValueDefect)
  | parametersTooLong
  | password
  | missingField
  | trailingField
  | salt (defect : ValueDefect)
  | version
deriving Repr, DecidableEq

def ValueDefect.message : ValueDefect → String
  | .invalidChar c => "contains invalid character: '" ++ String.singleton c ++ "'"
  | .invalidFormat => "value format is invalid"
  | .malformed => "value malformed"
  | .tooLong => "value to long"
  | .tooShort => "value to short"

def Defect.message : Defect → String
  | .algorithm => "unsupported algorithm"
  | .base64Digits => "invalid Base64 encoding"
  | .base64Length => "invalid Base64 length"
  | .outputTooShort least =>
    "output size too short, expected at least " ++ toString least ++ " bytes"
  | .parameterName => "invalid parameter name"
  | .parameterValue d => "invalid parameter value: " ++ d.message
  | .parametersTooLong => "maximum number of parameters reached"
  | .password => "invalid password"
  | .missingField => "password hash string missing field"
  | .trailingField => "password hash string contains trailing characters"
  | .salt d => "salt invalid: " ++ d.message
  | .version => "invalid algorithm version"

/-- The fields of a record. Names and values are kept as written; the output is
kept as the bytes it stands for. -/
structure Record where
  algorithm : List Char
  version : Option Nat
  parameters : List (List Char × List Char)
  salt : Option (List Char)
  output : Option (List UInt8)
deriving Repr, DecidableEq

/-! ## Fields -/

def isNameChar (c : Char) : Bool :=
  ('a' ≤ c && c ≤ 'z') || ('0' ≤ c && c ≤ '9') || c == '-'

def isValueChar (c : Char) : Bool :=
  ('A' ≤ c && c ≤ 'Z') || ('a' ≤ c && c ≤ 'z') || ('0' ≤ c && c ≤ '9') ||
    c == '/' || c == '+' || c == '.' || c == '-'

def byteLength (cs : List Char) : Nat :=
  cs.foldl (fun n c => n + c.utf8Size) 0

/-- A name has 1 to 32 name characters. -/
def readName (cs : List Char) : Except Defect (List Char) :=
  if 1 ≤ byteLength cs ∧ byteLength cs ≤ 32 ∧ cs.all isNameChar then .ok cs
  else .error .parameterName

/-- A value has at most 64 value characters. -/
def readValue (cs : List Char) : Except Defect (List Char) :=
  if 64 < byteLength cs then .error (.parameterValue .tooLong)
  else match cs.find? (fun c => !isValueChar c) with
    | some c => .error (.parameterValue (.invalidChar c))
    | none => .ok cs

def decimalValue (cs : List Char) : Nat :=
  cs.foldl (fun n c => 10 * n + (c.toNat - '0'.toNat)) 0

/-- Numbers are below 2³². -/
def decimalLimit : Nat := 4294967296

/-- A decimal number below 2³², written without leading zeros. -/
def readDecimal (cs : List Char) : Except Defect Nat :=
  match cs with
  | [] => .error (.parameterValue .malformed)
  | first :: rest =>
    match cs.find? (fun c => !('0' ≤ c && c ≤ '9')) with
    | some c => .error (.parameterValue (.invalidChar c))
    | none =>
      if (first = '0' ∧ rest ≠ []) ∨ decimalLimit ≤ decimalValue cs then
        .error (.parameterValue .invalidFormat)
      else .ok (decimalValue cs)

/-- Base64 for at most `most` bytes. -/
def readBase64 (most : Nat) (cs : List Char) : Except Defect (List UInt8) :=
  if most < Base64.decodedLength (byteLength cs) then .error .base64Length
  else match Base64.decode .standard cs with
    | some bytes => .ok bytes
    | none => .error .base64Digits

/-- One parameter: a name and a value around a single equals sign. -/
def readParameter (cs : List Char) : Except Defect (List Char × List Char) := do
  match cs.splitOn '=' with
  | [name] =>
    let _ ← readName name
    .error (.parameterValue .malformed)
  | name :: value :: rest =>
    let name ← readName name
    let value ← readValue value
    if rest.isEmpty then .ok (name, value) else .error (.parameterValue .malformed)
  | [] => .error .parameterName

/-- The parameter field: at most 127 bytes, parameters between commas. -/
def readParameters (cs : List Char) : Except Defect (List (List Char × List Char)) :=
  if 127 < byteLength cs then .error .parametersTooLong
  else (cs.splitOn ',').mapM readParameter

/-- The salt field: 4 to 64 value characters. -/
def readSalt (cs : List Char) : Except Defect (List Char) :=
  if byteLength cs < 4 then .error (.salt .tooShort)
  else if 64 < byteLength cs then .error (.salt .tooLong)
  else match cs.find? (fun c => !isValueChar c) with
    | some c => .error (.salt (.invalidChar c))
    | none => .ok cs

/-- The output field: 10 to 64 bytes. -/
def readOutput (cs : List Char) : Except Defect (List UInt8) := do
  let bytes ← readBase64 64 cs
  if bytes.length < 10 then .error (.outputTooShort 10) else .ok bytes

/-! ## Records -/

/-- A field that holds a version: `v=` and no comma. -/
def versionField? : List Char → Option (List Char)
  | 'v' :: '=' :: rest => if ',' ∈ rest then none else some rest
  | _ => none

/-- Salt and output, the last two fields. -/
def readTail : List (List Char) →
    Except Defect (Option (List Char) × Option (List UInt8))
  | [] => .ok (none, none)
  | [salt] => do .ok (some (← readSalt salt), none)
  | [salt, output] => do
    let salt ← readSalt salt
    .ok (some salt, some (← readOutput output))
  | salt :: output :: _ => do
    let _ ← readSalt salt
    let _ ← readOutput output
    .error .trailingField

/-- The version, if the first of the fields holds one, and the other fields. -/
def readVersion (fields : List (List Char)) : Except Defect (Option Nat × List (List Char)) :=
  match fields with
  | field :: rest =>
    match versionField? field with
    | some digits => do .ok (some (← readDecimal (← readValue digits)), rest)
    | none => .ok (none, fields)
  | [] => .ok (none, [])

/-- The parameters, if the first of the fields holds an equals sign, and the
other fields. -/
def readParameterField (fields : List (List Char)) :
    Except Defect (List (List Char × List Char) × List (List Char)) :=
  match fields with
  | field :: rest =>
    if '=' ∈ field then do .ok (← readParameters field, rest) else .ok ([], fields)
  | [] => .ok ([], [])

def Record.parse (text : String) : Except Defect Record :=
  match text.toList.splitOn '$' with
  | [] :: algorithm :: fields => do
    let algorithm ← readName algorithm
    let (version, fields) ← readVersion fields
    let (parameters, fields) ← readParameterField fields
    let (salt, output) ← readTail fields
    .ok { algorithm, version, parameters, salt, output }
  | _ => .error .missingField

/-- The written form of a complete record made by this library. -/
def Record.write (algorithm : String) (version : Version) (costs : Costs)
    (salt output : List UInt8) : String :=
  "$" ++ algorithm ++ "$v=" ++ toString version.code ++
  "$m=" ++ toString costs.memory ++ ",t=" ++ toString costs.passes ++
  ",p=" ++ toString costs.lanes ++
  "$" ++ String.ofList (Base64.encode .standard salt) ++
  "$" ++ String.ofList (Base64.encode .standard output)

/-! ## Meaning -/

/-- Everything that a digest depends on but the password. -/
structure Recipe where
  variant : Variant
  version : Version
  costs : Costs
  salt : List UInt8
  associated : List UInt8
  size : Nat
deriving Repr, DecidableEq

/-- The costs where a record names none. -/
def defaultCosts : Costs := ⟨19456, 2, 1⟩

/-- The costs and the associated data that parameters ask for; a repeated
parameter counts as given last, and a key identifier is checked but not used. -/
def readCosts (parameters : List (List Char × List Char)) :
    Except Defect (Costs × List UInt8) :=
  parameters.foldlM (fun (costs, associated) (name, value) =>
    match String.ofList name with
    | "m" => do .ok ({ costs with memory := ← readDecimal value }, associated)
    | "t" => do .ok ({ costs with passes := ← readDecimal value }, associated)
    | "p" => do .ok ({ costs with lanes := ← readDecimal value }, associated)
    | "keyid" => do
      let _ ← readBase64 8 value
      .ok (costs, associated)
    | "data" => do .ok (costs, ← readBase64 32 value)
    | _ => .error .parameterName) (defaultCosts, [])

/-- There are fewer lanes than this. -/
def laneLimit : Nat := 16777216

/-- The costs that a digest admits: at least 8 KiB for each lane, one pass, and
fewer than 2²⁴ lanes. The memory needed is compared in 32 bits. -/
def checkCosts (costs : Costs) : Except Defect Unit :=
  if costs.memory < 8 ∨ costs.memory < costs.lanes * 8 % decimalLimit ∨
      costs.passes < 1 ∨ costs.lanes < 1 then
    .error (.parameterValue .tooShort)
  else if laneLimit ≤ costs.lanes then .error (.parameterValue .tooLong)
  else .ok ()

def readVariant (algorithm : List Char) : Except Defect Variant :=
  match String.ofList algorithm with
  | "argon2d" => .ok .dataDependent
  | "argon2i" => .ok .dataIndependent
  | "argon2id" => .ok .hybrid
  | _ => .error .algorithm

/-- The version that a number stands for, 1.3 if there is none. -/
def readVersionCode : Option Nat → Except Defect Version
  | none => .ok .v13
  | some 16 => .ok .v10
  | some 19 => .ok .v13
  | some _ => .error .version

/-- The bytes in front of which a salt is too short. -/
def leastSalt : Nat := 8

/-- The recipe of a record with a salt and an output of `size` bytes. -/
def Record.recipe (r : Record) (salt : List Char) (size : Nat) : Except Defect Recipe := do
  let (costs, associated) ← readCosts r.parameters
  checkCosts costs
  let variant ← readVariant r.algorithm
  let version ← readVersionCode r.version
  let salt ← readBase64 64 salt
  .ok { variant, version, costs, salt, associated, size }

/-- Passwords have fewer bytes than this. -/
def passwordLimit : Nat := 4294967296

/-- The digest of a password under a recipe. -/
def Recipe.digest (r : Recipe) (password : String) : Except Defect (List UInt8) :=
  if passwordLimit ≤ password.utf8ByteSize then .error .password
  else if r.salt.length < leastSalt then .error (.salt .tooShort)
  else .ok (Argon2.digest r.variant r.version r.costs r.size
    (Text.Utf8.encode password) r.salt r.associated)

end MenuHost.Password
