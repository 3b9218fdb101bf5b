import MenuHost.Password.Record

/-!
# Hashing and checking passwords

`hash` makes a stored record of a password under a salt, `verify` compares a
candidate with a stored record. A record that cannot be used is told apart from
a candidate that does not match.
-/

namespace MenuHost.Password

/-- Why a password was not hashed or not accepted. -/
inductive HashError where
  | hash (defect : Defect)
  | malformed (defect : Defect)
  | mismatch
deriving Repr, DecidableEq

def HashError.message : HashError → String
  | .hash d => "could not hash password: " ++ d.message
  | .malformed d => "stored password hash is malformed: " ++ d.message
  | .mismatch => "password does not match"

def saltSize : Nat := 16

def outputSize : Nat := 32

/-- Sixteen random bytes for a new record. -/
abbrev Salt := Vector UInt8 saltSize

def newRecipe (salt : Salt) : Recipe where
  variant := .hybrid
  version := .v13
  costs := defaultCosts
  salt := salt.toList
  associated := []
  size := outputSize

/-- A new record of a password; the password itself is not in it. -/
def hash (salt : Salt) (password : String) : Except HashError String :=
  match (newRecipe salt).digest password with
  | .ok output => .ok (Record.write "argon2id" .v13 defaultCosts salt.toList output)
  | .error d => .error (.hash d)

/-- Checks a candidate against a stored record. A record without salt or output
matches nothing, whatever its other fields say. -/
def verify (stored candidate : String) : Except HashError Unit :=
  match Record.parse stored with
  | .error d => .error (.malformed d)
  | .ok record =>
    match record.salt, record.output with
    | some salt, some output =>
      match record.recipe salt output.length with
      | .error d => .error (.malformed d)
      | .ok recipe =>
        match recipe.digest candidate with
        | .error .password => .error .mismatch
        | .error d => .error (.malformed d)
        | .ok digest => if digest = output then .ok () else .error .mismatch
    | _, _ => .error .mismatch

end MenuHost.Password
