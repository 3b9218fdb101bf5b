/-!
# Request targets

The target of a request: a path with an optional query (`/a?b`), an absolute
target with scheme and authority (`http://host/a`), an authority alone
(`host:443`), or a star. A fragment is read and forgotten.

The authority is checked for its characters, its brackets and its colons only.
-/

namespace MenuHost.Http

/-- Why a text is no request target. -/
inductive UriError where
  | tooLong
  | empty
  | schemeTooLong
  | invalidAuthority
  | invalidCharacter
  | invalidFormat
deriving Repr, DecidableEq

def UriError.message : UriError → String
  | .tooLong => "uri too long"
  | .empty => "empty string"
  | .schemeTooLong => "scheme too long"
  | .invalidAuthority => "invalid authority"
  | .invalidCharacter => "invalid uri character"
  | .invalidFormat => "invalid format"

/-- A request target. The path of an authority alone is empty. -/
structure Uri where
  scheme : Option String := none
  authority : Option String := none
  path : String
  query : Option String := none
deriving Repr, DecidableEq

namespace Uri

def maxLength : Nat := 65534

def maxSchemeLength : Nat := 64

/-- The most colons in a row of groups. -/
def maxColons : Nat := 8

/-! ## Path and query -/

/-- Whether a path may hold a character. Besides those that need no escape these
are the quotation mark, the braces and everything beyond ASCII. -/
def isPathChar (c : Char) : Bool :=
  let n := c.toNat
  n == 0x21 || (0x24 ≤ n && n ≤ 0x3b) || n == 0x3d || (0x40 ≤ n && n ≤ 0x5f) ||
    (0x61 ≤ n && n ≤ 0x7e) || 0x7f < n || n == 0x22

def isQueryChar (c : Char) : Bool :=
  let n := c.toNat
  n == 0x21 || (0x24 ≤ n && n ≤ 0x3b) || n == 0x3d || (0x3f ≤ n && n ≠ 0x7f)

/-- Reads path and query up to a fragment. -/
def readPath (cs : List Char) : Except UriError (String × Option String) :=
  let path := cs.takeWhile fun c => c != '?' && c != '#'
  if ¬ path.all isPathChar then .error .invalidCharacter
  else
    match cs.drop path.length with
    | '?' :: rest =>
      let query := rest.takeWhile (· != '#')
      if query.all isQueryChar then .ok (String.ofList path, some (String.ofList query))
      else .error .invalidCharacter
    | _ => .ok (String.ofList path, none)

/-! ## Scheme -/

def isSchemeChar (c : Char) : Bool :=
  c.isAlphanum || c == '+' || c == '-' || c == '.' || c == '~'

/-- The rest of a text behind a beginning, whatever the case of its letters. -/
def dropBeginning? (beginning cs : List Char) : Option (List Char) :=
  if (cs.take beginning.length).map Char.toLower = beginning then
    some (cs.drop beginning.length)
  else none

/-- Splits off the scheme, if there is one; the two common ones are put into lower
case. -/
def readScheme (cs : List Char) : Except UriError (Option String × List Char) :=
  match dropBeginning? "http://".toList cs with
  | some rest => .ok (some "http", rest)
  | none =>
    match dropBeginning? "https://".toList cs with
    | some rest => .ok (some "https", rest)
    | none =>
      let scheme := cs.takeWhile isSchemeChar
      match cs.drop scheme.length with
      | ':' :: '/' :: '/' :: rest =>
        if cs.length ≤ 3 then .ok (none, cs)
        else if maxSchemeLength < scheme.length then .error .schemeTooLong
        else .ok (some (String.ofList scheme), rest)
      | _ => .ok (none, cs)

/-! ## Authority -/

/-- What has been seen of an authority. Colons and percent signs before an `@`
belong to the user, those before a closing bracket to an address. -/
structure AuthorityScan where
  colons : Nat := 0
  opened : Bool := false
  closed : Bool := false
  percent : Bool := false

/-- Whether an authority may hold a character that has no role of its own there. -/
def isAuthorityChar (c : Char) : Bool :=
  c.isAlphanum || "!$&'()*+,-.;=_~".toList.contains c

def AuthorityScan.step (s : AuthorityScan) (c : Char) : Except UriError AuthorityScan :=
  match c with
  | ':' =>
    if maxColons ≤ s.colons then .error .invalidAuthority
    else .ok { s with colons := s.colons + 1 }
  | '[' =>
    if s.percent || s.opened then .error .invalidAuthority else .ok { s with opened := true }
  | ']' =>
    if !s.opened || s.closed then .error .invalidAuthority
    else .ok { s with closed := true, colons := 0, percent := false }
  | '@' => .ok { s with colons := 0, percent := false }
  | '%' => .ok { s with percent := true }
  | c => if isAuthorityChar c then .ok s else .error .invalidCharacter

def checkAuthority (cs : List Char) : Except UriError Unit := do
  let s ← cs.foldlM AuthorityScan.step {}
  if s.opened != s.closed || 1 < s.colons || cs.getLast? == some '@' || s.percent then
    .error .invalidAuthority
  else .ok ()

def readAuthority (cs : List Char) : Except UriError (List Char × List Char) := do
  if cs.isEmpty then .error .empty
  let authority := cs.takeWhile fun c => c != '/' && c != '?' && c != '#'
  checkAuthority authority
  .ok (authority, cs.drop authority.length)

/-! ## Targets -/

/-- Reads a target that does not begin with a slash. -/
def readFull (cs : List Char) : Except UriError Uri := do
  let (scheme, rest) ← readScheme cs
  let (authority, rest) ← readAuthority rest
  match scheme with
  | none =>
    if rest.isEmpty then .ok { authority := some (String.ofList authority), path := "" }
    else .error .invalidFormat
  | some scheme =>
    if authority.isEmpty then .error .invalidFormat
    else
      let (path, query) ← readPath rest
      .ok { scheme := some scheme
            authority := some (String.ofList authority)
            path := if path.isEmpty then "/" else path
            query }

def parse (s : String) : Except UriError Uri :=
  if maxLength < s.utf8ByteSize then .error .tooLong
  else
    match s.toList with
    | [] => .error .empty
    | ['*'] => .ok { path := "*" }
    | '/' :: rest => do
      let (path, query) ← readPath ('/' :: rest)
      .ok { path, query }
    | [c] =>
      if c = '?' ∨ c = '#' then .error .invalidCharacter else readFull [c]
    | cs => readFull cs

def text (u : Uri) : String :=
  (match u.scheme with
    | some scheme => scheme ++ "://"
    | none => "") ++
  u.authority.getD "" ++ u.path ++
  (match u.query with
    | some query => "?" ++ query
    | none => "")

end Uri

end MenuHost.Http
