/-!
# Socket addresses

Addresses with ports, as `127.0.0.1:3000` and `[fe80::1%2]:443`, read strictly
and written in one canonical way.

In an IPv6 address a double colon stands for at least one group of zeroes, and
the last two groups may be written as an IPv4 address. The canonical text
shortens the longest run of at least two zeroes, the first of equal ones, and
shows IPv4-mapped addresses with their IPv4 part.
-/

namespace MenuHost.Server

inductive IpAddress where
  | v4 (a b c d : UInt8)
  | v6 (groups : Vector UInt16 8)
deriving Repr, DecidableEq

/-- An address with a port; the scope is 0 but for some addresses of version 6. -/
structure SocketAddress where
  ip : IpAddress
  scope : UInt32 := 0
  port : UInt16
deriving Repr, DecidableEq

namespace SocketAddress

/-! ## Reading -/

/-- The value of a digit of a base up to 16. -/
def digitValue? (base : Nat) (c : Char) : Option Nat :=
  let value? :=
    if '0' ≤ c ∧ c ≤ '9' then some (c.toNat - '0'.toNat)
    else if 'a' ≤ c ∧ c ≤ 'f' then some (c.toNat - 'a'.toNat + 10)
    else if 'A' ≤ c ∧ c ≤ 'F' then some (c.toNat - 'A'.toNat + 10)
    else none
  value?.filter (· < base)

/-- The leading digits of a text, and the rest. -/
def spanDigits (base : Nat) (cs : List Char) : List Char × List Char :=
  cs.span fun c => (digitValue? base c).isSome

/-- The number that digits stand for. -/
def number (base : Nat) (digits : List Char) : Nat :=
  digits.foldl (fun n c => base * n + (digitValue? base c).getD 0) 0

/-- Reads a decimal number below a bound; it may begin with zeroes. -/
def readNumber (bound : Nat) (cs : List Char) : Option (Nat × List Char) :=
  let (digits, rest) := spanDigits 10 cs
  if ¬ digits.isEmpty ∧ number 10 digits < bound then some (number 10 digits, rest) else none

/-- Reads a part of an IPv4 address: at most three digits, without a zero in
front of others. -/
def readOctet (cs : List Char) : Option (UInt8 × List Char) :=
  let (digits, rest) := spanDigits 10 cs
  if ¬ digits.isEmpty ∧ digits.length ≤ 3 ∧ number 10 digits < 256 ∧
      ¬ (digits.head? = some '0' ∧ 1 < digits.length) then
    some ((number 10 digits).toUInt8, rest)
  else none

def readChar (c : Char) : List Char → Option (List Char)
  | d :: rest => if d = c then some rest else none
  | [] => none

/-- An IPv4 address. -/
structure Quad where
  a : UInt8
  b : UInt8
  c : UInt8
  d : UInt8

def readQuad (cs : List Char) : Option (Quad × List Char) := do
  let (a, cs) ← readOctet cs
  let (b, cs) ← readOctet (← readChar '.' cs)
  let (c, cs) ← readOctet (← readChar '.' cs)
  let (d, cs) ← readOctet (← readChar '.' cs)
  some (⟨a, b, c, d⟩, cs)

/-- The two groups of an IPv6 address that an IPv4 address takes up. -/
def Quad.groups (q : Quad) : List UInt16 :=
  [(256 * q.a.toNat + q.b.toNat).toUInt16, (256 * q.c.toNat + q.d.toNat).toUInt16]

/-- Reads a group of an IPv6 address: up to four hexadecimal digits. -/
def readGroup (cs : List Char) : Option (UInt16 × List Char) :=
  let (digits, rest) := spanDigits 16 cs
  if ¬ digits.isEmpty ∧ digits.length ≤ 4 then some ((number 16 digits).toUInt16, rest) else none

/-- Reads up to `limit` groups with colons between them, the last two perhaps as
an IPv4 address; `first` when none was read before. Returns the groups, whether
they end in an IPv4 address, and the rest. -/
def readGroups : (limit : Nat) → (first : Bool) → List Char → List UInt16 × Bool × List Char
  | 0, _, cs => ([], false, cs)
  | limit + 1, first, cs =>
    match if first then some cs else readChar ':' cs with
    | none => ([], false, cs)
    | some behind =>
      match if limit = 0 then none else readQuad behind with
      | some (quad, rest) => (quad.groups, true, rest)
      | none =>
        match readGroup behind with
        | some (group, rest) =>
          let (groups, quad, rest) := readGroups limit false rest
          (group :: groups, quad, rest)
        | none => ([], false, cs)

/-- Eight groups from those before and behind a double colon. -/
def joinGroups (head tail : List UInt16) : Vector UInt16 8 :=
  Vector.ofFn fun i =>
    if i.val < head.length then head.getD i.val 0
    else if 8 ≤ i.val + tail.length then tail.getD (i.val + tail.length - 8) 0
    else 0

def readGroupsOfAddress (cs : List Char) : Option (Vector UInt16 8 × List Char) :=
  let (head, quad, rest) := readGroups 8 true cs
  if head.length = 8 then some (joinGroups head [], rest)
  else if quad then none
  else do
    let rest ← readChar ':' (← readChar ':' rest)
    let (tail, _, rest) := readGroups (8 - (head.length + 1)) true rest
    some (joinGroups head tail, rest)

def readPort (cs : List Char) : Option (UInt16 × List Char) := do
  let (port, rest) ← readNumber 65536 (← readChar ':' cs)
  some (port.toUInt16, rest)

/-- Reads a percent sign and a scope, if they stand here. -/
def readScope (cs : List Char) : UInt32 × List Char :=
  match (readChar '%' cs).bind (readNumber 4294967296) with
  | some (scope, rest) => (scope.toUInt32, rest)
  | none => (0, cs)

def read4 (cs : List Char) : Option (SocketAddress × List Char) := do
  let (quad, cs) ← readQuad cs
  let (port, cs) ← readPort cs
  some ({ ip := .v4 quad.a quad.b quad.c quad.d, port }, cs)

def read6 (cs : List Char) : Option (SocketAddress × List Char) := do
  let (groups, cs) ← readGroupsOfAddress (← readChar '[' cs)
  let (scope, cs) := readScope cs
  let (port, cs) ← readPort (← readChar ']' cs)
  some ({ ip := .v6 groups, scope, port }, cs)

def parse? (s : String) : Option SocketAddress :=
  let cs := s.toList
  match (read4 cs).orElse fun _ => read6 cs with
  | some (address, []) => some address
  | _ => none

end SocketAddress

/-! ## Writing -/

def quadText (a b c d : UInt8) : String :=
  toString a.toNat ++ "." ++ toString b.toNat ++ "." ++ toString c.toNat ++ "." ++
    toString d.toNat

/-- Groups between colons. -/
def groupsText (groups : List UInt16) : String :=
  ":".intercalate (groups.map fun g => String.ofList (Nat.toDigits 16 g.toNat))

/-- Start and length of the first longest run of zeroes. -/
def zeroRun (groups : List UInt16) : Nat × Nat :=
  let runs := (List.range groups.length).map fun start =>
    (start, ((groups.drop start).takeWhile (· == 0)).length)
  runs.foldl (fun best run => if best.2 < run.2 then run else best) (0, 0)

namespace IpAddress

/-- The canonical text of an address. -/
def text : IpAddress → String
  | v4 a b c d => quadText a b c d
  | v6 groups =>
    match groups.toList with
    | [0, 0, 0, 0, 0, 0xffff, x, y] =>
      "::ffff:" ++ quadText (x.toNat / 256).toUInt8 (x.toNat % 256).toUInt8
        (y.toNat / 256).toUInt8 (y.toNat % 256).toUInt8
    | groups =>
      let (start, length) := zeroRun groups
      if 1 < length then
        groupsText (groups.take start) ++ "::" ++ groupsText (groups.drop (start + length))
      else groupsText groups

end IpAddress

namespace SocketAddress

/-- The canonical text of an address with its port. -/
def text (s : SocketAddress) : String :=
  match s.ip with
  | .v4 .. => s.ip.text ++ ":" ++ toString s.port.toNat
  | .v6 _ =>
    let scope := if s.scope = 0 then "" else "%" ++ toString s.scope.toNat
    "[" ++ s.ip.text ++ scope ++ "]:" ++ toString s.port.toNat

end SocketAddress

end MenuHost.Server
