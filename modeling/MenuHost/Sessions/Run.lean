import MenuHost.Sessions.Store

/-!
# Runs of the session store

A store together with a clock, and the operations on the two: `perform` carries
out one, `runAll` a list. The draws of a login come with the operation, as does
every move of the clock, so a run is a function of the operations.
-/

namespace MenuHost.Sessions

open MenuHost.Time

/-- A store and the time that its clock shows. -/
structure Clocked where
  store : Store
  now : Timestamp

/-- What can be asked of a store and its clock. -/
inductive Operation where
  | login (identity password : String) (draws : Nat → String)
  | logout (token : String)
  | logoutIdentity (identity : String)
  | identity (token : String)
  | advance (secs nanos : Int)
  | poison

inductive Answer where
  | started (token : String) (expires : Timestamp)
  | done
  | ended (count : Nat)
  | owner (identity : Option String)
  | clock (now : Timestamp)
  | flag (b : Bool)
deriving Repr, DecidableEq

/-- The result of an operation with the tokens it drew and its log. -/
structure Step where
  result : Except SessionError Answer
  drawn : Nat := 0
  log : List LogLine := []

namespace Clocked

/-- Whose session a token is, by the clock. -/
def owner (c : Clocked) (token : String) : Except SessionError (Option String) :=
  c.store.identity c.now token

def advance (c : Clocked) (secs nanos : Int) : Clocked :=
  { c with now := c.now.advance secs nanos }

/-- Makes the store unavailable. -/
def poison (c : Clocked) : Clocked :=
  { c with store := c.store.poison }

def perform (c : Clocked) : Operation → Step × Clocked
  | .login identity password draws =>
    let (login, store) := c.store.login c.now draws identity password
    ({ result := login.result.map fun (token, expires) => .started token expires
       drawn := login.drawn
       log := login.log },
      { c with store })
  | .logout token =>
    match c.store.logout token with
    | .ok (log, store) => ({ result := .ok .done, log }, { c with store })
    | .error e => ({ result := .error e }, c)
  | .logoutIdentity identity =>
    match c.store.logoutIdentity identity with
    | .ok (count, store) => ({ result := .ok (.ended count) }, { c with store })
    | .error e => ({ result := .error e }, c)
  | .identity token => ({ result := (c.owner token).map .owner }, c)
  | .advance secs nanos =>
    let c := c.advance secs nanos
    ({ result := .ok (.clock c.now) }, c)
  | .poison => ({ result := .ok (.flag c.store.available) }, c.poison)

def runAll (c : Clocked) : List Operation → List Step × Clocked
  | [] => ([], c)
  | op :: rest =>
    let (first, c) := c.perform op
    let (others, c) := c.runAll rest
    (first :: others, c)

end Clocked

end MenuHost.Sessions
