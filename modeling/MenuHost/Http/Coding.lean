import MenuHost.Http.Header
import MenuHost.Text.Split

/-!
# Content codings

Which coding of a response a client prefers, by its `accept-encoding` headers.

Each header is a list of codings with weights between 0 and 1 in thousandths.
Headers that are no plain text, unknown codings and badly written weights are
passed over. The greatest weight above 0 wins, and gzip among equals.
-/

namespace MenuHost.Http

inductive Coding where
  | identity
  | gzip
deriving Repr, DecidableEq

/-- A coding with its weight in thousandths. -/
structure Weighted where
  coding : Coding
  weight : Nat
deriving Repr, DecidableEq

namespace Coding

def ofName? (name : List Char) : Option Coding :=
  let name := String.ofList (name.map Char.toLower)
  if name = "gzip" ∨ name = "x-gzip" then some gzip
  else if name = "identity" then some identity
  else none

/-- A space or a tab. -/
def isBlank (c : Char) : Bool :=
  c == ' ' || c == '\t'

/-- The value of up to three decimal places, in thousandths. -/
def places? : List Char → Option Nat
  | [] => some 0
  | [a] => if a.isDigit then some (100 * (a.toNat - '0'.toNat)) else none
  | [a, b] =>
    if a.isDigit && b.isDigit then
      some (100 * (a.toNat - '0'.toNat) + 10 * (b.toNat - '0'.toNat))
    else none
  | [a, b, c] =>
    if a.isDigit && b.isDigit && c.isDigit then
      some (100 * (a.toNat - '0'.toNat) + 10 * (b.toNat - '0'.toNat) + (c.toNat - '0'.toNat))
    else none
  | _ => none

/-- The weight of a parameter `q=…`. -/
def weight? : List Char → Option Nat
  | q :: '=' :: whole :: rest =>
    if q != 'q' && q != 'Q' then none
    else
      match (if whole = '0' then some 0 else if whole = '1' then some 1000 else none), rest with
      | some n, [] => some n
      | some n, '.' :: digits =>
        (places? digits).bind fun p => if n + p ≤ 1000 then some (n + p) else none
      | _, _ => none
  | _ => none

def entry? (cs : List Char) : Option Weighted :=
  match Text.cut ';' cs with
  | some (name, weight) => do
    let coding ← ofName? (Text.trim isBlank name)
    let weight ← weight? (Text.trim isBlank weight)
    some { coding, weight }
  | none => (ofName? (Text.trim isBlank cs)).map fun coding => { coding, weight := 1000 }

/-- The codings of some headers, in order. -/
def accepted (values : List HeaderValue) : List Weighted :=
  values.flatMap fun v =>
    match v.text? with
    | some text => (text.splitOn ',').filterMap entry?
    | none => []

def better (a b : Weighted) : Weighted :=
  if a.weight < b.weight ∨ a.weight = b.weight ∧ b.coding = gzip then b else a

def preferred? (codings : List Weighted) : Option Coding :=
  match codings.filter (0 < ·.weight) with
  | [] => none
  | first :: rest => some (rest.foldl better first).coding

/-- Of two, one is preferred. -/
theorem better_eq (a b : Weighted) : better a b = a ∨ better a b = b := by
  unfold better
  split <;> simp

theorem foldl_better_mem (first : Weighted) (rest : List Weighted) :
    rest.foldl better first ∈ first :: rest := by
  induction rest generalizing first with
  | nil => simp
  | cons next rest ih =>
    have := ih (better first next)
    simp only [List.foldl_cons, List.mem_cons] at this ⊢
    rcases this with h | h
    · rcases better_eq first next with e | e
      · exact .inl (h.trans e)
      · exact .inr (.inl (h.trans e))
    · exact .inr (.inr h)

/-- What is preferred is among what is accepted. -/
theorem preferred?_mem {codings : List Weighted} {c : Coding} (h : preferred? codings = some c) :
    ∃ w ∈ codings, w.coding = c := by
  unfold preferred? at h
  split at h
  · simp at h
  · next first rest e =>
    refine ⟨rest.foldl better first, ?_, by simpa using h⟩
    exact (List.mem_filter.1 (e ▸ foldl_better_mem first rest)).1

end Coding

end MenuHost.Http
