/-!
# Timestamps

Points in time, as seconds since the beginning of 1970 in UTC and nanoseconds in
that second.

In the last second of a minute the nanoseconds may run on beyond 10⁹: there they
count through a leap second.
-/

namespace MenuHost.Time

def nanosPerSecond : Nat := 1000000000

def secondsPerDay : Nat := 86400

structure Timestamp where
  secs : Int
  nanos : Nat
deriving Repr, DecidableEq, Inhabited

namespace Timestamp

/-- Earlier seconds come first, and earlier nanoseconds of one second. -/
def before (a b : Timestamp) : Prop :=
  a.secs < b.secs ∨ a.secs = b.secs ∧ a.nanos < b.nanos

instance : LT Timestamp := ⟨before⟩

instance (a b : Timestamp) : Decidable (a < b) :=
  inferInstanceAs (Decidable (a.secs < b.secs ∨ a.secs = b.secs ∧ a.nanos < b.nanos))

theorem lt_iff {a b : Timestamp} :
    a < b ↔ a.secs < b.secs ∨ a.secs = b.secs ∧ a.nanos < b.nanos := Iff.rfl

def epoch : Timestamp := ⟨0, 0⟩

/-- The first second of the year -262143. -/
def firstSecond : Int := -8334601228800

/-- The last second of the year 262142. -/
def lastSecond : Int := 8210266876799

/-- Whether the nanoseconds fit the second, a leap second included. -/
def nanosFit (secs : Int) (nanos : Nat) : Bool :=
  nanos < nanosPerSecond || (nanos < 2 * nanosPerSecond && secs % 60 == 59)

/-- The timestamp of a second in the years -262143 to 262142 and of nanoseconds
that fit it. -/
def ofParts? (secs : Int) (nanos : Nat) : Option Timestamp :=
  if firstSecond ≤ secs ∧ secs ≤ lastSecond ∧ nanosFit secs nanos then some ⟨secs, nanos⟩
  else none

def outOfRangeMessage : String := "out of range"

/-- The same time some days later. Two kinds of times are left out of account, as no
clock that is read is at one: a time in a leap second, from which adding days leads out,
and one so close to `lastSecond` that the later time cannot be represented, where adding
them stops the program. -/
def plusDays (t : Timestamp) (days : Nat) : Timestamp :=
  { t with secs := t.secs + days * secondsPerDay }

def advance (t : Timestamp) (secs nanos : Int) : Timestamp :=
  let total := t.nanos + nanos
  ⟨t.secs + secs + total / nanosPerSecond, (total % nanosPerSecond).toNat⟩

end Timestamp

end MenuHost.Time
