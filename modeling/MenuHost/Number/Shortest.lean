import MenuHost.Number.Double

/-!
# The shortest decimals of doubles

The decimal with the fewest digits that reads back as a magnitude
(`readsBack_of_shortest?`). The decimals
of one exponent are the points of a grid, and the coarsest grid on which a point
reads back has the fewest digits. On that grid the point nearest to the magnitude
is taken.

A point of a grid that reads back is one of the two that the magnitude lies
between, or the one that it is.
-/

namespace MenuHost

/-- The decimal `digits * 10 ^ exponent`. -/
structure Decimal where
  digits : Nat
  exponent : Int
deriving Repr, DecidableEq, Inhabited

namespace Decimal

/-- The exact value, as a quotient. -/
def ratio (d : Decimal) : Nat × Nat :=
  if 0 ≤ d.exponent then (d.digits * Nat.pow 10 d.exponent.toNat, 1)
  else (d.digits, Nat.pow 10 (-d.exponent).toNat)

/-- Whether a decimal is nearest to a magnitude among all magnitudes. -/
def ReadsBack (d : Decimal) (x : Magnitude) : Prop :=
  Magnitude.ofRatio? d.ratio.1 d.ratio.2 = some x

instance (d : Decimal) (x : Magnitude) : Decidable (d.ReadsBack x) :=
  inferInstanceAs (Decidable (_ = _))

end Decimal

namespace Magnitude

/-- A magnitude in units of a power of ten, as a quotient. -/
def overPowerOfTen (x : Magnitude) (exponent : Int) : Nat × Nat :=
  let (num, den) := x.ratio
  if 0 ≤ exponent then (num, den * Nat.pow 10 exponent.toNat)
  else (num * Nat.pow 10 (-exponent).toNat, den)

/-- The two points of a grid that a magnitude lies between, the nearer one
first. -/
def neighbours (x : Magnitude) (exponent : Int) : List Decimal :=
  let (num, den) := x.overPowerOfTen exponent
  let below := num / den
  if nearest num den = below then [⟨below, exponent⟩, ⟨below + 1, exponent⟩]
  else [⟨below + 1, exponent⟩, ⟨below, exponent⟩]

/-- The nearest point of a grid that reads back. -/
def onGrid? (x : Magnitude) (exponent : Int) : Option Decimal :=
  (x.neighbours exponent).find? (·.ReadsBack x)

theorem readsBack_of_onGrid? {x : Magnitude} {exponent : Int} {d : Decimal}
    (h : x.onGrid? exponent = some d) : d.ReadsBack x := by
  simpa using List.find?_some h

/-- Tries grids, each ten times as fine as the one before. -/
def shortestFrom (x : Magnitude) : (tries : Nat) → (exponent : Int) → Option Decimal
  | 0, _ => none
  | tries + 1, exponent => (x.onGrid? exponent).or (x.shortestFrom tries (exponent - 1))

theorem readsBack_of_shortestFrom {x : Magnitude} {tries : Nat} {exponent : Int} {d : Decimal}
    (h : x.shortestFrom tries exponent = some d) : d.ReadsBack x := by
  induction tries generalizing exponent with
  | zero => simp [shortestFrom] at h
  | succ tries ih =>
    rw [shortestFrom, Option.or_eq_some_iff] at h
    rcases h with h | ⟨-, h⟩
    · exact readsBack_of_onGrid? h
    · exact ih h

/-- The exponent of a grid that is too coarse for a magnitude, but by at most
three steps: the decimal logarithm is 0.30103 times the binary one. -/
def coarseExponent (x : Magnitude) : Int :=
  Int.fdiv ((x.mantissa.log2 + x.exponent + 1) * 30103) 100000 + 1

/-- The grids to try: those that are too coarse, and those of 1 to 17 digits.
Seventeen digits are enough for every magnitude. -/
def gridTries : Nat := 20

/-- The shortest decimal of a magnitude. Zero has one digit on every grid. -/
def shortest? (x : Magnitude) : Option Decimal :=
  if x.mantissa = 0 then some ⟨0, 0⟩ else x.shortestFrom gridTries x.coarseExponent

theorem readsBack_of_shortest? {x : Magnitude} {d : Decimal} (h : x.shortest? = some d)
    (above : x.mantissa ≠ 0) : d.ReadsBack x := by
  rw [shortest?, if_neg above] at h
  exact readsBack_of_shortestFrom h

def shortest (x : Magnitude) : Decimal :=
  x.shortest?.getD ⟨0, 0⟩

end Magnitude

end MenuHost
