/-!
# Doubles

Binary numbers of 53 bits with a bounded exponent, computed on exactly. A
magnitude is `mantissa * 2 ^ exponent`; every operation takes its exact result to
the nearest magnitude (`nearest_within_half`), and of two that are equally near to the
even one.

Magnitudes are kept in one form: the mantissa has all its 53 bits unless the
exponent is the least one. So equal magnitudes are equal values.
-/

namespace MenuHost

/-- The size of a double. -/
structure Magnitude where
  mantissa : Nat
  exponent : Int
deriving Repr, DecidableEq, Inhabited

/-- A finite double: zero has a sign, too. -/
structure Double where
  negative : Bool
  magnitude : Magnitude
deriving Repr, DecidableEq, Inhabited

/-- The whole number nearest to a quotient, of two equally near ones the even
one. -/
def nearest (num den : Nat) : Nat :=
  let whole := num / den
  let rest := num % den
  if 2 * rest < den then whole
  else if den < 2 * rest then whole + 1
  else if whole % 2 = 0 then whole
  else whole + 1

/-- A rounded quotient is off by half a unit at most. -/
theorem nearest_within_half {num den : Nat} (h : 0 < den) :
    2 * num ≤ 2 * (nearest num den * den) + den ∧ 2 * (nearest num den * den) ≤ 2 * num + den := by
  have split : den * (num / den) + num % den = num := Nat.div_add_mod num den
  have below : num % den < den := Nat.mod_lt num h
  have here : num / den * den = den * (num / den) := Nat.mul_comm ..
  have above : (num / den + 1) * den = den * (num / den) + den := by
    rw [Nat.add_mul, Nat.one_mul, here]
  unfold nearest
  by_cases low : 2 * (num % den) < den
  · simp only [low, if_true]
    omega
  · by_cases high : den < 2 * (num % den)
    · simp only [low, high, if_true, if_false]
      omega
    · by_cases even : num / den % 2 = 0 <;> simp only [low, high, even, if_true, if_false] <;> omega

namespace Magnitude

/-- The mantissas are below 2⁵³. -/
def mantissaLimit : Nat := 9007199254740992

def leastExponent : Int := -1074

def greatestExponent : Int := 971

def zero : Magnitude := ⟨0, leastExponent⟩

/-- A quotient over a power of two, as a quotient again. -/
def overPowerOfTwo (num den : Nat) (exponent : Int) : Nat × Nat :=
  if 0 ≤ exponent then (num, den <<< exponent.toNat) else (num <<< (-exponent).toNat, den)

/-- The place of the highest bit of a quotient above 0. The logarithms of its two
parts leave two places to choose from. -/
def highestBit (num den : Nat) : Int :=
  let guess : Int := num.log2 - den.log2
  let (num', den') := overPowerOfTwo num den guess
  if den' ≤ num' then guess else guess - 1

/-- The magnitude nearest to a quotient, if it is not too large for any. -/
def ofRatio? (num den : Nat) : Option Magnitude :=
  if num = 0 then some zero
  else
    let exponent := max (highestBit num den - 52) leastExponent
    let (num, den) := overPowerOfTwo num den exponent
    let mantissa := nearest num den
    let rounded :=
      if mantissa = mantissaLimit then ⟨mantissaLimit / 2, exponent + 1⟩
      else ⟨mantissa, exponent⟩
    if greatestExponent < rounded.exponent then none else some rounded

/-- The exact value, as a quotient. -/
def ratio (x : Magnitude) : Nat × Nat :=
  overPowerOfTwo x.mantissa 1 (-x.exponent)

def mul? (x y : Magnitude) : Option Magnitude :=
  ofRatio? (x.ratio.1 * y.ratio.1) (x.ratio.2 * y.ratio.2)

/-- The quotient of two magnitudes, of which the second is not 0. -/
def div? (x y : Magnitude) : Option Magnitude :=
  ofRatio? (x.ratio.1 * y.ratio.2) (x.ratio.2 * y.ratio.1)

def powerOfTen? (n : Nat) : Option Magnitude :=
  ofRatio? (Nat.pow 10 n) 1

/-- The largest power of ten there is a magnitude for. -/
def greatestPower : Int := 308

/-- The magnitude of some digits and a power of ten. The digits, the power and
their product or quotient are each taken to the nearest magnitude, so that the
result may lie one magnitude beside the nearest. Exponents below the least power
are divided off in two steps. -/
def ofScientific? (digits : Nat) (exponent : Int) : Option Magnitude := do
  let x ← ofRatio? digits 1
  if greatestPower < exponent then
    if digits = 0 then some zero else none
  else if 0 ≤ exponent then
    x.mul? (← powerOfTen? exponent.toNat)
  else if -greatestPower ≤ exponent then
    x.div? (← powerOfTen? (-exponent).toNat)
  else if -2 * greatestPower ≤ exponent then
    let small ← x.div? (← powerOfTen? greatestPower.toNat)
    small.div? (← powerOfTen? (-exponent - greatestPower).toNat)
  else some zero

end Magnitude

end MenuHost
