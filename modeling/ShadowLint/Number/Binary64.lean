/-!
Binary floating-point numbers of 64 bits, as exact integers: a finite one is
`significand · 2 ^ exponent`. A decimal is read as the nearest of them, an exact
half going to the even significand.
-/

namespace ShadowLint.Number

/-- A number of 64-bit binary floating point. The significand of a finite one is
below 2⁵³, and not below 2⁵² unless the exponent is -1074. -/
inductive Binary64 where
  | nan
  | infinite (negative : Bool)
  | finite (negative : Bool) (significand : Nat) (exponent : Int)
  deriving DecidableEq, Repr

/-- The integer nearest to a quotient, an exact half going to the even one. -/
def roundQuotient (numerator denominator : Nat) : Nat :=
  let floor := numerator / denominator
  let twice := 2 * (numerator % denominator)
  if twice < denominator then floor
  else if denominator < twice then floor + 1
  else if floor % 2 = 0 then floor
  else floor + 1

example : roundQuotient 5 2 = 2 := by decide

def scaleByTwo (numerator denominator : Nat) (power : Int) : Nat × Nat :=
  (numerator * Nat.pow 2 power.toNat, denominator * Nat.pow 2 (-power).toNat)

namespace Binary64

def ofFraction (negative : Bool) (numerator denominator : Nat) : Binary64 :=
  let guess : Int := (numerator.log2 : Int) - denominator.log2 - 52
  let (scaled, unit) := scaleByTwo numerator denominator (-guess)
  let exponent := max (-1074) (if scaled < unit * Nat.pow 2 52 then guess - 1 else guess)
  let (scaled, unit) := scaleByTwo numerator denominator (-exponent)
  let significand := roundQuotient scaled unit
  let (significand, exponent) :=
    if significand = Nat.pow 2 53 then (Nat.pow 2 52, exponent + 1) else (significand, exponent)
  if 971 < exponent then .infinite negative else .finite negative significand exponent

/-- The nearest number to `digits · 10 ^ power`. Beyond the range of exponents
the answer is known from the count of digits alone. -/
def ofDecimal (negative : Bool) (digits : Nat) (power : Int) : Binary64 :=
  if digits = 0 then .finite negative 0 (-1074)
  else
    let magnitude : Int := (Nat.toDigits 10 digits).length + power
    if 310 < magnitude then .infinite negative
    else if magnitude < -330 then .finite negative 0 (-1074)
    else ofFraction negative (digits * Nat.pow 10 power.toNat) (Nat.pow 10 (-power).toNat)

end Binary64

end ShadowLint.Number
