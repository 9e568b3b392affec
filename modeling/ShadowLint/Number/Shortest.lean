import ShadowLint.Number.Binary64

/-!
The shortest decimal that reads back as a given number: of the decimals inside
the interval of reals that round to the number, one with the fewest digits, and
among those the nearest to the number.
-/

namespace ShadowLint.Number

/-- The decimal `0.d₁d₂… · 10 ^ point`, by its digits. -/
structure Decimal where
  digits : List Char
  point : Int
  deriving DecidableEq, Repr

private def leadingPower (numerator denominator : Nat) : (fuel : Nat) → Int
  | 0 => 0
  | fuel + 1 =>
    if denominator ≤ numerator then ((Nat.toDigits 10 (numerator / denominator)).length : Int) - 1
    else leadingPower (numerator * 10) denominator fuel - 1

/-- The reals that round to a number, all over one denominator. -/
structure RoundingInterval where
  lower : Nat
  value : Nat
  upper : Nat
  denominator : Nat
  closed : Bool

/-- The interval of `significand · 2 ^ exponent`. The gap below a power of two
is half the gap above it. -/
def RoundingInterval.of (significand : Nat) (exponent : Int) : RoundingInterval :=
  let (value, denominator) := scaleByTwo (4 * significand) 4 exponent
  let (unit, _) := scaleByTwo 1 1 exponent
  { lower := value - (if significand = Nat.pow 2 52 ∧ -1074 < exponent then unit else 2 * unit)
    value
    upper := value + 2 * unit
    denominator
    closed := significand % 2 = 0 }

def RoundingInterval.holds (interval : RoundingInterval) (count : Nat) (power : Int) : Bool :=
  let scaled := count * Nat.pow 10 power.toNat * interval.denominator
  let scale := Nat.pow 10 (-power).toNat
  if interval.closed then
    interval.lower * scale ≤ scaled && scaled ≤ interval.upper * scale
  else
    interval.lower * scale < scaled && scaled < interval.upper * scale

/-- The candidate of the grid of step `10 ^ power` that is in the interval, the
nearer one if both neighbours of the number are. -/
def RoundingInterval.onGrid? (interval : RoundingInterval) (power : Int) : Option Nat :=
  let numerator := interval.value * Nat.pow 10 (-power).toNat
  let denominator := interval.denominator * Nat.pow 10 power.toNat
  let below := numerator / denominator
  match interval.holds below power, interval.holds (below + 1) power with
  | true, true => some (roundQuotient numerator denominator)
  | true, false => some below
  | false, true => some (below + 1)
  | false, false => none

private def firstGrid (interval : RoundingInterval) (leading : Int) :
    (fuel : Nat) → (digits : Nat) → Decimal
  | 0, _ => ⟨['0'], 1⟩
  | fuel + 1, digits =>
    let power := leading - digits + 1
    match interval.onGrid? power with
    | some count =>
      let text := Nat.toDigits 10 count
      let trimmed := (text.reverse.dropWhile (· == '0')).reverse
      ⟨if trimmed.isEmpty then ['0'] else trimmed, text.length + power⟩
    | none => firstGrid interval leading fuel (digits + 1)

def shortest (significand : Nat) (exponent : Int) : Decimal :=
  if significand = 0 then ⟨['0'], 1⟩
  else
    let interval := RoundingInterval.of significand exponent
    let leading := leadingPower interval.value interval.denominator 400
    firstGrid interval leading 20 1

private def digitsOrZero (digits : List Char) : List Char :=
  if digits.isEmpty then ['0'] else digits

/-- The text of a decimal: positional with at least one digit after the point
from 10⁻⁴ up to below 10¹⁶, and otherwise with an exponent of at least two
digits. -/
def Decimal.text (decimal : Decimal) : List Char :=
  let count : Int := decimal.digits.length
  if -4 < decimal.point ∧ decimal.point ≤ 16 then
    if decimal.point ≤ 0 then
      '0' :: '.' :: List.replicate (-decimal.point).toNat '0' ++ decimal.digits
    else
      let padded := decimal.digits ++ List.replicate (decimal.point - count).toNat '0'
      padded.take decimal.point.toNat ++
        '.' :: digitsOrZero (padded.drop decimal.point.toNat)
  else
    let power := decimal.point - 1
    let fraction := decimal.digits.drop 1
    let exponent := Nat.toDigits 10 power.natAbs
    decimal.digits.take 1 ++ (if fraction.isEmpty then [] else '.' :: fraction) ++
      'e' :: (if power < 0 then '-' else '+') ::
        (List.replicate (2 - exponent.length) '0' ++ exponent)

namespace Binary64

structure Spelling where
  nan : String
  infinity : String

def text (spelling : Spelling) : Binary64 → String
  | .nan => spelling.nan
  | .infinite negative => (if negative then "-" else "") ++ spelling.infinity
  | .finite negative significand exponent =>
    String.ofList ((if negative then ['-'] else []) ++ (shortest significand exponent).text)

def messageSpelling : Spelling := ⟨"nan", "inf"⟩

def jsonSpelling : Spelling := ⟨"NaN", "Infinity"⟩

example : (ofDecimal false 5 (-324)).text messageSpelling = "5e-324" := by decide +kernel

end Binary64

end ShadowLint.Number
