namespace AsmNotebook
namespace Decimal

/-!
Finite binary floating-point numbers with 53 significant bits, computed in exact
natural-number arithmetic.  Products, quotients and conversions are rounded once,
to the nearest number and to the even one of two that are equally near.
-/

/-- The magnitude `mantissa * 2 ^ exponent`; every operation below keeps the mantissa under
`2 ^ 53` and the exponent from -1074 to 971. -/
structure Magnitude where
  mantissa : Nat
  exponent : Int
deriving DecidableEq, Repr

/-- A number with its sign; zero has one too. -/
structure Binary64 where
  negative : Bool
  magnitude : Magnitude
deriving DecidableEq, Repr

namespace Magnitude

def zero : Magnitude where
  mantissa := 0
  exponent := -1074

/-- The quotient `num / den` rounded to the nearest natural number, a tie to the even one. -/
def roundQuotient (num den : Nat) : Nat :=
  let floor := num / den
  let twice := 2 * (num % den)
  if twice < den then floor
  else if den < twice then floor + 1
  else if floor % 2 = 0 then floor else floor + 1

/-- The fraction `num / (den * 2 ^ exponent)` as numerator and denominator. -/
def scaled (num den : Nat) (exponent : Int) : Nat × Nat :=
  if 0 ≤ exponent then (num, den * Nat.pow 2 exponent.toNat) else (num * Nat.pow 2 (-exponent).toNat, den)

/-- The binary exponent at which the quotient `num / den` has 53 bits before the point. -/
def exponentOf (num den : Nat) : Int :=
  let low : Int := (num.log2 : Int) - (den.log2 : Int) - 53
  let (n, d) := scaled num den low
  let exact := if Nat.pow 2 53 ≤ n / d then low + 1 else low
  max exact (-1074)

/-- The number nearest to `num / den`, or nothing beyond the largest one. -/
def ofRatio (num den : Nat) : Option Magnitude :=
  if num = 0 then
    some zero
  else
    let exponent := exponentOf num den
    let (n, d) := scaled num den exponent
    let mantissa := roundQuotient n d
    let result : Magnitude :=
      if mantissa = Nat.pow 2 53 then ⟨Nat.pow 2 52, exponent + 1⟩ else ⟨mantissa, exponent⟩
    if 971 < result.exponent then none else some result

/-- A number as a fraction. -/
def ratio (x : Magnitude) : Nat × Nat :=
  if 0 ≤ x.exponent then
    (x.mantissa * Nat.pow 2 x.exponent.toNat, 1)
  else
    (x.mantissa, Nat.pow 2 (-x.exponent).toNat)

def mul (x y : Magnitude) : Option Magnitude :=
  ofRatio (x.ratio.1 * y.ratio.1) (x.ratio.2 * y.ratio.2)

def div (x y : Magnitude) : Option Magnitude :=
  ofRatio (x.ratio.1 * y.ratio.2) (x.ratio.2 * y.ratio.1)

/-- The number nearest to `10 ^ power`, for powers up to 308. -/
def powerOfTen (power : Nat) : Magnitude :=
  (ofRatio (Nat.pow 10 power) 1).getD zero

/-- A number times a power of ten.  The power is rounded before the product or quotient is; a power
too small to be written is taken in steps of 308, at most `fuel` of them before nothing is left of the
number.  Nothing stands for a number too large. -/
def scaleByTen (fuel : Nat) (x : Magnitude) (exponent : Int) : Option Magnitude :=
  if exponent.natAbs ≤ 308 then
    if 0 ≤ exponent then x.mul (powerOfTen exponent.toNat) else x.div (powerOfTen (-exponent).toNat)
  else if x.mantissa = 0 then
    some x
  else if 0 ≤ exponent then
    none
  else
    match fuel with
    | 0 => some zero
    | fuel + 1 =>
      match x.div (powerOfTen 308) with
      | none => none
      | some smaller => scaleByTen fuel smaller (exponent + 308)

/-- The number that a significand of at most 64 bits with a decimal exponent is read as. -/
def ofDecimal (significand : Nat) (exponent : Int) : Option Magnitude :=
  match ofRatio significand 1 with
  | none => none
  | some x => scaleByTen 4 x exponent

end Magnitude

end Decimal
end AsmNotebook
