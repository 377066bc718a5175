import AsmNotebook.Decimal.Binary64

namespace AsmNotebook
namespace Decimal

/-!
The shortest decimal that reads back as a given binary number.  Among the grids
of one, two, … seventeen digits the first one is taken that has a point in the
interval of reals rounding to the number; of two such points the nearer one, and
at equal distance the one with the even last digit.
-/

/-- The decimal `digits * 10 ^ exponent`. -/
structure Digits where
  digits : Nat
  exponent : Int
deriving DecidableEq, Repr

/-- Reals that round to a number: `low`, `value` and `high` over one denominator, the ends included
when the mantissa is even. -/
structure Interval where
  low : Nat
  value : Nat
  high : Nat
  den : Nat
  closed : Bool

namespace Interval

/-- The interval of a positive number.  Below a power of two the gap is half as wide. -/
def of (x : Magnitude) : Interval :=
  let narrow := x.mantissa = Nat.pow 2 52 ∧ -1074 < x.exponent
  let power := x.exponent - 2
  let num := if 0 ≤ power then Nat.pow 2 power.toNat else 1
  let den := if 0 ≤ power then 1 else Nat.pow 2 (-power).toNat
  { low := (4 * x.mantissa - if narrow then 1 else 2) * num
    value := 4 * x.mantissa * num
    high := (4 * x.mantissa + 2) * num
    den := den
    closed := x.mantissa % 2 = 0 }

/-- Whether the fraction `num / den` lies in the interval. -/
def contains (i : Interval) (num den : Nat) : Bool :=
  if i.closed then
    i.low * den ≤ num * i.den && num * i.den ≤ i.high * den
  else
    i.low * den < num * i.den && num * i.den < i.high * den

/-- Decimal exponent of the leading digit of `num / den`. -/
def leadingExponent (num den : Nat) : Int :=
  let guess : Int := ((Nat.toDigits 10 num).length : Int) - ((Nat.toDigits 10 den).length : Int)
  let reached :=
    if 0 ≤ guess then den * Nat.pow 10 guess.toNat ≤ num else den ≤ num * Nat.pow 10 (-guess).toNat
  if reached then guess else guess - 1

/-- The point of the grid of `count` digits that stands for the interval, if one does. -/
def pointOn (i : Interval) (count : Nat) : Option Digits :=
  let exponent := leadingExponent i.value i.den - (count : Int) + 1
  let gridNum := if 0 ≤ exponent then Nat.pow 10 exponent.toNat else 1
  let gridDen := if 0 ≤ exponent then 1 else Nat.pow 10 (-exponent).toNat
  let below := i.value * gridDen / (i.den * gridNum)
  let inBelow := i.contains (below * gridNum) gridDen
  let inAbove := i.contains ((below + 1) * gridNum) gridDen
  let twice := 2 * (i.value * gridDen % (i.den * gridNum))
  let middle := i.den * gridNum
  let takeBelow :=
    if inBelow && inAbove then
      twice < middle || (twice == middle && below % 2 == 0)
    else
      inBelow
  if takeBelow then some ⟨below, exponent⟩
  else if inAbove then some ⟨below + 1, exponent⟩
  else none

/-- The first grid of at most `fuel` more digits that has a point for the interval. -/
def firstPoint (i : Interval) : Nat → Nat → Digits
  | 0, _ => ⟨0, 0⟩
  | fuel + 1, count =>
    match i.pointOn count with
    | some point => point
    | none => firstPoint i fuel (count + 1)

end Interval

/-- Remove trailing zeros, at most `fuel` of them. -/
def stripZeros : Nat → Digits → Digits
  | 0, d => d
  | fuel + 1, d =>
    if d.digits % 10 = 0 ∧ d.digits ≠ 0 then stripZeros fuel ⟨d.digits / 10, d.exponent + 1⟩ else d

/-- The shortest decimal of a positive number. -/
def shortest (x : Magnitude) : Digits :=
  stripZeros 20 ((Interval.of x).firstPoint 17 1)

/-- How decimals are laid out: positionally while the point stands at most `before` digits to the
right of the first digit and at most `after` zeros precede that digit; with an exponent otherwise,
in front of which `plus` stands unless it is negative. -/
structure Layout where
  before : Nat
  after : Nat
  plus : List Char

/-- A decimal in a layout.  Whole numbers keep one zero behind the point. -/
def Layout.write (layout : Layout) (d : Digits) : String :=
  let digits := Nat.toDigits 10 d.digits
  let point : Int := digits.length + d.exponent
  let text :=
    if 0 ≤ d.exponent ∧ point ≤ layout.before then
      digits ++ List.replicate d.exponent.toNat '0' ++ ['.', '0']
    else if 0 < point ∧ point ≤ layout.before then
      digits.take point.toNat ++ '.' :: digits.drop point.toNat
    else if -(layout.after : Int) < point ∧ point ≤ 0 then
      ['0', '.'] ++ List.replicate (-point).toNat '0' ++ digits
    else
      let sign := if 1 ≤ point then layout.plus else []
      let mark := 'e' :: sign ++ (toString (point - 1)).toList
      match digits with
      | [] => mark
      | [digit] => digit :: mark
      | digit :: more => digit :: '.' :: more ++ mark
  String.ofList text

/-- Numbers in documents and messages are positional from `0.00001` up to sixteen digits. -/
def documentLayout : Layout where
  before := 16
  after := 5
  plus := ['+']

/-- A number in the layout of documents. -/
def Binary64.write (x : Binary64) : String :=
  let sign := if x.negative then "-" else ""
  if x.magnitude.mantissa = 0 then
    sign ++ "0.0"
  else
    sign ++ documentLayout.write (shortest x.magnitude)

end Decimal
end AsmNotebook
