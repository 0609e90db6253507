/-!
This module contains binary64 numbers as exact values: how a decimal is rounded to one, and the
shortest decimal that is rounded back to it. All of it is arithmetic on natural numbers.
-/

namespace ModularSynth

inductive Binary64
  /-- The number `mantissa * 2 ^ exponent`, or its negative. -/
  | finite (negative : Bool) (mantissa : Nat) (exponent : Int)
  | infinity (negative : Bool)
  | nan
  deriving DecidableEq

namespace Binary64

def twoTo (n : Nat) : Nat := Nat.pow 2 n

def tenTo (n : Nat) : Nat := Nat.pow 10 n

def precision : Nat := 53

/-- The least exponent; numbers with this exponent may have a shorter mantissa. -/
def minExponent : Int := -1074

def maxExponent : Int := 971

/-- `num / den` rounded to the nearest natural number, half way cases to the even one. -/
def divideToEven (num den : Nat) : Nat :=
  let q := num / den
  let r := num % den
  if 2 * r < den then q
  else if den < 2 * r then q + 1
  else if q % 2 = 0 then q else q + 1

/-- `num * 2 ^ (-e)`, as a fraction. -/
def scaleDown (num den : Nat) (e : Int) : Nat × Nat :=
  if 0 ≤ e then (num, den * twoTo e.toNat) else (num * twoTo (-e).toNat, den)

/-- The number nearest to `num / den`, half way cases rounded to even mantissas. -/
def ofFraction (negative : Bool) (num den : Nat) : Binary64 :=
  if num = 0 then
    .finite negative 0 minExponent
  else
    let estimate : Int := (Nat.log2 num : Int) - Nat.log2 den - (precision - 1 : Nat)
    let (n, d) := scaleDown num den estimate
    let e := if n < d * twoTo (precision - 1) then estimate - 1 else estimate
    let e := max e minExponent
    let (n, d) := scaleDown num den e
    let m := divideToEven n d
    let (m, e) := if m = twoTo precision then (twoTo (precision - 1), e + 1) else (m, e)
    if maxExponent < e then .infinity negative else .finite negative m e

/--
The decimal `digits * 10 ^ exponent`, rounded to the nearest number. Decimals that are far out of
range are not written out.
-/
def ofDecimal (negative : Bool) (digits : Nat) (exponent : Int) : Binary64 :=
  let top : Int := exponent + (Nat.toDigits 10 digits).length
  if digits = 0 ∨ top < -330 then .finite negative 0 minExponent
  else if 330 < top then .infinity negative
  else if 0 ≤ exponent then ofFraction negative (digits * tenTo exponent.toNat) 1
  else ofFraction negative digits (tenTo (-exponent).toNat)

/-- The exponent of the first decimal digit of the fraction `num / den`, which is not zero. -/
def decimalExponent (num den : Nat) : Int :=
  if den ≤ num then
    (Nat.toDigits 10 (num / den)).length - 1
  else
    -((Nat.toDigits 10 ((den - 1) / num)).length : Int)

/-- A decimal, `digits * 10 ^ exponent`. -/
structure Decimal where
  digits : Nat
  exponent : Int
  deriving DecidableEq

/--
The decimals that are rounded to a number lie between two bounds. The bounds and the number are
multiples of a common unit, `2 ^ (exponent - 2)`; the bounds belong to the interval if the mantissa
is even.
-/
structure Interval where
  low : Nat
  value : Nat
  high : Nat
  closed : Bool

/-- Below a power of two the numbers lie twice as close. -/
def interval (mantissa : Nat) (exponent : Int) : Interval where
  low :=
    if mantissa = twoTo (precision - 1) ∧ minExponent < exponent then 4 * mantissa - 1
    else 4 * mantissa - 2
  value := 4 * mantissa
  high := 4 * mantissa + 2
  closed := mantissa % 2 = 0

/-- `n` multiples of the unit are in the interval; the unit is `den` here. -/
def Interval.contains (i : Interval) (n den : Nat) : Bool :=
  if i.closed then i.low * den ≤ n && n ≤ i.high * den else i.low * den < n && n < i.high * den

/--
The decimal with `count` digits that lies in the interval and is nearest to the number, if there is
one. Only the two neighbours of the number on the grid of these decimals are tried.
-/
def nearest? (mantissa : Nat) (exponent : Int) (count : Nat) : Option Decimal :=
  let i := interval mantissa exponent
  let (num, den) := scaleDown i.value 1 (2 - exponent)
  let k := decimalExponent num den - (count - 1 : Nat)
  let unit := exponent - 2
  -- one step of the grid is `stepNum / stepDen` units
  let stepNum := tenTo k.toNat * twoTo (-unit).toNat
  let stepDen := tenTo (-k).toNat * twoTo unit.toNat
  let below := i.value * stepDen / stepNum
  let lower := below * stepNum
  let upper := (below + 1) * stepNum
  let value := i.value * stepDen
  -- the upper neighbour of a row of nines has one more digit, a zero
  let above : Decimal :=
    if below + 1 = tenTo count then ⟨tenTo (count - 1), k + 1⟩ else ⟨below + 1, k⟩
  match i.contains lower stepDen, i.contains upper stepDen with
  | true, true => some (if value - lower < upper - value then ⟨below, k⟩ else above)
  | true, false => some ⟨below, k⟩
  | false, true => some above
  | false, false => none

/-- The shortest decimal that is rounded to a number; 17 digits are always enough. -/
def shortest (mantissa : Nat) (exponent : Int) : Decimal :=
  ((List.range 17).findSome? fun n => nearest? mantissa exponent (n + 1)).getD ⟨0, 0⟩

/-- A decimal in positional notation with a point and at least one digit on each side of it. -/
def Decimal.text (d : Decimal) : String :=
  let digits := Nat.toDigits 10 d.digits
  if 0 ≤ d.exponent then
    String.ofList (digits ++ List.replicate d.exponent.toNat '0') ++ ".0"
  else
    let places := (-d.exponent).toNat
    let digits := List.replicate (places + 1 - digits.length) '0' ++ digits
    let (whole, fraction) := digits.splitAt (digits.length - places)
    String.ofList whole ++ "." ++ String.ofList fraction

/-- The shortest text that reads back as the number, always with a point if it is finite. -/
def text : Binary64 → String
  | .finite negative mantissa exponent =>
    (if negative then "-" else "") ++
      if mantissa = 0 then "0.0" else (shortest mantissa exponent).text
  | .infinity negative => if negative then "-inf" else "inf"
  | .nan => "NaN"

end Binary64
end ModularSynth
