import ModularSynth.Toml.Scan
import ModularSynth.Toml.Quoted
import ModularSynth.Toml.Value

/-!
This module contains the reading of TOML numbers: integers in four bases, and floats.
-/

namespace ModularSynth
namespace Toml

def sign : List Char → Bool × List Char
  | '-' :: s => (true, s)
  | '+' :: s => (false, s)
  | s => (false, s)

/-- The digits of a decimal integer, which has no needless zero in front. -/
def decimalDigits? : Reader (List Char)
  | '0' :: s => some (['0'], s)
  | s => digits? Char.isDigit s

def decimalValue (digits : List Char) : Nat :=
  Nat.ofDigitChars 10 digits 0

/-- Integers have 64 bits. -/
def integer64? (negative : Bool) (n : Nat) : Option Value :=
  let z : Int := if negative then -(n : Int) else n
  if Int64.minValue.toInt ≤ z ∧ z ≤ Int64.maxValue.toInt then some (.integer z) else none

def basedInteger? (base : Nat) (isDigit : Char → Bool) (s : List Char) :
    Option (Value × List Char) := do
  let (digits, rest) ← digits? isDigit s
  let n := digits.foldl (fun n c => base * n + hexDigitValue c) 0
  return (← integer64? false n, rest)

def integer? : Reader Value
  | '0' :: 'x' :: s => basedInteger? 16 isHexDigit s
  | '0' :: 'o' :: s => basedInteger? 8 (fun c => '0' ≤ c && c ≤ '7') s
  | '0' :: 'b' :: s => basedInteger? 2 (fun c => c = '0' || c = '1') s
  | s => do
    let (negative, s) := sign s
    let (digits, rest) ← decimalDigits? s
    return (← integer64? negative (decimalValue digits), rest)

def fraction? : Reader (List Char)
  | '.' :: s => digits? Char.isDigit s
  | _ => none

def exponent? : Reader Int
  | c :: s =>
    if c = 'e' || c = 'E' then do
      let (negative, s) := sign s
      let (digits, rest) ← digits? Char.isDigit s
      let n : Int := decimalValue digits
      return (if negative then -n else n, rest)
    else
      none
  | [] => none

/-- A float has digits behind a point, an exponent, or both. -/
def fractionAndExponent? (s : List Char) : Option ((List Char × Int) × List Char) :=
  match fraction? s with
  | some (digits, s) =>
    match exponent? s with
    | some (e, rest) => some ((digits, e), rest)
    | none => some ((digits, 0), s)
  | none => (exponent? s).map fun (e, rest) => (([], e), rest)

/-- A positive float that is too large is refused. -/
def float? (s : List Char) : Option (Value × List Char) := do
  let (negative, s) := sign s
  let (whole, s) ← decimalDigits? s
  let ((fraction, e), rest) ← fractionAndExponent? s
  let x := Binary64.ofDecimal negative (decimalValue (whole ++ fraction)) (e - fraction.length)
  if x = .infinity false then none else some (.float x, rest)

def specialFloat? (s : List Char) : Option (Value × List Char) :=
  let (negative, s) := sign s
  match word? "inf".toList s with
  | some rest => some (.float (.infinity negative), rest)
  | none => (word? "nan".toList s).map fun rest => (.float .nan, rest)

/-- A float if the text begins with one, else an integer. -/
def number? (s : List Char) : Option (Value × List Char) :=
  match float? s with
  | some r => some r
  | none =>
    match specialFloat? s with
    | some r => some r
    | none => integer? s

end Toml
end ModularSynth
