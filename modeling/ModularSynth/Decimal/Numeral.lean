/-!
This module contains the decimal numerals that slots are numbered with: how they are read and
written, and that a number is read back from what is written for it.
-/

namespace ModularSynth
namespace Numeral

/-- The part of a numeral behind its sign; the only sign a numeral may have is one `+`. -/
def unsigned : List Char → List Char
  | '+' :: cs => cs
  | cs => cs

def value (digits : List Char) : Nat :=
  Nat.ofDigitChars 10 digits 0

/-- A numeral is an optional `+` and one or more ASCII digits, with a value that fits 64 bits. -/
def read? (cs : List Char) : Option UInt64 :=
  let digits := unsigned cs
  if !digits.isEmpty && digits.all Char.isDigit && value digits < UInt64.size then
    some (UInt64.ofNat (value digits))
  else
    none

/-- The shortest numeral of a number, without a sign. -/
def write (n : UInt64) : List Char :=
  Nat.toDigits 10 n.toNat

theorem write_ne_nil {n : UInt64} : write n ≠ [] :=
  Nat.toDigits_ne_nil

theorem isDigit_of_mem_write {n : UInt64} {c : Char} (h : c ∈ write n) : c.isDigit = true :=
  Nat.isDigit_of_mem_toDigits (by decide) (by decide) h

theorem unsigned_eq_self {cs : List Char} (h : ∀ c ∈ cs, c.isDigit = true) : unsigned cs = cs := by
  unfold unsigned
  split
  case h_1 cs => simp at h
  case h_2 => rfl

theorem value_write {n : UInt64} : value (write n) = n.toNat :=
  Nat.ofDigitChars_ten_toDigits

theorem read?_write (n : UInt64) : read? (write n) = some n := by
  have hdigits : ∀ c ∈ write n, c.isDigit = true := fun c h => isDigit_of_mem_write h
  simp only [read?, unsigned_eq_self hdigits, value_write]
  simpa [write_ne_nil, n.toNat_lt] using hdigits

theorem write_injective : Function.Injective write := by
  intro m n h
  have hread := read?_write m
  rw [h, read?_write] at hread
  exact (Option.some.inj hread).symm

end Numeral
end ModularSynth
