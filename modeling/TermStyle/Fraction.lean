/-
# Numbers with a fraction

A number with a fraction is written in decimal and held in binary: what is held is the number with
53 binary digits that lies nearest to what is written, and of two that are equally near, the one
whose last digit is even.  So such a number can differ from the whole number that is written the
same way:

| written | held |
| --- | --- |
| `0.5` | 1/2 |
| `9007199254740993.0` | 9007199254740992 |
| `1e+23` | 99999999999999991611392 |

No binary place below the 1074th after the point is held.  There is no greatest number.

Its text has the digits that it was written with, but no zeros at their end: in positional
notation from 10⁻⁴ on to below 10¹⁶, and with a power of ten outside of that.
-/

import TermStyle.Text.Basic

namespace TermStyle

/-- A number with a fraction, as written: so many units of a power of ten. -/
structure Fraction where
  /-- Whether a minus sign comes first.  Zero can have one. -/
  negative : Bool
  /-- The digits, as a whole number. -/
  units : Nat
  /-- The power of ten of the last digit. -/
  power : Int
  deriving DecidableEq, Repr

namespace Fraction

/-- The whole number nearest to a quotient, and of two equally near ones the even one. -/
def nearest (num den : Nat) : Nat :=
  let below := num / den
  let left := num % den
  if 2 * left < den ∨ (2 * left = den ∧ below % 2 = 0) then below else below + 1

/-- **Rounding moves a quotient by half a unit at most.** -/
theorem nearest_near {den : Nat} (hden : 0 < den) (num : Nat) :
    2 * (den * nearest num den) ≤ 2 * num + den ∧ 2 * num ≤ 2 * (den * nearest num den) + den := by
  have hsum : den * (num / den) + num % den = num := Nat.div_add_mod num den
  have hlt : num % den < den := Nat.mod_lt _ hden
  simp only [nearest]
  split
  · omega
  · rw [Nat.mul_add]
    omega

/-- The number that is held, without its sign.  The quotient that is written has 53 digits, or 54,
before the binary place `low`. -/
def magnitude (f : Fraction) : Rat :=
  let num := f.units * Nat.pow 10 f.power.toNat
  let den := Nat.pow 10 (-f.power).toNat
  let low : Int := max (Int.ofNat num.log2 - Int.ofNat den.log2 - 53) (-1074)
  let place :=
    if num <<< (-low).toNat < den <<< (low.toNat + 53) then low else low + 1
  let digits := nearest (num <<< (-place).toNat) (den <<< place.toNat)
  mkRat (digits <<< place.toNat) (1 <<< (-place).toNat)

/-- The number that is held. -/
def value (f : Fraction) : Rat := if f.negative then -f.magnitude else f.magnitude

/-- Digits without the zeros that end them. -/
def withoutZeros (ds : Text) : Text := (ds.reverse.dropWhile (· == '0')).reverse

/-- Positional notation of digits, the first of which has the given power of ten, with a fraction of
at least one digit. -/
def positional (ds : Text) (power : Int) : Text :=
  let ds := List.replicate (-power).toNat '0' ++ ds
  let size := power.toNat + 1
  let fraction := ds.drop size
  ds.take size ++ List.replicate (size - ds.length) '0' ++
    '.' :: (if fraction.isEmpty then ['0'] else fraction)

/-- One digit, a fraction if there is more, and the power of ten, of two digits or more. -/
def withPower (ds : Text) (power : Int) : Text :=
  let fraction := ds.drop 1
  let size := Text.digits power.natAbs
  ds.take 1 ++ (if fraction.isEmpty then [] else '.' :: fraction) ++
    'e' :: (if power < 0 then '-' else '+') :: (List.replicate (2 - size.length) '0' ++ size)

/-- The text of a number with a fraction. -/
def text (f : Fraction) : Text :=
  let ds := Text.digits f.units
  let power := if f.units = 0 then 0 else f.power + ds.length - 1
  let sign : Text := if f.negative then ['-'] else []
  sign ++ if -4 ≤ power ∧ power < 16 then positional (withoutZeros ds) power
    else withPower (withoutZeros ds) power

example : value ⟨false, 1, 23⟩ = 99999999999999991611392 ∧ value ⟨true, 5, -1⟩ = -1 / 2 := by
  decide +kernel
example : value ⟨false, 90071992547409930, -1⟩ = 9007199254740992 ∧
    value ⟨false, 90071992547409950, -1⟩ = 9007199254740996 := by decide +kernel
example : text ⟨true, 1250, -3⟩ = "-1.25".toList ∧ text ⟨false, 1, -4⟩ = "0.0001".toList ∧
    text ⟨false, 15, -6⟩ = "1.5e-05".toList ∧ text ⟨false, 1, 16⟩ = "1e+16".toList ∧
    text ⟨false, 120, 0⟩ = "120.0".toList ∧ text ⟨true, 0, -1⟩ = "-0.0".toList := by decide +kernel

end Fraction
end TermStyle
