/-
This file finds the fewest decimal digits that still single out a binary number
among its neighbours. The numbers that read back as a given one are those within
half the distance to its neighbours, the ends included exactly when its mantissa
is even. For each count of digits the decimals with that many digits form a
grid, and the only candidates on it are the two grid points around the number;
the first grid with a candidate inside the interval wins, and of two candidates
the nearer one. A number exactly half way between them takes the larger.

All of it is arithmetic on natural numbers: the magnitude and the ends of its
interval are counted in quarters of the last place, and a comparison with a
decimal multiplies both sides by the denominators.
-/

import ClassMembers.Decimal.Binary

namespace ClassMembers.Decimal

/-- The decimal `significand · 10 ^ exponent`. -/
structure Digits where
  significand : Nat
  exponent : Int
  deriving DecidableEq

/-- The number of decimal digits of a natural number, none for zero. -/
def digitCount (n : Nat) : Nat :=
  if n = 0 then 0 else (Nat.toDigits 10 n).length

/-- The magnitude in quarters of its last place. -/
def Magnitude.quarters (magnitude : Magnitude) : Nat :=
  4 * magnitude.mantissa

/-- The lower end of the interval that reads back, in the same unit. -/
def Magnitude.lowerEnd (magnitude : Magnitude) : Nat :=
  magnitude.quarters - if magnitude.narrowBelow then 1 else 2

/-- The upper end of the interval that reads back, in the same unit. -/
def Magnitude.upperEnd (magnitude : Magnitude) : Nat :=
  magnitude.quarters + 2

/-- The factor of a count of quarters, and that of a decimal with the given
exponent, after which the two can be compared as natural numbers. -/
def Magnitude.factors (magnitude : Magnitude) (exponent : Int) : Nat × Nat :=
  let quarterExponent := magnitude.exponent - 2
  (Nat.pow 2 quarterExponent.toNat * Nat.pow 10 (-exponent).toNat,
    Nat.pow 2 (-quarterExponent).toNat * Nat.pow 10 exponent.toNat)

/-- The exponent of the leading decimal digit. -/
def Magnitude.leadingExponent (magnitude : Magnitude) : Int :=
  let (scale, unit) := magnitude.factors 0
  let numerator := magnitude.quarters * scale
  if unit ≤ numerator then digitCount (numerator / unit) - 1
  else -(digitCount ((unit - 1) / numerator) : Int)

/-- Whether a decimal on the grid of the given exponent reads back. -/
def Magnitude.readsBack (magnitude : Magnitude) (exponent : Int) (significand : Nat) : Bool :=
  let (scale, unit) := magnitude.factors exponent
  let low := magnitude.lowerEnd * scale
  let high := magnitude.upperEnd * scale
  let point := significand * unit
  if magnitude.mantissa % 2 = 0 then low ≤ point && point ≤ high
  else low < point && point < high

/-- The decimal on the grid of the given exponent that reads back and is nearest,
if one does. -/
def Magnitude.onGrid (magnitude : Magnitude) (exponent : Int) : Option Digits :=
  let (scale, unit) := magnitude.factors exponent
  let below := magnitude.quarters * scale / unit
  let above := below + 1
  match magnitude.readsBack exponent below, magnitude.readsBack exponent above with
  | true, true =>
    if 2 * (magnitude.quarters * scale) < (below + above) * unit then some ⟨below, exponent⟩
    else some ⟨above, exponent⟩
  | true, false => some ⟨below, exponent⟩
  | false, true => some ⟨above, exponent⟩
  | false, false => none

/-- Moves the zeros at the end of a significand into the exponent. -/
def Digits.withoutZeros : Nat → Digits → Digits
  | 0, digits => digits
  | fuel + 1, digits =>
    if digits.significand ≠ 0 ∧ digits.significand % 10 = 0 then
      withoutZeros fuel ⟨digits.significand / 10, digits.exponent + 1⟩
    else digits

/-- The fewest digits that read back. Seventeen always do, for either format. -/
def Magnitude.shortest (magnitude : Magnitude) : Digits :=
  let leading := magnitude.leadingExponent
  let found := (List.range 17).findSome? fun count : Nat => magnitude.onGrid (leading - (count : Int))
  match found with
  | some digits => digits.withoutZeros (digitCount digits.significand)
  | none => ⟨0, 0⟩

end ClassMembers.Decimal
