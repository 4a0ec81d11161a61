/-
This file lays decimal digits out as text. A number is written positionally,
with at least one digit after the point, while its leading digit stands between
the places 10^-4 and 10^15, and in scientific form outside of that range. In
scientific form one digit stands before the point, there is no point after a
single digit, and the exponent has a sign only if it is negative.
-/

import ClassMembers.Decimal.Shortest

namespace ClassMembers.Decimal

/-- The exponents of the leading digit from which and up to which a number is
written positionally. -/
structure Layout where
  leastPositional : Int
  greatestPositional : Int

/-- The layout of all floating point numbers in this library. -/
def plainLayout : Layout := ⟨-4, 15⟩

/-- The digits of a natural number, the leading one first. -/
def digitChars (n : Nat) : List Char :=
  Nat.toDigits 10 n

/-- The digits around a point after the digit of the given exponent. -/
def positional (digits : List Char) (leading : Int) : List Char :=
  if leading < 0 then
    '0' :: '.' :: (List.replicate ((-leading).toNat - 1) '0' ++ digits)
  else
    let wholeCount := leading.toNat + 1
    let whole := digits.take wholeCount ++ List.replicate (wholeCount - digits.length) '0'
    let fraction := digits.drop wholeCount
    whole ++ '.' :: (if fraction.isEmpty then ['0'] else fraction)

/-- The digits with the point after the first of them, and the exponent. -/
def scientific (digits : List Char) (leading : Int) : List Char :=
  let fraction := digits.drop 1
  digits.take 1 ++ (if fraction.isEmpty then [] else '.' :: fraction) ++
    'e' :: (toString leading).toList

/-- Writes a decimal in a layout. -/
def Layout.write (layout : Layout) (digits : Digits) : List Char :=
  let chars := digitChars digits.significand
  let leading := digits.exponent + (chars.length - 1 : Nat)
  if layout.leastPositional ≤ leading ∧ leading ≤ layout.greatestPositional then
    positional chars leading
  else scientific chars leading

/-- The text of a finite magnitude: zero is written positionally. -/
def Magnitude.text (magnitude : Magnitude) : String :=
  if magnitude.mantissa = 0 then "0.0"
  else String.ofList (plainLayout.write magnitude.shortest)

/-- The sign before a text. -/
def signed (negative : Bool) (text : String) : String :=
  if negative then "-" ++ text else text

/-- The text of a pattern of bits, with words for what is not finite. -/
def BinaryFormat.text (format : BinaryFormat) (bits : Nat) : String :=
  match format.read bits with
  | .nan => "NaN"
  | .infinite negative => signed negative "inf"
  | .finite negative magnitude => signed negative magnitude.text

end ClassMembers.Decimal
