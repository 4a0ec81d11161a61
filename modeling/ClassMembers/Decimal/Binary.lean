/-
This file holds the two binary formats of floating point numbers. A number is
kept as the pattern of its bits, and this file reads a pattern as a sign and a
magnitude: a natural number times a power of two. Nothing here computes with
floating point; all that is done to such numbers is to write them.
-/

namespace ClassMembers.Decimal

/-- A binary format: the width of the fraction and that of the exponent. -/
structure BinaryFormat where
  fractionBits : Nat
  exponentBits : Nat

/-- The format of 32 bits. -/
def single : BinaryFormat := ⟨23, 8⟩

/-- The format of 64 bits. -/
def double : BinaryFormat := ⟨52, 11⟩

/-- A magnitude `mantissa · 2 ^ exponent`. At a power of two the number below is
only half as far away as the one above, and `narrowBelow` says so. -/
structure Magnitude where
  mantissa : Nat
  exponent : Int
  narrowBelow : Bool
  deriving DecidableEq

/-- What a pattern of bits stands for. -/
inductive BinaryValue where
  | nan
  | infinite (negative : Bool)
  | finite (negative : Bool) (magnitude : Magnitude)
  deriving DecidableEq

/-- The largest exponent field, which is that of the infinities and of what is
not a number. -/
def BinaryFormat.specialExponent (format : BinaryFormat) : Nat :=
  Nat.pow 2 format.exponentBits - 1

/-- The exponent that goes with a mantissa read as a whole number, for an
exponent field of one. -/
def BinaryFormat.leastExponent (format : BinaryFormat) : Int :=
  2 - (Nat.pow 2 (format.exponentBits - 1) : Int) - (format.fractionBits : Int)

/-- Reads a pattern. An exponent field of zero has the exponent of a field of one
but no leading one in its mantissa. -/
def BinaryFormat.read (format : BinaryFormat) (bits : Nat) : BinaryValue :=
  let fraction := bits % Nat.pow 2 format.fractionBits
  let field := bits / Nat.pow 2 format.fractionBits % Nat.pow 2 format.exponentBits
  let negative := bits / Nat.pow 2 (format.fractionBits + format.exponentBits) % 2 = 1
  if field = format.specialExponent then
    if fraction = 0 then .infinite negative else .nan
  else if field = 0 then
    .finite negative ⟨fraction, format.leastExponent, false⟩
  else
    .finite negative
      ⟨Nat.pow 2 format.fractionBits + fraction, format.leastExponent + (field - 1 : Nat),
        fraction = 0 && 1 < field⟩

end ClassMembers.Decimal
