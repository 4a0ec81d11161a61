/-
This file holds literals: constants with the type they have where they are used.
The constant pool keeps narrow integers as an `int`, so an `int` used at a
narrower type is read again with the width and the sign of that type. The file
also writes literals as they stand in source code. Characters are escaped only
where the language asks for it, so text beyond ASCII stays readable; what has no
short escape is written as an escape of four hexadecimal digits.
-/

import ClassMembers.Pool.Basic
import ClassMembers.Signature.FieldType
import ClassMembers.Type.Text

namespace ClassMembers

/-- A literal. -/
inductive Literal where
  | int (value : Int32)
  | long (value : Int64)
  | float (bits : UInt32)
  | double (bits : UInt64)
  | boolean (value : Bool)
  | byte (value : Int8)
  | char (unit : UInt16)
  | short (value : Int16)
  | string (text : String)
  | ofClass (type : JavaType)
  | methodType (descriptor : String)
  deriving DecidableEq

/-! ### Escapes -/

/-- A number in lower-case hexadecimal, with at least four digits. -/
def fourHexDigits (n : Nat) : List Char :=
  let digits := Nat.toDigits 16 n
  List.replicate (4 - digits.length) '0' ++ digits

/-- The escape of a character unit by its number. -/
def unitEscape (n : Nat) : List Char :=
  '\\' :: 'u' :: fourHexDigits n

/-- A character inside a literal with the given quotes. -/
def escapeChar (quote c : Char) : List Char :=
  if c = '\\' then ['\\', '\\']
  else if c = '\n' then ['\\', 'n']
  else if c = '\t' then ['\\', 't']
  else if c = '\r' then ['\\', 'r']
  else if c = '\x08' then ['\\', 'b']
  else if c = '\x0c' then ['\\', 'f']
  else if c = quote then ['\\', c]
  else if Unicode.isControl c then unitEscape c.toNat
  else [c]

/-- A string literal. -/
def stringLiteral (text : String) : String :=
  String.ofList ('\"' :: (text.toList.flatMap (escapeChar '\"') ++ ['\"']))

/-- A character literal. Half of a surrogate pair is no character of its own and
is written by its number. -/
def charLiteral (unit : UInt16) : String :=
  let n := unit.toNat
  let inside := if 0xD800 ≤ n ∧ n ≤ 0xDFFF then unitEscape n else escapeChar '\'' (Char.ofNat n)
  String.ofList ('\'' :: (inside ++ ['\'']))

/-! ### Floating point literals -/

/-- A floating point literal: finite numbers have a suffix, and the others are
constants of the class that goes with the type. -/
def floatingLiteral (format : Decimal.BinaryFormat) (owner suffix : String) (bits : Nat) :
    String :=
  match format.read bits with
  | .nan => owner ++ ".NaN"
  | .infinite false => owner ++ ".POSITIVE_INFINITY"
  | .infinite true => owner ++ ".NEGATIVE_INFINITY"
  | .finite negative magnitude => Decimal.signed negative magnitude.text ++ suffix

namespace Literal

/-- The literal of a constant. -/
def ofConstant : Constant → Except SignatureError Literal
  | .int value => .ok (int value)
  | .long value => .ok (long value)
  | .float bits => .ok (float bits)
  | .double bits => .ok (double bits)
  | .string text => .ok (string text)
  | .ofClass name => ofClass <$> JavaType.ofClassConstant name
  | .methodType descriptor => .ok (methodType descriptor)

/-- An `int` read at the width and sign of a narrower type. Everything else
stays. -/
def narrow (literal : Literal) (type : PrimitiveType) : Literal :=
  match literal, type with
  | int value, .boolean => boolean (value ≠ 0)
  | int value, .byte => byte value.toInt8
  | int value, .char => char value.toUInt32.toUInt16
  | int value, .short => short value.toInt16
  | other, _ => other

/-- An `int` read at the type it is used at, if that type is primitive. -/
def narrowTo (literal : Literal) (type : Option PrimitiveType) : Literal :=
  match type with
  | some type => literal.narrow type
  | none => literal

/-- A literal in source code. -/
def text : Literal → String
  | int value => toString value.toInt
  | long value => toString value.toInt ++ "L"
  | float bits => floatingLiteral Decimal.single "Float" "f" bits.toNat
  | double bits => floatingLiteral Decimal.double "Double" "" bits.toNat
  | boolean value => if value then "true" else "false"
  | byte value => toString value.toInt
  | char unit => charLiteral unit
  | short value => toString value.toInt
  | string text => stringLiteral text
  | ofClass type => type.text ++ ".class"
  | methodType descriptor => "/* method type */ " ++ Text.quoteText descriptor

end Literal

end ClassMembers
