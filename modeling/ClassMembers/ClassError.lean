/-
This file holds what can be wrong with a class file, and the wording of it. The
faults of the constant pool form a kind of their own: an index that leads
nowhere, or to an entry of the wrong kind, is a fault of the class as a whole,
whereas any other fault inside an attribute concerns that attribute alone.
-/

import ClassMembers.Pool.Entry

namespace ClassMembers

/-- The kind of entry that a reference into the constant pool asks for. -/
inductive ExpectedEntry where
  | utf8
  | className
  | loadable
  deriving DecidableEq

/-- What is wrong with a class file. -/
inductive ClassError where
  /-- A number of fixed width does not fit into what remains. -/
  | truncated
  /-- A block of bytes reaches past the end. -/
  | pastEnd
  /-- A reference leads to an entry of another kind. -/
  | unexpectedEntry (expected : ExpectedEntry) (found : PoolEntry)
  /-- A reference leads to no entry. -/
  | indexOutOfRange (index : UInt16) (slots : Nat)
  /-- A constant begins with a tag that no kind of constant has. -/
  | unknownConstantTag (tag : UInt8)
  /-- The file does not begin with the number that marks class files. -/
  | badMagic (found : UInt32)
  /-- An attribute claims more bytes than remain. -/
  | attributeOverrun (name : String) (declared : UInt32) (available : Nat)
  /-- An element of an annotation begins with a tag that no kind of element has. -/
  | unknownElementTag (tag : Char)
  deriving DecidableEq

/-- The word for the expected kind of entry. -/
def ExpectedEntry.text : ExpectedEntry → String
  | utf8 => "Utf8"
  | className => "Class"
  | loadable => "loadable constant"

namespace ClassError

/-- A fault of the constant pool. -/
def isPoolError : ClassError → Bool
  | unexpectedEntry _ _ | indexOutOfRange _ _ => true
  | _ => false

/-- The wording of a fault. -/
def message : ClassError → String
  | truncated => "failed to fill whole buffer"
  | pastEnd => "unexpected end of file"
  | unexpectedEntry expected found =>
    "Expected " ++ expected.text ++ ", found " ++ found.diagnostic
  | indexOutOfRange index slots =>
    "Constant pool index " ++ toString index.toNat ++ " out of range (pool has " ++
      toString slots ++ " slots)"
  | unknownConstantTag tag => "Invalid cp info tag: " ++ toString tag.toNat
  | badMagic found =>
    "Invalid magic identifier: 0x" ++
      String.ofList ((Nat.toDigits 16 found.toNat).map Char.toUpper)
  | attributeOverrun name declared available =>
    "Attribute " ++ name ++ " declares " ++ toString declared.toNat ++ " bytes but only " ++
      toString available ++ " remain"
  | unknownElementTag tag => "Invalid element value tag: " ++ Text.quoteChar tag

end ClassError

end ClassMembers
