/-
This file holds the record of a field or a method. Both have one layout: flags,
the indexes of the name and of the descriptor, and a table of attributes. What
the bits of the flags mean depends on which of the two the record is.
-/

import ClassMembers.Attribute.Decoding
import ClassMembers.Flags

namespace ClassMembers

open Reader

/-- The record of a field or a method, with the number of bytes it took. -/
structure Record where
  accessFlags : UInt16
  nameIndex : UInt16
  descriptorIndex : UInt16
  attributes : Attributes
  rawLength : Nat

namespace Record

/-- The number of bytes before the table of attributes. -/
def headerLength : Nat := 8

/-- Reads a record, with the given decoder of attributes. -/
def read (decoder : AttributeDecoder) (pool : Pool) (version : Version) : Reader Record := do
  let accessFlags ← u16
  let nameIndex ← u16
  let descriptorIndex ← u16
  let count ← u16
  let (attributes, length) ← decoder.readTable pool version count.toNat
  return ⟨accessFlags, nameIndex, descriptorIndex, attributes, headerLength + length⟩

/-- The record at the front of bytes. -/
def ofBytes (decoder : AttributeDecoder) (pool : Pool) (version : Version) (raw : List UInt8) :
    Except ClassError Record :=
  match read decoder pool version raw with
  | .ok record _ => .ok record
  | .error fault _ => .error fault

/-- The name of the member. -/
def name (record : Record) (pool : Pool) : Except ClassError String :=
  pool.utf8 record.nameIndex

/-- The descriptor of the member. -/
def descriptor (record : Record) (pool : Pool) : Except ClassError String :=
  pool.utf8 record.descriptorIndex

/-- The flags of the record of a field, with those that attributes add. -/
def fieldFlags (record : Record) : FieldFlags :=
  (FlagSet.ofBits record.accessFlags).withAttributes record.attributes

/-- The flags of the record of a method, with those that attributes add. -/
def methodFlags (record : Record) : MethodFlags :=
  (FlagSet.ofBits record.accessFlags).withAttributes record.attributes

end Record

end ClassMembers
