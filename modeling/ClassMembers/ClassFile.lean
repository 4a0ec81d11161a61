/-
This file holds class files: the marking number, the version, the constant pool,
the header and the tables of fields, methods and attributes, in this order.
Names in the header are indexes into the pool and are looked up when they are
asked for, so a class file with a bad name can still be read.
-/

import ClassMembers.Pool.Reading
import ClassMembers.Record

namespace ClassMembers

open Reader

/-- A class file. -/
structure ClassFile where
  version : Version
  pool : Pool
  accessFlags : FieldFlags
  thisClass : UInt16
  superClass : UInt16
  interfaces : List UInt16
  fields : List Record
  methods : List Record
  attributes : Attributes

/-- The number that every class file begins with. -/
def classFileMagic : UInt32 := 0xCAFEBABE

/-- Reads the number that marks class files. -/
def readMagic : Reader Unit := do
  let found ← u32
  if found = classFileMagic then return () else throw (.badMagic found)

/-- A version, of which the minor number stands first. -/
def Version.read : Reader Version := do
  let minor ← u16
  let major ← u16
  return ⟨major, minor⟩

namespace ClassFile

/-- Reads a class file, with the given decoder of attributes. -/
def read (decoder : AttributeDecoder) : Reader ClassFile := do
  readMagic
  let version ← Version.read
  let pool ← Pool.read
  let accessFlags ← u16
  let thisClass ← u16
  let superClass ← u16
  let interfaceCount ← u16
  let interfaces ← u16Block interfaceCount.toNat
  let fields ← table (Record.read decoder pool version)
  let methods ← table (Record.read decoder pool version)
  let attributeCount ← u16
  let (attributes, _) ← decoder.readTable pool version attributeCount.toNat
  return ⟨version, pool, .ofBits accessFlags, thisClass, superClass, interfaces, fields, methods,
    attributes⟩

/-- The class file at the front of bytes. -/
def ofBytes (decoder : AttributeDecoder) (raw : List UInt8) : Except ClassError ClassFile :=
  match read decoder raw with
  | .ok file _ => .ok file
  | .error fault _ => .error fault

/-- The internal name of the class. -/
def className (file : ClassFile) : Except ClassError String :=
  file.pool.className file.thisClass

/-- The internal name of the direct superclass, which only the class at the root
of all does without. -/
def superName? (file : ClassFile) : Except ClassError (Option String) :=
  if file.superClass = 0 then .ok none else some <$> file.pool.className file.superClass

/-- The internal names of the interfaces. -/
def interfaceNames (file : ClassFile) : Except ClassError (List String) :=
  file.interfaces.mapM file.pool.className

end ClassFile

end ClassMembers
