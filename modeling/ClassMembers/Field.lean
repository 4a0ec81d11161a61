/-
This file holds fields. The type of a field is that of its generic signature, or
of its descriptor if it has none; it is read when it is needed, so a field whose
type is malformed can exist as long as it has no constant. A constant is read at
the type of its field.
-/

import ClassMembers.Annotations.Usages
import ClassMembers.Rendering.Declaration
import ClassMembers.Record

namespace ClassMembers

/-- A field. -/
structure Field where
  record : Record
  rawName : String
  descriptor : String
  flags : FieldFlags
  constant : Option Literal
  disambiguated : Bool

/-- The type of the field of a record with the given descriptor. -/
def Record.fieldType (record : Record) (descriptor : String) : Except MemberError JavaType :=
  (JavaType.ofSignature (record.attributes.signature?.getD descriptor)).mapError .signature

/-- The constant of the field of a record with the given descriptor, if it has
one. -/
def Record.fieldConstant (record : Record) (pool : Pool) (descriptor : String) :
    Except MemberError (Option Literal) :=
  match record.attributes.constantValueIndex? with
  | none => .ok none
  | some index => do
    let value ← (pool.constant index).mapError .classFile
    let literal ← (Literal.ofConstant value).mapError .signature
    let type ← record.fieldType descriptor
    return some (literal.narrowTo type.primitive?)

namespace Field

/-- The field of a record with the given name. -/
def build (record : Record) (pool : Pool) (name : String) : Except MemberError Field := do
  let descriptor ← (record.descriptor pool).mapError .classFile
  let constant ← record.fieldConstant pool descriptor
  return ⟨record, name, descriptor, record.fieldFlags, constant, false⟩

/-- The field of a record. Once its name is known, a failure names the field. -/
def ofRecord (record : Record) (pool : Pool) : Except MemberError Field := do
  let name ← (record.name pool).mapError .classFile
  (build record pool name).mapError (.naming name)

/-- The field whose record is at the front of bytes. -/
def ofBytes (decoder : AttributeDecoder) (pool : Pool) (version : Version) (raw : List UInt8) :
    Except MemberError Field := do
  let record ← (Record.ofBytes decoder pool version raw).mapError .classFile
  ofRecord record pool

/-- The type of a field. -/
def type (field : Field) : Except MemberError JavaType :=
  field.record.fieldType field.descriptor

/-- The name to write. A field that shares its name with another one is written
with a word for its type in front. -/
def name (field : Field) : Except MemberError String :=
  if field.disambiguated then do
    let type ← field.type
    return "var_" ++ type.identifierPart ++ "_" ++ field.rawName
  else .ok field.rawName

/-- Marks a field as sharing its name with another one. -/
def disambiguate (field : Field) : Field := { field with disambiguated := true }

/-- The attributes of a field. -/
def attributes (field : Field) : Attributes := field.record.attributes

/-- The types that a field mentions. -/
def usages (field : Field) : Usages Unit := do
  Usages.report (← Emission.ofExcept field.type)
  .forEach field.attributes.annotations AnnotationUse.usages

open Rendering

/-- The flags that are written: those of a field of an interface go without
saying. -/
def writtenFlags (field : Field) (asInterface : Bool) : FieldFlags :=
  if asInterface then field.flags.erase (Flag.isPublic ||| Flag.isStatic ||| Flag.isFinal)
  else field.flags

/-- Writes the declaration of a field. -/
def renderDeclaration (field : Field) (asInterface : Bool) : Rendering Unit := do
  renderAnnotations field.attributes.annotations
  renderKeywords (field.writtenFlags asInterface).keywords
  Rendering.type (← Emission.ofExcept field.type)
  print " "
  identifier (← Emission.ofExcept field.name)
  match field.constant with
  | some literal => do
    print " = "
    print literal.text
  | none => pure ()
  endLine

/-- Writes a field. A failure names it. -/
def render (field : Field) (asInterface : Bool) : Rendering Unit :=
  (field.renderDeclaration asInterface).mapError (.naming field.rawName)

end Field

end ClassMembers
