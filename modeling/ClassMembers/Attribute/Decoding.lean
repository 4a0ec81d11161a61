/-
This file reads attributes. An attribute is the index of its name, the length of
its body and the body. The bodies of the known kinds are read into values; a
body that cannot be read leaves the attribute as a block of bytes, except that a
fault of the constant pool is a fault of the class and is passed on.

Who decodes the attributes of a table is left open: a decoder is handed all
bytes that remain and answers with an attribute and the number of bytes it took.
The standard decoder calls itself for the attributes of code, and the element
values of annotations hold element values. Both are given a bound on their depth
that is the number of bytes they have; every level takes some of the bytes, so
the bound is met only where no byte is left.
-/

import ClassMembers.Attribute.Index
import ClassMembers.Reader.Basic

namespace ClassMembers

open Reader

/-! ### Annotations -/

/-- The text that the next index leads to. -/
def readUtf8Of (pool : Pool) : Reader String := do
  ofExcept (pool.utf8 (← u16))

/-- The class name that the next index leads to. -/
def readClassNameOf (pool : Pool) : Reader String := do
  ofExcept (pool.className (← u16))

/-- A named element, given a reader of values. -/
def AnnotationElement.readWith (value : Reader ElementValue) (pool : Pool) :
    Reader AnnotationElement := do
  return ⟨← readUtf8Of pool, ← value⟩

/-- An annotation, given a reader of values. -/
def AnnotationUse.readWith (value : Reader ElementValue) (pool : Pool) : Reader AnnotationUse := do
  return ⟨← readUtf8Of pool, ← table (AnnotationElement.readWith value pool)⟩

/-- The tags of element values that are constants of a primitive type. -/
def primitiveTags : List Char := ['B', 'C', 'D', 'F', 'I', 'J', 'S', 'Z']

/-- What follows the tag of an element value, given a reader of values inside it. -/
def ElementValue.readBody (value : Reader ElementValue) (pool : Pool) (tag : Char) :
    Reader ElementValue := do
  if primitiveTags.contains tag then
    return .constant tag (← ofExcept (pool.constant (← u16)))
  else match tag with
  | 's' => return .constant tag (.string (← readUtf8Of pool))
  | 'e' => return .enumConstant (← readUtf8Of pool) (← readUtf8Of pool)
  | 'c' => return .classLiteral (← readUtf8Of pool)
  | '@' => return .nested (← AnnotationUse.readWith value pool)
  | '[' => return .array (← table value)
  | _ => throw (.unknownElementTag tag)

/-- An element value of bounded depth. -/
def ElementValue.readWithin (pool : Pool) : Nat → Reader ElementValue
  | 0 => fun _ => .error .truncated []
  | depth + 1 => do
    let tag ← u8
    ElementValue.readBody (readWithin pool depth) pool (Char.ofNat tag.toNat)

/-- An element value. -/
def ElementValue.read (pool : Pool) : Reader ElementValue := do
  ElementValue.readWithin pool (← remaining).length

/-- A table of annotations. -/
def readAnnotations (pool : Pool) : Reader (List AnnotationUse) :=
  table (AnnotationUse.readWith (ElementValue.read pool) pool)

/-- The tables of annotations of the parameters, whose number has one byte. -/
def readParameterAnnotations (pool : Pool) : Reader (List (List AnnotationUse)) := do
  let count ← u8
  times count.toNat (readAnnotations pool)

/-! ### Tables of names, variables and handlers -/

/-- The names of declared exceptions. -/
def readExceptions (pool : Pool) : Reader (List String) :=
  table (readClassNameOf pool)

/-- A row of a table of local variables. -/
def LocalVariable.read (pool : Pool) : Reader LocalVariable := do
  return ⟨← u16, ← u16, ← readUtf8Of pool, ← readUtf8Of pool, ← u16⟩

/-- A table of local variables. -/
def readLocalVariables (pool : Pool) : Reader (List LocalVariable) :=
  table (LocalVariable.read pool)

/-- A row of an exception table. -/
def ExceptionHandler.read : Reader ExceptionHandler := do
  return ⟨← u16, ← u16, ← u16, ← u16⟩

/-! ### Tables of attributes -/

/-- Decodes one attribute from the front of bytes and tells how many it took,
those of its name and its length included. -/
abbrev AttributeDecoder := List UInt8 → Pool → Version → Except ClassError (Attribute × Nat)

/-- An attribute and the number of bytes it took. -/
def AttributeDecoder.read (decoder : AttributeDecoder) (pool : Pool) (version : Version) :
    Reader (Attribute × Nat) := do
  let (entry, taken) ← ofExcept (decoder (← remaining) pool version)
  skip taken
  return (entry, taken)

/-- The number of bytes that attributes took together. -/
def totalTaken : List (Attribute × Nat) → Nat
  | [] => 0
  | row :: rest => row.2 + totalTaken rest

/-- The given number of attributes, and the number of bytes they took. -/
def AttributeDecoder.readTable (decoder : AttributeDecoder) (pool : Pool) (version : Version)
    (count : Nat) : Reader (Attributes × Nat) := do
  let rows ← times count (decoder.read pool version)
  return (.ofList (rows.map Prod.fst), totalTaken rows)

/-- A piece of code. -/
def Code.read (decoder : AttributeDecoder) (pool : Pool) (version : Version) : Reader Code := do
  let maxStack ← u16
  let maxLocals ← u16
  let length ← u32
  let code ← Reader.bytes length.toNat
  let handlers ← table ExceptionHandler.read
  let count ← u16
  let (attributes, _) ← decoder.readTable pool version count.toNat
  return ⟨maxStack, maxLocals, code, handlers, attributes, false⟩

/-! ### The standard decoder -/

/-- The body of an attribute of a known kind. -/
def AttributeKind.readBody (decoder : AttributeDecoder) (pool : Pool) (version : Version) :
    AttributeKind → Reader Attribute
  | .constantValue => return .constantValue (← u16)
  | .code => return .code (← Code.read decoder pool version)
  | .exceptions => return .exceptions (← readExceptions pool)
  | .signature => return .signature (← readUtf8Of pool)
  | .synthetic => return .synthetic
  | .deprecated => return .deprecated
  | .annotationDefault => return .annotationDefault (← ElementValue.read pool)
  | .visibleAnnotations => return .visibleAnnotations (← readAnnotations pool)
  | .invisibleAnnotations => return .invisibleAnnotations (← readAnnotations pool)
  | .visibleParameterAnnotations =>
    return .visibleParameterAnnotations (← readParameterAnnotations pool)
  | .invisibleParameterAnnotations =>
    return .invisibleParameterAnnotations (← readParameterAnnotations pool)
  | .localVariables => return .localVariables (← readLocalVariables pool)

/-- The name and the length that stand before the body of an attribute. -/
def readAttributeHeader (pool : Pool) : Reader (String × UInt32) := do
  return (← readUtf8Of pool, ← u32)

/-- The number of bytes of that header. -/
def attributeHeaderLength : Nat := 6

/-- The attribute with a name and a body, given a decoder for the attributes
inside it. -/
def Attribute.ofBody (decoder : AttributeDecoder) (pool : Pool) (version : Version)
    (name : String) (body : List UInt8) : Except ClassError Attribute :=
  match AttributeKind.ofNameIn? version name with
  | none => .ok (.unknown name body)
  | some kind =>
    match kind.readBody decoder pool version body with
    | .ok entry _ => .ok entry
    | .error fault _ => if fault.isPoolError then .error fault else .ok (.unknown name body)

/-- The standard decoder for attributes nested to a bounded depth. -/
def decodeAttributeWithin : Nat → AttributeDecoder
  | 0, _, _, _ => .error .truncated
  | depth + 1, raw, pool, version =>
    match readAttributeHeader pool raw with
    | .error fault _ => .error fault
    | .ok (name, declared) rest =>
      if rest.length < declared.toNat then
        .error (.attributeOverrun name declared rest.length)
      else do
        let body := rest.take declared.toNat
        let entry ← Attribute.ofBody (decodeAttributeWithin depth) pool version name body
        return (entry, attributeHeaderLength + declared.toNat)

/-- The standard decoder. -/
def decodeAttribute : AttributeDecoder := fun raw pool version =>
  decodeAttributeWithin raw.length raw pool version

end ClassMembers
