/-
This file holds the entries of a constant pool. An entry refers to others by
their index in the pool; floating point entries are kept as patterns of bits. A
`long` or `double` takes two places in the pool, and the second of them is an
entry that cannot be used. The file also holds the form in which a diagnostic
shows an entry.
-/

import ClassMembers.Decimal.Layout
import ClassMembers.Text.Quoted

namespace ClassMembers

/-- One entry of a constant pool. -/
inductive PoolEntry where
  | utf8 (text : String)
  | int (value : Int32)
  | float (bits : UInt32)
  | long (value : Int64)
  | double (bits : UInt64)
  | className (nameIndex : UInt16)
  | string (textIndex : UInt16)
  | fieldRef (classIndex nameAndTypeIndex : UInt16)
  | methodRef (classIndex nameAndTypeIndex : UInt16)
  | interfaceMethodRef (classIndex nameAndTypeIndex : UInt16)
  | nameAndType (nameIndex descriptorIndex : UInt16)
  | methodHandle (kind : UInt8) (referenceIndex : UInt16)
  | methodType (descriptorIndex : UInt16)
  | dynamic (bootstrapIndex nameAndTypeIndex : UInt16)
  | invokeDynamic (bootstrapIndex nameAndTypeIndex : UInt16)
  | moduleName (nameIndex : UInt16)
  | packageName (nameIndex : UInt16)
  | unusable
  deriving DecidableEq

namespace PoolEntry

/-- An entry that takes two places in the pool. -/
def isWide : PoolEntry → Bool
  | .long _ | .double _ => true
  | _ => false

/-- Named numbers between braces. -/
def labelled (fields : List (String × Nat)) : String :=
  "\x7b " ++ String.intercalate ", " (fields.map fun field => field.1 ++ ": " ++ toString field.2) ++
    " \x7d"

/-- An entry by the name of its kind and that of the structure it holds. -/
def shown (kind inner : String) (fields : List (String × Nat)) : String :=
  kind ++ "(" ++ inner ++ " " ++ labelled fields ++ ")"

/-- A reference to a member of a class. -/
def shownReference (kind : String) (classIndex nameAndTypeIndex : UInt16) : String :=
  shown kind "RefInfo"
    [("class_index", classIndex.toNat), ("name_and_type_index", nameAndTypeIndex.toNat)]

/-- A constant or call site that a bootstrap method computes. -/
def shownDynamic (kind : String) (bootstrapIndex nameAndTypeIndex : UInt16) : String :=
  shown kind "InvokeDynamicInfo"
    [("bootstrap_method_attr_index", bootstrapIndex.toNat),
      ("name_and_type_index", nameAndTypeIndex.toNat)]

/-- The form in which a diagnostic shows an entry. -/
def diagnostic : PoolEntry → String
  | utf8 text => "Utf8(" ++ Text.quoteText text ++ ")"
  | int value => "Integer(" ++ toString value.toInt ++ ")"
  | float bits => "Float(" ++ Decimal.single.text bits.toNat ++ ")"
  | long value => "Long(" ++ toString value.toInt ++ ")"
  | double bits => "Double(" ++ Decimal.double.text bits.toNat ++ ")"
  | className nameIndex => shown "Class" "ClassInfo" [("name_index", nameIndex.toNat)]
  | string textIndex => "String " ++ labelled [("string_index", textIndex.toNat)]
  | fieldRef classIndex nameAndTypeIndex => shownReference "FieldRef" classIndex nameAndTypeIndex
  | methodRef classIndex nameAndTypeIndex => shownReference "MethodRef" classIndex nameAndTypeIndex
  | interfaceMethodRef classIndex nameAndTypeIndex =>
    shownReference "InterfaceMethodRef" classIndex nameAndTypeIndex
  | nameAndType nameIndex descriptorIndex =>
    shown "NameAndType" "NameAndTypeInfo"
      [("name_index", nameIndex.toNat), ("descriptor_index", descriptorIndex.toNat)]
  | methodHandle kind referenceIndex =>
    shown "MethodHandle" "MethodHandleInfo"
      [("reference_kind", kind.toNat), ("reference_index", referenceIndex.toNat)]
  | methodType descriptorIndex =>
    shown "MethodType" "MethodTypeInfo" [("descriptor_index", descriptorIndex.toNat)]
  | dynamic bootstrapIndex nameAndTypeIndex =>
    shownDynamic "Dynamic" bootstrapIndex nameAndTypeIndex
  | invokeDynamic bootstrapIndex nameAndTypeIndex =>
    shownDynamic "InvokeDynamic" bootstrapIndex nameAndTypeIndex
  | moduleName nameIndex => "Module " ++ labelled [("name_index", nameIndex.toNat)]
  | packageName nameIndex => "Package " ++ labelled [("name_index", nameIndex.toNat)]
  | unusable => "Unusable"

end PoolEntry

end ClassMembers
