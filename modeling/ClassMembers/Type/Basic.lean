/-
This file holds the types of fields, arguments and results. A class type is
parameterized when it or one of the classes around it has arguments, and then
keeps the chain of those classes; a class type without any arguments is its
name alone. A type, the arguments of its classes and the classes themselves are
defined together, since each may hold the others.
-/

import ClassMembers.Type.ClassName

namespace ClassMembers

/-- The primitive types, and `void` for methods without a result. -/
inductive PrimitiveType where
  | boolean
  | byte
  | char
  | short
  | int
  | long
  | float
  | double
  | void
  deriving DecidableEq

namespace PrimitiveType

/-- The type of a one-letter descriptor. -/
def ofLetter? : Char → Option PrimitiveType
  | 'Z' => some boolean
  | 'B' => some byte
  | 'C' => some char
  | 'S' => some short
  | 'I' => some int
  | 'J' => some long
  | 'F' => some float
  | 'D' => some double
  | 'V' => some void
  | _ => none

/-- The keyword of a type. -/
def name : PrimitiveType → String
  | boolean => "boolean"
  | byte => "byte"
  | char => "char"
  | short => "short"
  | int => "int"
  | long => "long"
  | float => "float"
  | double => "double"
  | void => "void"

/-- The number of slots of local variables that a value takes. -/
def slotWidth : PrimitiveType → Nat
  | long | double => 2
  | void => 0
  | _ => 1

/-- The types whose constants are kept as a wider `int`. -/
def isNarrow : PrimitiveType → Bool
  | boolean | byte | char | short => true
  | _ => false

end PrimitiveType

mutual

/-- A type. -/
inductive JavaType where
  | primitive (type : PrimitiveType)
  | ofClass (name : ClassName)
  | parameterized (type : GenericType)
  | typeVariable (name : String)
  | array (component : JavaType)

/-- A class with its arguments, by itself or inside another one. The base is the
full internal name at either place. -/
inductive GenericType where
  | outermost (base : ClassName) (arguments : List TypeArgument)
  | inside (outer : GenericType) (base : ClassName) (arguments : List TypeArgument)

/-- An argument of a class: the wildcard, a wildcard bounded from above or from
below, or a type. -/
inductive TypeArgument where
  | wildcard
  | atMost (bound : JavaType)
  | atLeast (bound : JavaType)
  | exactly (type : JavaType)

end

/-! ### Equality -/

mutual

/-- Equality of types is decided along their structure. -/
def JavaType.decEq : (first second : JavaType) → Decidable (first = second)
  | .primitive first, .primitive second =>
    if same : first = second then isTrue (by rw [same]) else isFalse (by simpa using same)
  | .ofClass first, .ofClass second =>
    if same : first = second then isTrue (by rw [same]) else isFalse (by simpa using same)
  | .parameterized first, .parameterized second =>
    match first.decEq second with
    | isTrue same => isTrue (by rw [same])
    | isFalse different => isFalse (by simpa using different)
  | .typeVariable first, .typeVariable second =>
    if same : first = second then isTrue (by rw [same]) else isFalse (by simpa using same)
  | .array first, .array second =>
    match first.decEq second with
    | isTrue same => isTrue (by rw [same])
    | isFalse different => isFalse (by simpa using different)
  | .primitive _, .ofClass _ => isFalse nofun
  | .primitive _, .parameterized _ => isFalse nofun
  | .primitive _, .typeVariable _ => isFalse nofun
  | .primitive _, .array _ => isFalse nofun
  | .ofClass _, .primitive _ => isFalse nofun
  | .ofClass _, .parameterized _ => isFalse nofun
  | .ofClass _, .typeVariable _ => isFalse nofun
  | .ofClass _, .array _ => isFalse nofun
  | .parameterized _, .primitive _ => isFalse nofun
  | .parameterized _, .ofClass _ => isFalse nofun
  | .parameterized _, .typeVariable _ => isFalse nofun
  | .parameterized _, .array _ => isFalse nofun
  | .typeVariable _, .primitive _ => isFalse nofun
  | .typeVariable _, .ofClass _ => isFalse nofun
  | .typeVariable _, .parameterized _ => isFalse nofun
  | .typeVariable _, .array _ => isFalse nofun
  | .array _, .primitive _ => isFalse nofun
  | .array _, .ofClass _ => isFalse nofun
  | .array _, .parameterized _ => isFalse nofun
  | .array _, .typeVariable _ => isFalse nofun

/-- Equality of classes with arguments. -/
def GenericType.decEq : (first second : GenericType) → Decidable (first = second)
  | .outermost base arguments, .outermost base' arguments' =>
    if same : base = base' then
      match TypeArgument.listDecEq arguments arguments' with
      | isTrue sameArguments => isTrue (by rw [same, sameArguments])
      | isFalse different => isFalse (by simp [different])
    else isFalse (by simp [same])
  | .inside outer base arguments, .inside outer' base' arguments' =>
    if same : base = base' then
      match outer.decEq outer' with
      | isTrue sameOuter =>
        match TypeArgument.listDecEq arguments arguments' with
        | isTrue sameArguments => isTrue (by rw [same, sameOuter, sameArguments])
        | isFalse different => isFalse (by simp [different])
      | isFalse different => isFalse (by simp [different])
    else isFalse (by simp [same])
  | .outermost _ _, .inside _ _ _ => isFalse nofun
  | .inside _ _ _, .outermost _ _ => isFalse nofun

/-- Equality of arguments. -/
def TypeArgument.decEq : (first second : TypeArgument) → Decidable (first = second)
  | .wildcard, .wildcard => isTrue rfl
  | .atMost first, .atMost second =>
    match first.decEq second with
    | isTrue same => isTrue (by rw [same])
    | isFalse different => isFalse (by simpa using different)
  | .atLeast first, .atLeast second =>
    match first.decEq second with
    | isTrue same => isTrue (by rw [same])
    | isFalse different => isFalse (by simpa using different)
  | .exactly first, .exactly second =>
    match first.decEq second with
    | isTrue same => isTrue (by rw [same])
    | isFalse different => isFalse (by simpa using different)
  | .wildcard, .atMost _ => isFalse nofun
  | .wildcard, .atLeast _ => isFalse nofun
  | .wildcard, .exactly _ => isFalse nofun
  | .atMost _, .wildcard => isFalse nofun
  | .atMost _, .atLeast _ => isFalse nofun
  | .atMost _, .exactly _ => isFalse nofun
  | .atLeast _, .wildcard => isFalse nofun
  | .atLeast _, .atMost _ => isFalse nofun
  | .atLeast _, .exactly _ => isFalse nofun
  | .exactly _, .wildcard => isFalse nofun
  | .exactly _, .atMost _ => isFalse nofun
  | .exactly _, .atLeast _ => isFalse nofun

/-- Equality of lists of arguments. -/
def TypeArgument.listDecEq : (first second : List TypeArgument) → Decidable (first = second)
  | [], [] => isTrue rfl
  | [], _ :: _ => isFalse nofun
  | _ :: _, [] => isFalse nofun
  | first :: rest, second :: rest' =>
    match first.decEq second with
    | isTrue same =>
      match TypeArgument.listDecEq rest rest' with
      | isTrue sameRest => isTrue (by rw [same, sameRest])
      | isFalse different => isFalse (by simp [different])
    | isFalse different => isFalse (by simp [different])

end

instance : DecidableEq JavaType := JavaType.decEq
instance : DecidableEq GenericType := GenericType.decEq
instance : DecidableEq TypeArgument := TypeArgument.decEq

/-! ### Parts -/

namespace GenericType

/-- The class itself. -/
def base : GenericType → ClassName
  | outermost base _ => base
  | inside _ base _ => base

/-- The arguments of the class itself. -/
def arguments : GenericType → List TypeArgument
  | outermost _ arguments => arguments
  | inside _ _ arguments => arguments

/-- The class around it. -/
def outer? : GenericType → Option GenericType
  | outermost _ _ => none
  | inside outer _ _ => some outer

end GenericType

namespace JavaType

/-- The type of the class at the root of all. -/
def object : JavaType := ofClass .object

/-- The type of a class by its internal name. -/
def named (internal : String) : JavaType := ofClass ⟨internal⟩

/-- The class behind a class type, with or without arguments. -/
def className? : JavaType → Option ClassName
  | ofClass name => some name
  | parameterized type => some type.base
  | _ => none

/-- The primitive type that a type is. -/
def primitive? : JavaType → Option PrimitiveType
  | primitive type => some type
  | _ => none

/-- The number of slots of local variables that a value takes. -/
def slotWidth : JavaType → Nat
  | primitive type => type.slotWidth
  | _ => 1

/-- A word for the type that can be part of an identifier. -/
def identifierPart : JavaType → String
  | primitive type => type.name
  | ofClass name => name.identifierPart
  | parameterized type => type.base.identifierPart
  | typeVariable name => name
  | array component => "arr" ++ component.identifierPart

end JavaType

end ClassMembers
