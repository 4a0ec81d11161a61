/-
This file holds the attributes of classes, members and code. The kinds that a
member needs have a value of their own; everything else, and every attribute
whose body cannot be read, is kept as a named block of bytes. Annotations hold
element values, which may again hold annotations, and code holds attributes,
which may again hold code, so these types are defined together.
-/

import ClassMembers.Pool.Basic
import ClassMembers.Version

namespace ClassMembers

/-! ### Annotations -/

mutual

/-- An annotation: the descriptor of its interface, such as
`Ljava/lang/Deprecated;`, and its elements in order. -/
structure AnnotationUse where
  descriptor : String
  elements : List AnnotationElement

/-- A named element of an annotation. -/
structure AnnotationElement where
  name : String
  value : ElementValue

/-- The value of an element. A class literal is given by its descriptor, which is
`V` for `void`. -/
inductive ElementValue where
  | constant (tag : Char) (value : Constant)
  | enumConstant (descriptor name : String)
  | classLiteral (descriptor : String)
  | nested (inner : AnnotationUse)
  | array (values : List ElementValue)

end

/-! ### Tables -/

/-- A row of a table of local variables: from where and how far a variable is
live, and the slot that holds it. -/
structure LocalVariable where
  startPc : UInt16
  length : UInt16
  name : String
  descriptor : String
  slot : UInt16
  deriving DecidableEq

/-- A row of an exception table. -/
structure ExceptionHandler where
  startPc : UInt16
  endPc : UInt16
  handlerPc : UInt16
  catchType : UInt16
  deriving DecidableEq

/-! ### Attributes -/

mutual

/-- An attribute. Exceptions are given by internal names. -/
inductive Attribute where
  | constantValue (index : UInt16)
  | code (code : Code)
  | exceptions (names : List String)
  | signature (text : String)
  | synthetic
  | deprecated
  | annotationDefault (value : ElementValue)
  | visibleAnnotations (annotations : List AnnotationUse)
  | invisibleAnnotations (annotations : List AnnotationUse)
  | visibleParameterAnnotations (rows : List (List AnnotationUse))
  | invisibleParameterAnnotations (rows : List (List AnnotationUse))
  | localVariables (rows : List LocalVariable)
  | unknown (name : String) (body : List UInt8)

/-- The code of a method. Released code has lost its bytes and its attributes. -/
structure Code where
  maxStack : UInt16
  maxLocals : UInt16
  bytes : List UInt8
  handlers : List ExceptionHandler
  attributes : Attributes
  released : Bool

/-- The attributes of one owner, of which no two have the same name. -/
structure Attributes where
  entries : List Attribute

end

/-- The kinds of attributes with a value of their own. -/
inductive AttributeKind where
  | constantValue
  | code
  | exceptions
  | signature
  | synthetic
  | deprecated
  | annotationDefault
  | visibleAnnotations
  | invisibleAnnotations
  | visibleParameterAnnotations
  | invisibleParameterAnnotations
  | localVariables
  deriving DecidableEq

namespace AttributeKind

/-- Every kind. -/
def all : List AttributeKind :=
  [constantValue, code, exceptions, signature, synthetic, deprecated, annotationDefault,
    visibleAnnotations, invisibleAnnotations, visibleParameterAnnotations,
    invisibleParameterAnnotations, localVariables]

/-- The name of a kind. -/
def name : AttributeKind → String
  | constantValue => "ConstantValue"
  | code => "Code"
  | exceptions => "Exceptions"
  | signature => "Signature"
  | synthetic => "Synthetic"
  | deprecated => "Deprecated"
  | annotationDefault => "AnnotationDefault"
  | visibleAnnotations => "RuntimeVisibleAnnotations"
  | invisibleAnnotations => "RuntimeInvisibleAnnotations"
  | visibleParameterAnnotations => "RuntimeVisibleParameterAnnotations"
  | invisibleParameterAnnotations => "RuntimeInvisibleParameterAnnotations"
  | localVariables => "LocalVariableTable"

/-- The kind with a given name. -/
def ofName? (name : String) : Option AttributeKind :=
  all.find? fun kind => kind.name = name

/-- The kinds that came with generic signatures and annotations. In older class
files their names have no meaning. -/
def isGeneric : AttributeKind → Bool
  | signature | annotationDefault | visibleAnnotations | invisibleAnnotations
  | visibleParameterAnnotations | invisibleParameterAnnotations => true
  | _ => false

/-- A kind is meant by its name in the versions that know it. -/
def ofNameIn? (version : Version) (name : String) : Option AttributeKind :=
  (ofName? name).filter fun kind => !kind.isGeneric || version.supportsGenerics

theorem mem_all (kind : AttributeKind) : kind ∈ all := by
  cases kind <;> decide

theorem ofName?_name (kind : AttributeKind) : ofName? kind.name = some kind := by
  cases kind <;> decide

theorem name_of_ofName? {name : String} {kind : AttributeKind}
    (found : ofName? name = some kind) : kind.name = name := by
  have holds := List.find?_some found
  simpa using holds

end AttributeKind

/-- The kind of an attribute. `none` if it is kept as a block of bytes. -/
def Attribute.kind? : Attribute → Option AttributeKind
  | .constantValue _ => some .constantValue
  | .code _ => some .code
  | .exceptions _ => some .exceptions
  | .signature _ => some .signature
  | .synthetic => some .synthetic
  | .deprecated => some .deprecated
  | .annotationDefault _ => some .annotationDefault
  | .visibleAnnotations _ => some .visibleAnnotations
  | .invisibleAnnotations _ => some .invisibleAnnotations
  | .visibleParameterAnnotations _ => some .visibleParameterAnnotations
  | .invisibleParameterAnnotations _ => some .invisibleParameterAnnotations
  | .localVariables _ => some .localVariables
  | .unknown _ _ => none

/-- The name of an attribute: that of its kind, or the one kept beside its block. -/
def Attribute.name : Attribute → String
  | .constantValue _ => AttributeKind.constantValue.name
  | .code _ => AttributeKind.code.name
  | .exceptions _ => AttributeKind.exceptions.name
  | .signature _ => AttributeKind.signature.name
  | .synthetic => AttributeKind.synthetic.name
  | .deprecated => AttributeKind.deprecated.name
  | .annotationDefault _ => AttributeKind.annotationDefault.name
  | .visibleAnnotations _ => AttributeKind.visibleAnnotations.name
  | .invisibleAnnotations _ => AttributeKind.invisibleAnnotations.name
  | .visibleParameterAnnotations _ => AttributeKind.visibleParameterAnnotations.name
  | .invisibleParameterAnnotations _ => AttributeKind.invisibleParameterAnnotations.name
  | .localVariables _ => AttributeKind.localVariables.name
  | .unknown name _ => name

/-- An attribute of some kind has the name of that kind. -/
theorem Attribute.name_eq_of_kind? {entry : Attribute} {kind : AttributeKind}
    (ofKind : entry.kind? = some kind) : entry.name = kind.name := by
  cases entry <;> cases ofKind <;> rfl

end ClassMembers
