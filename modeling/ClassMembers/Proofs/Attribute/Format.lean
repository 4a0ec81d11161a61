/-
This file holds the layout of attributes as relations between values and bytes.
A value has as many written forms as the pool has indexes that lead to its texts
and constants, so the relations leave every index open and ask only that it
leads to what is meant. The relations follow the readers: those of annotations
take the relation of the values inside them, and that of code takes the relation
of the attributes inside it, and the two knots are tied where the readers tie
theirs with a bound on the depth. Here there is no bound.
-/

import ClassMembers.Proofs.Attribute.Framing

namespace ClassMembers

open Reader

/-! ### References into the pool -/

/-- A text is written as an index that leads to it. -/
inductive TextWritten (pool : Pool) : List UInt8 → String → Prop
  | at {text : String} {index : UInt16} (found : pool.utf8 index = .ok text) :
      TextWritten pool (u16Bytes index) text

/-- The name of a class is written as an index that leads to the class. -/
inductive ClassNameWritten (pool : Pool) : List UInt8 → String → Prop
  | at {name : String} {index : UInt16} (found : pool.className index = .ok name) :
      ClassNameWritten pool (u16Bytes index) name

/-! ### Annotations -/

/-- A named element: its name and its value. -/
inductive AnnotationElement.WrittenWith (written : List UInt8 → ElementValue → Prop)
    (pool : Pool) : List UInt8 → AnnotationElement → Prop
  | fields {name : String} {value : ElementValue} {nameBytes valueBytes : List UInt8}
      (named : TextWritten pool nameBytes name) (valued : written valueBytes value) :
      WrittenWith written pool (nameBytes ++ valueBytes) ⟨name, value⟩

/-- An annotation: its descriptor and the table of its elements. -/
inductive AnnotationUse.WrittenWith (written : List UInt8 → ElementValue → Prop)
    (pool : Pool) : List UInt8 → AnnotationUse → Prop
  | fields {descriptor : String} {elements : List AnnotationElement}
      {descriptorBytes elementBytes : List UInt8}
      (described : TextWritten pool descriptorBytes descriptor)
      (listed : Table (AnnotationElement.WrittenWith written pool) elementBytes elements) :
      WrittenWith written pool (descriptorBytes ++ elementBytes) ⟨descriptor, elements⟩

/-- The byte of the tag of an element value. -/
def tagByte (tag : Char) : UInt8 := UInt8.ofNat tag.toNat

/-- An element value: its tag, and what its kind asks for. -/
inductive ElementValue.Written (pool : Pool) : List UInt8 → ElementValue → Prop
  | constant {tag : Char} {value : Constant} {index : UInt16} (primitive : tag ∈ primitiveTags)
      (found : pool.constant index = .ok value) :
      Written pool (tagByte tag :: u16Bytes index) (.constant tag value)
  | string {text : String} {body : List UInt8} (found : TextWritten pool body text) :
      Written pool (tagByte 's' :: body) (.constant 's' (.string text))
  | enumConstant {descriptor name : String} {descriptorBytes nameBytes : List UInt8}
      (described : TextWritten pool descriptorBytes descriptor)
      (named : TextWritten pool nameBytes name) :
      Written pool (tagByte 'e' :: (descriptorBytes ++ nameBytes)) (.enumConstant descriptor name)
  | classLiteral {descriptor : String} {body : List UInt8}
      (described : TextWritten pool body descriptor) :
      Written pool (tagByte 'c' :: body) (.classLiteral descriptor)
  | nested {inner : AnnotationUse} {body : List UInt8}
      (inside : AnnotationUse.WrittenWith (ElementValue.Written pool) pool body inner) :
      Written pool (tagByte '@' :: body) (.nested inner)
  | array {values : List ElementValue} {body : List UInt8}
      (listed : Table (ElementValue.Written pool) body values) :
      Written pool (tagByte '[' :: body) (.array values)

/-- An annotation whose values nest to any depth. -/
abbrev AnnotationUse.Written (pool : Pool) : List UInt8 → AnnotationUse → Prop :=
  AnnotationUse.WrittenWith (ElementValue.Written pool) pool

/-- The annotations of parameters: the count of the parameters in one byte, and
a table of annotations for each. -/
inductive ParameterAnnotationsWritten (pool : Pool) : List UInt8 → List (List AnnotationUse) → Prop
  | counted {rows : List (List AnnotationUse)} {body : List UInt8} (few : rows.length < 2 ^ 8)
      (listed : Sequence (Table (AnnotationUse.Written pool)) body rows) :
      ParameterAnnotationsWritten pool (digits 1 rows.length ++ body) rows

/-! ### Variables, handlers and code -/

/-- A row of a table of local variables. -/
inductive LocalVariable.Written (pool : Pool) : List UInt8 → LocalVariable → Prop
  | fields {startPc length slot : UInt16} {name descriptor : String}
      {nameBytes descriptorBytes : List UInt8} (named : TextWritten pool nameBytes name)
      (described : TextWritten pool descriptorBytes descriptor) :
      Written pool
        (u16Bytes startPc ++ (u16Bytes length ++ (nameBytes ++ (descriptorBytes ++ u16Bytes slot))))
        ⟨startPc, length, name, descriptor, slot⟩

/-- A row of an exception table. -/
inductive ExceptionHandler.Written : List UInt8 → ExceptionHandler → Prop
  | fields {startPc endPc handlerPc catchType : UInt16} :
      Written (u16Bytes startPc ++ (u16Bytes endPc ++ (u16Bytes handlerPc ++ u16Bytes catchType)))
        ⟨startPc, endPc, handlerPc, catchType⟩

/-- A piece of code: the sizes of its frame, its bytes behind their number, the
exception table and the table of its attributes. -/
inductive Code.WrittenWith (written : List UInt8 → Attribute → Prop) : List UInt8 → Code → Prop
  | fields {maxStack maxLocals : UInt16} {code handlerBytes attributeBytes : List UInt8}
      {handlers : List ExceptionHandler} {attributes : List Attribute}
      (short : code.length < 2 ^ 32)
      (handled : Table ExceptionHandler.Written handlerBytes handlers)
      (listed : Table written attributeBytes attributes) :
      WrittenWith written
        (u16Bytes maxStack ++ (u16Bytes maxLocals ++
          (digits 4 code.length ++ (code ++ (handlerBytes ++ attributeBytes)))))
        ⟨maxStack, maxLocals, code, handlers, .ofList attributes, false⟩

/-! ### Attributes -/

/-- The body of an attribute, given the relation of the attributes inside code.
An attribute of a name that belongs to no kind has any body. -/
inductive Attribute.BodyWrittenWith (written : List UInt8 → Attribute → Prop) (pool : Pool) :
    List UInt8 → Attribute → Prop
  | constantValue {index : UInt16} :
      BodyWrittenWith written pool (u16Bytes index) (.constantValue index)
  | code {code : Code} {body : List UInt8} (inside : Code.WrittenWith written body code) :
      BodyWrittenWith written pool body (.code code)
  | exceptions {names : List String} {body : List UInt8}
      (listed : Table (ClassNameWritten pool) body names) :
      BodyWrittenWith written pool body (.exceptions names)
  | signature {text : String} {body : List UInt8} (found : TextWritten pool body text) :
      BodyWrittenWith written pool body (.signature text)
  | synthetic : BodyWrittenWith written pool [] .synthetic
  | deprecated : BodyWrittenWith written pool [] .deprecated
  | annotationDefault {value : ElementValue} {body : List UInt8}
      (valued : ElementValue.Written pool body value) :
      BodyWrittenWith written pool body (.annotationDefault value)
  | visibleAnnotations {annotations : List AnnotationUse} {body : List UInt8}
      (listed : Table (AnnotationUse.Written pool) body annotations) :
      BodyWrittenWith written pool body (.visibleAnnotations annotations)
  | invisibleAnnotations {annotations : List AnnotationUse} {body : List UInt8}
      (listed : Table (AnnotationUse.Written pool) body annotations) :
      BodyWrittenWith written pool body (.invisibleAnnotations annotations)
  | visibleParameterAnnotations {rows : List (List AnnotationUse)} {body : List UInt8}
      (listed : ParameterAnnotationsWritten pool body rows) :
      BodyWrittenWith written pool body (.visibleParameterAnnotations rows)
  | invisibleParameterAnnotations {rows : List (List AnnotationUse)} {body : List UInt8}
      (listed : ParameterAnnotationsWritten pool body rows) :
      BodyWrittenWith written pool body (.invisibleParameterAnnotations rows)
  | localVariables {rows : List LocalVariable} {body : List UInt8}
      (listed : Table (LocalVariable.Written pool) body rows) :
      BodyWrittenWith written pool body (.localVariables rows)
  | unknown {name : String} {body : List UInt8} (unnamed : AttributeKind.ofName? name = none) :
      BodyWrittenWith written pool body (.unknown name body)

/-- An attribute with its name and its length, where code holds attributes to
any depth. -/
inductive Attribute.Written (pool : Pool) : List UInt8 → Attribute → Prop
  | framed {entry : Attribute} {nameIndex : UInt16} {body : List UInt8}
      (named : pool.utf8 nameIndex = .ok entry.name) (short : body.length < 2 ^ 32)
      (inside : Attribute.BodyWrittenWith (Attribute.Written pool) pool body entry) :
      Written pool (attributeBytes nameIndex body) entry

/-- The body of an attribute where code holds attributes to any depth. -/
abbrev Attribute.BodyWritten (pool : Pool) : List UInt8 → Attribute → Prop :=
  Attribute.BodyWrittenWith (Attribute.Written pool) pool

end ClassMembers
