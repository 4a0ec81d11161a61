/-
This file reports the types that annotations mention, in the order in which they
are written: the type of the annotation, the types of enum constants and class
literals, and those of annotations inside. Constants mention no types here, not
even the constants that are classes.
-/

import ClassMembers.Attribute.Basic
import ClassMembers.Signature.FieldType
import ClassMembers.Usage

namespace ClassMembers

open Usages

mutual

/-- Reports the types that an annotation mentions. -/
def AnnotationUse.usages : AnnotationUse → Usages Unit
  | ⟨descriptor, elements⟩ => do
    report (← typeOf (JavaType.ofSignature descriptor))
    AnnotationElement.usages elements

/-- Reports the types that elements mention. -/
def AnnotationElement.usages : List AnnotationElement → Usages Unit
  | [] => pure ()
  | ⟨_, value⟩ :: rest => do
    value.usages
    AnnotationElement.usages rest

/-- Reports the types that the value of an element mentions. -/
def ElementValue.usages : ElementValue → Usages Unit
  | .constant _ _ => pure ()
  | .enumConstant descriptor _ => do
    report (← typeOf (JavaType.ofSignature descriptor))
  | .classLiteral descriptor => do
    report (← typeOf (JavaType.ofResultDescriptor descriptor))
  | .nested inner => inner.usages
  | .array values => ElementValue.usagesOfAll values

/-- Reports the types that values mention. -/
def ElementValue.usagesOfAll : List ElementValue → Usages Unit
  | [] => pure ()
  | first :: rest => do
    first.usages
    ElementValue.usagesOfAll rest

end

end ClassMembers
