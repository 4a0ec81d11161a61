/-
This file writes annotations as they stand in source code. An annotation without
elements is its type alone; one whose only element is called `value` shows the
value without the name; every other one lists its elements by name.
-/

import ClassMembers.Attribute.Basic
import ClassMembers.Literal
import ClassMembers.Rendering.Call

namespace ClassMembers

/-- The literal of a constant element. The tag tells the type it is used at. -/
def elementLiteral (tag : Char) (value : Constant) : Except MemberError Literal :=
  ((Literal.ofConstant value).mapError .signature).map fun literal =>
    literal.narrowTo (PrimitiveType.ofLetter? tag)

/-- The name of the element that may go without a name. -/
def soleElementName : String := "value"

open Rendering

mutual

/-- Writes an annotation. -/
def AnnotationUse.render : AnnotationUse → Rendering Unit
  | ⟨descriptor, elements⟩ => do
    print "@"
    type (← typeOf (JavaType.ofSignature descriptor))
    match elements with
    | [] => pure ()
    | [⟨name, value⟩] => do
      print "("
      if name = soleElementName then pure ()
      else do
        identifier name
        print "="
      value.render
      print ")"
    | first :: rest => do
      print "("
      first.render
      AnnotationElement.renderRest rest
      print ")"

/-- Writes an element by its name. -/
def AnnotationElement.render : AnnotationElement → Rendering Unit
  | ⟨name, value⟩ => do
    identifier name
    print "="
    value.render

/-- Writes the elements after the first. -/
def AnnotationElement.renderRest : List AnnotationElement → Rendering Unit
  | [] => pure ()
  | first :: rest => do
    print ", "
    first.render
    AnnotationElement.renderRest rest

/-- Writes the value of an element. -/
def ElementValue.render : ElementValue → Rendering Unit
  | .constant tag value => do
    let literal ← Emission.ofExcept (elementLiteral tag value)
    print literal.text
  | .enumConstant descriptor name => do
    type (← typeOf (JavaType.ofSignature descriptor))
    print "."
    identifier name
  | .classLiteral descriptor => do
    type (← typeOf (JavaType.ofResultDescriptor descriptor))
    print ".class"
  | .nested inner => inner.render
  | .array values => do
    print "\x7b"
    match values with
    | [] => pure ()
    | first :: rest => do
      first.render
      ElementValue.renderRest rest
    print "\x7d"

/-- Writes the values after the first. -/
def ElementValue.renderRest : List ElementValue → Rendering Unit
  | [] => pure ()
  | first :: rest => do
    print ", "
    first.render
    ElementValue.renderRest rest

end

end ClassMembers
