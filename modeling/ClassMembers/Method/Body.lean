/-
This file holds the bodies of methods and their analysis. A method has code, or
none, or none but a default value, as an element of an annotation interface may.
Code is analysed when that is first asked for; a successful analysis is kept, a
failed one is not. Code can be released, and then there is nothing left to
analyse.

The analysis itself is done elsewhere: an analyser is handed the code and the
registry of local classes, to which it adds the classes it finds, also if it
fails in the end.
-/

import ClassMembers.Rendering.Call
import ClassMembers.Attribute.Index

namespace ClassMembers

/-- An analysed body: the calls that write it, and the types it uses. -/
structure StructuredBody where
  calls : List Call
  uses : List JavaType
  deriving DecidableEq

/-- Analyses code, and adds the local classes found to a registry. -/
abbrev CodeAnalyser := Code → LocalClasses → Except MemberError StructuredBody × LocalClasses

/-- The body of a method. Of released code only the header is left. -/
inductive MethodBody where
  | absent
  | absentWithDefault (value : ElementValue)
  | present (code : Code) (analysed : Option StructuredBody)
  | released (code : Code)

namespace MethodBody

/-- The body of a method with the given attributes, and the attributes without
that of its code. -/
def takeFrom (attributes : Attributes) : MethodBody × Attributes :=
  let others := attributes.erase AttributeKind.code.name
  match attributes.code? with
  | some code => (present code none, others)
  | none =>
    match others.annotationDefault? with
    | some value => (absentWithDefault value, others)
    | none => (absent, others)

/-- The code, if it is there. -/
def code? : MethodBody → Option Code
  | present code _ => some code
  | _ => none

/-- Whether the code is there. -/
def hasCode : MethodBody → Bool
  | present _ _ => true
  | _ => false

/-- Whether the code was released. -/
def isReleased : MethodBody → Bool
  | released _ => true
  | _ => false

/-- The default value. -/
def defaultValue? : MethodBody → Option ElementValue
  | absentWithDefault value => some value
  | _ => none

/-- The analysis, if it has been done. -/
def analysed? : MethodBody → Option StructuredBody
  | present _ analysed => analysed
  | _ => none

/-- The analysis of the body of the named method, which is done if it has not
been done before; the body after it; and the registry after it. -/
def analysis (analyser : CodeAnalyser) (registry : LocalClasses) (method : String) :
    MethodBody → Except MemberError StructuredBody × MethodBody × LocalClasses
  | present code (some body) => (.ok body, present code (some body), registry)
  | present code none =>
    let (answer, registry) := analyser code registry
    match answer with
    | .ok body => (.ok body, present code (some body), registry)
    | .error error => (.error error, present code none, registry)
  | released code => (.error (.codeReleased method), released code, registry)
  | absent => (.error (.noCode method), absent, registry)
  | absentWithDefault value => (.error (.noCode method), absentWithDefault value, registry)

/-- Drops the code and its analysis. A body without code stays as it is. -/
def release : MethodBody → MethodBody
  | present code _ => released code.release
  | other => other

/-! ### A body after its release -/

@[simp] theorem code?_release (body : MethodBody) : body.release.code? = none := by
  cases body <;> rfl

@[simp] theorem analysed?_release (body : MethodBody) : body.release.analysed? = none := by
  cases body <;> rfl

/-- Only a body with code is released. -/
theorem isReleased_release (body : MethodBody) :
    body.release.isReleased = (body.hasCode || body.isReleased) := by
  cases body <;> rfl

@[simp] theorem release_release (body : MethodBody) : body.release.release = body.release := by
  cases body <;> rfl

end MethodBody

end ClassMembers
