/-
This file writes methods. Code is analysed before anything is written, so a
method whose code was released writes nothing. The declaration follows: comments,
annotations, keywords, and the signature, which a static initializer does not
have; then the body, or the default value, or just the end of the line.

What is written depends on the names of the parameters and on the thrown types,
whether or not these were computed before. Writing the signature computes them,
as far as it gets: the names when the parameters are reached, and the thrown
types behind the parameters if the method has the attribute for exceptions.
-/

import ClassMembers.Method.Basic
import ClassMembers.Rendering.Declaration

namespace ClassMembers.Method

open Rendering

/-! ### Before the signature -/

/-- The keywords of a method. In an interface, being abstract goes without
saying, and a method with code that is neither static nor private is a default
method. -/
def keywords (method : Method) (asInterface : Bool) : List String :=
  if asInterface then
    let flags := method.flags.erase Flag.isAbstract
    let isDefault :=
      method.body.hasCode && !flags.intersects (Flag.isStatic ||| Flag.isPrivate)
    flags.keywords ++ if isDefault then ["default"] else []
  else method.flags.keywords

/-- Writes what stands before the signature. -/
def renderPreamble (method : Method) (asInterface : Bool) : Rendering Unit := do
  match method.comments with
  | some comments => comments.render
  | none => pure ()
  if method.isOverride then do
    print "@Override"
    newline
  renderAnnotations method.attributes.annotations
  renderKeywords (method.keywords asInterface)

/-! ### The signature -/

/-- Writes what stands before the parameters: type parameters, the result unless
the method is a constructor, and the name, which for a constructor is that of the
class. -/
def renderHead (method : Method) : Rendering Unit := do
  let parameters := method.prototype.signature.typeParameters
  if parameters.isEmpty then pure ()
  else print (angled (parameters.map TypeParameter.text) ++ " ")
  if method.kind.isConstructor then identifier method.owner.name.simpleName
  else do
    type method.prototype.signature.result
    print " "
    identifier method.name

/-- Writes the type of a parameter. The last one of a method with a variable
number of arguments is written by its component if it is an array. -/
def renderParameterType (isVariable : Bool) (argument : JavaType) : Rendering Unit :=
  match argument with
  | .array component =>
    if isVariable then do
      type component
      print "..."
    else type argument
  | _ => type argument

/-- Writes a parameter: its annotations, its type and its name. -/
def renderParameter (method : Method) (position : Nat) (argument : JavaType) (name : String) :
    Rendering Unit := do
  .forEach (method.attributes.parameterAnnotations position) fun shown => do
    shown.render
    print " "
  let isLast := position + 1 = method.prototype.declaredArguments.length
  renderParameterType (method.prototype.isVarargs && isLast) argument
  print " "
  identifier name

/-- Writes the parameters from a position on. -/
def renderParametersFrom (method : Method) : Nat → List (JavaType × String) → Rendering Unit
  | _, [] => pure ()
  | position, (argument, name) :: rest => do
    if position = 0 then pure () else print ", "
    method.renderParameter position argument name
    method.renderParametersFrom (position + 1) rest

/-- Writes the parameters that are declared. -/
def renderParameters (method : Method) : Rendering Unit :=
  let names := method.parameterNames.drop method.prototype.hiddenCount
  method.renderParametersFrom 0 (method.prototype.declaredArguments.zip names)

/-- Writes types with commas between them. -/
def renderTypes : List JavaType → Rendering Unit
  | [] => pure ()
  | [only] => type only
  | first :: rest => do
    type first
    print ", "
    renderTypes rest

/-- Whether the thrown types are looked at. -/
def declaresExceptions (method : Method) : Bool := method.attributes.exceptions?.isSome

/-- Writes the thrown types, if there are any. -/
def renderThrows (method : Method) : Rendering Unit :=
  if method.declaresExceptions && !method.thrownTypes.isEmpty then do
    print " "
    keyword "throws"
    print " "
    renderTypes method.thrownTypes
  else pure ()

/-- Writes the signature. -/
def renderSignature (method : Method) : Rendering Unit := do
  method.renderHead
  print "("
  method.renderParameters
  print ")"
  method.renderThrows

/-! ### The whole method -/

/-- Whether a method is written with a signature. -/
def hasSignature (method : Method) : Bool := method.kind ≠ .staticInitializer

/-- Writes what follows the signature: the analysed body with the local classes
under their names, or the default value. -/
def renderBody (method : Method) (analysed : Option StructuredBody) : Rendering Unit :=
  match analysed with
  | some body => do
    if method.hasSignature then print " "
    .emitAll (body.calls.map (Call.withLocalNames method.localClasses))
  | none => do
    match method.body.defaultValue? with
    | some value => do
      print " "
      keyword "default"
      print " "
      value.render
    | none => pure ()
    endLine

/-- Writes a method whose analysis, if it has code, is given. -/
def renderAnalysed (method : Method) (asInterface : Bool) (analysed : Option StructuredBody) :
    Rendering Unit := do
  method.renderPreamble asInterface
  if method.hasSignature then method.renderSignature
  method.renderBody analysed

/-- The method after it was written, with what was computed on the way. -/
def afterRendering (method : Method) (asInterface : Bool) : Method :=
  if method.hasSignature && (method.renderPreamble asInterface).succeeds then
    if method.renderParameters.succeeds && method.declaresExceptions then
      method.withNames.withThrows
    else method.withNames
  else method

/-- Whether writing a method asks for its analysis. -/
def needsAnalysis (method : Method) : Bool := method.body.hasCode || method.body.isReleased

/-- Writes a method, and answers with the method after it was written. A failure
names the method. -/
def render (method : Method) (asInterface : Bool) (analyser : CodeAnalyser) :
    Rendering Unit × Method :=
  let settle (method : Method) (analysed : Option StructuredBody) :=
    ((method.renderAnalysed asInterface analysed).mapError (.naming method.text),
      method.afterRendering asInterface)
  if method.needsAnalysis then
    match method.analysis analyser with
    | (.ok body, method) => settle method (some body)
    | (.error error, method) => (.ofExcept (.error error), method)
  else settle method none

end ClassMembers.Method
