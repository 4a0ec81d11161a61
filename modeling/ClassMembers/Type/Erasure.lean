/-
This file holds the type parameters of a method and the erasure of types. The
erasure of a class with arguments is the class, that of an array is the array of
the erased component, and that of a variable is the erasure of its leftmost
bound. Bounds may lead from variable to variable. There are only as many
variables to go through as there are parameters, so the walk is given that many
steps: a chain that needs more of them has come back to a variable it passed,
and such a variable erases to the class at the root of all, like one that has no
bound or is not declared.
-/

import ClassMembers.Type.Text

namespace ClassMembers

/-- A type parameter: its name, and the bounds that a value has to meet. -/
structure TypeParameter where
  name : String
  classBound : Option JavaType
  interfaceBounds : List JavaType
  deriving DecidableEq

namespace TypeParameter

/-- All bounds, that of the class first. -/
def bounds (parameter : TypeParameter) : List JavaType :=
  parameter.classBound.toList ++ parameter.interfaceBounds

/-- The leftmost bound. -/
def leftmostBound? (parameter : TypeParameter) : Option JavaType :=
  parameter.bounds.head?

/-- The parameter in source code. A bound by the class at the root of all goes
without saying. -/
def text (parameter : TypeParameter) : String :=
  let written := parameter.bounds.filter fun bound => bound.className? ≠ some .object
  if written.isEmpty then parameter.name
  else parameter.name ++ " extends " ++ String.intercalate " & " (written.map JavaType.text)

end TypeParameter

namespace JavaType

/-- Erasure, given what variables erase to. -/
def erasureWith (variableErasure : String → JavaType) : JavaType → JavaType
  | primitive type => primitive type
  | ofClass name => ofClass name
  | parameterized type => ofClass type.base
  | typeVariable name => variableErasure name
  | array component => array (component.erasureWith variableErasure)

/-- What a variable erases to, within a number of steps from bound to bound. -/
def variableErasure (parameters : List TypeParameter) : Nat → String → JavaType
  | 0, _ => object
  | steps + 1, name =>
    match parameters.find? fun parameter => parameter.name = name with
    | none => object
    | some parameter =>
      match parameter.leftmostBound? with
      | none => object
      | some bound => bound.erasureWith (variableErasure parameters steps)

/-- The erasure of a type against type parameters. -/
def erasure (parameters : List TypeParameter) (type : JavaType) : JavaType :=
  type.erasureWith (variableErasure parameters parameters.length)

/-- The erasure of a type when nothing is known of its variables. -/
def withoutGenerics (type : JavaType) : JavaType :=
  type.erasure []

end JavaType

end ClassMembers
