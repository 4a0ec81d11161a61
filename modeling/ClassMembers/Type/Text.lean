/-
This file writes types as they stand in source code. A class with arguments
inside another one is written after it with its simple name, since the names of
the classes around it have been written already.
-/

import ClassMembers.Type.Basic

namespace ClassMembers

/-- Texts between angle brackets, and nothing at all if there are none. -/
def angled (texts : List String) : String :=
  if texts.isEmpty then "" else "<" ++ String.intercalate ", " texts ++ ">"

mutual

/-- A type in source code. -/
def JavaType.text : JavaType → String
  | .primitive type => type.name
  | .ofClass name => name.text
  | .parameterized type => type.text
  | .typeVariable name => name
  | .array component => component.text ++ "[]"

/-- A class with its arguments in source code. -/
def GenericType.text : GenericType → String
  | .outermost base arguments => base.text ++ angled (TypeArgument.texts arguments)
  | .inside outer base arguments =>
    outer.text ++ "." ++ base.simpleName ++ angled (TypeArgument.texts arguments)

/-- An argument in source code. -/
def TypeArgument.text : TypeArgument → String
  | .wildcard => "?"
  | .atMost bound => "? extends " ++ bound.text
  | .atLeast bound => "? super " ++ bound.text
  | .exactly type => type.text

/-- Arguments in source code. -/
def TypeArgument.texts : List TypeArgument → List String
  | [] => []
  | first :: rest => first.text :: TypeArgument.texts rest

end

end ClassMembers
