/-
This file lists the types that a type mentions: itself, the component of an
array, and the arguments of a class and of the classes around it, those of the
outermost class first. A wildcard without a bound mentions nothing.
-/

import ClassMembers.Type.Basic

namespace ClassMembers

mutual

/-- Every type that a type mentions, itself first. -/
def JavaType.mentions : JavaType → List JavaType
  | .primitive type => [.primitive type]
  | .ofClass name => [.ofClass name]
  | .parameterized type => .parameterized type :: type.mentions
  | .typeVariable name => [.typeVariable name]
  | .array component => .array component :: component.mentions

/-- Every type that the arguments of a class and of those around it mention. -/
def GenericType.mentions : GenericType → List JavaType
  | .outermost _ arguments => TypeArgument.mentions arguments
  | .inside outer _ arguments => outer.mentions ++ TypeArgument.mentions arguments

/-- Every type that an argument mentions. -/
def TypeArgument.mentionsOne : TypeArgument → List JavaType
  | .wildcard => []
  | .atMost bound => bound.mentions
  | .atLeast bound => bound.mentions
  | .exactly type => type.mentions

/-- Every type that arguments mention. -/
def TypeArgument.mentions : List TypeArgument → List JavaType
  | [] => []
  | first :: rest => first.mentionsOne ++ TypeArgument.mentions rest

end

/-- Every class that a type mentions, each as often as it does. -/
def JavaType.mentionedClasses (type : JavaType) : List ClassName :=
  type.mentions.filterMap JavaType.className?

end ClassMembers
