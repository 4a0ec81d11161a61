/-
This file holds what surrounds a member: the class that declares it, and the
options by which members are modelled.
-/

import ClassMembers.Flags
import ClassMembers.Type.ClassName

namespace ClassMembers

/-- The class that declares a member. An inner class is a nested class that is
not static, so its constructors take the instance around them. -/
structure DeclaringClass where
  name : ClassName
  flags : FieldFlags
  isInner : Bool
  deriving DecidableEq

namespace DeclaringClass

/-- Whether the class is an enum. -/
def isEnum (owner : DeclaringClass) : Bool := owner.flags.contains Flag.isEnum

/-- Whether the class is an interface. -/
def isInterface (owner : DeclaringClass) : Bool := owner.flags.contains Flag.isInterface

end DeclaringClass

/-- How members are modelled: whether parameters take their names from the table
of local variables, and whether bridge methods start out hidden. -/
structure MemberOptions where
  useNameTable : Bool := true
  hideBridgeMethods : Bool := true
  deriving DecidableEq

end ClassMembers
