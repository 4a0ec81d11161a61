/-
This file answers whether a class can see a method of another class. The answer
depends on what is known of the whole program: the supertypes of a class, which
need not be known, and the class around a nested one. The chain of classes around
a class is followed for a limited number of steps, since it may be cyclic in a
malformed class file.
-/

import ClassMembers.Flags
import ClassMembers.Type.ClassName

namespace ClassMembers

/-- What is known of the classes of a program: all supertypes of a class, if its
hierarchy could be resolved, and the class around a nested class. -/
structure TypeBindings where
  supertypes : ClassName → Option (List ClassName)
  outerClass : ClassName → Option ClassName

/-- The number of classes around a class that are looked at. -/
def maxNestingDepth : Nat := 64

namespace TypeBindings

/-- Whether a class is among the first few of the chain that starts with a given
one. -/
def chainMeets (bindings : TypeBindings) (outer : ClassName) : Nat → Option ClassName → Bool
  | 0, _ => false
  | _ + 1, none => false
  | steps + 1, some current =>
    current = outer || bindings.chainMeets outer steps (bindings.outerClass current)

/-- Whether a class lies inside another one, directly or not. -/
def isInside (bindings : TypeBindings) (inner outer : ClassName) : Bool :=
  bindings.chainMeets outer maxNestingDepth (bindings.outerClass inner)

/-- Whether one of two classes lies inside the other. -/
def areNested (bindings : TypeBindings) (declaring caller : ClassName) : Bool :=
  bindings.isInside caller declaring || bindings.isInside declaring caller

/-- Whether a class is known to inherit from another one. -/
def inherits (bindings : TypeBindings) (caller declaring : ClassName) : Bool :=
  match bindings.supertypes caller with
  | some supertypes => supertypes.contains declaring
  | none => false

end TypeBindings

/-- Whether a method with the given flags can be seen from a class. A private
method can be seen by the classes around and inside its own; every other method
by the package of its class, and a protected one by heirs and by the classes
around and inside as well. -/
def MethodFlags.visibleTo (flags : MethodFlags) (bindings : TypeBindings)
    (declaring caller : ClassName) : Bool :=
  if flags.contains Flag.isPublic || caller = declaring then true
  else if flags.contains Flag.isPrivate then bindings.areNested declaring caller
  else if flags.contains Flag.isProtected &&
      (bindings.inherits caller declaring || bindings.areNested declaring caller) then true
  else caller.packageName = declaring.packageName

end ClassMembers
