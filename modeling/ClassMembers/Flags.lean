/-
This file holds access flags. The same bits mean different things for a method
and for a class or a field, so a set of flags carries what it is about: the bit
of `volatile` is that of a bridge method, and the bit of `transient` that of a
variable number of arguments. Bits without a meaning are dropped when a set is
made from the number in a class file. One flag, `deprecated`, has no bit in a
class file; it comes from the attribute of that name.
-/

import ClassMembers.Attribute.Index

namespace ClassMembers

/-- What a set of flags is about. -/
inductive FlagOwner where
  | classOrField
  | method
  deriving DecidableEq

/-- A set of flags, one bit each. -/
structure FlagSet (owner : FlagOwner) where
  bits : UInt32
  deriving DecidableEq

/-- The flags of a class or a field. -/
abbrev FieldFlags := FlagSet .classOrField

/-- The flags of a method. -/
abbrev MethodFlags := FlagSet .method

/-! ### The bits -/

namespace Flag

/-- Can be used from everywhere. -/
def isPublic : UInt32 := 0x0001
/-- Can be used in its own class and those nested with it. -/
def isPrivate : UInt32 := 0x0002
/-- Can be used in its package and by heirs. -/
def isProtected : UInt32 := 0x0004
/-- Belongs to the class and not to an instance. -/
def isStatic : UInt32 := 0x0008
/-- Cannot be assigned, overridden or inherited from. -/
def isFinal : UInt32 := 0x0010
/-- A method that holds a lock while it runs. -/
def isSynchronized : UInt32 := 0x0020
/-- A field that threads see each other write. -/
def isVolatile : UInt32 := 0x0040
/-- A method that a compiler made to keep an erased signature. -/
def isBridge : UInt32 := 0x0040
/-- A field that is left out of a stored object. -/
def isTransient : UInt32 := 0x0080
/-- A method whose last argument stands for any number of them. -/
def isVarargs : UInt32 := 0x0080
/-- A method whose code is elsewhere. -/
def isNative : UInt32 := 0x0100
/-- An interface. -/
def isInterface : UInt32 := 0x0200
/-- Has no body, or is to be inherited from. -/
def isAbstract : UInt32 := 0x0400
/-- A method with strict floating point arithmetic. -/
def isStrict : UInt32 := 0x0800
/-- Made by a compiler. -/
def isSynthetic : UInt32 := 0x1000
/-- An enum, or a constant of one. -/
def isEnum : UInt32 := 0x4000
/-- Deprecated, which no bit of a class file says. -/
def isDeprecated : UInt32 := 0x20000

end Flag

/-- The bits of a class file that have a meaning. For a class or a field these
are all but one; a method has no use for the bits of interfaces, annotation
interfaces, enums and modules. -/
def FlagOwner.meaningful : FlagOwner → UInt32
  | .classOrField => 0xFEFF
  | .method => 0x1DFF

/-- The flags that are written as keywords, in the order of a declaration. -/
def FlagOwner.keywords : FlagOwner → List (UInt32 × String)
  | .classOrField =>
    [(Flag.isPublic, "public"), (Flag.isPrivate, "private"), (Flag.isProtected, "protected"),
      (Flag.isStatic, "static"), (Flag.isFinal, "final"), (Flag.isTransient, "transient"),
      (Flag.isVolatile, "volatile")]
  | .method =>
    [(Flag.isPublic, "public"), (Flag.isPrivate, "private"), (Flag.isProtected, "protected"),
      (Flag.isAbstract, "abstract"), (Flag.isStatic, "static"), (Flag.isFinal, "final"),
      (Flag.isSynchronized, "synchronized"), (Flag.isNative, "native"),
      (Flag.isStrict, "strictfp")]

/-! ### Sets of flags -/

namespace FlagSet

variable {owner : FlagOwner}

/-- The flags of a number in a class file. -/
def ofBits (bits : UInt16) : FlagSet owner :=
  ⟨bits.toUInt32 &&& owner.meaningful⟩

/-- Whether all of the given bits are set. -/
def contains (flags : FlagSet owner) (flag : UInt32) : Bool :=
  flags.bits &&& flag = flag

/-- Whether one of the given bits is set. -/
def intersects (flags : FlagSet owner) (flag : UInt32) : Bool :=
  flags.bits &&& flag ≠ 0

/-- Sets bits. -/
def insert (flags : FlagSet owner) (flag : UInt32) : FlagSet owner :=
  ⟨flags.bits ||| flag⟩

/-- Clears bits. -/
def erase (flags : FlagSet owner) (flag : UInt32) : FlagSet owner :=
  ⟨flags.bits &&& ~~~flag⟩

/-- Adds the flags that an owner may have by an attribute in place of a bit. -/
def withAttributes (flags : FlagSet owner) (attributes : Attributes) : FlagSet owner :=
  let flags :=
    if (attributes.ofKind? .synthetic).isSome then flags.insert Flag.isSynthetic else flags
  if (attributes.ofKind? .deprecated).isSome then flags.insert Flag.isDeprecated else flags

/-- The keywords of a declaration, in order. -/
def keywords (flags : FlagSet owner) : List String :=
  (owner.keywords.filter fun row => flags.contains row.1).map Prod.snd

end FlagSet

end ClassMembers
