/-
This file holds the prototype of a method: what is known of calling it. The
generic signature is preferred to the descriptor, but the two need not agree.
Some compilers leave the instance around an inner class out of the signature of
its constructors, while the descriptor has it. If the arguments agree otherwise,
that one argument is put back; if they do not, the descriptor is kept beside the
signature and trusted for the arguments.

The names of the parameters are computed when they are first asked for, and stay
as they were computed then.
-/

import ClassMembers.Member.Context
import ClassMembers.Namer
import ClassMembers.Signature.Method
import ClassMembers.Usage

namespace ClassMembers

/-! ### Constructors -/

/-- What kind of constructor a method is. The signature of an enum constructor
omits the hidden arguments for the name and the ordinal; without a signature the
descriptor shows them, and such a constructor has a kind of its own. -/
inductive ConstructorKind where
  | notConstructor
  | staticInitializer
  | constructor
  | enumConstructor
  | bareEnumConstructor
  deriving DecidableEq

namespace ConstructorKind

/-- The kind that the name of a method tells. -/
def ofName (name : String) (ownerIsEnum : Bool) : ConstructorKind :=
  if name = "<init>" then
    if ownerIsEnum then enumConstructor else constructor
  else if name = "<clinit>" then staticInitializer
  else notConstructor

/-- Constructors of instances. -/
def isConstructor : ConstructorKind → Bool
  | constructor | enumConstructor | bareEnumConstructor => true
  | _ => false

/-- Constructors of enum constants. -/
def isEnumConstructor : ConstructorKind → Bool
  | enumConstructor | bareEnumConstructor => true
  | _ => false

/-- The kind once it is known whether there is a signature. -/
def withSignature (kind : ConstructorKind) (signature : Option String) : ConstructorKind :=
  match kind, signature with
  | enumConstructor, none => bareEnumConstructor
  | other, _ => other

end ConstructorKind

/-! ### Prototypes -/

/-- What a prototype is made from. -/
structure PrototypeSource where
  name : String
  owner : ClassName
  ownerIsInner : Bool
  flags : MethodFlags
  kind : ConstructorKind
  descriptor : String
  signature : Option String

/-- The prototype of a method. The fallback, if there is one, is trusted for the
arguments. -/
structure Prototype where
  name : String
  owner : ClassName
  signature : MethodSignature
  fallback : Option MethodSignature
  isInstance : Bool
  isVarargs : Bool
  isSynthetic : Bool
  kind : ConstructorKind
  computedNames : Option (List String)
  deriving DecidableEq

/-- Whether a signature differs from a descriptor only in its missing first
argument. -/
def MethodSignature.lacksFirstArgument (signature descriptor : MethodSignature) : Bool :=
  signature.arguments.map signature.erase = descriptor.arguments.drop 1 &&
    descriptor.arguments.length = signature.arguments.length + 1

/-- Puts the first argument of a descriptor before those of a signature. -/
def MethodSignature.withFirstArgument (signature descriptor : MethodSignature) :
    MethodSignature :=
  { signature with arguments := descriptor.arguments.take 1 ++ signature.arguments }

/-- The signature to go by, and the fallback for its arguments, when the
signature of a method of an inner class meets the descriptor. -/
def MethodSignature.reconcile (signature descriptor : MethodSignature) :
    MethodSignature × Option MethodSignature :=
  if descriptor.arguments.length = signature.arguments.length then (signature, none)
  else if signature.lacksFirstArgument descriptor then
    (signature.withFirstArgument descriptor, none)
  else (signature, some descriptor)

/-- A signature and the name of its method in source code, with the arguments
given separately. -/
def MethodSignature.textWith (signature : MethodSignature) (name : String)
    (arguments : List JavaType) : String :=
  let parameters :=
    if signature.typeParameters.isEmpty then ""
    else angled (signature.typeParameters.map TypeParameter.text) ++ " "
  parameters ++ signature.result.text ++ " " ++ name ++ "(" ++
    String.intercalate ", " (arguments.map JavaType.text) ++ ")"

namespace PrototypeSource

/-- The signature to go by, and the fallback for its arguments. -/
def signatures (source : PrototypeSource) :
    Except SignatureError (MethodSignature × Option MethodSignature) := do
  let preferred ← MethodSignature.ofSignature (source.signature.getD source.descriptor)
  if source.ownerIsInner && source.signature.isSome then
    return preferred.reconcile (← MethodSignature.ofSignature source.descriptor)
  else return (preferred, none)

end PrototypeSource

namespace Prototype

/-- The prototype that a source makes. -/
def ofSource (source : PrototypeSource) : Except SignatureError Prototype := do
  let (signature, fallback) ← source.signatures
  return {
    name := source.name
    owner := source.owner
    signature
    fallback
    isInstance := !source.flags.contains Flag.isStatic
    isVarargs := source.flags.contains Flag.isVarargs
    isSynthetic := source.flags.contains Flag.isSynthetic
    kind := source.kind.withSignature source.signature
    computedNames := none }

/-- The arguments that a call passes. -/
def effectiveArguments (prototype : Prototype) : List JavaType :=
  (prototype.fallback.getD prototype.signature).arguments

/-- The number of arguments at the front that are not declared in source code. -/
def hiddenCount (prototype : Prototype) : Nat :=
  match prototype.kind with
  | .bareEnumConstructor => min 2 prototype.effectiveArguments.length
  | _ => 0

/-- The arguments that are declared in source code. -/
def declaredArguments (prototype : Prototype) : List JavaType :=
  prototype.effectiveArguments.drop prototype.hiddenCount

/-! ### Names of parameters -/

/-- The greatest number of a slot, at which counting stops. -/
def greatestSlot : Nat := 65535

/-- The slots of arguments that begin at a given one. -/
def slotsFrom : Nat → List JavaType → List Nat
  | _, [] => []
  | slot, first :: rest => slot :: slotsFrom (min greatestSlot (slot + first.slotWidth)) rest

/-- The slot of the first argument: the instance comes before it, and so do the
name and the ordinal of an enum constant that the signature omits. -/
def firstSlot (prototype : Prototype) : Nat :=
  (if prototype.isInstance then 1 else 0) + if prototype.kind = .enumConstructor then 2 else 0

/-- The names that a namer gives the arguments. -/
def namesBy (prototype : Prototype) (namer : Namer) : List String :=
  (slotsFrom prototype.firstSlot prototype.effectiveArguments).zipIdx.map fun slot =>
    namer slot.1 slot.2

/-- The names of the arguments: those computed before, or those of a namer. -/
def parameterNames (prototype : Prototype) (namer : Namer) : List String :=
  prototype.computedNames.getD (prototype.namesBy namer)

/-- The prototype once its names have been asked for. -/
def withNames (prototype : Prototype) (namer : Namer) : Prototype :=
  { prototype with computedNames := some (prototype.parameterNames namer) }

/-! ### Text and usages -/

/-- The prototype in source code. -/
def text (prototype : Prototype) : String :=
  prototype.signature.textWith prototype.name prototype.effectiveArguments

/-- The types that a prototype mentions: bounds, arguments, the result, and what
the signature declares to be thrown. -/
def mentionedTypes (prototype : Prototype) : List JavaType :=
  prototype.signature.typeParameters.flatMap TypeParameter.bounds ++
    prototype.effectiveArguments ++ prototype.signature.result :: prototype.signature.throws

end Prototype

end ClassMembers
