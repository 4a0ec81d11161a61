/-
This file reads the type of a field from its descriptor or generic signature. A
descriptor is a signature without arguments and variables, so one grammar serves
both. A reference type is a class, a variable or an array; the arguments of a
class and the component of an array are types again. The grammar of reference
types is written with a bound on their depth, which is the number of characters
that remain: every level takes one of them, so the bound is met only at the end
of the text.
-/

import ClassMembers.Signature.Scanner
import ClassMembers.Type.Basic

namespace ClassMembers

open Scanner

/-- A class name between the points of a class type, with its arguments. -/
abbrev ClassSegment := String × List TypeArgument

/-- The chain of classes that segments name. The internal name of a nested class
continues that of the class around it after a dollar sign. -/
def GenericType.ofSegments (first : ClassSegment) (rest : List ClassSegment) : GenericType :=
  rest.foldl
    (fun outer segment => .inside outer ⟨outer.base.internal ++ "$" ++ segment.1⟩ segment.2)
    (.outermost ⟨first.1⟩ first.2)

/-- The class type that segments name, which is the name alone if no segment has
arguments. -/
def JavaType.ofSegments (first : ClassSegment) (rest : List ClassSegment) : JavaType :=
  let chain := GenericType.ofSegments first rest
  if (first :: rest).all fun segment => segment.2.isEmpty then .ofClass chain.base
  else .parameterized chain

/-- The characters that end a class name. -/
def classNameStops : List Char := ['<', ';', '.']

/-- An argument of a class, given the grammar of reference types. -/
def scanTypeArgument (reference : Scanner JavaType) : Scanner TypeArgument := do
  if ← eat '*' then return .wildcard
  else if ← eat '+' then return .atMost (← reference)
  else if ← eat '-' then return .atLeast (← reference)
  else return .exactly (← reference)

/-- The arguments of a class, of which there is at least one if there is a list
of them. -/
def scanTypeArguments (reference : Scanner JavaType) : Scanner (List TypeArgument) := do
  if ← eat '<' then
    let arguments ← untilMark '>' (scanTypeArgument reference)
    if arguments.isEmpty then throw .emptyArguments else return arguments
  else return []

/-- A class name with its arguments. -/
def scanClassSegment (reference : Scanner JavaType) : Scanner ClassSegment := do
  let name ← identifier classNameStops
  let arguments ← scanTypeArguments reference
  return (name, arguments)

/-- A class type after its leading letter. -/
def scanClassType (reference : Scanner JavaType) : Scanner JavaType := do
  let first ← scanClassSegment reference
  let rest ← announced '.' (scanClassSegment reference)
  expect ';' .unclosedClass
  return .ofSegments first rest

/-- A type variable after its leading letter. -/
def scanTypeVariable : Scanner JavaType := do
  let name ← identifier [';']
  expect ';' .unclosedVariable
  return .typeVariable name

/-- The letters and the bracket that reference types begin with. -/
def referenceMarks : List Char := ['L', 'T', '[']

/-- The type of a field, given the grammar of reference types. -/
def scanFieldTypeWith (reference : Scanner JavaType) : Scanner JavaType
  | [] => .error .unexpectedEnd []
  | first :: rest =>
    if referenceMarks.contains first then reference (first :: rest)
    else if first = 'V' then .error .misplacedVoid (first :: rest)
    else match PrimitiveType.ofLetter? first with
      | some type => .ok (.primitive type) rest
      | none => .error .unknownTag (first :: rest)

/-- A reference type of bounded depth. -/
def scanReferenceWithin : Nat → Scanner JavaType
  | 0 => throw .unexpectedEnd
  | depth + 1 => fun rest =>
    let inner := scanReferenceWithin depth
    match rest with
    | [] => .error .unexpectedEnd []
    | 'L' :: rest => scanClassType inner rest
    | 'T' :: rest => scanTypeVariable rest
    | '[' :: rest => (JavaType.array <$> scanFieldTypeWith inner) rest
    | rest => .error .notAReference rest

/-- A reference type. -/
def scanReference : Scanner JavaType := do
  scanReferenceWithin (← get).length

/-- The type of a field. -/
def scanFieldType : Scanner JavaType := scanFieldTypeWith scanReference

/-- The type that a descriptor or signature of a field spells. -/
def JavaType.ofSignature (text : String) : Except SignatureError JavaType :=
  scanFieldType.scan text

/-- The type that a descriptor spells where `V` stands for `void`. -/
def JavaType.ofResultDescriptor (text : String) : Except SignatureError JavaType :=
  if text = "V" then .ok (.primitive .void) else ofSignature text

/-- The type of a class constant: an internal name, or the descriptor of an array. -/
def JavaType.ofClassConstant (name : String) : Except SignatureError JavaType :=
  if name.toList.head? = some '[' then ofSignature name else .ok (.named name)

end ClassMembers
