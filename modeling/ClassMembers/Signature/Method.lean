/-
This file reads the signature of a method: type parameters if there are any, the
arguments between parentheses, the result, and the types that may be thrown. A
descriptor is a signature with arguments and a result only.
-/

import ClassMembers.Signature.FieldType
import ClassMembers.Type.Erasure

namespace ClassMembers

open Scanner

/-- The signature of a method. -/
structure MethodSignature where
  typeParameters : List TypeParameter
  arguments : List JavaType
  result : JavaType
  throws : List JavaType
  deriving DecidableEq

/-- The characters that end the name of a type parameter. -/
def typeParameterStops : List Char := [':', '>', ';']

/-- The bound of a type parameter by a class, which may be left out where the
bounds by interfaces, or the end of the list, follow. -/
def scanClassBound : Scanner (Option JavaType)
  | ':' :: rest => .ok none (':' :: rest)
  | '>' :: rest => .ok none ('>' :: rest)
  | rest => (some <$> scanReference) rest

/-- A type parameter with its bounds. -/
def scanTypeParameter : Scanner TypeParameter := do
  let name ← identifier typeParameterStops
  expect ':' .missingBound
  let classBound ← scanClassBound
  let interfaceBounds ← announced ':' scanReference
  return ⟨name, classBound, interfaceBounds⟩

/-- The type parameters, if there is a list of them. -/
def scanTypeParameters : Scanner (List TypeParameter) := do
  if ← eat '<' then untilMark '>' scanTypeParameter else return []

/-- The result of a method. -/
def scanResult : Scanner JavaType := do
  if ← eat 'V' then return .primitive .void else scanFieldType

/-- The signature of a method. -/
def scanMethodSignature : Scanner MethodSignature := do
  let typeParameters ← scanTypeParameters
  expect '(' .missingArguments
  let arguments ← untilMark ')' scanFieldType
  let result ← scanResult
  let throws ← announced '^' scanReference
  return ⟨typeParameters, arguments, result, throws⟩

/-- The signature that a descriptor or generic signature of a method spells. -/
def MethodSignature.ofSignature (text : String) : Except SignatureError MethodSignature :=
  scanMethodSignature.scan text

namespace MethodSignature

/-- The erasure of a type against the type parameters of a signature. -/
def erase (signature : MethodSignature) (type : JavaType) : JavaType :=
  type.erasure signature.typeParameters

end MethodSignature

end ClassMembers
