/-
This file holds the scanner of signatures as it works on the bytes of a text. It looks at
the byte that comes next and compares it with marks, which are all of ASCII, and it knows
nothing of characters. Only a name is cut out as a text of its own, and a cut inside of a
character is then a failure that has nothing to do with the grammar. Apart from names the
scanner goes the same way as the one of characters. Its loops and its depth are bounded by
the number of bytes that remain.
-/

import ClassMembers.Proofs.Text.Utf8
import ClassMembers.Signature.Method

namespace ClassMembers

/-- Why a scan of bytes fails: the text is no signature, or a name is cut out of it with
part of a character. -/
inductive ByteFault where
  | signature (fault : SignatureFault)
  | torn
  deriving DecidableEq

/-- A computation on the bytes that are not consumed yet. -/
abbrev ByteScanner := EStateM ByteFault (List UInt8)

namespace ByteScanner

variable {α : Type}

/-! ### Marks and names -/

/-- Whether a text may be cut in front of what is left of its bytes: at the end, and in front
of a byte that does not go on with a character. -/
def cutsBefore : List UInt8 → Bool
  | [] => true
  | byte :: _ => byte < 0x80 || 0xC0 ≤ byte

/-- Consumes a mark if it comes next, and tells whether it did. -/
def eat (mark : Char) : ByteScanner Bool
  | [] => .ok false []
  | byte :: rest => if byte = mark.toUInt8 then .ok true rest else .ok false (byte :: rest)

/-- Consumes a mark that has to come next. -/
def expect (mark : Char) (fault : SignatureFault) : ByteScanner Unit := do
  if ← eat mark then return () else throw (.signature fault)

/-- Whether a byte is none of the stops. -/
def passes (stops : List Char) (byte : UInt8) : Bool :=
  !(stops.map Char.toUInt8).contains byte

/-- The text up to the first stop or the end, of which there has to be some. -/
def identifier (stops : List Char) : ByteScanner String := fun rest =>
  let name := rest.takeWhile (passes stops)
  let behind := rest.dropWhile (passes stops)
  if name.isEmpty then .error (.signature .emptyIdentifier) rest
  else if cutsBefore rest && cutsBefore behind then .ok (Text.decodeUtf8 name) behind
  else .error .torn behind

/-! ### Loops -/

/-- Items up to a closing mark, at most as many as the bound. -/
def untilWithin (close : Char) (item : ByteScanner α) : Nat → ByteScanner (List α)
  | 0 => return [← item]
  | bound + 1 => do
    if ← eat close then return []
    else
      let first ← item
      let rest ← untilWithin close item bound
      return first :: rest

/-- Items up to a closing mark, which is consumed. -/
def untilMark (close : Char) (item : ByteScanner α) : ByteScanner (List α) := do
  untilWithin close item (← get).length

/-- Items that a mark announces, at most as many as the bound. -/
def announcedWithin (mark : Char) (item : ByteScanner α) : Nat → ByteScanner (List α)
  | 0 => return []
  | bound + 1 => do
    if ← eat mark then
      let first ← item
      let rest ← announcedWithin mark item bound
      return first :: rest
    else return []

/-- Items of which each is announced by a mark. -/
def announced (mark : Char) (item : ByteScanner α) : ByteScanner (List α) := do
  announcedWithin mark item (← get).length

/-! ### Types -/

/-- An argument of a class, given the grammar of reference types. -/
def typeArgument (reference : ByteScanner JavaType) : ByteScanner TypeArgument := do
  if ← eat '*' then return .wildcard
  else if ← eat '+' then return .atMost (← reference)
  else if ← eat '-' then return .atLeast (← reference)
  else return .exactly (← reference)

/-- The arguments of a class. -/
def typeArguments (reference : ByteScanner JavaType) : ByteScanner (List TypeArgument) := do
  if ← eat '<' then
    let arguments ← untilMark '>' (typeArgument reference)
    if arguments.isEmpty then throw (.signature .emptyArguments) else return arguments
  else return []

/-- A class name with its arguments. -/
def classSegment (reference : ByteScanner JavaType) : ByteScanner ClassSegment := do
  let name ← identifier classNameStops
  let arguments ← typeArguments reference
  return (name, arguments)

/-- A class type after its leading letter. -/
def classType (reference : ByteScanner JavaType) : ByteScanner JavaType := do
  let first ← classSegment reference
  let rest ← announced '.' (classSegment reference)
  expect ';' .unclosedClass
  return .ofSegments first rest

/-- A type variable after its leading letter. -/
def typeVariable : ByteScanner JavaType := do
  let name ← identifier [';']
  expect ';' .unclosedVariable
  return .typeVariable name

/-- The type of a field, given the grammar of reference types. -/
def fieldTypeWith (reference : ByteScanner JavaType) : ByteScanner JavaType
  | [] => .error (.signature .unexpectedEnd) []
  | byte :: rest =>
    if (referenceMarks.map Char.toUInt8).contains byte then reference (byte :: rest)
    else if byte = 'V'.toUInt8 then .error (.signature .misplacedVoid) (byte :: rest)
    else match PrimitiveType.ofLetter? (Char.ofNat byte.toNat) with
      | some type => .ok (.primitive type) rest
      | none => .error (.signature .unknownTag) (byte :: rest)

/-- A reference type of bounded depth. -/
def referenceWithin : Nat → ByteScanner JavaType
  | 0 => throw (.signature .unexpectedEnd)
  | depth + 1 => fun rest =>
    let inner := referenceWithin depth
    match rest with
    | [] => .error (.signature .unexpectedEnd) []
    | byte :: rest =>
      if byte = 'L'.toUInt8 then classType inner rest
      else if byte = 'T'.toUInt8 then typeVariable rest
      else if byte = '['.toUInt8 then (JavaType.array <$> fieldTypeWith inner) rest
      else .error (.signature .notAReference) (byte :: rest)

/-- A reference type. -/
def reference : ByteScanner JavaType := do
  referenceWithin (← get).length

/-- The type of a field. -/
def fieldType : ByteScanner JavaType := fieldTypeWith reference

/-! ### Signatures of methods -/

/-- The bound of a type parameter by a class, which may be left out. -/
def classBound : ByteScanner (Option JavaType)
  | [] => (some <$> reference) []
  | byte :: rest =>
    if byte = ':'.toUInt8 ∨ byte = '>'.toUInt8 then .ok none (byte :: rest)
    else (some <$> reference) (byte :: rest)

/-- A type parameter with its bounds. -/
def typeParameter : ByteScanner TypeParameter := do
  let name ← identifier typeParameterStops
  expect ':' .missingBound
  let classBound ← classBound
  let interfaceBounds ← announced ':' reference
  return ⟨name, classBound, interfaceBounds⟩

/-- The type parameters, if there is a list of them. -/
def typeParameters : ByteScanner (List TypeParameter) := do
  if ← eat '<' then untilMark '>' typeParameter else return []

/-- The result of a method. -/
def result : ByteScanner JavaType := do
  if ← eat 'V' then return .primitive .void else fieldType

/-- The signature of a method. -/
def methodSignature : ByteScanner MethodSignature := do
  let typeParameters ← typeParameters
  expect '(' .missingArguments
  let arguments ← untilMark ')' fieldType
  let result ← result
  let throws ← announced '^' reference
  return ⟨typeParameters, arguments, result, throws⟩

/-- Scans all bytes. A failure comes with the number of bytes in front of it. -/
def scan (scanner : ByteScanner α) (bytes : List UInt8) : Except (Nat × ByteFault) α :=
  match scanner bytes with
  | .ok value [] => .ok value
  | .ok _ rest => .error (bytes.length - rest.length, .signature .trailingCharacters)
  | .error fault rest => .error (bytes.length - rest.length, fault)

end ByteScanner

end ClassMembers
