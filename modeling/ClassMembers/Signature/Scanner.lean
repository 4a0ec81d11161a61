/-
This file holds the scanner of descriptors and generic signatures. A scanner
consumes characters from the front and yields a value or a fault; the characters
that remain tell, after a fault, at which byte of the text it was found. All
characters with a meaning are ASCII, so an identifier may hold any others.

A list of items has no count in front of it: it ends at a closing mark, or at the
first item that no mark announces. Both loops are bounded by the number of
characters that remain, because every item takes at least one. The bound is met
only at the end of the text, where an item that has to follow fails by itself.
-/

import ClassMembers.Text.Quoted
import ClassMembers.Text.Utf8

namespace ClassMembers

/-- Why a text is no descriptor or signature. -/
inductive SignatureFault where
  | unexpectedEnd
  | trailingCharacters
  | emptyIdentifier
  | missingArguments
  | missingBound
  | misplacedVoid
  | unknownTag
  | unclosedVariable
  | notAReference
  | unclosedClass
  | emptyArguments
  deriving DecidableEq

/-- The wording of a fault. -/
def SignatureFault.text : SignatureFault → String
  | unexpectedEnd => "unexpected end"
  | trailingCharacters => "trailing characters"
  | emptyIdentifier => "empty identifier"
  | missingArguments => "expected '('"
  | missingBound => "expected ':' after type parameter"
  | misplacedVoid => "void is only valid as a return type"
  | unknownTag => "unknown type tag"
  | unclosedVariable => "expected ';' after type variable"
  | notAReference => "expected reference type"
  | unclosedClass => "expected ';' after class type"
  | emptyArguments => "empty type argument list"

/-- A text that is no descriptor or signature, with the byte at which that was
found. -/
structure SignatureError where
  text : String
  offset : Nat
  fault : SignatureFault
  deriving DecidableEq

/-- The wording of such an error. -/
def SignatureError.message (error : SignatureError) : String :=
  "Malformed signature " ++ Text.quoteText error.text ++ " at offset " ++
    toString error.offset ++ ": " ++ error.fault.text

/-- A computation on the characters that are not consumed yet. -/
abbrev Scanner := EStateM SignatureFault (List Char)

namespace Scanner

variable {α : Type}

/-- Consumes a mark if it comes next, and tells whether it did. -/
def eat (mark : Char) : Scanner Bool
  | [] => .ok false []
  | first :: rest => if first = mark then .ok true rest else .ok false (first :: rest)

/-- Consumes a mark that has to come next. -/
def expect (mark : Char) (fault : SignatureFault) : Scanner Unit := do
  if ← eat mark then return () else throw fault

/-- The characters up to the first stop or the end, of which there has to be one. -/
def identifier (stops : List Char) : Scanner String := fun rest =>
  let name := rest.takeWhile fun c => !stops.contains c
  if name.isEmpty then .error .emptyIdentifier rest
  else .ok (String.ofList name) (rest.dropWhile fun c => !stops.contains c)

/-- Items up to a closing mark, at most as many as the bound. -/
def untilWithin (close : Char) (item : Scanner α) : Nat → Scanner (List α)
  | 0 => return [← item]
  | bound + 1 => do
    if ← eat close then return []
    else
      let first ← item
      let rest ← untilWithin close item bound
      return first :: rest

/-- Items up to a closing mark, which is consumed. -/
def untilMark (close : Char) (item : Scanner α) : Scanner (List α) := do
  untilWithin close item (← get).length

/-- Items that a mark announces, at most as many as the bound. -/
def announcedWithin (mark : Char) (item : Scanner α) : Nat → Scanner (List α)
  | 0 => return []
  | bound + 1 => do
    if ← eat mark then
      let first ← item
      let rest ← announcedWithin mark item bound
      return first :: rest
    else return []

/-- Items of which each is announced by a mark. -/
def announced (mark : Char) (item : Scanner α) : Scanner (List α) := do
  announcedWithin mark item (← get).length

/-- Scans a whole text. -/
def scan (scanner : Scanner α) (text : String) : Except SignatureError α :=
  let chars := text.toList
  let offset (rest : List Char) := Text.utf8Length chars - Text.utf8Length rest
  match scanner chars with
  | .ok value [] => .ok value
  | .ok _ rest => .error ⟨text, offset rest, .trailingCharacters⟩
  | .error fault rest => .error ⟨text, offset rest, fault⟩

end Scanner

end ClassMembers
