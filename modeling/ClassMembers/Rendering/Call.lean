/-
This file holds what rendering emits: calls on the output, which tell apart
keywords, identifiers, types and comments from other text, so that an output may
treat them in its own way. The plain output is text. Before calls reach the
output they may be made aware of local classes: a type that is a local class
with a suggested name is then written by that name.
-/

import ClassMembers.Emission
import ClassMembers.LocalClasses

namespace ClassMembers

/-- A call on the output. -/
inductive Call where
  | print (text : String)
  | newline
  | keyword (text : String)
  | identifier (name : String)
  | type (shown : JavaType)
  | comment (text : String)
  | endLine
  deriving DecidableEq

namespace Call

/-- What a call writes as plain text. -/
def text : Call → String
  | print text => text
  | newline => "\n"
  | keyword text => text
  | identifier name => name
  | type shown => shown.text
  | comment text => "/* " ++ text ++ " */\n"
  | endLine => ";\n"

/-- A call made aware of local classes. -/
def withLocalNames (registry : LocalClasses) : Call → Call
  | type shown =>
    match shown.className?.bind registry.suggestedName? with
    | some name => print name
    | none => type shown
  | other => other

end Call

/-- The plain text of calls. -/
def renderedText (calls : List Call) : String :=
  String.join (calls.map Call.text)

/-- A computation that writes to the output. -/
abbrev Rendering := Emission Call MemberError

namespace Rendering

/-- Writes text as it is. -/
def print (text : String) : Rendering Unit := .emit (.print text)

/-- Ends a line. -/
def newline : Rendering Unit := .emit .newline

/-- Writes keywords. -/
def keyword (text : String) : Rendering Unit := .emit (.keyword text)

/-- Writes an identifier. -/
def identifier (name : String) : Rendering Unit := .emit (.identifier name)

/-- Writes a type. -/
def type (shown : JavaType) : Rendering Unit := .emit (.type shown)

/-- Writes a comment on a line of its own. -/
def comment (text : String) : Rendering Unit := .emit (.comment text)

/-- Ends a declaration. -/
def endLine : Rendering Unit := .emit .endLine

/-- The type that a descriptor or signature spells. -/
def typeOf (answer : Except SignatureError JavaType) : Rendering JavaType :=
  .ofExcept (answer.mapError .signature)

end Rendering

end ClassMembers
