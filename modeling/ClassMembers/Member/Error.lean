/-
This file holds what can go wrong with a member of a class, and the wording of
it. A failure says which member was being worked on, and says so once: naming a
member again leaves a failure that names one as it is.
-/

import ClassMembers.Signature.Scanner
import ClassMembers.ClassError
import ClassMembers.Type.Text

namespace ClassMembers

/-- What goes wrong with a member. -/
inductive MemberError where
  /-- The class file is at fault. -/
  | classFile (error : ClassError)
  /-- A descriptor or signature is malformed. -/
  | signature (error : SignatureError)
  /-- A type that is registered as a local class does not erase to a class. -/
  | notALocalClass (type : JavaType)
  /-- The method has no code to analyse. -/
  | noCode (method : String)
  /-- The code of the method was released before. -/
  | codeReleased (method : String)
  /-- The analysis of code gave up. -/
  | analysis (reason : String)
  /-- Something went wrong with the named member. -/
  | inMember (member : String) (source : MemberError)
  deriving DecidableEq

namespace MemberError

/-- Names the member being worked on, unless one is named already. -/
def naming (member : String) : MemberError → MemberError
  | inMember earlier source => inMember earlier source
  | error => inMember member error

/-- The failure without the member it names. -/
def root : MemberError → MemberError
  | inMember _ source => source.root
  | error => error

/-- The wording of a failure. -/
def message : MemberError → String
  | classFile error => error.message
  | signature error => error.message
  | notALocalClass type => "Bad local class type " ++ type.text
  | noCode method => "No code in method " ++ method ++ " to analyse"
  | codeReleased method => "Code of method " ++ method ++ " has already been released"
  | analysis reason => "Code analysis failed: " ++ reason
  | inMember member source => "While processing " ++ member ++ ": " ++ source.message

theorem root_naming (member : String) (error : MemberError) :
    (error.naming member).root = error.root := by
  cases error <;> simp [naming, root]

theorem naming_naming (first second : String) (error : MemberError) :
    (error.naming first).naming second = error.naming first := by
  cases error <;> rfl

end MemberError

end ClassMembers
