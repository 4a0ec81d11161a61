/-
This file holds the comments that stand above a member. A comment that is there
already is not added again.
-/

import ClassMembers.Rendering.Call

namespace ClassMembers

/-- Comments, in the order in which they were added. -/
structure Comments where
  texts : List String
  deriving DecidableEq

namespace Comments

/-- No comments. -/
def empty : Comments := ⟨[]⟩

/-- Adds a comment unless it is there. -/
def add (comments : Comments) (text : String) : Comments :=
  if comments.texts.contains text then comments else ⟨comments.texts ++ [text]⟩

/-- The comments that texts make, each once. -/
def ofList (texts : List String) : Comments := texts.foldl add empty

/-- Whether there are no comments. -/
def isEmpty (comments : Comments) : Bool := comments.texts.isEmpty

/-- A new comment comes last; a comment that is there stays where it is. -/
theorem texts_add (comments : Comments) (text : String) :
    (comments.add text).texts =
      if text ∈ comments.texts then comments.texts else comments.texts ++ [text] := by
  by_cases known : text ∈ comments.texts <;> simp [add, known]

/-- Writes each comment on a line of its own. -/
def render (comments : Comments) : Rendering Unit :=
  .forEach comments.texts Rendering.comment

end Comments

end ClassMembers
