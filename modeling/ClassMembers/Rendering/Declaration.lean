/-
This file holds what the declarations of fields and of methods begin with: the
annotations, each on a line of its own, and the keywords.
-/

import ClassMembers.Annotations.Rendering

namespace ClassMembers.Rendering

/-- Writes each annotation on a line of its own. -/
def renderAnnotations (annotations : List AnnotationUse) : Rendering Unit :=
  .forEach annotations fun shown => do
    shown.render
    newline

/-- Writes keywords followed by a space, if there are any. -/
def renderKeywords (keywords : List String) : Rendering Unit :=
  if keywords.isEmpty then pure ()
  else do
    keyword (String.intercalate " " keywords)
    print " "

end ClassMembers.Rendering
