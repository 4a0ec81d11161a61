/-
This file proves under which name arrays are written where local classes are known. A type
that is a local class with a suggested name is written by that name, and every other type as
it is written anyway. What counts is the type as a whole: that of which an array is made is
not looked at, however deep the array. So an array is written as its component followed by
brackets exactly if the component is written as it is written anyway.
-/

import ClassMembers.Rendering.Call
import Mathlib

namespace ClassMembers

/-! ### Arrays of arrays -/

/-- Arrays of a type, of a number of dimensions. -/
def JavaType.arrays (type : JavaType) : Nat → JavaType
  | 0 => type
  | depth + 1 => .array (type.arrays depth)

/-- As many brackets as an array has dimensions. -/
def brackets : Nat → String
  | 0 => ""
  | depth + 1 => brackets depth ++ "[]"

theorem JavaType.text_arrays (type : JavaType) (depth : Nat) :
    (type.arrays depth).text = type.text ++ brackets depth := by
  induction depth with
  | zero => exact String.append_empty.symm
  | succ depth hypothesis =>
    rw [arrays, JavaType.text, hypothesis, brackets, String.append_assoc]

/-! ### Types where local classes are known -/

namespace LocalClasses

/-- The name under which a type is written in place of its own, if any. -/
def nameFor? (registry : LocalClasses) (type : JavaType) : Option String :=
  type.className?.bind registry.suggestedName?

/-- What is written of a type where local classes are known. -/
def written (registry : LocalClasses) (type : JavaType) : String :=
  renderedText [(Call.type type).withLocalNames registry]

theorem written_eq (registry : LocalClasses) (type : JavaType) :
    registry.written type = (registry.nameFor? type).getD type.text := by
  unfold written nameFor? Call.withLocalNames
  cases named : type.className?.bind registry.suggestedName? <;>
    simp [named, renderedText, Call.text, String.join]

/-- No name is suggested for an array. -/
theorem written_array (registry : LocalClasses) (component : JavaType) :
    registry.written (.array component) = component.text ++ "[]" := by
  rw [written_eq]
  rfl

/-- An array of any depth is written by the own name of its innermost type. That is what is
written of this type followed by the brackets exactly if no other name is suggested for it. -/
theorem written_arrays_iff (registry : LocalClasses) (type : JavaType) (depth : Nat) :
    registry.written (type.arrays (depth + 1)) = type.text ++ brackets (depth + 1) ∧
    (registry.written (type.arrays (depth + 1)) = registry.written type ++ brackets (depth + 1) ↔
      ∀ name, registry.nameFor? type = some name → name = type.text) := by
  have own : registry.written (type.arrays (depth + 1)) = type.text ++ brackets (depth + 1) := by
    rw [JavaType.arrays, written_array, JavaType.text_arrays, brackets, String.append_assoc]
  refine ⟨own, ?_⟩
  rw [own, written_eq, String.append_left_inj]
  cases registry.nameFor? type with
  | none => simp
  | some name => simp [eq_comm]

/-- A registry with one class, which a name was suggested for. -/
def oneNamed : LocalClasses := empty.insert ⟨"p/A$1Local"⟩ (some "Local")

/-- The class is written by its suggested name, and an array of it is not. -/
theorem written_array_named_ne :
    empty.register (.named "p/A$1Local") (some "Local") = .ok oneNamed ∧
    oneNamed.written (.named "p/A$1Local") = "Local" ∧
    oneNamed.written (.array (.named "p/A$1Local")) = "p.A.1Local[]" ∧
    oneNamed.written (.array (.named "p/A$1Local")) ≠
      oneNamed.written (.named "p/A$1Local") ++ "[]" := by
  have plain : oneNamed.written (.named "p/A$1Local") = "Local" := by cbv
  have array : oneNamed.written (.array (.named "p/A$1Local")) = "p.A.1Local[]" := by cbv
  refine ⟨by cbv, plain, array, ?_⟩
  rw [plain, array]
  decide

end LocalClasses

end ClassMembers
