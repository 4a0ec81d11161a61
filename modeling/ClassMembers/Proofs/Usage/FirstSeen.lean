/-
This file proves which classes a set of usages holds, and in which order. A class type
mentions its own class, then the classes in the arguments of the classes around it, those of
the outermost one first, and then those in its own arguments; an array mentions what its
component does. The classes of a set are those that the types mention one behind the other,
without what occurs again. So the order in which types are collected decides the order of the
classes but not which classes there are, and a type that was collected already adds nothing.
-/

import ClassMembers.Proofs.FirstOccurrences
import ClassMembers.Usage

namespace ClassMembers

/-! ### The classes of a type -/

mutual

/-- The classes of a type, in the order in which they are mentioned. -/
def JavaType.classList : JavaType → List ClassName
  | .primitive _ => []
  | .ofClass name => [name]
  | .parameterized type => type.base :: type.argumentClasses
  | .typeVariable _ => []
  | .array component => component.classList

/-- The classes in the arguments of a class and of those around it, the outermost first. -/
def GenericType.argumentClasses : GenericType → List ClassName
  | .outermost _ arguments => TypeArgument.classList arguments
  | .inside outer _ arguments => outer.argumentClasses ++ TypeArgument.classList arguments

/-- The classes of an argument, which are those of its bound if it is a bounded wildcard. -/
def TypeArgument.classes : TypeArgument → List ClassName
  | .wildcard => []
  | .atMost bound => bound.classList
  | .atLeast bound => bound.classList
  | .exactly type => type.classList

/-- The classes of arguments. -/
def TypeArgument.classList : List TypeArgument → List ClassName
  | [] => []
  | first :: rest => first.classes ++ TypeArgument.classList rest

end

mutual

/-- The mentions of a type that are classes are the classes of the type. -/
theorem JavaType.mentionedClasses_eq : (type : JavaType) →
    type.mentionedClasses = type.classList
  | .primitive _ => rfl
  | .ofClass _ => rfl
  | .parameterized type => by
    rw [JavaType.classList, ← type.filterMap_mentions]
    rfl
  | .typeVariable _ => rfl
  | .array component => by
    rw [JavaType.classList, ← component.mentionedClasses_eq]
    rfl

theorem GenericType.filterMap_mentions : (type : GenericType) →
    type.mentions.filterMap JavaType.className? = type.argumentClasses
  | .outermost _ arguments => TypeArgument.filterMap_mentions arguments
  | .inside outer _ arguments => by
    rw [GenericType.mentions, List.filterMap_append, outer.filterMap_mentions,
      TypeArgument.filterMap_mentions arguments, GenericType.argumentClasses]

theorem TypeArgument.filterMap_mentionsOne : (argument : TypeArgument) →
    argument.mentionsOne.filterMap JavaType.className? = argument.classes
  | .wildcard => rfl
  | .atMost bound => bound.mentionedClasses_eq
  | .atLeast bound => bound.mentionedClasses_eq
  | .exactly type => type.mentionedClasses_eq

theorem TypeArgument.filterMap_mentions : (arguments : List TypeArgument) →
    (TypeArgument.mentions arguments).filterMap JavaType.className? =
      TypeArgument.classList arguments
  | [] => rfl
  | first :: rest => by
    rw [TypeArgument.mentions, List.filterMap_append, first.filterMap_mentionsOne,
      TypeArgument.filterMap_mentions rest, TypeArgument.classList]

end

/-! ### Sets of usages -/

namespace UsageSet

theorem classes_foldl_insert (names : List ClassName) :
    (names.foldl insert empty).classes = names.eraseDups := by
  have grown : (names.foldl insert empty).classes = (names.map id).eraseDups :=
    view_foldl_of_nil classes_insert rfl names
  rwa [List.map_id] at grown

/-- The classes of a set are those of its types one behind the other, each at its first
place. -/
theorem classes_ofTypes (types : List JavaType) :
    (ofTypes types).classes = (types.flatMap JavaType.classList).eraseDups := by
  have one : ofTypes types = (types.flatMap JavaType.mentionedClasses).foldl insert empty :=
    List.foldl_flatMap.symm
  rw [one, classes_foldl_insert, funext JavaType.mentionedClasses_eq]

/-- The classes of a set of usages are those that one of the types mentions. -/
theorem contains_ofTypes (types : List JavaType) (name : ClassName) :
    (ofTypes types).contains name = true ↔ ∃ type ∈ types, name ∈ type.mentionedClasses := by
  rw [contains_iff, classes_ofTypes, List.mem_eraseDups, List.mem_flatMap]
  simp only [JavaType.mentionedClasses_eq]

/-- Types that are among those collected add nothing. -/
theorem ofTypes_append_of_subset {types again : List JavaType}
    (known : ∀ type ∈ again, type ∈ types) : ofTypes (types ++ again) = ofTypes types := by
  have classes : (ofTypes (types ++ again)).classes = (ofTypes types).classes := by
    rw [classes_ofTypes, classes_ofTypes, List.flatMap_append]
    refine eraseDups_append_of_subset fun name mentioned => ?_
    obtain ⟨type, among, inside⟩ := List.mem_flatMap.mp mentioned
    exact List.mem_flatMap_of_mem (known type among) inside
  exact congrArg UsageSet.mk classes

/-- The classes of a set of usages are those that the types mention, in the order in which
they are first seen. Which classes these are does not depend on the order of the types, and
to collect any of the types again, in whatever order and how often, changes nothing. -/
theorem classes_are_first_seen :
    (∀ types, (ofTypes types).classes = (types.flatMap JavaType.classList).eraseDups) ∧
    (∀ types reordered : List JavaType, types.Perm reordered →
      ∀ name, (ofTypes types).contains name = (ofTypes reordered).contains name) ∧
    (∀ types again : List JavaType, (∀ type ∈ again, type ∈ types) →
      again.foldl collect (ofTypes types) = ofTypes types) := by
  refine ⟨classes_ofTypes, fun types reordered permutes name => ?_, fun types again known => ?_⟩
  · rw [Bool.eq_iff_iff, contains_ofTypes, contains_ofTypes]
    simp only [permutes.mem_iff]
  · have more : again.foldl collect (ofTypes types) = ofTypes (types ++ again) :=
      List.foldl_append.symm
    rw [more, ofTypes_append_of_subset known]

/-- An array of a class inside another one, both of which have arguments. -/
def nestedUse : JavaType :=
  .array (.parameterized (.inside (.outermost ⟨"p/O"⟩ [.atMost (.named "p/A")]) ⟨"p/O$I"⟩
    [.exactly (.named "p/B"), .wildcard]))

theorem classes_are_first_seen_nested :
    (ofTypes [nestedUse, .named "p/A"]).classes = [⟨"p/O$I"⟩, ⟨"p/A"⟩, ⟨"p/B"⟩] ∧
    (ofTypes [.named "p/A", nestedUse]).classes = [⟨"p/A"⟩, ⟨"p/O$I"⟩, ⟨"p/B"⟩] ∧
    [nestedUse, .named "p/A"].Perm [.named "p/A", nestedUse] ∧
    (ofTypes [nestedUse, .named "p/A"]).contains ⟨"p/B"⟩ =
      (ofTypes [.named "p/A", nestedUse]).contains ⟨"p/B"⟩ ∧
    [nestedUse, nestedUse].foldl collect (ofTypes [nestedUse, .named "p/A"]) =
      ofTypes [nestedUse, .named "p/A"] := by
  obtain ⟨listed, reordered, repeated⟩ := classes_are_first_seen
  have swapped : [nestedUse, .named "p/A"].Perm [.named "p/A", nestedUse] := .swap ..
  refine ⟨(listed _).trans (by cbv), (listed _).trans (by cbv), swapped,
    reordered _ _ swapped _, repeated _ _ ?_⟩
  simp

end UsageSet

end ClassMembers
