/-
This file holds the registry of the local and anonymous classes that the body of
a method refers to, in the order in which they were found, each with the name
that suggests itself for it. Classes are never removed. A later name replaces an
earlier one, but the absence of a name replaces nothing.
-/

import ClassMembers.Member.Error
import ClassMembers.Type.Erasure

namespace ClassMembers

/-- A registry: the classes with their suggested names, in order of discovery. -/
structure LocalClasses where
  entries : List (ClassName × Option String)
  deriving DecidableEq

namespace LocalClasses

/-- A registry without classes. -/
def empty : LocalClasses := ⟨[]⟩

/-- Offers a name for a class in a list, which is appended if it is new. -/
def offer (name : ClassName) (suggestion : Option String) :
    List (ClassName × Option String) → List (ClassName × Option String)
  | [] => [(name, suggestion)]
  | first :: rest =>
    if first.1 = name then (first.1, suggestion.or first.2) :: rest
    else first :: offer name suggestion rest

/-- Adds a class with the name suggested for it, if any. -/
def insert (registry : LocalClasses) (name : ClassName) (suggestion : Option String) :
    LocalClasses :=
  ⟨offer name suggestion registry.entries⟩

/-- Adds the class that a type erases to. -/
def register (registry : LocalClasses) (type : JavaType) (suggestion : Option String) :
    Except MemberError LocalClasses :=
  match type.withoutGenerics with
  | .ofClass name => .ok (registry.insert name suggestion)
  | _ => .error (.notALocalClass type)

/-- Adds everything that another registry holds. -/
def merge (registry other : LocalClasses) : LocalClasses :=
  other.entries.foldl (fun merged entry => merged.insert entry.1 entry.2) registry

/-- Adds everything that another registry holds, and tells whether it holds anything. -/
def mergeFrom (registry other : LocalClasses) : Bool × LocalClasses :=
  (!other.entries.isEmpty, registry.merge other)

/-- The name suggested for a class. -/
def suggestedName? (registry : LocalClasses) (name : ClassName) : Option String :=
  (registry.entries.find? fun entry => entry.1 = name).bind Prod.snd

/-- Whether a class is registered. -/
def contains (registry : LocalClasses) (name : ClassName) : Bool :=
  registry.entries.any fun entry => entry.1 = name

/-- The classes, in order of discovery. -/
def classes (registry : LocalClasses) : List ClassName :=
  registry.entries.map Prod.fst

/-- The number of classes. -/
def size (registry : LocalClasses) : Nat := registry.entries.length

/-- Whether there are no classes. -/
def isEmpty (registry : LocalClasses) : Bool := registry.entries.isEmpty

/-- Whether two registries hold the same classes with the same names, in
whatever order. -/
def sameAs (first second : LocalClasses) : Bool :=
  first.size = second.size && first.entries.all fun entry => second.entries.contains entry

/-! ### The registry after a change -/

/-- A new class comes last; a class that is there keeps its place. -/
theorem classes_insert (registry : LocalClasses) (name : ClassName) (suggestion : Option String) :
    (registry.insert name suggestion).classes =
      if name ∈ registry.classes then registry.classes else registry.classes ++ [name] := by
  obtain ⟨entries⟩ := registry
  show (offer name suggestion entries).map _ =
    if _ ∈ entries.map _ then entries.map _ else entries.map _ ++ _
  induction entries with
  | nil => simp [offer]
  | cons first rest hypothesis =>
    by_cases met : first.1 = name
    · simp [offer, met]
    · have other : name ≠ first.1 := Ne.symm met
      by_cases known : name ∈ rest.map Prod.fst <;> simp_all [offer]

/-- A suggestion replaces an earlier one, and the lack of one replaces nothing. -/
theorem suggestedName?_insert (registry : LocalClasses) (name other : ClassName)
    (suggestion : Option String) :
    (registry.insert name suggestion).suggestedName? other =
      if name = other then suggestion.or (registry.suggestedName? other)
      else registry.suggestedName? other := by
  obtain ⟨entries⟩ := registry
  show ((offer name suggestion entries).find? _).bind _ =
    if _ then suggestion.or ((entries.find? _).bind _) else (entries.find? _).bind _
  induction entries with
  | nil => by_cases same : name = other <;> simp [offer, same]
  | cons first rest hypothesis =>
    by_cases met : first.1 = name
    · by_cases same : name = other <;> simp [offer, met, same]
    · by_cases hit : first.1 = other
      · have different : name ≠ other := fun same => met (hit.trans same.symm)
        simp [offer, hit, different, Ne.symm different]
      · simp [offer, met, hit, hypothesis]

/-- The classes in the registry are those it lists. -/
theorem contains_iff (registry : LocalClasses) (name : ClassName) :
    registry.contains name = true ↔ name ∈ registry.classes := by
  simp [contains, classes]

end LocalClasses

end ClassMembers
