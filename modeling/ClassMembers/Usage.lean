/-
This file holds the usages of a member: the types it mentions, and the set of
the classes among them in the order in which they are first seen.
-/

import ClassMembers.Emission
import ClassMembers.Member.Error
import ClassMembers.Type.Mentions

namespace ClassMembers

/-- A computation that reports the types it comes upon. -/
abbrev Usages := Emission JavaType MemberError

namespace Usages

/-- Reports a type. -/
def report (type : JavaType) : Usages Unit := .emit type

/-- Reports types in order. -/
def reportAll (types : List JavaType) : Usages Unit := .emitAll types

/-- The type that a descriptor or signature spells. -/
def typeOf (answer : Except SignatureError JavaType) : Usages JavaType :=
  .ofExcept (answer.mapError .signature)

end Usages

/-- The classes used, each once, in the order in which they were first seen. -/
structure UsageSet where
  classes : List ClassName
  deriving DecidableEq

namespace UsageSet

/-- No classes. -/
def empty : UsageSet := ⟨[]⟩

/-- Whether a class is used. -/
def contains (set : UsageSet) (name : ClassName) : Bool := set.classes.contains name

/-- Adds a class unless it is there. -/
def insert (set : UsageSet) (name : ClassName) : UsageSet :=
  if set.contains name then set else ⟨set.classes ++ [name]⟩

/-- Adds every class that a type mentions. -/
def collect (set : UsageSet) (type : JavaType) : UsageSet :=
  type.mentionedClasses.foldl insert set

/-- The classes that types mention. -/
def ofTypes (types : List JavaType) : UsageSet := types.foldl collect empty

/-- The number of classes. -/
def size (set : UsageSet) : Nat := set.classes.length

/-- Whether there are no classes. -/
def isEmpty (set : UsageSet) : Bool := set.classes.isEmpty

/-! ### The set after a change -/

theorem contains_iff (set : UsageSet) (name : ClassName) :
    set.contains name = true ↔ name ∈ set.classes := by
  simp [contains]

/-- A new class comes last; a class that is there stays where it is. -/
theorem classes_insert (set : UsageSet) (name : ClassName) :
    (set.insert name).classes =
      if name ∈ set.classes then set.classes else set.classes ++ [name] := by
  by_cases known : name ∈ set.classes <;> simp [insert, contains, known]

/-- No class is listed twice. -/
theorem nodup_classes_insert {set : UsageSet} (distinct : set.classes.Nodup) (name : ClassName) :
    (set.insert name).classes.Nodup := by
  rw [classes_insert]
  by_cases known : name ∈ set.classes
  · rwa [if_pos known]
  · rw [if_neg known, List.nodup_append]
    exact ⟨distinct, by simp, by grind⟩

end UsageSet

end ClassMembers
