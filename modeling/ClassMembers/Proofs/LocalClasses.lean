/-
This file proves that registering the same local classes again changes nothing. Two offers of
names to one class are one offer, and offers to different classes can be exchanged once the
classes are known. So where every class is known already, a registration that is made again
later might as well not have been made before.
-/

import ClassMembers.LocalClasses
import Mathlib.Data.List.Induction

namespace ClassMembers.LocalClasses

/-! ### One class -/

variable {registry : LocalClasses}

theorem mem_classes_insert {name : ClassName} {suggestion : Option String} {other : ClassName} :
    other ∈ (registry.insert name suggestion).classes ↔ other ∈ registry.classes ∨ other = name := by
  rw [classes_insert]
  split
  · constructor
    · exact .inl
    · rintro (known | rfl)
      · exact known
      · assumption
  · rw [List.mem_append, List.mem_singleton]

/-- Two names for one class are the later one, if it is a name. -/
theorem insert_insert (registry : LocalClasses) (name : ClassName) (first second : Option String) :
    (registry.insert name first).insert name second = registry.insert name (second.or first) := by
  obtain ⟨entries⟩ := registry
  refine congrArg LocalClasses.mk ?_
  show offer name second (offer name first entries) = offer name (second.or first) entries
  induction entries with
  | nil => simp [offer]
  | cons entry rest hypothesis =>
    by_cases met : entry.1 = name
    · simp [offer, met, Option.or_assoc]
    · simp [offer, met, hypothesis]

/-- The lack of a name is nothing new about a class that is known. -/
theorem insert_none {name : ClassName} (known : name ∈ registry.classes) :
    registry.insert name none = registry := by
  obtain ⟨entries⟩ := registry
  refine congrArg LocalClasses.mk ?_
  change name ∈ entries.map Prod.fst at known
  induction entries with
  | nil => cases known
  | cons entry rest hypothesis =>
    by_cases met : entry.1 = name
    · subst met
      simp [offer]
    · have behind : name ∈ rest.map Prod.fst := by
        rcases List.mem_cons.mp known with same | behind
        · exact absurd same.symm met
        · exact behind
      simp [offer, met, hypothesis behind]

/-- Names for different classes can be exchanged if one of the classes is known. -/
theorem insert_comm {first second : ClassName} (other : first ≠ second)
    (known : first ∈ registry.classes) (one two : Option String) :
    (registry.insert second two).insert first one =
      (registry.insert first one).insert second two := by
  obtain ⟨entries⟩ := registry
  refine congrArg LocalClasses.mk ?_
  show offer first one (offer second two entries) = offer second two (offer first one entries)
  change first ∈ entries.map Prod.fst at known
  induction entries with
  | nil => cases known
  | cons entry rest hypothesis =>
    by_cases met : entry.1 = first
    · subst met
      simp [offer, other]
    · have behind : first ∈ rest.map Prod.fst := by
        rcases List.mem_cons.mp known with same | behind
        · exact absurd same.symm met
        · exact behind
      by_cases hit : entry.1 = second
      · subst hit
        simp [offer, met]
      · simp [offer, met, hit, hypothesis behind]

/-! ### Classes one behind the other -/

theorem merge_cons (registry : LocalClasses) (entry : ClassName × Option String)
    (rest : List (ClassName × Option String)) :
    registry.merge ⟨entry :: rest⟩ = (registry.insert entry.1 entry.2).merge ⟨rest⟩ := rfl

theorem merge_concat (registry : LocalClasses) (entries : List (ClassName × Option String))
    (entry : ClassName × Option String) :
    registry.merge ⟨entries ++ [entry]⟩ = (registry.merge ⟨entries⟩).insert entry.1 entry.2 :=
  List.foldl_append

theorem mem_classes_merge {entries : List (ClassName × Option String)} {name : ClassName} :
    name ∈ (registry.merge ⟨entries⟩).classes ↔
      name ∈ registry.classes ∨ ∃ entry ∈ entries, entry.1 = name := by
  induction entries generalizing registry with
  | nil => simp [merge]
  | cons entry rest hypothesis =>
    rw [merge_cons, hypothesis, mem_classes_insert, or_assoc]
    simp [eq_comm]

/-- Where all classes are known, one that is registered again behind them might as well not
have been registered before them. -/
theorem insert_merge_insert {entries : List (ClassName × Option String)}
    (known : ∀ entry ∈ entries, entry.1 ∈ registry.classes) (name : ClassName)
    (suggestion : Option String) :
    ((registry.insert name suggestion).merge ⟨entries⟩).insert name suggestion =
      (registry.merge ⟨entries⟩).insert name suggestion := by
  induction entries generalizing registry with
  | nil =>
    show (registry.insert name suggestion).insert name suggestion = _
    rw [insert_insert, Option.or_self]
    rfl
  | cons entry rest hypothesis =>
    obtain ⟨here, behind⟩ := List.forall_mem_cons.mp known
    rw [merge_cons, merge_cons]
    by_cases same : entry.1 = name
    · subst same
      rw [insert_insert]
      -- A name that the list suggests hides the one before; otherwise nothing is new here.
      cases given : entry.2 with
      | some text => rfl
      | none => rw [Option.none_or, insert_none here, hypothesis behind]
    · rw [insert_comm same here]
      exact hypothesis fun other inside => mem_classes_insert.mpr (.inl (behind other inside))

theorem merge_merge (registry : LocalClasses) (entries : List (ClassName × Option String)) :
    (registry.merge ⟨entries⟩).merge ⟨entries⟩ = registry.merge ⟨entries⟩ := by
  induction entries using List.reverseRecOn with
  | nil => rfl
  | append_singleton entries entry hypothesis =>
    have known : ∀ other ∈ entries, other.1 ∈ (registry.merge ⟨entries⟩).classes :=
      fun other inside => mem_classes_merge.mpr (.inr ⟨other, inside, rfl⟩)
    rw [merge_concat, merge_concat, insert_merge_insert known, hypothesis]

/-- Registers types one behind the other. A type that is not a class is passed over. -/
def registerAll (registry : LocalClasses) (found : List (JavaType × Option String)) :
    LocalClasses :=
  found.foldl
    (fun registry entry => (registry.register entry.1 entry.2).toOption.getD registry) registry

/-- The classes among types, with the names that are suggested for them. -/
def classesAmong (found : List (JavaType × Option String)) : List (ClassName × Option String) :=
  found.filterMap fun entry =>
    match entry.1.withoutGenerics with
    | .ofClass name => some (name, entry.2)
    | _ => none

theorem registerAll_eq (registry : LocalClasses) (found : List (JavaType × Option String)) :
    registry.registerAll found = registry.merge ⟨classesAmong found⟩ := by
  induction found generalizing registry with
  | nil => rfl
  | cons entry rest hypothesis =>
    show ((registry.register entry.1 entry.2).toOption.getD registry).registerAll rest = _
    rw [hypothesis, register]
    unfold classesAmong
    rw [List.filterMap_cons]
    cases entry.1.withoutGenerics <;> rfl

/-- What is registered again is registered already. -/
theorem registerAll_registerAll (registry : LocalClasses)
    (found : List (JavaType × Option String)) :
    (registry.registerAll found).registerAll found = registry.registerAll found := by
  rw [registerAll_eq, registerAll_eq, merge_merge]

end ClassMembers.LocalClasses
