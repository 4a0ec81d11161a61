/-
This file proves what is collected as the usages of a method. The types are reported part by
part, and a part that cannot be read ends the collection; only annotations and a default
value can be such parts. If all can be read, the types are those of all parts together.
-/

import ClassMembers.Proofs.Method.LifeCycle
import ClassMembers.Proofs.Sequencing
import ClassMembers.Proofs.Usage.FirstSeen

namespace ClassMembers

/-! ### Usages of a method -/

namespace Method

/-- What the default value mentions, if there is one. -/
def defaultUsages (method : Method) : Usages Unit :=
  match method.body.defaultValue? with
  | some value => value.usages
  | none => pure ()

/-- The types that the body uses, if it was analysed. -/
def bodyUses (method : Method) : List JavaType :=
  match method.body.analysed? with
  | some body => body.uses
  | none => []

/-- The usages of a method, part by part. -/
theorem usagesBeforeThrows_eq (method : Method) :
    method.usagesBeforeThrows = (do
      Usages.reportAll method.prototype.mentionedTypes
      .forEach (method.attributes.annotations ++ method.attributes.allParameterAnnotations)
        AnnotationUse.usages
      method.defaultUsages
      Usages.reportAll method.bodyUses
      Usages.reportAll (method.localClasses.classes.map .ofClass)) := by
  unfold usagesBeforeThrows defaultUsages bodyUses
  cases method.body.defaultValue? <;> cases method.body.analysed? <;> rfl

/-- The thrown types are reported in any case. -/
theorem usages_succeed_iff (method : Method) :
    method.usages.1.result = .ok () ↔ method.usagesBeforeThrows.result = .ok () := by
  rw [usages, Emission.result_mapError, Sequencing.mapError_eq_ok, Emission.result_bind_eq_ok]
  constructor
  · rintro ⟨_, before, -⟩
    exact before
  · exact fun before => ⟨(), before, rfl⟩

/-- Usages are collected if and only if the annotations and the default value can be read. -/
theorem usagesBeforeThrows_succeed_iff (method : Method) :
    method.usagesBeforeThrows.result = .ok () ↔
      (∀ mark ∈ method.attributes.annotations ++ method.attributes.allParameterAnnotations,
        mark.usages.result = .ok ()) ∧ method.defaultUsages.result = .ok () := by
  rw [usagesBeforeThrows_eq, ← Emission.forEach_succeed_iff]
  simp only [Emission.result_bind_eq_ok]
  constructor
  · rintro ⟨_, ⟨⟩, _, annotated, _, valued, -⟩
    exact ⟨annotated, valued⟩
  · rintro ⟨annotated, valued⟩
    exact ⟨(), rfl, (), annotated, (), valued, (), rfl, rfl⟩

/-- What is then reported of a method. -/
theorem mem_usages_iff {method : Method} (done : method.usages.1.result = .ok ())
    (type : JavaType) :
    type ∈ method.usages.1.emitted ↔
      type ∈ method.prototype.mentionedTypes ∨
      (∃ mark ∈ method.attributes.annotations, type ∈ mark.usages.emitted) ∨
      (∃ mark ∈ method.attributes.allParameterAnnotations,
        type ∈ mark.usages.emitted) ∨
      type ∈ method.defaultUsages.emitted ∨ type ∈ method.bodyUses ∨
      type ∈ method.localClasses.classes.map JavaType.ofClass ∨ type ∈ method.thrownTypes := by
  have before := method.usages_succeed_iff.mp done
  obtain ⟨each, valued⟩ := method.usagesBeforeThrows_succeed_iff.mp before
  have annotated := Emission.forEach_succeed_iff.mpr each
  have prototype : (Usages.reportAll method.prototype.mentionedTypes).result = .ok () := rfl
  have body : (Usages.reportAll method.bodyUses).result = .ok () := rfl
  rw [usages, Emission.emitted_mapError, Emission.bind_of_ok before, usagesBeforeThrows_eq,
    Emission.bind_of_ok prototype, Emission.bind_of_ok annotated, Emission.bind_of_ok valued,
    Emission.bind_of_ok body, Emission.emitted_forEach_of_ok annotated, List.flatMap_append]
  simp only [List.mem_append, List.mem_flatMap, or_assoc]
  rfl

theorem unmoved_usages : Unmoved fun method => method.usages.1 := ⟨fun _ => rfl, fun _ => rfl⟩

end Method

end ClassMembers
