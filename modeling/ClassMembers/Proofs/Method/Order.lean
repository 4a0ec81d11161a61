/-
This file proves that methods whose attributes are in another order are alike. The order is
not seen when a method is made, nor by any question that it is asked, except that the types
it mentions are reported in another order: the annotations of its parameters are visited in
the order of the attributes. Whatever is done with two such methods, they stay so.
-/

import ClassMembers.Proofs.Member.Written
import ClassMembers.Proofs.Usage.Coverage

namespace ClassMembers

/-! ### Methods in another order -/

namespace Method

/-- The method with other attributes. -/
def withAttributes (method : Method) (attributes : Attributes) : Method :=
  { method with record := { method.record with attributes } }

/-- Two methods differ in the order of their attributes alone. -/
def Rearranged (first second : Method) : Prop :=
  ∃ attributes, first.attributes.Rearranged attributes ∧ second = first.withAttributes attributes

end Method

/-- The body does not depend on the order of the attributes it is taken from. -/
theorem MethodBody.fst_takeFrom_eq {first second : Attributes}
    (rearranged : first.Rearranged second) : (takeFrom first).1 = (takeFrom second).1 := by
  have others := (rearranged.erase AttributeKind.code.name).answers
  dsimp only [takeFrom]
  rw [rearranged.answers.code?, others.annotationDefault?]
  split
  · rfl
  · split <;> rfl

theorem FlagSet.withAttributes_eq {first second : Attributes} {owner : FlagOwner}
    (answers : first.SameAnswers second) (flags : FlagSet owner) :
    flags.withAttributes first = flags.withAttributes second := by
  simp only [FlagSet.withAttributes, answers.ofKind?]

namespace Method

/-- Of records in another order, methods are made alike. -/
theorem build_agree {record other : Record} (rearranged : record.Rearranged other) (pool : Pool)
    (owner : DeclaringClass) (options : MemberOptions) (name : String) :
    Agree Rearranged (build record pool owner options name)
      (build other pool owner options name) := by
  obtain ⟨attributes, rearranged, rfl⟩ := rearranged
  have left := rearranged.erase AttributeKind.code.name
  have flags : Record.methodFlags { record with attributes } = record.methodFlags :=
    (FlagSet.withAttributes_eq rearranged.answers _).symm
  unfold build
  dsimp only
  rw [flags, ← MethodBody.fst_takeFrom_eq rearranged, MethodBody.snd_takeFrom,
    MethodBody.snd_takeFrom, ← left.answers.signature?]
  refine (Agree.self (record.descriptor pool)).mapError.bind ?_
  rintro descriptor _ rfl
  refine (Agree.self (Prototype.ofSource _)).mapError.bind ?_
  rintro prototype _ rfl
  exact .answer ⟨_, left, rfl⟩

theorem ofRecord_agree {record other : Record} (rearranged : record.Rearranged other) (pool : Pool)
    (owner : DeclaringClass) (options : MemberOptions) :
    Agree Rearranged (ofRecord record pool owner options) (ofRecord other pool owner options) := by
  have name : other.name pool = record.name pool := by
    obtain ⟨attributes, -, rfl⟩ := rearranged
    rfl
  unfold ofRecord
  rw [name]
  refine (Agree.self (record.name pool)).mapError.bind ?_
  rintro name _ rfl
  exact (build_agree rearranged pool owner options name).mapError

/-! ### What is asked of methods in another order -/

section Questions

variable {method : Method} {attributes : Attributes}

theorem thrownTypes_withAttributes (answers : method.attributes.SameAnswers attributes) :
    (method.withAttributes attributes).thrownTypes = method.thrownTypes := by
  have declared : (method.withAttributes attributes).declaredThrows = method.declaredThrows := by
    rw [declaredThrows, declaredThrows, answers.exceptions?]
    rfl
  unfold thrownTypes throwsNow throwsAgree
  rw [declared]
  rfl

theorem renderPreamble_withAttributes (answers : method.attributes.SameAnswers attributes)
    (asInterface : Bool) :
    (method.withAttributes attributes).renderPreamble asInterface =
      method.renderPreamble asInterface := by
  unfold renderPreamble
  rw [answers.annotations]
  rfl

theorem renderParameters_withAttributes (answers : method.attributes.SameAnswers attributes) :
    (method.withAttributes attributes).renderParameters = method.renderParameters := by
  have parameter : (method.withAttributes attributes).renderParameter =
      method.renderParameter := by
    unfold renderParameter
    rw [answers.parameterAnnotations]
    rfl
  exact renderParametersFrom_congr parameter _ _

theorem renderSignature_withAttributes (answers : method.attributes.SameAnswers attributes) :
    (method.withAttributes attributes).renderSignature = method.renderSignature := by
  have declares : (method.withAttributes attributes).declaresExceptions =
      method.declaresExceptions := by
    unfold declaresExceptions
    rw [answers.exceptions?]
    rfl
  unfold renderSignature renderThrows
  rw [renderParameters_withAttributes answers, declares, thrownTypes_withAttributes answers]
  rfl

theorem renderAnalysed_withAttributes (answers : method.attributes.SameAnswers attributes)
    (asInterface : Bool) (analysed : Option StructuredBody) :
    (method.withAttributes attributes).renderAnalysed asInterface analysed =
      method.renderAnalysed asInterface analysed := by
  unfold renderAnalysed
  rw [renderPreamble_withAttributes answers, renderSignature_withAttributes answers]
  rfl

theorem withThrows_withAttributes (answers : method.attributes.SameAnswers attributes) :
    (method.withAttributes attributes).withThrows =
      method.withThrows.withAttributes attributes := by
  unfold withThrows
  rw [thrownTypes_withAttributes answers]
  rfl

theorem afterRendering_withAttributes (answers : method.attributes.SameAnswers attributes)
    (asInterface : Bool) :
    (method.withAttributes attributes).afterRendering asInterface =
      (method.afterRendering asInterface).withAttributes attributes := by
  have declares : (method.withAttributes attributes).declaresExceptions =
      method.declaresExceptions := by
    unfold declaresExceptions
    rw [answers.exceptions?]
    rfl
  have throws := withThrows_withAttributes (show method.withNames.attributes.SameAnswers _ from answers)
  unfold afterRendering
  rw [renderPreamble_withAttributes answers, renderParameters_withAttributes answers, declares]
  show (if method.hasSignature && _ then _ else _) = _
  split
  · split
    · exact throws
    · rfl
  · rfl

/-- Writing does not depend on the order of the attributes, and what is computed on the way
does not either. -/
theorem render_withAttributes (answers : method.attributes.SameAnswers attributes)
    (asInterface : Bool) (analyser : CodeAnalyser) :
    (method.withAttributes attributes).render asInterface analyser =
      ((method.render asInterface analyser).1,
        (method.render asInterface analyser).2.withAttributes attributes) := by
  have analysis : (method.withAttributes attributes).analysis analyser =
      ((method.analysis analyser).1, (method.analysis analyser).2.withAttributes attributes) := rfl
  have same : (method.analysis analyser).2.attributes.SameAnswers attributes := answers
  have needs : (method.withAttributes attributes).needsAnalysis = method.needsAnalysis := rfl
  unfold render
  rw [needs, analysis]
  cases method.needsAnalysis with
  | true =>
    generalize method.analysis analyser = analysed at same
    obtain ⟨answer, later⟩ := analysed
    cases answer with
    | ok body =>
      simp only [renderAnalysed_withAttributes same, afterRendering_withAttributes same]
      rfl
    | error fault => rfl
  | false =>
    simp only [renderAnalysed_withAttributes answers, afterRendering_withAttributes answers]
    rfl

end Questions

section Usages

variable {method : Method} {attributes : Attributes}

theorem usagesBeforeThrows_withAttributes (rearranged : method.attributes.Rearranged attributes) :
    (method.withAttributes attributes).usagesBeforeThrows.result = .ok () ↔
      method.usagesBeforeThrows.result = .ok () := by
  have annotations := rearranged.answers.annotations
  have parameters := rearranged.allParameterAnnotations
  rw [usagesBeforeThrows_succeed_iff, usagesBeforeThrows_succeed_iff]
  refine and_congr (forall_congr' fun mark => ?_) Iff.rfl
  show mark ∈ attributes.annotations ++ attributes.allParameterAnnotations → _ ↔ _
  rw [← annotations, List.mem_append, List.mem_append, parameters.mem_iff]

/-- What is reported is the same, apart from its order. -/
theorem mem_usages_withAttributes (rearranged : method.attributes.Rearranged attributes)
    (done : method.usages.1.result = .ok ()) (type : JavaType) :
    type ∈ (method.withAttributes attributes).usages.1.emitted ↔ type ∈ method.usages.1.emitted := by
  have other : (method.withAttributes attributes).usages.1.result = .ok () := by
    rw [usages_succeed_iff, usagesBeforeThrows_withAttributes rearranged, ← usages_succeed_iff]
    exact done
  have annotations : (method.withAttributes attributes).attributes.annotations =
      method.attributes.annotations := rearranged.answers.annotations.symm
  have parameters : ∀ mark,
      mark ∈ (method.withAttributes attributes).attributes.allParameterAnnotations ↔
        mark ∈ method.attributes.allParameterAnnotations :=
    fun mark => rearranged.allParameterAnnotations.mem_iff.symm
  rw [mem_usages_iff done, mem_usages_iff other, thrownTypes_withAttributes rearranged.answers,
    annotations]
  simp only [parameters]
  exact Iff.rfl

theorem snd_usages_withAttributes (rearranged : method.attributes.Rearranged attributes) :
    (method.withAttributes attributes).usages.2 = method.usages.2.withAttributes attributes := by
  have succeeds : (method.withAttributes attributes).usagesBeforeThrows.succeeds =
      method.usagesBeforeThrows.succeeds := by
    rw [Bool.eq_iff_iff, Emission.succeeds_iff, Emission.succeeds_iff]
    exact usagesBeforeThrows_withAttributes rearranged
  have throws := withThrows_withAttributes rearranged.answers
  unfold usages
  rw [succeeds, throws]
  dsimp only
  split <;> rfl

end Usages

/-! ### Whatever is done with two such methods -/

theorem analyse_withAttributes (method : Method) (attributes : Attributes)
    (analyser : CodeAnalyser) :
    ((method.withAttributes attributes).analyse analyser).2 =
      (method.analyse analyser).2.withAttributes attributes := by
  have analysis : (method.withAttributes attributes).analysis analyser =
      ((method.analysis analyser).1, (method.analysis analyser).2.withAttributes attributes) := rfl
  have code : (method.withAttributes attributes).body.hasCode = method.body.hasCode := rfl
  unfold analyse
  rw [code, analysis]
  split
  · obtain ⟨answer, later⟩ := method.analysis analyser
    cases answer <;> rfl
  · rfl

/-- Short of releasing the code, an operation does not see the order of the attributes. -/
theorem after_withAttributes {method : Method} {attributes : Attributes}
    (rearranged : method.attributes.Rearranged attributes) {operation : Operation}
    (keeps : operation ≠ .releaseCode) :
    (method.withAttributes attributes).after operation =
      (method.after operation).withAttributes attributes := by
  cases operation with
  | analysis analyser => rfl
  | analyse analyser => exact analyse_withAttributes method attributes analyser
  | render asInterface analyser =>
    exact congrArg Prod.snd (render_withAttributes rearranged.answers asInterface analyser)
  | releaseCode => exact absurd rfl keeps
  | parameterNames => rfl
  | thrownTypes => exact withThrows_withAttributes rearranged.answers
  | usages => exact snd_usages_withAttributes rearranged
  | markLocalClass type suggestion =>
    have classes : (method.withAttributes attributes).localClasses = method.localClasses := rfl
    rw [after_markLocalClass, after_markLocalClass, classes]
    cases method.localClasses.register type suggestion <;> rfl
  | copyLocalClasses other => rfl
  | hideSynthetic => rfl
  | markOverride => rfl
  | setComments comments => rfl

/-- An operation keeps two methods alike. -/
theorem Rearranged.after {first second : Method} (rearranged : first.Rearranged second)
    (operation : Operation) : (first.after operation).Rearranged (second.after operation) := by
  obtain ⟨attributes, rearranged, rfl⟩ := rearranged
  by_cases drops : operation = .releaseCode
  · rw [drops]
    exact ⟨.empty, ⟨.nil, .nil⟩, rfl⟩
  · refine ⟨attributes, ?_, after_withAttributes rearranged drops⟩
    rwa [attributes_after first drops]

theorem Rearranged.afterAll {first second : Method} (rearranged : first.Rearranged second)
    (history : List Operation) :
    (first.afterAll history).Rearranged (second.afterAll history) := by
  induction history generalizing first second with
  | nil => exact rearranged
  | cons operation rest hypothesis => exact hypothesis (rearranged.after operation)

end Method

end ClassMembers
