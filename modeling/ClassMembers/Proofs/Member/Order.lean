/-
This file proves that the order in which the attributes of a member are written does not
matter. Two records that differ in it, whatever bytes follow them, make members both or
neither. The fields agree in everything that they are asked; so do the methods, whatever is
done with the two of them first, apart from the order in which they report the types they
mention.
-/

import ClassMembers.Field
import ClassMembers.Proofs.Method.Order

namespace ClassMembers

/-! ### Members that are alike -/

/-- Usages are collected of both or of neither, and they are the same classes. -/
def Usages.Alike (first second : Usages Unit) : Prop :=
  (first.result = .ok () ↔ second.result = .ok ()) ∧
    (first.result = .ok () → ∀ name, (UsageSet.ofTypes first.emitted).contains name =
      (UsageSet.ofTypes second.emitted).contains name)

/-- Two methods answer every question alike, apart from the order of their usages. -/
structure Method.Alike (first second : Method) : Prop where
  rawLength : first.record.rawLength = second.record.rawLength
  flags : first.flags = second.flags
  hidden : first.hidden = second.hidden
  kind : first.kind = second.kind
  prototype : first.prototype = second.prototype
  parameterNames : first.parameterNames = second.parameterNames
  thrownTypes : first.thrownTypes = second.thrownTypes
  render : ∀ asInterface analyser,
    (first.render asInterface analyser).1 = (second.render asInterface analyser).1
  usages : first.usages.1.Alike second.usages.1

/-- Two fields answer every question alike. -/
structure Field.Alike (first second : Field) : Prop where
  rawLength : first.record.rawLength = second.record.rawLength
  flags : first.flags = second.flags
  type : first.type = second.type
  constant : first.constant = second.constant
  render : ∀ asInterface, first.render asInterface = second.render asInterface
  usages : first.usages = second.usages

theorem Method.Rearranged.alike {first second : Method} (rearranged : first.Rearranged second) :
    first.Alike second := by
  obtain ⟨attributes, rearranged, rfl⟩ := rearranged
  have answers := rearranged.answers
  refine ⟨rfl, rfl, rfl, rfl, rfl, rfl, (thrownTypes_withAttributes answers).symm, ?_, ?_, ?_⟩
  · intro asInterface analyser
    rw [render_withAttributes answers]
  · rw [usages_succeed_iff, usages_succeed_iff, usagesBeforeThrows_withAttributes rearranged]
  · intro done name
    rw [Bool.eq_iff_iff, UsageSet.contains_ofTypes, UsageSet.contains_ofTypes]
    simp only [mem_usages_withAttributes rearranged done]

/-! ### Fields -/

namespace Field

/-- The field with other attributes. -/
def withAttributes (field : Field) (attributes : Attributes) : Field :=
  { field with record := { field.record with attributes } }

/-- Two fields differ in the order of their attributes alone. -/
def Rearranged (first second : Field) : Prop :=
  ∃ attributes, first.attributes.Rearranged attributes ∧ second = first.withAttributes attributes

section Questions

variable {record : Record} {field : Field} {attributes : Attributes}

theorem fieldType_withAttributes (answers : record.attributes.SameAnswers attributes)
    (descriptor : String) :
    Record.fieldType { record with attributes } descriptor = record.fieldType descriptor := by
  unfold Record.fieldType
  rw [answers.signature?]

theorem fieldConstant_withAttributes (answers : record.attributes.SameAnswers attributes)
    (pool : Pool) (descriptor : String) :
    Record.fieldConstant { record with attributes } pool descriptor =
      record.fieldConstant pool descriptor := by
  unfold Record.fieldConstant
  rw [fieldType_withAttributes answers, answers.constantValueIndex?]

theorem type_withAttributes (answers : field.attributes.SameAnswers attributes) :
    (field.withAttributes attributes).type = field.type :=
  fieldType_withAttributes answers _

theorem render_withAttributes (answers : field.attributes.SameAnswers attributes)
    (asInterface : Bool) :
    (field.withAttributes attributes).render asInterface = field.render asInterface := by
  have name : (field.withAttributes attributes).name = field.name := by
    unfold name
    rw [type_withAttributes answers]
    rfl
  unfold render renderDeclaration
  rw [type_withAttributes answers, name, answers.annotations]
  rfl

theorem usages_withAttributes (answers : field.attributes.SameAnswers attributes) :
    (field.withAttributes attributes).usages = field.usages := by
  unfold usages
  rw [type_withAttributes answers, answers.annotations]
  rfl

end Questions

theorem ofRecord_agree {record other : Record} (rearranged : record.Rearranged other)
    (pool : Pool) : Agree Rearranged (ofRecord record pool) (ofRecord other pool) := by
  obtain ⟨attributes, rearranged, rfl⟩ := rearranged
  have answers := rearranged.answers
  have flags : Record.fieldFlags { record with attributes } = record.fieldFlags :=
    (FlagSet.withAttributes_eq answers _).symm
  refine (Agree.self (record.name pool)).mapError.bind ?_
  rintro name _ rfl
  refine ((Agree.self (record.descriptor pool)).mapError.bind ?_).mapError
  rintro descriptor _ rfl
  rw [fieldConstant_withAttributes answers, flags]
  refine (Agree.self (record.fieldConstant pool descriptor)).bind ?_
  rintro constant _ rfl
  exact .answer ⟨attributes, rearranged, rfl⟩

theorem Rearranged.alike {first second : Field} (rearranged : first.Rearranged second) :
    first.Alike second := by
  obtain ⟨attributes, rearranged, rfl⟩ := rearranged
  have answers := rearranged.answers
  refine ⟨rfl, rfl, (type_withAttributes answers).symm, rfl, fun asInterface => ?_,
    (usages_withAttributes answers).symm⟩
  exact (render_withAttributes answers asInterface).symm

end Field

/-! ### Members of reordered records -/

/-- The order of the attributes of a member, no two of which have the same name, does not
matter. From two records that differ in it a method is made both times or neither time, and
so is a field; two methods stay alike whatever is done with both of them. -/
theorem attribute_order_is_immaterial {pool : Pool} {first second : WrittenMember}
    (reordered : first.Reordered second) (different : first.DifferentNames pool)
    (version : Version) (rest behind : List UInt8) :
    (∀ owner options, Agree
      (fun left right : Method =>
        ∀ history, (left.afterAll history).Alike (right.afterAll history))
      (Method.ofBytes decodeAttribute pool version (first.bytes ++ rest) owner options)
      (Method.ofBytes decodeAttribute pool version (second.bytes ++ behind) owner options)) ∧
    Agree Field.Alike (Field.ofBytes decodeAttribute pool version (first.bytes ++ rest))
      (Field.ofBytes decodeAttribute pool version (second.bytes ++ behind)) := by
  have records : Agree Record.Rearranged
      (Record.ofBytes decodeAttribute pool version (first.bytes ++ rest)) _ :=
    reordered.agree different rest behind
  refine ⟨fun owner options => records.mapError.bind fun record other rearranged => ?_,
    records.mapError.bind fun record other rearranged => ?_⟩
  · refine (Method.ofRecord_agree rearranged pool owner options).mono ?_
    exact fun left right rearranged history => (rearranged.afterAll history).alike
  · exact (Field.ofRecord_agree rearranged pool).mono fun left right => Field.Rearranged.alike

/-- The constants of a method that throws and whose parameter has two annotations. -/
def markedPool : Pool :=
  ⟨[.utf8 "open", .utf8 "(I)V", .utf8 "Exceptions", .utf8 "RuntimeVisibleParameterAnnotations",
    .utf8 "RuntimeInvisibleParameterAnnotations", .utf8 "p/Fault", .className 6, .utf8 "Lp/Mark;",
    .utf8 "Lp/Note;"]⟩

/-- The attribute that declares a thrown type, and those of the two annotations. -/
def throwsBlock : AttributeBlock := ⟨3, [0, 1, 0, 7], by decide⟩

def visibleBlock : AttributeBlock := ⟨4, [1, 0, 1, 0, 8, 0, 0], by decide⟩

def invisibleBlock : AttributeBlock := ⟨5, [1, 0, 1, 0, 9, 0, 0], by decide⟩

def markedMember : WrittenMember :=
  ⟨0x0401, 1, 2, [throwsBlock, visibleBlock, invisibleBlock], by decide⟩

def reorderedMember : WrittenMember :=
  ⟨0x0401, 1, 2, [invisibleBlock, throwsBlock, visibleBlock], by decide⟩

theorem attribute_order_is_immaterial_marked :
    markedMember.Reordered reorderedMember ∧ markedMember.DifferentNames markedPool ∧
    (Method.ofBytes decodeAttribute markedPool ⟨52, 0⟩ (markedMember.bytes ++ [255])
      ⟨⟨"p/A"⟩, .ofBits 1, false⟩ {}).toOption.map (fun left => left.usages.1.emitted) =
        some [.primitive .int, .primitive .void, .ofClass ⟨"p/Mark"⟩, .ofClass ⟨"p/Note"⟩,
          .ofClass ⟨"p/Fault"⟩] ∧
    (Method.ofBytes decodeAttribute markedPool ⟨52, 0⟩ (reorderedMember.bytes ++ [])
      ⟨⟨"p/A"⟩, .ofBits 1, false⟩ {}).toOption.map (fun right => right.usages.1.emitted) =
        some [.primitive .int, .primitive .void, .ofClass ⟨"p/Note"⟩, .ofClass ⟨"p/Mark"⟩,
          .ofClass ⟨"p/Fault"⟩] ∧
    Agree
      (fun left right : Method =>
        ∀ history, (left.afterAll history).Alike (right.afterAll history))
      (Method.ofBytes decodeAttribute markedPool ⟨52, 0⟩ (markedMember.bytes ++ [255])
        ⟨⟨"p/A"⟩, .ofBits 1, false⟩ {})
      (Method.ofBytes decodeAttribute markedPool ⟨52, 0⟩ (reorderedMember.bytes ++ [])
        ⟨⟨"p/A"⟩, .ofBits 1, false⟩ {}) := by
  have reordered : markedMember.Reordered reorderedMember := by
    refine ⟨rfl, rfl, rfl, ?_⟩
    exact ((List.Perm.swap _ _ _).cons _).trans (List.Perm.swap _ _ _)
  have named : markedPool.utf8 3 = .ok "Exceptions" ∧
      markedPool.utf8 4 = .ok "RuntimeVisibleParameterAnnotations" ∧
      markedPool.utf8 5 = .ok "RuntimeInvisibleParameterAnnotations" := ⟨rfl, rfl, rfl⟩
  have different : markedMember.DifferentNames markedPool := by
    simp [WrittenMember.DifferentNames, markedMember, AttributeBlock.OtherName, throwsBlock,
      visibleBlock, invisibleBlock, named]
  refine ⟨reordered, different, by decide +kernel, by decide +kernel, ?_⟩
  exact (attribute_order_is_immaterial reordered different ⟨52, 0⟩ [255] []).1 _ _

end ClassMembers
