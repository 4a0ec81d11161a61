/-
This file proves what can still go wrong with an annotation whose types can all be reported.
Writing an annotation reads the types that are reported, and besides the constants, of which
nothing is reported. A constant can be written whatever it is, but for the class of an array
whose descriptor cannot be read. So annotations are written exactly if they can be reported
and hold no such constant, at whatever depth.
-/

import ClassMembers.Proofs.Usage.Annotations
import Mathlib

namespace ClassMembers

/-! ### Constants that cannot be written -/

/-- Whether a constant is the class of an array, by a descriptor that cannot be read. -/
def Constant.IsUnreadableArray : Constant → Prop
  | .ofClass name =>
    name.toList.head? = some '[' ∧ ∃ fault, JavaType.ofSignature name = .error fault
  | _ => False

theorem elementLiteral_succeeds_iff (tag : Char) (value : Constant) :
    (∃ literal, elementLiteral tag value = .ok literal) ↔ ¬ value.IsUnreadableArray := by
  cases value with
  | ofClass name =>
    show (∃ literal, (((Literal.ofClass <$> JavaType.ofClassConstant name).mapError _).map _) =
      Except.ok literal) ↔ ¬ (_ ∧ _)
    unfold JavaType.ofClassConstant
    split
    · rename_i array
      cases read : JavaType.ofSignature name with
      | ok type => exact iff_of_true ⟨_, rfl⟩ fun unreadable => nomatch unreadable.2
      | error fault =>
        refine iff_of_false ?_ (not_not_intro ⟨array, fault, rfl⟩)
        rintro ⟨_, done⟩
        cases done
    · rename_i plain
      exact iff_of_true ⟨_, rfl⟩ fun unreadable => plain unreadable.1
  | _ => exact iff_of_true ⟨_, rfl⟩ id

/-! ### What keeps a rendering from succeeding -/

/-- The rendering succeeds exactly if the usages do and all constants can be read. -/
def Usages.Completes (usages : Usages Unit) (constants : List Constant)
    (rendering : Rendering Unit) : Prop :=
  rendering.result = .ok () ↔
    usages.result = .ok () ∧ ∀ constant ∈ constants, ¬ constant.IsUnreadableArray

namespace Usages.Completes

variable {usages behind : Usages Unit} {constants others : List Constant}
  {rendering rest : Rendering Unit}

theorem bind (before : usages.Completes constants rendering)
    (after : behind.Completes others rest) :
    Usages.Completes (usages >>= fun _ => behind) (constants ++ others)
      (rendering >>= fun _ => rest) := by
  unfold Completes at before after ⊢
  rw [Emission.result_bind_eq_ok, Emission.result_bind_eq_ok, List.forall_mem_append]
  constructor
  · rintro ⟨_, first, second⟩
    obtain ⟨reported, readable⟩ := before.mp first
    obtain ⟨reportedBehind, readableBehind⟩ := after.mp second
    exact ⟨⟨(), reported, reportedBehind⟩, readable, readableBehind⟩
  · rintro ⟨⟨_, reported, reportedBehind⟩, readable, readableBehind⟩
    exact ⟨(), before.mpr ⟨reported, readable⟩, after.mpr ⟨reportedBehind, readableBehind⟩⟩

/-- Writing that reads nothing. -/
theorem silent (done : rendering.result = .ok ()) : Usages.Completes (pure ()) [] rendering :=
  iff_of_true done ⟨rfl, nofun⟩

theorem bind_silent (before : usages.Completes constants rendering)
    (done : rest.result = .ok ()) :
    usages.Completes constants (rendering >>= fun _ => rest) := by
  unfold Completes at before ⊢
  rw [← before, Emission.result_bind_eq_ok]
  constructor
  · rintro ⟨_, first, -⟩
    exact first
  · exact fun first => ⟨(), first, done⟩

/-- A type that is written and reported. -/
theorem type_bind {answer : Except SignatureError JavaType}
    (after : usages.Completes constants rest) :
    Usages.Completes
      (Usages.typeOf answer >>= fun shown => Usages.report shown >>= fun _ => usages) constants
      (Rendering.typeOf answer >>= fun shown => Rendering.type shown >>= fun _ => rest) := by
  cases answer with
  | ok shown => exact after
  | error fault => exact iff_of_false nofun fun both => nomatch both.1

/-- A constant that is written. -/
theorem constant (tag : Char) (value : Constant) :
    Usages.Completes (pure ()) [value] (ElementValue.constant tag value).render := by
  unfold ElementValue.render Completes
  rw [Emission.result_bind_eq_ok, List.forall_mem_singleton, ← elementLiteral_succeeds_iff tag]
  constructor
  · rintro ⟨literal, found, -⟩
    exact ⟨rfl, literal, found⟩
  · rintro ⟨-, literal, found⟩
    exact ⟨literal, found, rfl⟩

end Usages.Completes

/-- Where usages and a rendering are in step, constants alone keep them apart. -/
theorem Usages.InStep.completes {usages : Usages Unit} {constants : List Constant}
    {rendering : Rendering Unit} (inStep : InStep constants usages rendering) :
    usages.Completes constants rendering := by
  induction inStep with
  | silent _ done => exact .silent done
  | bind _ _ before after => exact before.bind after
  | bindSilent _ _ done before => exact before.bind_silent done
  | type _ after => exact after.type_bind
  | constant tag value => exact .constant tag value

/-! ### Annotations that are written and reported -/

theorem exists_error_of_ne_ok {rendering : Rendering Unit} (fails : rendering.result ≠ .ok ()) :
    ∃ fault, rendering.result = .error fault := by
  cases result : rendering.result with
  | ok _ => exact absurd result fails
  | error fault => exact ⟨fault, rfl⟩

/-- An annotation that can be written can be reported, and the types reported are those
written as types, in the same order. One that cannot be reported cannot be written. One that
can be reported cannot be written exactly if one of its constants is the class of an array
whose descriptor cannot be read. -/
theorem annotation_walks_agree (mark : AnnotationUse) :
    (mark.render.result = .ok () →
      mark.usages.result = .ok () ∧ mark.usages.emitted = shownTypes mark.render.emitted) ∧
    (∀ fault, mark.usages.result = .error fault → ∃ other, mark.render.result = .error other) ∧
    (mark.usages.result = .ok () →
      ((∃ fault, mark.render.result = .error fault) ↔
        ∃ constant ∈ mark.constants, constant.IsUnreadableArray)) := by
  have completes : mark.render.result = .ok () ↔ _ := mark.usages_inStep.completes
  refine ⟨fun done => ?_, fun fault fails => ?_, fun reported => ?_⟩
  · have same := mark.usages_match done
    rw [same]
    exact ⟨rfl, rfl⟩
  · refine exists_error_of_ne_ok fun done => ?_
    rw [(completes.mp done).1] at fails
    cases fails
  · constructor
    · rintro ⟨fault, fails⟩
      refine Classical.byContradiction fun none => ?_
      rw [completes.mpr ⟨reported, fun constant inside unreadable =>
        none ⟨constant, inside, unreadable⟩⟩] at fails
      cases fails
    · rintro ⟨constant, inside, unreadable⟩
      exact exists_error_of_ne_ok fun done => (completes.mp done).2 constant inside unreadable

/-- An annotation with an annotation inside, which holds the given constant. -/
def markWith (constant : Constant) : AnnotationUse :=
  ⟨"Lp/Config;", [⟨"kind", .enumConstant "Lp/Kind;" "FAST"⟩,
    ⟨"rest", .array [.classLiteral "V",
      .nested ⟨"Lp/Mark;", [⟨"value", .constant 'c' constant⟩]⟩]⟩]⟩

theorem constants_markWith (constant : Constant) : (markWith constant).constants = [constant] := by
  simp [markWith, AnnotationUse.constants, AnnotationElement.constants, ElementValue.constants,
    ElementValue.constantsOfAll]

theorem annotation_walks_agree_nested :
    ((markWith (.ofClass "[Lp/A;")).render.result = .ok () ∧
      shownTypes (markWith (.ofClass "[Lp/A;")).render.emitted =
        [.named "p/Config", .named "p/Kind", .primitive .void, .named "p/Mark"]) ∧
    ((markWith (.ofClass "[Lp/A")).usages.result = .ok () ∧
      ∃ fault, (markWith (.ofClass "[Lp/A")).render.result = .error fault) ∧
    (∃ fault, (AnnotationUse.mk "Lp/Config" []).usages.result = .error fault) ∧
      ∃ fault, (AnnotationUse.mk "Lp/Config" []).render.result = .error fault := by
  obtain ⟨follows, -, -⟩ := annotation_walks_agree (markWith (.ofClass "[Lp/A;"))
  obtain ⟨-, -, stops⟩ := annotation_walks_agree (markWith (.ofClass "[Lp/A"))
  obtain ⟨-, unread, -⟩ := annotation_walks_agree ⟨"Lp/Config", []⟩
  have read : JavaType.ofSignature "[Lp/A;" = .ok (.array (.named "p/A")) := by cbv
  have written : (markWith (.ofClass "[Lp/A;")).render.result = .ok () := by
    refine (AnnotationUse.usages_inStep _).completes.mpr ⟨by cbv, ?_⟩
    rw [constants_markWith, List.forall_mem_singleton]
    rintro ⟨-, fault, fails⟩
    rw [read] at fails
    cases fails
  have torn : Constant.IsUnreadableArray (.ofClass "[Lp/A") := ⟨by cbv, _, by cbv⟩
  have reported : (markWith (.ofClass "[Lp/A")).usages.result = .ok () := by cbv
  have fails : (AnnotationUse.mk "Lp/Config" []).usages.result =
      .error (.signature ⟨"Lp/Config", 9, .unclosedClass⟩) := by cbv
  refine ⟨⟨written, (follows written).2.symm.trans (by cbv)⟩, ⟨reported, ?_⟩, ⟨_, fails⟩,
    unread _ fails⟩
  refine (stops reported).mpr ⟨_, ?_, torn⟩
  rw [constants_markWith]
  exact List.mem_singleton_self _

end ClassMembers
