/-
This file proves that annotations are written and reported in step. Writing an annotation
and reporting the types it mentions are two walks over the same tree, and they part where
one has a case of its own: a single element may go without its name, constants are written
but not reported, and a list is written with commas between its items. None of this is a
type. So whenever the writing of an annotation succeeds, reporting it succeeds as well, and
what is reported is what was written as a type, in the same order. The tree is walked over
once, for all that is to be said of the two.
-/

import ClassMembers.Annotations.Rendering
import ClassMembers.Annotations.Usages
import ClassMembers.Proofs.Sequencing
import ClassMembers.Rendering.Declaration

namespace ClassMembers

/-! ### The types that are written -/

/-- The type that a call writes as a type. -/
def Call.shown? : Call → Option JavaType
  | .type shown => some shown
  | _ => none

/-- The types that calls write as types, in order. -/
def shownTypes (calls : List Call) : List JavaType := calls.filterMap Call.shown?

@[simp] theorem shownTypes_nil : shownTypes [] = [] := rfl

@[simp] theorem shownTypes_append (first second : List Call) :
    shownTypes (first ++ second) = shownTypes first ++ shownTypes second :=
  List.filterMap_append

/-- Whether a call writes text that is neither a type nor a keyword. -/
def Call.isPlain : Call → Bool
  | .type _ => false
  | .keyword _ => false
  | _ => true

theorem shownTypes_of_plain {calls : List Call} (plain : calls.all Call.isPlain = true) :
    shownTypes calls = [] := by
  refine List.filterMap_eq_nil_iff.mpr fun call inside => ?_
  have apart := List.all_eq_true.mp plain call inside
  cases call with
  | type shown => cases apart
  | _ => rfl

/-! ### Usages in step with a rendering -/

/-- If the rendering succeeds, so do the usages, and they report the types that it writes, in
the same order. -/
def Usages.Match (usages : Usages Unit) (rendering : Rendering Unit) : Prop :=
  rendering.result = .ok () → usages = ⟨shownTypes rendering.emitted, .ok ()⟩

namespace Usages.Match

variable {usages behind : Usages Unit} {rendering rest : Rendering Unit}

theorem bind (before : usages.Match rendering) (after : behind.Match rest) :
    Usages.Match (usages >>= fun _ => behind) (rendering >>= fun _ => rest) := by
  intro done
  obtain ⟨_, first, second⟩ := Emission.result_bind_eq_ok.mp done
  rw [Emission.bind_of_ok first, before first, after second,
    Emission.bind_of_ok (by rfl), shownTypes_append]

/-- Writing that writes no type. -/
theorem silent (quiet : shownTypes rendering.emitted = []) :
    Usages.Match (pure ()) rendering := by
  intro _
  rw [quiet]
  rfl

theorem silent_bind {α : Type} {first : Rendering α} {next : α → Rendering Unit}
    (quiet : shownTypes first.emitted = []) (after : ∀ answer, usages.Match (next answer)) :
    usages.Match (first >>= next) := by
  intro done
  obtain ⟨answer, first, second⟩ := Emission.result_bind_eq_ok.mp done
  rw [Emission.bind_of_ok first, shownTypes_append, quiet, after answer second, List.nil_append]

theorem bind_silent (before : usages.Match rendering) (quiet : shownTypes rest.emitted = []) :
    usages.Match (rendering >>= fun _ => rest) := by
  intro done
  obtain ⟨_, first, second⟩ := Emission.result_bind_eq_ok.mp done
  rw [Emission.bind_of_ok first, shownTypes_append, quiet, List.append_nil, before first]

/-- A type that is written and reported. -/
theorem type_bind {answer : Except SignatureError JavaType} (after : usages.Match rest) :
    Usages.Match
      (Usages.typeOf answer >>= fun shown => Usages.report shown >>= fun _ => usages)
      (Rendering.typeOf answer >>= fun shown => Rendering.type shown >>= fun _ => rest) := by
  intro done
  obtain ⟨shown, first, second⟩ := Emission.result_bind_eq_ok.mp done
  have same : (Usages.typeOf answer).result = .ok shown := first
  obtain ⟨_, -, third⟩ := Emission.result_bind_eq_ok.mp second
  rw [Emission.bind_of_ok first, Emission.bind_of_ok same, after third]
  rfl

end Usages.Match

/-! ### Annotations -/

mutual

/-- The constants that the elements of an annotation hold, at whatever depth. -/
def AnnotationUse.constants : AnnotationUse → List Constant
  | ⟨_, elements⟩ => AnnotationElement.constants elements

/-- The constants that elements hold. -/
def AnnotationElement.constants : List AnnotationElement → List Constant
  | [] => []
  | ⟨_, value⟩ :: rest => value.constants ++ AnnotationElement.constants rest

/-- The constants that a value holds. -/
def ElementValue.constants : ElementValue → List Constant
  | .constant _ value => [value]
  | .enumConstant _ _ => []
  | .classLiteral _ => []
  | .nested inner => inner.constants
  | .array values => ElementValue.constantsOfAll values

/-- The constants that values hold. -/
def ElementValue.constantsOfAll : List ElementValue → List Constant
  | [] => []
  | first :: rest => first.constants ++ ElementValue.constantsOfAll rest

end

/-- Usages and a rendering that walk over a tree in step, and the constants that are met on the
way. Types are written and reported, and constants are only written. Everything else that is
written is plain text and cannot fail. -/
inductive Usages.InStep : List Constant → Usages Unit → Rendering Unit → Prop where
  | silent {rendering : Rendering Unit} (plain : rendering.emitted.all Call.isPlain = true)
      (done : rendering.result = .ok ()) : InStep [] (pure ()) rendering
  | bind {constants others : List Constant} {usages behind : Usages Unit}
      {rendering rest : Rendering Unit} (before : InStep constants usages rendering)
      (after : InStep others behind rest) :
      InStep (constants ++ others) (usages >>= fun _ => behind) (rendering >>= fun _ => rest)
  | bindSilent {constants : List Constant} {usages : Usages Unit}
      {rendering rest : Rendering Unit} (before : InStep constants usages rendering)
      (plain : rest.emitted.all Call.isPlain = true) (done : rest.result = .ok ()) :
      InStep constants usages (rendering >>= fun _ => rest)
  | type {constants : List Constant} {usages : Usages Unit} {rest : Rendering Unit}
      {answer : Except SignatureError JavaType} (after : InStep constants usages rest) :
      InStep constants
        (Usages.typeOf answer >>= fun shown => Usages.report shown >>= fun _ => usages)
        (Rendering.typeOf answer >>= fun shown => Rendering.type shown >>= fun _ => rest)
  | constant (tag : Char) (value : Constant) :
      InStep [value] (pure ()) (ElementValue.constant tag value).render

namespace Usages.InStep

variable {constants : List Constant} {usages : Usages Unit} {rendering rest : Rendering Unit}

theorem silentBind (plain : rendering.emitted.all Call.isPlain = true)
    (done : rendering.result = .ok ()) (after : InStep constants usages rest) :
    InStep constants usages (rendering >>= fun _ => rest) :=
  (silent plain done).bind after

theorem usages_match (inStep : InStep constants usages rendering) : usages.Match rendering := by
  induction inStep with
  | silent plain _ => exact .silent (shownTypes_of_plain plain)
  | bind _ _ before after => exact before.bind after
  | bindSilent _ plain _ before => exact before.bind_silent (shownTypes_of_plain plain)
  | type _ after => exact after.type_bind
  | constant tag value =>
    unfold ElementValue.render
    exact .silent_bind rfl fun _ => .silent rfl

end Usages.InStep

open Usages.InStep

/-- An element is written by its name, of which nothing is reported. -/
theorem element_inStep {value : ElementValue} {constants : List Constant}
    (inside : Usages.InStep constants value.usages value.render) (name : String) :
    Usages.InStep constants value.usages (AnnotationElement.render ⟨name, value⟩) := by
  unfold AnnotationElement.render
  exact silentBind rfl rfl (silentBind rfl rfl inside)

mutual

/-- An annotation is reported as it is written. -/
theorem AnnotationUse.usages_inStep (mark : AnnotationUse) :
    Usages.InStep mark.constants mark.usages mark.render := by
  obtain ⟨descriptor, elements⟩ := mark
  unfold AnnotationUse.usages AnnotationUse.render AnnotationUse.constants
  refine silentBind rfl rfl (.type ?_)
  match elements with
  | [] => exact .silent rfl rfl
  | [⟨name, value⟩] =>
    have inside := value.usages_inStep
    refine silentBind rfl rfl ?_
    -- The name of the only element may be left out.
    dsimp only
    split
    · exact inside.bind (.silent rfl rfl)
    · exact silentBind rfl rfl (silentBind rfl rfl (inside.bind (.silent rfl rfl)))
  | ⟨name, value⟩ :: second :: rest =>
    have inside := element_inStep value.usages_inStep name
    have others := AnnotationElement.usages_inStep (second :: rest)
    exact silentBind rfl rfl (inside.bind (others.bindSilent rfl rfl))

theorem AnnotationElement.usages_inStep (elements : List AnnotationElement) :
    Usages.InStep (AnnotationElement.constants elements) (AnnotationElement.usages elements)
      (AnnotationElement.renderRest elements) := by
  match elements with
  | [] => exact .silent rfl rfl
  | ⟨name, value⟩ :: rest =>
    unfold AnnotationElement.usages AnnotationElement.renderRest AnnotationElement.constants
    have inside := element_inStep value.usages_inStep name
    exact silentBind rfl rfl (inside.bind (AnnotationElement.usages_inStep rest))

theorem ElementValue.usages_inStep (value : ElementValue) :
    Usages.InStep value.constants value.usages value.render := by
  match value with
  | .constant tag value =>
    unfold ElementValue.usages ElementValue.constants
    exact .constant tag value
  | .enumConstant descriptor name =>
    unfold ElementValue.usages ElementValue.render ElementValue.constants
    exact .type (show Usages.InStep [] (pure ()) _ from .silent rfl rfl)
  | .classLiteral descriptor =>
    unfold ElementValue.usages ElementValue.render ElementValue.constants
    exact .type (show Usages.InStep [] (pure ()) _ from .silent rfl rfl)
  | .nested inner =>
    unfold ElementValue.usages ElementValue.render ElementValue.constants
    exact inner.usages_inStep
  | .array values =>
    unfold ElementValue.usages ElementValue.render ElementValue.constants
    refine silentBind rfl rfl ?_
    match values with
    | [] => exact .silent rfl rfl
    | first :: rest =>
      exact first.usages_inStep.bind
        ((ElementValue.usagesOfAll_inStep rest).bindSilent rfl rfl)

theorem ElementValue.usagesOfAll_inStep (values : List ElementValue) :
    Usages.InStep (ElementValue.constantsOfAll values) (ElementValue.usagesOfAll values)
      (ElementValue.renderRest values) := by
  match values with
  | [] => exact .silent rfl rfl
  | first :: rest =>
    unfold ElementValue.usagesOfAll ElementValue.renderRest ElementValue.constantsOfAll
    exact silentBind rfl rfl
      (first.usages_inStep.bind (ElementValue.usagesOfAll_inStep rest))

end

theorem AnnotationUse.usages_match (mark : AnnotationUse) : mark.usages.Match mark.render :=
  mark.usages_inStep.usages_match

theorem ElementValue.usages_match (value : ElementValue) : value.usages.Match value.render :=
  value.usages_inStep.usages_match

end ClassMembers
