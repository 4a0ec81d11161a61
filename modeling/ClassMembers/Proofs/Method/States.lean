/-
This file holds the states that a method comes to, and the parts that its writing
puts one behind the other in a state. A state is reached by operations, and by
questions for the names of the parameters with any namer, since the prototype may be
asked by itself. What each of these steps keeps is kept in every state. A method with
a signature is written as what stands before the signature, the signature and the
body, and none of the first two shows whether the code was analysed.
-/

import ClassMembers.Proofs.Method.LifeCycle
import ClassMembers.Proofs.Prototype.Slots

namespace ClassMembers.Method

/-! ### States -/

/-- The method once its names were asked for with a namer that need not be its own. -/
def namedBy (method : Method) (namer : Namer) : Method :=
  { method with prototype := method.prototype.withNames namer }

/-- The states that a method comes to if only some operations are allowed. -/
inductive Reaches (allowed : Operation → Prop) (made : Method) : Method → Prop
  | made : Reaches allowed made made
  | after {now : Method} {operation : Operation} (earlier : Reaches allowed made now)
      (may : allowed operation) : Reaches allowed made (now.after operation)
  | named {now : Method} (earlier : Reaches allowed made now) (namer : Namer) :
      Reaches allowed made (now.namedBy namer)

variable {allowed : Operation → Prop} {made now : Method}

/-- A view that no step changes shows the same in every state. -/
theorem Reaches.keeps {α : Type} {view : Method → α} (reached : Reaches allowed made now)
    (after : ∀ method operation, allowed operation → view (method.after operation) = view method)
    (named : ∀ method namer, view (namedBy method namer) = view method) :
    view now = view made := by
  induction reached with
  | made => rfl
  | after earlier may hypothesis => exact (after _ _ may).trans hypothesis
  | named earlier namer hypothesis => exact (named _ namer).trans hypothesis

theorem Reaches.declared_eq (reached : Reaches allowed made now) : now.declared = made.declared :=
  reached.keeps (fun method operation _ => method.declared_after operation) fun _ _ => rfl

/-- A method keeps the text that names it. -/
theorem Reaches.text_eq (reached : Reaches allowed made now) : now.text = made.text := by
  have owner : now.owner = made.owner := congrArg Declared.owner reached.declared_eq
  have name : now.name = made.name := congrArg Declared.name reached.declared_eq
  have descriptor : now.descriptor = made.descriptor :=
    congrArg Declared.descriptor reached.declared_eq
  rw [text, text, owner, name, descriptor]

/-- As long as the code is not released, the attributes are those of the record. -/
theorem Reaches.attributes_eq (reached : Reaches (· ≠ .releaseCode) made now) :
    now.attributes = made.attributes :=
  reached.keeps (fun method _ keeps => method.attributes_after keeps) fun _ _ => rfl

/-! ### Names that were computed -/

theorem length_namesBy (prototype : Prototype) (namer : Namer) :
    (prototype.namesBy namer).length = prototype.effectiveArguments.length := by
  rw [Prototype.namesBy, Prototype.slotsFrom_eq prototype.firstSlot_le, List.length_map,
    List.length_zipIdx, List.length_map, List.length_range]

/-- Names that were computed are as many as the arguments that a call passes. -/
def NamesFit (method : Method) : Prop :=
  ∀ names, method.prototype.computedNames = some names →
    names.length = method.prototype.effectiveArguments.length

theorem namesFit_namedBy (method : Method) (namer : Namer) :
    (method.namedBy namer).NamesFit = method.NamesFit := by
  refine propext ⟨fun fits names known => ?_, fun fits names known => ?_⟩
  · have kept : method.prototype.parameterNames namer = names := by
      rw [Prototype.parameterNames, known]
      rfl
    exact fits names (congrArg some kept)
  · cases known
    show (method.prototype.parameterNames namer).length = _
    rw [Prototype.parameterNames]
    cases computed : method.prototype.computedNames with
    | none => exact length_namesBy method.prototype namer
    | some names => exact fits names computed

theorem unmoved_namesFit : Unmoved NamesFit :=
  ⟨fun method => method.namesFit_namedBy method.namer, fun _ => rfl⟩

theorem namesFit_after (method : Method) (operation : Operation) :
    (method.after operation).NamesFit = method.NamesFit := by
  cases operation with
  | analyse analyser => exact unmoved_namesFit.analyse method analyser
  | render asInterface analyser => exact unmoved_namesFit.render method asInterface analyser
  | parameterNames => exact unmoved_namesFit.withNames method
  | usages => exact unmoved_namesFit.usages method
  | markLocalClass type suggestion =>
    rw [after_markLocalClass]
    cases method.localClasses.register type suggestion <;> rfl
  | _ => rfl

/-- In every state there are as many names as arguments that a call passes, with whatever namer
they are asked for. -/
theorem Reaches.length_parameterNames (reached : Reaches allowed made now)
    (fresh : made.prototype.computedNames = none) (namer : Namer) :
    (now.prototype.parameterNames namer).length = now.prototype.effectiveArguments.length := by
  have kept : now.NamesFit = made.NamesFit :=
    reached.keeps (fun method operation _ => method.namesFit_after operation) namesFit_namedBy
  have fits : now.NamesFit := by
    rw [kept]
    intro names known
    rw [fresh] at known
    cases known
  rw [Prototype.parameterNames]
  cases computed : now.prototype.computedNames with
  | none => exact length_namesBy now.prototype namer
  | some names => exact fits names computed

/-! ### What is written -/

/-- An analysis does not show in what is written before the body. -/
theorem renderPreamble_analysis (method : Method) (asInterface : Bool) (analyser : CodeAnalyser) :
    (method.analysis analyser).2.renderPreamble asInterface =
      method.renderPreamble asInterface := by
  have hasCode : (method.analysis analyser).2.body.hasCode = method.body.hasCode := by
    show (method.body.analysis analyser method.localClasses method.name).2.1.hasCode = _
    cases method.body with
    | present code analysed => rw [MethodBody.analysis_present]; rfl
    | _ => rfl
  have keywords : (method.analysis analyser).2.keywords asInterface =
      method.keywords asInterface := by
    unfold Method.keywords
    rw [hasCode]
    rfl
  unfold renderPreamble
  rw [keywords]
  rfl

theorem renderSignature_analysis (method : Method) (analyser : CodeAnalyser) :
    (method.analysis analyser).2.renderSignature = method.renderSignature := by
  have parameters : (method.analysis analyser).2.renderParameters = method.renderParameters :=
    renderParametersFrom_congr (by rfl) _ _
  unfold renderSignature
  rw [parameters]
  rfl

theorem emitted_renderAnalysed_of_ok {method : Method} (signed : method.hasSignature = true)
    {asInterface : Bool} {analysed : Option StructuredBody}
    (done : (method.renderAnalysed asInterface analysed).result = .ok ()) :
    method.renderSignature.result = .ok () ∧
      ∃ body, (method.renderAnalysed asInterface analysed).emitted =
        (method.renderPreamble asInterface).emitted ++
          (method.renderSignature.emitted ++ body) := by
  unfold renderAnalysed at done ⊢
  rw [if_pos signed] at done ⊢
  obtain ⟨_, before, done⟩ := Emission.result_bind_eq_ok.mp done
  obtain ⟨_, written, -⟩ := Emission.result_bind_eq_ok.mp done
  refine ⟨written, (method.renderBody analysed).emitted, ?_⟩
  rw [Emission.bind_of_ok before, Emission.bind_of_ok written]

/-- A method with a signature that is written is written as what stands before the signature,
the signature and the body. -/
theorem emitted_render_of_ok {method : Method} (signed : method.kind ≠ .staticInitializer)
    {asInterface : Bool} {analyser : CodeAnalyser}
    (done : (method.render asInterface analyser).1.result = .ok ()) :
    method.renderSignature.result = .ok () ∧
      ∃ body, (method.render asInterface analyser).1.emitted =
        (method.renderPreamble asInterface).emitted ++
          (method.renderSignature.emitted ++ body) := by
  have hasSignature : method.hasSignature = true := decide_eq_true signed
  have writes := method.writes_render asInterface analyser
  generalize method.render asInterface analyser = written at writes done ⊢
  cases writes with
  | failed fails => cases done
  | analysed answers =>
    have later : (method.analysis analyser).2.hasSignature = true := hasSignature
    have parts := emitted_renderAnalysed_of_ok later (Sequencing.mapError_eq_ok.mp done)
    rwa [renderSignature_analysis, renderPreamble_analysis] at parts
  | codeless absence =>
    exact emitted_renderAnalysed_of_ok hasSignature (Sequencing.mapError_eq_ok.mp done)

/-- A signature is written as what stands before the parameters, the parameters between
parentheses, and the thrown types. -/
theorem emitted_renderSignature_of_ok {method : Method}
    (done : method.renderSignature.result = .ok ()) :
    method.renderParameters.result = .ok () ∧
      method.renderSignature.emitted = method.renderHead.emitted ++
        .print "(" :: (method.renderParameters.emitted ++
          .print ")" :: method.renderThrows.emitted) := by
  unfold renderSignature at done ⊢
  obtain ⟨_, head, done⟩ := Emission.result_bind_eq_ok.mp done
  obtain ⟨_, opened, done⟩ := Emission.result_bind_eq_ok.mp done
  obtain ⟨_, parameters, done⟩ := Emission.result_bind_eq_ok.mp done
  obtain ⟨_, closed, done⟩ := Emission.result_bind_eq_ok.mp done
  refine ⟨parameters, ?_⟩
  rw [Emission.bind_of_ok head, Emission.bind_of_ok opened, Emission.bind_of_ok parameters,
    Emission.bind_of_ok closed]
  rfl

end ClassMembers.Method
