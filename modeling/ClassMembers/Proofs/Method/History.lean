/-
This file proves what operations do to a method, one by one and in a row. Three of
them ask for the analysis of the code: the analysis itself, the computation of all that
is deferred, and the writing of the method. One drops the code. The others mark the
method or add local classes to it. Apart from the names of the parameters and the thrown
types, which are kept once they were asked for, nothing else changes, and in particular
no other operation than these reaches the body.
-/

import ClassMembers.Method.Rendering
import ClassMembers.Proofs.Sequencing

namespace ClassMembers

/-! ### Operations -/

/-- What can be done with a method. -/
inductive Operation where
  | analysis (analyser : CodeAnalyser)
  | analyse (analyser : CodeAnalyser)
  | render (asInterface : Bool) (analyser : CodeAnalyser)
  | releaseCode
  | parameterNames
  | thrownTypes
  | usages
  | markLocalClass (type : JavaType) (suggestion : Option String)
  | copyLocalClasses (other : Method)
  | hideSynthetic
  | markOverride
  | setComments (comments : Comments)

/-- The analyser of an operation that asks for the analysis. -/
def Operation.analyser? : Operation → Option CodeAnalyser
  | analysis analyser | analyse analyser | render _ analyser => some analyser
  | _ => none

namespace Method

/-- The method after an operation. A type that is not registered as a local class
changes nothing. -/
def after (method : Method) : Operation → Method
  | .analysis analyser => (method.analysis analyser).2
  | .analyse analyser => (method.analyse analyser).2
  | .render asInterface analyser => (method.render asInterface analyser).2
  | .releaseCode => method.releaseCode
  | .parameterNames => method.withNames
  | .thrownTypes => method.withThrows
  | .usages => method.usages.2
  | .markLocalClass type suggestion =>
    match method.markLocalClass type suggestion with
    | .ok marked => marked
    | .error _ => method
  | .copyLocalClasses other => method.copyLocalClasses other
  | .hideSynthetic => method.hideSynthetic
  | .markOverride => method.markOverride
  | .setComments comments => method.setComments comments

/-- The method after operations one behind the other. -/
def afterAll (method : Method) (history : List Operation) : Method :=
  history.foldl after method

@[simp] theorem afterAll_nil (method : Method) : method.afterAll [] = method := rfl

@[simp] theorem afterAll_cons (method : Method) (operation : Operation)
    (history : List Operation) :
    method.afterAll (operation :: history) = (method.after operation).afterAll history := rfl

theorem afterAll_append (method : Method) (earlier later : List Operation) :
    method.afterAll (earlier ++ later) = (method.afterAll earlier).afterAll later :=
  List.foldl_append

/-- The methods that are made from a record or from the bytes of one. -/
inductive Built (method : Method) : Prop
  | ofRecord {record : Record} {pool : Pool} {owner : DeclaringClass} {options : MemberOptions}
      (made : Method.ofRecord record pool owner options = .ok method)
  | ofBytes {decoder : AttributeDecoder} {pool : Pool} {version : Version} {raw : List UInt8}
      {owner : DeclaringClass} {options : MemberOptions}
      (made : Method.ofBytes decoder pool version raw owner options = .ok method)

end Method

/-! ### Analysis of a body -/

namespace MethodBody

/-- The body of code keeps an analysis that it has, and takes one that succeeds. -/
theorem analysis_present (code : Code) (analysed : Option StructuredBody)
    (analyser : CodeAnalyser) (registry : LocalClasses) (name : String) :
    ((present code analysed).analysis analyser registry name).2.1 =
      present code (analysed.or (analyser code registry).1.toOption) := by
  cases analysed with
  | some body => rfl
  | none =>
    rw [analysis]
    obtain ⟨answer, found⟩ := analyser code registry
    cases answer <;> rfl

/-- A body whose code is not there is not changed by an analysis. -/
theorem analysis_of_absence {body : MethodBody} (absence : body.code? = none)
    (analyser : CodeAnalyser) (registry : LocalClasses) (name : String) :
    (body.analysis analyser registry name).2 = (body, registry) := by
  cases body with
  | present code analysed => cases absence
  | _ => rfl

theorem release_of_absence {body : MethodBody} (absence : body.code? = none) :
    body.release = body := by
  cases body with
  | present code analysed => cases absence
  | _ => rfl

end MethodBody

/-! ### One operation -/

namespace Method

/-- Methods that write each parameter alike write all parameters alike. -/
theorem renderParametersFrom_congr {first second : Method}
    (same : first.renderParameter = second.renderParameter) (position : Nat)
    (parameters : List (JavaType × String)) :
    first.renderParametersFrom position parameters =
      second.renderParametersFrom position parameters := by
  induction parameters generalizing position with
  | nil => rfl
  | cons parameter rest hypothesis =>
    unfold renderParametersFrom
    rw [same, hypothesis]

/-- The method as if its names and thrown types had not been asked for. -/
def unasked (method : Method) : Method :=
  { method with
    prototype := { method.prototype with computedNames := none }
    computedThrows := none }

/-- What a view shows of a method does not change when its names or its thrown types are
asked for. -/
structure Unmoved {α : Type} (view : Method → α) : Prop where
  withNames : ∀ method, view method.withNames = view method
  withThrows : ∀ method, view method.withThrows = view method

theorem unmoved_unasked : Unmoved unasked := ⟨fun _ => rfl, fun _ => rfl⟩

theorem unmoved_body : Unmoved Method.body := ⟨fun _ => rfl, fun _ => rfl⟩

theorem analysis_snd_of_absence {method : Method} (absence : method.body.code? = none)
    (analyser : CodeAnalyser) : (method.analysis analyser).2 = method := by
  have kept := MethodBody.analysis_of_absence absence analyser method.localClasses method.name
  show { method with
    body := (method.body.analysis analyser method.localClasses method.name).2.1
    localClasses := (method.body.analysis analyser method.localClasses method.name).2.2 } = method
  rw [kept]

/-- Only where there is no code, writing a method does not ask for its analysis. -/
theorem code?_of_not_needsAnalysis {method : Method} (needs : method.needsAnalysis = false) :
    method.body.code? = none := by
  revert needs
  unfold needsAnalysis
  cases method.body <;> simp [MethodBody.hasCode, MethodBody.isReleased, MethodBody.code?]

/-- What comes of writing a method: the failure of its analysis, or what is written of the
method after its analysis, or, if there is no code, of the method as it is. -/
inductive Writes (method : Method) (asInterface : Bool) (analyser : CodeAnalyser) :
    Rendering Unit × Method → Prop
  | failed {fault : MemberError} (fails : (method.analysis analyser).1 = .error fault) :
      Writes method asInterface analyser
        (.ofExcept (.error fault), (method.analysis analyser).2)
  | analysed {body : StructuredBody} (answers : (method.analysis analyser).1 = .ok body) :
      Writes method asInterface analyser
        (((method.analysis analyser).2.renderAnalysed asInterface (some body)).mapError
          (.naming method.text), (method.analysis analyser).2.afterRendering asInterface)
  | codeless (absence : method.body.code? = none) :
      Writes method asInterface analyser
        ((method.renderAnalysed asInterface none).mapError (.naming method.text),
          method.afterRendering asInterface)

theorem writes_render (method : Method) (asInterface : Bool) (analyser : CodeAnalyser) :
    method.Writes asInterface analyser (method.render asInterface analyser) := by
  unfold render
  cases needs : method.needsAnalysis with
  | true =>
    rw [if_pos rfl]
    cases answer : (method.analysis analyser).1 with
    | ok body =>
      have whole : method.analysis analyser = (.ok body, (method.analysis analyser).2) :=
        Prod.ext answer rfl
      rw [whole]
      exact .analysed answer
    | error fault =>
      have whole : method.analysis analyser = (.error fault, (method.analysis analyser).2) :=
        Prod.ext answer rfl
      rw [whole]
      exact .failed answer
  | false => exact .codeless (code?_of_not_needsAnalysis needs)

namespace Unmoved

variable {α : Type} {view : Method → α}

theorem afterRendering (unmoved : Unmoved view) (method : Method) (asInterface : Bool) :
    view (method.afterRendering asInterface) = view method := by
  unfold Method.afterRendering
  split
  · split
    · exact (unmoved.withThrows _).trans (unmoved.withNames _)
    · exact unmoved.withNames _
  · rfl

theorem usages (unmoved : Unmoved view) (method : Method) : view method.usages.2 = view method := by
  show view (if method.usagesBeforeThrows.succeeds then method.withThrows else method) = _
  split
  · exact unmoved.withThrows _
  · rfl

/-- The computation of all that is deferred moves a view as the analysis does. -/
theorem analyse (unmoved : Unmoved view) (method : Method) (analyser : CodeAnalyser) :
    view (method.analyse analyser).2 = view (method.analysis analyser).2 := by
  unfold Method.analyse
  cases holds : method.body with
  | present code analysed =>
    obtain ⟨answer, later⟩ := method.analysis analyser
    cases answer with
    | ok body => exact unmoved.withNames later
    | error fault => rfl
  | _ =>
    rw [analysis_snd_of_absence (by rw [holds]; rfl)]
    exact unmoved.withNames method

/-- Writing a method moves a view as the analysis does. -/
theorem render (unmoved : Unmoved view) (method : Method) (asInterface : Bool)
    (analyser : CodeAnalyser) :
    view (method.render asInterface analyser).2 = view (method.analysis analyser).2 := by
  have writes := method.writes_render asInterface analyser
  generalize method.render asInterface analyser = written at writes ⊢
  cases writes with
  | failed fails => rfl
  | analysed answers => exact unmoved.afterRendering _ asInterface
  | codeless absence =>
    rw [analysis_snd_of_absence absence]
    exact unmoved.afterRendering method asInterface

end Unmoved

theorem after_markLocalClass (method : Method) (type : JavaType) (suggestion : Option String) :
    method.after (.markLocalClass type suggestion) =
      match method.localClasses.register type suggestion with
      | .ok registry => { method with localClasses := registry }
      | .error _ => method := by
  show (match method.markLocalClass type suggestion with
    | .ok marked => marked
    | .error _ => method) = _
  unfold markLocalClass
  cases method.localClasses.register type suggestion <;> rfl

/-- What an operation does to a method, apart from what was asked for: it does what the
analysis does, drops the code, or marks the method. -/
inductive Changes (method : Method) (operation : Operation) (later : Method) : Prop
  | analysed (analyser : CodeAnalyser) (asks : operation.analyser? = some analyser)
      (result : later.unasked = (method.analysis analyser).2.unasked)
  | released (drops : operation = .releaseCode)
      (result : later.unasked = method.releaseCode.unasked)
  | marked (asks : operation.analyser? = none) (keeps : operation ≠ .releaseCode)
      (localClasses : LocalClasses) (hidden : HiddenState) (isOverride : Bool)
      (comments : Option Comments)
      (result : later.unasked =
        { method.unasked with localClasses, hidden, isOverride, comments })

theorem changes_after (method : Method) (operation : Operation) :
    method.Changes operation (method.after operation) := by
  cases operation with
  | analysis analyser => exact .analysed analyser rfl rfl
  | analyse analyser => exact .analysed analyser rfl (unmoved_unasked.analyse method analyser)
  | render asInterface analyser =>
    exact .analysed analyser rfl (unmoved_unasked.render method asInterface analyser)
  | releaseCode => exact .released rfl rfl
  | parameterNames => exact .marked rfl nofun _ _ _ _ rfl
  | thrownTypes => exact .marked rfl nofun _ _ _ _ rfl
  | usages => exact .marked rfl nofun _ _ _ _ (unmoved_unasked.usages method)
  | markLocalClass type suggestion =>
    rw [after_markLocalClass]
    cases method.localClasses.register type suggestion with
    | ok registry => exact .marked rfl nofun registry _ _ _ rfl
    | error fault => exact .marked rfl nofun _ _ _ _ rfl
  | copyLocalClasses other => exact .marked rfl nofun _ _ _ _ rfl
  | hideSynthetic => exact .marked rfl nofun _ _ _ _ rfl
  | markOverride => exact .marked rfl nofun _ _ _ _ rfl
  | setComments comments => exact .marked rfl nofun _ _ _ _ rfl

/-- What is known of a method from the beginning: its prototype apart from computed names, its
owner, its name, its descriptor and its flags. -/
structure Declared where
  prototype : Prototype
  owner : DeclaringClass
  name : String
  descriptor : String
  flags : MethodFlags

def declared (method : Method) : Declared where
  prototype := { method.prototype with computedNames := none }
  owner := method.owner
  name := method.name
  descriptor := method.descriptor
  flags := method.flags

/-- What was declared stays so. -/
theorem declared_after (method : Method) (operation : Operation) :
    (method.after operation).declared = method.declared := by
  have shown : ∀ other : Method, other.unasked.declared = other.declared := fun _ => rfl
  rw [← shown, ← shown method]
  cases method.changes_after operation with
  | analysed analyser asks result => rw [result]; rfl
  | released drops result => rw [result]; rfl
  | marked asks keeps localClasses hidden isOverride comments result => rw [result]; rfl

/-- Only the release of the code takes the attributes away. -/
theorem attributes_after (method : Method) {operation : Operation}
    (keeps : operation ≠ .releaseCode) :
    (method.after operation).attributes = method.attributes := by
  cases method.changes_after operation with
  | analysed analyser asks result => exact (congrArg Method.attributes result :)
  | released drops => exact absurd drops keeps
  | marked asks keeps localClasses hidden isOverride comments result =>
    exact (congrArg Method.attributes result :)

/-- The body that an operation analyses successfully, by an analyser that sees the code
and the local classes registered so far. -/
def attempt? (method : Method) (operation : Operation) : Option StructuredBody := do
  let analyser ← operation.analyser?
  let code ← method.body.code?
  (analyser code method.localClasses).1.toOption

/-- As long as the code is there, an operation takes what it analyses successfully
unless there is an analysis already. -/
theorem body_after_of_present {method : Method} {code : Code} {analysed : Option StructuredBody}
    (holds : method.body = .present code analysed) {operation : Operation}
    (keeps : operation ≠ .releaseCode) :
    (method.after operation).body = .present code (analysed.or (method.attempt? operation)) := by
  cases method.changes_after operation with
  | analysed analyser asks result =>
    have attempted : method.attempt? operation =
        (analyser code method.localClasses).1.toOption := by
      rw [attempt?, asks, holds]
      rfl
    refine (congrArg Method.body result :).trans ?_
    show (method.body.analysis analyser method.localClasses method.name).2.1 = _
    rw [attempted, holds, MethodBody.analysis_present]
  | released drops => exact absurd drops keeps
  | marked asks keeps localClasses hidden isOverride comments result =>
    have attempted : method.attempt? operation = none := by
      rw [attempt?, asks]
      rfl
    rw [attempted, Option.or_none, ← holds]
    exact (congrArg Method.body result :)

/-- A body whose code is not there stays as it is. -/
theorem body_after_of_absence {method : Method} (absence : method.body.code? = none)
    (operation : Operation) : (method.after operation).body = method.body := by
  cases method.changes_after operation with
  | analysed analyser asks result =>
    rw [analysis_snd_of_absence absence] at result
    exact (congrArg Method.body result :)
  | released drops result =>
    exact (congrArg Method.body result :).trans (MethodBody.release_of_absence absence)
  | marked asks keeps localClasses hidden isOverride comments result =>
    exact (congrArg Method.body result :)

/-! ### Operations in a row -/

theorem declared_afterAll (method : Method) (history : List Operation) :
    (method.afterAll history).declared = method.declared := by
  induction history generalizing method with
  | nil => rfl
  | cons operation rest hypothesis => exact (hypothesis _).trans (declared_after method operation)

theorem name_afterAll (method : Method) (history : List Operation) :
    (method.afterAll history).name = method.name :=
  congrArg Declared.name (method.declared_afterAll history)

/-- The first body that operations analyse successfully, each with the code and the
local classes as it finds them. -/
def firstAnalysis? (method : Method) : List Operation → Option StructuredBody
  | [] => none
  | operation :: rest =>
    (method.attempt? operation).or ((method.after operation).firstAnalysis? rest)

/-- As long as the code is there, the first successful analysis is kept. -/
theorem body_afterAll_of_present {method : Method} {code : Code}
    {analysed : Option StructuredBody} (holds : method.body = .present code analysed)
    {history : List Operation} (keeps : .releaseCode ∉ history) :
    (method.afterAll history).body =
      .present code (analysed.or (method.firstAnalysis? history)) := by
  -- What is kept so far changes on the way, so the induction is on all of it.
  induction history generalizing method analysed with
  | nil =>
    rw [firstAnalysis?, Option.or_none]
    exact holds
  | cons operation rest hypothesis =>
    obtain ⟨other, others⟩ := not_or.mp (mt List.mem_cons.mpr keeps)
    rw [afterAll_cons, hypothesis (body_after_of_present holds (Ne.symm other)) others,
      Option.or_assoc, firstAnalysis?]

theorem body_afterAll_of_absence {method : Method} (absence : method.body.code? = none)
    (history : List Operation) : (method.afterAll history).body = method.body := by
  induction history generalizing method with
  | nil => rfl
  | cons operation rest hypothesis =>
    have same := body_after_of_absence absence operation
    exact (hypothesis (by rw [same]; exact absence)).trans same

theorem attributes_afterAll_of_empty {method : Method} (empty : method.attributes = .empty)
    (history : List Operation) : (method.afterAll history).attributes = .empty := by
  induction history generalizing method with
  | nil => exact empty
  | cons operation rest hypothesis =>
    refine hypothesis ?_
    by_cases drops : operation = .releaseCode
    · rw [drops]
      rfl
    · exact (attributes_after method drops).trans empty

/-- Once the code was released, there are no attributes. -/
theorem attributes_afterAll_of_release (method : Method) {history : List Operation}
    (drops : .releaseCode ∈ history) : (method.afterAll history).attributes = .empty := by
  obtain ⟨earlier, later, rfl⟩ := List.append_of_mem drops
  rw [afterAll_append, afterAll_cons]
  exact attributes_afterAll_of_empty rfl later

/-- Once the code was released, its header is left. -/
theorem body_afterAll_of_release {method : Method} {code : Code}
    {analysed : Option StructuredBody} (holds : method.body = .present code analysed)
    {history : List Operation} (drops : .releaseCode ∈ history) :
    (method.afterAll history).body = .released code.release := by
  induction history generalizing method analysed with
  | nil => cases drops
  | cons operation rest hypothesis =>
    rw [afterAll_cons]
    -- Nothing happens to the body behind the first release; before it, the code is there.
    by_cases now : operation = .releaseCode
    · have released : (method.after operation).body = .released code.release := by
        rw [now]
        show method.body.release = _
        rw [holds]
        rfl
      exact (body_afterAll_of_absence (by rw [released]; rfl) rest).trans released
    · exact hypothesis (body_after_of_present holds now)
        ((List.mem_cons.mp drops).resolve_left (Ne.symm now))

end Method

end ClassMembers
