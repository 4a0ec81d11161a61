/-
This file proves that a failure names its member once. Underneath, nothing names a member:
writing a declaration and reporting the types it mentions fail only over descriptors and
signatures that are malformed, at whatever depth these stand in annotations, and an analysis
fails for lack of code or as its analyser does. Each operation puts the name of the member on
top of that, and where one operation asks for another that has put it there, leaves it as it
is. One operation does not: the collection of the usages of a field lets its failures pass
without a name.
-/

import ClassMembers.Proofs.LocalClasses.Additivity
import ClassMembers.Proofs.Member.Parts
import ClassMembers.Proofs.Method.Requests
import ClassMembers.Proofs.Method.States
import ClassMembers.Proofs.Usage.Collection

namespace ClassMembers

open Sequencing

/-! ### Computations that fail over malformed text -/

/-- The only failures are malformed descriptors and signatures. -/
def Emission.MalformedOnly {ω α : Type} (emission : Emission ω MemberError α) : Prop :=
  ∀ fault, emission.result = .error fault → ∃ error, fault = .signature error

namespace Emission.MalformedOnly

variable {ω α β : Type}

theorem answers {emission : Emission ω MemberError α} {answer : α}
    (done : emission.result = .ok answer) : emission.MalformedOnly := by
  intro fault failed
  rw [done] at failed
  cases failed

theorem ofExcept (answer : Except SignatureError α) :
    (Emission.ofExcept (answer.mapError .signature) : Emission ω MemberError α).MalformedOnly := by
  intro fault failed
  obtain ⟨error, -, rfl⟩ := mapError_eq_error.mp failed
  exact ⟨error, rfl⟩

theorem bind {first : Emission ω MemberError α} {next : α → Emission ω MemberError β}
    (before : first.MalformedOnly)
    (after : ∀ answer, first.result = .ok answer → (next answer).MalformedOnly) :
    Emission.MalformedOnly (first >>= next) := by
  intro fault failed
  cases done : first.result with
  | ok answer =>
    rw [bind_of_ok done] at failed
    exact after answer done fault failed
  | error other =>
    rw [bind_of_error done] at failed
    cases failed
    exact before _ done

theorem forEach {step : α → Emission ω MemberError Unit}
    (each : ∀ item, (step item).MalformedOnly) (items : List α) :
    (Emission.forEach items step).MalformedOnly := by
  induction items with
  | nil => exact answers rfl
  | cons item rest hypothesis => exact (each item).bind fun _ _ => hypothesis

end Emission.MalformedOnly

open Emission.MalformedOnly

/-- What is written fails only over malformed text if its parts do. -/
theorem Rendering.malformedOnly_inherited : Inherited (@Emission.MalformedOnly Call) where
  nothing := answers rfl
  plain _ _ := answers rfl
  bind := bind

/-! ### Annotations -/

theorem elementLiteral_malformedOnly (tag : Char) (value : Constant) :
    (Emission.ofExcept (elementLiteral tag value) : Rendering Literal).MalformedOnly := by
  intro fault failed
  obtain ⟨error, -, rfl⟩ := mapError_eq_error.mp (except_map_eq_error.mp failed)
  exact ⟨error, rfl⟩

namespace Usages.InStep

variable {constants : List Constant} {usages : Usages Unit} {rendering : Rendering Unit}

/-- Of two walks in step neither fails over anything but malformed text. -/
theorem usages_malformedOnly (inStep : InStep constants usages rendering) :
    usages.MalformedOnly := by
  induction inStep with
  | silent _ _ => exact answers rfl
  | bind _ _ before after => exact before.bind fun _ _ => after
  | bindSilent _ _ _ before => exact before
  | type _ after => exact (ofExcept _).bind fun _ _ => (answers rfl).bind fun _ _ => after
  | constant _ _ => exact answers rfl

theorem render_malformedOnly (inStep : InStep constants usages rendering) :
    rendering.MalformedOnly :=
  inStep.inherits Rendering.malformedOnly_inherited (fun _ => ofExcept _) (fun _ => answers rfl)
    elementLiteral_malformedOnly

end Usages.InStep

/-! ### Fields -/

namespace Field

theorem name_malformedOnly (field : Field) :
    (Emission.ofExcept field.name : Rendering String).MalformedOnly := by
  unfold Field.name
  split
  · intro fault failed
    rcases except_bind_eq_error.mp failed with failed | ⟨type, -, failed⟩
    · obtain ⟨error, -, rfl⟩ := mapError_eq_error.mp failed
      exact ⟨error, rfl⟩
    · cases failed
  · exact answers rfl

theorem renderDeclaration_malformedOnly (field : Field) (asInterface : Bool) :
    (field.renderDeclaration asInterface).MalformedOnly := by
  have parts : field.Parts (@Emission.MalformedOnly Call) :=
    { keywords := fun _ => answers rfl
      annotations := fun mark _ => mark.usages_inStep.render_malformedOnly
      typeRead := ofExcept _
      type := fun _ _ => answers rfl
      nameRead := field.name_malformedOnly }
  exact renderDeclaration_inherits parts Rendering.malformedOnly_inherited asInterface

theorem usages_malformedOnly (field : Field) : field.usages.MalformedOnly :=
  (ofExcept _).bind fun _ _ => (answers rfl).bind fun _ _ =>
    forEach (fun mark => mark.usages_inStep.usages_malformedOnly) field.attributes.annotations

end Field

/-! ### Methods -/

namespace Method

theorem renderAnalysed_malformedOnly (method : Method) (asInterface : Bool)
    (analysed : Option StructuredBody) :
    (method.renderAnalysed asInterface analysed).MalformedOnly := by
  have parts : method.Parts (@Emission.MalformedOnly Call) analysed :=
    { result := answers rfl
      marks := fun _ mark _ => mark.usages_inStep.render_malformedOnly
      arguments := fun _ _ => answers rfl
      components := fun _ _ => answers rfl
      keywords := fun _ => answers rfl
      annotations := fun mark _ => mark.usages_inStep.render_malformedOnly
      throws := fun _ _ => answers rfl
      value := fun value _ => value.usages_inStep.render_malformedOnly
      body := fun _ _ => answers rfl }
  exact renderAnalysed_inherits parts Rendering.malformedOnly_inherited asInterface

theorem usagesBeforeThrows_malformedOnly (method : Method) :
    method.usagesBeforeThrows.MalformedOnly := by
  have marked := forEach fun mark : AnnotationUse => mark.usages_inStep.usages_malformedOnly
  have valued : method.defaultUsages.MalformedOnly := by
    unfold defaultUsages
    split
    · next value _ => exact value.usages_inStep.usages_malformedOnly
    · exact answers rfl
  rw [usagesBeforeThrows_eq]
  exact (answers rfl).bind fun _ _ => (marked _).bind fun _ _ => valued.bind fun _ _ => answers rfl

end Method

/-! ### Naming a member once -/

/-- No member is named. -/
def MemberError.IsAnonymous (fault : MemberError) : Prop :=
  ∀ member source, fault ≠ .inMember member source

theorem MemberError.naming_of_isAnonymous {fault : MemberError} (anonymous : fault.IsAnonymous)
    (member : String) : fault.naming member = .inMember member fault := by
  cases fault with
  | inMember earlier source => exact absurd rfl (anonymous earlier source)
  | _ => rfl

theorem Emission.MalformedOnly.anonymous {ω α : Type} {emission : Emission ω MemberError α}
    (malformed : emission.MalformedOnly) {fault : MemberError}
    (failed : emission.result = .error fault) : fault.IsAnonymous := by
  obtain ⟨error, rfl⟩ := malformed fault failed
  rintro _ _ ⟨⟩

/-- Where only malformed text is a failure, failures name a member only if there are none. -/
theorem Emission.MalformedOnly.named_iff {ω : Type} {emission : Emission ω MemberError Unit}
    (malformed : emission.MalformedOnly) (member : String) :
    (∀ fault, emission.result = .error fault → ∃ source, fault = .inMember member source) ↔
      emission.result = .ok () := by
  constructor
  · intro names
    cases failed : emission.result with
    | ok answer => rfl
    | error fault =>
      obtain ⟨source, named⟩ := names fault failed
      exact absurd named (malformed.anonymous failed member source)
  · intro done fault failed
    rw [done] at failed
    cases failed

/-- An answer fails exactly if the one beneath it does, of which no failure names a member; and
its failure is that one under the name of the member. -/
structure NamesOnce {α β : Type} (member : String) (beneath : Except MemberError α)
    (answer : Except MemberError β) : Prop where
  anonymous : ∀ source, beneath = .error source → source.IsAnonymous
  fails_iff : ∀ fault, answer = .error fault ↔
    ∃ source, beneath = .error source ∧ fault = .inMember member source

namespace NamesOnce

variable {α β γ : Type} {member : String} {beneath : Except MemberError α}
  {answer : Except MemberError β}

theorem mapError (anonymous : ∀ source, beneath = .error source → source.IsAnonymous)
    (member : String) : NamesOnce member beneath (beneath.mapError (.naming member)) := by
  refine ⟨anonymous, fun fault => mapError_eq_error.trans (exists_congr fun source => ?_)⟩
  refine and_congr_right fun failed => ?_
  rw [MemberError.naming_of_isAnonymous (anonymous source failed), eq_comm]

/-- What is made of a success does not matter. -/
theorem map (named : NamesOnce member beneath answer) (view : β → γ) :
    NamesOnce member beneath (answer.map view) := by
  refine ⟨named.anonymous, fun fault => ?_⟩
  rw [except_map_eq_error]
  exact named.fails_iff fault

end NamesOnce

/-- The failures of the analyser itself name no member. -/
def CodeAnalyser.Anonymous (analyser : CodeAnalyser) : Prop :=
  ∀ code registry fault, (analyser code registry).1 = .error fault → fault.IsAnonymous

/-- A field that is written names its failures once. -/
theorem Field.render_namesOnce (field : Field) (asInterface : Bool) :
    NamesOnce field.rawName (field.renderDeclaration asInterface).result
      (field.render asInterface).result :=
  .mapError (fun _ => (field.renderDeclaration_malformedOnly asInterface).anonymous) _

namespace Method

/-! ### Methods before they are named -/

variable {method : Method} {analyser : CodeAnalyser}

/-- The analysis of the body, before a failure names the method. -/
def bodyAnalysis (method : Method) (analyser : CodeAnalyser) : Except MemberError StructuredBody :=
  (method.body.analysis analyser method.localClasses method.name).1

/-- The usages, before a failure names the method. -/
def reporting (method : Method) : Usages Unit := do
  method.usagesBeforeThrows
  Usages.reportAll method.thrownTypes

/-- The writing of a method, before a failure names the method: its analysis if that is needed,
and what is then written. -/
def writing (method : Method) (asInterface : Bool) (analyser : CodeAnalyser) :
    Except MemberError Unit :=
  if method.needsAnalysis then do
    let body ← method.bodyAnalysis analyser
    ((method.analysis analyser).2.renderAnalysed asInterface (some body)).result
  else (method.renderAnalysed asInterface none).result

theorem bodyAnalysis_anonymous (anonymous : analyser.Anonymous) {fault : MemberError}
    (failed : method.bodyAnalysis analyser = .error fault) : fault.IsAnonymous := by
  revert failed
  unfold bodyAnalysis
  cases method.body with
  | present code analysed =>
    cases analysed with
    | some body =>
      intro failed
      cases failed
    | none =>
      intro failed
      refine anonymous code method.localClasses fault ?_
      rw [MethodBody.analysis] at failed
      generalize analyser code method.localClasses = answered at failed ⊢
      obtain ⟨answer, found⟩ := answered
      cases answer with
      | ok body => cases failed
      | error other => exact failed
  | _ =>
    intro failed
    cases failed
    rintro _ _ ⟨⟩

theorem writing_anonymous (anonymous : analyser.Anonymous) {asInterface : Bool}
    {fault : MemberError} (failed : method.writing asInterface analyser = .error fault) :
    fault.IsAnonymous := by
  unfold writing at failed
  split at failed
  · rcases except_bind_eq_error.mp failed with failed | ⟨body, -, failed⟩
    · exact bodyAnalysis_anonymous anonymous failed
    · exact (renderAnalysed_malformedOnly _ asInterface (some body)).anonymous failed
  · exact (method.renderAnalysed_malformedOnly asInterface none).anonymous failed

/-- An analysis that is asked for by the writing has named the method, and is not named
again. -/
theorem result_render (method : Method) (asInterface : Bool) (analyser : CodeAnalyser) :
    (method.render asInterface analyser).1.result =
      (method.writing asInterface analyser).mapError (.naming method.text) := by
  unfold render writing
  cases method.needsAnalysis with
  | true =>
    have whole : method.analysis analyser =
        ((method.bodyAnalysis analyser).mapError (.naming method.text),
          (method.analysis analyser).2) := rfl
    rw [if_pos rfl, if_pos rfl, whole]
    cases method.bodyAnalysis analyser <;> rfl
  | false => rfl

/-! ### Every operation -/

/-- Whatever operation fails names the member, once. -/
structure NamesFailures (method : Method) (member : String) (analyser : CodeAnalyser) : Prop where
  analysis : NamesOnce member (method.bodyAnalysis analyser) (method.analysis analyser).1
  analyse : method.body.hasCode = true →
    NamesOnce member (method.bodyAnalysis analyser) (method.analyse analyser).1
  analyse_codeless : method.body.hasCode = false → (method.analyse analyser).1 = .ok ()
  markLocalClass : ∀ type suggestion,
    NamesOnce member (method.localClasses.register type suggestion)
      (method.markLocalClass type suggestion)
  usages : NamesOnce member method.reporting.result method.usages.1.result
  render : ∀ asInterface, NamesOnce member (method.writing asInterface analyser)
    (method.render asInterface analyser).1.result

theorem markLocalClass_namesOnce (method : Method) (type : JavaType) (suggestion : Option String) :
    NamesOnce method.text (method.localClasses.register type suggestion)
      (method.markLocalClass type suggestion) := by
  have registered : method.markLocalClass type suggestion =
      ((method.localClasses.register type suggestion).mapError (.naming method.text)).map
        fun registry => { method with localClasses := registry } := by
    unfold Method.markLocalClass
    cases method.localClasses.register type suggestion <;> rfl
  rw [registered]
  refine (NamesOnce.mapError (fun source failed => ?_) _).map _
  obtain ⟨rfl, -⟩ := LocalClasses.register_eq_error_iff.mp failed
  rintro _ _ ⟨⟩

theorem analyse_namesOnce {member : String} (present : method.body.hasCode = true)
    (analysed : NamesOnce member (method.bodyAnalysis analyser) (method.analysis analyser).1) :
    NamesOnce member (method.bodyAnalysis analyser) (method.analyse analyser).1 := by
  rw [analyse_of_hasCode present]
  exact analysed.map _

theorem usages_namesOnce (method : Method) :
    NamesOnce method.text method.reporting.result method.usages.1.result := by
  have reported : method.reporting.MalformedOnly :=
    method.usagesBeforeThrows_malformedOnly.bind fun _ _ => answers rfl
  exact .mapError (fun _ => reported.anonymous) _

theorem render_namesOnce (anonymous : analyser.Anonymous) (method : Method) (asInterface : Bool) :
    NamesOnce method.text (method.writing asInterface analyser)
      (method.render asInterface analyser).1.result := by
  rw [result_render]
  exact .mapError (fun _ => writing_anonymous anonymous) _

theorem namesFailures (anonymous : analyser.Anonymous) (method : Method) :
    method.NamesFailures method.text analyser := by
  have analysed : NamesOnce method.text (method.bodyAnalysis analyser)
      (method.analysis analyser).1 :=
    .mapError (fun _ => bodyAnalysis_anonymous anonymous) _
  have codeless (absence : method.body.hasCode = false) : (method.analyse analyser).1 = .ok () := by
    rw [Method.analyse, absence]
    rfl
  exact ⟨analysed, fun present => analyse_namesOnce present analysed, codeless,
    method.markLocalClass_namesOnce, method.usages_namesOnce, method.render_namesOnce anonymous⟩

end Method

/-- In whatever state, and with whatever analyser whose own failures name no member, everything
that fails of a method names it once by its class, its name and its descriptor, over the
failure beneath; so does the writing of a field, by the name of the field. The collection of the
usages of a field does not: its failures are malformed descriptors and signatures that name no
member, so failures name the field only as long as there are none. -/
theorem failures_name_member {analyser : CodeAnalyser} (anonymous : analyser.Anonymous) :
    (∀ made now : Method, made.Reaches (fun _ => True) now →
      now.NamesFailures made.text analyser) ∧
    ∀ field : Field,
      (∀ asInterface, NamesOnce field.rawName (field.renderDeclaration asInterface).result
        (field.render asInterface).result) ∧
      field.usages.MalformedOnly ∧
      ((∀ fault, field.usages.result = .error fault →
        ∃ source, fault = .inMember field.rawName source) ↔ field.usages.result = .ok ()) := by
  refine ⟨fun made now reached => ?_, fun field => ?_⟩
  · rw [← reached.text_eq]
    exact now.namesFailures anonymous
  · have malformed := field.usages_malformedOnly
    exact ⟨field.render_namesOnce, malformed, malformed.named_iff field.rawName⟩

/-- A field whose descriptor lacks its semicolon. -/
def unclosedField : Field := ⟨⟨2, 1, 2, .empty, 8⟩, "x", "Lp/A", .ofBits 2, none, false⟩

theorem usages_unclosedField :
    unclosedField.usages.result = .error (.signature ⟨"Lp/A", 4, .unclosedClass⟩) := by cbv

/-- The method of the code that only returns, released, and given to an analyser that fails. -/
theorem failures_name_member_unclosed :
    Method.givingUp.Anonymous ∧
    (Method.returnMethod.after .releaseCode).NamesFailures "p.A.run()V" Method.givingUp ∧
    (unclosedField.render false).result =
      .error (.inMember "x" (.signature ⟨"Lp/A", 4, .unclosedClass⟩)) ∧
    ¬ ∀ fault, unclosedField.usages.result = .error fault →
      ∃ source, fault = .inMember "x" source := by
  have anonymous : Method.givingUp.Anonymous := by
    intro code registry fault failed
    cases failed
    rintro _ _ ⟨⟩
  obtain ⟨methods, fields⟩ := failures_name_member anonymous
  obtain ⟨written, -, unnamed⟩ := fields unclosedField
  refine ⟨anonymous, ?_, ?_, ?_⟩
  · have text : Method.returnMethod.text = "p.A.run()V" := by cbv
    rw [← text]
    exact methods _ _ (.after .made trivial)
  · exact ((written false).fails_iff _).mpr ⟨_, by cbv, rfl⟩
  · refine mt unnamed.mp ?_
    rw [usages_unclosedField]
    rintro ⟨⟩

/-- The usages of that field fail without a name. -/
theorem unclosed_usages_unnamed :
    Field.ofRecord ⟨2, 1, 2, .empty, 8⟩ ⟨[.utf8 "x", .utf8 "Lp/A"]⟩ = .ok unclosedField ∧
    unclosedField.usages.result = .error (.signature ⟨"Lp/A", 4, .unclosedClass⟩) ∧
    ¬ ∃ source, MemberError.signature ⟨"Lp/A", 4, .unclosedClass⟩ = .inMember "x" source :=
  ⟨by cbv, usages_unclosedField, nofun⟩

end ClassMembers
