/-
This file proves that what is written as a type is reported as a usage. Fields and methods
are written by one walk and report their types by another, which visits the same parts in
another order and some more of them: the annotations of all parameters, also of those that
are not declared, the bounds, and the local classes. For each part that is written, the
types it shows are found among the types that are reported. A parameter with a variable
number of arguments shows the component of its array, which mentions the same classes as
the array, so the comparison is by the classes that types mention.
-/

import ClassMembers.Proofs.Member.Parts
import ClassMembers.Proofs.Usage.Collection

namespace ClassMembers

/-! ### Types covered by others -/

theorem mem_shownTypes {shown : JavaType} {calls : List Call} :
    shown ∈ shownTypes calls ↔ .type shown ∈ calls := by
  rw [shownTypes, List.mem_filterMap]
  constructor
  · rintro ⟨call, inside, same⟩
    cases call <;> cases same
    exact inside
  · exact fun inside => ⟨_, inside, rfl⟩

/-- Every class that a type mentions is mentioned by one of the types. -/
def JavaType.CoveredBy (shown : JavaType) (types : List JavaType) : Prop :=
  ∀ name ∈ shown.mentionedClasses, ∃ type ∈ types, name ∈ type.mentionedClasses

theorem JavaType.coveredBy_of_mem {shown : JavaType} {types : List JavaType}
    (inside : shown ∈ types) : shown.CoveredBy types :=
  fun _ mentioned => ⟨shown, inside, mentioned⟩

/-- An array mentions the classes of its component and no other. -/
theorem JavaType.mentionedClasses_array (component : JavaType) :
    (JavaType.array component).mentionedClasses = component.mentionedClasses := by
  rw [mentionedClasses, mentions]
  rfl

/-- The types that a rendering writes are covered, if it succeeds. -/
def Rendering.CoveredBy {α : Type} (rendering : Rendering α) (types : List JavaType) : Prop :=
  ∀ answer, rendering.result = .ok answer →
    ∀ shown ∈ shownTypes rendering.emitted, shown.CoveredBy types

namespace Rendering.CoveredBy

variable {α β : Type} {types : List JavaType}

theorem silent {rendering : Rendering α} (quiet : shownTypes rendering.emitted = []) :
    rendering.CoveredBy types := by
  intro _ _ shown written
  rw [quiet] at written
  cases written

theorem type {shown : JavaType} (covered : shown.CoveredBy types) :
    (Rendering.type shown).CoveredBy types := by
  intro _ _ other written
  rw [List.mem_singleton.mp (show other ∈ [shown] from written)]
  exact covered

theorem bind {first : Rendering α} {next : α → Rendering β} (before : first.CoveredBy types)
    (after : ∀ answer, first.result = .ok answer → (next answer).CoveredBy types) :
    Rendering.CoveredBy (first >>= next) types := by
  intro answer done shown written
  obtain ⟨middle, started, finished⟩ := Emission.result_bind_eq_ok.mp done
  rw [Emission.bind_of_ok started, shownTypes_append, List.mem_append] at written
  rcases written with early | late
  · exact before middle started shown early
  · exact after middle started answer finished shown late

theorem of_match {usages : Usages Unit} {rendering : Rendering Unit}
    (inStep : usages.Match rendering) (reported : ∀ type ∈ usages.emitted, type ∈ types) :
    rendering.CoveredBy types := by
  intro _ done shown written
  rw [inStep done] at reported
  exact JavaType.coveredBy_of_mem (reported shown written)

theorem mapError {rendering : Rendering α} {change : MemberError → MemberError}
    (covered : rendering.CoveredBy types) :
    Rendering.CoveredBy (rendering.mapError change) types := by
  intro answer done shown written
  rw [Emission.result_mapError] at done
  exact covered answer (Sequencing.mapError_eq_ok.mp done) shown written

end Rendering.CoveredBy

open Rendering.CoveredBy

/-- The types that are written are covered if those of each part are. -/
theorem Rendering.coveredBy_inherited (types : List JavaType) :
    Inherited fun _ rendering => rendering.CoveredBy types where
  nothing := silent rfl
  plain _ isPlain := silent (shownTypes_of_plain ((Bool.and_true _).trans isPlain))
  bind := bind

/-! ### Fields -/

theorem Field.reported_of_usages {field : Field} (done : field.usages.result = .ok ()) :
    ∃ type, field.type = .ok type ∧ type ∈ field.usages.emitted ∧
      ∀ mark ∈ field.attributes.annotations, ∀ other ∈ mark.usages.emitted,
        other ∈ field.usages.emitted := by
  obtain ⟨type, typed, more⟩ := Emission.result_bind_eq_ok.mp done
  obtain ⟨_, -, others⟩ := Emission.result_bind_eq_ok.mp more
  have emitted : field.usages.emitted =
      type :: field.attributes.annotations.flatMap fun mark => mark.usages.emitted := by
    rw [usages, Emission.bind_of_ok typed, ← Emission.emitted_forEach_of_ok others]
    rfl
  rw [emitted]
  refine ⟨type, typed, List.mem_cons_self, fun mark inside other mentioned => ?_⟩
  exact List.mem_cons_of_mem _ (List.mem_flatMap_of_mem inside mentioned)

theorem Field.render_coveredBy {field : Field} (done : field.usages.result = .ok ())
    (asInterface : Bool) : (field.render asInterface).CoveredBy field.usages.emitted := by
  obtain ⟨type, typed, reported, annotations⟩ := reported_of_usages done
  have parts : field.Parts fun _ rendering => rendering.CoveredBy field.usages.emitted :=
    { keywords := fun _ => silent rfl
      annotations := fun mark inside => of_match mark.usages_match (annotations mark inside)
      typeRead := silent rfl
      type := fun shown known => by
        cases typed.symm.trans known
        exact Rendering.CoveredBy.type (JavaType.coveredBy_of_mem reported)
      nameRead := silent rfl }
  exact mapError (renderDeclaration_inherits parts (Rendering.coveredBy_inherited _) asInterface)

/-! ### Methods -/

/-- Every type that a body writes is covered by those it uses. -/
def StructuredBody.ReportsShown (body : StructuredBody) : Prop :=
  ∀ shown, .type shown ∈ body.calls → shown.CoveredBy body.uses

/-- A type that is still written as a type under local names was written as that type. -/
theorem Call.eq_type_of_withLocalNames {registry : LocalClasses} {call : Call} {shown : JavaType}
    (changed : call.withLocalNames registry = .type shown) : call = .type shown := by
  cases call with
  | type other =>
    unfold withLocalNames at changed
    dsimp only at changed
    split at changed
    · cases changed
    · exact changed
  | _ => exact changed

namespace Attributes

/-- The annotations of one parameter are among those of all. -/
theorem mem_allParameterAnnotations {attributes : Attributes} {position : Nat}
    {mark : AnnotationUse}
    (inside : mark ∈ attributes.parameterAnnotations position) :
    mark ∈ attributes.allParameterAnnotations := by
  have listed : ∀ kind entry, attributes.ofKind? kind = some entry →
      mark ∈ rowAnnotations entry → mark ∈ attributes.allParameterAnnotations :=
    fun _ entry found held => List.mem_flatMap_of_mem (List.mem_of_find?_eq_some found) held
  have row : ∀ rows : List (List AnnotationUse), mark ∈ rows[position]?.getD [] →
      mark ∈ rows.flatten := by
    intro rows held
    cases at_ : rows[position]? with
    | none =>
      rw [at_] at held
      cases held
    | some list =>
      rw [at_] at held
      exact List.mem_flatten_of_mem (List.mem_of_getElem? at_) held
  rw [parameterAnnotations, List.mem_append] at inside
  rcases inside with held | held
  all_goals
    split at held
    · rename_i rows found
      exact listed _ _ found (row rows held)
    · cases held

end Attributes

namespace Method

/-- The parts of a method that are written, with their types among those given. -/
structure Reported (method : Method) (types : List JavaType) : Prop where
  prototype : ∀ type ∈ method.prototype.mentionedTypes, type ∈ types
  annotations : ∀ mark ∈ method.attributes.annotations,
    ∀ type ∈ mark.usages.emitted, type ∈ types
  parameters : ∀ mark ∈ method.attributes.allParameterAnnotations,
    ∀ type ∈ mark.usages.emitted, type ∈ types
  value : ∀ value, method.body.defaultValue? = some value →
    ∀ type ∈ value.usages.emitted, type ∈ types
  body : ∀ body, method.body.analysed? = some body → ∀ type ∈ body.uses, type ∈ types
  throws : ∀ type ∈ method.thrownTypes, type ∈ types

theorem reported_of_usages {method : Method} (done : method.usages.1.result = .ok ()) :
    method.Reported method.usages.1.emitted := by
  refine ⟨fun type inside => ?_, fun mark held type inside => ?_, fun mark held type inside => ?_,
    fun value defaulted type inside => ?_, fun body analysed type inside => ?_,
    fun type inside => ?_⟩ <;> rw [mem_usages_iff done]
  · exact .inl inside
  · exact .inr (.inl ⟨mark, held, inside⟩)
  · exact .inr (.inr (.inl ⟨mark, held, inside⟩))
  · have same : method.defaultUsages = value.usages := by rw [defaultUsages, defaulted]
    exact .inr (.inr (.inr (.inl (same ▸ inside))))
  · have same : method.bodyUses = body.uses := by rw [bodyUses, analysed]
    exact .inr (.inr (.inr (.inr (.inl (same ▸ inside)))))
  · exact .inr (.inr (.inr (.inr (.inr (.inr inside)))))

/-! ### Methods as they are written -/

variable {method : Method} {types : List JavaType}

theorem body_coveredBy (reported : method.Reported types) {body : StructuredBody}
    (known : method.body.analysed? = some body) (reports : body.ReportsShown) :
    Rendering.CoveredBy (.emitAll (body.calls.map (Call.withLocalNames method.localClasses)))
      types := by
  intro _ _ shown inside name mentioned
  obtain ⟨call, held, changed⟩ := List.mem_map.mp (mem_shownTypes.mp inside)
  rw [Call.eq_type_of_withLocalNames changed] at held
  obtain ⟨type, used, names⟩ := reports shown held name mentioned
  exact ⟨type, reported.body body known type used, names⟩

/-- The parts of a method that show types are covered. -/
theorem parts_coveredBy (reported : method.Reported types) {analysed : Option StructuredBody}
    (answers : ∀ body, analysed = some body →
      method.body.analysed? = some body ∧ body.ReportsShown) :
    method.Parts (fun _ rendering => rendering.CoveredBy types) analysed := by
  have declared : ∀ argument ∈ method.prototype.declaredArguments, argument ∈ types := by
    intro argument inside
    refine reported.prototype _ ?_
    simp [Prototype.mentionedTypes, List.mem_of_mem_drop inside]
  have listed : ∀ shown ∈ types, (Rendering.type shown).CoveredBy types := fun shown inside =>
    type (JavaType.coveredBy_of_mem inside)
  constructor
  case toHeadParts =>
    constructor
    case result => exact listed _ (reported.prototype _ (by simp [Prototype.mentionedTypes]))
    case marks =>
      intro position mark held
      have inside := Attributes.mem_allParameterAnnotations held
      exact of_match mark.usages_match (reported.parameters mark inside)
    case arguments => exact fun argument inside => listed argument (declared argument inside)
    case components =>
      intro component inside
      refine type fun name mentioned => ⟨_, declared _ inside, ?_⟩
      rw [JavaType.mentionedClasses_array]
      exact mentioned
  case keywords => exact fun _ => silent rfl
  case annotations =>
    exact fun mark inside => of_match mark.usages_match (reported.annotations mark inside)
  case throws => exact fun thrown inside => listed thrown (reported.throws thrown inside)
  case value =>
    exact fun value defaulted => of_match value.usages_match (reported.value value defaulted)
  case body =>
    intro body analysed
    obtain ⟨known, reports⟩ := answers body analysed
    exact body_coveredBy reported known reports

theorem renderAnalysed_coveredBy (reported : method.Reported types)
    {analysed : Option StructuredBody}
    (answers : ∀ body, analysed = some body → method.body.analysed? = some body ∧ body.ReportsShown)
    (asInterface : Bool) : (method.renderAnalysed asInterface analysed).CoveredBy types :=
  renderAnalysed_inherits (parts_coveredBy reported answers) (Rendering.coveredBy_inherited types)
    asInterface

end Method

/-! ### What is written is reported -/

/-- If writing and reporting both succeed, the classes that are collected from a type that
is written are among those collected from the usages. -/
def Usages.Cover (usages : Usages Unit) (rendering : Rendering Unit) : Prop :=
  rendering.result = .ok () → usages.result = .ok () →
    ∀ shown, Call.type shown ∈ rendering.emitted → ∀ name,
      (UsageSet.ofTypes [shown]).contains name = true →
        (UsageSet.ofTypes usages.emitted).contains name = true

theorem Usages.cover_of_coveredBy {usages : Usages Unit} {rendering : Rendering Unit}
    (covered : usages.result = .ok () → rendering.CoveredBy usages.emitted) :
    usages.Cover rendering := by
  intro written done shown inside name collected
  rw [UsageSet.contains_ofTypes] at collected ⊢
  obtain ⟨type, only, mentioned⟩ := collected
  rw [List.mem_singleton.mp only] at mentioned
  exact covered done () written shown (mem_shownTypes.mpr inside) name mentioned

namespace Method

/-- A method that was written is covered by its usages. -/
theorem render_covered {method : Method} {asInterface : Bool} {analyser : CodeAnalyser}
    (reports : ∀ body, (method.render asInterface analyser).2.body.analysed? = some body →
      body.ReportsShown) :
    Usages.Cover (method.render asInterface analyser).2.usages.1
      (method.render asInterface analyser).1 := by
  have writes := method.writes_render asInterface analyser
  generalize method.render asInterface analyser = written at writes reports ⊢
  refine Usages.cover_of_coveredBy fun done => ?_
  cases writes with
  | failed fails =>
    intro _ failed
    cases failed
  | analysed answers =>
    have kept := analysed?_of_analysis answers
    rw [unmoved_body.afterRendering] at reports
    have usages := unmoved_usages.afterRendering (method.analysis analyser).2 asInterface
    rw [usages] at done ⊢
    refine mapError (renderAnalysed_coveredBy (reported_of_usages done) ?_ _)
    rintro _ ⟨⟩
    exact ⟨kept, reports _ kept⟩
  | codeless absence =>
    have usages := unmoved_usages.afterRendering method asInterface
    rw [usages] at done ⊢
    refine mapError (renderAnalysed_coveredBy (reported_of_usages done) ?_ _)
    rintro _ ⟨⟩

/-- If an analysis changes nothing, a method is covered before it is written as well. -/
theorem render_covered_of_kept {method : Method} {analyser : CodeAnalyser}
    (same : (method.analysis analyser).2 = method)
    (reports : ∀ body, method.body.analysed? = some body → body.ReportsShown)
    (asInterface : Bool) :
    Usages.Cover method.usages.1 (method.render asInterface analyser).1 := by
  have usages := unmoved_usages.render method asInterface analyser
  have body := unmoved_body.render method asInterface analyser
  rw [same] at usages body
  rw [← usages]
  exact render_covered fun known analysed => reports known (body ▸ analysed)

/-- Once a method was written, no analysis changes it. -/
theorem analysis_snd_of_written {method : Method} {asInterface : Bool} {analyser : CodeAnalyser}
    (written : (method.render asInterface analyser).1.result = .ok ()) (other : CodeAnalyser) :
    ((method.render asInterface analyser).2.analysis other).2 =
      (method.render asInterface analyser).2 := by
  have writes := method.writes_render asInterface analyser
  generalize method.render asInterface analyser = result at writes written ⊢
  cases writes with
  | failed fails => cases written
  | analysed answers =>
    have kept := analysed?_of_analysis answers
    have body := unmoved_body.afterRendering (method.analysis analyser).2 asInterface
    rw [← body] at kept
    exact analysis_snd_of_analysed kept other
  | codeless absence =>
    refine analysis_snd_of_absence ?_ other
    rw [unmoved_body.afterRendering]
    exact absence

end Method

/-- What is written as a type is reported as a usage: of a field; of a method without code,
whatever was asked of it before; and of a method that was written, both of what was written
and of what is written again, if its body reports every type that it writes. -/
theorem rendering_is_reported :
    (∀ (field : Field) (asInterface : Bool), field.usages.Cover (field.render asInterface)) ∧
    (∀ (method : Method) (asInterface : Bool) (analyser : CodeAnalyser),
      method.body.code? = none →
        method.usages.1.Cover (method.render asInterface analyser).1) ∧
    (∀ (method : Method) (asInterface : Bool) (analyser : CodeAnalyser) (later : Method),
      (method.render asInterface analyser).1.result = .ok () →
      (method.render asInterface analyser).2 = later →
      (∀ body, later.body.analysed? = some body → body.ReportsShown) →
        later.usages.1.Cover (method.render asInterface analyser).1 ∧
        ∀ (again : Bool) (other : CodeAnalyser),
          later.usages.1.Cover (later.render again other).1) := by
  refine ⟨fun field asInterface => ?_, fun method asInterface analyser absence => ?_, ?_⟩
  · exact Usages.cover_of_coveredBy fun done => Field.render_coveredBy done asInterface
  · refine Method.render_covered_of_kept (Method.analysis_snd_of_absence absence analyser) ?_ _
    rw [MethodBody.analysed?_of_absence absence]
    rintro _ ⟨⟩
  · rintro method asInterface analyser _ written rfl reports
    refine ⟨Method.render_covered reports, fun again other => ?_⟩
    exact Method.render_covered_of_kept (Method.analysis_snd_of_written written other) reports _

/-- An element of an annotation interface with a default value, and with all else that is
written of a method as a type. -/
def elementMethod : Method where
  record := ⟨0x0481, 1, 2, .ofList [.visibleAnnotations [⟨"Lp/Mark;", []⟩],
    .invisibleParameterAnnotations [[⟨"Lp/Note;", []⟩]], .exceptions ["p/Fault"]], 60⟩
  name := "open"
  descriptor := "([Lp/B;)Lp/C;"
  flags := .ofBits 0x0481
  owner := ⟨⟨"p/A"⟩, .ofBits 1, false⟩
  body := .absentWithDefault (.classLiteral "Lp/D;")
  nameTable := none
  prototype := ⟨"open", ⟨"p/A"⟩, ⟨[], [.array (.ofClass ⟨"p/B"⟩)], .ofClass ⟨"p/C"⟩, []⟩, none,
    true, true, false, .notConstructor, none⟩
  hidden := .visible
  isOverride := false
  localClasses := .empty
  computedThrows := none
  comments := none

/-- An analyser whose body writes a class that it uses. -/
def writingClass : CodeAnalyser := fun _ registry =>
  (.ok ⟨[.print "new ", .type (.ofClass ⟨"p/L"⟩)], [.ofClass ⟨"p/L"⟩]⟩, registry)

theorem rendering_is_reported_element :
    elementMethod.body.code? = none ∧
    (elementMethod.render false Method.givingUp).1.result = .ok () ∧
    elementMethod.usages.1.result = .ok () ∧
    shownTypes (elementMethod.render false Method.givingUp).1.emitted =
      ["p/Mark", "p/C", "p/Note", "p/B", "p/Fault", "p/D"].map (fun name => .ofClass ⟨name⟩) ∧
    (UsageSet.ofTypes elementMethod.usages.1.emitted).contains ⟨"p/Fault"⟩ = true ∧
    (Method.returnMethod.render true writingClass).1.result = .ok () ∧
    (UsageSet.ofTypes (Method.returnMethod.render true writingClass).2.usages.1.emitted).contains
      ⟨"p/L"⟩ = true := by
  have written : (elementMethod.render false Method.givingUp).1.result = .ok () := by cbv
  have done : elementMethod.usages.1.result = .ok () := by cbv
  have shown : shownTypes (elementMethod.render false Method.givingUp).1.emitted =
      ["p/Mark", "p/C", "p/Note", "p/B", "p/Fault", "p/D"].map (fun name => .ofClass ⟨name⟩) := by
    cbv
  have fault : .ofClass ⟨"p/Fault"⟩ ∈
      shownTypes (elementMethod.render false Method.givingUp).1.emitted := by
    rw [shown]
    simp
  have analysed : (Method.returnMethod.render true writingClass).1.result = .ok () := by cbv
  have answers : (Method.returnMethod.render true writingClass).2.body.analysed? =
      some ⟨[.print "new ", .type (.ofClass ⟨"p/L"⟩)], [.ofClass ⟨"p/L"⟩]⟩ := by cbv
  have reports : ∀ body, (Method.returnMethod.render true writingClass).2.body.analysed? =
      some body → body.ReportsShown := by
    rw [answers]
    rintro _ ⟨⟩ other inside
    refine JavaType.coveredBy_of_mem ?_
    simpa using inside
  have inside : shownTypes (Method.returnMethod.render true writingClass).1.emitted =
      [.primitive .void, .ofClass ⟨"p/L"⟩] := by cbv
  have within : .ofClass ⟨"p/L"⟩ ∈
      shownTypes (Method.returnMethod.render true writingClass).1.emitted := by
    rw [inside]
    simp
  obtain ⟨-, elements, bodies⟩ := rendering_is_reported
  refine ⟨rfl, written, done, shown, ?_, analysed, ?_⟩
  · exact elements elementMethod false Method.givingUp rfl written done _
      (mem_shownTypes.mp fault) _ (by cbv)
  · exact (bodies Method.returnMethod true writingClass _ analysed rfl reports).1 analysed
      (by cbv) _ (mem_shownTypes.mp within) _ (by cbv)

end ClassMembers
