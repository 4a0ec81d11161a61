/-
This file proves that it does not show in what is written of a method whether it was asked
anything before. The names of the parameters, the thrown types and the analysis are computed
when they are first asked for, and a failed analysis is made again, with the local classes
that it found already. A method is compared with itself once all its names and thrown types
were asked for: writing sees no difference, and every question leaves that method as it was
or takes it to where one analysis takes it. A second analysis then changes nothing, as long
as the analyser goes by the code alone and registers the same classes each time.
-/

import ClassMembers.Proofs.LocalClasses
import ClassMembers.Proofs.Method.LifeCycle

namespace ClassMembers

/-! ### Analysers that go by the code -/

/-- An analyser gives the same answer to the same code, and does nothing with the registry
but register the same classes in it. -/
def CodeAnalyser.Steady (analyser : CodeAnalyser) : Prop :=
  ∃ (answer : Code → Except MemberError StructuredBody)
    (found : Code → List (JavaType × Option String)),
    ∀ code registry, analyser code registry = (answer code, registry.registerAll (found code))

/-- An analysis that is made again answers the same and changes nothing. -/
theorem MethodBody.analysis_analysis {analyser : CodeAnalyser} (steady : analyser.Steady)
    (body : MethodBody) (registry : LocalClasses) (name : String) :
    (body.analysis analyser registry name).2.1.analysis analyser
        (body.analysis analyser registry name).2.2 name =
      body.analysis analyser registry name := by
  obtain ⟨answer, found, same⟩ := steady
  cases body with
  | present code analysed =>
    cases analysed with
    | some body => rfl
    | none =>
      have opened := same code registry
      cases answered : answer code with
      | ok body =>
        rw [answered] at opened
        simp only [analysis, opened]
      | error fault =>
        have again := same code (registry.registerAll (found code))
        rw [answered] at opened again
        simp only [analysis, opened, again, LocalClasses.registerAll_registerAll]
  | _ => rfl

namespace Method

theorem analysis_analysis {analyser : CodeAnalyser} (steady : analyser.Steady) (method : Method) :
    (method.analysis analyser).2.analysis analyser = method.analysis analyser := by
  have again := MethodBody.analysis_analysis steady method.body method.localClasses method.name
  rw [analysis, analysis]
  dsimp only
  rw [again]
  rfl

/-! ### A method of which all was asked but the analysis -/

/-- The method once its names and its thrown types were asked for. -/
def asked (method : Method) : Method := method.withNames.withThrows

theorem unmoved_asked : Unmoved asked := ⟨fun _ => rfl, fun _ => rfl⟩

theorem analysis_asked (method : Method) (analyser : CodeAnalyser) :
    method.asked.analysis analyser =
      ((method.analysis analyser).1, (method.analysis analyser).2.asked) := rfl

theorem snd_analysis_asked (method : Method) (analyser : CodeAnalyser) :
    (method.analysis analyser).2.asked = (method.asked.analysis analyser).2 := rfl

theorem renderAnalysed_asked (method : Method) (asInterface : Bool)
    (analysed : Option StructuredBody) :
    method.asked.renderAnalysed asInterface analysed =
      method.renderAnalysed asInterface analysed := by
  have parameters : method.asked.renderParameters = method.renderParameters :=
    renderParametersFrom_congr (by rfl) _ _
  unfold renderAnalysed renderSignature
  rw [parameters]
  rfl

/-- Writing does not show what was asked before. -/
theorem render_asked (method : Method) (asInterface : Bool) (analyser : CodeAnalyser) :
    (method.asked.render asInterface analyser).1 = (method.render asInterface analyser).1 := by
  have needs : method.asked.needsAnalysis = method.needsAnalysis := rfl
  unfold render
  rw [needs, analysis_asked]
  cases method.needsAnalysis with
  | true =>
    obtain ⟨answer, later⟩ := method.analysis analyser
    cases answer with
    | ok body =>
      simp only [renderAnalysed_asked]
      rfl
    | error fault => rfl
  | false =>
    simp only [renderAnalysed_asked]
    rfl

/-- Writing does not show that the analysis was asked for before. -/
theorem render_analysis {analyser : CodeAnalyser} (steady : analyser.Steady) (method : Method)
    (asInterface : Bool) :
    ((method.analysis analyser).2.render asInterface analyser).1 =
      (method.render asInterface analyser).1 := by
  cases holds : method.body with
  | present code analysed =>
    have body : (method.analysis analyser).2.body =
        .present code (analysed.or (analyser code method.localClasses).1.toOption) := by
      show (method.body.analysis analyser method.localClasses method.name).2.1 = _
      rw [holds, MethodBody.analysis_present]
    have needs : method.needsAnalysis = true := by
      rw [needsAnalysis, holds]
      rfl
    have needsAgain : (method.analysis analyser).2.needsAnalysis = true := by
      rw [needsAnalysis, body]
      rfl
    rw [render, render, if_pos needs, if_pos needsAgain, analysis_analysis steady]
  | _ => rw [analysis_snd_of_absence (by rw [holds]; rfl)]

/-! ### Questions -/

/-- A question whose answer may be deferred, or the writing of the method. -/
inductive Query where
  | analysis
  | analyse
  | render (asInterface : Bool)
  | parameterNames
  | thrownTypes
  | usages

/-- The operation that a question is, with an analyser for those that take one. -/
def Query.operation (analyser : CodeAnalyser) : Query → Operation
  | analysis => .analysis analyser
  | analyse => .analyse analyser
  | render asInterface => .render asInterface analyser
  | parameterNames => .parameterNames
  | thrownTypes => .thrownTypes
  | usages => .usages

/-- Whether a question asks for the analysis. -/
def Query.asksAnalysis : Query → Bool
  | analysis | analyse | render _ => true
  | parameterNames | thrownTypes | usages => false

/-- A question takes a method to where the analysis takes it, or nowhere. -/
theorem asked_after (method : Method) (analyser : CodeAnalyser) (query : Query) :
    (method.after (query.operation analyser)).asked =
      if query.asksAnalysis then (method.analysis analyser).2.asked else method.asked := by
  cases query with
  | analysis => rfl
  | analyse => exact unmoved_asked.analyse method analyser
  | render asInterface => exact unmoved_asked.render method asInterface analyser
  | parameterNames => rfl
  | thrownTypes => rfl
  | usages => exact unmoved_asked.usages method

/-- So do questions in a row: the analysis is made as often as it is asked for, but after the
first time that changes nothing. -/
theorem asked_afterAll {analyser : CodeAnalyser} (steady : analyser.Steady) (method : Method)
    (queries : List Query) :
    (method.afterAll (queries.map (Query.operation analyser))).asked =
      if queries.any Query.asksAnalysis then (method.analysis analyser).2.asked
      else method.asked := by
  induction queries generalizing method with
  | nil => rfl
  | cons query rest hypothesis =>
    have step := asked_after method analyser query
    have analysed : ((method.after (query.operation analyser)).analysis analyser).2.asked =
        (method.analysis analyser).2.asked := by
      rw [snd_analysis_asked, step]
      split
      · rw [← snd_analysis_asked, analysis_analysis steady]
      · rfl
    rw [List.map_cons, afterAll_cons, hypothesis, List.any_cons, analysed, step]
    cases query.asksAnalysis <;> simp

/-- It does not show in what is written of a method what it was asked before, in whatever order,
and with whatever success, by an analyser that is steady. Once an analysis has succeeded, it
does not show by which analyser the method is written either. -/
theorem render_after_queries {analyser : CodeAnalyser} (steady : analyser.Steady) (method : Method)
    (queries : List Query) (asInterface : Bool) :
    let later := method.afterAll (queries.map (Query.operation analyser))
    (later.render asInterface analyser).1 = (method.render asInterface analyser).1 ∧
    (queries.any Query.asksAnalysis = true → ∀ body, (method.analysis analyser).1 = .ok body →
      later.body.analysed? = some body) ∧
    (∀ body, later.body.analysed? = some body → ∀ other,
      (later.render asInterface other).1 = (method.render asInterface analyser).1) := by
  intro later
  have asked := asked_afterAll steady method queries
  have written : (later.render asInterface analyser).1 = (method.render asInterface analyser).1 := by
    rw [← render_asked]
    show (later.asked.render asInterface analyser).1 = _
    rw [asked]
    split
    · rw [render_asked, render_analysis steady]
    · rw [render_asked]
  refine ⟨written, fun asks body answers => ?_, fun body analysed other => ?_⟩
  · rw [if_pos asks] at asked
    have kept : later.body = (method.analysis analyser).2.body := (congrArg Method.body asked :)
    rw [kept]
    exact analysed?_of_analysis answers
  · obtain ⟨code, holds⟩ := MethodBody.exists_present_of_analysed analysed
    rw [((keeps_of_body holds).ignores other analyser).2.2 asInterface]
    exact written

/-- An analyser that finds a local class and writes it, and one that finds it and gives up. -/
def namingLocal : CodeAnalyser := fun _ registry =>
  (.ok ⟨[.print "new ", .type (.ofClass ⟨"p/A$1L"⟩)], [.ofClass ⟨"p/A$1L"⟩]⟩,
    registry.registerAll [(.ofClass ⟨"p/A$1L"⟩, some "L")])

def losingLocal : CodeAnalyser := fun _ registry =>
  (.error (.analysis "unreachable block"),
    registry.registerAll [(.ofClass ⟨"p/A$1L"⟩, some "L")])

theorem render_after_queries_local :
    namingLocal.Steady ∧ losingLocal.Steady ∧
    renderedText (returnMethod.render false namingLocal).1.emitted = "public void run() new L" ∧
    ((returnMethod.afterAll ([.usages, .analyse, .parameterNames, .render true].map
      (Query.operation namingLocal))).render false givingUp).1 =
        (returnMethod.render false namingLocal).1 ∧
    ((returnMethod.afterAll ([.analysis, .thrownTypes, .render true].map
      (Query.operation losingLocal))).render false losingLocal).1 =
        (returnMethod.render false losingLocal).1 := by
  have naming : namingLocal.Steady := ⟨_, _, fun _ _ => rfl⟩
  have losing : losingLocal.Steady := ⟨_, _, fun _ _ => rfl⟩
  obtain ⟨-, analysed, others⟩ := render_after_queries naming returnMethod
    [.usages, .analyse, .parameterNames, .render true] false
  refine ⟨naming, losing, by cbv, others _ (analysed rfl _ rfl) givingUp, ?_⟩
  exact (render_after_queries losing returnMethod [.analysis, .thrownTypes, .render true] false).1

end Method

end ClassMembers
