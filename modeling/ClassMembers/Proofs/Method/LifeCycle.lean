/-
This file proves how the body of a method lives. A method that was made has code that
is not analysed yet, or has no code. Code is analysed until an analysis succeeds, and
that one is kept: no analyser is asked again. Once the code was released only its header
is left, every analysis fails, and so does the writing of the method, before anything is
written. A method without code is never analysed, and nothing changes its body. All this
holds whatever is done with the method in between, and in whatever order.
-/

import ClassMembers.Proofs.Method.History
import Mathlib

namespace ClassMembers

open Sequencing

/-! ### The forms of a body -/

/-- The form of a body, without what it holds. -/
inductive BodyForm where
  | absent
  | absentWithDefault
  | present
  | released
  deriving DecidableEq

namespace MethodBody

def form : MethodBody → BodyForm
  | absent => .absent
  | absentWithDefault _ => .absentWithDefault
  | present _ _ => .present
  | released _ => .released

theorem snd_takeFrom (attributes : Attributes) :
    (takeFrom attributes).2 = attributes.erase AttributeKind.code.name := by
  dsimp only [takeFrom]
  split
  · rfl
  · split <;> rfl

/-- The body of a method whose attributes hold code. -/
theorem fst_takeFrom_of_code {attributes : Attributes} {code : Code}
    (carried : attributes.code? = some code) : (takeFrom attributes).1 = present code none := by
  dsimp only [takeFrom]
  rw [carried]

/-- The body that is taken from attributes was never analysed, and never released. -/
theorem takeFrom_fresh (attributes : Attributes) :
    (∃ code, (takeFrom attributes).1 = present code none) ∨
      (takeFrom attributes).1.code? = none ∧ (takeFrom attributes).1.isReleased = false := by
  dsimp only [takeFrom]
  cases attributes.code? with
  | some code => exact .inl ⟨code, rfl⟩
  | none =>
    refine .inr ?_
    cases (attributes.erase AttributeKind.code.name).annotationDefault? with
    | some value => exact ⟨rfl, rfl⟩
    | none => exact ⟨rfl, rfl⟩

theorem hasCode_of_absence {body : MethodBody} (absence : body.code? = none) :
    body.hasCode = false := by
  cases body with
  | present code analysed => cases absence
  | _ => rfl

theorem analysed?_of_absence {body : MethodBody} (absence : body.code? = none) :
    body.analysed? = none := by
  cases body with
  | present code analysed => cases absence
  | _ => rfl

theorem exists_present_of_analysed {body : MethodBody} {analysed : StructuredBody}
    (known : body.analysed? = some analysed) : ∃ code, body = present code (some analysed) := by
  cases body with
  | present code found => exact ⟨code, congrArg (present code) known⟩
  | _ => cases known

/-- Where there is no code and never was, there is nothing to analyse. -/
theorem analysis_eq_noCode {body : MethodBody} (absence : body.code? = none)
    (kept : body.isReleased = false) (analyser : CodeAnalyser) (registry : LocalClasses)
    (name : String) :
    body.analysis analyser registry name = (.error (.noCode name), body, registry) := by
  cases body with
  | present code analysed => cases absence
  | released code => cases kept
  | _ => rfl

end MethodBody

namespace Method

/-- The form changes only when present code is released. -/
theorem form_after (method : Method) (operation : Operation) :
    (method.after operation).body.form = method.body.form ∨
      operation = .releaseCode ∧ method.body.form = .present ∧
        (method.after operation).body.form = .released := by
  cases holds : method.body with
  | present code analysed =>
    by_cases drops : operation = .releaseCode
    · refine .inr ⟨drops, rfl, ?_⟩
      rw [drops]
      show method.body.release.form = _
      rw [holds]
      rfl
    · rw [body_after_of_present holds drops]
      exact .inl rfl
  | _ =>
    rw [body_after_of_absence (by rw [holds]; rfl), holds]
    exact .inl rfl

/-- A method begins with the body that is taken from its attributes, and has not computed the
thrown types. -/
theorem begins_of_ofRecord {method : Method} {record : Record} {pool : Pool}
    {owner : DeclaringClass} {options : MemberOptions}
    (made : Method.ofRecord record pool owner options = .ok method) :
    method.body = (MethodBody.takeFrom record.attributes).1 ∧ method.computedThrows = none := by
  obtain ⟨name, -, made⟩ := except_bind_eq_ok.mp made
  obtain ⟨descriptor, -, made⟩ := except_bind_eq_ok.mp (mapError_eq_ok.mp made)
  obtain ⟨prototype, -, made⟩ := except_bind_eq_ok.mp made
  cases made
  exact ⟨rfl, rfl⟩

theorem Built.begins {method : Method} (built : method.Built) :
    (∃ attributes, method.body = (MethodBody.takeFrom attributes).1) ∧
      method.computedThrows = none := by
  cases built with
  | ofRecord made => exact (begins_of_ofRecord made).imp_left (⟨_, ·⟩)
  | ofBytes made =>
    obtain ⟨record, -, made⟩ := except_bind_eq_ok.mp made
    exact (begins_of_ofRecord made).imp_left (⟨_, ·⟩)

theorem Built.fresh {method : Method} (built : method.Built) :
    (∃ code, method.body = .present code none) ∨
      method.body.code? = none ∧ method.body.isReleased = false := by
  obtain ⟨⟨attributes, holds⟩, -⟩ := built.begins
  rw [holds]
  exact MethodBody.takeFrom_fresh attributes

/-! ### Analysers that are not asked -/

/-- Whatever the analyser, an operation that takes one does the same and answers the
same. -/
def IgnoresAnalysers (method : Method) : Prop :=
  ∀ first second : CodeAnalyser,
    method.analysis first = method.analysis second ∧
    method.analyse first = method.analyse second ∧
    ∀ asInterface, method.render asInterface first = method.render asInterface second

/-- The other operations know the analyser only through the analysis. -/
theorem ignoresAnalysers_of_analysis {method : Method}
    {result : Except MemberError StructuredBody × Method}
    (same : ∀ analyser, method.analysis analyser = result) : method.IgnoresAnalysers := by
  intro first second
  refine ⟨(same first).trans (same second).symm, ?_, fun asInterface => ?_⟩
  · rw [analyse, analyse, same, same]
  · rw [render, render, same, same]

theorem analysis_of_kept {method : Method} {analyser : CodeAnalyser}
    {answer : Except MemberError StructuredBody}
    (kept : method.body.analysis analyser method.localClasses method.name =
      (answer, method.body, method.localClasses)) :
    method.analysis analyser = (answer.mapError (.naming method.text), method) := by
  rw [analysis, kept]

/-! ### Code that is not analysed yet -/

/-- Code that is not analysed is handed to the analyser, with the local classes
registered so far. The body that this answers with is kept; a failure is not. -/
structure Consults (method : Method) (code : Code) : Prop where
  holds : method.body = .present code none
  uncached : method.body.analysed? = none
  answers : ∀ analyser, method.analysis analyser =
    ((analyser code method.localClasses).1.mapError (.naming method.text),
      { method with
        body := .present code (analyser code method.localClasses).1.toOption
        localClasses := (analyser code method.localClasses).2 })

theorem consults_of_body {method : Method} {code : Code}
    (holds : method.body = .present code none) : method.Consults code := by
  refine ⟨holds, by rw [holds]; rfl, fun analyser => ?_⟩
  rw [analysis, holds, MethodBody.analysis]
  obtain ⟨answer, found⟩ := analyser code method.localClasses
  cases answer <;> rfl

/-! ### Code that is analysed -/

/-- The analysis that is kept is the answer to every request. -/
structure Keeps (method : Method) (code : Code) (body : StructuredBody) : Prop where
  holds : method.body = .present code (some body)
  cached : method.body.analysed? = some body
  answers : ∀ analyser, method.analysis analyser = (.ok body, method)
  ignores : method.IgnoresAnalysers

theorem keeps_of_body {method : Method} {code : Code} {body : StructuredBody}
    (holds : method.body = .present code (some body)) : method.Keeps code body := by
  have answers : ∀ analyser, method.analysis analyser = (.ok body, method) := by
    intro analyser
    have kept : method.body.analysis analyser method.localClasses method.name =
        (.ok body, method.body, method.localClasses) := by
      rw [holds]
      rfl
    exact analysis_of_kept kept
  exact ⟨holds, by rw [holds]; rfl, answers, ignoresAnalysers_of_analysis answers⟩

/-- What an analysis answers with is kept. -/
theorem analysed?_of_analysis {method : Method} {analyser : CodeAnalyser} {body : StructuredBody}
    (answers : (method.analysis analyser).1 = .ok body) :
    (method.analysis analyser).2.body.analysed? = some body := by
  cases holds : method.body with
  | present code analysed =>
    cases analysed with
    | some known =>
      have kept := keeps_of_body holds
      rw [kept.answers] at answers ⊢
      cases answers
      exact kept.cached
    | none =>
      rw [(consults_of_body holds).answers] at answers ⊢
      show (analyser code method.localClasses).1.toOption = some body
      rw [Sequencing.mapError_eq_ok.mp answers]
      rfl
  | _ =>
    rw [analysis, holds, MethodBody.analysis] at answers
    cases answers

theorem analysis_snd_of_analysed {method : Method} {body : StructuredBody}
    (analysed : method.body.analysed? = some body) (analyser : CodeAnalyser) :
    (method.analysis analyser).2 = method := by
  obtain ⟨code, holds⟩ := MethodBody.exists_present_of_analysed analysed
  rw [(keeps_of_body holds).answers]

/-! ### Code that is not there -/

/-- Every analysis fails, in the same way, and changes nothing. -/
def Refuses (method : Method) (root : MemberError) : Prop :=
  ∃ fault, fault.root = root ∧ ∀ analyser, method.analysis analyser = (.error fault, method)

theorem Refuses.ignores {method : Method} {root : MemberError} (refuses : method.Refuses root) :
    method.IgnoresAnalysers := by
  obtain ⟨fault, -, fails⟩ := refuses
  exact ignoresAnalysers_of_analysis fails

theorem refuses_of_kept {method : Method} {fault : MemberError} (innermost : fault.root = fault)
    (kept : ∀ analyser, method.body.analysis analyser method.localClasses method.name =
      (.error fault, method.body, method.localClasses)) : method.Refuses fault :=
  ⟨fault.naming method.text, (MemberError.root_naming _ _).trans innermost,
    fun analyser => analysis_of_kept (kept analyser)⟩

/-- What was released of code is its header, and what the method then refuses. -/
structure HasReleased (method : Method) (code : Code) (name : String) : Prop where
  header : ∃ header, method.body = .released header ∧
    header.maxStack = code.maxStack ∧ header.maxLocals = code.maxLocals ∧
    header.handlers = code.handlers ∧ header.bytes = [] ∧ header.attributes = .empty
  code : method.body.code? = none
  refuses : method.Refuses (.codeReleased name)
  silent : ∃ fault, fault.root = .codeReleased name ∧ ∀ asInterface analyser,
    method.render asInterface analyser = (⟨[], .error fault⟩, method)
  ignores : method.IgnoresAnalysers

theorem hasReleased_of_body {method : Method} {code : Code}
    (holds : method.body = .released code.release) : method.HasReleased code method.name := by
  have refuses : method.Refuses (.codeReleased method.name) :=
    refuses_of_kept rfl fun analyser => by rw [holds]; rfl
  refine ⟨⟨code.release, holds, rfl, rfl, rfl, rfl, rfl⟩, by rw [holds]; rfl, refuses, ?_,
    refuses.ignores⟩
  obtain ⟨fault, root, fails⟩ := refuses
  refine ⟨fault, root, fun asInterface analyser => ?_⟩
  have needs : method.needsAnalysis = true := by
    rw [needsAnalysis, holds]
    rfl
  rw [render, if_pos needs, fails]
  rfl

/-- Where there is no code, nothing is analysed. -/
theorem analyse_of_absence {method : Method} (absence : method.body.code? = none)
    (analyser : CodeAnalyser) : method.analyse analyser = (.ok (), method.withNames) := by
  rw [analyse, MethodBody.hasCode_of_absence absence]
  rfl

/-- There is no code and never was: there is nothing to analyse, which is a failure only
if the analysis itself is asked for. -/
structure LacksCode (method : Method) (name : String) : Prop where
  code : method.body.code? = none
  refuses : method.Refuses (.noCode name)
  defers : ∀ analyser, method.analyse analyser = (.ok (), method.withNames)
  ignores : method.IgnoresAnalysers

theorem lacksCode_of_body {method : Method} (absence : method.body.code? = none)
    (kept : method.body.isReleased = false) : method.LacksCode method.name := by
  have refuses : method.Refuses (.noCode method.name) :=
    refuses_of_kept rfl fun analyser => MethodBody.analysis_eq_noCode absence kept analyser _ _
  exact ⟨absence, refuses, analyse_of_absence absence, refuses.ignores⟩

/-! ### The whole life -/

/-- After whatever was done with a method that was made, its body is what its life so far
has made of it. An operation changes the form of a body only if it releases code that is
present, and a release leaves no attributes. Code that was not released is handed to every
analyser until an analysis succeeds, and that one is kept whatever comes later. Code that
was released is refused to every analyser. A body without code stays as it is. -/
theorem built_lives {method : Method} (built : method.Built) (history : List Operation) :
    (∀ operation,
      ((method.afterAll history).after operation).body.form = (method.afterAll history).body.form ∨
        operation = .releaseCode ∧ (method.afterAll history).body.form = .present ∧
          ((method.afterAll history).after operation).body.form = .released) ∧
    (.releaseCode ∈ history → (method.afterAll history).attributes = .empty) ∧
    ((∃ code, method.body = .present code none ∧
        (.releaseCode ∉ history →
          (method.firstAnalysis? history = none → (method.afterAll history).Consults code) ∧
          ∀ body, method.firstAnalysis? history = some body → ∀ later, .releaseCode ∉ later →
            (method.afterAll (history ++ later)).Keeps code body) ∧
        (.releaseCode ∈ history → (method.afterAll history).HasReleased code method.name)) ∨
      (method.afterAll history).body = method.body ∧
        (method.afterAll history).LacksCode method.name) := by
  refine ⟨form_after _, attributes_afterAll_of_release method, ?_⟩
  rcases built.fresh with ⟨code, holds⟩ | ⟨absence, kept⟩
  · refine .inl ⟨code, holds, fun keeps => ⟨fun uncached => ?_, ?_⟩, fun drops => ?_⟩
    · refine consults_of_body ?_
      rw [body_afterAll_of_present holds keeps, uncached]
      rfl
    · intro body first later keepsLater
      have now : (method.afterAll history).body = .present code (some body) := by
        rw [body_afterAll_of_present holds keeps, first]
        rfl
      refine keeps_of_body ?_
      rw [afterAll_append, body_afterAll_of_present now keepsLater]
      rfl
    · rw [← name_afterAll method history]
      exact hasReleased_of_body (body_afterAll_of_release holds drops)
  · have same := body_afterAll_of_absence absence history
    refine .inr ⟨same, ?_⟩
    rw [← name_afterAll method history]
    exact lacksCode_of_body (by rw [same]; exact absence) (by rw [same]; exact kept)

/-- The code of a method that only returns. -/
def returnCode : Code := ⟨1, 1, [0xb1], [], .empty, false⟩

def returnRecord : Record := ⟨1, 1, 2, .ofList [.code returnCode], 27⟩

/-- The method of this code. -/
def returnMethod : Method where
  record := { returnRecord with attributes := .empty }
  name := "run"
  descriptor := "()V"
  flags := .ofBits 1
  owner := ⟨⟨"p/A"⟩, .ofBits 1, false⟩
  body := .present returnCode none
  nameTable := none
  prototype := ⟨"run", ⟨"p/A"⟩, ⟨[], [], .primitive .void, []⟩, none, true, false, false,
    .notConstructor, none⟩
  hidden := .visible
  isOverride := false
  localClasses := .empty
  computedThrows := none
  comments := none

/-- An analyser that fails, and one that succeeds. -/
def givingUp : CodeAnalyser := fun _ registry => (.error (.analysis "unreachable block"), registry)

def findingNothing : CodeAnalyser := fun _ registry => (.ok ⟨[], []⟩, registry)

theorem built_lives_return :
    Method.ofRecord returnRecord ⟨[.utf8 "run", .utf8 "()V"]⟩ ⟨⟨"p/A"⟩, .ofBits 1, false⟩ {} =
      .ok returnMethod ∧
    (returnMethod.afterAll ([.analysis givingUp, .render false findingNothing] ++
      [.analysis givingUp])).Keeps returnCode ⟨[], []⟩ ∧
    (returnMethod.afterAll [.analysis findingNothing, .releaseCode]).HasReleased returnCode
      "run" := by
  have made : Method.ofRecord returnRecord ⟨[.utf8 "run", .utf8 "()V"]⟩
      ⟨⟨"p/A"⟩, .ofBits 1, false⟩ {} = .ok returnMethod := by cbv
  refine ⟨made, ?_, ?_⟩
  · obtain ⟨-, -, ⟨code, holds, present, -⟩ | ⟨same, lacks⟩⟩ :=
      built_lives (.ofRecord made) [.analysis givingUp, .render false findingNothing]
    · cases holds
      exact (present (by simp)).2 _ rfl [.analysis givingUp] (by simp)
    · cases same ▸ lacks.code
  · obtain ⟨-, -, ⟨code, holds, -, released⟩ | ⟨same, lacks⟩⟩ :=
      built_lives (.ofRecord made) [.analysis findingNothing, .releaseCode]
    · cases holds
      exact released (by simp)
    · cases same ▸ lacks.code

end Method

end ClassMembers
