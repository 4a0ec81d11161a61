/-
This file proves which types a method is said to throw after whatever was done with it. They
are computed when they are first looked at: by the question for them, by a collection of usages
that gets that far, or by writing the method, if that gets behind the parameters and there is
the attribute for exceptions. What was computed once is kept. But the release of the code takes
the attribute away, and if nothing has looked at the thrown types before, there are none from
then on. Apart from that, they are those of the method as it was made.
-/

import ClassMembers.Proofs.Method.LifeCycle

namespace ClassMembers.Method

/-! ### Looking at the thrown types -/

/-- Whether writing the signature gets as far as the thrown types. -/
def reachesThrows (method : Method) (asInterface : Bool) : Bool :=
  method.hasSignature && (method.renderPreamble asInterface).succeeds &&
    (method.renderParameters.succeeds && method.declaresExceptions)

/-- Whether writing the method gets as far as the thrown types: code has to be analysed
before. -/
def writesThrows (method : Method) (asInterface : Bool) (analyser : CodeAnalyser) : Bool :=
  if method.needsAnalysis then
    match method.analysis analyser with
    | (.ok _, method) => method.reachesThrows asInterface
    | (.error _, _) => false
  else method.reachesThrows asInterface

/-- Whether an operation looks at the thrown types. -/
def looksAtThrows (method : Method) : Operation → Bool
  | .thrownTypes => true
  | .usages => method.usagesBeforeThrows.succeeds
  | .render asInterface analyser => method.writesThrows asInterface analyser
  | _ => false

/-- Whether the code is released before an operation has looked at the thrown types. -/
def losesThrows (method : Method) : List Operation → Bool
  | [] => false
  | .releaseCode :: _ => true
  | operation :: rest =>
    !method.looksAtThrows operation && (method.after operation).losesThrows rest

theorem unmoved_thrownTypes : Unmoved thrownTypes := ⟨fun _ => rfl, fun _ => rfl⟩

/-- Short of the release of the code, an operation does not change the thrown types. -/
theorem thrownTypes_after (method : Method) {operation : Operation}
    (keeps : operation ≠ .releaseCode) :
    (method.after operation).thrownTypes = method.thrownTypes := by
  cases operation with
  | analyse analyser => exact unmoved_thrownTypes.analyse method analyser
  | render asInterface analyser => exact unmoved_thrownTypes.render method asInterface analyser
  | releaseCode => exact absurd rfl keeps
  | usages => exact unmoved_thrownTypes.usages method
  | markLocalClass type suggestion =>
    rw [after_markLocalClass]
    cases method.localClasses.register type suggestion <;> rfl
  | _ => rfl

/-- Released, a method throws what was computed, and otherwise nothing. -/
theorem thrownTypes_releaseCode (method : Method) :
    method.releaseCode.thrownTypes = method.computedThrows.getD [] := by
  have declared : method.releaseCode.declaredThrows = [] := rfl
  have disagree : method.releaseCode.throwsAgree = false := by
    rw [throwsAgree, declared]
    cases method.releaseCode.prototype.signature.throws <;> rfl
  have nothing : method.releaseCode.throwsNow = [] := by
    rw [throwsNow, disagree, declared]
    rfl
  show method.computedThrows.getD method.releaseCode.throwsNow = _
  rw [nothing]

/-! ### What was computed -/

theorem computedThrows_afterRendering (method : Method) (asInterface : Bool) :
    (method.afterRendering asInterface).computedThrows =
      if method.reachesThrows asInterface then some method.thrownTypes
      else method.computedThrows := by
  unfold afterRendering reachesThrows
  cases method.hasSignature && (method.renderPreamble asInterface).succeeds with
  | true => cases method.renderParameters.succeeds && method.declaresExceptions <;> rfl
  | false => rfl

theorem computedThrows_render (method : Method) (asInterface : Bool) (analyser : CodeAnalyser) :
    (method.render asInterface analyser).2.computedThrows =
      if method.writesThrows asInterface analyser then some method.thrownTypes
      else method.computedThrows := by
  have same : (method.analysis analyser).2.computedThrows = method.computedThrows := rfl
  have throws : (method.analysis analyser).2.thrownTypes = method.thrownTypes := rfl
  unfold render writesThrows
  cases method.needsAnalysis with
  | true =>
    generalize method.analysis analyser = analysed at same throws
    obtain ⟨answer, later⟩ := analysed
    cases answer with
    | ok body =>
      dsimp only at same throws
      rw [← same, ← throws]
      exact later.computedThrows_afterRendering asInterface
    | error fault => exact same
  | false => exact method.computedThrows_afterRendering asInterface

/-- An operation computes the thrown types exactly if it looks at them. -/
theorem computedThrows_after (method : Method) {operation : Operation}
    (keeps : operation ≠ .releaseCode) :
    (method.after operation).computedThrows =
      if method.looksAtThrows operation then some method.thrownTypes
      else method.computedThrows := by
  cases operation with
  | analyse analyser =>
    have same : (method.analysis analyser).2.computedThrows = method.computedThrows := rfl
    show (method.analyse analyser).2.computedThrows = method.computedThrows
    unfold analyse
    split
    · generalize method.analysis analyser = analysed at same
      obtain ⟨answer, later⟩ := analysed
      cases answer <;> exact same
    · rfl
  | render asInterface analyser => exact method.computedThrows_render asInterface analyser
  | releaseCode => exact absurd rfl keeps
  | usages =>
    show (if method.usagesBeforeThrows.succeeds then method.withThrows else method).computedThrows =
      if method.usagesBeforeThrows.succeeds then _ else _
    split <;> rfl
  | markLocalClass type suggestion =>
    rw [after_markLocalClass]
    cases method.localClasses.register type suggestion <;> rfl
  | _ => rfl

theorem thrownTypes_of_computed {method : Method} {types : List JavaType}
    (known : method.computedThrows = some types) : method.thrownTypes = types := by
  rw [thrownTypes, known]
  rfl

/-- What was computed is kept, also by the release of the code. -/
theorem computedThrows_after_of_computed {method : Method} {types : List JavaType}
    (known : method.computedThrows = some types) (operation : Operation) :
    (method.after operation).computedThrows = some types := by
  by_cases drops : operation = .releaseCode
  · rw [drops]
    exact known
  · rw [computedThrows_after method drops, thrownTypes_of_computed known, known, ite_self]

/-! ### Operations in a row -/

theorem thrownTypes_afterAll_of_computed {method : Method} {types : List JavaType}
    (known : method.computedThrows = some types) (history : List Operation) :
    (method.afterAll history).thrownTypes = types := by
  induction history generalizing method with
  | nil => exact thrownTypes_of_computed known
  | cons operation rest hypothesis =>
    exact hypothesis (computedThrows_after_of_computed known operation)

/-- A method that throws nothing goes on to throw nothing. -/
theorem thrownTypes_afterAll_of_nil {method : Method} (nothing : method.thrownTypes = [])
    (history : List Operation) : (method.afterAll history).thrownTypes = [] := by
  induction history generalizing method with
  | nil => exact nothing
  | cons operation rest hypothesis =>
    refine hypothesis ?_
    by_cases drops : operation = .releaseCode
    · rw [drops]
      refine (thrownTypes_releaseCode method).trans ?_
      cases known : method.computedThrows with
      | none => rfl
      | some types => exact (thrownTypes_of_computed known).symm.trans nothing
    · rw [thrownTypes_after method drops, nothing]

/-- The thrown types of a method of which they were not computed yet, after operations one
behind the other. -/
theorem thrownTypes_afterAll {method : Method} (unknown : method.computedThrows = none)
    (history : List Operation) :
    (method.afterAll history).thrownTypes =
      if method.losesThrows history then [] else method.thrownTypes := by
  induction history generalizing method with
  | nil => rfl
  | cons operation rest hypothesis =>
    by_cases drops : operation = .releaseCode
    · -- Nothing can bring back what the release takes away.
      subst drops
      refine thrownTypes_afterAll_of_nil ?_ rest
      exact (thrownTypes_releaseCode method).trans (by rw [unknown]; rfl)
    · have step := computedThrows_after method drops
      rw [losesThrows]
      · rw [afterAll_cons]
        cases looks : method.looksAtThrows operation with
        | true =>
          rw [if_pos looks] at step
          exact thrownTypes_afterAll_of_computed step rest
        | false =>
          rw [looks, unknown] at step
          rw [hypothesis step, thrownTypes_after method drops]
          rfl
      · exact drops

theorem losesThrows_of_kept {method : Method} {history : List Operation}
    (keeps : .releaseCode ∉ history) : method.losesThrows history = false := by
  induction history generalizing method with
  | nil => rfl
  | cons operation rest hypothesis =>
    obtain ⟨other, others⟩ := not_or.mp (mt List.mem_cons.mpr keeps)
    rw [losesThrows, hypothesis others, Bool.and_false]
    exact Ne.symm other

/-- Once they were asked for, the thrown types are not lost. -/
theorem losesThrows_of_asked {method : Method} {earlier later : List Operation}
    (keeps : .releaseCode ∉ earlier) :
    method.losesThrows (earlier ++ .thrownTypes :: later) = false := by
  induction earlier generalizing method with
  | nil => rfl
  | cons operation rest hypothesis =>
    obtain ⟨other, others⟩ := not_or.mp (mt List.mem_cons.mpr keeps)
    rw [List.cons_append, losesThrows, hypothesis others, Bool.and_false]
    exact Ne.symm other

/-- Whatever was done with a method, it throws the same types as when it was made, exactly if
its code was not released before they were looked at, or if there were none from the beginning;
otherwise it throws nothing. They are not lost if the code is not released, or if they are
asked for before that. -/
theorem thrownTypes_afterAll_eq_iff {method : Method} (built : method.Built)
    (history : List Operation) :
    ((method.afterAll history).thrownTypes = method.thrownTypes ↔
      method.losesThrows history = false ∨ method.thrownTypes = []) ∧
    (method.losesThrows history = true → (method.afterAll history).thrownTypes = []) ∧
    (.releaseCode ∉ history → method.losesThrows history = false) ∧
    (∀ earlier later, .releaseCode ∉ earlier → history = earlier ++ .thrownTypes :: later →
      method.losesThrows history = false) := by
  have now := thrownTypes_afterAll built.begins.2 history
  refine ⟨?_, fun loses => ?_, losesThrows_of_kept, ?_⟩
  · rw [now]
    cases method.losesThrows history with
    | true =>
      rw [if_pos rfl]
      exact ⟨fun same => .inr same.symm, fun either => (either.resolve_left nofun).symm⟩
    | false => exact iff_of_true rfl (.inl rfl)
  · rw [now, if_pos loses]
  · rintro earlier later keeps rfl
    exact losesThrows_of_asked keeps

/-- The record of a method with code and an exception. -/
def throwingRecord : Record :=
  ⟨1, 1, 2, .ofList [.code returnCode, .exceptions ["java/io/IOException"]], 37⟩

/-- Its method. -/
def throwingMethod : Method :=
  { returnMethod with
    record := { throwingRecord with attributes := .ofList [.exceptions ["java/io/IOException"]] } }

theorem thrownTypes_afterAll_eq_iff_asked :
    throwingMethod.Built ∧
    (throwingMethod.afterAll
      ([.analysis findingNothing] ++ .thrownTypes :: [.releaseCode])).thrownTypes =
        [.named "java/io/IOException"] := by
  have made : Method.ofRecord throwingRecord ⟨[.utf8 "run", .utf8 "()V"]⟩
      ⟨⟨"p/A"⟩, .ofBits 1, false⟩ {} = .ok throwingMethod := by cbv
  have same := thrownTypes_afterAll_eq_iff (.ofRecord made)
    ([.analysis findingNothing] ++ .thrownTypes :: [.releaseCode])
  refine ⟨.ofRecord made, (same.1.mpr (.inl ?_)).trans (by cbv)⟩
  exact same.2.2.2 _ _ (by simp) rfl

/-- Released before it was asked, a method no longer throws what it throws if it is asked
first. -/
theorem thrownTypes_releaseCode_ne :
    Method.ofRecord throwingRecord ⟨[.utf8 "run", .utf8 "()V"]⟩ ⟨⟨"p/A"⟩, .ofBits 1, false⟩ {} =
      .ok throwingMethod ∧
    throwingMethod.thrownTypes = [.named "java/io/IOException"] ∧
    (throwingMethod.afterAll [.releaseCode]).thrownTypes = [] ∧
    (throwingMethod.afterAll [.thrownTypes, .releaseCode]).thrownTypes =
      [.named "java/io/IOException"] :=
  ⟨by cbv, by cbv, by cbv, by cbv⟩

end ClassMembers.Method
