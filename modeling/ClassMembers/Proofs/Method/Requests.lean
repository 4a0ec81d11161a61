/-
This file proves how the two requests for the analysis of a method with code compare: the
analysis itself, and the computation of all that is deferred. As long as the code is there they
succeed together, and fail alike. Once it was released they part: the analysis is refused, but
the computation of all that is deferred takes the method for one that never had code, finds
nothing to analyse, and succeeds.
-/

import ClassMembers.Proofs.Method.LifeCycle

namespace ClassMembers

namespace Method

/-- The computation of all that is deferred succeeds exactly if the analysis does, and where
both fail, the innermost failure is the same. -/
structure FaresAlike (method : Method) (analyser : CodeAnalyser) : Prop where
  succeeds : (method.analyse analyser).1 = .ok () ↔
    ∃ body, (method.analysis analyser).1 = .ok body
  fails : ∀ first second, (method.analyse analyser).1 = .error first →
    (method.analysis analyser).1 = .error second → first.root = second.root

/-- Where there is code, the analysis decides. -/
theorem analyse_of_hasCode {method : Method} (present : method.body.hasCode = true)
    (analyser : CodeAnalyser) :
    (method.analyse analyser).1 = (method.analysis analyser).1.map fun _ => () := by
  rw [analyse, if_pos present]
  obtain ⟨answer, later⟩ := method.analysis analyser
  cases answer <;> rfl

theorem faresAlike_of_hasCode {method : Method} (present : method.body.hasCode = true)
    (analyser : CodeAnalyser) : method.FaresAlike analyser := by
  have decides := analyse_of_hasCode present analyser
  cases answer : (method.analysis analyser).1 with
  | ok body =>
    rw [answer] at decides
    exact ⟨iff_of_true decides ⟨body, answer⟩, fun first _ failed => by
      rw [decides] at failed
      cases failed⟩
  | error fault =>
    rw [answer] at decides
    refine ⟨iff_of_false ?_ ?_, ?_⟩
    · rw [decides]
      exact nofun
    · rintro ⟨body, succeeded⟩
      rw [answer] at succeeded
      cases succeeded
    · intro first second failed other
      rw [decides] at failed
      rw [answer] at other
      cases failed
      cases other
      rfl

theorem not_faresAlike_of_refused {method : Method} (absence : method.body.code? = none)
    {root : MemberError} (refuses : method.Refuses root) (analyser : CodeAnalyser) :
    ¬ method.FaresAlike analyser := by
  intro alike
  obtain ⟨body, succeeded⟩ :=
    alike.succeeds.mp (congrArg Prod.fst (analyse_of_absence absence analyser))
  obtain ⟨fault, -, refused⟩ := refuses
  rw [refused] at succeeded
  cases succeeded

/-- Of a method whose record carried code, whatever was done with it, the two requests for the
analysis fare alike exactly if the code was not released, and then one succeeds or fails as the
other does. Once the code was released, every analysis fails for that reason, and the
computation of all that is deferred succeeds. -/
theorem faresAlike_iff_not_released {record : Record} {pool : Pool} {owner : DeclaringClass}
    {options : MemberOptions} {method : Method} {code : Code}
    (made : Method.ofRecord record pool owner options = .ok method)
    (carried : record.attributes.code? = some code) (history : List Operation)
    (analyser : CodeAnalyser) :
    let later := method.afterAll history
    (later.FaresAlike analyser ↔ .releaseCode ∉ history) ∧
    (.releaseCode ∉ history →
      (later.analyse analyser).1 = (later.analysis analyser).1.map fun _ => ()) ∧
    (.releaseCode ∈ history →
      (∃ fault, fault.root = .codeReleased method.name ∧
        later.analysis analyser = (.error fault, later)) ∧
      later.analyse analyser = (.ok (), later.withNames)) := by
  intro later
  have fresh : method.body = .present code none :=
    (begins_of_ofRecord made).1.trans (MethodBody.fst_takeFrom_of_code carried)
  by_cases drops : .releaseCode ∈ history
  · have released : later.HasReleased code later.name :=
      hasReleased_of_body (body_afterAll_of_release fresh drops)
    have named : later.name = method.name := name_afterAll method history
    refine ⟨iff_of_false ?_ fun keeps => keeps drops, fun keeps => absurd drops keeps,
      fun _ => ⟨?_, analyse_of_absence released.code analyser⟩⟩
    · exact not_faresAlike_of_refused released.code released.refuses analyser
    · obtain ⟨fault, root, refused⟩ := released.refuses
      exact ⟨fault, root.trans (congrArg _ named), refused analyser⟩
  · have present : later.body.hasCode = true := by
      rw [body_afterAll_of_present fresh drops]
      rfl
    exact ⟨iff_of_true (faresAlike_of_hasCode present analyser) drops,
      fun _ => analyse_of_hasCode present analyser, fun dropped => absurd dropped drops⟩

theorem faresAlike_iff_not_released_return :
    Method.ofRecord returnRecord ⟨[.utf8 "run", .utf8 "()V"]⟩ ⟨⟨"p/A"⟩, .ofBits 1, false⟩ {} =
      .ok returnMethod ∧
    returnRecord.attributes.code? = some returnCode ∧
    (returnMethod.afterAll [.thrownTypes]).FaresAlike givingUp ∧
    ((returnMethod.afterAll [.analysis findingNothing]).analyse givingUp).1 = .ok () ∧
    ∃ fault, fault.root = .codeReleased "run" ∧
      ((returnMethod.afterAll [.releaseCode]).analysis findingNothing).1 = .error fault := by
  have made : Method.ofRecord returnRecord ⟨[.utf8 "run", .utf8 "()V"]⟩
      ⟨⟨"p/A"⟩, .ofBits 1, false⟩ {} = .ok returnMethod := by cbv
  have carried : returnRecord.attributes.code? = some returnCode := rfl
  refine ⟨made, carried, ?_, ?_, ?_⟩
  · exact (faresAlike_iff_not_released made carried [.thrownTypes] givingUp).1.mpr (by simp)
  · exact (faresAlike_iff_not_released made carried [.analysis findingNothing] givingUp).2.1
      (by simp)
  · obtain ⟨⟨fault, root, refused⟩, -⟩ :=
      (faresAlike_iff_not_released made carried [.releaseCode] findingNothing).2.2 (by simp)
    exact ⟨fault, root, congrArg Prod.fst refused⟩

/-- Released code is refused to an analyser that would have analysed it, and yet the
computation of all that is deferred succeeds. -/
theorem not_faresAlike_released :
    Method.ofRecord returnRecord ⟨[.utf8 "run", .utf8 "()V"]⟩ ⟨⟨"p/A"⟩, .ofBits 1, false⟩ {} =
      .ok returnMethod ∧
    returnRecord.attributes.code? = some returnCode ∧
    ((returnMethod.afterAll [.releaseCode]).analysis findingNothing).1 =
      .error (.inMember "p.A.run()V" (.codeReleased "run")) ∧
    ((returnMethod.afterAll [.releaseCode]).analyse findingNothing).1 = .ok () ∧
    ¬ (returnMethod.afterAll [.releaseCode]).FaresAlike findingNothing := by
  have refused : ((returnMethod.afterAll [.releaseCode]).analysis findingNothing).1 =
      .error (.inMember "p.A.run()V" (.codeReleased "run")) := by cbv
  have passed : ((returnMethod.afterAll [.releaseCode]).analyse findingNothing).1 = .ok () := rfl
  refine ⟨by cbv, rfl, refused, passed, fun alike => ?_⟩
  obtain ⟨body, succeeded⟩ := alike.succeeds.mp passed
  rw [refused] at succeeded
  cases succeeded

end Method

end ClassMembers
