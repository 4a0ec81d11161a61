/-
This file proves that the types a method throws are the classes that the attribute for
exceptions declares, neither fewer nor more. The types that the signature throws stand
for the declared classes if there are as many of them and each erases to the class at
its place; otherwise the declared classes stand for themselves. Each type is listed once,
and so is each class, and it makes no difference whether what occurs again is left out
before the types are erased or after it. Until the code is released, this is so in every
state, and the types are what a method with a signature is written to throw.
-/

import ClassMembers.Proofs.FirstOccurrences
import ClassMembers.Proofs.Member.Parts
import ClassMembers.Proofs.Method.States
import ClassMembers.Proofs.Method.ThrownTypes
import ClassMembers.Proofs.Prototype.EnumConstructor

namespace ClassMembers

namespace Method

variable {made now method : Method}

/-! ### The types of the signature and the declared classes -/

/-- What the signature throws lines up with the attribute for exceptions: the signature throws
something, and as many types as there are classes, and each erases to the class at its place. -/
structure ThrowsLineUp (method : Method) : Prop where
  throws : method.prototype.signature.throws ≠ []
  length : method.prototype.signature.throws.length = method.declaredThrows.length
  erases : ∀ place (generic : place < method.prototype.signature.throws.length)
    (declared : place < method.declaredThrows.length),
    method.prototype.signature.erase method.prototype.signature.throws[place] =
      method.declaredThrows[place]

theorem throwsAgree_iff : method.throwsAgree = true ↔ method.ThrowsLineUp := by
  rw [throwsAgree, Bool.and_eq_true, Bool.not_eq_true', List.isEmpty_eq_false_iff,
    decide_eq_true_iff]
  constructor
  · rintro ⟨throws, same⟩
    refine ⟨throws, by rw [← same, List.length_map], fun place generic declared => ?_⟩
    simp only [← same, List.getElem_map]
  · rintro ⟨throws, length, erases⟩
    refine ⟨throws, List.ext_getElem (by rw [List.length_map, length]) fun place _ declared => ?_⟩
    rw [List.getElem_map, erases place (length ▸ declared) declared]

theorem throwsNow_of_lineUp (lineUp : method.ThrowsLineUp) :
    method.throwsNow = method.prototype.signature.throws.eraseDups :=
  if_pos (throwsAgree_iff.mpr lineUp)

theorem throwsNow_of_not_lineUp (apart : ¬ method.ThrowsLineUp) :
    method.throwsNow = method.declaredThrows.eraseDups :=
  if_neg (mt throwsAgree_iff.mp apart)

theorem map_erase_declaredThrows (method : Method) :
    method.declaredThrows.map method.prototype.signature.erase = method.declaredThrows := by
  refine map_erase_of_isErased _ fun type inside => ?_
  obtain ⟨name, -, rfl⟩ := List.mem_map.mp inside
  rfl

/-- Whether or not the two line up, the types erase to the declared classes. -/
theorem eraseDups_map_erase_throwsNow (method : Method) :
    (method.throwsNow.map method.prototype.signature.erase).eraseDups =
      method.declaredThrows.eraseDups := by
  by_cases lineUp : method.ThrowsLineUp
  · have agree := throwsAgree_iff.mpr lineUp
    rw [throwsAgree, Bool.and_eq_true, decide_eq_true_iff] at agree
    rw [throwsNow_of_lineUp lineUp, eraseDups_map_eraseDups, agree.2]
  · rw [throwsNow_of_not_lineUp lineUp, eraseDups_map_eraseDups, map_erase_declaredThrows]

/-! ### Every state -/

/-- Until the code is released, the thrown types are those that the attributes of the method as
it was made tell. -/
theorem thrownTypes_of_reaches (built : made.Built)
    (reached : made.Reaches (· ≠ .releaseCode) now) : now.thrownTypes = made.throwsNow := by
  have kept : now.thrownTypes = made.thrownTypes :=
    reached.keeps (fun method _ keeps => method.thrownTypes_after keeps) fun _ _ => rfl
  rw [kept, thrownTypes, built.begins.2]
  rfl

theorem declaresExceptions_of_thrownTypes (built : made.Built)
    (reached : made.Reaches (· ≠ .releaseCode) now) (thrown : now.thrownTypes ≠ []) :
    now.declaresExceptions = true := by
  rw [thrownTypes_of_reaches built reached] at thrown
  rw [declaresExceptions, reached.attributes_eq]
  cases absent : made.attributes.exceptions? with
  | some names => rfl
  | none =>
    -- Without the attribute nothing lines up, and nothing is declared.
    have nothing : made.declaredThrows = [] := by rw [declaredThrows, absent]; rfl
    refine absurd ?_ thrown
    rw [throwsNow_of_not_lineUp, nothing]
    · rfl
    · intro lineUp
      refine lineUp.throws (List.eq_nil_of_length_eq_zero ?_)
      rw [lineUp.length, nothing]
      rfl

end Method

/-! ### Writing without keywords -/

/-- No keyword is written. -/
def Rendering.Keywordless {α : Type} (rendering : Rendering α) : Prop :=
  ∀ text, .keyword text ∉ rendering.emitted

namespace Rendering.Keywordless

variable {α β : Type}

theorem silent {rendering : Rendering α} (quiet : rendering.emitted = []) :
    rendering.Keywordless := by
  intro text written
  rw [quiet] at written
  cases written

theorem emit {call : Call} (other : ∀ text, call ≠ .keyword text) :
    Rendering.Keywordless (.emit call) := by
  intro text written
  exact other text (List.mem_singleton.mp written).symm

theorem type (shown : JavaType) : (Rendering.type shown).Keywordless := emit nofun

theorem bind {first : Rendering α} {next : α → Rendering β} (before : first.Keywordless)
    (after : ∀ answer, first.result = .ok answer → (next answer).Keywordless) :
    Rendering.Keywordless (first >>= next) := by
  intro text written
  cases done : first.result with
  | ok answer =>
    rw [Emission.bind_of_ok done, List.mem_append] at written
    exact written.elim (before text) (after answer done text)
  | error fault =>
    rw [Emission.bind_of_error done] at written
    exact before text written

end Rendering.Keywordless

open Rendering.Keywordless

/-- What is written has no keywords if its parts have none. -/
theorem Rendering.keywordless_inherited : Inherited @Rendering.Keywordless where
  nothing := silent rfl
  plain call isPlain := by
    refine emit ?_
    rintro text rfl
    cases isPlain
  bind := bind

namespace Method

variable {made now method : Method}

/-- Types and annotations are written without keywords. -/
theorem headParts_keywordless (method : Method) : method.HeadParts @Rendering.Keywordless where
  result := type _
  marks _ mark _ := mark.usages_inStep.inherits Rendering.keywordless_inherited
    (fun _ => silent rfl) type fun _ _ => silent rfl
  arguments _ _ := type _
  components _ _ := type _

/-! ### The clause of the thrown types -/

/-- What a signature shows before its thrown types. -/
def beforeThrows (method : Method) : List Call :=
  method.renderHead.emitted ++ .print "(" :: (method.renderParameters.emitted ++ [.print ")"])

/-- The clause that lists thrown types in order; none if there are no types. -/
def throwsClause : List JavaType → List Call
  | [] => []
  | types => [.print " ", .keyword "throws", .print " "] ++
      [.print ", "].intercalate (types.map fun type => [.type type])

theorem keyword_notMem_beforeThrows (method : Method) (text : String) :
    .keyword text ∉ method.beforeThrows := by
  intro written
  simp only [beforeThrows, List.mem_append, List.mem_cons, List.not_mem_nil, or_false,
    reduceCtorEq, false_or] at written
  have parts := method.headParts_keywordless
  exact written.elim (renderHead_inherits parts Rendering.keywordless_inherited text)
    (renderParameters_inherits parts Rendering.keywordless_inherited text)

theorem renderTypes_eq (types : List JavaType) :
    renderTypes types =
      ⟨[.print ", "].intercalate (types.map fun type => [.type type]), .ok ()⟩ := by
  induction types with
  | nil => rfl
  | cons first rest hypothesis =>
    cases rest with
    | nil => rfl
    | cons second rest =>
      rw [renderTypes, hypothesis]
      · simp only [List.map_cons, List.intercalate_cons_cons]
        rfl
      · nofun

theorem emitted_renderThrows (declares : method.thrownTypes ≠ [] → method.declaresExceptions) :
    method.renderThrows.emitted = throwsClause method.thrownTypes := by
  unfold renderThrows
  cases thrown : method.thrownTypes with
  | nil => rw [List.isEmpty_nil, Bool.not_true, Bool.and_false]; rfl
  | cons first rest =>
    rw [declares (by rw [thrown]; nofun), renderTypes_eq]
    rfl

/-- Until the code is released, the types that a method throws are listed once each and erase
to the declared classes, in their order; they are those of the signature if these line up with
the declared classes, and otherwise the declared classes. A method with a signature that is
written shows the clause that lists them, or no clause if there are none, between its parameters
and its body, and no keyword stands in the signature before it. -/
theorem thrownTypes_erase_to_declared (built : made.Built)
    (reached : made.Reaches (· ≠ .releaseCode) now) :
    now.attributes = made.attributes ∧ now.prototype.signature = made.prototype.signature ∧
    (now.thrownTypes.map made.prototype.signature.erase).eraseDups =
      made.declaredThrows.eraseDups ∧
    (made.ThrowsLineUp → now.thrownTypes = made.prototype.signature.throws.eraseDups) ∧
    (¬ made.ThrowsLineUp → now.thrownTypes = made.declaredThrows.eraseDups) ∧
    ∀ asInterface analyser, now.kind ≠ .staticInitializer →
      (now.render asInterface analyser).1.result = .ok () →
      (∃ body, (now.render asInterface analyser).1.emitted =
        (now.renderPreamble asInterface).emitted ++
          (now.beforeThrows ++ throwsClause now.thrownTypes ++ body)) ∧
      (.keyword "throws" ∈ now.beforeThrows ++ throwsClause now.thrownTypes ↔
        now.thrownTypes ≠ []) := by
  have thrown := thrownTypes_of_reaches built reached
  have signature : now.prototype.signature = made.prototype.signature :=
    congrArg (·.prototype.signature) reached.declared_eq
  refine ⟨reached.attributes_eq, signature, ?_, fun lineUp => ?_, fun apart => ?_, ?_⟩
  · rw [thrown, eraseDups_map_erase_throwsNow]
  · rw [thrown, throwsNow_of_lineUp lineUp]
  · rw [thrown, throwsNow_of_not_lineUp apart]
  · intro asInterface analyser signed done
    obtain ⟨written, body, parts⟩ := emitted_render_of_ok signed done
    have clause := emitted_renderThrows (declaresExceptions_of_thrownTypes built reached)
    refine ⟨⟨body, ?_⟩, ?_⟩
    · rw [parts, (emitted_renderSignature_of_ok written).2, clause, beforeThrows]
      simp
    · rw [List.mem_append, or_iff_right (now.keyword_notMem_beforeThrows _)]
      cases now.thrownTypes <;> simp [throwsClause]

/-- The record of an abstract method whose signature throws a variable twice and the class that
it erases to. -/
def rethrowingRecord : Record :=
  ⟨0x0401, 1, 2,
    .ofList [.signature "<X:Ljava/io/IOException;>()V^TX;^TX;^Ljava/io/IOException;",
      .exceptions ["java/io/IOException", "java/io/IOException", "java/io/IOException"]], 50⟩

/-- Its method. -/
def rethrowingMethod : Method :=
  { returnMethod with
    record := rethrowingRecord
    flags := .ofBits 0x0401
    body := .absent
    prototype := ⟨"run", ⟨"p/A"⟩,
      ⟨[⟨"X", some (.named "java/io/IOException"), []⟩], [], .primitive .void,
        [.typeVariable "X", .typeVariable "X", .named "java/io/IOException"]⟩,
      none, true, false, false, .notConstructor, none⟩ }

theorem thrownTypes_erase_to_declared_twice :
    rethrowingMethod.Built ∧
    (rethrowingMethod.after .thrownTypes).thrownTypes =
      [.typeVariable "X", .named "java/io/IOException"] ∧
    (([.typeVariable "X", .named "java/io/IOException"] : List JavaType).map
      rethrowingMethod.prototype.signature.erase).eraseDups = [.named "java/io/IOException"] ∧
    .keyword "throws" ∈ (rethrowingMethod.after .thrownTypes).beforeThrows ++
      throwsClause [.typeVariable "X", .named "java/io/IOException"] := by
  have made : Method.ofRecord rethrowingRecord ⟨[.utf8 "run", .utf8 "()V"]⟩
      ⟨⟨"p/A"⟩, .ofBits 1, false⟩ {} = .ok rethrowingMethod := by cbv
  have reached : rethrowingMethod.Reaches (· ≠ .releaseCode)
      (rethrowingMethod.after .thrownTypes) := .after .made (by simp)
  obtain ⟨-, -, erased, lineUp, -, written⟩ :=
    thrownTypes_erase_to_declared (.ofRecord made) reached
  have thrown := lineUp (throwsAgree_iff.mp (by cbv))
  have listed : rethrowingMethod.prototype.signature.throws.eraseDups =
    [.typeVariable "X", .named "java/io/IOException"] := by cbv
  rw [thrown, listed] at erased written
  refine ⟨.ofRecord made, thrown.trans listed, erased.trans (by cbv), ?_⟩
  have rendered : ((rethrowingMethod.after .thrownTypes).render false givingUp).1.result = .ok () :=
    Emission.succeeds_iff.mp (by decide +kernel)
  exact (written false givingUp (by decide) rendered).2.mpr (List.cons_ne_nil _ _)

end Method

end ClassMembers
