/-
This file proves that the list of parameters lines up. A parameter is written from three
lists that are counted from different places: the declared arguments, the names of all
arguments that a call passes, which begin with those of hidden arguments, and the rows of
annotations. In every state that a method comes to there are as many names as arguments,
whenever and with whatever namer they were computed, and no more arguments are hidden than
there are. So both lists can be cut behind the hidden arguments, and what is left of them
is of one length.
-/

import ClassMembers.Proofs.Attribute.Index
import ClassMembers.Proofs.Method.States
import ClassMembers.Proofs.Prototype.Reconciliation

namespace ClassMembers

/-! ### Lists with commas -/

theorem intercalate_cons_eq {α : Type} (between first : List α) (rest : List (List α)) :
    between.intercalate (first :: rest) = first ++ rest.flatMap (between ++ ·) := by
  induction rest generalizing first with
  | nil => simp
  | cons second rest hypothesis =>
    rw [List.intercalate_cons_cons, hypothesis, List.flatMap_cons, List.append_assoc,
      List.append_assoc]

open Sequencing

namespace Method

variable {allowed : Operation → Prop} {made now method : Method}

/-! ### What a parameter shows -/

/-- The calls that write annotations, each followed by a space. -/
def markCalls (marks : List AnnotationUse) : List Call :=
  marks.flatMap fun mark => mark.render.emitted ++ [.print " "]

/-- The calls show the type of the parameter at an index. The last one of a method with a
variable number of arguments shows the component of its array followed by points, and every
other one shows its type. -/
inductive ShowsType (method : Method) (index : Nat) : JavaType → List Call → Prop
  | component (component : JavaType) (isVarargs : method.flags.contains Flag.isVarargs = true)
      (last : index + 1 = method.prototype.declaredArguments.length) :
      ShowsType method index (.array component) [.type component, .print "..."]
  | whole (argument : JavaType)
      (other : ¬ ((∃ component, argument = .array component) ∧
        method.flags.contains Flag.isVarargs = true ∧
        index + 1 = method.prototype.declaredArguments.length)) :
      ShowsType method index argument [.type argument]

/-- The calls show the parameter at an index: its visible annotations, its invisible ones, the
type of the argument at the index, and the name at that index behind the hidden arguments. -/
def ShowsParameter (method : Method) (index : Nat) (calls : List Call) : Prop :=
  ∃ argument name shown,
    method.prototype.declaredArguments[index]? = some argument ∧
    method.parameterNames[method.prototype.hiddenCount + index]? = some name ∧
    method.ShowsType index argument shown ∧
    calls = markCalls (method.attributes.visibleRows[index]?.getD []) ++
      markCalls (method.attributes.invisibleRows[index]?.getD []) ++
      shown ++ [.print " ", .identifier name]

/-- What is written of the type of a parameter shows it. -/
theorem showsType_renderParameterType
    (flagged : method.prototype.isVarargs = method.flags.contains Flag.isVarargs) (index : Nat)
    (argument : JavaType) :
    (renderParameterType (method.prototype.isVarargs &&
        index + 1 = method.prototype.declaredArguments.length) argument).result = .ok () ∧
    method.ShowsType index argument
      (renderParameterType (method.prototype.isVarargs &&
        index + 1 = method.prototype.declaredArguments.length) argument).emitted := by
  rw [flagged]
  cases argument with
  | array component =>
    cases isVariable : method.flags.contains Flag.isVarargs &&
        decide (index + 1 = method.prototype.declaredArguments.length) with
    | true =>
      rw [Bool.and_eq_true, decide_eq_true_iff] at isVariable
      exact ⟨rfl, .component component isVariable.1 isVariable.2⟩
    | false =>
      refine ⟨rfl, .whole _ fun both => Bool.false_ne_true (isVariable.symm.trans ?_)⟩
      rw [Bool.and_eq_true, decide_eq_true_iff]
      exact both.2
  | _ => exact ⟨rfl, .whole _ fun both => by obtain ⟨⟨_, ⟨⟩⟩, -⟩ := both⟩

theorem emitted_renderMarks_of_ok {marks : List AnnotationUse}
    (done : (Emission.forEach marks fun mark => do
      mark.render
      Rendering.print " ").result = .ok ()) :
    (Emission.forEach marks fun mark => do
      mark.render
      Rendering.print " ").emitted = markCalls marks := by
  rw [Emission.emitted_forEach_of_ok done]
  refine List.flatMap_congr fun mark inside => ?_
  obtain ⟨_, shown, -⟩ :=
    Emission.result_bind_eq_ok.mp (Emission.forEach_succeed_iff.mp done mark inside)
  rw [Emission.bind_of_ok shown]
  rfl

theorem showsParameter_of_ok
    (flagged : method.prototype.isVarargs = method.flags.contains Flag.isVarargs) {index : Nat}
    {argument : JavaType} {name : String}
    (declared : method.prototype.declaredArguments[index]? = some argument)
    (named : method.parameterNames[method.prototype.hiddenCount + index]? = some name)
    (done : (method.renderParameter index argument name).result = .ok ()) :
    method.ShowsParameter index (method.renderParameter index argument name).emitted := by
  obtain ⟨_, marked, -⟩ := Emission.result_bind_eq_ok.mp done
  obtain ⟨typed, shows_⟩ := showsType_renderParameterType flagged index argument
  refine ⟨argument, name, _, declared, named, shows_, ?_⟩
  have marks := (emitted_renderMarks_of_ok marked).trans
    (congrArg markCalls (method.attributes.parameterAnnotations_eq index))
  rw [renderParameter, Emission.bind_of_ok marked, Emission.bind_of_ok typed, marks]
  simp only [markCalls, List.flatMap_append, List.append_assoc]
  rfl

/-! ### The list of parameters -/

/-- Behind the first parameter, each is written behind a comma. -/
theorem emitted_renderParametersFrom_of_ok {parameters : List (JavaType × String)}
    {position : Nat}
    (done : (method.renderParametersFrom (position + 1) parameters).result = .ok ()) :
    (method.renderParametersFrom (position + 1) parameters).emitted =
        (parameters.zipIdx (position + 1)).flatMap (fun parameter => [.print ", "] ++
          (method.renderParameter parameter.2 parameter.1.1 parameter.1.2).emitted) ∧
      ∀ parameter ∈ parameters.zipIdx (position + 1),
        (method.renderParameter parameter.2 parameter.1.1 parameter.1.2).result = .ok () := by
  induction parameters generalizing position with
  | nil => exact ⟨rfl, nofun⟩
  | cons first rest hypothesis =>
    obtain ⟨_, separated, done⟩ := Emission.result_bind_eq_ok.mp done
    obtain ⟨_, shown, done⟩ := Emission.result_bind_eq_ok.mp done
    obtain ⟨others, each⟩ := hypothesis done
    rw [List.zipIdx_cons]
    refine ⟨?_, List.forall_mem_cons.mpr ⟨shown, each⟩⟩
    rw [renderParametersFrom, Emission.bind_of_ok separated, Emission.bind_of_ok shown, others,
      List.flatMap_cons]
    rfl

/-- Parameters are written one behind the other, with commas between them. -/
theorem emitted_renderParameters_of_ok {parameters : List (JavaType × String)}
    (done : (method.renderParametersFrom 0 parameters).result = .ok ()) :
    (method.renderParametersFrom 0 parameters).emitted =
        [.print ", "].intercalate (parameters.zipIdx.map fun parameter =>
          (method.renderParameter parameter.2 parameter.1.1 parameter.1.2).emitted) ∧
      ∀ parameter ∈ parameters.zipIdx,
        (method.renderParameter parameter.2 parameter.1.1 parameter.1.2).result = .ok () := by
  cases parameters with
  | nil => exact ⟨rfl, nofun⟩
  | cons first rest =>
    rw [renderParametersFrom, if_pos rfl] at done ⊢
    obtain ⟨_, shown, done⟩ := Emission.result_bind_eq_ok.mp done
    obtain ⟨others, each⟩ := emitted_renderParametersFrom_of_ok done
    rw [List.zipIdx_cons]
    refine ⟨?_, List.forall_mem_cons.mpr ⟨shown, each⟩⟩
    rw [Emission.bind_of_ok shown, others, List.map_cons, intercalate_cons_eq, List.flatMap_map]

/-- The calls that show parameters line up with the declared arguments. -/
structure LineUp (method : Method) (parts : List (List Call)) : Prop where
  count : parts.length = method.prototype.declaredArguments.length
  each : ∀ index (inside : index < parts.length), method.ShowsParameter index parts[index]

/-- If there are as many names as arguments that a call passes, the parameters that are written
line up. -/
theorem exists_lineUp_of_ok
    (flagged : method.prototype.isVarargs = method.flags.contains Flag.isVarargs)
    (fits : method.parameterNames.length = method.prototype.effectiveArguments.length)
    (done : method.renderParameters.result = .ok ()) :
    ∃ parts, method.renderParameters.emitted = [.print ", "].intercalate parts ∧
      method.LineUp parts := by
  obtain ⟨written, each⟩ := emitted_renderParameters_of_ok done
  refine ⟨_, written, ?_, fun index inside => ?_⟩
  · rw [List.length_map, List.length_zipIdx, List.length_zip, List.length_drop, fits,
      Prototype.declaredArguments, List.length_drop, min_self]
  · rw [List.length_map] at inside
    have ok := each _ (List.getElem_mem inside)
    rw [List.getElem_map]
    rw [List.getElem_zipIdx, Nat.zero_add, List.getElem_zip] at ok ⊢
    refine showsParameter_of_ok flagged (List.getElem?_eq_getElem _) ?_ ok
    rw [← List.getElem?_drop]
    exact List.getElem?_eq_getElem _

/-! ### Every state -/

theorem fresh_of_ofRecord {record : Record} {pool : Pool} {owner : DeclaringClass}
    {options : MemberOptions} (made : Method.ofRecord record pool owner options = .ok method) :
    method.prototype.computedNames = none ∧
      method.prototype.isVarargs = method.flags.contains Flag.isVarargs := by
  obtain ⟨name, -, made⟩ := except_bind_eq_ok.mp made
  obtain ⟨descriptor, -, made⟩ := except_bind_eq_ok.mp (mapError_eq_ok.mp made)
  obtain ⟨prototype, sourced, made⟩ := except_bind_eq_ok.mp made
  obtain ⟨outcome, -, rfl⟩ := ofSource_eq_ok.mp (mapError_eq_ok.mp sourced)
  cases made
  exact ⟨rfl, rfl⟩

/-- A method that was made has not computed the names of its parameters, and its prototype knows
from the flags whether the number of arguments is variable. -/
theorem Built.fresh_prototype (built : method.Built) :
    method.prototype.computedNames = none ∧
      method.prototype.isVarargs = method.flags.contains Flag.isVarargs := by
  cases built with
  | ofRecord made => exact fresh_of_ofRecord made
  | ofBytes made =>
    obtain ⟨record, -, made⟩ := except_bind_eq_ok.mp made
    exact fresh_of_ofRecord made

theorem hiddenCount_le (prototype : Prototype) :
    prototype.hiddenCount ≤ prototype.effectiveArguments.length := by
  unfold Prototype.hiddenCount
  split
  · exact min_le_right _ _
  · exact Nat.zero_le _

/-- In every state of a method that was made, the hidden arguments are among those that a call
passes, and there are as many names as these, with whatever namer they are asked for. If the
method has a signature and is written, there stands between the parentheses one part for each
declared argument, which shows this argument, its name and its rows of annotations. -/
theorem parameters_line_up (built : made.Built) (reached : made.Reaches allowed now) :
    now.prototype.hiddenCount ≤ now.prototype.effectiveArguments.length ∧
    (∀ namer, (now.prototype.parameterNames namer).length =
      now.prototype.effectiveArguments.length) ∧
    ∀ asInterface analyser, now.kind ≠ .staticInitializer →
      (now.render asInterface analyser).1.result = .ok () →
      ∃ parts behind, now.LineUp parts ∧
        (now.render asInterface analyser).1.emitted =
          (now.renderPreamble asInterface).emitted ++ (now.renderHead.emitted ++
            .print "(" :: ([.print ", "].intercalate parts ++ .print ")" :: behind)) := by
  obtain ⟨fresh, flagged⟩ := built.fresh_prototype
  have fits := reached.length_parameterNames fresh
  refine ⟨hiddenCount_le now.prototype, fits, fun asInterface analyser signed done => ?_⟩
  have isVarargs : now.prototype.isVarargs = made.prototype.isVarargs :=
    congrArg (·.prototype.isVarargs) reached.declared_eq
  have flags : now.flags = made.flags := congrArg Declared.flags reached.declared_eq
  obtain ⟨signature, body, parts⟩ := emitted_render_of_ok signed done
  obtain ⟨parameters, written⟩ := emitted_renderSignature_of_ok signature
  obtain ⟨shown, between, lineUp⟩ :=
    exists_lineUp_of_ok (isVarargs.trans (flagged.trans (by rw [flags]))) (fits _) parameters
  refine ⟨shown, now.renderThrows.emitted ++ body, lineUp, ?_⟩
  rw [parts, written, between]
  simp

/-- The constructor of an enum without a signature, with hidden arguments, a variable number of
declared ones, and an annotation. -/
def constantRecord : Record :=
  ⟨0x0082, 1, 2,
    .ofList [.code returnCode, .visibleParameterAnnotations [[⟨"Lp/Mark;", []⟩]]], 80⟩

/-- Its method. -/
def constantMethod : Method :=
  { returnMethod with
    record := { constantRecord with
      attributes := .ofList [.visibleParameterAnnotations [[⟨"Lp/Mark;", []⟩]]] }
    name := "<init>"
    descriptor := "(Ljava/lang/String;I[I)V"
    flags := .ofBits 0x0082
    owner := ⟨⟨"p/E"⟩, .ofBits 0x4001, false⟩
    prototype := ⟨"<init>", ⟨"p/E"⟩,
      ⟨[], [.named "java/lang/String", .primitive .int, .array (.primitive .int)],
        .primitive .void, []⟩,
      none, true, true, false, .bareEnumConstructor, none⟩ }

theorem parameters_line_up_constant :
    constantMethod.Built ∧
    (constantMethod.namedBy fun slot _ => "slot" ++ toString slot).prototype.hiddenCount = 2 ∧
    ∃ parts, (constantMethod.namedBy fun slot _ => "slot" ++ toString slot).LineUp parts ∧
      parts.length = 1 := by
  have made : Method.ofRecord constantRecord
      ⟨[.utf8 "<init>", .utf8 "(Ljava/lang/String;I[I)V"]⟩ ⟨⟨"p/E"⟩, .ofBits 0x4001, false⟩ {} =
        .ok constantMethod := by
    have flags : constantRecord.methodFlags = .ofBits 0x0082 := by decide
    simp only [Method.ofRecord, Method.build, flags]
    cbv
  have reached : constantMethod.Reaches (fun _ => True)
      (constantMethod.namedBy fun slot _ => "slot" ++ toString slot) := .named .made _
  obtain ⟨-, -, written⟩ := parameters_line_up (.ofRecord made) reached
  have rendered : ((constantMethod.namedBy fun slot _ => "slot" ++ toString slot).render false
      findingNothing).1.result = .ok () := Emission.succeeds_iff.mp (by decide +kernel)
  obtain ⟨parts, -, lineUp, -⟩ := written false findingNothing (by decide) rendered
  exact ⟨.ofRecord made, by cbv, parts, lineUp, lineUp.count.trans (by cbv)⟩

end Method

end ClassMembers
