/-
This file walks over what is written of fields, methods and annotations, once for every property
that a rendering has if its parts have it. Most of what is written is plain text, which is
neither a type nor a keyword, and has such a property in any case. What is left are the parts
that differ from one member to the next: types, keywords, annotations, a default value and the
calls of a body. To know that a member has the property it is enough to know it of these.
-/

import ClassMembers.Field
import ClassMembers.Method.Rendering
import ClassMembers.Proofs.Usage.Annotations

namespace ClassMembers

open Rendering

/-! ### Properties that a whole has from its parts -/

/-- A property of renderings that plain text has, and whatever is written by one part that has
it and then by another one. -/
structure Rendering.Inherited (holds : (α : Type) → Rendering α → Prop) : Prop where
  nothing : holds Unit (pure ())
  plain : ∀ call : Call, call.isPlain = true → holds Unit (.emit call)
  bind : ∀ {α β : Type} {first : Rendering α} {next : α → Rendering β}, holds α first →
    (∀ answer, first.result = .ok answer → holds β (next answer)) → holds β (first >>= next)

namespace Rendering.Inherited

variable {holds : (α : Type) → Rendering α → Prop} {first second : Rendering Unit}

/-- One part behind another. -/
theorem followed (inherited : Inherited holds) (before : holds Unit first)
    (after : holds Unit second) : holds Unit (first >>= fun _ => second) :=
  inherited.bind before fun _ _ => after

theorem print (inherited : Inherited holds) (text : String) : holds Unit (Rendering.print text) :=
  inherited.plain (.print text) rfl

theorem identifier (inherited : Inherited holds) (name : String) :
    holds Unit (Rendering.identifier name) :=
  inherited.plain (.identifier name) rfl

theorem forEach {α : Type} (inherited : Inherited holds) {items : List α}
    {write : α → Rendering Unit} (each : ∀ item ∈ items, holds Unit (write item)) :
    holds Unit (.forEach items write) := by
  induction items with
  | nil => exact inherited.nothing
  | cons item rest hypothesis =>
    obtain ⟨here, behind⟩ := List.forall_mem_cons.mp each
    exact inherited.followed here (hypothesis behind)

/-- Plain text of any length. -/
theorem text (inherited : Inherited holds) {rendering : Rendering Unit}
    (plain : rendering.emitted.all Call.isPlain = true) (done : rendering.result = .ok ()) :
    holds Unit rendering := by
  obtain ⟨calls, result⟩ := rendering
  cases done
  induction calls with
  | nil => exact inherited.nothing
  | cons call rest hypothesis =>
    rw [List.all_cons, Bool.and_eq_true] at plain
    exact inherited.followed (inherited.plain call plain.1) (hypothesis plain.2)

theorem renderAnnotations (inherited : Inherited holds) {annotations : List AnnotationUse}
    (marks : ∀ mark ∈ annotations, holds Unit mark.render) :
    holds Unit (Rendering.renderAnnotations annotations) :=
  inherited.forEach fun mark inside =>
    inherited.followed (marks mark inside) (inherited.plain .newline rfl)

theorem renderKeywords (inherited : Inherited holds)
    (keywords : ∀ text, holds Unit (Rendering.keyword text)) (list : List String) :
    holds Unit (Rendering.renderKeywords list) := by
  unfold Rendering.renderKeywords
  split
  · exact inherited.nothing
  · exact inherited.followed (keywords _) (inherited.print " ")

end Rendering.Inherited

variable {holds : (α : Type) → Rendering α → Prop}

/-! ### Annotations -/

/-- What is written in step with usages consists of plain text, of types that are read first and
of constants that are. -/
theorem Usages.InStep.inherits {constants : List Constant} {usages : Usages Unit}
    {rendering : Rendering Unit} (inStep : Usages.InStep constants usages rendering)
    (inherited : Inherited holds) (reads : ∀ answer, holds JavaType (Rendering.typeOf answer))
    (types : ∀ shown, holds Unit (Rendering.type shown))
    (literals : ∀ tag value, holds Literal (Emission.ofExcept (elementLiteral tag value))) :
    holds Unit rendering := by
  induction inStep with
  | silent plain done => exact inherited.text plain done
  | bind _ _ before after => exact inherited.followed before after
  | bindSilent _ plain done before => exact inherited.followed before (inherited.text plain done)
  | type _ after =>
    exact inherited.bind (reads _) fun shown _ => inherited.followed (types shown) after
  | constant tag value =>
    unfold ElementValue.render
    exact inherited.bind (literals tag value) fun literal _ => inherited.print literal.text

/-! ### Fields -/

/-- The parts of a field that are more than plain text have a property. -/
structure Field.Parts (holds : (α : Type) → Rendering α → Prop) (field : Field) : Prop where
  keywords : ∀ text, holds Unit (keyword text)
  annotations : ∀ mark ∈ field.attributes.annotations, holds Unit mark.render
  typeRead : holds JavaType (Emission.ofExcept field.type)
  type : ∀ shown, field.type = .ok shown → holds Unit (Rendering.type shown)
  nameRead : holds String (Emission.ofExcept field.name)

theorem Field.renderDeclaration_inherits {field : Field} (parts : field.Parts holds)
    (inherited : Inherited holds) (asInterface : Bool) :
    holds Unit (field.renderDeclaration asInterface) := by
  refine inherited.followed (inherited.renderAnnotations parts.annotations)
    (inherited.followed (inherited.renderKeywords parts.keywords _)
      (inherited.bind parts.typeRead fun shown known => ?_))
  refine inherited.followed (parts.type shown known) (inherited.followed (inherited.print " ")
    (inherited.bind parts.nameRead fun name _ => inherited.followed (inherited.identifier name) ?_))
  dsimp only
  cases field.constant with
  | none => exact inherited.text rfl rfl
  | some literal => exact inherited.text rfl rfl

/-! ### Methods -/

namespace Method

/-- The parts of a method that are more than plain text up to its last parameter have a
property. -/
structure HeadParts (holds : (α : Type) → Rendering α → Prop) (method : Method) : Prop where
  result : holds Unit (type method.prototype.signature.result)
  marks : ∀ position, ∀ mark ∈ method.attributes.parameterAnnotations position,
    holds Unit mark.render
  arguments : ∀ argument ∈ method.prototype.declaredArguments, holds Unit (type argument)
  components : ∀ component, .array component ∈ method.prototype.declaredArguments →
    holds Unit (type component)

/-- The parts of a method that are more than plain text have a property, and so have the calls of
its analysed body. -/
structure Parts (holds : (α : Type) → Rendering α → Prop) (method : Method)
    (analysed : Option StructuredBody) : Prop extends HeadParts holds method where
  keywords : ∀ text, holds Unit (keyword text)
  annotations : ∀ mark ∈ method.attributes.annotations, holds Unit mark.render
  throws : ∀ thrown ∈ method.thrownTypes, holds Unit (type thrown)
  value : ∀ value, method.body.defaultValue? = some value → holds Unit value.render
  body : ∀ body, analysed = some body →
    holds Unit (.emitAll (body.calls.map (Call.withLocalNames method.localClasses)))

variable {method : Method} {analysed : Option StructuredBody}

theorem renderHead_inherits (parts : method.HeadParts holds) (inherited : Inherited holds) :
    holds Unit method.renderHead := by
  have named : holds Unit (
      if method.kind.isConstructor then identifier method.owner.name.simpleName
      else do
        type method.prototype.signature.result
        print " "
        identifier method.name) := by
    split
    · exact inherited.identifier _
    · exact inherited.followed parts.result (inherited.text rfl rfl)
  unfold renderHead
  dsimp only
  split
  · exact named
  · exact inherited.followed (inherited.print _) named

/-- The last parameter may be written by its component. -/
theorem renderParameterType_inherits {argument : JavaType} (inherited : Inherited holds)
    (whole : holds Unit (type argument))
    (component : ∀ component, argument = .array component → holds Unit (type component))
    (isVariable : Bool) : holds Unit (renderParameterType isVariable argument) := by
  unfold renderParameterType
  split
  · split
    · exact inherited.followed (component _ rfl) (inherited.print "...")
    · exact whole
  · exact whole

theorem renderParameter_inherits (parts : method.HeadParts holds) (inherited : Inherited holds)
    {argument : JavaType} (declared : argument ∈ method.prototype.declaredArguments)
    (position : Nat) (name : String) :
    holds Unit (method.renderParameter position argument name) := by
  have marked := inherited.forEach fun mark inside =>
    inherited.followed (parts.marks position mark inside) (inherited.print " ")
  have shown := renderParameterType_inherits inherited (parts.arguments argument declared)
    fun component array => parts.components component (array ▸ declared)
  exact inherited.followed marked (inherited.followed (shown _) (inherited.text rfl rfl))

theorem renderParametersFrom_inherits (parts : method.HeadParts holds)
    (inherited : Inherited holds) {parameters : List (JavaType × String)}
    (declared : ∀ parameter ∈ parameters, parameter.1 ∈ method.prototype.declaredArguments)
    (position : Nat) : holds Unit (method.renderParametersFrom position parameters) := by
  induction parameters generalizing position with
  | nil => exact inherited.nothing
  | cons parameter rest hypothesis =>
    obtain ⟨here, behind⟩ := List.forall_mem_cons.mp declared
    have first := renderParameter_inherits parts inherited here position parameter.2
    have others := inherited.followed first (hypothesis behind (position + 1))
    unfold renderParametersFrom
    dsimp only
    split
    · exact others
    · exact inherited.followed (inherited.print ", ") others

theorem renderParameters_inherits (parts : method.HeadParts holds) (inherited : Inherited holds) :
    holds Unit method.renderParameters :=
  renderParametersFrom_inherits parts inherited
    (fun _ inside => (List.of_mem_zip inside).1) 0

theorem renderTypes_inherits (inherited : Inherited holds) {listed : List JavaType}
    (types : ∀ shown ∈ listed, holds Unit (type shown)) : holds Unit (renderTypes listed) := by
  induction listed with
  | nil => exact inherited.nothing
  | cons first rest hypothesis =>
    obtain ⟨here, behind⟩ := List.forall_mem_cons.mp types
    cases rest with
    | nil => exact here
    | cons => exact inherited.followed here (inherited.followed (inherited.print ", ")
        (hypothesis behind))

theorem renderPreamble_inherits (parts : method.Parts holds analysed) (inherited : Inherited holds)
    (asInterface : Bool) : holds Unit (method.renderPreamble asInterface) := by
  have declared := inherited.followed (inherited.renderAnnotations parts.annotations)
    (inherited.renderKeywords parts.keywords (method.keywords asInterface))
  have marked : holds Unit (do
      if method.isOverride then do
        print "@Override"
        newline
      renderAnnotations method.attributes.annotations
      renderKeywords (method.keywords asInterface)) := by
    split
    · exact inherited.followed (inherited.print _)
        (inherited.followed (inherited.plain .newline rfl) declared)
    · exact declared
  unfold renderPreamble
  cases method.comments with
  | none => exact marked
  | some comments =>
    exact inherited.followed (inherited.forEach fun text _ => inherited.plain (.comment text) rfl)
      marked

theorem renderThrows_inherits (parts : method.Parts holds analysed) (inherited : Inherited holds) :
    holds Unit method.renderThrows := by
  have listed := inherited.followed (inherited.print " ")
    (renderTypes_inherits inherited parts.throws)
  unfold renderThrows
  split
  · exact inherited.followed (inherited.print " ")
      (inherited.followed (parts.keywords "throws") listed)
  · exact inherited.nothing

theorem renderSignature_inherits (parts : method.Parts holds analysed)
    (inherited : Inherited holds) : holds Unit method.renderSignature :=
  inherited.followed (renderHead_inherits parts.toHeadParts inherited) <|
    inherited.followed (inherited.print "(") <|
      inherited.followed (renderParameters_inherits parts.toHeadParts inherited) <|
        inherited.followed (inherited.print ")") (renderThrows_inherits parts inherited)

theorem renderBody_inherits (parts : method.Parts holds analysed) (inherited : Inherited holds) :
    holds Unit (method.renderBody analysed) := by
  have ended := inherited.plain .endLine rfl
  unfold renderBody
  cases analysed with
  | some body =>
    dsimp only
    split
    · exact inherited.followed (inherited.print " ") (parts.body body rfl)
    · exact parts.body body rfl
  | none =>
    cases defaulted : method.body.defaultValue? with
    | some value =>
      have written := inherited.followed (parts.value value defaulted) ended
      exact inherited.followed (inherited.print " ") (inherited.followed (parts.keywords "default")
        (inherited.followed (inherited.print " ") written))
    | none => exact ended

/-- A method that is written has a property that its parts have. -/
theorem renderAnalysed_inherits (parts : method.Parts holds analysed) (inherited : Inherited holds)
    (asInterface : Bool) : holds Unit (method.renderAnalysed asInterface analysed) := by
  have body := renderBody_inherits parts inherited
  refine inherited.followed (renderPreamble_inherits parts inherited asInterface) ?_
  dsimp only
  split
  · exact inherited.followed (renderSignature_inherits parts inherited) body
  · exact body

end Method

end ClassMembers
