/-
This file holds methods. Part of what is known of a method is computed when it
is first asked for and then kept: the analysis of its code, the names of its
parameters and the types it throws. A question that may compute something
answers with the method after it as well.
-/

import ClassMembers.Annotations.Usages
import ClassMembers.Comments
import ClassMembers.Method.Body
import ClassMembers.Prototype
import ClassMembers.Record
import ClassMembers.Visibility

namespace ClassMembers

/-- Whether a method is hidden, and why. -/
inductive HiddenState where
  | visible
  | hiddenSynthetic
  | hiddenBridge
  deriving DecidableEq

/-- A method. Its record has lost the attribute of the code, which the body has
taken. -/
structure Method where
  record : Record
  name : String
  descriptor : String
  flags : MethodFlags
  owner : DeclaringClass
  body : MethodBody
  nameTable : Option (List LocalVariable)
  prototype : Prototype
  hidden : HiddenState
  isOverride : Bool
  localClasses : LocalClasses
  computedThrows : Option (List JavaType)
  comments : Option Comments

namespace Method

/-! ### Making a method -/

/-- The table that names parameters, if it is to be used and the code has one. -/
def nameTableOf (options : MemberOptions) (body : MethodBody) : Option (List LocalVariable) :=
  if options.useNameTable then body.code?.bind Code.localVariables? else none

/-- A bridge method that is not static starts out hidden if bridges are to be
hidden. -/
def initiallyHidden (options : MemberOptions) (flags : MethodFlags) : HiddenState :=
  if options.hideBridgeMethods && flags.contains Flag.isBridge && !flags.contains Flag.isStatic
  then .hiddenBridge else .visible

/-- The method of a record with the given name. -/
def build (record : Record) (pool : Pool) (owner : DeclaringClass) (options : MemberOptions)
    (name : String) : Except MemberError Method := do
  let descriptor ← (record.descriptor pool).mapError .classFile
  let flags := record.methodFlags
  let (body, attributes) := MethodBody.takeFrom record.attributes
  let prototype ← (Prototype.ofSource {
    name
    owner := owner.name
    ownerIsInner := owner.isInner
    flags
    kind := .ofName name owner.isEnum
    descriptor
    signature := attributes.signature? }).mapError .signature
  return {
    record := { record with attributes }
    name
    descriptor
    flags
    owner
    body
    nameTable := nameTableOf options body
    prototype
    hidden := initiallyHidden options flags
    isOverride := false
    localClasses := .empty
    computedThrows := none
    comments := none }

/-- The method of a record. Once its name is known, a failure names the method. -/
def ofRecord (record : Record) (pool : Pool) (owner : DeclaringClass)
    (options : MemberOptions) : Except MemberError Method := do
  let name ← (record.name pool).mapError .classFile
  (build record pool owner options name).mapError (.naming (owner.name.text ++ "." ++ name))

/-- The method whose record is at the front of bytes. -/
def ofBytes (decoder : AttributeDecoder) (pool : Pool) (version : Version) (raw : List UInt8)
    (owner : DeclaringClass) (options : MemberOptions) : Except MemberError Method := do
  let record ← (Record.ofBytes decoder pool version raw).mapError .classFile
  ofRecord record pool owner options

/-! ### What a method is -/

/-- The class, the name and the descriptor of a method. -/
def text (method : Method) : String :=
  method.owner.name.text ++ "." ++ method.name ++ method.descriptor

/-- The attributes other than that of the code. -/
def attributes (method : Method) : Attributes := method.record.attributes

/-- The kind of constructor that a method is. -/
def kind (method : Method) : ConstructorKind := method.prototype.kind

/-- Whether code in a class can see a method. -/
def visibleTo (method : Method) (bindings : TypeBindings) (caller : ClassName) : Bool :=
  MethodFlags.visibleTo method.flags bindings method.owner.name caller

/-! ### Marks -/

/-- Hides a method because a compiler made it. -/
def hideSynthetic (method : Method) : Method := { method with hidden := .hiddenSynthetic }

/-- Marks a method as overriding another one. -/
def markOverride (method : Method) : Method := { method with isOverride := true }

/-- Puts comments above a method, in place of earlier ones. -/
def setComments (method : Method) (comments : Comments) : Method :=
  { method with comments := some comments }

/-- Registers a local class that the body uses. -/
def markLocalClass (method : Method) (type : JavaType) (suggestion : Option String) :
    Except MemberError Method := do
  let registry ←
    (method.localClasses.register type suggestion).mapError (.naming method.text)
  return { method with localClasses := registry }

/-- Adds the local classes of another method. -/
def copyLocalClasses (method other : Method) : Method :=
  { method with localClasses := method.localClasses.merge other.localClasses }

/-! ### Names of parameters -/

/-- The namer of the parameters. -/
def namer (method : Method) : Namer := .ofTable? method.nameTable

/-- The names of the parameters. -/
def parameterNames (method : Method) : List String :=
  method.prototype.parameterNames method.namer

/-- The method once its names have been asked for. -/
def withNames (method : Method) : Method :=
  { method with prototype := method.prototype.withNames method.namer }

/-! ### Thrown types -/

/-- The types that the attribute for exceptions declares. -/
def declaredThrows (method : Method) : List JavaType :=
  (method.attributes.exceptions?.getD []).map .named

/-- Whether what the signature throws erases to what the attribute declares. -/
def throwsAgree (method : Method) : Bool :=
  let generic := method.prototype.signature.throws
  !generic.isEmpty && generic.map method.prototype.signature.erase = method.declaredThrows

/-- The types that a method throws, by its attributes as they are: those of the
signature if they agree with the attribute for exceptions, each once. -/
def throwsNow (method : Method) : List JavaType :=
  if method.throwsAgree then method.prototype.signature.throws.eraseDups
  else method.declaredThrows.eraseDups

/-- The types that a method throws. -/
def thrownTypes (method : Method) : List JavaType :=
  method.computedThrows.getD method.throwsNow

/-- The method once its thrown types have been asked for. -/
def withThrows (method : Method) : Method :=
  { method with computedThrows := some method.thrownTypes }

/-! ### Analysis -/

/-- The analysed body, and the method after the analysis. A failure names the
method. -/
def analysis (method : Method) (analyser : CodeAnalyser) :
    Except MemberError StructuredBody × Method :=
  let (answer, body, localClasses) :=
    method.body.analysis analyser method.localClasses method.name
  (answer.mapError (.naming method.text), { method with body, localClasses })

/-- Computes what is otherwise computed when it is first asked for: the analysis
if there is code, and then the names of the parameters. -/
def analyse (method : Method) (analyser : CodeAnalyser) : Except MemberError Unit × Method :=
  if method.body.hasCode then
    match method.analysis analyser with
    | (.ok _, method) => (.ok (), method.withNames)
    | (.error error, method) => (.error error, method)
  else (.ok (), method.withNames)

/-- Drops the code and all attributes. -/
def releaseCode (method : Method) : Method :=
  { method with
    body := method.body.release
    record := { method.record with attributes := .empty } }

/-! ### Usages -/

/-- The types that a method mentions apart from those it throws: those of its
prototype, annotations and default value, those of the body if it was analysed,
and its local classes. -/
def usagesBeforeThrows (method : Method) : Usages Unit := do
  Usages.reportAll method.prototype.mentionedTypes
  .forEach (method.attributes.annotations ++ method.attributes.allParameterAnnotations)
    AnnotationUse.usages
  match method.body.defaultValue? with
  | some value => value.usages
  | none => pure ()
  match method.body.analysed? with
  | some body => Usages.reportAll body.uses
  | none => pure ()
  Usages.reportAll (method.localClasses.classes.map .ofClass)

/-- The types that a method mentions, and the method after they were collected.
A failure names the method. -/
def usages (method : Method) : Usages Unit × Method :=
  let mentioned := do
    method.usagesBeforeThrows
    Usages.reportAll method.thrownTypes
  (mentioned.mapError (.naming method.text),
    if method.usagesBeforeThrows.succeeds then method.withThrows else method)

end Method

end ClassMembers
