/-
This file proves where the faults of an attribute end. An attribute that is complete,
with a name that the pool knows and all the bytes it declares, becomes a value of its
kind, or is kept as the block of its bytes, or fails with a fault of the pool; no other
fault leaves it, at whatever depth of its annotations or of its code it arises. Nor does a
fault of the pool come from nowhere: it is what the pool answers to two of the bytes.

The first half goes by the shape of the readers. A reader accounts for its faults if what
it leaves is an end of what there was, and if every fault of the pool is an answer of the
pool to an index among these bytes; both together are kept when readers are composed. The
second half is about code, whose attributes are decoded inside it: a fault of the pool
passes through all of the code around it, and any other fault ends at the next code.
-/

import ClassMembers.Proofs.Attribute.RoundTrip

namespace ClassMembers

open Reader Sequencing

variable {pool : Pool} {version : Version}

/-! ### Indexes that the pool refuses -/

/-- Asked about an index, the pool fails with this fault. -/
def Pool.Refuses (pool : Pool) (index : UInt16) (fault : ClassError) : Prop :=
  pool.utf8 index = .error fault ∨ pool.className index = .error fault ∨
    pool.constant index = .error fault

/-- Two of these bytes are an index about which the pool fails with this fault. -/
def Pool.RefusesIn (pool : Pool) (raw : List UInt8) (fault : ClassError) : Prop :=
  ∃ index, u16Bytes index <:+: raw ∧ pool.Refuses index fault

theorem Pool.RefusesIn.mono {part raw : List UInt8} {fault : ClassError}
    (refused : pool.RefusesIn part fault) (inside : part <:+: raw) :
    pool.RefusesIn raw fault := by
  obtain ⟨index, spelled, refuses⟩ := refused
  exact ⟨index, spelled.trans inside, refuses⟩

namespace Reader

variable {α β : Type}

/-- What a reader leaves is an end of what there was, and every fault of the pool is an
answer of the pool to an index among the bytes. -/
structure Accountable (pool : Pool) (reader : Reader α) : Prop where
  leaves : ∀ {raw value rest}, reader raw = .ok value rest → rest <:+ raw
  blames : ∀ {raw fault rest}, reader raw = .error fault rest → fault.isPoolError = true →
    pool.RefusesIn raw fault

/-! ### Composition -/

theorem pure_accountable (value : α) : Accountable pool (pure value : Reader α) where
  leaves done := by
    cases done
    exact List.suffix_refl _
  blames failed := by cases failed

theorem throw_accountable {fault : ClassError} (harmless : fault.isPoolError = false) :
    Accountable pool (throw fault : Reader α) where
  leaves done := by cases done
  blames failed isPool := by
    cases failed
    rw [harmless] at isPool
    cases isPool

theorem Accountable.bind {reader : Reader α} {next : α → Reader β}
    (before : Accountable pool reader) (behind : ∀ value, Accountable pool (next value)) :
    Accountable pool (reader >>= next) where
  leaves done := by
    obtain ⟨value, middle, first, second⟩ := bind_eq_ok.mp done
    exact ((behind value).leaves second).trans (before.leaves first)
  blames {raw} fault rest failed isPool := by
    cases first : reader raw with
    | ok value middle =>
      rw [bind_of_ok first] at failed
      exact ((behind value).blames failed isPool).mono (before.leaves first).isInfix
    | error other middle =>
      rw [bind_of_error first] at failed
      cases failed
      exact before.blames first isPool

theorem Accountable.bind_pure {reader : Reader α} (before : Accountable pool reader)
    (next : α → β) : Accountable pool (reader >>= fun value => pure (next value)) :=
  before.bind fun value => pure_accountable (next value)

/-! ### Blocks, numbers and tables -/

/-- A reader that delimits what it reads and does not ask the pool. -/
theorem accountable_of_selfDelimiting {reader : Reader α} (delimiting : SelfDelimiting reader)
    (harmless : ∀ {raw fault rest}, reader raw = .error fault rest → fault.isPoolError = false) :
    Accountable pool reader where
  leaves {raw} value rest done := by
    obtain ⟨taken, split, -⟩ := delimiting raw value rest done
    exact ⟨taken, split.symm⟩
  blames failed isPool := by
    rw [harmless failed] at isPool
    cases isPool

theorem exactly_accountable (count : Nat) : Accountable pool (exactly count) := by
  refine accountable_of_selfDelimiting (exactly_selfDelimiting count) fun failed => ?_
  unfold exactly at failed
  split at failed <;> cases failed
  rfl

theorem bytes_accountable (count : Nat) : Accountable pool (bytes count) := by
  refine accountable_of_selfDelimiting (bytes_selfDelimiting count) fun failed => ?_
  unfold bytes at failed
  split at failed <;> cases failed
  rfl

theorem natural_accountable (width : Nat) : Accountable pool (natural width) :=
  (exactly_accountable width).bind_pure _

theorem u8_accountable : Accountable pool u8 := (natural_accountable 1).bind_pure _

theorem u16_accountable : Accountable pool u16 := (natural_accountable 2).bind_pure _

theorem u32_accountable : Accountable pool u32 := (natural_accountable 4).bind_pure _

theorem times_accountable {item : Reader α} (each : Accountable pool item) (count : Nat) :
    Accountable pool (times count item) := by
  induction count with
  | zero => exact pure_accountable []
  | succ count hypothesis => exact each.bind fun _ => hypothesis.bind_pure _

theorem table_accountable {item : Reader α} (each : Accountable pool item) :
    Accountable pool (table item) :=
  u16_accountable.bind fun count => times_accountable each count.toNat

/-! ### Questions to the pool -/

/-- An index is read, and the pool is asked about it. -/
theorem lookUp_accountable {ask : UInt16 → Except ClassError α}
    (asks : ∀ index fault, ask index = .error fault → pool.Refuses index fault) :
    Accountable pool (u16 >>= fun index => ofExcept (ask index)) where
  leaves done := by
    obtain ⟨index, middle, first, second⟩ := bind_eq_ok.mp done
    obtain ⟨-, rfl⟩ := ofExcept_eq_ok second
    exact (u16_accountable : Accountable pool u16).leaves first
  blames {raw} fault rest failed isPool := by
    cases first : u16 raw with
    | ok index middle =>
      rw [bind_of_ok first] at failed
      cases answer : ask index with
      | ok value =>
        rw [answer] at failed
        cases failed
      | error other =>
        rw [answer] at failed
        cases failed
        rw [u16_eq_ok first]
        exact ⟨index, (List.prefix_append _ _).isInfix, asks index _ answer⟩
    | error other middle =>
      rw [bind_of_error first] at failed
      cases failed
      exact u16_accountable.blames first isPool

end Reader

theorem readUtf8Of_accountable : Accountable pool (readUtf8Of pool) :=
  lookUp_accountable fun _ _ => .inl

theorem readClassNameOf_accountable : Accountable pool (readClassNameOf pool) :=
  lookUp_accountable fun _ _ failed => .inr (.inl failed)

/-! ### Annotations -/

section Nested

variable {value : Reader ElementValue}

theorem annotationUse_accountable (each : Accountable pool value) :
    Accountable pool (AnnotationUse.readWith value pool) := by
  have element : Accountable pool (AnnotationElement.readWith value pool) :=
    readUtf8Of_accountable.bind fun _ => each.bind_pure _
  exact readUtf8Of_accountable.bind fun _ => (table_accountable element).bind_pure _

theorem elementValue_readBody_accountable (each : Accountable pool value) (tag : Char) :
    Accountable pool (ElementValue.readBody value pool tag) := by
  have constant : Accountable pool (u16 >>= fun index => ofExcept (pool.constant index)) :=
    lookUp_accountable fun _ _ failed => .inr (.inr failed)
  unfold ElementValue.readBody
  split
  · have asked := constant.bind_pure (ElementValue.constant tag)
    rwa [bind_assoc] at asked
  · split
    · exact readUtf8Of_accountable.bind_pure _
    · exact readUtf8Of_accountable.bind fun _ => readUtf8Of_accountable.bind_pure _
    · exact readUtf8Of_accountable.bind_pure _
    · exact (annotationUse_accountable each).bind_pure _
    · exact (table_accountable each).bind_pure _
    · exact throw_accountable rfl

end Nested

/-- The induction is on the bound of the depth. -/
theorem readWithin_accountable (depth : Nat) :
    Accountable pool (ElementValue.readWithin pool depth) := by
  induction depth with
  | zero =>
    refine ⟨nofun, fun failed isPool => ?_⟩
    cases failed
    cases isPool
  | succ depth hypothesis =>
    exact u8_accountable.bind fun tag => elementValue_readBody_accountable hypothesis _

theorem elementValue_accountable : Accountable pool (ElementValue.read pool) where
  leaves {raw} _ _ done := (readWithin_accountable raw.length).leaves done
  blames {raw} _ _ failed := (readWithin_accountable raw.length).blames failed

theorem readAnnotations_accountable : Accountable pool (readAnnotations pool) :=
  table_accountable (annotationUse_accountable elementValue_accountable)

theorem readParameterAnnotations_accountable :
    Accountable pool (readParameterAnnotations pool) :=
  u8_accountable.bind fun _ => times_accountable readAnnotations_accountable _

/-! ### Code and the attributes inside it -/

/-- Every fault of the pool that a decoder fails with is an answer of the pool to an index
among the bytes. -/
def AttributeDecoder.Blames (decoder : AttributeDecoder) (pool : Pool) (version : Version) :
    Prop :=
  ∀ raw fault, decoder raw pool version = .error fault → fault.isPoolError = true →
    pool.RefusesIn raw fault

section Bodies

variable {decoder : AttributeDecoder}

theorem decoder_accountable (blames : decoder.Blames pool version) :
    Accountable pool (decoder.read pool version) := by
  have passes : ∀ row : Attribute × Nat, Accountable pool (skip row.2 >>= fun _ => pure row) :=
    fun row => ((bytes_accountable row.2).bind_pure _).bind_pure _
  constructor
  · intro raw row rest done
    rw [decoder_read_eq] at done
    cases answer : decoder raw pool version with
    | ok row =>
      rw [answer] at done
      exact (passes row).leaves done
    | error fault =>
      rw [answer] at done
      cases done
  · intro raw fault rest failed isPool
    rw [decoder_read_eq] at failed
    cases answer : decoder raw pool version with
    | ok row =>
      rw [answer] at failed
      exact (passes row).blames failed isPool
    | error other =>
      rw [answer] at failed
      cases failed
      exact blames raw _ answer isPool

theorem codeRead_accountable (blames : decoder.Blames pool version) :
    Accountable pool (Code.read decoder pool version) := by
  have handler : Accountable pool ExceptionHandler.read :=
    u16_accountable.bind fun _ => u16_accountable.bind fun _ =>
      u16_accountable.bind fun _ => u16_accountable.bind_pure _
  have inner : ∀ count, Accountable pool (decoder.readTable pool version count) :=
    fun count => (times_accountable (decoder_accountable blames) count).bind_pure _
  exact u16_accountable.bind fun _ => u16_accountable.bind fun _ =>
    u32_accountable.bind fun _ => (bytes_accountable _).bind fun _ =>
      (table_accountable handler).bind fun _ => u16_accountable.bind fun _ =>
        (inner _).bind_pure _

theorem readBody_accountable (blames : decoder.Blames pool version) (kind : AttributeKind) :
    Accountable pool (kind.readBody decoder pool version) := by
  have row : Accountable pool (LocalVariable.read pool) :=
    u16_accountable.bind fun _ => u16_accountable.bind fun _ =>
      readUtf8Of_accountable.bind fun _ => readUtf8Of_accountable.bind fun _ =>
        u16_accountable.bind_pure _
  cases kind with
  | constantValue => exact u16_accountable.bind_pure _
  | code => exact (codeRead_accountable blames).bind_pure _
  | exceptions => exact (table_accountable readClassNameOf_accountable).bind_pure _
  | signature => exact readUtf8Of_accountable.bind_pure _
  | synthetic => exact pure_accountable _
  | deprecated => exact pure_accountable _
  | annotationDefault => exact elementValue_accountable.bind_pure _
  | visibleAnnotations => exact readAnnotations_accountable.bind_pure _
  | invisibleAnnotations => exact readAnnotations_accountable.bind_pure _
  | visibleParameterAnnotations => exact readParameterAnnotations_accountable.bind_pure _
  | invisibleParameterAnnotations => exact readParameterAnnotations_accountable.bind_pure _
  | localVariables => exact (table_accountable row).bind_pure _

/-- A body fails with a fault of the pool alone. -/
theorem ofBody_eq_error (blames : decoder.Blames pool version) {name : String}
    {body : List UInt8} {fault : ClassError}
    (failed : Attribute.ofBody decoder pool version name body = .error fault) :
    fault.isPoolError = true ∧ pool.RefusesIn body fault := by
  unfold Attribute.ofBody at failed
  cases known : AttributeKind.ofNameIn? version name with
  | none =>
    rw [known] at failed
    cases failed
  | some kind =>
    rw [known] at failed
    simp only at failed
    cases read : kind.readBody decoder pool version body with
    | ok entry rest =>
      rw [read] at failed
      cases failed
    | error other rest =>
      rw [read] at failed
      simp only at failed
      split at failed
      · rename_i isPool
        cases failed
        exact ⟨isPool, (readBody_accountable blames kind).blames read isPool⟩
      · cases failed

end Bodies

/-- The induction is on the bound of the depth. -/
theorem decodeAttributeWithin_blames (depth : Nat) :
    AttributeDecoder.Blames (decodeAttributeWithin depth) pool version := by
  induction depth with
  | zero =>
    intro raw fault failed isPool
    cases failed
    cases isPool
  | succ depth hypothesis =>
    intro raw fault failed isPool
    have headed : Accountable pool (readAttributeHeader pool) :=
      readUtf8Of_accountable.bind fun _ => u32_accountable.bind_pure _
    rw [decodeAttributeWithin] at failed
    cases header : readAttributeHeader pool raw with
    | error other rest =>
      rw [header] at failed
      cases failed
      exact headed.blames header isPool
    | ok pair rest =>
      obtain ⟨name, declared⟩ := pair
      rw [header] at failed
      simp only at failed
      split at failed
      · cases failed
        cases isPool
      · rcases except_bind_eq_error.mp failed with inside | ⟨entry, -, done⟩
        · refine ((ofBody_eq_error hypothesis inside).2.mono ?_).mono
            (headed.leaves header).isInfix
          exact (List.take_prefix _ _).isInfix
        · cases done

theorem decodeAttribute_blames :
    AttributeDecoder.Blames decodeAttribute pool version :=
  fun raw => decodeAttributeWithin_blames raw.length raw

/-! ### What becomes of an attribute -/

/-- What a body of a kind is read to is an attribute of that kind. -/
theorem kind?_of_readBody {decoder : AttributeDecoder} {kind : AttributeKind}
    {body rest : List UInt8} {entry : Attribute}
    (read : kind.readBody decoder pool version body = .ok entry rest) :
    entry.kind? = some kind := by
  cases kind with
  | synthetic =>
    cases read
    rfl
  | deprecated =>
    cases read
    rfl
  | _ =>
    obtain ⟨value, middle, -, done⟩ := bind_eq_ok.mp read
    cases done
    rfl

/-- An attribute is what its body was read to, or the block of the body. -/
theorem ofBody_eq_ok {decoder : AttributeDecoder} {name : String} {body : List UInt8}
    {entry : Attribute}
    (done : Attribute.ofBody decoder pool version name body = .ok entry) :
    (∃ kind, AttributeKind.ofNameIn? version name = some kind ∧ entry.kind? = some kind) ∨
      entry = .unknown name body := by
  unfold Attribute.ofBody at done
  cases known : AttributeKind.ofNameIn? version name with
  | none =>
    rw [known] at done
    cases done
    exact .inr rfl
  | some kind =>
    rw [known] at done
    simp only at done
    cases read : kind.readBody decoder pool version body with
    | ok result rest =>
      rw [read] at done
      cases done
      exact .inl ⟨kind, rfl, kind?_of_readBody read⟩
    | error fault rest =>
      rw [read] at done
      simp only at done
      split at done
      · cases done
      · cases done
        exact .inr rfl

/-- What may become of an attribute with a name and a body: a value of the kind of that
name; the block of the body, which where generics have a meaning is not how any value of
a kind is written; or a fault of the pool, about an index in the body. -/
inductive Attribute.Contained (pool : Pool) (version : Version) (name : String)
    (body : List UInt8) : Except ClassError (Attribute × Nat) → Prop
  | typed {kind : AttributeKind} {entry : Attribute}
      (known : AttributeKind.ofNameIn? version name = some kind)
      (ofKind : entry.kind? = some kind) (named : entry.name = name) :
      Contained pool version name body (.ok (entry, 6 + body.length))
  | kept (malformed : version.supportsGenerics = true → ∀ entry kind, entry.kind? = some kind →
        entry.name = name → ¬ Attribute.BodyWritten pool body entry) :
      Contained pool version name body (.ok (.unknown name body, 6 + body.length))
  | fatal {fault : ClassError} (isPool : fault.isPoolError = true)
      (refused : pool.RefusesIn body fault) :
      Contained pool version name body (.error fault)

/-- What is kept as a block is the body under its name. -/
theorem Attribute.Contained.of_unknown {name other : String} {body block : List UInt8} {taken : Nat}
    {result : Except ClassError (Attribute × Nat)}
    (contained : Attribute.Contained pool version name body result)
    (kept : result = .ok (.unknown other block, taken)) :
    result = .ok (.unknown name body, 6 + body.length) := by
  cases contained with
  | typed known ofKind named =>
    obtain ⟨same, -⟩ := Prod.mk.inj (Except.ok.inj kept)
    rw [same] at ofKind
    cases ofKind
  | kept malformed => rfl
  | fatal isPool refused => cases kept

theorem decodeAttribute_framed_contained {nameIndex : UInt16} {name : String}
    {body : List UInt8} (named : pool.utf8 nameIndex = .ok name) (short : body.length < 2 ^ 32)
    (rest : List UInt8) :
    Attribute.Contained pool version name body
      (decodeAttribute (attributeBytes nameIndex body ++ rest) pool version) := by
  have framed : decodeAttribute (attributeBytes nameIndex body ++ rest) pool version = _ :=
    decodeAttribute_framed named short rest
  cases answer : Attribute.ofBody decodeAttribute pool version name body with
  | error fault =>
    rw [framed, answer]
    obtain ⟨isPool, refused⟩ := ofBody_eq_error decodeAttribute_blames answer
    exact .fatal isPool refused
  | ok entry =>
    rcases ofBody_eq_ok answer with ⟨kind, known, ofKind⟩ | rfl
    · rw [framed, answer]
      refine .typed known ofKind ?_
      rw [Attribute.name_eq_of_kind? ofKind]
      refine AttributeKind.name_of_ofName? ?_
      rw [AttributeKind.ofNameIn?, Option.filter_eq_some_iff] at known
      exact known.1
    · rw [framed, answer]
      refine .kept fun generic entry kind ofKind sameName written => ?_
      have decodes := decodeAttribute_decodes generic (.framed (sameName ▸ named) short written) rest
      rw [framed, answer] at decodes
      obtain ⟨same, -⟩ := Prod.mk.inj (Except.ok.inj decodes)
      rw [← same] at ofKind
      cases ofKind

/-! ### Faults inside code -/

/-- The bytes of code up to some place in the table of its attributes. -/
def codeFront (maxStack maxLocals count : UInt16) (code handlerBytes before : List UInt8) :
    List UInt8 :=
  u16Bytes maxStack ++ (u16Bytes maxLocals ++ (digits 4 code.length ++ (code ++
    (handlerBytes ++ (u16Bytes count ++ before)))))

/-- The attribute at the front of the first bytes is code, and the last attribute that is
asked for inside it, behind some that are decoded, is at the front of the second bytes. -/
inductive CodeAsks (pool : Pool) (version : Version) : List UInt8 → List UInt8 → Prop
  | inside {nameIndex maxStack maxLocals count : UInt16}
      {code handlerBytes before inner body behind : List UInt8}
      {handlers : List ExceptionHandler} {earlier : List Attribute}
      (named : pool.utf8 nameIndex = .ok AttributeKind.code.name)
      (split : body = codeFront maxStack maxLocals count code handlerBytes before ++ inner)
      (short : body.length < 2 ^ 32)
      (handled : Table ExceptionHandler.Written handlerBytes handlers)
      (decoded : Sequence (AttributeDecoder.Decodes decodeAttribute pool version) before earlier)
      (more : earlier.length < count.toNat) :
      CodeAsks pool version (attributeBytes nameIndex body ++ behind) inner

theorem times_decoder_of_fault {decoder : AttributeDecoder} {before inner : List UInt8}
    {earlier : List Attribute} {fault : ClassError} {count : Nat}
    (decoded : Sequence (decoder.Decodes pool version) before earlier)
    (more : earlier.length < count) (failed : decoder inner pool version = .error fault) :
    times count (decoder.read pool version) (before ++ inner) = .error fault inner := by
  induction decoded generalizing count with
  | nil =>
    cases count with
    | zero => cases more
    | succ count =>
      refine bind_of_error ?_
      rw [List.nil_append, decoder_read_eq, failed]
  | @cons entry rest first second here behind hypothesis =>
    cases count with
    | zero => cases more
    | succ count =>
      rw [List.append_assoc]
      refine (bind_of_ok (decoder_reads here (second ++ inner))).trans ?_
      exact bind_of_error (hypothesis (Nat.lt_of_succ_lt_succ more))

theorem codeRead_of_fault {decoder : AttributeDecoder} {maxStack maxLocals count : UInt16}
    {code handlerBytes before inner : List UInt8} {handlers : List ExceptionHandler}
    {earlier : List Attribute} {fault : ClassError} (fits : code.length < 2 ^ 32)
    (handled : Table ExceptionHandler.Written handlerBytes handlers)
    (decoded : Sequence (decoder.Decodes pool version) before earlier)
    (more : earlier.length < count.toNat) (failed : decoder inner pool version = .error fault) :
    Code.read decoder pool version
        (codeFront maxStack maxLocals count code handlerBytes before ++ inner) =
      .error fault inner := by
  have length := (natural_reads (show _ < 256 ^ 4 from fits)).bind_pure UInt32.ofNat
  have block := bytes_reads code
  rw [← UInt32.toNat_ofNat_of_lt' fits] at block
  have table := table_reads handled fun _ _ _ => exceptionHandler_reads
  have asked : decoder.readTable pool version count.toNat (before ++ inner) = .error fault inner :=
    bind_of_error (times_decoder_of_fault decoded more failed)
  simp only [codeFront, List.append_assoc]
  refine (bind_of_ok (u16_reads maxStack _)).trans ?_
  refine (bind_of_ok (u16_reads maxLocals _)).trans ?_
  refine (bind_of_ok (length _)).trans ?_
  refine (bind_of_ok (block _)).trans ?_
  refine (bind_of_ok (table _)).trans ?_
  refine (bind_of_ok (u16_reads count _)).trans ?_
  exact bind_of_error asked

/-- A fault inside code leaves the attribute of the code if it is one of the pool. Otherwise
the attribute is kept as a block. -/
theorem decodeAttribute_of_codeAsks {raw inner : List UInt8} {fault : ClassError}
    (asks : CodeAsks pool version raw inner)
    (failed : decodeAttribute inner pool version = .error fault) :
    (fault.isPoolError = true → decodeAttribute raw pool version = .error fault) ∧
    (fault.isPoolError = false →
      ∃ name block taken, decodeAttribute raw pool version = .ok (.unknown name block, taken)) := by
  obtain ⟨named, split, short, handled, decoded, more⟩ := asks
  rename_i nameIndex maxStack maxLocals count code handlerBytes before body behind handlers earlier
  have fits : code.length < 2 ^ 32 := by
    refine Nat.lt_of_le_of_lt ?_ short
    rw [split, codeFront]
    simp only [List.length_append]
    omega
  have read : AttributeKind.code.readBody decodeAttribute pool version body = .error fault inner := by
    rw [split]
    exact bind_of_error (codeRead_of_fault fits handled decoded more failed)
  have known : AttributeKind.ofNameIn? version AttributeKind.code.name = some .code := by
    rw [AttributeKind.ofNameIn?, AttributeKind.ofName?_name]
    rfl
  have framed : decodeAttribute (attributeBytes nameIndex body ++ behind) pool version = _ :=
    decodeAttribute_framed named short behind
  have inside : Attribute.ofBody decodeAttribute pool version AttributeKind.code.name body =
      if fault.isPoolError then .error fault else .ok (.unknown AttributeKind.code.name body) := by
    rw [Attribute.ofBody, known]
    simp only [read]
  rw [inside] at framed
  constructor
  · intro isPool
    rw [framed, if_pos isPool]
    rfl
  · intro harmless
    rw [framed, if_neg (by rw [harmless]; exact Bool.false_ne_true)]
    exact ⟨_, _, _, rfl⟩

/-- However deep the code is in which the pool is asked, a fault of it leaves all of it. -/
theorem decodeAttribute_of_transGen_codeAsks {raw inner : List UInt8} {fault : ClassError}
    (asks : Relation.TransGen (CodeAsks pool version) raw inner) (isPool : fault.isPoolError = true)
    (failed : decodeAttribute inner pool version = .error fault) :
    decodeAttribute raw pool version = .error fault := by
  induction asks using Relation.TransGen.head_induction_on with
  | single asks => exact (decodeAttribute_of_codeAsks asks failed).1 isPool
  | head asks _ hypothesis => exact (decodeAttribute_of_codeAsks asks hypothesis).1 isPool

/-! ### Names without a meaning -/

/-- Before generics had a meaning, the attributes that came with them were blocks. -/
theorem decodeAttribute_of_generic {kind : AttributeKind} (early : version.supportsGenerics = false)
    (generic : kind.isGeneric = true) {nameIndex : UInt16} {body : List UInt8}
    (named : pool.utf8 nameIndex = .ok kind.name) (short : body.length < 2 ^ 32)
    (rest : List UInt8) :
    decodeAttribute (attributeBytes nameIndex body ++ rest) pool version =
      .ok (.unknown kind.name body, 6 + body.length) := by
  have unknown : AttributeKind.ofNameIn? version kind.name = none := by
    rw [AttributeKind.ofNameIn?, AttributeKind.ofName?_name, Option.filter_some, generic, early]
    rfl
  rw [decodeAttribute_framed named short, Attribute.ofBody, unknown]
  rfl

/-! ### Containment -/

/-- A complete attribute, whose name the pool knows and whose declared bytes are all there,
becomes a value of the kind of its name, or the block of exactly these bytes, or a fault of
the pool about an index among them; it takes its header and these bytes. A fault of the pool
inside code passes through any depth of code; any other one makes the code around it a
block. The attributes that came with generics are blocks in all earlier versions. -/
theorem decodeAttribute_contained {nameIndex : UInt16} {name : String} {declared : UInt32}
    {rest : List UInt8} (named : pool.utf8 nameIndex = .ok name)
    (complete : declared.toNat ≤ rest.length) :
    let raw := u16Bytes nameIndex ++ (u32Bytes declared ++ rest)
    let body := rest.take declared.toNat
    Attribute.Contained pool version name body (decodeAttribute raw pool version) ∧
    (∀ inner fault, decodeAttribute inner pool version = .error fault →
      (fault.isPoolError = true → Relation.TransGen (CodeAsks pool version) raw inner →
        decodeAttribute raw pool version = .error fault) ∧
      (fault.isPoolError = false → CodeAsks pool version raw inner →
        decodeAttribute raw pool version = .ok (.unknown name body, 6 + declared.toNat))) ∧
    (version.major.toNat < 49 → ∀ kind : AttributeKind, kind.isGeneric = true → kind.name = name →
      decodeAttribute raw pool version = .ok (.unknown name body, 6 + declared.toNat)) := by
  intro raw body
  have length : body.length = declared.toNat := List.length_take_of_le complete
  have short : body.length < 2 ^ 32 := by
    rw [length]
    exact declared.toNat_lt
  have split : raw = attributeBytes nameIndex body ++ rest.drop declared.toNat := by
    rw [attributeBytes, length, List.append_assoc, List.append_assoc, List.take_append_drop]
    rfl
  have contained : Attribute.Contained pool version name body
      (decodeAttribute (attributeBytes nameIndex body ++ rest.drop declared.toNat) pool version) :=
    decodeAttribute_framed_contained named short _
  rw [← split] at contained
  refine ⟨contained, fun inner fault failed => ⟨fun isPool asks => ?_, fun harmless asks => ?_⟩, ?_⟩
  · exact decodeAttribute_of_transGen_codeAsks asks isPool failed
  · obtain ⟨other, block, taken, kept⟩ := (decodeAttribute_of_codeAsks asks failed).2 harmless
    rw [contained.of_unknown kept, length]
  · rintro early kind generic rfl
    have unsupported : version.supportsGenerics = false := by
      rw [← Bool.not_eq_true, Version.supportsGenerics_iff]
      omega
    rw [split, decodeAttribute_of_generic unsupported generic named short, length]

/-- Code inside code, where the type of an annotation is an index beyond the pool. -/
theorem decodeAttribute_contained_nested :
    decodeAttribute
        ([0, 1] ++ ([0, 0, 0, 52] ++
          [0, 2, 0, 1, 0, 0, 0, 1, 177, 0, 0, 0, 1,
            0, 1, 0, 0, 0, 33, 0, 2, 0, 1, 0, 0, 0, 1, 177, 0, 0, 0, 2,
              0, 2, 0, 0, 0, 2, 0, 0, 0, 2, 0, 0, 0, 6, 0, 1, 0, 9, 0, 0, 255]))
        nestedPool ⟨52, 0⟩ = .error (.indexOutOfRange 9 5) := by
  have failed : decodeAttribute [0, 2, 0, 0, 0, 6, 0, 1, 0, 9, 0, 0] nestedPool ⟨52, 0⟩ =
      .error (.indexOutOfRange 9 5) := rfl
  have first : AttributeDecoder.Decodes decodeAttribute nestedPool ⟨52, 0⟩ _
      (.visibleAnnotations []) :=
    decodeAttribute_decodes rfl (.framed (show nestedPool.utf8 2 = _ from rfl) (by decide)
      (.visibleAnnotations (.counted (by decide) .nil)))
  have inside : ∀ {count : UInt16} {before : List UInt8} {earlier : List Attribute}
      (inner behind : List UInt8),
      Sequence (AttributeDecoder.Decodes decodeAttribute nestedPool ⟨52, 0⟩) before earlier →
      earlier.length < count.toNat →
      (codeFront 2 1 count [177] [0, 0] before ++ inner).length < 2 ^ 32 →
      CodeAsks nestedPool ⟨52, 0⟩
        (attributeBytes 1 (codeFront 2 1 count [177] [0, 0] before ++ inner) ++ behind) inner :=
    fun _ _ decoded more short => .inside rfl rfl short (.counted (by decide) .nil) decoded more
  have deep := inside [0, 2, 0, 0, 0, 6, 0, 1, 0, 9, 0, 0] [] (.cons first .nil)
    (show _ < (2 : UInt16).toNat by decide) (by decide)
  have asks := Relation.TransGen.head (inside _ [255] .nil
    (show _ < (1 : UInt16).toNat by decide) (by decide)) (.single deep)
  exact ((decodeAttribute_contained (show nestedPool.utf8 1 = _ from rfl)
    (show (52 : UInt32).toNat ≤ _ by decide)).2.1 _ _ failed).1 rfl asks

end ClassMembers
