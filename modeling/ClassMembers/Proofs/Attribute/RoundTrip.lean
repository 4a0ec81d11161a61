/-
This file proves that the standard decoder reads back every attribute from every
way of writing it. Each reader of a body is shown to take exactly the written
bytes off the front of any others. What is nested inside a value or inside code is
written in fewer bytes than the whole, and the two inductions go by that: the one
over values with the bound that their reader is given, the one over code with the
number of bytes itself.
-/

import ClassMembers.Proofs.Attribute.Format

namespace ClassMembers

open Reader

variable {pool : Pool}

/-! ### References into the pool -/

theorem readUtf8Of_reads {taken : List UInt8} {text : String}
    (written : TextWritten pool taken text) : Reads (readUtf8Of pool) taken text := by
  obtain ⟨found⟩ := written
  exact lookUp_reads found

theorem readClassNameOf_reads {taken : List UInt8} {name : String}
    (written : ClassNameWritten pool taken name) : Reads (readClassNameOf pool) taken name := by
  obtain ⟨found⟩ := written
  exact lookUp_reads found

/-! ### Element values -/

section Nested

variable {written : List UInt8 → ElementValue → Prop} {value : Reader ElementValue} {bound : Nat}

theorem annotationElement_reads
    (each : ∀ bytes item, bytes.length ≤ bound → written bytes item → Reads value bytes item)
    {taken : List UInt8} {element : AnnotationElement} (small : taken.length ≤ bound)
    (spelled : AnnotationElement.WrittenWith written pool taken element) :
    Reads (AnnotationElement.readWith value pool) taken element := by
  obtain ⟨named, valued⟩ := spelled
  rw [List.length_append] at small
  exact (readUtf8Of_reads named).bind ((each _ _ (by omega) valued).bind_pure _)

theorem annotationUse_reads
    (each : ∀ bytes item, bytes.length ≤ bound → written bytes item → Reads value bytes item)
    {taken : List UInt8} {item : AnnotationUse} (small : taken.length ≤ bound)
    (spelled : AnnotationUse.WrittenWith written pool taken item) :
    Reads (AnnotationUse.readWith value pool) taken item := by
  obtain ⟨described, listed⟩ := spelled
  rw [List.length_append] at small
  refine (readUtf8Of_reads described).bind (Reads.bind_pure (table_reads listed ?_) _)
  exact fun bytes element inside => annotationElement_reads each (by omega)

end Nested

/-- The tag of an element value is read back from its byte. -/
theorem ofNat_tagByte {tag : Char} (latin : tag.toNat < 256) :
    Char.ofNat (tagByte tag).toNat = tag := by
  rw [tagByte, UInt8.toNat_ofNat_of_lt' latin, Char.ofNat_toNat]

theorem elementValue_of_body_reads {depth : Nat} {tag : Char} {body : List UInt8}
    {value : ElementValue} (latin : tag.toNat < 256)
    (read : Reads (ElementValue.readBody (ElementValue.readWithin pool depth) pool tag)
      body value) :
    Reads (ElementValue.readWithin pool (depth + 1)) (tagByte tag :: body) value := by
  rw [← ofNat_tagByte latin] at read
  exact (u8_reads (tagByte tag)).bind read

/-- An element value is read back within any bound that its bytes do not exceed. -/
theorem readWithin_reads {depth : Nat} {taken : List UInt8} {value : ElementValue}
    (small : taken.length ≤ depth) (written : ElementValue.Written pool taken value) :
    Reads (ElementValue.readWithin pool depth) taken value := by
  induction depth generalizing taken value with
  | zero =>
    cases List.length_eq_zero_iff.mp (Nat.le_zero.mp small)
    cases written
  | succ depth hypothesis =>
    have inner : ∀ bytes item, bytes.length ≤ depth → ElementValue.Written pool bytes item →
        Reads (ElementValue.readWithin pool depth) bytes item := fun _ _ => hypothesis
    cases written with
    | @constant _ _ index primitive found =>
      have latin : ∀ tag ∈ primitiveTags, tag.toNat < 256 := by simp [primitiveTags]
      refine elementValue_of_body_reads (latin _ primitive) ?_
      unfold ElementValue.readBody
      rw [if_pos (List.contains_iff_mem.mpr primitive), ← List.append_nil (u16Bytes index)]
      exact (u16_reads index).bind ((ofExcept_reads found).bind_pure _)
    | string found =>
      exact elementValue_of_body_reads (by decide) ((readUtf8Of_reads found).bind_pure _)
    | enumConstant described named =>
      exact elementValue_of_body_reads (by decide)
        ((readUtf8Of_reads described).bind ((readUtf8Of_reads named).bind_pure _))
    | classLiteral described =>
      exact elementValue_of_body_reads (by decide) ((readUtf8Of_reads described).bind_pure _)
    | nested inside =>
      exact elementValue_of_body_reads (by decide)
        ((annotationUse_reads inner (Nat.le_of_succ_le_succ small) inside).bind_pure _)
    | array listed =>
      refine elementValue_of_body_reads (by decide) (Reads.bind_pure (table_reads listed ?_) _)
      intro bytes item less
      exact inner bytes item (Nat.le_trans less (Nat.le_of_succ_le_succ small))

theorem elementValue_reads {taken : List UInt8} {value : ElementValue}
    (written : ElementValue.Written pool taken value) :
    Reads (ElementValue.read pool) taken value := by
  intro rest
  exact readWithin_reads (by simp) written rest

/-! ### Tables of annotations, names, variables and handlers -/

theorem readAnnotations_reads {taken : List UInt8} {annotations : List AnnotationUse}
    (listed : Table (AnnotationUse.Written pool) taken annotations) :
    Reads (readAnnotations pool) taken annotations :=
  table_reads listed fun _ _ _ =>
    annotationUse_reads (fun _ _ _ => elementValue_reads) (Nat.le_refl _)

theorem readParameterAnnotations_reads {taken : List UInt8} {rows : List (List AnnotationUse)}
    (written : ParameterAnnotationsWritten pool taken rows) :
    Reads (readParameterAnnotations pool) taken rows := by
  obtain ⟨few, listed⟩ := written
  have count := (natural_reads (show _ < 256 ^ 1 from few)).bind_pure UInt8.ofNat
  refine count.bind ?_
  rw [UInt8.toNat_ofNat_of_lt' few]
  exact times_reads (listed.mono fun _ _ _ => readAnnotations_reads)

theorem readExceptions_reads {taken : List UInt8} {names : List String}
    (listed : Table (ClassNameWritten pool) taken names) :
    Reads (readExceptions pool) taken names :=
  table_reads listed fun _ _ _ => readClassNameOf_reads

theorem localVariable_reads {taken : List UInt8} {row : LocalVariable}
    (written : LocalVariable.Written pool taken row) :
    Reads (LocalVariable.read pool) taken row := by
  obtain ⟨named, described⟩ := written
  exact (u16_reads _).bind ((u16_reads _).bind ((readUtf8Of_reads named).bind
    ((readUtf8Of_reads described).bind ((u16_reads _).bind_pure _))))

theorem readLocalVariables_reads {taken : List UInt8} {rows : List LocalVariable}
    (listed : Table (LocalVariable.Written pool) taken rows) :
    Reads (readLocalVariables pool) taken rows :=
  table_reads listed fun _ _ _ => localVariable_reads

theorem exceptionHandler_reads {taken : List UInt8} {handler : ExceptionHandler}
    (written : ExceptionHandler.Written taken handler) :
    Reads ExceptionHandler.read taken handler := by
  obtain ⟨⟩ := written
  exact (u16_reads _).bind ((u16_reads _).bind ((u16_reads _).bind ((u16_reads _).bind_pure _)))

/-! ### Attributes -/

section Body

variable {decoder : AttributeDecoder} {version : Version}
  {written : List UInt8 → Attribute → Prop} {bound : Nat}

theorem code_reads
    (each : ∀ bytes entry, bytes.length ≤ bound → written bytes entry →
      decoder.Decodes pool version bytes entry)
    {taken : List UInt8} {code : Code} (small : taken.length ≤ bound)
    (spelled : Code.WrittenWith written taken code) :
    Reads (Code.read decoder pool version) taken code := by
  obtain ⟨short, handled, ⟨few, listed⟩⟩ := spelled
  simp only [List.length_append] at small
  have length := (natural_reads (show _ < 256 ^ 4 from short)).bind_pure UInt32.ofNat
  refine (u16_reads _).bind ((u16_reads _).bind (length.bind ?_))
  rw [UInt32.toNat_ofNat_of_lt' short]
  refine (bytes_reads _).bind ((table_reads handled fun _ _ _ => exceptionHandler_reads).bind
    ((count_reads few).bind ?_))
  rw [UInt16.toNat_ofNat_of_lt' few]
  exact (readTable_reads (listed.mono fun bytes entry less =>
    each bytes entry (by omega))).bind_pure _

/-- Where generics have a meaning, every kind is known by its name. -/
theorem ofNameIn?_name (generic : version.supportsGenerics = true) (kind : AttributeKind) :
    AttributeKind.ofNameIn? version kind.name = some kind := by
  rw [AttributeKind.ofNameIn?, AttributeKind.ofName?_name, Option.filter_some, if_pos]
  rw [generic, Bool.or_true]

theorem ofBody_of_reads {kind : AttributeKind} {body : List UInt8} {entry : Attribute}
    (generic : version.supportsGenerics = true)
    (read : Reads (kind.readBody decoder pool version) body entry) :
    Attribute.ofBody decoder pool version kind.name body = .ok entry := by
  have whole := read []
  rw [List.append_nil] at whole
  rw [Attribute.ofBody, ofNameIn?_name generic]
  simp only [whole]

/-- The body of an attribute decides the attribute, if the attributes inside it
are read back. -/
theorem ofBody_of_written (generic : version.supportsGenerics = true)
    (each : ∀ bytes entry, bytes.length ≤ bound → written bytes entry →
      decoder.Decodes pool version bytes entry)
    {body : List UInt8} {entry : Attribute} (small : body.length ≤ bound)
    (spelled : Attribute.BodyWrittenWith written pool body entry) :
    Attribute.ofBody decoder pool version entry.name body = .ok entry := by
  have reads : ∀ kind : AttributeKind, entry.name = kind.name →
      Reads (kind.readBody decoder pool version) body entry →
      Attribute.ofBody decoder pool version entry.name body = .ok entry := by
    intro kind named read
    rw [named]
    exact ofBody_of_reads generic read
  cases spelled with
  | constantValue => exact reads .constantValue rfl ((u16_reads _).bind_pure _)
  | code inside => exact reads .code rfl ((code_reads each small inside).bind_pure _)
  | exceptions listed => exact reads .exceptions rfl ((readExceptions_reads listed).bind_pure _)
  | signature found => exact reads .signature rfl ((readUtf8Of_reads found).bind_pure _)
  | synthetic => exact reads .synthetic rfl (pure_reads _)
  | deprecated => exact reads .deprecated rfl (pure_reads _)
  | annotationDefault valued =>
    exact reads .annotationDefault rfl ((elementValue_reads valued).bind_pure _)
  | visibleAnnotations listed =>
    exact reads .visibleAnnotations rfl ((readAnnotations_reads listed).bind_pure _)
  | invisibleAnnotations listed =>
    exact reads .invisibleAnnotations rfl ((readAnnotations_reads listed).bind_pure _)
  | visibleParameterAnnotations listed =>
    exact reads .visibleParameterAnnotations rfl
      ((readParameterAnnotations_reads listed).bind_pure _)
  | invisibleParameterAnnotations listed =>
    exact reads .invisibleParameterAnnotations rfl
      ((readParameterAnnotations_reads listed).bind_pure _)
  | localVariables listed =>
    exact reads .localVariables rfl ((readLocalVariables_reads listed).bind_pure _)
  | @unknown name _ unnamed =>
    have unknown : AttributeKind.ofNameIn? version name = none := by
      rw [AttributeKind.ofNameIn?, unnamed, Option.filter_none]
    rw [Attribute.ofBody, Attribute.name, unknown]

end Body

/-- An attribute is read back whatever follows it. The induction is on the number
of bytes: what is inside code has fewer of them than the attribute of the code. -/
theorem decodeAttribute_decodes {version : Version} (generic : version.supportsGenerics = true)
    {taken : List UInt8} {entry : Attribute} (written : Attribute.Written pool taken entry) :
    AttributeDecoder.Decodes decodeAttribute pool version taken entry := by
  induction size : taken.length using Nat.strongRecOn generalizing taken entry with
  | _ size hypothesis =>
    obtain ⟨named, short, inside⟩ := written
    rw [length_attributeBytes, attributeHeaderLength] at size
    intro rest
    rw [decodeAttribute_framed named short, ofBody_of_written generic
      (fun bytes entry less inner => hypothesis bytes.length (by omega) inner rfl)
      (Nat.le_refl _) inside, length_attributeBytes]
    rfl

/-- Every attribute of a known kind is read back from every way of writing it,
whatever follows it: the name and the body may refer to the pool by any indexes
that lead to what is meant, code may hold attributes and annotations may hold
values to any depth, and the number of bytes is that of the header and the body. -/
theorem decodeAttribute_written {version : Version} {entry : Attribute} {nameIndex : UInt16}
    {body : List UInt8} (generic : Version.firstGeneric.atMost version = true)
    (named : pool.utf8 nameIndex = .ok entry.name) (short : body.length < 2 ^ 32)
    (inside : Attribute.BodyWritten pool body entry) (rest : List UInt8) :
    decodeAttribute (u16Bytes nameIndex ++ (digits 4 body.length ++ body) ++ rest) pool version =
      .ok (entry, 6 + body.length) := by
  have decodes := decodeAttribute_decodes generic (.framed named short inside) rest
  rwa [length_attributeBytes] at decodes

/-- A pool for code that holds code that holds an annotation. -/
def nestedPool : Pool :=
  ⟨[.utf8 "Code", .utf8 "RuntimeVisibleAnnotations", .utf8 "Lp/A;", .utf8 "v", .int 7]⟩

/-- Code inside code, and an annotation inside an array inside an annotation. -/
theorem decodeAttribute_written_nested :
    decodeAttribute
        ([0, 1, 0, 0, 0, 57, 0, 2, 0, 1, 0, 0, 0, 1, 177, 0, 0, 0, 1,
          0, 1, 0, 0, 0, 38, 0, 2, 0, 1, 0, 0, 0, 1, 177, 0, 0, 0, 1,
          0, 2, 0, 0, 0, 19, 0, 1, 0, 3, 0, 1, 0, 4, 91, 0, 2, 64, 0, 3, 0, 0, 73, 0, 5] ++ [255])
        nestedPool ⟨49, 0⟩ =
      .ok (.code ⟨2, 1, [177], [], .ofList [.code ⟨2, 1, [177], [],
        .ofList [.visibleAnnotations [⟨"Lp/A;",
          [⟨"v", .array [.nested ⟨"Lp/A;", []⟩, .constant 'I' (.int 7)]⟩]⟩]],
        false⟩], false⟩, 63) := by
  have value : ElementValue.Written nestedPool _
      (.array [.nested ⟨"Lp/A;", []⟩, .constant 'I' (.int 7)]) :=
    .array (.counted (by decide)
      (.cons (.nested (.fields (.at (show nestedPool.utf8 3 = _ from rfl))
        (.counted (by decide) .nil)))
      (.cons (.constant (by decide) (show nestedPool.constant 5 = _ from rfl)) .nil)))
  have annotations : Attribute.Written nestedPool _ (.visibleAnnotations [⟨"Lp/A;", [⟨"v", _⟩]⟩]) :=
    .framed (show nestedPool.utf8 2 = _ from rfl) (by decide)
      (.visibleAnnotations (.counted (by decide)
        (.cons (.fields (.at (show nestedPool.utf8 3 = _ from rfl)) (.counted (by decide)
          (.cons (.fields (.at (show nestedPool.utf8 4 = _ from rfl)) value) .nil))) .nil)))
  have inner : Attribute.Written nestedPool _ (.code ⟨2, 1, [177], [], .ofList [_], false⟩) :=
    .framed (show nestedPool.utf8 1 = _ from rfl) (by decide)
      (.code (.fields (by decide) (.counted (by decide) .nil)
        (.counted (by decide) (.cons annotations .nil))))
  have outer : Attribute.BodyWritten nestedPool _ (.code ⟨2, 1, [177], [], .ofList [_], false⟩) :=
    .code (.fields (by decide) (.counted (by decide) .nil)
      (.counted (by decide) (.cons inner .nil)))
  refine (congrArg (fun bytes => decodeAttribute bytes nestedPool ⟨49, 0⟩) ?_).trans
    (decodeAttribute_written rfl (show nestedPool.utf8 1 = _ from rfl) (by decide) outer [255])
  decide

end ClassMembers
