/-
This file proves which constant a field has, and why a field cannot be made. The last attribute
for constants tells, and none does if that one is kept as a block of bytes. What it leads to in
the pool is read at the type of the field, which is that of its signature if there is one. An
`int` at a narrow type is the number of that type which agrees with it in the low bits; at every
other type a constant is what it is. Three steps can fail on the way: the pool, the class of an
array, and the type. The first that fails is what is wrong with the field.
-/

import ClassMembers.Field
import ClassMembers.Proofs.Attribute.Index
import ClassMembers.Proofs.Usage.Constants

namespace ClassMembers

open Sequencing

/-! ### Numbers at a narrow type -/

/-- Whether a number is the one with as many bits, the least of them being given, that agrees
with a value in these bits. -/
def IsReading (least : Int) (width : Nat) (value number : Int) : Prop :=
  least ≤ number ∧ number < least + 2 ^ width ∧ number ≡ value [ZMOD 2 ^ width]

/-- There is exactly one such number. -/
theorem isReading_iff {least : Int} {width : Nat} {value number : Int} :
    IsReading least width value number ↔ number = least + (value - least) % 2 ^ width := by
  have positive : (0 : Int) < 2 ^ width := by positivity
  constructor
  · rintro ⟨low, high, agrees⟩
    have same : (number - least) % 2 ^ width = (value - least) % 2 ^ width :=
      agrees.sub_right least
    rw [Int.emod_eq_of_lt (by omega) (by omega)] at same
    omega
  · rintro rfl
    refine ⟨?_, ?_, ?_⟩
    · have := Int.emod_nonneg (value - least) positive.ne'
      omega
    · have := Int.emod_lt_of_pos (value - least) positive
      omega
    · have agrees : (value - least) % 2 ^ width ≡ value - least [ZMOD 2 ^ width] :=
        Int.mod_modEq _ _
      simpa using agrees.add_left least

theorem isReading_toInt8 (value : Int32) :
    IsReading (-2 ^ 7) 8 value.toInt value.toInt8.toInt := by
  rw [isReading_iff, Int32.toInt_toInt8]
  rw [Int.bmod_eq_iff (by decide)]
  omega

theorem isReading_toInt16 (value : Int32) :
    IsReading (-2 ^ 15) 16 value.toInt value.toInt16.toInt := by
  rw [isReading_iff, Int32.toInt_toInt16]
  rw [Int.bmod_eq_iff (by decide)]
  omega

theorem isReading_toUInt16 (value : Int32) :
    IsReading 0 16 value.toInt value.toUInt32.toUInt16.toNat := by
  have signed : value.toInt = (value.toUInt32.toNat : Int).bmod (2 ^ 32) :=
    BitVec.toInt_eq_toNat_bmod value.toBitVec
  obtain ⟨-, -, agrees⟩ := (Int.bmod_eq_iff (by decide)).mp signed.symm
  rw [isReading_iff, UInt32.toNat_toUInt16]
  push_cast at agrees ⊢
  omega

/-! ### Constants at a type -/

/-- What a constant is at a type. -/
inductive Constant.ReadsAs : Constant → JavaType → Literal → Prop
  | byte {value : Int32} {number : Int8}
    (reading : IsReading (-2 ^ 7) 8 value.toInt number.toInt) :
    ReadsAs (.int value) (.primitive .byte) (.byte number)
  | short {value : Int32} {number : Int16}
    (reading : IsReading (-2 ^ 15) 16 value.toInt number.toInt) :
    ReadsAs (.int value) (.primitive .short) (.short number)
  | char {value : Int32} {unit : UInt16} (reading : IsReading 0 16 value.toInt unit.toNat) :
    ReadsAs (.int value) (.primitive .char) (.char unit)
  | boolean {value : Int32} {answer : Bool} (answers : answer = true ↔ value.toInt ≠ 0) :
    ReadsAs (.int value) (.primitive .boolean) (.boolean answer)
  | int {value : Int32} {type : JavaType}
    (wide : ∀ narrow : PrimitiveType, narrow.isNarrow = true → type ≠ .primitive narrow) :
    ReadsAs (.int value) type (.int value)
  | long {value : Int64} {type : JavaType} : ReadsAs (.long value) type (.long value)
  | float {bits : UInt32} {type : JavaType} : ReadsAs (.float bits) type (.float bits)
  | double {bits : UInt64} {type : JavaType} : ReadsAs (.double bits) type (.double bits)
  | string {text : String} {type : JavaType} : ReadsAs (.string text) type (.string text)
  | methodType {descriptor : String} {type : JavaType} :
    ReadsAs (.methodType descriptor) type (.methodType descriptor)
  | plainClass {name : String} {type : JavaType} (plain : name.toList.head? ≠ some '[') :
    ReadsAs (.ofClass name) type (.ofClass (.named name))
  | arrayClass {name : String} {type shown : JavaType} (array : name.toList.head? = some '[')
    (read : JavaType.ofSignature name = .ok shown) :
    ReadsAs (.ofClass name) type (.ofClass shown)

/-- Nothing else is read. -/
theorem Constant.ReadsAs.unique {value : Constant} {type : JavaType} {first second : Literal}
    (reads : value.ReadsAs type first) (readsToo : value.ReadsAs type second) :
    first = second := by
  cases reads with
  | byte reading =>
    cases readsToo with
    | byte other =>
      have same := (isReading_iff.mp reading).trans (isReading_iff.mp other).symm
      exact congrArg _ (Int8.toInt_inj.mp same)
    | int wide => exact absurd rfl (wide .byte rfl)
  | short reading =>
    cases readsToo with
    | short other =>
      have same := (isReading_iff.mp reading).trans (isReading_iff.mp other).symm
      exact congrArg _ (Int16.toInt_inj.mp same)
    | int wide => exact absurd rfl (wide .short rfl)
  | char reading =>
    cases readsToo with
    | char other =>
      have same := (isReading_iff.mp reading).trans (isReading_iff.mp other).symm
      exact congrArg _ (UInt16.toNat_inj.mp (Int.ofNat.inj same))
    | int wide => exact absurd rfl (wide .char rfl)
  | boolean answers =>
    cases readsToo with
    | boolean other => exact congrArg _ (Bool.eq_iff_iff.mpr (answers.trans other.symm))
    | int wide => exact absurd rfl (wide .boolean rfl)
  | int wide =>
    cases readsToo with
    | byte => exact absurd rfl (wide .byte rfl)
    | short => exact absurd rfl (wide .short rfl)
    | char => exact absurd rfl (wide .char rfl)
    | boolean => exact absurd rfl (wide .boolean rfl)
    | int => rfl
  | plainClass plain =>
    cases readsToo with
    | plainClass => rfl
    | arrayClass array => exact absurd array plain
  | arrayClass array read =>
    cases readsToo with
    | plainClass plain => exact absurd array plain
    | arrayClass _ other => rw [Except.ok.inj (read.symm.trans other)]
  | _ => cases readsToo; rfl

theorem Literal.narrowTo_int_readsAs (value : Int32) (type : JavaType) :
    Constant.ReadsAs (.int value) type ((Literal.int value).narrowTo type.primitive?) := by
  cases type with
  | primitive type =>
    cases type with
    | boolean =>
      refine .boolean ?_
      rw [decide_eq_true_iff, Ne, Ne, ← Int32.toInt_inj, Int32.toInt_zero]
    | byte => exact .byte (isReading_toInt8 value)
    | char => exact .char (isReading_toUInt16 value)
    | short => exact .short (isReading_toInt16 value)
    | _ => exact .int (by rintro _ isNarrow ⟨⟩; cases isNarrow)
  | _ => exact .int (by rintro _ _ ⟨⟩)

theorem Literal.narrowTo_of_not_int {literal : Literal}
    (other : ∀ value, literal ≠ .int value) (type : Option PrimitiveType) :
    literal.narrowTo type = literal := by
  cases type with
  | none => rfl
  | some type =>
    cases literal with
    | int value => exact absurd rfl (other value)
    | _ => rfl

/-- A constant that becomes a literal is read by narrowing that. -/
theorem Literal.narrowTo_readsAs {value : Constant} {literal : Literal}
    (made : Literal.ofConstant value = .ok literal) (type : JavaType) :
    value.ReadsAs type (literal.narrowTo type.primitive?) := by
  cases value with
  | int value =>
    cases made
    exact narrowTo_int_readsAs value type
  | ofClass name =>
    have made : Literal.ofClass <$> JavaType.ofClassConstant name = .ok literal := made
    cases shown : JavaType.ofClassConstant name with
    | error fault =>
      rw [shown] at made
      cases made
    | ok written =>
      rw [shown] at made
      cases made
      rw [narrowTo_of_not_int (by simp)]
      unfold JavaType.ofClassConstant at shown
      split at shown
      · rename_i array
        exact .arrayClass array shown
      · rename_i plain
        cases shown
        exact .plainClass plain
  | _ =>
    cases made
    rw [narrowTo_of_not_int (by simp)]
    constructor

/-- Only the class of an array can fail to become a literal. -/
theorem Literal.ofConstant_eq_error {value : Constant} {fault : SignatureError} :
    Literal.ofConstant value = .error fault ↔
      ∃ name, value = .ofClass name ∧ name.toList.head? = some '[' ∧
        JavaType.ofSignature name = .error fault := by
  cases value with
  | ofClass name =>
    show (JavaType.ofClassConstant name).map Literal.ofClass = .error fault ↔ _
    rw [except_map_eq_error]
    unfold JavaType.ofClassConstant
    constructor
    · intro fails
      split at fails
      · rename_i array
        exact ⟨name, rfl, array, fails⟩
      · cases fails
    · rintro ⟨_, ⟨⟩, array, fails⟩
      rw [if_pos array, fails]
  | _ => exact ⟨nofun, fun ⟨_, same, _⟩ => nomatch same⟩

theorem Literal.exists_ofConstant_iff {value : Constant} :
    (∃ literal, Literal.ofConstant value = .ok literal) ↔ ¬ value.IsUnreadableArray := by
  have torn : value.IsUnreadableArray ↔ ∃ fault, Literal.ofConstant value = .error fault := by
    simp only [ofConstant_eq_error]
    cases value with
    | ofClass name =>
      constructor
      · rintro ⟨array, fault, fails⟩
        exact ⟨fault, name, rfl, array, fails⟩
      · rintro ⟨fault, _, ⟨⟩, array, fails⟩
        exact ⟨array, fault, fails⟩
    | _ => exact ⟨False.elim, fun ⟨_, _, same, _⟩ => nomatch same⟩
  rw [torn]
  cases Literal.ofConstant value <;> simp

/-- What was narrowed to a narrow type stays as it is at any type, and the other types narrow
nothing. -/
theorem Literal.narrow_narrow (literal : Literal) (first second : PrimitiveType) :
    (literal.narrow first).narrow second =
      if first.isNarrow then literal.narrow first else literal.narrow second := by
  cases literal with
  | int value => cases first <;> rfl
  | _ => split <;> rfl

/-! ### The attributes of a field -/

namespace Attributes

variable {list : List Attribute}

theorem constantValueIndex?_ofList {index : UInt16} :
    (ofList list).constantValueIndex? = some index ↔
      lastNamed? list AttributeKind.constantValue.name = some (.constantValue index) :=
  (ofList_isIndexOf list).constantValueIndex? index

/-- No index for a constant is known exactly if there is no attribute for it, or the last one is
kept as a block of bytes. -/
theorem constantValueIndex?_ofList_eq_none :
    (ofList list).constantValueIndex? = none ↔
      lastNamed? list AttributeKind.constantValue.name = none ∨
      ∃ body, lastNamed? list AttributeKind.constantValue.name =
        some (.unknown AttributeKind.constantValue.name body) := by
  rw [Option.eq_none_iff_forall_ne_some]
  simp only [ne_eq, constantValueIndex?_ofList]
  constructor
  · intro missing
    cases last : lastNamed? list AttributeKind.constantValue.name with
    | none => exact .inl rfl
    | some entry =>
      have named : entry.name = AttributeKind.constantValue.name :=
        name_of_get? ((get?_ofList list _).trans last)
      rcases kind?_of_name named with known | ⟨body, rfl⟩
      · cases entry with
        | constantValue index => exact absurd last (missing index)
        | _ => cases known
      · exact .inr ⟨body, rfl⟩
  · rintro (missing | ⟨body, kept⟩) index found
    · rw [missing] at found
      cases found
    · rw [kept] at found
      cases found

/-- The text that the type of a field is read from: the last signature, if it was read, or else
the descriptor. -/
def typeText (list : List Attribute) (descriptor : String) : String :=
  match lastNamed? list AttributeKind.signature.name with
  | some (.signature text) => text
  | _ => descriptor

theorem getD_signature?_ofList (descriptor : String) :
    (ofList list).signature?.getD descriptor = typeText list descriptor := by
  unfold signature? typeText ofKind?
  rw [get?_ofList]
  cases lastNamed? list AttributeKind.signature.name with
  | none => rfl
  | some entry => cases entry <;> rfl

end Attributes

open Attributes

/-! ### The constant of a field -/

/-- What goes wrong first with the constant of an index and a type that is read from a text. -/
inductive Pool.ConstantFails (pool : Pool) (index : UInt16) (text : String) : MemberError → Prop
  | unresolved {fault : ClassError} (fails : pool.constant index = .error fault) :
    ConstantFails pool index text (.classFile fault)
  | unreadableArray {name : String} {fault : SignatureError}
    (resolved : pool.constant index = .ok (.ofClass name))
    (array : name.toList.head? = some '[')
    (fails : JavaType.ofSignature name = .error fault) :
    ConstantFails pool index text (.signature fault)
  | unreadableType {value : Constant} {fault : SignatureError}
    (resolved : pool.constant index = .ok value) (readable : ¬ value.IsUnreadableArray)
    (fails : JavaType.ofSignature text = .error fault) :
    ConstantFails pool index text (.signature fault)

theorem Pool.ConstantFails.naming {pool : Pool} {index : UInt16} {text : String}
    {source : MemberError} (fails : pool.ConstantFails index text source) (member : String) :
    source.naming member = .inMember member source := by
  cases fails <;> rfl

namespace Record

variable {record : Record} {pool : Pool} {list : List Attribute} {descriptor : String}

theorem fieldType_eq (indexed : record.attributes = .ofList list) :
    record.fieldType descriptor =
      (JavaType.ofSignature (typeText list descriptor)).mapError .signature := by
  rw [fieldType, indexed, getD_signature?_ofList]

theorem fieldConstant_of_none (indexed : record.attributes = .ofList list)
    (missing : (ofList list).constantValueIndex? = none) :
    record.fieldConstant pool descriptor = .ok none := by
  unfold fieldConstant
  rw [indexed, missing]

theorem fieldConstant_of_some (indexed : record.attributes = .ofList list) {index : UInt16}
    (found : (ofList list).constantValueIndex? = some index) :
    record.fieldConstant pool descriptor = (do
      let value ← (pool.constant index).mapError .classFile
      let literal ← (Literal.ofConstant value).mapError .signature
      let type ← (JavaType.ofSignature (typeText list descriptor)).mapError .signature
      return some (literal.narrowTo type.primitive?)) := by
  unfold fieldConstant
  rw [indexed, found, fieldType_eq indexed]

/-- A constant that is found is read at the type of the field. -/
theorem fieldConstant_eq_ok (indexed : record.attributes = .ofList list) {index : UInt16}
    (found : (ofList list).constantValueIndex? = some index) {constant : Option Literal}
    (made : record.fieldConstant pool descriptor = .ok constant) :
    ∃ value type, pool.constant index = .ok value ∧
      JavaType.ofSignature (typeText list descriptor) = .ok type ∧
      ∃ literal, constant = some literal ∧ ∀ other, value.ReadsAs type other ↔ other = literal := by
  rw [fieldConstant_of_some indexed found] at made
  obtain ⟨value, resolved, made⟩ := except_bind_eq_ok.mp made
  obtain ⟨literal, spelled, made⟩ := except_bind_eq_ok.mp made
  obtain ⟨type, read, made⟩ := except_bind_eq_ok.mp made
  cases made
  have reads := Literal.narrowTo_readsAs (mapError_eq_ok.mp spelled) type
  refine ⟨value, type, mapError_eq_ok.mp resolved, mapError_eq_ok.mp read, _, rfl, fun other => ?_⟩
  constructor
  · exact fun readsToo => readsToo.unique reads
  · rintro rfl
    exact reads

/-- The first step that fails is what goes wrong. -/
theorem fieldConstant_eq_error (indexed : record.attributes = .ofList list) {index : UInt16}
    (found : (ofList list).constantValueIndex? = some index) {source : MemberError} :
    record.fieldConstant pool descriptor = .error source ↔
      pool.ConstantFails index (typeText list descriptor) source := by
  rw [fieldConstant_of_some indexed found]
  constructor
  · intro fails
    rcases except_bind_eq_error.mp fails with unresolved | ⟨value, resolved, fails⟩
    · obtain ⟨fault, unknown, rfl⟩ := mapError_eq_error.mp unresolved
      exact .unresolved unknown
    rcases except_bind_eq_error.mp fails with unspelled | ⟨literal, spelled, fails⟩
    · obtain ⟨fault, unread, rfl⟩ := mapError_eq_error.mp unspelled
      obtain ⟨name, rfl, array, torn⟩ := Literal.ofConstant_eq_error.mp unread
      exact .unreadableArray (mapError_eq_ok.mp resolved) array torn
    rcases except_bind_eq_error.mp fails with unread | ⟨type, read, fails⟩
    · obtain ⟨fault, torn, rfl⟩ := mapError_eq_error.mp unread
      have readable := Literal.exists_ofConstant_iff.mp ⟨literal, mapError_eq_ok.mp spelled⟩
      exact .unreadableType (mapError_eq_ok.mp resolved) readable torn
    · cases fails
  · intro fails
    cases fails with
    | unresolved fails => rw [fails]; rfl
    | unreadableArray resolved array fails =>
      have unspelled := Literal.ofConstant_eq_error.mpr ⟨_, rfl, array, fails⟩
      rw [resolved]
      show (Literal.ofConstant _).mapError MemberError.signature >>= _ = _
      rw [unspelled]
      rfl
    | unreadableType resolved readable fails =>
      obtain ⟨literal, spelled⟩ := Literal.exists_ofConstant_iff.mpr readable
      rw [resolved]
      show (Literal.ofConstant _).mapError MemberError.signature >>= _ = _
      rw [spelled, fails]
      rfl

end Record

namespace Field

variable {record : Record} {pool : Pool} {name descriptor : String}

/-- With a name and a descriptor, nothing but its constant keeps a field from being made. -/
theorem ofRecord_eq_error (named : record.name pool = .ok name)
    (described : record.descriptor pool = .ok descriptor) {fault : MemberError} :
    Field.ofRecord record pool = .error fault ↔
      ∃ source, record.fieldConstant pool descriptor = .error source ∧
        source.naming name = fault := by
  have whole : Field.ofRecord record pool =
      (record.fieldConstant pool descriptor >>= fun constant => pure
        (⟨record, name, descriptor, record.fieldFlags, constant, false⟩ : Field)).mapError
          (MemberError.naming name) := by
    unfold Field.ofRecord
    rw [named]
    show (Field.build record pool name).mapError (MemberError.naming name) = _
    unfold Field.build
    rw [described]
    rfl
  rw [whole, mapError_eq_error]
  refine exists_congr fun source => and_congr_left fun _ => ?_
  rw [except_bind_eq_error]
  exact or_iff_left fun ⟨_, _, failed⟩ => nomatch failed

/-- What a field that was made has of its record. -/
theorem exists_of_ofRecord {field : Field} (made : Field.ofRecord record pool = .ok field) :
    ∃ descriptor, record.descriptor pool = .ok descriptor ∧
      record.fieldConstant pool descriptor = .ok field.constant := by
  obtain ⟨name, -, made⟩ := except_bind_eq_ok.mp made
  obtain ⟨descriptor, described, made⟩ := except_bind_eq_ok.mp (mapError_eq_ok.mp made)
  obtain ⟨constant, found, made⟩ := except_bind_eq_ok.mp made
  cases made
  exact ⟨descriptor, mapError_eq_ok.mp described, found⟩

/-- There is no constant exactly if there is no attribute for one that was read. -/
theorem constant_eq_none_iff {list : List Attribute} (indexed : record.attributes = .ofList list)
    {field : Field} (made : Field.ofRecord record pool = .ok field) :
    field.constant = none ↔
      lastNamed? list AttributeKind.constantValue.name = none ∨
      ∃ body, lastNamed? list AttributeKind.constantValue.name =
        some (.unknown AttributeKind.constantValue.name body) := by
  obtain ⟨descriptor, -, constant⟩ := exists_of_ofRecord made
  rw [← constantValueIndex?_ofList_eq_none]
  cases found : (ofList list).constantValueIndex? with
  | none =>
    rw [Record.fieldConstant_of_none indexed found] at constant
    exact iff_of_true (Except.ok.inj constant).symm rfl
  | some index =>
    obtain ⟨_, _, -, -, literal, present, -⟩ := Record.fieldConstant_eq_ok indexed found constant
    rw [present]
    exact iff_of_false nofun nofun

/-- The failure to make a field is that of its constant, under the name of the field. -/
theorem ofRecord_fails_iff {list : List Attribute} (indexed : record.attributes = .ofList list)
    (named : record.name pool = .ok name) (described : record.descriptor pool = .ok descriptor)
    {fault : MemberError} :
    Field.ofRecord record pool = .error fault ↔
      ∃ index source,
        lastNamed? list AttributeKind.constantValue.name = some (.constantValue index) ∧
        pool.ConstantFails index (typeText list descriptor) source ∧
        fault = .inMember name source := by
  rw [ofRecord_eq_error named described]
  constructor
  · rintro ⟨source, fails, rfl⟩
    cases found : (ofList list).constantValueIndex? with
    | none =>
      rw [Record.fieldConstant_of_none indexed found] at fails
      cases fails
    | some index =>
      have first := (Record.fieldConstant_eq_error indexed found).mp fails
      exact ⟨index, source, constantValueIndex?_ofList.mp found, first, first.naming name⟩
  · rintro ⟨index, source, last, first, rfl⟩
    have found := constantValueIndex?_ofList.mpr last
    exact ⟨source, (Record.fieldConstant_eq_error indexed found).mpr first, first.naming name⟩

/-- A field that comes of a record has no constant exactly if the record has no attribute for
one, or keeps the last one as a block of bytes. Otherwise its constant is what the attribute
leads to in the pool, read at the type that the field has by its last signature, or else by its
descriptor. A record with a name and a descriptor makes no field exactly if there is a constant
that does not come to be: by the pool, by the class of an array, or by the type of the field,
and the first of these is the failure, which names the field. What was narrowed to a narrow
type is not narrowed further. -/
theorem constant_has_declared_type {list : List Attribute}
    (indexed : record.attributes = .ofList list) :
    (∀ field, Field.ofRecord record pool = .ok field →
      (field.constant = none ↔
        lastNamed? list AttributeKind.constantValue.name = none ∨
        ∃ body, lastNamed? list AttributeKind.constantValue.name =
          some (.unknown AttributeKind.constantValue.name body)) ∧
      ∀ index, lastNamed? list AttributeKind.constantValue.name = some (.constantValue index) →
        ∃ descriptor value type, record.descriptor pool = .ok descriptor ∧
          pool.constant index = .ok value ∧
          JavaType.ofSignature (typeText list descriptor) = .ok type ∧
          ∃ literal, field.constant = some literal ∧
            ∀ other, value.ReadsAs type other ↔ other = literal) ∧
    (∀ name descriptor, record.name pool = .ok name → record.descriptor pool = .ok descriptor →
      ∀ fault, Field.ofRecord record pool = .error fault ↔
        ∃ index source,
          lastNamed? list AttributeKind.constantValue.name = some (.constantValue index) ∧
          pool.ConstantFails index (typeText list descriptor) source ∧
          fault = .inMember name source) ∧
    ∀ (literal : Literal) (first second : PrimitiveType),
      (literal.narrow first).narrow second =
        if first.isNarrow then literal.narrow first else literal.narrow second := by
  refine ⟨fun field made => ⟨constant_eq_none_iff indexed made, fun index last => ?_⟩,
    fun name descriptor named described fault => ofRecord_fails_iff indexed named described,
    Literal.narrow_narrow⟩
  obtain ⟨descriptor, described, constant⟩ := exists_of_ofRecord made
  obtain ⟨value, type, resolved, read, reads⟩ :=
    Record.fieldConstant_eq_ok indexed (constantValueIndex?_ofList.mpr last) constant
  exact ⟨descriptor, value, type, described, resolved, read, reads⟩

/-- A record of a `byte` with attributes for constants of the given indexes. -/
def maskRecord (indexes : List UInt16) : Record :=
  ⟨0x1a, 1, 2, .ofList (indexes.map .constantValue), 8 + 8 * indexes.length⟩

def maskPool : Pool := ⟨[.utf8 "MASK", .utf8 "B", .int 0x1FF]⟩

/-- The field of the record whose last attribute leads to the pool. -/
def maskField : Field :=
  ⟨maskRecord [9, 3], "MASK", "B", .ofBits 0x1a, some (.byte (-1)), false⟩

theorem constant_has_declared_type_twice :
    Field.ofRecord (maskRecord [9, 3]) maskPool = .ok maskField ∧
    (∀ literal, Constant.ReadsAs (.int 0x1FF) (.primitive .byte) literal ↔
      literal = .byte (-1)) ∧
    Field.ofRecord (maskRecord [3, 9]) maskPool =
      .error (.inMember "MASK" (.classFile (.indexOutOfRange 9 3))) := by
  obtain ⟨succeeds, -, -⟩ := @constant_has_declared_type (maskRecord [9, 3]) maskPool
    [.constantValue 9, .constantValue 3] rfl
  obtain ⟨-, fails, -⟩ := @constant_has_declared_type (maskRecord [3, 9]) maskPool
    [.constantValue 3, .constantValue 9] rfl
  have made : Field.ofRecord (maskRecord [9, 3]) maskPool = .ok maskField := by cbv
  obtain ⟨-, constant⟩ := succeeds maskField made
  obtain ⟨_, value, type, ⟨⟩, ⟨⟩, read, literal, ⟨⟩, reads⟩ := constant 3 (by cbv)
  have byte : type = .primitive .byte := Except.ok.inj (read.symm.trans (by cbv))
  refine ⟨made, ?_, ?_⟩
  · rw [byte] at reads
    exact reads
  · exact (fails "MASK" "B" (by cbv) (by cbv) _).mpr
      ⟨9, _, by cbv, .unresolved (by cbv), rfl⟩

end Field

end ClassMembers
