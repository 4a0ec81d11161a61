/-
This file proves that readers only move forward, and not past the end. What a reader leaves is
an end of what there was, after a fault as well as after a success: a reader of nested tables
may give up anywhere inside them, and then leaves what the innermost reader has left. The
property is kept when readers are composed. A decoder of attributes has no part in it, since
it only looks at the bytes; whatever number of them it says that it took, the reader passes
over so many or fails where it stands.
-/

import ClassMembers.ClassFile
import ClassMembers.Proofs.Attribute.Framing

namespace ClassMembers

open Reader Sequencing

namespace Reader

variable {α β : Type}

/-- What a reader leaves, after a fault as well as after a success. -/
def left (reader : Reader α) (raw : List UInt8) : List UInt8 :=
  match reader raw with
  | .ok _ rest => rest
  | .error _ rest => rest

/-- What a reader leaves is an end of what there was. -/
def Advances (reader : Reader α) : Prop := ∀ raw, left reader raw <:+ raw

theorem left_of_ok {reader : Reader α} {raw rest : List UInt8} {value : α}
    (done : reader raw = .ok value rest) : left reader raw = rest := by
  rw [left, done]

theorem left_of_error {reader : Reader α} {raw rest : List UInt8} {fault : ClassError}
    (failed : reader raw = .error fault rest) : left reader raw = rest := by
  rw [left, failed]

/-! ### Composition -/

theorem pure_advances (value : α) : Advances (pure value : Reader α) := List.suffix_refl

theorem throw_advances (fault : ClassError) : Advances (throw fault : Reader α) :=
  List.suffix_refl

theorem ofExcept_advances (answer : Except ClassError α) :
    Advances (ofExcept answer : Reader α) := by
  cases answer with
  | ok value => exact pure_advances value
  | error fault => exact throw_advances fault

theorem Advances.bind {reader : Reader α} {next : α → Reader β} (before : Advances reader)
    (behind : ∀ value, Advances (next value)) : Advances (reader >>= next) := by
  intro raw
  have first := before raw
  cases result : reader raw with
  | ok value rest =>
    have second := behind value rest
    rw [left_of_ok result] at first
    have same : left (reader >>= next) raw = left (next value) rest := by
      rw [left, left, bind_of_ok result]
    rw [same]
    exact second.trans first
  | error fault rest =>
    rwa [left_of_error (bind_of_error result), ← left_of_error result]

theorem Advances.bind_pure {reader : Reader α} (before : Advances reader) (next : α → β) :
    Advances (reader >>= fun value => pure (next value)) :=
  before.bind fun value => pure_advances (next value)

/-! ### Blocks, numbers and tables -/

theorem exactly_advances (count : Nat) : Advances (exactly count) := by
  intro raw
  unfold left exactly
  split
  · rename_i done
    split at done <;> cases done
    exact List.drop_suffix count raw
  · rename_i failed
    split at failed <;> cases failed
    exact List.nil_suffix

theorem bytes_advances (count : Nat) : Advances (bytes count) := by
  intro raw
  unfold left bytes
  split
  · rename_i done
    split at done <;> cases done
    exact List.drop_suffix count raw
  · rename_i failed
    split at failed <;> cases failed
    exact List.suffix_refl raw

theorem skip_advances (count : Nat) : Advances (skip count) := (bytes_advances count).bind_pure _

theorem natural_advances (width : Nat) : Advances (natural width) :=
  (exactly_advances width).bind_pure _

theorem u8_advances : Advances u8 := (natural_advances 1).bind_pure _

theorem u16_advances : Advances u16 := (natural_advances 2).bind_pure _

theorem u32_advances : Advances u32 := (natural_advances 4).bind_pure _

theorem u64_advances : Advances u64 := (natural_advances 8).bind_pure _

theorem i32_advances : Advances i32 := u32_advances.bind_pure _

theorem i64_advances : Advances i64 := u64_advances.bind_pure _

theorem times_advances {item : Reader α} (each : Advances item) (count : Nat) :
    Advances (times count item) := by
  induction count with
  | zero => exact pure_advances []
  | succ count hypothesis => exact each.bind fun _ => hypothesis.bind_pure _

theorem table_advances {item : Reader α} (each : Advances item) : Advances (table item) :=
  u16_advances.bind fun count => times_advances each count.toNat

theorem u16Block_advances (count : Nat) : Advances (u16Block count) :=
  (exactly_advances (2 * count)).bind_pure _

end Reader

/-! ### Annotations -/

section Annotations

variable {pool : Pool} {value : Reader ElementValue}

theorem readUtf8Of_advances : Advances (readUtf8Of pool) :=
  u16_advances.bind fun _ => ofExcept_advances _

theorem readClassNameOf_advances : Advances (readClassNameOf pool) :=
  u16_advances.bind fun _ => ofExcept_advances _

theorem annotationUse_advances (each : Advances value) :
    Advances (AnnotationUse.readWith value pool) := by
  have element : Advances (AnnotationElement.readWith value pool) :=
    readUtf8Of_advances.bind fun _ => each.bind_pure _
  exact readUtf8Of_advances.bind fun _ => (table_advances element).bind_pure _

theorem elementValue_readBody_advances (each : Advances value) (tag : Char) :
    Advances (ElementValue.readBody value pool tag) := by
  unfold ElementValue.readBody
  split
  · exact u16_advances.bind fun _ => (ofExcept_advances _).bind_pure _
  · split
    · exact readUtf8Of_advances.bind_pure _
    · exact readUtf8Of_advances.bind fun _ => readUtf8Of_advances.bind_pure _
    · exact readUtf8Of_advances.bind_pure _
    · exact (annotationUse_advances each).bind_pure _
    · exact (table_advances each).bind_pure _
    · exact throw_advances _

/-- The induction is on the bound of the depth. -/
theorem readWithin_advances (depth : Nat) : Advances (ElementValue.readWithin pool depth) := by
  induction depth with
  | zero => exact fun raw => List.nil_suffix
  | succ depth hypothesis =>
    exact u8_advances.bind fun tag => elementValue_readBody_advances hypothesis _

theorem elementValue_advances : Advances (ElementValue.read pool) :=
  fun raw => readWithin_advances raw.length raw

theorem readAnnotations_advances : Advances (readAnnotations pool) :=
  table_advances (annotationUse_advances elementValue_advances)

theorem readParameterAnnotations_advances : Advances (readParameterAnnotations pool) :=
  u8_advances.bind fun _ => times_advances readAnnotations_advances _

end Annotations

/-! ### Tables of names, variables, handlers and attributes -/

section Tables

variable {pool : Pool} {version : Version} {decoder : AttributeDecoder}

theorem readExceptions_advances : Advances (readExceptions pool) :=
  table_advances readClassNameOf_advances

theorem readLocalVariables_advances : Advances (readLocalVariables pool) := by
  have row : Advances (LocalVariable.read pool) :=
    u16_advances.bind fun _ => u16_advances.bind fun _ => readUtf8Of_advances.bind fun _ =>
      readUtf8Of_advances.bind fun _ => u16_advances.bind_pure _
  exact table_advances row

theorem decoder_read_advances : Advances (decoder.read pool version) := by
  intro raw
  cases answer : decoder raw pool version with
  | ok row =>
    have passes : Advances (skip row.2 >>= fun _ => pure row) := (skip_advances row.2).bind_pure _
    have same : left (decoder.read pool version) raw =
        left (skip row.2 >>= fun _ => pure row) raw := by
      rw [left, left, decoder_read_eq, answer]
    rw [same]
    exact passes raw
  | error fault =>
    have failed : decoder.read pool version raw = .error fault raw := by
      rw [decoder_read_eq, answer]
    rw [left_of_error failed]

theorem readTable_advances (count : Nat) : Advances (decoder.readTable pool version count) :=
  (times_advances decoder_read_advances count).bind_pure _

theorem codeRead_advances : Advances (Code.read decoder pool version) := by
  have handler : Advances ExceptionHandler.read :=
    u16_advances.bind fun _ => u16_advances.bind fun _ => u16_advances.bind fun _ =>
      u16_advances.bind_pure _
  exact u16_advances.bind fun _ => u16_advances.bind fun _ => u32_advances.bind fun _ =>
    (bytes_advances _).bind fun _ => (table_advances handler).bind fun _ =>
      u16_advances.bind fun _ => (readTable_advances _).bind_pure _

end Tables

/-! ### Class files -/

section ClassFiles

variable {pool : Pool} {version : Version} {decoder : AttributeDecoder}

theorem record_read_advances : Advances (Record.read decoder pool version) :=
  u16_advances.bind fun _ => u16_advances.bind fun _ => u16_advances.bind fun _ =>
    u16_advances.bind fun _ => (readTable_advances _).bind_pure _

theorem poolEntry_readBody_advances (tag : UInt8) : Advances (PoolEntry.readBody tag) := by
  have text : Advances readUtf8 := u16_advances.bind fun _ => (bytes_advances _).bind_pure _
  have two : ∀ make : UInt16 → UInt16 → PoolEntry,
      Advances (do return make (← u16) (← u16)) :=
    fun make => u16_advances.bind fun first => u16_advances.bind_pure (make first)
  unfold PoolEntry.readBody
  split
  · exact text.bind_pure _
  · exact i32_advances.bind_pure _
  · exact u32_advances.bind_pure _
  · exact i64_advances.bind_pure _
  · exact u64_advances.bind_pure _
  · exact u16_advances.bind_pure _
  · exact u16_advances.bind_pure _
  · exact two _
  · exact two _
  · exact two _
  · exact two _
  · exact u8_advances.bind fun _ => u16_advances.bind_pure _
  · exact u16_advances.bind_pure _
  · exact two _
  · exact two _
  · exact u16_advances.bind_pure _
  · exact u16_advances.bind_pure _
  · exact throw_advances _

/-- The cases are those of the definition: a wide constant takes two places at once. -/
theorem readPlaces_advances (places : Nat) : Advances (PoolEntry.readPlaces places) := by
  have entry : Advances PoolEntry.read := u8_advances.bind poolEntry_readBody_advances
  induction places using PoolEntry.readPlaces.induct with
  | case1 => exact pure_advances []
  | case2 => exact entry.bind_pure _
  | case3 places wide narrow =>
    refine entry.bind fun found => ?_
    split
    · exact wide.bind_pure _
    · exact narrow.bind_pure _

theorem classFile_read_advances : Advances (ClassFile.read decoder) := by
  have magic : Advances readMagic := by
    refine u32_advances.bind fun found => ?_
    split
    · exact pure_advances ()
    · exact throw_advances _
  have versioned : Advances Version.read :=
    u16_advances.bind fun _ => u16_advances.bind_pure _
  have pooled : Advances Pool.read :=
    u16_advances.bind fun _ => (readPlaces_advances _).bind_pure _
  exact magic.bind fun _ => versioned.bind fun _ => pooled.bind fun _ =>
    u16_advances.bind fun _ => u16_advances.bind fun _ => u16_advances.bind fun _ =>
      u16_advances.bind fun _ => (u16Block_advances _).bind fun _ =>
        (table_advances record_read_advances).bind fun _ =>
          (table_advances record_read_advances).bind fun _ =>
            u16_advances.bind fun _ => (readTable_advances _).bind_pure _

end ClassFiles

end ClassMembers
