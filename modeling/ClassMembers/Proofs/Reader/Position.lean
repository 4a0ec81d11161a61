/-
This file proves where a cursor stands, whatever has been read from it and with whatever
success. It is inside its buffer, it has not moved back, and what remains is the buffer from
its position on. The position also tells what an answer is made of: a number of fixed width or
a block is spelled by the bytes between the position before and the one after it, and a table
of attributes fills as many bytes as its attributes were reported to take, where each of them
was decoded from all that remained at its own place.
-/

import ClassMembers.Proofs.Reader.Advancing

namespace ClassMembers

open Reader Sequencing

/-! ### Numbers of fixed width -/

/-- The formats of numbers of fixed width. -/
inductive NumberFormat where
  | u8
  | u16
  | u32
  | u64
  | i32
  | i64

namespace NumberFormat

/-- The numbers of a format. -/
abbrev Value : NumberFormat → Type
  | u8 => UInt8
  | u16 => UInt16
  | u32 => UInt32
  | u64 => UInt64
  | i32 => Int32
  | i64 => Int64

/-- The number of bytes of a format. -/
def width : NumberFormat → Nat
  | u8 => 1
  | u16 => 2
  | u32 | i32 => 4
  | u64 | i64 => 8

def read : (format : NumberFormat) → Reader format.Value
  | u8 => Reader.u8
  | u16 => Reader.u16
  | u32 => Reader.u32
  | u64 => Reader.u64
  | i32 => Reader.i32
  | i64 => Reader.i64

/-- The number that the bits of a number spell. Signed numbers are in two's complement. -/
def bits : (format : NumberFormat) → format.Value → Nat
  | u8, value => value.toNat
  | u16, value => value.toNat
  | u32, value => value.toNat
  | u64, value => value.toNat
  | i32, value => value.toUInt32.toNat
  | i64, value => value.toUInt64.toNat

/-- The bytes of a number, the most significant one first. -/
def bytes (format : NumberFormat) (value : format.Value) : List UInt8 :=
  digits format.width (format.bits value)

/-- The number of given bits. -/
def ofBits : (format : NumberFormat) → Nat → format.Value
  | u8, number => UInt8.ofNat number
  | u16, number => UInt16.ofNat number
  | u32, number => UInt32.ofNat number
  | u64, number => UInt64.ofNat number
  | i32, number => (UInt32.ofNat number).toInt32
  | i64, number => (UInt64.ofNat number).toInt64

theorem read_eq (format : NumberFormat) :
    format.read = natural format.width >>= fun number => pure (format.ofBits number) := by
  cases format with
  | i32 =>
    show Reader.u32 >>= _ = _
    rw [Reader.u32, bind_assoc]
    rfl
  | i64 =>
    show Reader.u64 >>= _ = _
    rw [Reader.u64, bind_assoc]
    rfl
  | _ => rfl

theorem bits_ofBits (format : NumberFormat) {number : Nat} (small : number < 256 ^ format.width) :
    format.bits (format.ofBits number) = number := by
  cases format with
  | u8 => exact UInt8.toNat_ofNat_of_lt' small
  | u16 => exact UInt16.toNat_ofNat_of_lt' small
  | u32 => exact UInt32.toNat_ofNat_of_lt' small
  | u64 => exact UInt64.toNat_ofNat_of_lt' small
  | i32 => exact UInt32.toNat_ofNat_of_lt' small
  | i64 => exact UInt64.toNat_ofNat_of_lt' small

theorem read_advances (format : NumberFormat) : Advances format.read := by
  rw [read_eq]
  exact (natural_advances _).bind_pure _

/-- A number that has been read stands in front as its bytes. -/
theorem read_eq_ok {format : NumberFormat} {raw rest : List UInt8} {value : format.Value}
    (done : format.read raw = .ok value rest) : raw = format.bytes value ++ rest := by
  rw [read_eq] at done
  obtain ⟨number, left, read, result⟩ := bind_eq_ok.mp done
  cases result
  obtain ⟨small, split⟩ := natural_eq_ok read
  rw [bytes, bits_ofBits format small]
  exact split

/-- A number that does not fit into what remains consumes all of it. -/
theorem read_eq_error {format : NumberFormat} {raw rest : List UInt8} {fault : ClassError}
    (failed : format.read raw = .error fault rest) :
    raw.length < format.width ∧ rest = [] := by
  rcases Nat.lt_or_ge raw.length format.width with short | fits
  · refine ⟨short, ?_⟩
    rw [read_eq, natural, bind_assoc, bind_of_error (exactly_of_length_lt short)] at failed
    cases failed
    rfl
  · have enough : exactly format.width raw =
        .ok (raw.take format.width) (raw.drop format.width) := if_pos fits
    rw [read_eq, natural, bind_assoc, bind_of_ok enough] at failed
    cases failed

end NumberFormat

/-! ### Tables of attributes -/

namespace AttributeDecoder

variable {decoder : AttributeDecoder} {pool : Pool} {version : Version}

/-- Attributes are decoded one behind the other, each of them from all bytes behind those
that the ones before it were reported to take. -/
def DecodesInPlace (decoder : AttributeDecoder) (pool : Pool) (version : Version)
    (raw : List UInt8) (rows : List (Attribute × Nat)) : Prop :=
  ∀ index (inside : index < rows.length),
    decoder (raw.drop ((rows.take index).map Prod.snd).sum) pool version = .ok rows[index]

/-- The attribute that is read is the one decoded from all that remains, and the bytes that it
was reported to take are passed over. -/
theorem read_eq_ok {raw rest : List UInt8} {row : Attribute × Nat}
    (done : decoder.read pool version raw = .ok row rest) :
    decoder raw pool version = .ok row ∧ row.2 ≤ raw.length ∧ rest = raw.drop row.2 := by
  rw [decoder_read_eq] at done
  cases answer : decoder raw pool version with
  | ok found =>
    rw [answer] at done
    obtain ⟨_, middle, skipped, result⟩ := bind_eq_ok.mp done
    cases result
    obtain ⟨block, left, passed, result⟩ := bind_eq_ok.mp skipped
    cases result
    unfold Reader.bytes at passed
    split at passed
    · rename_i fits
      cases passed
      exact ⟨rfl, fits, rfl⟩
    · cases passed
  | error fault =>
    rw [answer] at done
    cases done

theorem times_read_eq_ok {count : Nat} {raw rest : List UInt8} {rows : List (Attribute × Nat)}
    (done : times count (decoder.read pool version) raw = .ok rows rest) :
    rows.length = count ∧ rest = raw.drop (rows.map Prod.snd).sum ∧
      (rows.map Prod.snd).sum ≤ raw.length ∧ decoder.DecodesInPlace pool version raw rows := by
  induction count generalizing raw rows with
  | zero =>
    cases done
    exact ⟨rfl, rfl, Nat.zero_le _, fun index inside => absurd inside (Nat.not_lt_zero index)⟩
  | succ count hypothesis =>
    obtain ⟨row, middle, first, second⟩ := bind_eq_ok.mp done
    obtain ⟨others, left, behind, result⟩ := bind_eq_ok.mp second
    cases result
    obtain ⟨decoded, fits, rfl⟩ := read_eq_ok first
    obtain ⟨counted, passed, within, inPlace⟩ := hypothesis behind
    rw [List.length_drop] at within
    refine ⟨congrArg (· + 1) counted, ?_, ?_, ?_⟩
    · rw [passed, List.drop_drop, List.map_cons, List.sum_cons]
    · rw [List.map_cons, List.sum_cons]
      omega
    · intro index inside
      cases index with
      | zero => exact decoded
      | succ index =>
        have later := inPlace index (Nat.lt_of_succ_lt_succ inside)
        rwa [List.drop_drop] at later

/-- A table of attributes fills the bytes that its attributes were reported to take. -/
theorem readTable_eq_ok {count : Nat} {raw rest : List UInt8} {attributes : Attributes}
    {length : Nat}
    (done : decoder.readTable pool version count raw = .ok (attributes, length) rest) :
    rest = raw.drop length ∧ length ≤ raw.length ∧ ∃ rows : List (Attribute × Nat),
      rows.length = count ∧ attributes = .ofList (rows.map Prod.fst) ∧
      length = (rows.map Prod.snd).sum ∧ decoder.DecodesInPlace pool version raw rows := by
  obtain ⟨rows, middle, read, result⟩ := bind_eq_ok.mp done
  cases result
  obtain ⟨counted, passed, within, inPlace⟩ := times_read_eq_ok read
  rw [totalTaken_eq_sum]
  exact ⟨passed, within, rows, counted, rfl, rfl, inPlace⟩

end AttributeDecoder

/-! ### Calls -/

/-- What can be read at a cursor. Attributes may be decoded by a different decoder each
time. -/
inductive ReaderCall where
  | number (format : NumberFormat)
  | bytes (count : Nat)
  | elementValue (pool : Pool)
  | annotations (pool : Pool)
  | parameterAnnotations (pool : Pool)
  | exceptions (pool : Pool)
  | localVariables (pool : Pool)
  | code (decoder : AttributeDecoder) (pool : Pool) (version : Version)
  | attributes (decoder : AttributeDecoder) (pool : Pool) (version : Version) (count : Nat)
  | record (decoder : AttributeDecoder) (pool : Pool) (version : Version)
  | classFile (decoder : AttributeDecoder)

namespace ReaderCall

abbrev Answer : ReaderCall → Type
  | number format => format.Value
  | bytes _ => List UInt8
  | elementValue _ => ElementValue
  | annotations _ => List AnnotationUse
  | parameterAnnotations _ => List (List AnnotationUse)
  | exceptions _ => List String
  | localVariables _ => List LocalVariable
  | code _ _ _ => Code
  | attributes _ _ _ _ => Attributes × Nat
  | record _ _ _ => Record
  | classFile _ => ClassFile

def reader : (call : ReaderCall) → Reader call.Answer
  | number format => format.read
  | bytes count => Reader.bytes count
  | elementValue pool => ElementValue.read pool
  | annotations pool => readAnnotations pool
  | parameterAnnotations pool => readParameterAnnotations pool
  | exceptions pool => readExceptions pool
  | localVariables pool => readLocalVariables pool
  | code decoder pool version => Code.read decoder pool version
  | attributes decoder pool version count => decoder.readTable pool version count
  | record decoder pool version => Record.read decoder pool version
  | classFile decoder => ClassFile.read decoder

theorem reader_advances (call : ReaderCall) : Advances call.reader := by
  cases call with
  | number format => exact format.read_advances
  | bytes count => exact bytes_advances count
  | elementValue pool => exact elementValue_advances
  | annotations pool => exact readAnnotations_advances
  | parameterAnnotations pool => exact readParameterAnnotations_advances
  | exceptions pool => exact readExceptions_advances
  | localVariables pool => exact readLocalVariables_advances
  | code decoder pool version => exact codeRead_advances
  | attributes decoder pool version count => exact readTable_advances count
  | record decoder pool version => exact record_read_advances
  | classFile decoder => exact classFile_read_advances

/-- What the answer to a call has to do with the positions before and after it. A number and a
block are spelled by the bytes between the two, and they fail only where the buffer is too
short for them. A table of attributes fills the bytes between the two. -/
def Tells (buffer : List UInt8) (before after : Nat) :
    (call : ReaderCall) → Except ClassError call.Answer → Prop
  | number format, .ok value =>
    after = before + format.width ∧ buffer.extract before after = format.bytes value
  | number format, .error _ => buffer.length < before + format.width ∧ after = buffer.length
  | bytes count, .ok block => after = before + count ∧ buffer.extract before after = block
  | bytes count, .error _ => buffer.length < before + count ∧ after = before
  | attributes decoder pool version count, .ok (found, length) =>
    after = before + length ∧ ∃ rows : List (Attribute × Nat),
      rows.length = count ∧ found = .ofList (rows.map Prod.fst) ∧
      length = (rows.map Prod.snd).sum ∧
      decoder.DecodesInPlace pool version (buffer.drop before) rows
  | _, _ => True

end ReaderCall

namespace Cursor

/-- The cursor after a call. -/
def after (cursor : Cursor) (call : ReaderCall) : Cursor := (cursor.run call.reader).2

/-- The cursor after calls one behind the other. -/
def afterAll (cursor : Cursor) (history : List ReaderCall) : Cursor := history.foldl after cursor

theorem run_eq {α : Type} (cursor : Cursor) (reader : Reader α) :
    (cursor.run reader).2 = ⟨cursor.buffer, left reader cursor.rest⟩ := by
  unfold run left
  cases reader cursor.rest <;> rfl

theorem buffer_afterAll (cursor : Cursor) (history : List ReaderCall) :
    (cursor.afterAll history).buffer = cursor.buffer := by
  induction history generalizing cursor with
  | nil => rfl
  | cons call rest hypothesis =>
    refine (hypothesis _).trans ?_
    rw [after, run_eq]

/-- What remains behind calls is an end of what remained before them. -/
theorem rest_afterAll (cursor : Cursor) (history : List ReaderCall) :
    (cursor.afterAll history).rest <:+ cursor.rest := by
  induction history generalizing cursor with
  | nil => exact List.suffix_refl _
  | cons call rest hypothesis =>
    refine (hypothesis _).trans ?_
    rw [after, run_eq]
    exact call.reader_advances cursor.rest

/-- Where an end of the buffer remains, it is the buffer from the position on. -/
theorem rest_eq_drop {cursor : Cursor} (inside : cursor.rest <:+ cursor.buffer) :
    cursor.rest = cursor.buffer.drop cursor.position :=
  List.suffix_iff_eq_drop.mp inside

theorem position_add_length {cursor : Cursor} (inside : cursor.rest <:+ cursor.buffer) :
    cursor.position + cursor.rest.length = cursor.buffer.length :=
  Nat.sub_add_cancel inside.length_le

/-- Bytes in front of what remains are those between two positions. -/
theorem extract_of_front {cursor : Cursor} (inside : cursor.rest <:+ cursor.buffer)
    {block rest : List UInt8} (split : cursor.rest = block ++ rest) :
    (mk cursor.buffer rest).position = cursor.position + block.length ∧
      cursor.buffer.extract cursor.position (cursor.position + block.length) = block := by
  have standing := position_add_length inside
  have length := congrArg List.length split
  rw [List.length_append] at length
  constructor
  · show cursor.buffer.length - rest.length = _
    omega
  · rw [List.extract_eq_take_drop, ← rest_eq_drop inside, split, Nat.add_sub_cancel_left,
      List.take_left]

theorem extract_of_fits {cursor : Cursor} (inside : cursor.rest <:+ cursor.buffer) {count : Nat}
    (fits : count ≤ cursor.rest.length) :
    (mk cursor.buffer (cursor.rest.drop count)).position = cursor.position + count ∧
      cursor.buffer.extract cursor.position (cursor.position + count) =
        cursor.rest.take count := by
  have moved := extract_of_front inside (List.take_append_drop count cursor.rest).symm
  rwa [List.length_take_of_le fits] at moved

section Calls

variable {cursor : Cursor} (inside : cursor.rest <:+ cursor.buffer)

include inside

theorem tells_number (format : NumberFormat) :
    (ReaderCall.number format).Tells cursor.buffer cursor.position
      (cursor.after (.number format)).position (cursor.run format.read).1 := by
  have standing := position_add_length inside
  unfold after run ReaderCall.reader
  dsimp only
  cases result : format.read cursor.rest with
  | ok value rest =>
    have moved := extract_of_front inside (NumberFormat.read_eq_ok result)
    rw [NumberFormat.bytes, length_digits] at moved
    exact ⟨moved.1, moved.1 ▸ moved.2⟩
  | error fault rest =>
    obtain ⟨short, rfl⟩ := NumberFormat.read_eq_error result
    exact ⟨by omega, rfl⟩

theorem tells_bytes (count : Nat) :
    (ReaderCall.bytes count).Tells cursor.buffer cursor.position
      (cursor.after (.bytes count)).position (cursor.run (Reader.bytes count)).1 := by
  have standing := position_add_length inside
  unfold after run ReaderCall.reader
  dsimp only
  rcases Nat.lt_or_ge cursor.rest.length count with short | fits
  · rw [bytes_of_length_lt short]
    exact ⟨by omega, rfl⟩
  · have enough : Reader.bytes count cursor.rest =
        .ok (cursor.rest.take count) (cursor.rest.drop count) := if_pos fits
    have moved := extract_of_fits inside fits
    rw [enough]
    exact ⟨moved.1, moved.1 ▸ moved.2⟩

theorem tells_attributes (decoder : AttributeDecoder) (pool : Pool) (version : Version)
    (count : Nat) :
    (ReaderCall.attributes decoder pool version count).Tells cursor.buffer cursor.position
      (cursor.after (.attributes decoder pool version count)).position
      (cursor.run (decoder.readTable pool version count)).1 := by
  unfold after run ReaderCall.reader
  dsimp only
  cases result : decoder.readTable pool version count cursor.rest with
  | ok answer rest =>
    obtain ⟨rfl, fits, rows⟩ := AttributeDecoder.readTable_eq_ok result
    rw [rest_eq_drop inside] at rows
    exact ⟨(extract_of_fits inside fits).1, rows⟩
  | error fault rest => trivial

/-- The answer to a call tells of the bytes that the call passed over. -/
theorem tells_run (call : ReaderCall) :
    call.Tells cursor.buffer cursor.position (cursor.after call).position
      (cursor.run call.reader).1 := by
  cases call with
  | number format => exact tells_number inside format
  | bytes count => exact tells_bytes inside count
  | attributes decoder pool version count =>
    exact tells_attributes inside decoder pool version count
  | _ => trivial

end Calls

end Cursor

/-- Whatever was read at a cursor, and with whatever success, the next call keeps it in place.
It is inside the buffer and has not moved back, what remains is the buffer from its position
on, and the answer tells of the bytes that were passed over. -/
theorem calls_keep_place (buffer : List UInt8) (history : List ReaderCall) (call : ReaderCall) :
    let before := (Cursor.ofBuffer buffer).afterAll history
    let after := before.after call
    after.position ≤ buffer.length ∧ before.position ≤ after.position ∧
    after.run Reader.remaining = (.ok (buffer.drop after.position), after) ∧
    call.Tells buffer before.position after.position (before.run call.reader).1 := by
  intro before after
  have whole : before.buffer = buffer := Cursor.buffer_afterAll _ history
  have inside : before.rest <:+ before.buffer := by
    rw [whole]
    exact Cursor.rest_afterAll (Cursor.ofBuffer buffer) history
  have same : after.buffer = buffer := (Cursor.buffer_afterAll before [call]).trans whole
  have moved : after.rest <:+ before.rest := Cursor.rest_afterAll before [call]
  have within : after.rest <:+ after.buffer := by
    rw [same, ← whole]
    exact moved.trans inside
  have standing := Cursor.position_add_length inside
  have arrived := Cursor.position_add_length within
  rw [whole] at standing
  rw [same] at arrived
  have less := moved.length_le
  refine ⟨by omega, by omega, ?_, ?_⟩
  · have remains := Cursor.rest_eq_drop within
    rw [same] at remains
    rw [← remains]
    rfl
  · rw [← whole]
    exact Cursor.tells_run inside call

end ClassMembers
