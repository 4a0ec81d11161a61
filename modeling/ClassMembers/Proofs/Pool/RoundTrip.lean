/-
This file writes constant pools and proves that they are read back. The constants
are written one behind the other, without the entries that cannot be used; these
come back with the places, because a wide constant that is read takes the place
behind it as well. The one exception is a wide constant in the last place, which
has nothing behind it, so what a pool declares may be one less than what its
constants take.
-/

import ClassMembers.Pool.Reading
import ClassMembers.Proofs.Reader.Written
import ClassMembers.Proofs.Text.Utf8

namespace ClassMembers

open Reader

namespace PoolEntry

/-! ### Constants -/

/-- The bytes of a constant: its tag and what follows. -/
def written : PoolEntry → List UInt8
  | utf8 text => 1 :: (digits 2 (Text.encodeUtf8 text).length ++ Text.encodeUtf8 text)
  | int value => 3 :: u32Bytes value.toUInt32
  | float bits => 4 :: u32Bytes bits
  | long value => 5 :: u64Bytes value.toUInt64
  | double bits => 6 :: u64Bytes bits
  | className nameIndex => 7 :: u16Bytes nameIndex
  | string textIndex => 8 :: u16Bytes textIndex
  | fieldRef classIndex nameAndTypeIndex =>
    9 :: (u16Bytes classIndex ++ u16Bytes nameAndTypeIndex)
  | methodRef classIndex nameAndTypeIndex =>
    10 :: (u16Bytes classIndex ++ u16Bytes nameAndTypeIndex)
  | interfaceMethodRef classIndex nameAndTypeIndex =>
    11 :: (u16Bytes classIndex ++ u16Bytes nameAndTypeIndex)
  | nameAndType nameIndex descriptorIndex =>
    12 :: (u16Bytes nameIndex ++ u16Bytes descriptorIndex)
  | methodHandle kind referenceIndex => 15 :: kind :: u16Bytes referenceIndex
  | methodType descriptorIndex => 16 :: u16Bytes descriptorIndex
  | dynamic bootstrapIndex nameAndTypeIndex =>
    17 :: (u16Bytes bootstrapIndex ++ u16Bytes nameAndTypeIndex)
  | invokeDynamic bootstrapIndex nameAndTypeIndex =>
    18 :: (u16Bytes bootstrapIndex ++ u16Bytes nameAndTypeIndex)
  | moduleName nameIndex => 19 :: u16Bytes nameIndex
  | packageName nameIndex => 20 :: u16Bytes nameIndex
  | unusable => []

/-- A constant that has bytes: one that can be used, of which the number of bytes
fits into two if it is a text. -/
def IsWritable : PoolEntry → Prop
  | utf8 text => (Text.encodeUtf8 text).length < 2 ^ 16
  | unusable => False
  | _ => True

theorem readUtf8_reads {text : String} (short : (Text.encodeUtf8 text).length < 2 ^ 16) :
    Reads readUtf8 (digits 2 (Text.encodeUtf8 text).length ++ Text.encodeUtf8 text) text := by
  have block := (bytes_reads (Text.encodeUtf8 text)).bind_pure Text.decodeUtf8
  rw [Text.decodeUtf8_encodeUtf8] at block
  refine (count_reads short).bind ?_
  rw [UInt16.toNat_ofNat_of_lt' short]
  exact block

/-- Every constant is read back from its bytes. -/
theorem read_reads {entry : PoolEntry} (writable : entry.IsWritable) :
    Reads PoolEntry.read entry.written entry := by
  have tagged : ∀ {tag : UInt8} {body : List UInt8}, Reads (readBody tag) body entry →
      Reads PoolEntry.read (tag :: body) entry := fun body => (u8_reads _).bind body
  have pair : ∀ (make : UInt16 → UInt16 → PoolEntry) (first second : UInt16),
      Reads (do return make (← u16) (← u16)) (u16Bytes first ++ u16Bytes second)
        (make first second) :=
    fun make first second => (u16_reads first).bind ((u16_reads second).bind_pure _)
  cases entry with
  | utf8 text => exact tagged ((readUtf8_reads writable).bind_pure _)
  | int value => exact tagged ((i32_reads value).bind_pure _)
  | float bits => exact tagged ((u32_reads bits).bind_pure _)
  | long value => exact tagged ((i64_reads value).bind_pure _)
  | double bits => exact tagged ((u64_reads bits).bind_pure _)
  | className nameIndex => exact tagged ((u16_reads nameIndex).bind_pure _)
  | string textIndex => exact tagged ((u16_reads textIndex).bind_pure _)
  | fieldRef classIndex nameAndTypeIndex => exact tagged (pair .fieldRef _ _)
  | methodRef classIndex nameAndTypeIndex => exact tagged (pair .methodRef _ _)
  | interfaceMethodRef classIndex nameAndTypeIndex => exact tagged (pair .interfaceMethodRef _ _)
  | nameAndType nameIndex descriptorIndex => exact tagged (pair .nameAndType _ _)
  | methodHandle kind referenceIndex =>
    exact tagged ((u8_reads kind).bind ((u16_reads referenceIndex).bind_pure _))
  | methodType descriptorIndex => exact tagged ((u16_reads descriptorIndex).bind_pure _)
  | dynamic bootstrapIndex nameAndTypeIndex => exact tagged (pair .dynamic _ _)
  | invokeDynamic bootstrapIndex nameAndTypeIndex => exact tagged (pair .invokeDynamic _ _)
  | moduleName nameIndex => exact tagged ((u16_reads nameIndex).bind_pure _)
  | packageName nameIndex => exact tagged ((u16_reads nameIndex).bind_pure _)
  | unusable => exact writable.elim

/-! ### Places -/

/-- The number of places that a constant takes. -/
def width (entry : PoolEntry) : Nat := if entry.isWide then 2 else 1

/-- Constants fill this number of places. A wide constant may stand in the last of
them and then takes no other. -/
inductive Fills : Nat → List PoolEntry → Prop
  | none : Fills 0 []
  | last {entry : PoolEntry} : Fills 1 [entry]
  | cons {places : Nat} {entry : PoolEntry} {behind : List PoolEntry}
      (others : Fills places behind) : Fills (entry.width + places) (entry :: behind)

/-- The entries in the given number of places: the constants in their order, and
one that cannot be used behind every wide one that has a place behind it. -/
def spread : Nat → List PoolEntry → List PoolEntry
  | _, [] => []
  | places, entry :: behind =>
    if entry.isWide ∧ 2 ≤ places then entry :: .unusable :: spread (places - 2) behind
    else entry :: spread (places - 1) behind

/-- Constants fill one place more than all but the last take, whatever the last one is. -/
theorem fills_concat (constants : List PoolEntry) (entry : PoolEntry) :
    Fills ((constants.map width).sum + 1) (constants ++ [entry]) := by
  induction constants with
  | nil => exact .last
  | cons first behind hypothesis =>
    rw [List.map_cons, List.sum_cons, Nat.add_assoc, List.cons_append]
    exact .cons hypothesis

/-- The next place, and the one behind it if the constant takes that as well. -/
theorem readPlaces_succ (places : Nat) :
    readPlaces (places + 1) = do
      let entry ← PoolEntry.read
      if entry.isWide ∧ 0 < places then return entry :: .unusable :: (← readPlaces (places - 1))
      else return entry :: (← readPlaces places) := by
  cases places with
  | zero =>
    refine congrArg (PoolEntry.read >>= ·) (funext fun entry => ?_)
    rw [if_neg (by simp)]
    rfl
  | succ places =>
    refine congrArg (PoolEntry.read >>= ·) (funext fun entry => ?_)
    cases wide : entry.isWide
    · rw [if_neg (by simp), if_neg (by simp)]
    · rw [if_pos rfl, if_pos (by simp)]
      rfl

theorem readPlaces_reads_wide {places : Nat} {entry : PoolEntry} {taken : List UInt8}
    {behind : List PoolEntry} (writable : entry.IsWritable) (wide : entry.isWide = true)
    (read : Reads (readPlaces places) taken behind) :
    Reads (readPlaces (places + 2)) (entry.written ++ taken) (entry :: .unusable :: behind) := by
  rw [readPlaces_succ]
  refine (read_reads writable).bind ?_
  rw [if_pos ⟨wide, Nat.succ_pos places⟩]
  exact read.bind_pure _

theorem readPlaces_reads_narrow {places : Nat} {entry : PoolEntry} {taken : List UInt8}
    {behind : List PoolEntry} (writable : entry.IsWritable)
    (narrow : ¬(entry.isWide = true ∧ 0 < places)) (read : Reads (readPlaces places) taken behind) :
    Reads (readPlaces (places + 1)) (entry.written ++ taken) (entry :: behind) := by
  rw [readPlaces_succ]
  refine (read_reads writable).bind ?_
  rw [if_neg narrow]
  exact read.bind_pure _

/-- The places of constants are read back from their bytes. -/
theorem readPlaces_reads {places : Nat} {constants : List PoolEntry}
    (fills : Fills places constants) (writable : ∀ entry ∈ constants, entry.IsWritable) :
    Reads (readPlaces places) (constants.flatMap written) (spread places constants) := by
  -- The last place reads like a narrow constant whatever stands in it.
  induction fills with
  | none => exact pure_reads []
  | @last entry =>
    have here := writable entry (List.mem_singleton_self entry)
    rw [spread, if_neg (by simp)]
    exact readPlaces_reads_narrow here (by simp) (pure_reads [])
  | @cons places entry behind _ hypothesis =>
    have here := writable entry List.mem_cons_self
    have others := hypothesis fun entry inside => writable entry (List.mem_cons_of_mem _ inside)
    rw [width, spread, List.flatMap_cons]
    cases wide : entry.isWide with
    | true =>
      rw [if_pos rfl, Nat.add_comm, if_pos ⟨rfl, Nat.le_add_left 2 places⟩, Nat.add_sub_cancel]
      exact readPlaces_reads_wide here wide others
    | false =>
      rw [if_neg Bool.false_ne_true, Nat.add_comm, if_neg (by simp), Nat.add_sub_cancel]
      exact readPlaces_reads_narrow here (by simp [wide]) others

/-- A pool is read back from the number of its places plus one and its constants. -/
theorem poolRead_reads {places : Nat} {constants : List PoolEntry} (few : places + 1 < 2 ^ 16)
    (fills : Fills places constants) (writable : ∀ entry ∈ constants, entry.IsWritable) :
    Reads Pool.read (digits 2 (places + 1) ++ constants.flatMap written)
      ⟨spread places constants⟩ := by
  refine (count_reads few).bind (Reads.bind_pure ?_ _)
  rw [UInt16.toNat_ofNat_of_lt' few, Nat.add_sub_cancel]
  exact readPlaces_reads fills writable

end PoolEntry

end ClassMembers
