/-
This file writes the record of a member as bytes and proves that the order in which its
attributes are written does not matter. The numbers of a record come first, and the table
behind them is read exactly if each of its blocks decodes, which the blocks around it have
no part in. So two records that differ in the order of their attributes are read both or
refused both, and what is read differs in that order alone.
-/

import ClassMembers.Proofs.Attribute.Order
import ClassMembers.Record

namespace ClassMembers

open Reader

/-! ### Two computations that agree -/

/-- Two computations both fail, or both answer, with answers that are related. -/
inductive Agree {ε α : Type} (related : α → α → Prop) : Except ε α → Except ε α → Prop
  | fail (first second : ε) : Agree related (.error first) (.error second)
  | answer {first second : α} (same : related first second) : Agree related (.ok first) (.ok second)

namespace Agree

variable {ε ε' α β : Type} {related : α → α → Prop} {alike : β → β → Prop}

theorem self (answer : Except ε α) : Agree Eq answer answer := by
  cases answer with
  | ok answer => exact .answer rfl
  | error fault => exact .fail fault fault

theorem bind {first second : Except ε α} {next other : α → Except ε β}
    (before : Agree related first second)
    (behind : ∀ left right, related left right → Agree alike (next left) (other right)) :
    Agree alike (first >>= next) (second >>= other) := by
  cases before with
  | fail left right => exact .fail left right
  | answer same => exact behind _ _ same

theorem mapError {first second : Except ε α} {change : ε → ε'}
    (agree : Agree related first second) :
    Agree related (first.mapError change) (second.mapError change) := by
  cases agree with
  | fail left right => exact .fail _ _
  | answer same => exact .answer same

theorem mono {first second : Except ε α} {weaker : α → α → Prop}
    (agree : Agree related first second)
    (implies : ∀ left right, related left right → weaker left right) :
    Agree weaker first second := by
  cases agree with
  | fail left right => exact .fail left right
  | answer same => exact .answer (implies _ _ same)

end Agree

/-! ### Records as they are written -/

/-- A member as it is written: three numbers and the blocks of its attributes. -/
structure WrittenMember where
  accessFlags : UInt16
  nameIndex : UInt16
  descriptorIndex : UInt16
  blocks : List AttributeBlock
  few : blocks.length ≤ 65535

namespace WrittenMember

variable {pool : Pool} {version : Version} {first second : WrittenMember}

/-- The bytes of a member: its three numbers and the table of its attributes. -/
def bytes (member : WrittenMember) : List UInt8 :=
  u16Bytes member.accessFlags ++ (u16Bytes member.nameIndex ++
    (u16Bytes member.descriptorIndex ++
      (digits 2 member.blocks.length ++ member.blocks.flatMap AttributeBlock.bytes)))

/-- The record of a member whose attributes all decode. -/
def record (pool : Pool) (version : Version) (member : WrittenMember) : Record where
  accessFlags := member.accessFlags
  nameIndex := member.nameIndex
  descriptorIndex := member.descriptorIndex
  attributes := .ofList (member.blocks.filterMap (AttributeBlock.decoded? pool version))
  rawLength := Record.headerLength + (member.blocks.flatMap AttributeBlock.bytes).length

/-- Two members differ in the order of their attributes alone. -/
structure Reordered (first second : WrittenMember) : Prop where
  accessFlags : first.accessFlags = second.accessFlags
  nameIndex : first.nameIndex = second.nameIndex
  descriptorIndex : first.descriptorIndex = second.descriptorIndex
  blocks : first.blocks.Perm second.blocks

/-- No two attributes have the same name. -/
def DifferentNames (pool : Pool) (member : WrittenMember) : Prop :=
  member.blocks.Pairwise (AttributeBlock.OtherName pool)

/-- The numbers of a member are read, and what is left is the table of its attributes. -/
theorem read_bytes_append (member : WrittenMember) (rest : List UInt8) :
    Record.read decodeAttribute pool version (member.bytes ++ rest) =
      (AttributeDecoder.readTable decodeAttribute pool version member.blocks.length >>= fun table =>
        pure (⟨member.accessFlags, member.nameIndex, member.descriptorIndex, table.1,
          Record.headerLength + table.2⟩ : Record))
        (member.blocks.flatMap AttributeBlock.bytes ++ rest) := by
  have few : member.blocks.length < 2 ^ 16 := Nat.lt_succ_of_le member.few
  rw [bytes]
  simp only [List.append_assoc]
  refine (Sequencing.bind_of_ok (u16_reads _ _)).trans ?_
  refine (Sequencing.bind_of_ok (u16_reads _ _)).trans ?_
  refine (Sequencing.bind_of_ok (u16_reads _ _)).trans ?_
  refine (Sequencing.bind_of_ok (count_reads few _)).trans ?_
  rw [UInt16.toNat_ofNat_of_lt' few]

/-- A record is read only if each of its attributes decodes. -/
theorem isSome_of_read {member : WrittenMember} {rest left : List UInt8} {record : Record}
    (read : Record.read decodeAttribute pool version (member.bytes ++ rest) = .ok record left) :
    ∀ block ∈ member.blocks, (block.decoded? pool version).isSome = true := by
  rw [read_bytes_append] at read
  obtain ⟨_, _, table, -⟩ := Sequencing.bind_eq_ok.mp read
  obtain ⟨_, _, rows, -⟩ := Sequencing.bind_eq_ok.mp table
  exact AttributeBlock.isSome_of_times rows

/-- If each does, the record is read, whatever follows it. -/
theorem read_of_isSome {member : WrittenMember}
    (each : ∀ block ∈ member.blocks, (block.decoded? pool version).isSome = true) :
    Reads (Record.read decodeAttribute pool version) member.bytes
      (member.record pool version) := by
  intro rest
  have table := readTable_reads (AttributeBlock.sequence_of_isSome each)
  rw [List.filterMap_length_eq_length.mpr each] at table
  rw [read_bytes_append, Sequencing.bind_of_ok (table rest)]
  rfl

theorem Reordered.symm (reordered : first.Reordered second) : second.Reordered first where
  accessFlags := reordered.accessFlags.symm
  nameIndex := reordered.nameIndex.symm
  descriptorIndex := reordered.descriptorIndex.symm
  blocks := reordered.blocks.symm

/-- If one of the two is read, so is the other. -/
theorem Reordered.read (reordered : first.Reordered second) {rest left : List UInt8}
    {record : Record}
    (read : Record.read decodeAttribute pool version (first.bytes ++ rest) = .ok record left) :
    record = first.record pool version ∧
      Reads (Record.read decodeAttribute pool version) second.bytes
        (second.record pool version) := by
  have each := isSome_of_read read
  refine ⟨?_, read_of_isSome fun block inside => each block ?_⟩
  · cases (read_of_isSome each rest).symm.trans read
    rfl
  · exact reordered.blocks.mem_iff.mpr inside

end WrittenMember

/-! ### Records in another order -/

/-- Two records differ in the order of their attributes alone. -/
def Record.Rearranged (first second : Record) : Prop :=
  ∃ attributes, first.attributes.Rearranged attributes ∧ second = { first with attributes }

theorem WrittenMember.Reordered.record {pool : Pool} {version : Version}
    {first second : WrittenMember} (reordered : first.Reordered second)
    (different : first.DifferentNames pool) :
    (first.record pool version).Rearranged (second.record pool version) := by
  refine ⟨.ofList (second.blocks.filterMap (AttributeBlock.decoded? pool version)), ?_, ?_⟩
  · exact Attributes.rearranged_ofList (reordered.blocks.filterMap _)
      (AttributeBlock.nodup_names_decoded different)
  · have length := (reordered.blocks.flatMap_right AttributeBlock.bytes).length_eq
    unfold WrittenMember.record
    rw [reordered.accessFlags, reordered.nameIndex, reordered.descriptorIndex, length]

theorem WrittenMember.Reordered.agree {pool : Pool} {version : Version}
    {first second : WrittenMember} (reordered : first.Reordered second)
    (different : first.DifferentNames pool) (rest behind : List UInt8) :
    Agree Record.Rearranged
      (Record.ofBytes decodeAttribute pool version (first.bytes ++ rest))
      (Record.ofBytes decodeAttribute pool version (second.bytes ++ behind)) := by
  unfold Record.ofBytes
  cases one : Record.read decodeAttribute pool version (first.bytes ++ rest) with
  | ok record left =>
    obtain ⟨rfl, other⟩ := reordered.read one
    rw [other behind]
    exact .answer (reordered.record different)
  | error fault left =>
    cases other : Record.read decodeAttribute pool version (second.bytes ++ behind) with
    | ok record left =>
      obtain ⟨-, same⟩ := reordered.symm.read other
      rw [same rest] at one
      cases one
    | error fault left => exact .fail _ _

end ClassMembers
