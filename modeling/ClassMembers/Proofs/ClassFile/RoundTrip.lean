/-
This file writes class files and proves that they are read back. What is written
is a description: the constants, the numbers of the header, the records and the
attributes. A description holds nothing that a class file cannot hold: its tables
are no longer than their counts can say, its constants fill the places that are
declared, and an attribute comes with what the decoder makes of it where it stands
alone. Trailing bytes are never looked at.
-/

import ClassMembers.ClassFile
import ClassMembers.Proofs.Attribute.Framing
import ClassMembers.Proofs.Pool.RoundTrip

namespace ClassMembers

open Reader Sequencing

/-! ### Descriptions -/

/-- The constants of a class file and the number of places they are declared to fill. -/
structure PoolSource where
  places : Nat
  constants : List PoolEntry
  few : places ≤ 65534
  fills : PoolEntry.Fills places constants
  writable : ∀ entry ∈ constants, entry.IsWritable

/-- The bytes of a pool: the number of its places plus one, and the constants. -/
def PoolSource.bytes (source : PoolSource) : List UInt8 :=
  digits 2 (source.places + 1) ++ source.constants.flatMap PoolEntry.written

/-- The pool of the constants, with the places that cannot be used. -/
def PoolSource.pool (source : PoolSource) : Pool :=
  ⟨PoolEntry.spread source.places source.constants⟩

section Tables

variable {pool : Pool} {version : Version}

/-- An attribute by the index of its name and its body, and what it decodes to
where it stands alone. -/
structure AttributeSource (pool : Pool) (version : Version) where
  nameIndex : UInt16
  body : List UInt8
  entry : Attribute
  short : body.length < 2 ^ 32
  alone : ∃ taken,
    decodeAttribute (attributeBytes nameIndex body) pool version = .ok (entry, taken)

/-- The bytes of an attribute: its name, the length of its body and the body. -/
def AttributeSource.bytes (source : AttributeSource pool version) : List UInt8 :=
  attributeBytes source.nameIndex source.body

/-- A field or a method. -/
structure MemberSource (pool : Pool) (version : Version) where
  accessFlags : UInt16
  nameIndex : UInt16
  descriptorIndex : UInt16
  attributes : List (AttributeSource pool version)
  few : attributes.length ≤ 65535

/-- The bytes of a member: its three numbers and the table of its attributes. -/
def MemberSource.bytes (source : MemberSource pool version) : List UInt8 :=
  u16Bytes source.accessFlags ++ (u16Bytes source.nameIndex ++ (u16Bytes source.descriptorIndex ++
    (digits 2 source.attributes.length ++ source.attributes.flatMap AttributeSource.bytes)))

/-- The record of a member. Its length is that of the numbers and of the attributes. -/
def MemberSource.record (source : MemberSource pool version) : Record where
  accessFlags := source.accessFlags
  nameIndex := source.nameIndex
  descriptorIndex := source.descriptorIndex
  attributes := .ofList (source.attributes.map AttributeSource.entry)
  rawLength := 8 + (source.attributes.map fun inside => 6 + inside.body.length).sum

end Tables

/-- A class. -/
structure ClassSource where
  version : Version
  constants : PoolSource
  accessFlags : UInt16
  thisClass : UInt16
  superClass : UInt16
  interfaces : List UInt16
  fields : List (MemberSource constants.pool version)
  methods : List (MemberSource constants.pool version)
  attributes : List (AttributeSource constants.pool version)
  fewInterfaces : interfaces.length ≤ 65535
  fewFields : fields.length ≤ 65535
  fewMethods : methods.length ≤ 65535
  fewAttributes : attributes.length ≤ 65535

/-- The bytes of a class file. -/
def ClassSource.bytes (source : ClassSource) : List UInt8 :=
  u32Bytes classFileMagic ++ (u16Bytes source.version.minor ++ u16Bytes source.version.major) ++
    source.constants.bytes ++ u16Bytes source.accessFlags ++ u16Bytes source.thisClass ++
    u16Bytes source.superClass ++ digits 2 source.interfaces.length ++
    source.interfaces.flatMap u16Bytes ++
    (digits 2 source.fields.length ++ source.fields.flatMap MemberSource.bytes) ++
    (digits 2 source.methods.length ++ source.methods.flatMap MemberSource.bytes) ++
    digits 2 source.attributes.length ++ source.attributes.flatMap AttributeSource.bytes

/-- The class file of a class. Of the flags it has the bits with a meaning. -/
def ClassSource.file (source : ClassSource) : ClassFile where
  version := source.version
  pool := source.constants.pool
  accessFlags := .ofBits source.accessFlags
  thisClass := source.thisClass
  superClass := source.superClass
  interfaces := source.interfaces
  fields := source.fields.map MemberSource.record
  methods := source.methods.map MemberSource.record
  attributes := .ofList (source.attributes.map AttributeSource.entry)

/-! ### Attributes -/

section Tables

variable {pool : Pool} {version : Version}

/-- What an attribute decodes to where it stands alone it decodes to everywhere. -/
theorem AttributeSource.decodes (source : AttributeSource pool version) :
    AttributeDecoder.Decodes decodeAttribute pool version source.bytes source.entry := by
  obtain ⟨taken, alone⟩ := source.alone
  intro rest
  cases named : pool.utf8 source.nameIndex with
  | error fault =>
    have header := readAttributeHeader_of_unnamed named source.body []
    rw [List.append_nil] at header
    rw [decodeAttribute_of_header_error header] at alone
    cases alone
  | ok name =>
    have whole := @decodeAttribute_framed pool version _ _ _ named source.short []
    rw [List.append_nil, alone] at whole
    rw [bytes, decodeAttribute_framed named source.short, length_attributeBytes]
    cases inside : Attribute.ofBody decodeAttribute pool version name source.body with
    | error fault =>
      rw [inside] at whole
      cases whole
    | ok entry =>
      rw [inside] at whole
      cases whole
      rfl

theorem length_flatMap_attributes (sources : List (AttributeSource pool version)) :
    (sources.flatMap AttributeSource.bytes).length =
      (sources.map fun source => 6 + source.body.length).sum := by
  induction sources with
  | nil => rfl
  | cons source rest hypothesis =>
    rw [List.flatMap_cons, List.length_append, hypothesis, List.map_cons, List.sum_cons,
      AttributeSource.bytes, length_attributeBytes, attributeHeaderLength]

theorem readTable_reads_attributes (sources : List (AttributeSource pool version)) :
    Reads (AttributeDecoder.readTable decodeAttribute pool version sources.length)
      (sources.flatMap AttributeSource.bytes)
      (.ofList (sources.map AttributeSource.entry),
        (sources.map fun source => 6 + source.body.length).sum) := by
  have read := readTable_reads (Sequence.of_flatMap sources AttributeSource.decodes)
  rwa [List.length_map, length_flatMap_attributes] at read

/-! ### Members -/

theorem MemberSource.reads (source : MemberSource pool version) :
    Reads (Record.read decodeAttribute pool version) source.bytes source.record := by
  have few : source.attributes.length < 2 ^ 16 := Nat.lt_succ_of_le source.few
  refine (u16_reads _).bind ((u16_reads _).bind ((u16_reads _).bind ((count_reads few).bind ?_)))
  rw [UInt16.toNat_ofNat_of_lt' few]
  exact (readTable_reads_attributes source.attributes).bind_pure _

theorem table_reads_members (sources : List (MemberSource pool version))
    (few : sources.length ≤ 65535) :
    Reads (table (Record.read decodeAttribute pool version))
      (digits 2 sources.length ++ sources.flatMap MemberSource.bytes)
      (sources.map MemberSource.record) := by
  have small : sources.length < 2 ^ 16 := Nat.lt_succ_of_le few
  have read := times_reads (Sequence.of_flatMap sources MemberSource.reads)
  rw [List.length_map] at read
  refine (count_reads small).bind ?_
  rwa [UInt16.toNat_ofNat_of_lt' small]

end Tables

/-! ### Class files -/

theorem PoolSource.reads (source : PoolSource) : Reads Pool.read source.bytes source.pool :=
  PoolEntry.poolRead_reads (Nat.lt_succ_of_le (Nat.succ_le_succ source.few)) source.fills
    source.writable

theorem readMagic_reads : Reads readMagic (u32Bytes classFileMagic) () := by
  rw [← List.append_nil (u32Bytes classFileMagic)]
  refine (u32_reads classFileMagic).bind ?_
  rw [if_pos rfl]
  exact pure_reads ()

theorem versionRead_reads (version : Version) :
    Reads Version.read (u16Bytes version.minor ++ u16Bytes version.major) version :=
  (u16_reads version.minor).bind ((u16_reads version.major).bind_pure _)

/-- A class file is read back from its bytes. -/
theorem ClassSource.reads (source : ClassSource) :
    Reads (ClassFile.read decodeAttribute) source.bytes source.file := by
  have fewInterfaces : source.interfaces.length < 2 ^ 16 := Nat.lt_succ_of_le source.fewInterfaces
  have fewAttributes : source.attributes.length < 2 ^ 16 := Nat.lt_succ_of_le source.fewAttributes
  simp only [bytes, List.append_assoc]
  refine readMagic_reads.bind ?_
  rw [← List.append_assoc (u16Bytes source.version.minor)]
  refine (versionRead_reads source.version).bind (source.constants.reads.bind ?_)
  refine (u16_reads _).bind ((u16_reads _).bind ((u16_reads _).bind ?_))
  refine (count_reads fewInterfaces).bind ?_
  rw [UInt16.toNat_ofNat_of_lt' fewInterfaces]
  refine (u16Block_reads source.interfaces).bind ?_
  rw [← List.append_assoc (digits 2 source.fields.length)]
  refine (table_reads_members source.fields source.fewFields).bind ?_
  rw [← List.append_assoc (digits 2 source.methods.length)]
  refine (table_reads_members source.methods source.fewMethods).bind ?_
  refine (count_reads fewAttributes).bind ?_
  rw [UInt16.toNat_ofNat_of_lt' fewAttributes]
  exact (readTable_reads_attributes source.attributes).bind_pure _

/-- What a class file describes is what is read from it, whatever bytes follow:
the constants with the places they take, the numbers of the header, of the flags
the bits with a meaning, and the members and the attributes in their order, each
with what its attributes decode to alone. -/
theorem ofBytes_bytes (source : ClassSource) (trailing : List UInt8) :
    ClassFile.ofBytes decodeAttribute (source.bytes ++ trailing) = .ok source.file := by
  rw [ClassFile.ofBytes, source.reads trailing]

/-- A class with a deprecated field, and with a wide constant in the last place. -/
def deprecatedSource : ClassSource where
  version := ⟨52, 0⟩
  constants := ⟨2, [.utf8 "Deprecated", .long 5], by decide,
    PoolEntry.fills_concat [.utf8 "Deprecated"] (.long 5), by
      intro entry inside
      simp only [List.mem_cons, List.not_mem_nil, or_false] at inside
      rcases inside with rfl | rfl
      · exact (by decide : (Text.encodeUtf8 "Deprecated").length < 2 ^ 16)
      · trivial⟩
  accessFlags := 0x0021
  thisClass := 1
  superClass := 0
  interfaces := [1]
  fields := [⟨2, 1, 1, [⟨1, [], .deprecated, by decide, 6, rfl⟩], by decide⟩]
  methods := []
  attributes := []
  fewInterfaces := by decide
  fewFields := by decide
  fewMethods := by decide
  fewAttributes := by decide

theorem ofBytes_bytes_deprecated :
    ClassFile.ofBytes decodeAttribute
        ([202, 254, 186, 190, 0, 0, 0, 52, 0, 3, 1, 0, 10, 68, 101, 112, 114, 101, 99, 97, 116, 101,
          100, 5, 0, 0, 0, 0, 0, 0, 0, 5, 0, 33, 0, 1, 0, 0, 0, 1, 0, 1, 0, 1, 0, 2, 0, 1, 0, 1, 0,
          1, 0, 1, 0, 0, 0, 0, 0, 0, 0, 0] ++ [255]) =
      .ok ⟨⟨52, 0⟩, ⟨[.utf8 "Deprecated", .long 5]⟩, ⟨33⟩, 1, 0, [1],
        [⟨2, 1, 1, .ofList [.deprecated], 14⟩], [], .ofList []⟩ :=
  ofBytes_bytes deprecatedSource [255]

/-- A class with nothing in it but flags. -/
def bareSource (accessFlags : UInt16) : ClassSource where
  version := ⟨52, 0⟩
  constants := ⟨0, [], by decide, .none, by intro entry inside; cases inside⟩
  accessFlags := accessFlags
  thisClass := 0
  superClass := 0
  interfaces := []
  fields := []
  methods := []
  attributes := []
  fewInterfaces := by decide
  fewFields := by decide
  fewMethods := by decide
  fewAttributes := by decide

/-- The flags of a class do not always come back as they were written: the bit
that only a method has a use for is dropped. -/
theorem ofBytes_bareSource_ne :
    (ClassFile.ofBytes decodeAttribute (bareSource 0x0100).bytes).map
        (fun file => file.accessFlags.bits) ≠ .ok (bareSource 0x0100).accessFlags.toUInt32 := by
  have read : (ClassFile.ofBytes decodeAttribute (bareSource 0x0100).bytes).map
      (fun file => file.accessFlags.bits) = .ok 0 := rfl
  rw [read]
  intro same
  exact absurd (Except.ok.inj same) (by decide)

end ClassMembers
