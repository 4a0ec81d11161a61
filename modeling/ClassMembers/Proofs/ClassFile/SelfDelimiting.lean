/-
This file proves that records and class files are self-delimiting. Whatever the
reader accepts, malformed bodies of attributes that are kept as blocks included,
the value depends on the bytes that were consumed and on nothing behind them,
and no shorter beginning of these bytes is accepted: it ends in a fault that
says that bytes are missing. The length of a record is that of its header and of
its attributes as their headers declare them, and the fields and the methods of
a class file are the records at offsets that the lengths add up to.
-/

import ClassMembers.ClassFile
import ClassMembers.Proofs.Attribute.Framing

namespace ClassMembers

open Reader Sequencing

/-! ### What is delimited -/

/-- The value that is read at the front of a buffer, and the position of the
cursor behind it. -/
def Reader.withPosition {α : Type} (reader : Reader α) (raw : List UInt8) :
    Except ClassError (α × Nat) :=
  match (Cursor.ofBuffer raw).run reader with
  | (.ok value, after) => .ok (value, after.position)
  | (.error fault, _) => .error fault

/-- The value that is made from bytes is made from the first of them, as many as
the length says, whatever follows these, and from no fewer. -/
structure Delimits {α : Type} (parse : List UInt8 → Except ClassError α) (raw : List UInt8)
    (value : α) (length : Nat) : Prop where
  within : length ≤ raw.length
  extended : ∀ other : List UInt8, other.take length = raw.take length → parse other = .ok value
  shorter : ∀ count < length, ∃ fault, parse (raw.take count) = .error fault ∧
    fault.isShortage = true

theorem withPosition_of_ok {α : Type} {reader : Reader α} {raw rest : List UInt8} {value : α}
    (done : reader raw = .ok value rest) :
    withPosition reader raw = .ok (value, raw.length - rest.length) := by
  simp only [withPosition, Cursor.run, Cursor.ofBuffer, done, Cursor.position]

theorem withPosition_of_error {α : Type} {reader : Reader α} {raw rest : List UInt8}
    {fault : ClassError} (failed : reader raw = .error fault rest) :
    withPosition reader raw = .error fault := by
  simp only [withPosition, Cursor.run, Cursor.ofBuffer, failed]

theorem withPosition_eq_ok {α : Type} {reader : Reader α} {raw : List UInt8} {value : α}
    {position : Nat} (done : withPosition reader raw = .ok (value, position)) :
    ∃ rest, reader raw = .ok value rest ∧ position = raw.length - rest.length := by
  cases result : reader raw with
  | ok other rest =>
    rw [withPosition_of_ok result] at done
    cases done
    exact ⟨rest, rfl, rfl⟩
  | error fault rest =>
    rw [withPosition_of_error result] at done
    cases done

/-- What a self-delimiting reader accepts is delimited by the position behind it. -/
theorem Reader.SelfDelimiting.delimits {α : Type} {reader : Reader α}
    (delimiting : SelfDelimiting reader) {raw : List UInt8} {value : α} {position : Nat}
    (done : withPosition reader raw = .ok (value, position)) :
    Delimits (withPosition reader) raw (value, position) position := by
  obtain ⟨rest, read, consumed⟩ := withPosition_eq_ok done
  obtain ⟨taken, rfl, reads, needs⟩ := delimiting raw value rest read
  obtain rfl : position = taken.length := by
    rw [consumed, List.length_append, Nat.add_sub_cancel]
  refine ⟨by rw [List.length_append]; omega, ?_, ?_⟩
  · intro other same
    rw [List.take_left] at same
    have whole := List.take_append_drop taken.length other
    rw [same] at whole
    rw [← whole, withPosition_of_ok (reads _), List.length_append, Nat.add_sub_cancel]
  · intro count less
    have nonempty : taken.drop count ≠ [] := by
      intro empty
      rw [List.drop_eq_nil_iff] at empty
      omega
    obtain ⟨fault, left, failed, shortage⟩ :=
      needs (taken.take count) _ (List.take_append_drop count taken).symm nonempty
    rw [List.take_append_of_le_length (Nat.le_of_lt less)]
    exact ⟨fault, withPosition_of_error failed, shortage⟩

theorem Delimits.map {α β : Type} {parse : List UInt8 → Except ClassError α} {raw : List UInt8}
    {value : α} {length : Nat} (delimits : Delimits parse raw value length) (view : α → β) :
    Delimits (fun bytes => (parse bytes).map view) raw (view value) length := by
  refine ⟨delimits.within, ?_, ?_⟩
  · intro other same
    show (parse other).map view = _
    rw [delimits.extended other same]
    rfl
  · intro count less
    obtain ⟨fault, failed, shortage⟩ := delimits.shorter count less
    refine ⟨fault, ?_, shortage⟩
    show (parse (raw.take count)).map view = _
    rw [failed]
    rfl

/-! ### Records -/

theorem record_selfDelimiting (pool : Pool) (version : Version) :
    SelfDelimiting (Record.read decodeAttribute pool version) :=
  u16_selfDelimiting.bind fun _ => u16_selfDelimiting.bind fun _ =>
    u16_selfDelimiting.bind fun _ => u16_selfDelimiting.bind fun _ =>
      (readTable_selfDelimiting pool version _).bind_pure _

/-- The lengths that the headers of a table of attributes declare. -/
def declaredLengths : Nat → List UInt8 → List Nat
  | 0, _ => []
  | count + 1, table =>
    let declared := bigEndian ((table.drop 2).take 4)
    declared :: declaredLengths count (table.drop (attributeHeaderLength + declared))

theorem declaredLengths_attributeBytes {body : List UInt8} (short : body.length < 2 ^ 32)
    (count : Nat) (nameIndex : UInt16) (rest : List UInt8) :
    declaredLengths (count + 1) (attributeBytes nameIndex body ++ rest) =
      body.length :: declaredLengths count rest := by
  have small : body.length < 256 ^ 4 := short
  have declared : bigEndian (((attributeBytes nameIndex body ++ rest).drop 2).take 4) =
      body.length := by
    rw [attributeBytes, List.append_assoc, List.drop_left' (length_u16Bytes nameIndex),
      List.append_assoc, List.take_left' (length_digits 4 body.length), bigEndian_digits,
      Nat.mod_eq_of_lt small]
  rw [declaredLengths, declared, List.drop_left' (length_attributeBytes nameIndex body)]

/-- The rows of a table of attributes have the lengths that their headers
declare, and these add up to what the table takes. -/
theorem times_decodeAttribute_lengths {pool : Pool} {version : Version} {count : Nat}
    {raw rest : List UInt8} {rows : List (Attribute × Nat)}
    (done : times count (AttributeDecoder.read decodeAttribute pool version) raw = .ok rows rest) :
    rows.map Prod.snd = (declaredLengths count raw).map (attributeHeaderLength + ·) ∧
      raw.length = totalTaken rows + rest.length := by
  induction count generalizing raw rows with
  | zero =>
    cases done
    exact ⟨rfl, (Nat.zero_add _).symm⟩
  | succ count hypothesis =>
    obtain ⟨row, middle, first, second⟩ := bind_eq_ok.mp done
    obtain ⟨more, last, behind, result⟩ := bind_eq_ok.mp second
    cases result
    obtain ⟨nameIndex, name, body, whole, -, short, length, -⟩ := decodeAttribute_read_eq_ok first
    obtain ⟨lengths, total⟩ := hypothesis behind
    rw [whole, declaredLengths_attributeBytes short, List.map_cons, List.map_cons, totalTaken,
      List.length_append, length_attributeBytes, lengths, length, total]
    exact ⟨rfl, by omega⟩

/-- A record takes as many bytes as it says, which are those of its header and of
its attributes as their headers declare them. -/
theorem record_rawLength {pool : Pool} {version : Version} {raw rest : List UInt8}
    {record : Record} (done : Record.read decodeAttribute pool version raw = .ok record rest) :
    record.rawLength = Record.headerLength +
        ((declaredLengths (bigEndian ((raw.drop 6).take 2)) (raw.drop 8)).map
          (attributeHeaderLength + ·)).sum ∧
      raw.length = record.rawLength + rest.length := by
  obtain ⟨flags, rest₁, read₁, done₁⟩ := bind_eq_ok.mp done
  obtain ⟨name, rest₂, read₂, done₂⟩ := bind_eq_ok.mp done₁
  obtain ⟨descriptor, rest₃, read₃, done₃⟩ := bind_eq_ok.mp done₂
  obtain ⟨count, table, read₄, done₄⟩ := bind_eq_ok.mp done₃
  obtain ⟨⟨attributes, length⟩, left, readTable, result⟩ := bind_eq_ok.mp done₄
  cases result
  obtain ⟨rows, left, read, result⟩ := bind_eq_ok.mp readTable
  cases result
  obtain ⟨lengths, total⟩ := times_decodeAttribute_lengths read
  have header : (u16Bytes flags ++ u16Bytes name ++ u16Bytes descriptor).length = 6 := by
    simp only [List.length_append, length_u16Bytes]
  have split : raw =
      (u16Bytes flags ++ u16Bytes name ++ u16Bytes descriptor) ++ (u16Bytes count ++ table) := by
    rw [u16_eq_ok read₁, u16_eq_ok read₂, u16_eq_ok read₃, u16_eq_ok read₄]
    simp only [List.append_assoc]
  have counted : bigEndian ((raw.drop 6).take 2) = count.toNat := by
    rw [split, List.drop_left' header, List.take_left' (length_u16Bytes count), bigEndian_u16Bytes]
  have behind : raw.drop 8 = table := by
    rw [split, ← List.append_assoc, List.drop_left' (by rw [List.length_append, header]; rfl)]
  rw [counted, behind, ← lengths, ← totalTaken_eq_sum, split]
  refine ⟨rfl, ?_⟩
  simp only [List.length_append, length_u16Bytes, Record.headerLength]
  omega

/-! ### The parts of a class file -/

theorem readMagic_selfDelimiting : SelfDelimiting readMagic := by
  refine u32_selfDelimiting.bind fun found => ?_
  split
  · exact pure_selfDelimiting ()
  · exact throw_selfDelimiting _

theorem versionRead_selfDelimiting : SelfDelimiting Version.read :=
  u16_selfDelimiting.bind fun _ => u16_selfDelimiting.bind_pure _

theorem readUtf8_selfDelimiting : SelfDelimiting readUtf8 :=
  u16_selfDelimiting.bind fun length => (bytes_selfDelimiting length.toNat).bind_pure _

theorem poolEntryRead_selfDelimiting : SelfDelimiting PoolEntry.read := by
  have pair : ∀ entry : UInt16 → UInt16 → PoolEntry,
      SelfDelimiting (do return entry (← u16) (← u16)) :=
    fun entry => u16_selfDelimiting.bind fun first => u16_selfDelimiting.bind_pure (entry first)
  refine u8_selfDelimiting.bind fun tag => ?_
  unfold PoolEntry.readBody
  split
  case h_1 => exact readUtf8_selfDelimiting.bind_pure _
  case h_2 => exact i32_selfDelimiting.bind_pure _
  case h_3 => exact u32_selfDelimiting.bind_pure _
  case h_4 => exact i64_selfDelimiting.bind_pure _
  case h_5 => exact u64_selfDelimiting.bind_pure _
  case h_12 => exact u8_selfDelimiting.bind fun _ => u16_selfDelimiting.bind_pure _
  case h_18 => exact throw_selfDelimiting _
  all_goals first | exact pair _ | exact u16_selfDelimiting.bind_pure _

theorem readPlaces_selfDelimiting (places : Nat) :
    SelfDelimiting (PoolEntry.readPlaces places) := by
  induction places using PoolEntry.readPlaces.induct with
  | case1 => exact pure_selfDelimiting []
  | case2 => exact poolEntryRead_selfDelimiting.bind_pure _
  | case3 places wide narrow =>
    refine poolEntryRead_selfDelimiting.bind fun entry => ?_
    split
    · exact wide.bind_pure _
    · exact narrow.bind_pure _

theorem poolRead_selfDelimiting : SelfDelimiting Pool.read :=
  u16_selfDelimiting.bind fun count => (readPlaces_selfDelimiting (count.toNat - 1)).bind_pure _

namespace ClassFile

/-- Reads what stands in front of the fields, and their number. -/
def readToFields : Reader UInt16 := do
  readMagic
  let _ ← Version.read
  let _ ← Pool.read
  let _ ← u16
  let _ ← u16
  let _ ← u16
  let interfaceCount ← u16
  let _ ← u16Block interfaceCount.toNat
  u16

theorem readToFields_selfDelimiting : SelfDelimiting readToFields := by
  refine readMagic_selfDelimiting.bind fun _ => ?_
  refine versionRead_selfDelimiting.bind fun version => ?_
  refine poolRead_selfDelimiting.bind fun pool => ?_
  refine u16_selfDelimiting.bind fun accessFlags => ?_
  refine u16_selfDelimiting.bind fun thisClass => ?_
  refine u16_selfDelimiting.bind fun superClass => ?_
  refine u16_selfDelimiting.bind fun interfaceCount => ?_
  exact (u16Block_selfDelimiting interfaceCount.toNat).bind fun _ => u16_selfDelimiting

theorem read_selfDelimiting : SelfDelimiting (read decodeAttribute) := by
  refine readMagic_selfDelimiting.bind fun _ => ?_
  refine versionRead_selfDelimiting.bind fun version => ?_
  refine poolRead_selfDelimiting.bind fun pool => ?_
  refine u16_selfDelimiting.bind fun accessFlags => ?_
  refine u16_selfDelimiting.bind fun thisClass => ?_
  refine u16_selfDelimiting.bind fun superClass => ?_
  refine u16_selfDelimiting.bind fun interfaceCount => ?_
  refine (u16Block_selfDelimiting interfaceCount.toNat).bind fun interfaces => ?_
  have records := table_selfDelimiting (record_selfDelimiting pool version)
  refine records.bind fun fields => records.bind fun methods => ?_
  refine u16_selfDelimiting.bind fun attributeCount => ?_
  exact (readTable_selfDelimiting pool version attributeCount.toNat).bind_pure _

end ClassFile

/-! ### Where records stand -/

/-- Records stand in the bytes at these offsets, one directly behind the other. -/
def Record.ListedAt (pool : Pool) (version : Version) (raw : List UInt8) (records : List Record)
    (offset : Nat → Nat) : Prop :=
  ∀ index, ∀ inside : index < records.length,
    Record.ofBytes decodeAttribute pool version (raw.drop (offset index)) = .ok records[index] ∧
      offset (index + 1) = offset index + records[index].rawLength

theorem ofBytes_eq_ok {pool : Pool} {version : Version} {raw : List UInt8} {record : Record} :
    Record.ofBytes decodeAttribute pool version raw = .ok record ↔
      ∃ rest, Record.read decodeAttribute pool version raw = .ok record rest := by
  unfold Record.ofBytes
  cases Record.read decodeAttribute pool version raw with
  | ok found rest => simp
  | error fault rest => simp

/-- The offsets of a record and of the records behind it. -/
def offsetsFrom (first : Nat) (behind : Nat → Nat) : Nat → Nat
  | 0 => first
  | index + 1 => behind index

/-- Records that are read one after the other stand one behind the other. -/
theorem times_record_listedAt {pool : Pool} {version : Version} {count : Nat}
    {front raw rest : List UInt8} {records : List Record}
    (done : times count (Record.read decodeAttribute pool version) raw = .ok records rest) :
    records.length = count ∧ ∃ taken offset, raw = taken ++ rest ∧ offset 0 = front.length ∧
      offset records.length = front.length + taken.length ∧
      Record.ListedAt pool version (front ++ raw) records offset := by
  -- What has been read moves to the front, so an offset is the length of a front.
  induction count generalizing front raw records with
  | zero =>
    cases done
    refine ⟨rfl, [], fun _ => front.length, rfl, rfl, rfl, ?_⟩
    intro index inside
    cases inside
  | succ count hypothesis =>
    obtain ⟨record, middle, first, second⟩ := bind_eq_ok.mp done
    obtain ⟨more, left, behind, result⟩ := bind_eq_ok.mp second
    cases result
    obtain ⟨taken, split, -⟩ := record_selfDelimiting pool version raw record middle first
    obtain ⟨-, length⟩ := record_rawLength first
    obtain ⟨counted, others, offset, splitMore, start, finish, listed⟩ :=
      @hypothesis (front ++ taken) middle more behind
    rw [split, List.length_append] at length
    rw [List.length_append] at start finish
    refine ⟨by rw [List.length_cons, counted], taken ++ others,
      offsetsFrom front.length offset, ?_, rfl, ?_, ?_⟩
    · rw [split, splitMore, List.append_assoc]
    · show offset more.length = _
      rw [finish, List.length_append, Nat.add_assoc]
    · intro index inside
      cases index with
      | zero =>
        refine ⟨?_, ?_⟩
        · show Record.ofBytes _ _ _ ((front ++ raw).drop front.length) = _
          rw [List.drop_left]
          exact ofBytes_eq_ok.mpr ⟨middle, first⟩
        · show offset 0 = front.length + record.rawLength
          omega
      | succ index =>
        have here := listed index (Nat.lt_of_succ_lt_succ inside)
        rw [List.append_assoc, ← split] at here
        exact here

namespace ClassFile

/-- Where the parts of a class file stand: the fields behind what is read first,
the methods behind the fields and their number, and the attributes of the class,
with the lengths that their headers declare, behind the methods and their number. -/
structure Layout (raw : List UInt8) (file : ClassFile) (position : Nat)
    (fieldAt methodAt : Nat → Nat) : Prop where
  front : ∃ count, withPosition readToFields raw = .ok (count, fieldAt 0) ∧
    count.toNat = file.fields.length
  fields : Record.ListedAt file.pool file.version raw file.fields fieldAt
  between : methodAt 0 = fieldAt file.fields.length + 2
  methods : Record.ListedAt file.pool file.version raw file.methods methodAt
  behind : ∃ count table, raw.drop (methodAt file.methods.length) = u16Bytes count ++ table ∧
    position = methodAt file.methods.length + 2 +
      ((declaredLengths count.toNat table).map (attributeHeaderLength + ·)).sum

/-- What is read as a class file has the layout of one. -/
theorem exists_layout {raw rest : List UInt8} {file : ClassFile}
    (done : read decodeAttribute raw = .ok file rest) :
    ∃ fieldAt methodAt, Layout raw file (raw.length - rest.length) fieldAt methodAt := by
  obtain ⟨_, rest₁, read₁, done₁⟩ := bind_eq_ok.mp done
  obtain ⟨version, rest₂, read₂, done₂⟩ := bind_eq_ok.mp done₁
  obtain ⟨pool, rest₃, read₃, done₃⟩ := bind_eq_ok.mp done₂
  obtain ⟨accessFlags, rest₄, read₄, done₄⟩ := bind_eq_ok.mp done₃
  obtain ⟨thisClass, rest₅, read₅, done₅⟩ := bind_eq_ok.mp done₄
  obtain ⟨superClass, rest₆, read₆, done₆⟩ := bind_eq_ok.mp done₅
  obtain ⟨interfaceCount, rest₇, read₇, done₇⟩ := bind_eq_ok.mp done₆
  obtain ⟨interfaces, rest₈, read₈, done₈⟩ := bind_eq_ok.mp done₇
  obtain ⟨fields, fieldsLeft, readFields, done₉⟩ := bind_eq_ok.mp done₈
  obtain ⟨methods, methodsLeft, readMethods, done₁₀⟩ := bind_eq_ok.mp done₉
  obtain ⟨attributeCount, table, readCount, done₁₁⟩ := bind_eq_ok.mp done₁₀
  obtain ⟨⟨attributes, length⟩, left, readTable, result⟩ := bind_eq_ok.mp done₁₁
  cases result
  obtain ⟨fieldCount, fieldTable, readFieldCount, timesFields⟩ := bind_eq_ok.mp readFields
  obtain ⟨methodCount, methodTable, readMethodCount, timesMethods⟩ := bind_eq_ok.mp readMethods
  obtain ⟨rows, left, timesRows, result⟩ := bind_eq_ok.mp readTable
  cases result
  have readFront : readToFields raw = .ok fieldCount fieldTable :=
    (bind_of_ok read₁).trans <| (bind_of_ok read₂).trans <| (bind_of_ok read₃).trans <|
      (bind_of_ok read₄).trans <| (bind_of_ok read₅).trans <| (bind_of_ok read₆).trans <|
        (bind_of_ok read₇).trans <| (bind_of_ok read₈).trans readFieldCount
  obtain ⟨front, split, -⟩ := readToFields_selfDelimiting raw _ _ readFront
  obtain ⟨counted, fieldBytes, fieldAt, splitFields, fieldStart, fieldEnd, fieldsListed⟩ :=
    @times_record_listedAt pool version _ front _ _ _ timesFields
  obtain ⟨-, methodBytes, methodAt, splitMethods, methodStart, methodEnd, methodsListed⟩ :=
    @times_record_listedAt pool version _ (front ++ fieldBytes ++ u16Bytes methodCount) _ _ _
      timesMethods
  obtain ⟨lengths, total⟩ := times_decodeAttribute_lengths timesRows
  have whole : raw = front ++ fieldBytes ++ u16Bytes methodCount ++ methodTable := by
    rw [split, splitFields, u16_eq_ok readMethodCount]
    simp only [List.append_assoc]
  rw [← split] at fieldsListed
  rw [← whole] at methodsListed
  simp only [List.length_append, length_u16Bytes] at methodStart methodEnd
  refine ⟨fieldAt, methodAt, ⟨fieldCount, ?_, counted.symm⟩, fieldsListed, ?_, methodsListed,
    attributeCount, table, ?_, ?_⟩
  · rw [withPosition_of_ok readFront, fieldStart, split, List.length_append, Nat.add_sub_cancel]
  · rw [methodStart, fieldEnd]
  · rw [whole, splitMethods, ← List.append_assoc, ← u16_eq_ok readCount]
    refine List.drop_left' ?_
    simp only [List.length_append, length_u16Bytes, methodEnd]
  · rw [← lengths, ← totalTaken_eq_sum, whole, splitMethods, u16_eq_ok readCount, methodEnd]
    simp only [List.length_append, length_u16Bytes, total]
    omega

end ClassFile

/-! ### Self-delimitation -/

theorem record_ofBytes_delimits {pool : Pool} {version : Version} {raw : List UInt8}
    {record : Record} (done : Record.ofBytes decodeAttribute pool version raw = .ok record) :
    Delimits (Record.ofBytes decodeAttribute pool version) raw record record.rawLength := by
  obtain ⟨rest, read⟩ := ofBytes_eq_ok.mp done
  obtain ⟨-, length⟩ := record_rawLength read
  have delimits := (record_selfDelimiting pool version).delimits (withPosition_of_ok read)
  have view : Record.ofBytes decodeAttribute pool version = fun bytes =>
      (withPosition (Record.read decodeAttribute pool version) bytes).map Prod.fst := by
    funext bytes
    unfold Record.ofBytes
    cases result : Record.read decodeAttribute pool version bytes with
    | ok found left => rw [withPosition_of_ok result]; rfl
    | error fault left => rw [withPosition_of_error result]; rfl
  rw [length, Nat.add_sub_cancel] at delimits
  rw [view]
  exact delimits.map Prod.fst

/-- Records and class files are self-delimiting. A record that is accepted has the
length of its header and of the attributes as their headers declare them; it is
the record of all bytes that begin with so many of these, and any fewer of them
are refused because bytes are missing. The same holds of a class file and the
position behind it, and its fields and its methods are the records that are read
at their own offsets, each of which is the one before and the length of the
record there. -/
theorem record_and_classFile_delimits :
    (∀ (pool : Pool) (version : Version) (raw : List UInt8) (record : Record),
      Record.ofBytes decodeAttribute pool version raw = .ok record →
        8 ≤ record.rawLength ∧
        record.rawLength = 8 +
          ((declaredLengths (bigEndian ((raw.drop 6).take 2)) (raw.drop 8)).map (6 + ·)).sum ∧
        Delimits (Record.ofBytes decodeAttribute pool version) raw record record.rawLength) ∧
    (∀ (raw : List UInt8) (file : ClassFile) (position : Nat),
      withPosition (ClassFile.read decodeAttribute) raw = .ok (file, position) →
        Delimits (withPosition (ClassFile.read decodeAttribute)) raw (file, position) position ∧
        ∃ fieldAt methodAt, ClassFile.Layout raw file position fieldAt methodAt) := by
  refine ⟨?_, ?_⟩
  · intro pool version raw record done
    obtain ⟨rest, read⟩ := ofBytes_eq_ok.mp done
    obtain ⟨length, -⟩ := record_rawLength read
    refine ⟨?_, length, record_ofBytes_delimits done⟩
    rw [length]
    exact Nat.le_add_right _ _
  · intro raw file position done
    obtain ⟨rest, read, consumed⟩ := withPosition_eq_ok done
    refine ⟨ClassFile.read_selfDelimiting.delimits done, ?_⟩
    rw [consumed]
    exact ClassFile.exists_layout read

/-- A deprecated member, and a class file with a field like it, each with a byte
behind it. -/
theorem record_and_classFile_delimits_deprecated :
    Delimits (Record.ofBytes decodeAttribute ⟨[.utf8 "Deprecated"]⟩ ⟨52, 0⟩)
      [0, 1, 0, 1, 0, 1, 0, 1, 0, 1, 0, 0, 0, 0, 255] ⟨1, 1, 1, .ofList [.deprecated], 14⟩ 14 ∧
    ∃ fieldAt methodAt, ClassFile.Layout
      [202, 254, 186, 190, 0, 0, 0, 52, 0, 2, 1, 0, 10, 68, 101, 112, 114, 101, 99, 97, 116, 101,
        100, 0, 1, 0, 1, 0, 0, 0, 0, 0, 1, 0, 1, 0, 1, 0, 1, 0, 1, 0, 1, 0, 0, 0, 0,
        0, 0, 0, 0, 255]
      ⟨⟨52, 0⟩, ⟨[.utf8 "Deprecated"]⟩, .ofBits 1, 1, 0, [], [⟨1, 1, 1, .ofList [.deprecated], 14⟩],
        [], .ofList []⟩ 51 fieldAt methodAt :=
  ⟨(record_and_classFile_delimits.1 _ _ _ ⟨1, 1, 1, .ofList [.deprecated], 14⟩ rfl).2.2,
    (record_and_classFile_delimits.2 _ ⟨⟨52, 0⟩, ⟨[.utf8 "Deprecated"]⟩, .ofBits 1, 1, 0, [],
      [⟨1, 1, 1, .ofList [.deprecated], 14⟩], [], .ofList []⟩ 51 rfl).2⟩

end ClassMembers
