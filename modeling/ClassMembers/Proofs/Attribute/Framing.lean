/-
This file frees the standard decoder from its bound and from the bytes behind an
attribute. The decoder is handed all bytes that remain and calls itself with one
level less for the attributes of code; but code is read from the body of its
attribute alone, which is shorter than what the decoder was handed, so a bound
that suffices gives the same answer as any greater one. What is left is one
equation: an attribute that is framed by its name and its length decodes as its
body does, with the decoder itself for the attributes inside, and nothing else
decodes. From it follows that the reader of an attribute delimits it, although
it looks at everything that remains.
-/

import ClassMembers.Attribute.Decoding
import ClassMembers.Proofs.Reader.Framing

namespace ClassMembers

open Reader Sequencing

variable {pool : Pool} {version : Version}

/-! ### The header -/

/-- The bytes of an attribute: the index of its name, the length of its body and
the body. -/
def attributeBytes (nameIndex : UInt16) (body : List UInt8) : List UInt8 :=
  u16Bytes nameIndex ++ (digits 4 body.length ++ body)

@[simp] theorem length_attributeBytes (nameIndex : UInt16) (body : List UInt8) :
    (attributeBytes nameIndex body).length = attributeHeaderLength + body.length := by
  simp only [attributeBytes, attributeHeaderLength, List.length_append, length_u16Bytes,
    length_digits]
  omega

/-- An index is read and looked up. -/
theorem lookUp_reads {α : Type} {ask : UInt16 → Except ClassError α} {index : UInt16} {value : α}
    (found : ask index = .ok value) :
    Reads (u16 >>= fun index => ofExcept (ask index)) (u16Bytes index) value := by
  rw [← List.append_nil (u16Bytes index)]
  exact (u16_reads index).bind (ofExcept_reads found)

theorem readUtf8Of_selfDelimiting (pool : Pool) : SelfDelimiting (readUtf8Of pool) :=
  u16_selfDelimiting.bind fun _ => ofExcept_selfDelimiting _

theorem readAttributeHeader_selfDelimiting (pool : Pool) :
    SelfDelimiting (readAttributeHeader pool) :=
  (readUtf8Of_selfDelimiting pool).bind fun _ => u32_selfDelimiting.bind_pure _

theorem readAttributeHeader_reads {nameIndex : UInt16} {name : String} {length : Nat}
    (named : pool.utf8 nameIndex = .ok name) (short : length < 2 ^ 32) :
    Reads (readAttributeHeader pool) (u16Bytes nameIndex ++ digits 4 length)
      (name, UInt32.ofNat length) := by
  have declared := (natural_reads (show _ < 256 ^ 4 from short)).bind_pure UInt32.ofNat
  exact (lookUp_reads named).bind (declared.bind_pure _)

/-- An attribute whose name the pool refuses has no header. -/
theorem readAttributeHeader_of_unnamed {nameIndex : UInt16} {fault : ClassError}
    (unnamed : pool.utf8 nameIndex = .error fault) (body rest : List UInt8) :
    readAttributeHeader pool (attributeBytes nameIndex body ++ rest) =
      .error fault ((digits 4 body.length ++ body) ++ rest) := by
  rw [attributeBytes, List.append_assoc]
  refine bind_of_error ((bind_of_ok (u16_reads nameIndex _)).trans ?_)
  rw [unnamed]
  rfl

theorem readAttributeHeader_eq_ok {raw rest : List UInt8} {name : String} {declared : UInt32}
    (done : readAttributeHeader pool raw = .ok (name, declared) rest) :
    ∃ nameIndex, pool.utf8 nameIndex = .ok name ∧
      raw = u16Bytes nameIndex ++ (u32Bytes declared ++ rest) := by
  obtain ⟨text, middle, first, second⟩ := bind_eq_ok.mp done
  obtain ⟨length, left, read, result⟩ := bind_eq_ok.mp second
  cases result
  obtain ⟨index, behind, indexed, lookedUp⟩ := bind_eq_ok.mp first
  obtain ⟨found, same⟩ := ofExcept_eq_ok lookedUp
  refine ⟨index, found, ?_⟩
  rw [u16_eq_ok indexed, ← same, u32_eq_ok read]

/-! ### What a decoder is asked about -/

/-- An attribute is decoded, and as many bytes as the decoder says are passed over. -/
theorem decoder_read_eq (decoder : AttributeDecoder) (raw : List UInt8) :
    decoder.read pool version raw =
      match decoder raw pool version with
      | .ok row => (skip row.2 >>= fun _ => pure row) raw
      | .error fault => .error fault raw := by
  have asked : decoder.read pool version raw =
      ((ofExcept (decoder raw pool version) : Reader _) >>= fun row =>
        skip row.2 >>= fun _ => pure row) raw := rfl
  rw [asked]
  cases decoder raw pool version <;> rfl

theorem decoder_read_length_le {decoder : AttributeDecoder} {raw rest : List UInt8}
    {row : Attribute × Nat} (done : decoder.read pool version raw = .ok row rest) :
    rest.length ≤ raw.length := by
  rw [decoder_read_eq] at done
  cases answer : decoder raw pool version with
  | ok row =>
    rw [answer] at done
    exact (((bytes_selfDelimiting row.2).bind_pure _).bind_pure _).length_le done
  | error fault =>
    rw [answer] at done
    cases done

section Congruence

variable {first second : AttributeDecoder} {bound : Nat}

theorem times_decoder_congr
    (agree : ∀ bytes : List UInt8, bytes.length ≤ bound →
      first bytes pool version = second bytes pool version)
    (count : Nat) {raw : List UInt8} (small : raw.length ≤ bound) :
    times count (first.read pool version) raw = times count (second.read pool version) raw := by
  induction count generalizing raw with
  | zero => rfl
  | succ count hypothesis =>
    refine bind_congr ?_ fun row rest done => bind_congr ?_ fun _ _ _ => rfl
    · rw [decoder_read_eq, decoder_read_eq, agree raw small]
    · exact hypothesis (Nat.le_trans (decoder_read_length_le done) small)

/-- Code is read alike by decoders that agree on what is not longer than it. -/
theorem codeRead_congr
    (agree : ∀ bytes : List UInt8, bytes.length ≤ bound →
      first bytes pool version = second bytes pool version)
    {raw : List UInt8} (small : raw.length ≤ bound) :
    Code.read first pool version raw = Code.read second pool version raw := by
  have handler : SelfDelimiting ExceptionHandler.read :=
    u16_selfDelimiting.bind fun _ => u16_selfDelimiting.bind fun _ =>
      u16_selfDelimiting.bind fun _ => u16_selfDelimiting.bind_pure _
  refine bind_congr rfl fun maxStack rest₁ read₁ => ?_
  refine bind_congr rfl fun maxLocals rest₂ read₂ => ?_
  refine bind_congr rfl fun length rest₃ read₃ => ?_
  refine bind_congr rfl fun code rest₄ read₄ => ?_
  refine bind_congr rfl fun handlers rest₅ read₅ => ?_
  refine bind_congr rfl fun count rest₆ read₆ => ?_
  refine bind_congr (bind_congr (times_decoder_congr agree _ ?_) fun _ _ _ => rfl) fun _ _ _ => rfl
  have shorter₁ := u16_selfDelimiting.length_le read₁
  have shorter₂ := u16_selfDelimiting.length_le read₂
  have shorter₃ := u32_selfDelimiting.length_le read₃
  have shorter₄ := (bytes_selfDelimiting _).length_le read₄
  have shorter₅ := (table_selfDelimiting handler).length_le read₅
  have shorter₆ := u16_selfDelimiting.length_le read₆
  omega

theorem ofBody_congr
    (agree : ∀ bytes : List UInt8, bytes.length ≤ bound →
      first bytes pool version = second bytes pool version)
    (name : String) {body : List UInt8} (small : body.length ≤ bound) :
    Attribute.ofBody first pool version name body =
      Attribute.ofBody second pool version name body := by
  unfold Attribute.ofBody
  cases AttributeKind.ofNameIn? version name with
  | none => rfl
  | some kind =>
    have same : kind.readBody first pool version body = kind.readBody second pool version body := by
      cases kind with
      | code => exact bind_congr (codeRead_congr agree small) fun _ _ _ => rfl
      | _ => rfl
    simp only [same]

end Congruence

/-! ### The decoder without its bound -/

/-- Any two bounds that suffice give the same answer. -/
theorem decodeAttributeWithin_congr {depth other : Nat} {raw : List UInt8}
    (small : raw.length ≤ depth) (smaller : raw.length ≤ other) :
    decodeAttributeWithin depth raw pool version =
      decodeAttributeWithin other raw pool version := by
  induction depth generalizing other raw with
  | zero =>
    cases List.length_eq_zero_iff.mp (Nat.le_zero.mp small)
    cases other <;> rfl
  | succ depth hypothesis =>
    cases other with
    | zero =>
      cases List.length_eq_zero_iff.mp (Nat.le_zero.mp smaller)
      rfl
    | succ other =>
      unfold decodeAttributeWithin
      cases header : readAttributeHeader pool raw with
      | error fault rest => rfl
      | ok pair rest =>
        obtain ⟨name, declared⟩ := pair
        obtain ⟨nameIndex, -, split⟩ := readAttributeHeader_eq_ok header
        have length := congrArg List.length split
        simp only [List.length_append, length_u16Bytes, length_u32Bytes] at length
        have agree : ∀ bytes : List UInt8, bytes.length ≤ rest.length →
            decodeAttributeWithin depth bytes pool version =
              decodeAttributeWithin other bytes pool version :=
          fun bytes less => hypothesis (by omega) (by omega)
        have inside : (rest.take declared.toNat).length ≤ rest.length := by
          rw [List.length_take]
          omega
        simp only [ofBody_congr agree name inside]

/-- A framed attribute decodes as its body does, whatever follows it. -/
theorem decodeAttribute_framed {nameIndex : UInt16} {name : String} {body : List UInt8}
    (named : pool.utf8 nameIndex = .ok name) (short : body.length < 2 ^ 32) (rest : List UInt8) :
    decodeAttribute (attributeBytes nameIndex body ++ rest) pool version =
      (Attribute.ofBody decodeAttribute pool version name body).map
        fun entry => (entry, attributeHeaderLength + body.length) := by
  obtain ⟨depth, enough⟩ : ∃ depth,
      (attributeBytes nameIndex body ++ rest).length = depth + 1 + body.length := by
    refine ⟨5 + rest.length, ?_⟩
    rw [List.length_append, length_attributeBytes, attributeHeaderLength]
    omega
  have header := readAttributeHeader_reads named short (body ++ rest)
  have split : attributeBytes nameIndex body ++ rest =
      (u16Bytes nameIndex ++ digits 4 body.length) ++ (body ++ rest) := by
    simp only [attributeBytes, List.append_assoc]
  have agree : ∀ bytes : List UInt8, bytes.length ≤ body.length →
      decodeAttributeWithin (depth + body.length) bytes pool version =
        decodeAttribute bytes pool version :=
    fun bytes less => decodeAttributeWithin_congr (by omega) (Nat.le_refl _)
  rw [decodeAttribute, enough, Nat.add_right_comm, decodeAttributeWithin, split, header]
  simp only [UInt32.toNat_ofNat_of_lt' short, List.length_append, List.take_left,
    ofBody_congr agree name (Nat.le_refl _)]
  rw [if_neg (by omega)]
  cases Attribute.ofBody decodeAttribute pool version name body <;> rfl

/-- Nothing but a framed attribute decodes. -/
theorem decodeAttribute_eq_ok {raw : List UInt8} {entry : Attribute} {taken : Nat}
    (done : decodeAttribute raw pool version = .ok (entry, taken)) :
    ∃ nameIndex name body rest, raw = attributeBytes nameIndex body ++ rest ∧
      pool.utf8 nameIndex = .ok name ∧ body.length < 2 ^ 32 ∧
      Attribute.ofBody decodeAttribute pool version name body = .ok entry ∧
      taken = attributeHeaderLength + body.length := by
  have opened := done
  rw [decodeAttribute] at opened
  cases length : raw.length with
  | zero =>
    rw [length] at opened
    cases opened
  | succ depth =>
    rw [length, decodeAttributeWithin] at opened
    cases header : readAttributeHeader pool raw with
    | error fault rest =>
      rw [header] at opened
      cases opened
    | ok pair rest =>
      obtain ⟨name, declared⟩ := pair
      obtain ⟨nameIndex, named, split⟩ := readAttributeHeader_eq_ok header
      rw [header] at opened
      simp only at opened
      split at opened
      · cases opened
      · rename_i fits
        have size : (rest.take declared.toNat).length = declared.toNat :=
          List.length_take_of_le (Nat.not_lt.mp fits)
        have short : (rest.take declared.toNat).length < 2 ^ 32 := by
          rw [size]
          exact declared.toNat_lt
        have whole : raw = attributeBytes nameIndex (rest.take declared.toNat) ++
            rest.drop declared.toNat := by
          rw [attributeBytes, size, List.append_assoc, List.append_assoc, List.take_append_drop]
          exact split
        rw [whole, decodeAttribute_framed named short] at done
        refine ⟨nameIndex, name, _, _, whole, named, short, ?_⟩
        cases answer : Attribute.ofBody decodeAttribute pool version name
            (rest.take declared.toNat) with
        | error fault =>
          rw [answer] at done
          cases done
        | ok result =>
          rw [answer] at done
          cases done
          exact ⟨rfl, rfl⟩

/-! ### Beginnings of an attribute -/

/-- What is wrong with the header is wrong with the attribute. -/
theorem decodeAttribute_of_header_error {raw rest : List UInt8} {fault : ClassError}
    (failed : readAttributeHeader pool raw = .error fault rest) :
    decodeAttribute raw pool version = .error fault := by
  rw [decodeAttribute]
  cases raw with
  | nil =>
    cases failed
    rfl
  | cons byte more =>
    rw [List.length_cons, decodeAttributeWithin]
    simp only [failed]

theorem decodeAttribute_overrun {nameIndex : UInt16} {name : String} {length : Nat}
    {rest : List UInt8} (named : pool.utf8 nameIndex = .ok name) (short : length < 2 ^ 32)
    (less : rest.length < length) :
    decodeAttribute (u16Bytes nameIndex ++ digits 4 length ++ rest) pool version =
      .error (.attributeOverrun name (UInt32.ofNat length) rest.length) := by
  have header := readAttributeHeader_reads named short rest
  obtain ⟨depth, enough⟩ : ∃ depth,
      (u16Bytes nameIndex ++ digits 4 length ++ rest).length = depth + 1 := by
    refine ⟨5 + rest.length, ?_⟩
    simp only [List.length_append, length_u16Bytes, length_digits]
    omega
  rw [decodeAttribute, enough, decodeAttributeWithin, header]
  simp only [UInt32.toNat_ofNat_of_lt' short]
  rw [if_pos less]

/-- A shorter beginning of a framed attribute lacks bytes. -/
theorem decodeAttribute_of_part {nameIndex : UInt16} {name : String}
    {body part missing : List UInt8} (named : pool.utf8 nameIndex = .ok name)
    (short : body.length < 2 ^ 32) (split : attributeBytes nameIndex body = part ++ missing)
    (nonempty : missing ≠ []) :
    ∃ fault, decodeAttribute part pool version = .error fault ∧ fault.isShortage = true := by
  rw [attributeBytes, ← List.append_assoc] at split
  have overrun : ∀ inside, body = inside ++ missing →
      ∃ fault, decodeAttribute (u16Bytes nameIndex ++ digits 4 body.length ++ inside) pool version =
        .error fault ∧ fault.isShortage = true := by
    intro inside whole
    refine ⟨_, decodeAttribute_overrun named short ?_, rfl⟩
    have positive := List.length_pos_iff.mpr nonempty
    rw [whole, List.length_append]
    omega
  rcases List.append_eq_append_iff.mp split with ⟨inside, front, whole⟩ | ⟨inside, front, behind⟩
  · rw [front]
    exact overrun inside whole
  · cases inside with
    | nil =>
      rw [List.append_nil] at front
      rw [← front, ← List.append_nil (u16Bytes nameIndex ++ digits 4 body.length)]
      exact overrun [] behind.symm
    | cons byte more =>
      obtain ⟨taken, whole, -, needs⟩ := readAttributeHeader_selfDelimiting pool _ _ []
        (by simpa using readAttributeHeader_reads named short [])
      rw [List.append_nil] at whole
      obtain ⟨fault, rest, failed, shortage⟩ := needs part (byte :: more) (whole ▸ front) (by simp)
      exact ⟨fault, decodeAttribute_of_header_error failed, shortage⟩

/-! ### Tables of attributes -/

/-- A decoder takes these bytes off the front of whatever follows them. -/
def AttributeDecoder.Decodes (decoder : AttributeDecoder) (pool : Pool) (version : Version)
    (taken : List UInt8) (entry : Attribute) : Prop :=
  ∀ rest, decoder (taken ++ rest) pool version = .ok (entry, taken.length)

theorem decoder_reads {decoder : AttributeDecoder} {taken : List UInt8} {entry : Attribute}
    (decodes : decoder.Decodes pool version taken entry) :
    Reads (decoder.read pool version) taken (entry, taken.length) := by
  intro rest
  rw [decoder_read_eq, decodes rest]
  exact (skip_reads taken).bind_pure (fun _ => (entry, taken.length)) rest

/-- The reader of an attribute takes a framed attribute and nothing else. -/
theorem decodeAttribute_read_eq_ok {raw rest : List UInt8} {row : Attribute × Nat}
    (done : AttributeDecoder.read decodeAttribute pool version raw = .ok row rest) :
    ∃ nameIndex name body, raw = attributeBytes nameIndex body ++ rest ∧
      pool.utf8 nameIndex = .ok name ∧ body.length < 2 ^ 32 ∧
      row.2 = attributeHeaderLength + body.length ∧
      AttributeDecoder.Decodes decodeAttribute pool version (attributeBytes nameIndex body)
        row.1 := by
  have opened := done
  rw [decoder_read_eq] at opened
  cases answer : decodeAttribute raw pool version with
  | error fault =>
    rw [answer] at opened
    cases opened
  | ok pair =>
    obtain ⟨entry, taken⟩ := pair
    obtain ⟨nameIndex, name, body, behind, whole, named, short, inside, length⟩ :=
      decodeAttribute_eq_ok answer
    have decodes : AttributeDecoder.Decodes decodeAttribute pool version
        (attributeBytes nameIndex body) entry := by
      intro rest
      rw [decodeAttribute_framed named short, inside, length_attributeBytes]
      rfl
    have same := (decoder_reads decodes behind).symm.trans (whole ▸ done)
    cases same
    exact ⟨nameIndex, name, body, whole, named, short, length_attributeBytes nameIndex body,
      decodes⟩

/-- The reader of an attribute delimits it. -/
theorem decodeAttribute_read_selfDelimiting (pool : Pool) (version : Version) :
    SelfDelimiting (AttributeDecoder.read decodeAttribute pool version) := by
  intro raw row rest done
  obtain ⟨nameIndex, name, body, whole, named, short, length, decodes⟩ :=
    decodeAttribute_read_eq_ok done
  have reads := decoder_reads decodes
  rw [length_attributeBytes, ← length] at reads
  refine ⟨attributeBytes nameIndex body, whole, reads, ?_⟩
  intro part missing split nonempty
  obtain ⟨fault, failed, shortage⟩ := decodeAttribute_of_part named short split nonempty
  exact ⟨fault, part, by rw [decoder_read_eq, failed], shortage⟩

theorem readTable_selfDelimiting (pool : Pool) (version : Version) (count : Nat) :
    SelfDelimiting (AttributeDecoder.readTable decodeAttribute pool version count) :=
  (times_selfDelimiting (decodeAttribute_read_selfDelimiting pool version) count).bind_pure _

theorem totalTaken_eq_sum (rows : List (Attribute × Nat)) :
    totalTaken rows = (rows.map Prod.snd).sum := by
  induction rows with
  | nil => rfl
  | cons row rest hypothesis => rw [totalTaken, List.map_cons, List.sum_cons, hypothesis]

/-- The rows that are read from a table of attributes: the attributes that were
written, and numbers of bytes that add up to the whole. -/
theorem times_decoder_reads {decoder : AttributeDecoder} {taken : List UInt8}
    {entries : List Attribute} (listed : Sequence (decoder.Decodes pool version) taken entries) :
    ∃ rows : List (Attribute × Nat), rows.map Prod.fst = entries ∧
      totalTaken rows = taken.length ∧
      Reads (times entries.length (decoder.read pool version)) taken rows := by
  induction listed with
  | nil => exact ⟨[], rfl, rfl, pure_reads []⟩
  | @cons entry _ first _ here _ hypothesis =>
    obtain ⟨rows, entries, lengths, read⟩ := hypothesis
    refine ⟨(entry, first.length) :: rows, by rw [List.map_cons, entries], ?_,
      (decoder_reads here).bind (read.bind_pure _)⟩
    rw [totalTaken, lengths, List.length_append]

theorem readTable_reads {decoder : AttributeDecoder} {taken : List UInt8}
    {entries : List Attribute} (listed : Sequence (decoder.Decodes pool version) taken entries) :
    Reads (decoder.readTable pool version entries.length) taken
      (.ofList entries, taken.length) := by
  obtain ⟨rows, names, lengths, read⟩ := times_decoder_reads listed
  have result := read.bind_pure fun rows =>
    (Attributes.ofList (rows.map Prod.fst), totalTaken rows)
  rwa [names, lengths] at result

end ClassMembers
