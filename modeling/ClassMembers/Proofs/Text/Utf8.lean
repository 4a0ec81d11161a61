/-
This file proves that decoding reads back every text from its bytes. A character
of more than one byte begins with a byte that holds its highest bits and goes on
with bytes of six bits each. The machine has collected all bits when it owes no
more bytes, and the range it asks of the second byte is met because a character
is encoded in as few bytes as possible and is never a surrogate. The byte that a
character begins with tells it if it is one of ASCII; all bytes of other
characters lie above those of ASCII.
-/

import ClassMembers.Text.Utf8

namespace ClassMembers.Text

/-! ### Bytes inside a character -/

/-- The byte of six bits inside a character. -/
theorem toNat_continuation (bits : Nat) :
    (UInt8.ofNat (bits % 64 + 128)).toNat = bits % 64 + 128 :=
  UInt8.toNat_ofNat_of_lt' (show bits % 64 + 128 < 2 ^ 8 by omega)

theorem nextByte_inside {pending : Pending} {bits : Nat}
    (above : pending.low.toNat ≤ bits % 64 + 128) (below : bits % 64 + 128 ≤ pending.high.toNat) :
    nextByte pending (UInt8.ofNat (bits % 64 + 128)) =
      if pending.owed ≤ 1 then ([Char.ofNat (pending.bits * 64 + bits % 64)], none)
      else ([], some ⟨pending.bits * 64 + bits % 64, pending.owed - 1, 0x80, 0xBF⟩) := by
  have byte := toNat_continuation bits
  have within : pending.low ≤ UInt8.ofNat (bits % 64 + 128) ∧
      UInt8.ofNat (bits % 64 + 128) ≤ pending.high := by
    rw [UInt8.le_iff_toNat_le, UInt8.le_iff_toNat_le, byte]
    exact ⟨above, below⟩
  have six : bits % 64 + 128 - 0x80 = bits % 64 := Nat.add_sub_cancel _ _
  rw [nextByte, if_pos within, byte, six]

/-- A byte inside a character adds six bits to it. -/
theorem decodeFrom_inside {value owed bits : Nat} {low high : UInt8}
    (above : low.toNat ≤ bits % 64 + 128) (below : bits % 64 + 128 ≤ high.toNat)
    (rest : List UInt8) :
    decodeFrom (some ⟨value, owed + 2, low, high⟩) (UInt8.ofNat (bits % 64 + 128) :: rest) =
      decodeFrom (some ⟨value * 64 + bits % 64, owed + 1, 0x80, 0xBF⟩) rest := by
  rw [decodeFrom, nextByte_inside above below, if_neg (by simp)]
  rfl

/-- The last byte of a character completes it. -/
theorem decodeFrom_last {value bits : Nat} {low high : UInt8}
    (above : low.toNat ≤ bits % 64 + 128) (below : bits % 64 + 128 ≤ high.toNat)
    (rest : List UInt8) :
    decodeFrom (some ⟨value, 1, low, high⟩) (UInt8.ofNat (bits % 64 + 128) :: rest) =
      Char.ofNat (value * 64 + bits % 64) :: decodeFrom none rest := by
  rw [decodeFrom, nextByte_inside above below, if_pos (Nat.le_refl 1)]
  rfl

/-! ### Leading bytes -/

theorem decodeFrom_lead {byte : UInt8} {pending : Pending}
    (lead : firstByte byte = ([], some pending)) (rest : List UInt8) :
    decodeFrom none (byte :: rest) = decodeFrom (some pending) rest := by
  rw [decodeFrom, lead]
  rfl

theorem firstByte_two : ∀ bits < 32, 2 ≤ bits →
    firstByte (UInt8.ofNat (bits + 192)) = ([], some ⟨bits, 1, 0x80, 0xBF⟩) := by
  decide

theorem firstByte_three : ∀ bits < 16, firstByte (UInt8.ofNat (bits + 224)) =
    ([], some ⟨bits, 2, if bits = 0 then 0xA0 else 0x80, if bits = 13 then 0x9F else 0xBF⟩) := by
  decide

theorem firstByte_four : ∀ bits < 5, firstByte (UInt8.ofNat (bits + 240)) =
    ([], some ⟨bits, 3, if bits = 0 then 0x90 else 0x80, if bits = 4 then 0x8F else 0xBF⟩) := by
  decide

/-! ### Characters -/

theorem decodeFrom_two {value : Nat} (above : 0x80 ≤ value) (below : value < 0x800)
    (rest : List UInt8) :
    decodeFrom none (UInt8.ofNat (value / 64 % 32 + 192) ::
      UInt8.ofNat (value % 64 + 128) :: rest) = Char.ofNat value :: decodeFrom none rest := by
  have lead := firstByte_two (value / 64 % 32) (by omega) (by omega)
  have whole : value / 64 % 32 * 64 + value % 64 = value := by omega
  rw [decodeFrom_lead lead, decodeFrom_last (by simp) (by simp; omega), whole]

theorem decodeFrom_three {value : Nat} (above : 0x800 ≤ value) (below : value < 0x10000)
    (scalar : value < 0xD800 ∨ 0xDFFF < value) (rest : List UInt8) :
    decodeFrom none (UInt8.ofNat (value / 4096 % 16 + 224) ::
      UInt8.ofNat (value / 64 % 64 + 128) :: UInt8.ofNat (value % 64 + 128) :: rest) =
        Char.ofNat value :: decodeFrom none rest := by
  have lead := firstByte_three (value / 4096 % 16) (by omega)
  have whole : (value / 4096 % 16 * 64 + value / 64 % 64) * 64 + value % 64 = value := by omega
  rw [decodeFrom_lead lead, decodeFrom_inside ?_ ?_, decodeFrom_last (by simp) (by simp; omega),
    whole]
  -- The second byte is not too low, or two bytes would do, and not too high, or the
  -- character would be a surrogate.
  · split
    · simp; omega
    · simp
  · split
    · simp; omega
    · simp; omega

theorem decodeFrom_four {value : Nat} (above : 0x10000 ≤ value) (below : value < 0x110000)
    (rest : List UInt8) :
    decodeFrom none (UInt8.ofNat (value / 262144 % 8 + 240) ::
      UInt8.ofNat (value / 4096 % 64 + 128) :: UInt8.ofNat (value / 64 % 64 + 128) ::
        UInt8.ofNat (value % 64 + 128) :: rest) = Char.ofNat value :: decodeFrom none rest := by
  have lead := firstByte_four (value / 262144 % 8) (by omega)
  have whole : ((value / 262144 % 8 * 64 + value / 4096 % 64) * 64 + value / 64 % 64) * 64 +
      value % 64 = value := by omega
  rw [decodeFrom_lead lead, decodeFrom_inside ?_ ?_, decodeFrom_inside (by simp) (by simp; omega),
    decodeFrom_last (by simp) (by simp; omega), whole]
  · split
    · simp; omega
    · simp
  · split
    · simp; omega
    · simp; omega

/-- The bytes of a character decode to it, whatever follows them. -/
theorem decodeFrom_encodeChar (c : Char) (rest : List UInt8) :
    decodeFrom none (String.utf8EncodeChar c ++ rest) = c :: decodeFrom none rest := by
  have scalar : c.toNat < 0xD800 ∨ 0xDFFF < c.toNat ∧ c.toNat < 0x110000 := c.valid
  have same : Char.ofNat c.toNat = c := Char.ofNat_toNat c
  unfold String.utf8EncodeChar
  show decodeFrom none ((if c.toNat ≤ 127 then _ else if c.toNat ≤ 2047 then _ else
    if c.toNat ≤ 65535 then _ else _) ++ rest) = _
  split
  · rename_i ascii
    have byte : (UInt8.ofNat c.toNat).toNat = c.toNat :=
      UInt8.toNat_ofNat_of_lt' (show c.toNat < 2 ^ 8 by omega)
    have small : UInt8.ofNat c.toNat < 0x80 := by
      rw [UInt8.lt_iff_toNat_lt, byte]
      exact Nat.lt_succ_of_le ascii
    show decodeFrom none (UInt8.ofNat c.toNat :: rest) = _
    rw [decodeFrom, firstByte_of_lt small, byte, same]
    rfl
  · split
    · have decoded := @decodeFrom_two c.toNat (by omega) (by omega) rest
      rwa [same] at decoded
    · split
      · have decoded := @decodeFrom_three c.toNat (by omega) (by omega) (by omega) rest
        rwa [same] at decoded
      · have decoded := @decodeFrom_four c.toNat (by omega) (by omega) rest
        rwa [same] at decoded

/-- Every text is decoded from its bytes. -/
theorem decodeUtf8_encodeUtf8 (text : String) : decodeUtf8 (encodeUtf8 text) = text := by
  have chars : ∀ list : List Char, decodeFrom none (list.flatMap String.utf8EncodeChar) = list := by
    intro list
    induction list with
    | nil => rfl
    | cons c list hypothesis => rw [List.flatMap_cons, decodeFrom_encodeChar, hypothesis]
  rw [decodeUtf8, encodeUtf8, chars, String.ofList_toList]

/-! ### The bytes that characters begin with -/

/-- The bytes of characters. -/
def bytesOf (chars : List Char) : List UInt8 := chars.flatMap String.utf8EncodeChar

@[simp] theorem bytesOf_append (first second : List Char) :
    bytesOf (first ++ second) = bytesOf first ++ bytesOf second := List.flatMap_append

theorem length_bytesOf (chars : List Char) : (bytesOf chars).length = utf8Length chars := by
  induction chars with
  | nil => rfl
  | cons c rest hypothesis =>
    rw [utf8Length_cons, ← hypothesis, ← String.length_utf8EncodeChar]
    exact List.length_append

theorem length_le_length_bytesOf (chars : List Char) : chars.length ≤ (bytesOf chars).length := by
  rw [length_bytesOf]
  induction chars with
  | nil => exact Nat.le_refl 0
  | cons c rest hypothesis =>
    have positive := c.utf8Size_pos
    rw [List.length_cons, utf8Length_cons]
    omega

/-- A character is one byte of ASCII, or begins with a byte that no other one begins with and
goes on with bytes that are not of ASCII either. -/
theorem utf8EncodeChar_cases (c : Char) :
    c.toNat < 128 ∧ String.utf8EncodeChar c = [c.toUInt8] ∨
      128 ≤ c.toNat ∧ ∃ lead others, String.utf8EncodeChar c = lead :: others ∧
        0xC0 ≤ lead ∧ ∀ byte ∈ others, 0x80 ≤ byte := by
  have scalar : c.toNat < 0xD800 ∨ 0xDFFF < c.toNat ∧ c.toNat < 0x110000 := c.valid
  have lead : ∀ bits < 64, (0xC0 : UInt8) ≤ UInt8.ofNat (bits + 192) := by decide
  have inner : ∀ bits < 64, (0x80 : UInt8) ≤ UInt8.ofNat (bits + 128) := by decide
  have first := inner (c.toNat / 4096 % 64) (by omega)
  have second := inner (c.toNat / 64 % 64) (by omega)
  have third := inner (c.toNat % 64) (by omega)
  unfold String.utf8EncodeChar
  show c.toNat < 128 ∧ (if c.toNat ≤ 127 then _ else if c.toNat ≤ 2047 then _ else
      if c.toNat ≤ 65535 then _ else _) = [c.toUInt8] ∨
    128 ≤ c.toNat ∧ ∃ lead others, (if c.toNat ≤ 127 then _ else if c.toNat ≤ 2047 then _ else
      if c.toNat ≤ 65535 then _ else _) = lead :: others ∧ _
  split
  · rename_i ascii
    exact .inl ⟨Nat.lt_succ_of_le ascii, rfl⟩
  · refine .inr ⟨by omega, ?_⟩
    split
    · exact ⟨_, _, rfl, lead _ (by omega), List.forall_mem_singleton.mpr third⟩
    · split
      · exact ⟨_, _, rfl, lead (c.toNat / 4096 % 16 + 32) (by omega),
        List.forall_mem_cons.mpr ⟨second, List.forall_mem_singleton.mpr third⟩⟩
      · exact ⟨_, _, rfl, lead (c.toNat / 262144 % 8 + 48) (by omega),
        List.forall_mem_cons.mpr
          ⟨first, List.forall_mem_cons.mpr ⟨second, List.forall_mem_singleton.mpr third⟩⟩⟩

/-- The byte that a character begins with. -/
def lead (c : Char) : UInt8 := (String.utf8EncodeChar c).headD 0

theorem toNat_toUInt8 {c : Char} (ascii : c.toNat < 128) : c.toUInt8.toNat = c.toNat :=
  UInt8.toNat_ofNat_of_lt' (show c.toNat < 2 ^ 8 by omega)

theorem bytesOf_cons_of_ascii {c : Char} (ascii : c.toNat < 128) (rest : List Char) :
    bytesOf (c :: rest) = c.toUInt8 :: bytesOf rest := by
  rcases utf8EncodeChar_cases c with ⟨-, single⟩ | ⟨wide, -⟩
  · rw [bytesOf, List.flatMap_cons, single]
    rfl
  · omega

theorem head?_bytesOf_cons (c : Char) (rest : List Char) :
    (bytesOf (c :: rest)).head? = some (lead c) := by
  rw [bytesOf, List.flatMap_cons, lead]
  rcases utf8EncodeChar_cases c with ⟨-, single⟩ | ⟨-, byte, others, several, -⟩
  · rw [single]
    rfl
  · rw [several]
    rfl

theorem lead_of_ascii {c : Char} (ascii : c.toNat < 128) : lead c = c.toUInt8 := by
  have both := (head?_bytesOf_cons c []).symm.trans
    (congrArg List.head? (bytesOf_cons_of_ascii ascii []))
  exact Option.some.inj both

theorem le_lead_of_not_ascii {c : Char} (wide : 128 ≤ c.toNat) : 0xC0 ≤ lead c := by
  rcases utf8EncodeChar_cases c with ⟨ascii, -⟩ | ⟨-, byte, others, several, above, -⟩
  · omega
  · rw [lead, several]
    exact above

/-- Only a mark itself begins with its byte. -/
theorem lead_eq_iff {c mark : Char} (ascii : mark.toNat < 128) :
    lead c = mark.toUInt8 ↔ c = mark := by
  constructor
  · intro same
    have bytes := congrArg UInt8.toNat same
    rw [toNat_toUInt8 ascii] at bytes
    by_cases narrow : c.toNat < 128
    · rw [lead_of_ascii narrow, toNat_toUInt8 narrow] at bytes
      exact Char.toNat_inj.mp bytes
    · have above := UInt8.le_iff_toNat_le.mp (le_lead_of_not_ascii (Nat.le_of_not_lt narrow))
      have bound : (0xC0 : UInt8).toNat = 192 := rfl
      omega
  · rintro rfl
    exact lead_of_ascii ascii

/-- A byte of ASCII stands only in characters of ASCII. -/
theorem toUInt8_mem_bytesOf {mark : Char} (ascii : mark.toNat < 128) {chars : List Char}
    (inside : mark.toUInt8 ∈ bytesOf chars) : mark ∈ chars := by
  obtain ⟨c, held, within⟩ := List.mem_flatMap.mp inside
  suffices same : c = mark from same ▸ held
  have byte := toNat_toUInt8 ascii
  rcases utf8EncodeChar_cases c with ⟨narrow, single⟩ | ⟨-, first, others, several, above, behind⟩
  · rw [single, List.mem_singleton] at within
    exact (lead_eq_iff ascii).mp ((lead_of_ascii narrow).trans within.symm)
  · have high : 128 ≤ mark.toUInt8.toNat := by
      rw [several, List.mem_cons] at within
      rcases within with rfl | later
      · exact Nat.le_trans (by decide) (UInt8.le_iff_toNat_le.mp above)
      · exact UInt8.le_iff_toNat_le.mp (behind _ later)
    omega

end ClassMembers.Text
