/-
This file writes what readers read. A number of fixed width is written as its
digits to the base 256, the most significant one first; a table is the count of
its items and the items. Beside each way of writing stands the fact that the
reader takes exactly the written bytes off the front of any others, which is
the form in which readers compose: what one reader leaves is where the next one
begins.
-/

import Mathlib
import ClassMembers.Proofs.Sequencing
import ClassMembers.Reader.Basic

namespace ClassMembers

open Sequencing

namespace Reader

variable {α β : Type}

/-! ### One reader behind another -/

/-- A reader takes these bytes off the front of whatever follows them. -/
def Reads (reader : Reader α) (taken : List UInt8) (value : α) : Prop :=
  ∀ rest, reader (taken ++ rest) = .ok value rest

theorem ofExcept_eq_ok {answer : Except ClassError α} {raw rest : List UInt8} {value : α}
    (done : (ofExcept answer : Reader α) raw = .ok value rest) :
    answer = .ok value ∧ rest = raw := by
  cases answer <;> cases done
  exact ⟨rfl, rfl⟩

theorem pure_reads (value : α) : Reads (pure value) [] value := fun _ => rfl

theorem Reads.bind {reader : Reader α} {next : α → Reader β} {first second : List UInt8}
    {value : α} {result : β} (before : Reads reader first value)
    (behind : Reads (next value) second result) :
    Reads (reader >>= next) (first ++ second) result := by
  intro rest
  rw [List.append_assoc, bind_of_ok (before _)]
  exact behind rest

/-- The last reader of a chain, whose value goes into the result. -/
theorem Reads.bind_pure {reader : Reader α} {taken : List UInt8} {value : α}
    (before : Reads reader taken value) (next : α → β) :
    Reads (reader >>= fun value => pure (next value)) taken (next value) := by
  intro rest
  rw [bind_of_ok (before rest)]
  rfl

theorem ofExcept_reads {answer : Except ClassError α} {value : α} (done : answer = .ok value) :
    Reads (ofExcept answer) [] value := by
  subst done
  exact pure_reads value

/-! ### Blocks and numbers -/

theorem exactly_reads (block : List UInt8) : Reads (exactly block.length) block block :=
  exactly_append block

theorem bytes_reads (block : List UInt8) : Reads (bytes block.length) block block :=
  bytes_append block

theorem skip_reads (block : List UInt8) : Reads (skip block.length) block () :=
  (bytes_reads block).bind_pure _

/-- Digits in front count as often as the digits behind them have values. -/
theorem bigEndian_append (first second : List UInt8) :
    bigEndian (first ++ second) = bigEndian first * 256 ^ second.length + bigEndian second := by
  unfold bigEndian
  rw [List.foldl_append]
  generalize List.foldl _ 0 first = value
  induction second generalizing value with
  | nil => simp
  | cons digit rest hypothesis =>
    rw [List.foldl_cons, List.foldl_cons, hypothesis, hypothesis (0 * 256 + digit.toNat),
      List.length_cons, Nat.pow_succ]
    grind

/-- The value of digits has no more of them than there are. -/
theorem bigEndian_lt (digits : List UInt8) : bigEndian digits < 256 ^ digits.length := by
  induction digits with
  | nil => simp
  | cons digit rest hypothesis =>
    have bound := digit.toNat_lt
    have split := bigEndian_append [digit] rest
    simp only [List.singleton_append] at split
    rw [split, List.length_cons, Nat.pow_succ]
    have single : bigEndian [digit] = digit.toNat := by simp [bigEndian]
    rw [single]
    have scaled : digit.toNat * 256 ^ rest.length ≤ 255 * 256 ^ rest.length :=
      Nat.mul_le_mul_right _ (by omega)
    omega

/-- The digits of a number to the base 256, the most significant one first. -/
def digits : Nat → Nat → List UInt8
  | 0, _ => []
  | width + 1, value => UInt8.ofNat (value / 256 ^ width) :: digits width value

@[simp] theorem length_digits (width value : Nat) : (digits width value).length = width := by
  induction width with
  | zero => rfl
  | succ width hypothesis => rw [digits, List.length_cons, hypothesis]

/-- Digits do not see what lies beyond their width. -/
theorem digits_add_mul (width value beyond : Nat) :
    digits width (beyond * 256 ^ width + value) = digits width value := by
  induction width generalizing beyond with
  | zero => rfl
  | succ width hypothesis =>
    have split : beyond * 256 ^ (width + 1) + value = (beyond * 256) * 256 ^ width + value := by
      rw [Nat.pow_succ, Nat.mul_comm (256 ^ width), Nat.mul_assoc]
    have quotient : ((beyond * 256) * 256 ^ width + value) / 256 ^ width =
        beyond * 256 + value / 256 ^ width := by
      rw [Nat.mul_comm (beyond * 256), Nat.mul_add_div (Nat.pow_pos (by decide))]
    have digit : UInt8.ofNat (beyond * 256 + value / 256 ^ width) =
        UInt8.ofNat (value / 256 ^ width) := by
      rw [← UInt8.toNat_inj, UInt8.toNat_ofNat', UInt8.toNat_ofNat']
      omega
    rw [digits, digits, split, quotient, digit, hypothesis]

/-- Digits have the value they were made from, as far as their width goes. -/
theorem bigEndian_digits (width value : Nat) :
    bigEndian (digits width value) = value % 256 ^ width := by
  induction width with
  | zero => simp [digits, Nat.mod_one]
  | succ width hypothesis =>
    have leading : bigEndian [UInt8.ofNat (value / 256 ^ width)] = value / 256 ^ width % 256 := by
      simp [bigEndian]
    rw [digits, ← List.singleton_append, bigEndian_append, leading, hypothesis, length_digits,
      Nat.pow_succ, Nat.mod_mul, Nat.mul_comm, Nat.add_comm]

/-- Bytes are the digits of the number they spell. -/
theorem digits_bigEndian (block : List UInt8) : digits block.length (bigEndian block) = block := by
  induction block with
  | nil => rfl
  | cons first rest hypothesis =>
    have single : bigEndian [first] = first.toNat := by simp [bigEndian]
    have split := bigEndian_append [first] rest
    have small := bigEndian_lt rest
    rw [List.singleton_append, single] at split
    have lower : digits rest.length (bigEndian (first :: rest)) = rest := by
      rw [split, digits_add_mul, hypothesis]
    have upper : bigEndian (first :: rest) / 256 ^ rest.length = first.toNat := by
      rw [split, Nat.mul_comm, Nat.mul_add_div (Nat.pow_pos (by decide)), Nat.div_eq_of_lt small,
        Nat.add_zero]
    rw [List.length_cons, digits, lower, upper, UInt8.ofNat_toNat]

theorem natural_reads {width value : Nat} (small : value < 256 ^ width) :
    Reads (natural width) (digits width value) value := by
  have read := exactly_reads (digits width value)
  rw [length_digits] at read
  have result := read.bind_pure bigEndian
  rwa [bigEndian_digits, Nat.mod_eq_of_lt small] at result

/-- The bytes of a number of two bytes. -/
def u16Bytes (value : UInt16) : List UInt8 := digits 2 value.toNat

/-- The bytes of a number of four bytes. -/
def u32Bytes (value : UInt32) : List UInt8 := digits 4 value.toNat

/-- The bytes of a number of eight bytes. -/
def u64Bytes (value : UInt64) : List UInt8 := digits 8 value.toNat

@[simp] theorem length_u16Bytes (value : UInt16) : (u16Bytes value).length = 2 :=
  length_digits 2 value.toNat

@[simp] theorem length_u32Bytes (value : UInt32) : (u32Bytes value).length = 4 :=
  length_digits 4 value.toNat

theorem bigEndian_u16Bytes (value : UInt16) : bigEndian (u16Bytes value) = value.toNat := by
  have small : value.toNat < 256 ^ 2 := value.toNat_lt
  rw [u16Bytes, bigEndian_digits, Nat.mod_eq_of_lt small]

/-- A number that has been read stands in front as its digits. -/
theorem natural_eq_ok {width value : Nat} {raw rest : List UInt8}
    (done : natural width raw = .ok value rest) :
    value < 256 ^ width ∧ raw = digits width value ++ rest := by
  obtain ⟨block, left, read, result⟩ := bind_eq_ok.mp done
  cases result
  unfold exactly at read
  split at read
  · rename_i fits
    cases read
    have length : (raw.take width).length = width := List.length_take_of_le fits
    have small := bigEndian_lt (raw.take width)
    have back := digits_bigEndian (raw.take width)
    rw [length] at small back
    exact ⟨small, by rw [back, List.take_append_drop]⟩
  · cases read

theorem u16_eq_ok {value : UInt16} {raw rest : List UInt8} (done : u16 raw = .ok value rest) :
    raw = u16Bytes value ++ rest := by
  obtain ⟨number, left, read, result⟩ := bind_eq_ok.mp done
  cases result
  obtain ⟨small, split⟩ := natural_eq_ok read
  rw [u16Bytes, UInt16.toNat_ofNat_of_lt' small, split]

theorem u32_eq_ok {value : UInt32} {raw rest : List UInt8} (done : u32 raw = .ok value rest) :
    raw = u32Bytes value ++ rest := by
  obtain ⟨number, left, read, result⟩ := bind_eq_ok.mp done
  cases result
  obtain ⟨small, split⟩ := natural_eq_ok read
  rw [u32Bytes, UInt32.toNat_ofNat_of_lt' small, split]

theorem u8_reads (value : UInt8) : Reads u8 [value] value := by
  have single : digits 1 value.toNat = [value] := by simp [digits]
  have small : value.toNat < 256 ^ 1 := value.toNat_lt
  have read := (natural_reads small).bind_pure UInt8.ofNat
  rwa [UInt8.ofNat_toNat, single] at read

theorem u16_reads (value : UInt16) : Reads u16 (u16Bytes value) value := by
  have small : value.toNat < 256 ^ 2 := value.toNat_lt
  have read := (natural_reads small).bind_pure UInt16.ofNat
  rwa [UInt16.ofNat_toNat] at read

theorem u32_reads (value : UInt32) : Reads u32 (u32Bytes value) value := by
  have small : value.toNat < 256 ^ 4 := value.toNat_lt
  have read := (natural_reads small).bind_pure UInt32.ofNat
  rwa [UInt32.ofNat_toNat] at read

theorem u64_reads (value : UInt64) : Reads u64 (u64Bytes value) value := by
  have small : value.toNat < 256 ^ 8 := value.toNat_lt
  have read := (natural_reads small).bind_pure UInt64.ofNat
  rwa [UInt64.ofNat_toNat] at read

theorem i32_reads (value : Int32) : Reads i32 (u32Bytes value.toUInt32) value := by
  have read := (u32_reads value.toUInt32).bind_pure UInt32.toInt32
  rwa [Int32.toInt32_toUInt32] at read

theorem i64_reads (value : Int64) : Reads i64 (u64Bytes value.toUInt64) value := by
  have read := (u64_reads value.toUInt64).bind_pure UInt64.toInt64
  rwa [Int64.toInt64_toUInt64] at read

/-! ### Tables -/

/-- The bytes of items, one behind the other, where each item may be written in
more than one way. -/
inductive Sequence (written : List UInt8 → α → Prop) : List UInt8 → List α → Prop
  | nil : Sequence written [] []
  | cons {item : α} {items : List α} {first rest : List UInt8} (here : written first item)
      (behind : Sequence written rest items) : Sequence written (first ++ rest) (item :: items)

/-- The bytes of a table: the count of its items in two bytes, and the items. -/
inductive Table (written : List UInt8 → α → Prop) : List UInt8 → List α → Prop
  | counted {items : List α} {body : List UInt8} (few : items.length < 2 ^ 16)
      (listed : Sequence written body items) :
      Table written (digits 2 items.length ++ body) items

variable {written : List UInt8 → α → Prop} {reader : Reader α}

theorem times_reads {items : List α} {taken : List UInt8}
    (listed : Sequence (Reads reader) taken items) :
    Reads (times items.length reader) taken items := by
  induction listed with
  | nil => exact pure_reads []
  | cons here _ hypothesis => exact here.bind (hypothesis.bind_pure _)

/-- What the items of a sequence are written as may be known of the bytes that
are not longer than the sequence. -/
theorem Sequence.mono {other : List UInt8 → α → Prop} {items : List α} {taken : List UInt8}
    (listed : Sequence written taken items)
    (each : ∀ bytes item, bytes.length ≤ taken.length → written bytes item → other bytes item) :
    Sequence other taken items := by
  induction listed with
  | nil => exact .nil
  | cons here _ hypothesis =>
    refine .cons (each _ _ (by simp) here) (hypothesis fun bytes item small => each bytes item ?_)
    rw [List.length_append]
    omega

/-- Items that are written in one way each. -/
theorem Sequence.of_flatMap {β : Type} {written : List UInt8 → β → Prop} {bytes : α → List UInt8}
    {value : α → β} (items : List α) (each : ∀ item, written (bytes item) (value item)) :
    Sequence written (items.flatMap bytes) (items.map value) := by
  induction items with
  | nil => exact .nil
  | cons item rest hypothesis =>
    rw [List.flatMap_cons, List.map_cons]
    exact .cons (each item) hypothesis

theorem count_reads {count : Nat} (few : count < 2 ^ 16) :
    Reads u16 (digits 2 count) (UInt16.ofNat count) :=
  (natural_reads few).bind_pure UInt16.ofNat

/-- A table is read item by item. -/
theorem table_reads {items : List α} {taken : List UInt8} (listed : Table written taken items)
    (each : ∀ bytes item, bytes.length ≤ taken.length → written bytes item →
      Reads reader bytes item) :
    Reads (table reader) taken items := by
  obtain ⟨few, inside⟩ := listed
  refine (count_reads few).bind ?_
  rw [UInt16.toNat_ofNat_of_lt' few]
  refine times_reads (inside.mono fun bytes item small => each bytes item ?_)
  rw [List.length_append]
  omega

/-! ### Blocks of numbers -/

theorem pairs_u16Bytes (values : List UInt16) : pairs (values.flatMap u16Bytes) = values := by
  induction values with
  | nil => rfl
  | cons value rest hypothesis =>
    have back : UInt16.ofNat (bigEndian (u16Bytes value)) = value := by
      rw [bigEndian_u16Bytes, UInt16.ofNat_toNat]
    show UInt16.ofNat (bigEndian (u16Bytes value)) :: pairs (rest.flatMap u16Bytes) = _
    rw [back, hypothesis]

theorem length_flatMap_u16Bytes (values : List UInt16) :
    (values.flatMap u16Bytes).length = 2 * values.length := by
  induction values with
  | nil => rfl
  | cons value rest hypothesis =>
    rw [List.flatMap_cons, List.length_append, length_u16Bytes, hypothesis, List.length_cons]
    omega

theorem u16Block_reads (values : List UInt16) :
    Reads (u16Block values.length) (values.flatMap u16Bytes) values := by
  have read := (exactly_reads (values.flatMap u16Bytes)).bind_pure pairs
  rwa [pairs_u16Bytes, length_flatMap_u16Bytes] at read

end Reader

end ClassMembers
