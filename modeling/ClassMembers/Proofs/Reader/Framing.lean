/-
This file holds what it means that a reader delimits what it reads: a value it
has read depends on the bytes it took and on nothing behind them, and of those
bytes none can be missing, since any shorter beginning of them ends in a fault
that says so. The property is kept by everything readers are composed of, so a
reader that never looks at all that remains has it by its shape. The one reader
that does look, that of an attribute, is treated with the decoder.
-/

import ClassMembers.Proofs.Reader.Written
import ClassMembers.Reader.Cursor

namespace ClassMembers

open Sequencing

/-- A fault that says that bytes are missing: a number or a block that does not
fit into what remains, or an attribute that declares more than that. -/
def ClassError.isShortage : ClassError → Bool
  | .truncated | .pastEnd | .attributeOverrun _ _ _ => true
  | _ => false

namespace Reader

variable {α β : Type}

/-- Any shorter beginning of these bytes is too short for a reader. -/
def Needs (reader : Reader α) (taken : List UInt8) : Prop :=
  ∀ part missing, taken = part ++ missing → missing ≠ [] →
    ∃ fault rest, reader part = .error fault rest ∧ fault.isShortage = true

/-- A reader that takes bytes off the front, whatever follows them, and needs
all of them. -/
def SelfDelimiting (reader : Reader α) : Prop :=
  ∀ raw value rest, reader raw = .ok value rest →
    ∃ taken, raw = taken ++ rest ∧ Reads reader taken value ∧ Needs reader taken

/-! ### Composition -/

theorem needs_nil (reader : Reader α) : Needs reader [] := by
  intro part missing split nonempty
  exact absurd (List.append_eq_nil_iff.mp split.symm).2 nonempty

theorem Needs.bind {reader : Reader α} {next : α → Reader β} {first second : List UInt8} {value : α}
    (before : Reads reader first value) (short : Needs reader first)
    (behind : Needs (next value) second) : Needs (reader >>= next) (first ++ second) := by
  intro part missing split nonempty
  rcases List.append_eq_append_iff.mp split with ⟨middle, inside, rest⟩ | ⟨middle, inside, rest⟩
  · obtain ⟨fault, left, failed, shortage⟩ := behind middle missing rest nonempty
    rw [inside]
    exact ⟨fault, left, (bind_of_ok (before middle)).trans failed, shortage⟩
  · cases middle with
    | nil =>
      rw [List.append_nil] at inside
      rw [List.nil_append] at rest
      obtain ⟨fault, left, failed, shortage⟩ := behind [] second rfl (rest ▸ nonempty)
      have whole := before []
      rw [List.append_nil, inside] at whole
      exact ⟨fault, left, (bind_of_ok whole).trans failed, shortage⟩
    | cons byte more =>
      obtain ⟨fault, left, failed, shortage⟩ := short part (byte :: more) inside (by simp)
      exact ⟨fault, left, bind_of_error failed, shortage⟩

theorem pure_selfDelimiting (value : α) : SelfDelimiting (pure value : Reader α) := by
  intro raw result rest done
  cases done
  exact ⟨[], rfl, pure_reads value, needs_nil _⟩

theorem throw_selfDelimiting (fault : ClassError) :
    SelfDelimiting (throw fault : Reader α) := by
  intro raw value rest done
  cases done

theorem ofExcept_selfDelimiting (answer : Except ClassError α) :
    SelfDelimiting (ofExcept answer : Reader α) := by
  cases answer with
  | ok value => exact pure_selfDelimiting value
  | error fault => exact throw_selfDelimiting fault

theorem SelfDelimiting.bind {reader : Reader α} {next : α → Reader β}
    (before : SelfDelimiting reader) (behind : ∀ value, SelfDelimiting (next value)) :
    SelfDelimiting (reader >>= next) := by
  intro raw result rest done
  obtain ⟨value, middle, first, second⟩ := bind_eq_ok.mp done
  obtain ⟨taken, split, reads, needs⟩ := before raw value middle first
  obtain ⟨more, splitMore, readsMore, needsMore⟩ := behind value middle result rest second
  refine ⟨taken ++ more, ?_, reads.bind readsMore, needs.bind reads needsMore⟩
  rw [split, splitMore, List.append_assoc]

theorem SelfDelimiting.bind_pure {reader : Reader α} (before : SelfDelimiting reader)
    (next : α → β) : SelfDelimiting (reader >>= fun value => pure (next value)) :=
  before.bind fun value => pure_selfDelimiting (next value)

/-- What is left is never more than there was. -/
theorem SelfDelimiting.length_le {reader : Reader α} (delimiting : SelfDelimiting reader)
    {raw rest : List UInt8} {value : α} (done : reader raw = .ok value rest) :
    rest.length ≤ raw.length := by
  obtain ⟨taken, split, -⟩ := delimiting raw value rest done
  rw [split, List.length_append]
  omega

/-! ### Blocks and numbers -/

/-- A reader of as many bytes as asked for, whatever its fault where they are
too few. -/
theorem block_selfDelimiting {reader : Reader (List UInt8)} {count : Nat} {fault : ClassError}
    (shortage : fault.isShortage = true)
    (enough : ∀ raw, count ≤ raw.length → reader raw = .ok (raw.take count) (raw.drop count))
    (short : ∀ raw, raw.length < count → ∃ rest, reader raw = .error fault rest) :
    SelfDelimiting reader := by
  intro raw block rest done
  rcases Nat.lt_or_ge raw.length count with less | fits
  · obtain ⟨left, failed⟩ := short raw less
    rw [failed] at done
    cases done
  rw [enough raw fits] at done
  cases done
  have length : (raw.take count).length = count := List.length_take_of_le fits
  refine ⟨raw.take count, (List.take_append_drop count raw).symm, ?_, ?_⟩
  · intro more
    rw [enough _ (by rw [List.length_append]; omega), List.take_left' length,
      List.drop_left' length]
  · intro part missing split nonempty
    have shorter := congrArg List.length split
    rw [length, List.length_append] at shorter
    have positive := List.length_pos_iff.mpr nonempty
    obtain ⟨left, failed⟩ := short part (by omega)
    exact ⟨fault, left, failed, shortage⟩

theorem exactly_selfDelimiting (count : Nat) : SelfDelimiting (exactly count) :=
  block_selfDelimiting rfl (fun _ fits => if_pos fits)
    fun _ less => ⟨[], exactly_of_length_lt less⟩

theorem bytes_selfDelimiting (count : Nat) : SelfDelimiting (bytes count) :=
  block_selfDelimiting rfl (fun _ fits => if_pos fits)
    fun raw less => ⟨raw, bytes_of_length_lt less⟩

theorem natural_selfDelimiting (width : Nat) : SelfDelimiting (natural width) :=
  (exactly_selfDelimiting width).bind_pure _

theorem u8_selfDelimiting : SelfDelimiting u8 := (natural_selfDelimiting 1).bind_pure _

theorem u16_selfDelimiting : SelfDelimiting u16 := (natural_selfDelimiting 2).bind_pure _

theorem u32_selfDelimiting : SelfDelimiting u32 := (natural_selfDelimiting 4).bind_pure _

theorem u64_selfDelimiting : SelfDelimiting u64 := (natural_selfDelimiting 8).bind_pure _

theorem i32_selfDelimiting : SelfDelimiting i32 := u32_selfDelimiting.bind_pure _

theorem i64_selfDelimiting : SelfDelimiting i64 := u64_selfDelimiting.bind_pure _

/-! ### Tables -/

theorem times_selfDelimiting {item : Reader α} (each : SelfDelimiting item) (count : Nat) :
    SelfDelimiting (times count item) := by
  induction count with
  | zero => exact pure_selfDelimiting []
  | succ count hypothesis => exact each.bind fun _ => hypothesis.bind_pure _

theorem table_selfDelimiting {item : Reader α} (each : SelfDelimiting item) :
    SelfDelimiting (table item) :=
  u16_selfDelimiting.bind fun count => times_selfDelimiting each count.toNat

theorem u16Block_selfDelimiting (count : Nat) : SelfDelimiting (u16Block count) :=
  (exactly_selfDelimiting (2 * count)).bind_pure _

end Reader

end ClassMembers
