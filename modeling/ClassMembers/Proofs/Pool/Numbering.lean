/-
This file proves how the places of a constant pool are numbered that was read. The
constants stand in it in the order in which they are encoded. A wide one takes the
place behind it as well, which cannot be used, and no other place is like that; in
the last of the declared places it has no place behind it, so a pool never has more
places than it declares. The number of a constant follows from the constants in
front of it. None of this depends on what stands behind the pool, or on how
attributes are decoded.
-/

import ClassMembers.ClassFile
import ClassMembers.Proofs.Pool.RoundTrip

namespace ClassMembers

open Reader Sequencing

namespace PoolEntry

/-! ### Constants that were read -/

/-- A reader reads nothing but constants that can be used. -/
def ReadsUsable (reader : Reader PoolEntry) : Prop :=
  ∀ raw entry rest, reader raw = .ok entry rest → entry ≠ unusable

theorem readsUsable_single {α : Type} {reader : Reader α} {make : α → PoolEntry}
    (made : ∀ value, make value ≠ unusable) : ReadsUsable (do return make (← reader)) := by
  intro raw entry rest done
  obtain ⟨value, middle, -, result⟩ := bind_eq_ok.mp done
  cases result
  exact made value

theorem readsUsable_pair {α β : Type} {first : Reader α} {second : Reader β}
    {make : α → β → PoolEntry} (made : ∀ left right, make left right ≠ unusable) :
    ReadsUsable (do return make (← first) (← second)) := by
  intro raw entry rest done
  obtain ⟨left, middle, -, behind⟩ := bind_eq_ok.mp done
  exact readsUsable_single (made left) _ _ _ behind

/-- No constant is encoded that cannot be used. -/
theorem read_readsUsable : ReadsUsable PoolEntry.read := by
  intro raw entry rest done
  obtain ⟨tag, body, -, done⟩ := bind_eq_ok.mp done
  suffices usable : ReadsUsable (readBody tag) from usable _ _ _ done
  unfold readBody
  split
  case h_18 =>
    intro raw entry rest failed
    cases failed
  all_goals first
    | exact readsUsable_single fun _ => nofun
    | exact readsUsable_pair fun _ _ => nofun

/-! ### The places of constants -/

/-- The places of a constant and of the constants behind it. -/
theorem spread_width_add (entry : PoolEntry) (behind : List PoolEntry) (places : Nat) :
    spread (entry.width + places) (entry :: behind) =
      if entry.isWide then entry :: unusable :: spread places behind
      else entry :: spread places behind := by
  rw [width, spread]
  cases entry.isWide with
  | true =>
    rw [if_pos rfl, if_pos ⟨rfl, Nat.le_add_right 2 places⟩, Nat.add_sub_cancel_left]
    rfl
  | false =>
    rw [if_neg Bool.false_ne_true, if_neg (fun both => Bool.false_ne_true both.1),
      Nat.add_sub_cancel_left]
    rfl

/-- What was read as places are the places of constants that are encoded one behind
the other. -/
theorem readPlaces_eq_ok {places : Nat} {raw rest : List UInt8} {entries : List PoolEntry}
    (done : readPlaces places raw = .ok entries rest) :
    ∃ constants, times constants.length PoolEntry.read raw = .ok constants rest ∧
      Fills places constants ∧ entries = spread places constants ∧
      ∀ entry ∈ constants, entry ≠ unusable := by
  have times_cons : ∀ {front middle : List UInt8} {entry : PoolEntry} {behind : List PoolEntry},
      PoolEntry.read front = .ok entry middle →
      times behind.length PoolEntry.read middle = .ok behind rest →
      times (behind.length + 1) PoolEntry.read front = .ok (entry :: behind) rest := by
    intro front middle entry behind first others
    rw [times, bind_of_ok first, bind_of_ok others]
    rfl
  induction places using readPlaces.induct generalizing raw entries with
  | case1 =>
    cases done
    exact ⟨[], rfl, .none, rfl, by simp⟩
  | case2 =>
    obtain ⟨entry, middle, first, result⟩ := bind_eq_ok.mp done
    cases result
    exact ⟨[entry], times_cons first rfl, .last, by simp [spread],
      by simpa using read_readsUsable _ _ _ first⟩
  | case3 places wide narrow =>
    obtain ⟨entry, middle, first, done⟩ := bind_eq_ok.mp done
    have here := read_readsUsable _ _ _ first
    split at done
    · rename_i isWide
      obtain ⟨others, last, behind, result⟩ := bind_eq_ok.mp done
      cases result
      obtain ⟨constants, read, fills, rfl, usable⟩ := wide behind
      have filled : entry.width + places = places.succ.succ := by
        rw [width, if_pos isWide, Nat.add_comm]
      rw [← filled]
      refine ⟨entry :: constants, times_cons first read, fills.cons, ?_,
        List.forall_mem_cons.mpr ⟨here, usable⟩⟩
      rw [spread_width_add, if_pos isWide]
    · rename_i isNarrow
      obtain ⟨others, last, behind, result⟩ := bind_eq_ok.mp done
      cases result
      obtain ⟨constants, read, fills, rfl, usable⟩ := narrow behind
      have filled : entry.width + (places + 1) = places.succ.succ := by
        rw [width, if_neg isNarrow, Nat.add_comm]
      rw [← filled]
      refine ⟨entry :: constants, times_cons first read, fills.cons, ?_,
        List.forall_mem_cons.mpr ⟨here, usable⟩⟩
      rw [spread_width_add, if_neg isNarrow]

section Spread

variable {places : Nat} {constants : List PoolEntry}

theorem length_spread (fills : Fills places constants) :
    (spread places constants).length = places := by
  induction fills with
  | none => rfl
  | last => simp [spread]
  | @cons places entry behind others hypothesis =>
    rw [spread_width_add, width]
    split
    · rw [List.length_cons, List.length_cons, hypothesis, Nat.add_assoc, Nat.add_comm]
    · rw [List.length_cons, hypothesis, Nat.add_comm]

/-- The places that can be used hold the constants. -/
theorem filter_spread (fills : Fills places constants)
    (usable : ∀ entry ∈ constants, entry ≠ unusable) :
    (spread places constants).filter (fun entry => entry ≠ unusable) = constants := by
  induction fills with
  | none => rfl
  | @last entry =>
    have here := usable entry List.mem_cons_self
    simp [spread, here]
  | @cons places entry behind others hypothesis =>
    obtain ⟨here, usable⟩ := List.forall_mem_cons.mp usable
    rw [spread_width_add]
    split <;> simpa [here] using hypothesis usable

/-- One place cannot be used behind another exactly if that holds a wide constant. -/
def Follows (before entry : PoolEntry) : Prop := entry = unusable ↔ before.isWide = true

/-- The place in front of all others, which is never valid, counts as a narrow one. -/
theorem isChain_spread (fills : Fills places constants)
    (usable : ∀ entry ∈ constants, entry ≠ unusable) {before : PoolEntry}
    (narrow : before.isWide = false) :
    List.IsChain Follows (before :: spread places constants) := by
  have first : ∀ {before entry : PoolEntry}, before.isWide = false → entry ≠ unusable →
      Follows before entry := by
    intro before entry narrow here
    exact iff_of_false here (by simp [narrow])
  induction fills generalizing before with
  | none => exact .singleton before
  | @last entry =>
    rw [spread, if_neg (by simp)]
    exact .cons_cons (first narrow (usable entry List.mem_cons_self)) (.singleton entry)
  | @cons places entry behind others hypothesis =>
    obtain ⟨here, usable⟩ := List.forall_mem_cons.mp usable
    rw [spread_width_add]
    split
    · rename_i wide
      exact .cons_cons (first narrow here)
        (.cons_cons (iff_of_true rfl wide) (hypothesis usable rfl))
    · rename_i other
      exact .cons_cons (first narrow here) (hypothesis usable (Bool.not_eq_true _ ▸ other))

/-- A place cannot be used exactly if the place before it holds a wide constant. -/
theorem getElem_spread_eq_unusable_iff (fills : Fills places constants)
    (usable : ∀ entry ∈ constants, entry ≠ unusable) {place : Nat}
    (inside : place < (spread places constants).length) :
    (spread places constants)[place] = unusable ↔ ∃ before wide, place = before + 1 ∧
      (spread places constants)[before]? = some wide ∧ wide.isWide = true := by
  have narrow : unusable.isWide = false := rfl
  have chain := List.isChain_iff_getElem.mp (isChain_spread fills usable narrow)
  have here := chain place (Nat.succ_lt_succ inside)
  cases place with
  | zero =>
    refine here.trans (iff_of_false Bool.false_ne_true ?_)
    rintro ⟨before, wide, first, -⟩
    cases first
  | succ before =>
    have earlier := Nat.lt_of_succ_lt inside
    refine here.trans ⟨fun wide => ⟨before, _, rfl, List.getElem?_eq_getElem earlier, wide⟩, ?_⟩
    rintro ⟨_, wide, ⟨⟩, holds, isWide⟩
    rw [List.getElem?_eq_getElem earlier] at holds
    cases holds
    exact isWide

/-- The places in front of a constant are those that the constants before it take. -/
theorem getElem?_spread (fills : Fills places constants) {position : Nat}
    (inside : position < constants.length) :
    (spread places constants)[position + (constants.take position).countP isWide]? =
      some constants[position] := by
  induction fills generalizing position with
  | none => cases inside
  | last =>
    cases Nat.lt_one_iff.mp inside
    simp [spread]
  | @cons places entry behind others hypothesis =>
    rw [spread_width_add]
    cases position with
    | zero => split <;> rfl
    | succ position =>
      have later := hypothesis (Nat.lt_of_succ_lt_succ inside)
      rw [List.take_succ_cons, List.countP_cons, List.getElem_cons_succ, ← later]
      cases entry.isWide with
      | true =>
        rw [if_pos rfl, if_pos rfl, ← Nat.add_assoc, Nat.add_right_comm position]
        rfl
      | false =>
        rw [if_neg Bool.false_ne_true, if_neg Bool.false_ne_true, Nat.add_zero,
          Nat.add_right_comm]
        rfl

end Spread

/-- The number of a constant: one, and the number of constants before it, and the
number of wide ones among these. -/
def number (constants : List PoolEntry) (position : Nat) : Nat :=
  1 + position + (constants.take position).countP isWide

end PoolEntry

/-! ### Pools -/

/-- A pool with the given declared count holds encoded constants under the numbers
of the class file. A place cannot be used exactly if there is a wide constant in the
place before it. -/
structure Pool.Numbers (pool : Pool) (declared : Nat) (constants : List PoolEntry) : Prop where
  size : pool.size = declared - 1
  beyond : ∀ index : UInt16, declared ≤ index.toNat →
    pool.get index = .error (.indexOutOfRange index (declared - 1))
  usable : pool.entries.filter (fun entry => entry ≠ .unusable) = constants
  unusable : ∀ place, pool.entries[place]? = some .unusable ↔ place < pool.size ∧
    ∃ before wide, place = before + 1 ∧ pool.entries[before]? = some wide ∧ wide.isWide = true
  found : ∀ position, ∀ inside : position < constants.length,
    PoolEntry.number constants position ≤ pool.size ∧
      pool.get (.ofNat (PoolEntry.number constants position)) = .ok constants[position]

theorem Pool.get_of_getElem? {pool : Pool} {place : Nat} {entry : PoolEntry}
    (small : place + 1 < 2 ^ 16) (holds : pool.entries[place]? = some entry) :
    pool.get (.ofNat (place + 1)) = .ok entry := by
  rw [Pool.get, UInt16.toNat_ofNat_of_lt' small]
  dsimp only
  rw [holds]

theorem Pool.get_of_size_lt {pool : Pool} {index : UInt16} (outside : pool.size < index.toNat) :
    pool.get index = .error (.indexOutOfRange index pool.size) := by
  unfold Pool.get
  split
  · rfl
  · rename_i place same
    have missing : pool.entries[place]? = none := by
      rw [List.getElem?_eq_none_iff]
      show pool.size ≤ place
      omega
    rw [missing]

theorem PoolEntry.numbers_spread {declared : Nat} (few : declared < 2 ^ 16)
    {constants : List PoolEntry} (fills : Fills (declared - 1) constants)
    (usable : ∀ entry ∈ constants, entry ≠ PoolEntry.unusable) :
    Pool.Numbers ⟨spread (declared - 1) constants⟩ declared constants := by
  have size : Pool.size ⟨spread (declared - 1) constants⟩ = declared - 1 := length_spread fills
  refine ⟨size, fun index outside => ?_, filter_spread fills usable, fun place => ?_,
    fun position inside => ?_⟩
  · rcases Nat.eq_zero_or_pos index.toNat with zero | positive
    · rw [Pool.get, zero]
      dsimp only
      rw [size]
    · rw [Pool.get_of_size_lt (by omega), size]
  · rw [List.getElem?_eq_some_iff]
    constructor
    · rintro ⟨inside, same⟩
      exact ⟨inside, (getElem_spread_eq_unusable_iff fills usable inside).mp same⟩
    · rintro ⟨inside, wide⟩
      exact ⟨inside, (getElem_spread_eq_unusable_iff fills usable inside).mpr wide⟩
  · have holds := getElem?_spread fills inside
    have within := (List.getElem?_eq_some_iff.mp holds).1
    rw [length_spread fills] at within
    have same : number constants position =
        position + (constants.take position).countP isWide + 1 := by
      rw [number]
      omega
    rw [same, size]
    exact ⟨by omega, Pool.get_of_getElem? (by omega) holds⟩

/-! ### Class files -/

namespace ClassFile

/-- The parts of a class file up to the flags, of which the pool is read behind the
first eight bytes. -/
theorem read_eq_ok_pool {decoder : AttributeDecoder} {raw last : List UInt8} {file : ClassFile}
    (done : read decoder raw = .ok file last) :
    ∃ rest flags behind, Pool.read (raw.drop 8) = .ok file.pool rest ∧
      rest = u16Bytes flags ++ behind ∧ file.accessFlags = .ofBits flags := by
  obtain ⟨_, versioned, marked, done⟩ := bind_eq_ok.mp done
  obtain ⟨version, pooled, readVersion, done⟩ := bind_eq_ok.mp done
  obtain ⟨pool, rest, readPool, done⟩ := bind_eq_ok.mp done
  obtain ⟨accessFlags, behind, readFlags, done⟩ := bind_eq_ok.mp done
  obtain ⟨thisClass, _, -, done⟩ := bind_eq_ok.mp done
  obtain ⟨superClass, _, -, done⟩ := bind_eq_ok.mp done
  obtain ⟨interfaceCount, _, -, done⟩ := bind_eq_ok.mp done
  obtain ⟨interfaces, _, -, done⟩ := bind_eq_ok.mp done
  obtain ⟨fields, _, -, done⟩ := bind_eq_ok.mp done
  obtain ⟨methods, _, -, done⟩ := bind_eq_ok.mp done
  obtain ⟨attributeCount, _, -, done⟩ := bind_eq_ok.mp done
  obtain ⟨⟨attributes, length⟩, _, -, result⟩ := bind_eq_ok.mp done
  cases result
  obtain ⟨magic, _, readMagic, checked⟩ := bind_eq_ok.mp marked
  obtain ⟨minor, _, readMinor, others⟩ := bind_eq_ok.mp readVersion
  obtain ⟨major, _, readMajor, result⟩ := bind_eq_ok.mp others
  cases result
  split at checked
  · cases checked
    refine ⟨rest, accessFlags, behind, ?_, u16_eq_ok readFlags, rfl⟩
    have front : (u32Bytes magic ++ (u16Bytes minor ++ u16Bytes major)).length = 8 := by
      simp only [List.length_append, length_u32Bytes, length_u16Bytes]
    rw [u32_eq_ok readMagic, u16_eq_ok readMinor, u16_eq_ok readMajor,
      ← List.append_assoc (u16Bytes minor), ← List.append_assoc, List.drop_left' front]
    exact readPool
  · cases checked

/-- The pool of every class file that is read, however its attributes are decoded, holds the
constants that stand between the declared count and the flags, under their numbers. -/
theorem numbers_of_ofBytes {decoder : AttributeDecoder} {raw : List UInt8} {file : ClassFile}
    (done : ofBytes decoder raw = .ok file) :
    ∃ constants rest flags behind,
      times constants.length PoolEntry.read (raw.drop 10) = .ok constants rest ∧
      rest = u16Bytes flags ++ behind ∧ file.accessFlags = .ofBits flags ∧
      file.pool.Numbers (bigEndian ((raw.drop 8).take 2)) constants := by
  unfold ofBytes at done
  split at done
  · rename_i found last read
    cases done
    obtain ⟨rest, flags, behind, readPool, split, same⟩ := read_eq_ok_pool read
    obtain ⟨count, encoded, readCount, readEntries⟩ := bind_eq_ok.mp readPool
    obtain ⟨entries, left, places, result⟩ := bind_eq_ok.mp readEntries
    obtain ⟨constants, each, fills, rfl, usable⟩ := PoolEntry.readPlaces_eq_ok places
    injection result with pool left
    subst left
    have counted : bigEndian ((raw.drop 8).take 2) = count.toNat := by
      rw [u16_eq_ok readCount, List.take_left' (length_u16Bytes count), bigEndian_u16Bytes]
    have behindCount : raw.drop 10 = encoded := by
      rw [← List.drop_drop (i := 2) (j := 8), u16_eq_ok readCount,
        List.drop_left' (length_u16Bytes count)]
    rw [counted, behindCount, ← pool]
    exact ⟨constants, _, flags, behind, each, split, same,
      PoolEntry.numbers_spread count.toNat_lt fills usable⟩
  · cases done

/-- A class file with a wide constant in front of others, and with another one in the last place
that it declares. -/
theorem numbers_of_ofBytes_wide :
    ofBytes (fun _ _ _ => .error .truncated)
        [202, 254, 186, 190, 0, 0, 0, 52, 0, 5, 5, 0, 0, 0, 0, 0, 0, 0, 7, 1, 0, 1, 65,
          6, 0, 0, 0, 0, 0, 0, 0, 0, 0, 33, 0, 0, 0, 0, 0, 0, 0, 0, 0, 0, 0, 0] =
      .ok ⟨⟨52, 0⟩, ⟨[.long 7, .unusable, .utf8 "A", .double 0]⟩, ⟨33⟩, 0, 0, [], [], [],
        .ofList []⟩ ∧
    Pool.Numbers ⟨[.long 7, .unusable, .utf8 "A", .double 0]⟩ 5
      [.long 7, .utf8 "A", .double 0] := by
  have read : ofBytes (fun _ _ _ => .error .truncated)
      [202, 254, 186, 190, 0, 0, 0, 52, 0, 5, 5, 0, 0, 0, 0, 0, 0, 0, 7, 1, 0, 1, 65,
        6, 0, 0, 0, 0, 0, 0, 0, 0, 0, 33, 0, 0, 0, 0, 0, 0, 0, 0, 0, 0, 0, 0] =
      .ok ⟨⟨52, 0⟩, ⟨[.long 7, .unusable, .utf8 "A", .double 0]⟩, ⟨33⟩, 0, 0, [], [], [],
        .ofList []⟩ := rfl
  obtain ⟨constants, _, _, _, -, -, -, numbers⟩ := numbers_of_ofBytes read
  obtain rfl : [.long 7, .utf8 "A", .double 0] = constants := numbers.usable
  exact ⟨read, numbers⟩

end ClassFile

end ClassMembers
