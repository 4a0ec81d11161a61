/-
This file holds the units that characters are made of where a unit has sixteen bits, and
proves that they read back. A character beyond the first 65536 is a pair of units, the first
of which holds its upper ten bits and the second its lower ten. The numbers of such halves are
no characters, so a unit tells whether it stands for itself, begins a pair or ends one.
-/

namespace ClassMembers.Text

/-! ### Units -/

/-- The unit of the number of a character that is one unit. -/
def unit (c : Char) : UInt16 := UInt16.ofNat c.toNat

/-- The units of a character. -/
def unitsOf (c : Char) : List UInt16 :=
  if c.toNat < 0x10000 then [unit c]
  else [UInt16.ofNat (0xD800 + (c.toNat - 0x10000) / 0x400),
    UInt16.ofNat (0xDC00 + (c.toNat - 0x10000) % 0x400)]

/-- Whether a unit begins a pair. -/
def beginsPair (unit : UInt16) : Bool := 0xD800 ≤ unit.toNat && unit.toNat < 0xDC00

/-- Whether a unit ends a pair. -/
def endsPair (unit : UInt16) : Bool := 0xDC00 ≤ unit.toNat && unit.toNat < 0xE000

/-- The characters that units stand for, if no half of a pair is by itself. Between
characters nothing is pending, and inside a pair the unit that begins it. -/
def decodeUnits : Option UInt16 → List UInt16 → Option (List Char)
  | none, [] => some []
  | some _, [] => none
  | none, unit :: rest =>
    if beginsPair unit then decodeUnits (some unit) rest
    else if endsPair unit then none
    else (decodeUnits none rest).map (Char.ofNat unit.toNat :: ·)
  | some first, unit :: rest =>
    if endsPair unit then
      (decodeUnits none rest).map (Char.ofNat
        (0x10000 + (first.toNat - 0xD800) * 0x400 + (unit.toNat - 0xDC00)) :: ·)
    else none

/-! ### Units read back -/

theorem beginsPair_iff (unit : UInt16) :
    beginsPair unit ↔ 0xD800 ≤ unit.toNat ∧ unit.toNat < 0xDC00 := by
  rw [beginsPair, Bool.and_eq_true, decide_eq_true_iff, decide_eq_true_iff]

theorem endsPair_iff (unit : UInt16) :
    endsPair unit ↔ 0xDC00 ≤ unit.toNat ∧ unit.toNat < 0xE000 := by
  rw [endsPair, Bool.and_eq_true, decide_eq_true_iff, decide_eq_true_iff]

theorem toNat_unit_of_lt {n : Nat} (small : n < 0x10000) : (UInt16.ofNat n).toNat = n :=
  UInt16.toNat_ofNat_of_lt' small

theorem not_surrogate (c : Char) : c.toNat < 0xD800 ∨ 0xE000 ≤ c.toNat ∧ c.toNat < 0x110000 := by
  rcases c.valid with below | ⟨above, within⟩
  · exact .inl below
  · exact .inr ⟨above, within⟩

theorem decodeUnits_unitsOf (c : Char) (rest : List UInt16) :
    decodeUnits none (unitsOf c ++ rest) = (decodeUnits none rest).map (c :: ·) := by
  have range := not_surrogate c
  unfold unitsOf
  split
  · rename_i small
    have number : (unit c).toNat = c.toNat := toNat_unit_of_lt small
    have noFirst : ¬ beginsPair (unit c) := by
      rw [beginsPair_iff, number]
      omega
    have noSecond : ¬ endsPair (unit c) := by
      rw [endsPair_iff, number]
      omega
    rw [List.singleton_append, decodeUnits, if_neg noFirst, if_neg noSecond, number,
      Char.ofNat_toNat]
  · have first := toNat_unit_of_lt (n := 0xD800 + (c.toNat - 0x10000) / 0x400) (by omega)
    have second := toNat_unit_of_lt (n := 0xDC00 + (c.toNat - 0x10000) % 0x400) (by omega)
    have begins : beginsPair (UInt16.ofNat (0xD800 + (c.toNat - 0x10000) / 0x400)) := by
      rw [beginsPair_iff, first]
      omega
    have ends : endsPair (UInt16.ofNat (0xDC00 + (c.toNat - 0x10000) % 0x400)) := by
      rw [endsPair_iff, second]
      omega
    have whole : 0x10000 + (0xD800 + (c.toNat - 0x10000) / 0x400 - 0xD800) * 0x400 +
        (0xDC00 + (c.toNat - 0x10000) % 0x400 - 0xDC00) = c.toNat := by omega
    rw [List.cons_append, List.singleton_append, decodeUnits, if_pos begins, decodeUnits,
      if_pos ends, first, second, whole, Char.ofNat_toNat]

/-- The units of characters stand for these characters. -/
theorem decodeUnits_flatMap (chars : List Char) :
    decodeUnits none (chars.flatMap unitsOf) = some chars := by
  induction chars with
  | nil => rfl
  | cons c rest hypothesis =>
    rw [List.flatMap_cons, decodeUnits_unitsOf, hypothesis]
    rfl

/-- A unit below the halves of pairs is the unit of one character only. -/
theorem eq_of_mem_unitsOf {c other : Char} (small : other.toNat < 0xD800)
    (inside : unit other ∈ unitsOf c) : c = other := by
  have number : (unit other).toNat = other.toNat := toNat_unit_of_lt (by omega)
  have range := not_surrogate c
  unfold unitsOf at inside
  split at inside
  · rename_i narrow
    have same : (unit other).toNat = c.toNat := by
      rw [List.mem_singleton.mp inside, unit, toNat_unit_of_lt narrow]
    exact Char.toNat_inj.mp (same.symm.trans number)
  · have high (half : Nat) (above : 0xD800 ≤ half) (below : half < 0x10000) :
        unit other ≠ UInt16.ofNat half := by
      intro same
      rw [same, toNat_unit_of_lt below] at number
      omega
    simp only [List.mem_cons, List.not_mem_nil, or_false] at inside
    rcases inside with first | second
    · exact absurd first (high _ (by omega) (by omega))
    · exact absurd second (high _ (by omega) (by omega))

end ClassMembers.Text
