/-
This file proves when the parameters of a method have different names. A parameter is named by
its slot where the table of local variables has a row for it, and by its position where it has
none. Slots lie apart as long as counting does not stop, and positions lie apart in any case,
so two names that are found in the same way differ. But the two ways know nothing of each
other: a table may call one parameter what another one is called by its position. This is the
only way in which two parameters come to have one name.
-/

import ClassMembers.Proofs.Prototype.Slots

namespace ClassMembers

/-! ### Rows of a table -/

/-- Whether a row names the parameter of a slot. -/
def LocalVariable.NamesSlot (row : LocalVariable) (slot : Nat) : Prop :=
  row.namesParameter = true ∧ row.slot.toNat = slot

/-- Whether rows that name parameters have one name exactly if they are for one slot. -/
def TellsSlotsApart (rows : List LocalVariable) : Prop :=
  ∀ first ∈ rows, ∀ second ∈ rows, first.namesParameter = true → second.namesParameter = true →
    (first.name = second.name ↔ first.slot = second.slot)

namespace Namer

theorem byPosition_injective (slot other : Nat) {position later : Nat}
    (same : byPosition slot position = byPosition other later) : position = later := by
  simpa [byPosition] using same

variable {rows : List LocalVariable} {slot other : Nat} {name : String}

theorem nameOfSlot?_eq_none_iff :
    nameOfSlot? rows slot = none ↔ ∀ row ∈ rows, ¬ row.NamesSlot slot := by
  simp [nameOfSlot?, LocalVariable.NamesSlot]

/-- A name that a slot has is that of a row. -/
theorem exists_row_of_nameOfSlot? (named : nameOfSlot? rows slot = some name) :
    ∃ row ∈ rows, row.NamesSlot slot ∧ row.name = name := by
  obtain ⟨row, found, called⟩ := Option.map_eq_some_iff.mp named
  have fits := List.find?_some found
  rw [Bool.and_eq_true, decide_eq_true_iff] at fits
  exact ⟨row, List.mem_reverse.mp (List.mem_of_find?_eq_some found), fits, called⟩

/-- Where rows for one slot agree, each of them tells the name of the slot. -/
theorem nameOfSlot?_of_row (apart : TellsSlotsApart rows) {row : LocalVariable}
    (inside : row ∈ rows) (names : row.NamesSlot slot) :
    nameOfSlot? rows slot = some row.name := by
  cases named : nameOfSlot? rows slot with
  | none => exact absurd names (nameOfSlot?_eq_none_iff.mp named row inside)
  | some name =>
    obtain ⟨last, insideToo, namesToo, rfl⟩ := exists_row_of_nameOfSlot? named
    have same : last.slot = row.slot := UInt16.toNat_inj.mp (namesToo.2.trans names.2.symm)
    rw [(apart last insideToo row inside namesToo.1 names.1).mpr same]

/-- A table that tells slots apart names no two of them alike. -/
theorem slot_eq_of_nameOfSlot? (apart : TellsSlotsApart rows)
    (named : nameOfSlot? rows slot = some name) (namedToo : nameOfSlot? rows other = some name) :
    slot = other := by
  obtain ⟨first, inside, names, rfl⟩ := exists_row_of_nameOfSlot? named
  obtain ⟨second, insideToo, namesToo, same⟩ := exists_row_of_nameOfSlot? namedToo
  rw [← names.2, ← namesToo.2,
    (apart first inside second insideToo names.1 namesToo.1).mp same.symm]

end Namer

/-! ### Slots of different parameters -/

theorem JavaType.argumentWidth_bounds (type : JavaType) :
    1 ≤ type.argumentWidth ∧ type.argumentWidth ≤ 2 := by
  unfold argumentWidth
  split <;> decide

/-- Behind a parameter slots go on, as long as there is room for all of them. -/
theorem argumentSlot_lt {first index later : Nat} {arguments : List JavaType}
    (before : index < later) (inside : later ≤ arguments.length)
    (room : first + 2 * later ≤ 65535) :
    argumentSlot first arguments index < argumentSlot first arguments later := by
  obtain ⟨more, rfl⟩ := Nat.exists_eq_add_of_lt before
  have between : ((arguments.drop index).take (more + 1)).length ≤
      (((arguments.drop index).take (more + 1)).map JavaType.argumentWidth).sum := by
    rw [← List.length_map JavaType.argumentWidth]
    refine List.length_le_sum_of_one_le _ fun width member => ?_
    obtain ⟨type, -, rfl⟩ := List.mem_map.mp member
    exact type.argumentWidth_bounds.1
  have whole : ((arguments.take (index + more + 1)).map JavaType.argumentWidth).sum ≤
      (arguments.take (index + more + 1)).length * 2 := by
    rw [← List.length_map JavaType.argumentWidth]
    refine List.sum_le_card_nsmul _ 2 fun width member => ?_
    obtain ⟨type, -, rfl⟩ := List.mem_map.mp member
    exact type.argumentWidth_bounds.2
  have split : arguments.take (index + more + 1) =
      arguments.take index ++ (arguments.drop index).take (more + 1) := by
    rw [Nat.add_assoc, List.take_add]
  rw [List.length_take, List.length_drop] at between
  rw [List.length_take] at whole
  unfold argumentSlot
  rw [split, List.map_append, List.sum_append] at whole ⊢
  omega

namespace Prototype

variable {source : PrototypeSource} {prototype : Prototype}

theorem firstSlot_le_three (prototype : Prototype) : prototype.firstSlot ≤ 3 := by
  unfold firstSlot
  split <;> split <;> decide

/-- No argument that a call passes is `void`. -/
theorem ne_void_of_mem_effectiveArguments (made : Prototype.ofSource source = .ok prototype) :
    ∀ argument ∈ prototype.effectiveArguments, argument ≠ .primitive .void := by
  cases makes_of_ofSource made with
  | alone preferred read unmet => exact MethodSignature.ne_void_of_mem_arguments read
  | compared signature descriptor outcome compares read readDescriptor meets =>
    have described := MethodSignature.ne_void_of_mem_arguments readDescriptor
    cases meets with
    | agreeing counts => exact MethodSignature.ne_void_of_mem_arguments read
    | patched first behind =>
      intro argument inside
      rcases List.mem_cons.mp inside with rfl | signed
      · exact described argument (by rw [behind]; exact List.mem_cons_self)
      · exact MethodSignature.ne_void_of_mem_arguments read argument signed
    | apart counts unlike => exact described

/-- The slot of a parameter. -/
def slotOf (prototype : Prototype) (index : Nat) : Nat :=
  argumentSlot prototype.firstSlot prototype.effectiveArguments index

theorem parameterNames_of_ofSource (made : Prototype.ofSource source = .ok prototype)
    (namer : Namer) :
    prototype.parameterNames namer =
      (List.range prototype.effectiveArguments.length).map fun index =>
        namer (prototype.slotOf index) index := by
  have widths : prototype.effectiveArguments.map JavaType.slotWidth =
      prototype.effectiveArguments.map JavaType.argumentWidth :=
    List.map_congr_left fun argument inside =>
      slotWidth_eq_argumentWidth (ne_void_of_mem_effectiveArguments made argument inside)
  have fresh : prototype.computedNames = none := by
    obtain ⟨outcome, -, rfl⟩ := ofSource_eq_ok.mp made
    rfl
  rw [parameterNames, fresh]
  exact namesBy_of_widths widths namer

theorem slotOf_injective (few : prototype.effectiveArguments.length ≤ 30000) {index later : Nat}
    (inside : index < prototype.effectiveArguments.length)
    (insideToo : later < prototype.effectiveArguments.length)
    (same : prototype.slotOf index = prototype.slotOf later) : index = later := by
  have first := prototype.firstSlot_le_three
  rcases Nat.lt_trichotomy index later with before | equal | behind
  · exact absurd same (Nat.ne_of_lt (argumentSlot_lt before (by omega) (by omega)))
  · exact equal
  · exact absurd same.symm (Nat.ne_of_lt (argumentSlot_lt behind (by omega) (by omega)))

/-! ### Names of both kinds -/

/-- Whether a table calls one parameter by the position of another one for which it has no
row. -/
def ClashesWith (prototype : Prototype) (rows : List LocalVariable) : Prop :=
  ∃ unnamed < prototype.effectiveArguments.length,
    (∀ row ∈ rows, ¬ row.NamesSlot (prototype.slotOf unnamed)) ∧
    ∃ named < prototype.effectiveArguments.length,
      ∃ row ∈ rows, row.NamesSlot (prototype.slotOf named) ∧
        row.name = "arg" ++ toString unnamed

variable {rows : List LocalVariable}

/-- A name from the table and one by position are the same only in a clash. -/
theorem clashesWith_of_same {unnamed named : Nat} {name : String}
    (inside : unnamed < prototype.effectiveArguments.length)
    (insideToo : named < prototype.effectiveArguments.length)
    (free : Namer.nameOfSlot? rows (prototype.slotOf unnamed) = none)
    (taken : Namer.nameOfSlot? rows (prototype.slotOf named) = some name)
    (same : name = Namer.byPosition (prototype.slotOf unnamed) unnamed) :
    prototype.ClashesWith rows := by
  obtain ⟨row, member, names, rfl⟩ := Namer.exists_row_of_nameOfSlot? taken
  exact ⟨unnamed, inside, Namer.nameOfSlot?_eq_none_iff.mp free, named, insideToo, row, member,
    names, same⟩

/-- A table that tells slots apart gives no two of up to thirty thousand parameters the same
name, unless it calls one of them by the position of another one for which it has no row. -/
theorem parameterNames_nodup_iff (made : Prototype.ofSource source = .ok prototype)
    (few : prototype.effectiveArguments.length ≤ 30000) (apart : TellsSlotsApart rows) :
    (prototype.parameterNames (.ofTable rows)).Nodup ↔ ¬ prototype.ClashesWith rows := by
  rw [parameterNames_of_ofSource made, List.nodup_map_iff_inj_on List.nodup_range]
  simp only [List.mem_range, Namer.ofTable]
  constructor
  · rintro distinct ⟨unnamed, inside, free, named, insideToo, row, member, names, called⟩
    have taken := Namer.nameOfSlot?_of_row apart member names
    have missing := Namer.nameOfSlot?_eq_none_iff.mpr free
    have same : named = unnamed := by
      refine distinct named insideToo unnamed inside ?_
      rw [taken, missing]
      exact called
    rw [← same, taken] at missing
    cases missing
  · intro clear index inside later insideToo same
    cases named : Namer.nameOfSlot? rows (prototype.slotOf index) with
    | none =>
      cases namedToo : Namer.nameOfSlot? rows (prototype.slotOf later) with
      | none =>
        rw [named, namedToo] at same
        exact Namer.byPosition_injective (prototype.slotOf index) (prototype.slotOf later) same
      | some name =>
        rw [named, namedToo] at same
        exact absurd (clashesWith_of_same inside insideToo named namedToo same.symm) clear
    | some name =>
      cases namedToo : Namer.nameOfSlot? rows (prototype.slotOf later) with
      | none =>
        rw [named, namedToo] at same
        exact absurd (clashesWith_of_same insideToo inside namedToo named same) clear
      | some other =>
        rw [named, namedToo] at same
        have equal : name = other := same
        refine slotOf_injective few inside insideToo ?_
        exact Namer.slot_eq_of_nameOfSlot? apart named (equal ▸ namedToo)

end Prototype

/-- A method with a wide parameter in front of others. -/
def tableSource : PrototypeSource where
  name := "f"
  owner := ⟨"p/A"⟩
  ownerIsInner := false
  flags := .ofBits 0
  kind := .notConstructor
  descriptor := "(JII)V"
  signature := none

def tablePrototype : Prototype where
  name := "f"
  owner := ⟨"p/A"⟩
  signature := ⟨[], [.primitive .long, .primitive .int, .primitive .int], .primitive .void, []⟩
  fallback := none
  isInstance := true
  isVarargs := false
  isSynthetic := false
  kind := .notConstructor
  computedNames := none

/-- A table with a row that cannot be used, and one that is called like a first parameter. -/
def mixedRows : List LocalVariable :=
  [⟨0, 9, "count", "J", 1⟩, ⟨0, 9, "0bad", "I", 3⟩, ⟨0, 9, "arg0", "I", 4⟩]

theorem parameterNames_nodup_iff_mixed :
    Prototype.ofSource tableSource = .ok tablePrototype ∧
    tablePrototype.effectiveArguments.length ≤ 30000 ∧ TellsSlotsApart mixedRows ∧
    tablePrototype.parameterNames (.ofTable mixedRows) = ["count", "arg1", "arg0"] ∧
    (tablePrototype.parameterNames (.ofTable mixedRows)).Nodup := by
  have made : Prototype.ofSource tableSource = .ok tablePrototype := by cbv
  have few : tablePrototype.effectiveArguments.length ≤ 30000 := by decide
  have apart : TellsSlotsApart mixedRows := by
    intro first inside second insideToo _ _
    revert first second
    decide
  have named : tablePrototype.parameterNames (.ofTable mixedRows) = ["count", "arg1", "arg0"] := by
    cbv
  refine ⟨made, few, apart, named, (Prototype.parameterNames_nodup_iff made few apart).mpr ?_⟩
  rintro ⟨unnamed, inside, free, -, -, row, member, -, called⟩
  -- Only the first parameter could be meant, and that has a row.
  have taken : LocalVariable.NamesSlot ⟨0, 9, "count", "J", 1⟩ (tablePrototype.slotOf 0) :=
    ⟨by cbv, rfl⟩
  have other : unnamed ≠ 0 := by
    rintro rfl
    exact free _ List.mem_cons_self taken
  have below : unnamed < 3 := inside
  revert row
  interval_cases unnamed
  · exact absurd rfl other
  · decide
  · decide

/-- A row for one parameter, which is called by the position of the next. -/
def clashingRows : List LocalVariable := [⟨0, 9, "arg1", "J", 1⟩]

/-- Parameters come to have one name although no two rows have. -/
theorem parameterNames_clashing :
    Prototype.ofSource tableSource = .ok tablePrototype ∧
    tablePrototype.effectiveArguments.length ≤ 30000 ∧
    (∀ first ∈ clashingRows, ∀ second ∈ clashingRows,
      first.name = second.name ↔ first.slot = second.slot) ∧
    tablePrototype.parameterNames (.ofTable clashingRows) = ["arg1", "arg1", "arg2"] ∧
    ¬ (tablePrototype.parameterNames (.ofTable clashingRows)).Nodup := by
  have named : tablePrototype.parameterNames (.ofTable clashingRows) = ["arg1", "arg1", "arg2"] := by
    cbv
  refine ⟨by cbv, by decide, by decide, named, ?_⟩
  rw [named]
  decide

end ClassMembers
