/-
This file proves how the levels of access relate. A method is private, of its package,
protected or public, as at most one of three flags says, and each level lets in its own
classes: the classes nested with its own, those of the package, the heirs besides, or all.
The levels are tried one behind the other, and a private method that is not seen is not
looked for in the package, while a protected one is. So that more access never shows less
is a fact of its own, and it rests on nested classes being of the package of the classes
around them.
-/

import ClassMembers.Proofs.Visibility.Nesting

namespace ClassMembers

/-! ### Heirs -/

/-- Whether the supertypes of a class are known and hold another one. -/
def TypeBindings.Inherits (bindings : TypeBindings) (caller declaring : ClassName) : Prop :=
  ∃ supertypes, bindings.supertypes caller = some supertypes ∧ declaring ∈ supertypes

theorem TypeBindings.inherits_iff {bindings : TypeBindings} {caller declaring : ClassName} :
    bindings.inherits caller declaring = true ↔ bindings.Inherits caller declaring := by
  unfold TypeBindings.inherits TypeBindings.Inherits
  cases bindings.supertypes caller <;> simp

/-! ### Levels -/

/-- The levels of access to a method. -/
inductive AccessLevel where
  | isPrivate
  | isPackage
  | isProtected
  | isPublic
  deriving DecidableEq

namespace AccessLevel

/-- The place of a level among all of them, the narrowest first. -/
def rank : AccessLevel → Nat
  | isPrivate => 0
  | isPackage => 1
  | isProtected => 2
  | isPublic => 3

instance : LE AccessLevel := ⟨fun first second => first.rank ≤ second.rank⟩

instance (first second : AccessLevel) : Decidable (first ≤ second) :=
  inferInstanceAs (Decidable (first.rank ≤ second.rank))

/-- The flag of a level. Access by the package has none. -/
def bits : AccessLevel → UInt32
  | isPrivate => Flag.isPrivate
  | isPackage => 0
  | isProtected => Flag.isProtected
  | isPublic => Flag.isPublic

/-- Whether a level lets a class see a method of another one. -/
def Grants (bindings : TypeBindings) (declaring caller : ClassName) : AccessLevel → Prop
  | isPrivate => caller = declaring ∨ bindings.Nested caller declaring
  | isPackage => caller.packageName = declaring.packageName
  | isProtected => bindings.Inherits caller declaring ∨ bindings.Nested caller declaring ∨
      caller.packageName = declaring.packageName
  | isPublic => True

variable {bindings : TypeBindings} {declaring caller : ClassName}

theorem Grants.packageName_eq (nests : bindings.NestsInPackages)
    (granted : isPrivate.Grants bindings declaring caller) :
    caller.packageName = declaring.packageName := by
  rcases granted with same | nested
  · rw [same]
  · exact nested.packageName_eq nests

/-- A wider level lets in the classes of every narrower one. -/
theorem Grants.mono (nests : bindings.NestsInPackages) {level wider : AccessLevel}
    (widens : level ≤ wider) (granted : level.Grants bindings declaring caller) :
    wider.Grants bindings declaring caller := by
  cases wider with
  | isPublic => trivial
  | isPrivate =>
    cases level with
    | isPrivate => exact granted
    | _ => exact absurd widens (by decide)
  | isPackage =>
    cases level with
    | isPrivate => exact granted.packageName_eq nests
    | isPackage => exact granted
    | _ => exact absurd widens (by decide)
  | isProtected =>
    cases level with
    | isPrivate => exact .inr (.inr (granted.packageName_eq nests))
    | isPackage => exact .inr (.inr granted)
    | isProtected => exact granted
    | isPublic => exact absurd widens (by decide)

/-- The two narrow levels do not tell the classes apart. -/
theorem Grants.symm {level : AccessLevel} (narrow : level ≤ isPackage)
    (granted : level.Grants bindings declaring caller) :
    level.Grants bindings caller declaring := by
  cases level with
  | isPrivate => exact granted.imp Eq.symm TypeBindings.Nested.symm
  | isPackage => exact Eq.symm granted
  | _ => exact absurd narrow (by decide)

end AccessLevel

/-! ### The flags of a method -/

/-- The flags that say who can see a method. -/
def Flag.access : UInt32 := Flag.isPublic ||| Flag.isPrivate ||| Flag.isProtected

namespace MethodFlags

/-- Whether flags are those of a level: of the flags for access, the flag of the level is
set, if it has one, and no other. All other flags are free. -/
def IsAt (flags : MethodFlags) (level : AccessLevel) : Prop :=
  flags.bits &&& Flag.access = level.bits

variable {flags : MethodFlags} {level : AccessLevel} {bindings : TypeBindings}
  {declaring caller : ClassName}

theorem contains_of_isAt (atLevel : IsAt flags level) {flag : UInt32} {answer : Bool}
    (within : Flag.access &&& flag = flag)
    (answers : decide (level.bits &&& flag = flag) = answer) : flags.contains flag = answer := by
  rw [FlagSet.contains, ← answers, ← atLevel, UInt32.and_assoc, within]

/-- A class can see a method exactly if the level of the method lets it. -/
theorem visibleTo_iff (atLevel : IsAt flags level) :
    visibleTo flags bindings declaring caller = true ↔
      level.Grants bindings declaring caller := by
  have contains {flag : UInt32} (answer : Bool) (within : Flag.access &&& flag = flag)
      (answers : decide (level.bits &&& flag = flag) = answer) : flags.contains flag = answer :=
    contains_of_isAt atLevel within answers
  cases level with
  | isPublic =>
    rw [visibleTo, contains true rfl rfl, AccessLevel.Grants]
    simp
  | isPrivate =>
    rw [visibleTo, contains false rfl rfl, contains true rfl rfl, AccessLevel.Grants,
      ← TypeBindings.areNested_iff]
    by_cases same : caller = declaring <;> simp [same]
  | isPackage =>
    rw [visibleTo, contains false rfl rfl, contains false rfl rfl, contains false rfl rfl,
      AccessLevel.Grants]
    by_cases same : caller = declaring <;> simp [same]
  | isProtected =>
    rw [visibleTo, contains false rfl rfl, contains false rfl rfl, contains true rfl rfl,
      AccessLevel.Grants, ← TypeBindings.inherits_iff, ← TypeBindings.areNested_iff]
    by_cases same : caller = declaring <;> simp [same, or_assoc]

end MethodFlags

/-! ### Methods seen from classes -/

/-- More access never shows less, and the flags that are not for access do not matter: a class
that can see a method can see every method of the same class at a wider level, a public one in
any case. At the two narrow levels classes see each other or neither sees the other. A private
method is seen exactly from its own class and the classes nested with it, and a protected one
of another package, outside of the nest, exactly from its known heirs. -/
theorem access_is_ordered {bindings : TypeBindings} (nests : bindings.NestsInPackages)
    (declaring caller : ClassName) :
    (∀ (level wider : AccessLevel) (flags others : MethodFlags), level ≤ wider →
      flags.IsAt level → others.IsAt wider → flags.visibleTo bindings declaring caller = true →
        others.visibleTo bindings declaring caller = true) ∧
    (∀ flags : MethodFlags, flags.IsAt .isPublic →
      flags.visibleTo bindings declaring caller = true) ∧
    (∀ (level : AccessLevel) (flags : MethodFlags), level ≤ .isPackage → flags.IsAt level →
      flags.visibleTo bindings declaring caller = flags.visibleTo bindings caller declaring) ∧
    (∀ flags : MethodFlags, flags.IsAt .isPrivate →
      (flags.visibleTo bindings declaring caller = true ↔
        caller = declaring ∨ bindings.Nested caller declaring)) ∧
    (∀ flags : MethodFlags, flags.IsAt .isProtected →
      caller.packageName ≠ declaring.packageName → ¬ bindings.Nested caller declaring →
      (flags.visibleTo bindings declaring caller = true ↔
        bindings.Inherits caller declaring)) := by
  refine ⟨?_, ?_, ?_, ?_, ?_⟩
  · intro level wider flags others widens atLevel atWider seen
    rw [MethodFlags.visibleTo_iff atWider]
    exact ((MethodFlags.visibleTo_iff atLevel).mp seen).mono nests widens
  · intro flags atPublic
    exact (MethodFlags.visibleTo_iff atPublic).mpr trivial
  · intro level flags narrow atLevel
    rw [Bool.eq_iff_iff, MethodFlags.visibleTo_iff atLevel, MethodFlags.visibleTo_iff atLevel]
    exact ⟨.symm narrow, .symm narrow⟩
  · intro flags atPrivate
    exact MethodFlags.visibleTo_iff atPrivate
  · intro flags atProtected elsewhere apart
    rw [MethodFlags.visibleTo_iff atProtected]
    constructor
    · rintro (inherits | nested | near)
      · exact inherits
      · exact absurd nested apart
      · exact absurd near elsewhere
    · exact .inl

/-- A class with a class nested two deep, and an heir in another package. -/
def familyBindings : TypeBindings where
  supertypes name := if name = ⟨"q/Heir"⟩ then some [⟨"p/Base"⟩, .object] else none
  outerClass name :=
    if name = ⟨"p/Base$In$Deep"⟩ then some ⟨"p/Base$In"⟩
    else if name = ⟨"p/Base$In"⟩ then some ⟨"p/Base"⟩
    else none

theorem access_is_ordered_family :
    familyBindings.NestsInPackages ∧
    MethodFlags.IsAt (.ofBits 0x0012) .isPrivate ∧ MethodFlags.IsAt (.ofBits 0x0008) .isPackage ∧
    MethodFlags.IsAt (.ofBits 0x0004) .isProtected ∧
    familyBindings.Nested ⟨"p/Base$In$Deep"⟩ ⟨"p/Base"⟩ ∧
    ¬ familyBindings.Nested ⟨"q/Heir"⟩ ⟨"p/Base"⟩ ∧
    MethodFlags.visibleTo (.ofBits 0x0012) familyBindings ⟨"p/Base"⟩ ⟨"p/Base$In$Deep"⟩ = true ∧
    MethodFlags.visibleTo (.ofBits 0x0008) familyBindings ⟨"p/Base"⟩ ⟨"p/Base$In$Deep"⟩ = true ∧
    MethodFlags.visibleTo (.ofBits 0x0012) familyBindings ⟨"p/Base$In$Deep"⟩ ⟨"p/Base"⟩ = true ∧
    MethodFlags.visibleTo (.ofBits 0x0004) familyBindings ⟨"p/Base"⟩ ⟨"q/Heir"⟩ = true := by
  have nests : familyBindings.NestsInPackages := by
    intro inner outer found
    simp only [familyBindings] at found
    split at found
    · rename_i same
      rw [same, ← Option.some.inj found]
      cbv
    · split at found
      · rename_i same
        rw [same, ← Option.some.inj found]
        cbv
      · cases found
  have isPrivate : MethodFlags.IsAt (.ofBits 0x0012) .isPrivate := rfl
  have isPackage : MethodFlags.IsAt (.ofBits 0x0008) .isPackage := rfl
  have isProtected : MethodFlags.IsAt (.ofBits 0x0004) .isProtected := rfl
  have deep : familyBindings.Nested ⟨"p/Base$In$Deep"⟩ ⟨"p/Base"⟩ :=
    .inl ⟨2, by decide, by decide, by cbv⟩
  have apart : ¬ familyBindings.Nested ⟨"q/Heir"⟩ ⟨"p/Base"⟩ := by
    have outside : familyBindings.areNested ⟨"p/Base"⟩ ⟨"q/Heir"⟩ = false := by cbv
    rw [← TypeBindings.areNested_iff, outside]
    exact Bool.false_ne_true
  obtain ⟨widens, -, mirrored, nested, -⟩ :=
    access_is_ordered nests ⟨"p/Base"⟩ ⟨"p/Base$In$Deep"⟩
  obtain ⟨-, -, -, -, inherited⟩ := access_is_ordered nests ⟨"p/Base"⟩ ⟨"q/Heir"⟩
  have seen := (nested _ isPrivate).mpr (.inr deep)
  refine ⟨nests, isPrivate, isPackage, isProtected, deep, apart, seen, ?_, ?_, ?_⟩
  · exact widens _ _ _ _ (by decide) isPrivate isPackage seen
  · rw [← mirrored _ _ (by decide) isPrivate]
    exact seen
  · exact (inherited _ isProtected (by cbv) apart).mpr ⟨_, rfl, by decide⟩

end ClassMembers
