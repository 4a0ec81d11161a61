/-
This file proves what the walk from a class to the classes around it finds. The walk has a
limit and tells nothing else than whether it met a given class, so it is compared with the
chain of classes itself: the class that a number of steps outwards lead to, if there are so
many. Chains may be cyclic, and may lead to any class whatever; but where a class and the
one around it are of one package, all classes of a chain are.
-/

import ClassMembers.Visibility

namespace ClassMembers.TypeBindings

variable {bindings : TypeBindings} {inner outer : ClassName}

/-! ### The chain of classes -/

/-- The class that a number of steps outwards lead to. -/
def around (bindings : TypeBindings) : Nat → ClassName → Option ClassName
  | 0, name => some name
  | steps + 1, name => (bindings.outerClass name).bind (bindings.around steps)

/-- Whether a class lies inside another one, at most as deep as classes are followed. -/
def LiesInside (bindings : TypeBindings) (inner outer : ClassName) : Prop :=
  ∃ steps, 1 ≤ steps ∧ steps ≤ maxNestingDepth ∧ bindings.around steps inner = some outer

/-- A walk meets a class exactly if less steps than its limit lead there. -/
theorem chainMeets_iff {limit : Nat} {start : Option ClassName} :
    bindings.chainMeets outer limit start = true ↔
      ∃ steps < limit, start.bind (bindings.around steps) = some outer := by
  induction limit generalizing start with
  | zero => simp [chainMeets]
  | succ limit hypothesis =>
    cases start with
    | none => simp [chainMeets]
    | some current =>
      rw [chainMeets, Bool.or_eq_true, decide_eq_true_iff, hypothesis]
      constructor
      · rintro (here | ⟨steps, below, found⟩)
        · exact ⟨0, Nat.zero_lt_succ limit, congrArg some here⟩
        · exact ⟨steps + 1, Nat.succ_lt_succ below, found⟩
      · rintro ⟨steps, below, found⟩
        cases steps with
        | zero => exact .inl (Option.some.inj found)
        | succ steps => exact .inr ⟨steps, Nat.lt_of_succ_lt_succ below, found⟩

/-- The first step is taken before the walk begins. -/
theorem isInside_iff : bindings.isInside inner outer = true ↔ bindings.LiesInside inner outer := by
  rw [isInside, chainMeets_iff]
  constructor
  · rintro ⟨steps, below, found⟩
    exact ⟨steps + 1, Nat.le_add_left 1 steps, below, found⟩
  · rintro ⟨steps, positive, within, found⟩
    obtain ⟨before, rfl⟩ := Nat.exists_eq_add_of_le' positive
    exact ⟨before, within, found⟩

/-- Whether one of two classes lies inside the other. -/
def Nested (bindings : TypeBindings) (first second : ClassName) : Prop :=
  bindings.LiesInside first second ∨ bindings.LiesInside second first

theorem areNested_iff {declaring caller : ClassName} :
    bindings.areNested declaring caller = true ↔ bindings.Nested caller declaring := by
  rw [areNested, Bool.or_eq_true, isInside_iff, isInside_iff, Nested]

theorem Nested.symm {first second : ClassName} (nested : bindings.Nested first second) :
    bindings.Nested second first := Or.symm nested

/-! ### Packages along a chain -/

/-- Whether each nested class is of the package of the class around it. -/
def NestsInPackages (bindings : TypeBindings) : Prop :=
  ∀ inner outer, bindings.outerClass inner = some outer → inner.packageName = outer.packageName

theorem packageName_around (nests : bindings.NestsInPackages) {steps : Nat}
    (found : bindings.around steps inner = some outer) :
    inner.packageName = outer.packageName := by
  induction steps generalizing inner with
  | zero => rw [Option.some.inj found]
  | succ steps hypothesis =>
    obtain ⟨middle, first, behind⟩ := Option.bind_eq_some_iff.mp found
    rw [nests inner middle first, hypothesis behind]

theorem LiesInside.packageName_eq (nests : bindings.NestsInPackages)
    (inside : bindings.LiesInside inner outer) : inner.packageName = outer.packageName := by
  obtain ⟨_, _, _, found⟩ := inside
  exact packageName_around nests found

theorem Nested.packageName_eq (nests : bindings.NestsInPackages) {first second : ClassName}
    (nested : bindings.Nested first second) : first.packageName = second.packageName := by
  rcases nested with inside | around
  · exact inside.packageName_eq nests
  · exact (around.packageName_eq nests).symm

end ClassMembers.TypeBindings
