/-
This file proves that the walk over the classes around a class is reachability, as far as the
walk goes. It finds the classes that at least one step and no more than its limit lead to,
also on a chain that comes back to itself. So it finds all that can be reached exactly if on
every chain the step behind the limit leads nowhere, or to a class that was met before: from
there on a chain only repeats itself. If moreover no class lies inside itself, the classes are
ordered strictly by lying inside each other.
-/

import ClassMembers.Proofs.Visibility.Nesting
import Mathlib.Logic.Relation

namespace ClassMembers.TypeBindings

variable {bindings : TypeBindings} {inner outer : ClassName}

/-! ### Steps along a chain -/

/-- Whether a class lies in another one with no class in between. -/
def DirectlyInside (bindings : TypeBindings) (inner outer : ClassName) : Prop :=
  bindings.outerClass inner = some outer

theorem around_one (bindings : TypeBindings) (name : ClassName) :
    bindings.around 1 name = bindings.outerClass name := by
  show (bindings.outerClass name).bind some = _
  exact Option.bind_fun_some _

theorem around_add (bindings : TypeBindings) (steps more : Nat) (name : ClassName) :
    bindings.around (steps + more) name =
      (bindings.around steps name).bind (bindings.around more) := by
  induction steps generalizing name with
  | zero => rw [Nat.zero_add]; rfl
  | succ steps hypothesis =>
    rw [Nat.succ_add, around, around, Option.bind_assoc, funext hypothesis]

/-- The classes that can be reached are those of the chain behind its beginning. -/
theorem transGen_iff :
    Relation.TransGen bindings.DirectlyInside inner outer ↔
      ∃ steps, 1 ≤ steps ∧ bindings.around steps inner = some outer := by
  constructor
  · intro reached
    induction reached with
    | single direct => exact ⟨1, Nat.le_refl 1, (bindings.around_one inner).trans direct⟩
    | tail _ direct hypothesis =>
      obtain ⟨steps, positive, found⟩ := hypothesis
      refine ⟨steps + 1, Nat.le_add_left 1 steps, ?_⟩
      rw [around_add, found, Option.bind_some, around_one]
      exact direct
  · rintro ⟨steps, positive, found⟩
    obtain ⟨before, rfl⟩ := Nat.exists_eq_add_of_le' positive
    clear positive
    induction before generalizing outer with
    | zero => exact .single ((bindings.around_one inner).symm.trans found)
    | succ before hypothesis =>
      rw [around_add] at found
      obtain ⟨middle, met, last⟩ := Option.bind_eq_some_iff.mp found
      exact (hypothesis met).tail ((bindings.around_one middle).symm.trans last)

/-! ### Chains that come to an end or back -/

/-- Whether the chain of a class has at most a number of steps to classes that are new: the
step behind them leads nowhere, or to a class that one of them led to. -/
def ChainWithin (bindings : TypeBindings) (limit : Nat) (inner : ClassName) : Prop :=
  ∀ next, bindings.around (limit + 1) inner = some next →
    ∃ steps, 1 ≤ steps ∧ steps ≤ limit ∧ bindings.around steps inner = some next

/-- A class that a chain leads to at all is met before the chain repeats itself. -/
theorem ChainWithin.exists_steps {limit : Nat} (bounded : bindings.ChainWithin limit inner)
    {steps : Nat} (positive : 1 ≤ steps) (found : bindings.around steps inner = some outer) :
    ∃ fewer, 1 ≤ fewer ∧ fewer ≤ limit ∧ bindings.around fewer inner = some outer := by
  induction steps using Nat.strongRecOn with
  | _ steps hypothesis =>
    by_cases within : steps ≤ limit
    · exact ⟨steps, positive, within, found⟩
    · -- The step behind the limit can be left out with all that lies in between.
      obtain ⟨more, rfl⟩ := Nat.exists_eq_add_of_le (Nat.lt_of_not_le within)
      rw [around_add] at found
      obtain ⟨next, met, behind⟩ := Option.bind_eq_some_iff.mp found
      obtain ⟨earlier, first, early, again⟩ := bounded next met
      refine hypothesis (earlier + more) (by omega) (by omega) ?_
      rw [around_add, again]
      exact behind

/-! ### The walk -/

theorem transGen_of_isInside (inside : bindings.isInside inner outer = true) :
    Relation.TransGen bindings.DirectlyInside inner outer := by
  obtain ⟨steps, positive, -, found⟩ := isInside_iff.mp inside
  exact transGen_iff.mpr ⟨steps, positive, found⟩

theorem isInside_iff_transGen (bounded : bindings.ChainWithin maxNestingDepth inner) :
    bindings.isInside inner outer = true ↔
      Relation.TransGen bindings.DirectlyInside inner outer := by
  refine ⟨transGen_of_isInside, fun reached => isInside_iff.mpr ?_⟩
  obtain ⟨steps, positive, found⟩ := transGen_iff.mp reached
  exact bounded.exists_steps positive found

/-- A class lies inside another one, by the walk, exactly if from one to sixty-four steps
outwards lead there. This is the transitive closure of the single steps exactly if no chain
comes to a new class behind so many steps; and then, if no class can be reached from itself,
no class lies inside itself, of two classes only one lies inside the other, and what lies
inside of a class lies inside of all that this one lies in. -/
theorem isInside_is_reachability (bindings : TypeBindings) :
    (∀ inner outer, bindings.isInside inner outer = true ↔
      ∃ steps, 1 ≤ steps ∧ steps ≤ 64 ∧ bindings.around steps inner = some outer) ∧
    ((∀ inner outer, bindings.isInside inner outer = true ↔
        Relation.TransGen bindings.DirectlyInside inner outer) ↔
      ∀ inner, bindings.ChainWithin 64 inner) ∧
    ((∀ inner, bindings.ChainWithin 64 inner) →
      (∀ name, ¬ Relation.TransGen bindings.DirectlyInside name name) →
      (∀ name, bindings.isInside name name = false) ∧
      (∀ first second, bindings.isInside first second = true →
        bindings.isInside second first = false) ∧
      ∀ first second third, bindings.isInside first second = true →
        bindings.isInside second third = true → bindings.isInside first third = true) := by
  refine ⟨fun inner outer => isInside_iff, ⟨fun closure inner next met => ?_,
    fun bounded inner outer => isInside_iff_transGen (bounded inner)⟩,
    fun bounded acyclic => ⟨fun name => ?_, fun first second inside => ?_, ?_⟩⟩
  · have reached := transGen_iff.mpr ⟨65, by decide, met⟩
    exact isInside_iff.mp ((closure inner next).mpr reached)
  · exact Bool.eq_false_iff.mpr fun inside => acyclic name (transGen_of_isInside inside)
  · refine Bool.eq_false_iff.mpr fun back => acyclic first ?_
    exact (transGen_of_isInside inside).trans (transGen_of_isInside back)
  · intro first second third inside outside
    refine (isInside_iff_transGen (bounded first)).mpr ?_
    exact (transGen_of_isInside inside).trans (transGen_of_isInside outside)

/-! ### A chain as long as the walk -/

/-- Classes that are nested as deep as the walk goes: a name of at most so many characters
lies in the name behind its first character. -/
def deepBindings : TypeBindings where
  supertypes _ := none
  outerClass name :=
    match name.internal.toList with
    | [] => none
    | _ :: rest => if rest.length < 64 then some ⟨String.ofList rest⟩ else none

theorem length_of_directlyInside (direct : deepBindings.DirectlyInside inner outer) :
    inner.internal.toList.length = outer.internal.toList.length + 1 ∧
      inner.internal.toList.length ≤ 64 := by
  unfold DirectlyInside deepBindings at direct
  dsimp only at direct
  split at direct
  · cases direct
  · rename_i rest named
    split at direct
    · rename_i short
      rw [← Option.some.inj direct, named, String.toList_ofList, List.length_cons]
      exact ⟨rfl, short⟩
    · cases direct

theorem length_of_transGen (reached : Relation.TransGen deepBindings.DirectlyInside inner outer) :
    outer.internal.toList.length < inner.internal.toList.length := by
  induction reached with
  | single direct =>
    obtain ⟨longer, -⟩ := length_of_directlyInside direct
    omega
  | tail _ direct hypothesis =>
    obtain ⟨longer, -⟩ := length_of_directlyInside direct
    omega

theorem length_of_around {steps : Nat} (found : deepBindings.around (steps + 1) inner = some outer) :
    steps < 64 := by
  suffices counted : inner.internal.toList.length =
      outer.internal.toList.length + (steps + 1) ∧ inner.internal.toList.length ≤ 64 by omega
  induction steps generalizing inner with
  | zero =>
    exact length_of_directlyInside ((deepBindings.around_one inner).symm.trans found)
  | succ steps hypothesis =>
    obtain ⟨middle, direct, behind⟩ := Option.bind_eq_some_iff.mp found
    obtain ⟨longer, short⟩ := length_of_directlyInside direct
    obtain ⟨counted, -⟩ := hypothesis behind
    exact ⟨by omega, short⟩

theorem around_of_append (front rest : List Char) (short : (front ++ rest).length ≤ 64) :
    deepBindings.around front.length ⟨String.ofList (front ++ rest)⟩ =
      some ⟨String.ofList rest⟩ := by
  induction front with
  | nil => rfl
  | cons first front hypothesis =>
    have direct : deepBindings.outerClass ⟨String.ofList (first :: (front ++ rest))⟩ =
        some ⟨String.ofList (front ++ rest)⟩ := by
      simp only [deepBindings, String.toList_ofList]
      exact if_pos short
    rw [List.length_cons, around, List.cons_append, direct, Option.bind_some]
    exact hypothesis (Nat.le_of_succ_le short)

theorem isInside_is_reachability_deep :
    (∀ inner, deepBindings.ChainWithin 64 inner) ∧
    (∀ name, ¬ Relation.TransGen deepBindings.DirectlyInside name name) ∧
    deepBindings.isInside ⟨String.ofList (List.replicate 64 'n')⟩ ⟨""⟩ = true ∧
    deepBindings.isInside ⟨""⟩ ⟨String.ofList (List.replicate 64 'n')⟩ = false := by
  obtain ⟨reaches, -, orders⟩ := isInside_is_reachability deepBindings
  have bounded : ∀ inner, deepBindings.ChainWithin 64 inner :=
    fun inner next met => absurd (length_of_around met) (by decide)
  have acyclic : ∀ name, ¬ Relation.TransGen deepBindings.DirectlyInside name name :=
    fun name reached => Nat.lt_irrefl _ (length_of_transGen reached)
  obtain ⟨-, asymmetric, -⟩ := orders bounded acyclic
  have inside : deepBindings.isInside ⟨String.ofList (List.replicate 64 'n')⟩ ⟨""⟩ = true :=
    (reaches _ _).mpr ⟨64, by decide, by decide,
      around_of_append (List.replicate 64 'n') [] (by decide)⟩
  exact ⟨bounded, acyclic, inside, asymmetric _ _ inside⟩

end ClassMembers.TypeBindings
