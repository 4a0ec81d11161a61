/-
This file proves what erasure makes of a type. Nothing generic is left, so what is
erased already stays as it is, and a value takes as many slots as before. The last
holds only where variables are bounded by references, for a variable takes one slot
whatever it stands for. The grammar admits no other bounds, and no `void` among the
arguments of a method, so it holds of every signature that was read.
-/

import ClassMembers.Proofs.Signature.Acceptance

namespace ClassMembers

namespace JavaType

/-! ### What is generic, and what is a reference -/

/-- Whether a type holds no class with arguments and no variable at any depth. -/
def isErased : JavaType → Bool
  | primitive _ | ofClass _ => true
  | parameterized _ | typeVariable _ => false
  | array component => component.isErased

/-- Whether the values of a type are references. -/
def isReference : JavaType → Bool
  | primitive _ => false
  | _ => true

theorem slotWidth_of_isReference {type : JavaType} (reference : type.isReference = true) :
    type.slotWidth = 1 := by
  cases type with
  | primitive type => cases reference
  | _ => rfl

/-! ### Erasure by what variables erase to -/

section Variables

variable {ofVariable : String → JavaType}

theorem isErased_erasureWith (erased : ∀ name, (ofVariable name).isErased = true) :
    ∀ type : JavaType, (type.erasureWith ofVariable).isErased = true
  | primitive _ => rfl
  | ofClass _ => rfl
  | parameterized _ => rfl
  | typeVariable name => erased name
  | array component => isErased_erasureWith erased component

theorem erasureWith_of_isErased :
    ∀ {type : JavaType}, type.isErased = true → type.erasureWith ofVariable = type
  | primitive _, _ => rfl
  | ofClass _, _ => rfl
  | array _, erased => congrArg array (erasureWith_of_isErased erased)

theorem isReference_erasureWith (references : ∀ name, (ofVariable name).isReference = true)
    (type : JavaType) : (type.erasureWith ofVariable).isReference = type.isReference := by
  cases type with
  | typeVariable name => exact references name
  | _ => rfl

end Variables

/-! ### Erasure by bounds -/

section Bounds

variable {parameters : List TypeParameter}

/-- What holds of the class at the root of all, and passes from the erasures of
variables to those of bounds, holds of the erasures of variables. -/
theorem variableErasure_induction {motive : JavaType → Prop} (root : motive object)
    (passes : ∀ ofVariable : String → JavaType, (∀ name, motive (ofVariable name)) →
      ∀ parameter ∈ parameters, ∀ bound ∈ parameter.bounds, motive (bound.erasureWith ofVariable))
    (steps : Nat) (name : String) : motive (variableErasure parameters steps name) := by
  induction steps generalizing name with
  | zero => exact root
  | succ steps hypothesis =>
    rw [variableErasure]
    cases declared : parameters.find? fun parameter => parameter.name = name with
    | none => exact root
    | some parameter =>
      dsimp only
      cases leftmost : parameter.leftmostBound? with
      | none => exact root
      | some bound =>
        exact passes _ hypothesis parameter (List.mem_of_find?_eq_some declared) bound
          (List.mem_of_head? leftmost)

theorem isErased_erasure (type : JavaType) : (type.erasure parameters).isErased = true :=
  isErased_erasureWith
    (variableErasure_induction (motive := fun type => type.isErased = true) rfl
      (fun _ erased _ _ _ _ => isErased_erasureWith erased _) _) type

theorem erasure_of_isErased {type : JavaType} (erased : type.isErased = true) :
    type.erasure parameters = type :=
  erasureWith_of_isErased erased

/-- Erasure keeps the number of slots, if only references bound variables. -/
theorem slotWidth_erasure
    (references : ∀ parameter ∈ parameters, ∀ bound ∈ parameter.bounds, bound.isReference = true)
    (type : JavaType) : (type.erasure parameters).slotWidth = type.slotWidth := by
  have byBounds : ∀ name,
      (variableErasure parameters parameters.length name).isReference = true :=
    variableErasure_induction (motive := fun type => type.isReference = true) rfl
      (fun _ inner parameter declared bound inside =>
        (isReference_erasureWith inner bound).trans (references parameter declared bound inside)) _
  cases type with
  | typeVariable name => exact slotWidth_of_isReference (byBounds name)
  | _ => rfl

end Bounds

end JavaType

/-! ### Signatures that were read -/

theorem ReferenceTree.isReference_type (tree : ReferenceTree) : tree.type.isReference = true := by
  cases tree with
  | ofClass first rest =>
    rw [ReferenceTree.type, JavaType.ofSegments]
    split
    · rfl
    · rfl
  | _ => rfl

theorem FieldTree.type_ne_void (tree : FieldTree) : tree.type ≠ .primitive .void := by
  intro same
  cases tree with
  | primitive type valued => exact valued (JavaType.primitive.inj same)
  | reference tree =>
    have reference := tree.isReference_type
    rw [← FieldTree.type, same] at reference
    cases reference

namespace MethodSignature

variable {text : String} {signature : MethodSignature}

/-- Bounds that were read are types of references. -/
theorem exists_tree_of_mem_bounds (read : ofSignature text = .ok signature) :
    ∀ parameter ∈ signature.typeParameters, ∀ bound ∈ parameter.bounds,
      ∃ tree : ReferenceTree, tree.type = bound := by
  obtain ⟨tree, -, rfl⟩ := methodSignature_ofSignature_eq_ok.mp read
  intro parameter declared bound inside
  obtain ⟨parameterTree, -, rfl⟩ := List.mem_map.mp declared
  rcases List.mem_append.mp inside with ofClass | ofInterface
  · obtain ⟨boundTree, -, rfl⟩ := Option.map_eq_some_iff.mp (Option.mem_toList.mp ofClass)
    exact ⟨boundTree, rfl⟩
  · obtain ⟨boundTree, -, rfl⟩ := List.mem_map.mp ofInterface
    exact ⟨boundTree, rfl⟩

theorem isReference_of_mem_bounds (read : ofSignature text = .ok signature) :
    ∀ parameter ∈ signature.typeParameters, ∀ bound ∈ parameter.bounds,
      bound.isReference = true := by
  intro parameter declared bound inside
  obtain ⟨tree, rfl⟩ := exists_tree_of_mem_bounds read parameter declared bound inside
  exact tree.isReference_type

theorem exists_tree_of_mem_arguments (read : ofSignature text = .ok signature) :
    ∀ argument ∈ signature.arguments, ∃ tree : FieldTree, tree.type = argument := by
  obtain ⟨tree, -, rfl⟩ := methodSignature_ofSignature_eq_ok.mp read
  intro argument inside
  obtain ⟨argumentTree, -, rfl⟩ := List.mem_map.mp inside
  exact ⟨argumentTree, rfl⟩

theorem ne_void_of_mem_arguments (read : ofSignature text = .ok signature) :
    ∀ argument ∈ signature.arguments, argument ≠ .primitive .void := by
  intro argument inside
  obtain ⟨tree, rfl⟩ := exists_tree_of_mem_arguments read argument inside
  exact tree.type_ne_void

/-- A value takes as many slots as one of the erased type. -/
theorem slotWidth_erase (read : ofSignature text = .ok signature) (type : JavaType) :
    (signature.erase type).slotWidth = type.slotWidth :=
  JavaType.slotWidth_erasure (isReference_of_mem_bounds read) type

end MethodSignature

end ClassMembers
