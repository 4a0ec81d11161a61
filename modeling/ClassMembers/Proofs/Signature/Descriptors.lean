/-
This file proves that erasing the types of a signature gives types of descriptors. A
type that was read is that of a tree of the grammar, and so is its erasure: a class
becomes the one name of its segments, joined, and a variable the erasure of a bound,
which was read as well. Variables that bound each other in a circle make no
difference, for these end at the class at the root of all. What is written for an
erased type holds neither arguments nor variables, which makes it a descriptor, and
reading it gives the type again.
-/

import ClassMembers.Proofs.Signature.Erasure
import ClassMembers.Proofs.Signature.Correctness

namespace ClassMembers

/-! ### Trees of erased types -/

/-- The class at the root of all, as a tree. -/
def ReferenceTree.object : ReferenceTree :=
  .ofClass (.named ⟨"java/lang/Object".toList, by decide, by simp [classNameStops]⟩ []) []

theorem JavaType.erasureWith_ofSegments (ofVariable : String → JavaType) (first : ClassSegment)
    (rest : List ClassSegment) :
    (JavaType.ofSegments first rest).erasureWith ofVariable =
      .ofClass ⟨joinedName (first :: rest)⟩ := by
  rw [JavaType.ofSegments_eq]
  split
  · rfl
  · rw [JavaType.erasureWith, GenericType.base_ofSegments]

mutual

/-- A tree stands for what the type of a tree erases to, if one does for what each
variable erases to. -/
theorem ReferenceTree.exists_erased {ofVariable : String → JavaType}
    (spelled : ∀ name, ∃ tree : ReferenceTree, tree.type = ofVariable name) :
    (tree : ReferenceTree) →
      ∃ erased : ReferenceTree, erased.type = tree.type.erasureWith ofVariable
  | .ofClass first rest => by
    obtain ⟨name, joined⟩ := exists_joined_identifier first rest
    refine ⟨.ofClass (.named name []) [], ?_⟩
    rw [ReferenceTree.type, ReferenceTree.type, JavaType.erasureWith_ofSegments, ← joined]
    rfl
  | .typeVariable name => spelled name.text
  | .array component => by
    obtain ⟨erased, type⟩ := component.exists_erased spelled
    exact ⟨.array erased, congrArg JavaType.array type⟩

theorem FieldTree.exists_erased {ofVariable : String → JavaType}
    (spelled : ∀ name, ∃ tree : ReferenceTree, tree.type = ofVariable name) :
    (tree : FieldTree) → ∃ erased : FieldTree, erased.type = tree.type.erasureWith ofVariable
  | .primitive type valued => ⟨.primitive type valued, rfl⟩
  | .reference tree => by
    obtain ⟨erased, type⟩ := tree.exists_erased spelled
    exact ⟨.reference erased, type⟩

end

/-- The same against type parameters with bounds that were read. -/
theorem FieldTree.exists_erasure {parameters : List TypeParameter}
    (bounds : ∀ parameter ∈ parameters, ∀ bound ∈ parameter.bounds,
      ∃ tree : ReferenceTree, tree.type = bound) (tree : FieldTree) :
    ∃ erased : FieldTree, erased.type = tree.type.erasure parameters := by
  refine tree.exists_erased fun name => ?_
  refine JavaType.variableErasure_induction
    (motive := fun type => ∃ tree : ReferenceTree, tree.type = type)
    ⟨.object, rfl⟩ (fun ofVariable spelled parameter declared bound inside => ?_) _ name
  obtain ⟨boundTree, rfl⟩ := bounds parameter declared bound inside
  exact boundTree.exists_erased spelled

/-! ### Erased types of signatures -/

namespace MethodSignature

/-- All types of a signature: its arguments, its result, what it throws, and the
bounds of its type parameters. -/
def types (signature : MethodSignature) : List JavaType :=
  signature.arguments ++ signature.result ::
    (signature.throws ++ signature.typeParameters.flatMap TypeParameter.bounds)

variable {text : String} {signature : MethodSignature} {type : JavaType}

theorem exists_tree_of_mem_throws (read : ofSignature text = .ok signature)
    (thrown : type ∈ signature.throws) : ∃ tree : ReferenceTree, tree.type = type := by
  obtain ⟨tree, -, rfl⟩ := methodSignature_ofSignature_eq_ok.mp read
  obtain ⟨thrownTree, -, same⟩ := List.mem_map.mp thrown
  exact ⟨thrownTree, same⟩

theorem result_eq_void_or_exists_tree (read : ofSignature text = .ok signature) :
    signature.result = .primitive .void ∨ ∃ tree : FieldTree, tree.type = signature.result := by
  obtain ⟨⟨_, _, result?, _, _⟩, -, rfl⟩ := methodSignature_ofSignature_eq_ok.mp read
  cases result? with
  | none => exact .inl rfl
  | some tree => exact .inr ⟨tree, rfl⟩

/-- Every type of a signature is that of a tree, apart from the result of a method
that has none. -/
theorem eq_void_or_exists_tree (read : ofSignature text = .ok signature)
    (among : type ∈ signature.types) :
    type = .primitive .void ∨ ∃ tree : FieldTree, tree.type = type := by
  rcases List.mem_append.mp among with argument | others
  · exact .inr (exists_tree_of_mem_arguments read type argument)
  rcases List.mem_cons.mp others with rfl | others
  · exact result_eq_void_or_exists_tree read
  rcases List.mem_append.mp others with thrown | bound
  · obtain ⟨tree, same⟩ := exists_tree_of_mem_throws read thrown
    exact .inr ⟨.reference tree, same⟩
  · obtain ⟨parameter, declared, inside⟩ := List.mem_flatMap.mp bound
    obtain ⟨tree, same⟩ := exists_tree_of_mem_bounds read parameter declared type inside
    exact .inr ⟨.reference tree, same⟩

end MethodSignature

/-! ### Descriptors -/

/-- Whether a type is one of a descriptor that stands for another type: nothing
generic is left in it at any depth, its values take as many slots, it is its own
erasure against any type parameters, and what is written for it, unless it is
`void`, is read as the same type. -/
structure JavaType.IsDescriptorOf (erased type : JavaType) : Prop where
  isErased : erased.isErased = true
  slotWidth : erased.slotWidth = type.slotWidth
  erasure : ∀ parameters, erased.erasure parameters = erased
  read : erased ≠ .primitive .void →
    JavaType.ofSignature (String.ofList erased.signature) = .ok erased

/-- Bounds that are types of trees erase the type of a tree, and `void`, to types of
descriptors. -/
theorem JavaType.isDescriptorOf_erasure {parameters : List TypeParameter}
    (bounds : ∀ parameter ∈ parameters, ∀ bound ∈ parameter.bounds,
      ∃ tree : ReferenceTree, tree.type = bound) {type : JavaType}
    (spelled : type = .primitive .void ∨ ∃ tree : FieldTree, tree.type = type) :
    (type.erasure parameters).IsDescriptorOf type where
  isErased := isErased_erasure type
  slotWidth := by
    refine slotWidth_erasure (fun parameter declared bound inside => ?_) type
    obtain ⟨tree, rfl⟩ := bounds parameter declared bound inside
    exact tree.isReference_type
  erasure _ := erasure_of_isErased (isErased_erasure type)
  read valued := by
    rcases spelled with rfl | ⟨tree, rfl⟩
    · exact absurd rfl valued
    · obtain ⟨erased, same⟩ := tree.exists_erasure bounds
      rw [← same]
      exact erased.ofSignature_signature

/-- In a signature that was read every type erases to one of a descriptor, whether
the bounds of variables are known or not, and whatever circles they make. -/
theorem erasures_are_descriptors {text : String} {signature : MethodSignature}
    (read : MethodSignature.ofSignature text = .ok signature) {type : JavaType}
    (among : type ∈ signature.types) :
    (type.erasure signature.typeParameters).IsDescriptorOf type ∧
      type.withoutGenerics.IsDescriptorOf type := by
  have spelled := MethodSignature.eq_void_or_exists_tree read among
  refine ⟨?_, ?_⟩
  · exact JavaType.isDescriptorOf_erasure (MethodSignature.exists_tree_of_mem_bounds read) spelled
  · exact JavaType.isDescriptorOf_erasure (fun _ declared => absurd declared List.not_mem_nil)
      spelled

/-- Two variables bound each other, one of them by its arrays. -/
def circularSignature : MethodSignature where
  typeParameters := [⟨"T", some (.typeVariable "U"), []⟩,
    ⟨"U", some (.array (.typeVariable "T")), []⟩]
  arguments := [.typeVariable "T",
    .parameterized (.inside (.outermost ⟨"p/O"⟩ [.exactly (.typeVariable "U")]) ⟨"p/O$I"⟩ [])]
  result := .primitive .void
  throws := [.typeVariable "U"]

theorem erasures_are_descriptors_circular :
    MethodSignature.ofSignature "<T:TU;U:[TT;>(TT;Lp/O<TU;>.I;)V^TU;" = .ok circularSignature ∧
    .typeVariable "U" ∈ circularSignature.types ∧
    ((JavaType.typeVariable "U").erasure circularSignature.typeParameters).IsDescriptorOf
      (.typeVariable "U") := by
  have read : MethodSignature.ofSignature "<T:TU;U:[TT;>(TT;Lp/O<TU;>.I;)V^TU;" =
      .ok circularSignature := by cbv
  have among : .typeVariable "U" ∈ circularSignature.types := by
    simp [MethodSignature.types, circularSignature]
  exact ⟨read, among, (erasures_are_descriptors read among).1⟩

end ClassMembers
