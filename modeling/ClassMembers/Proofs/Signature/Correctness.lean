/-
This file gathers what reading types and signatures of methods amounts to. A text
is read exactly if the grammar derives it, the derivation is the only one, and what
is read is what the derivation stands for. So writing what was read, and reading
that, gives the same again, although the text may be another one.
-/

import Mathlib
import ClassMembers.Proofs.Signature.Printing
import ClassMembers.Proofs.Signature.Unambiguous

namespace ClassMembers

/-- What is written for the type of a tree is read as that type. -/
theorem FieldTree.ofSignature_signature (tree : FieldTree) :
    JavaType.ofSignature (String.ofList tree.type.signature) = .ok tree.type := by
  obtain ⟨printed, written, same⟩ := tree.exists_printed
  exact javaType_ofSignature_eq_ok.mpr ⟨printed, by rw [written, String.toList_ofList], same⟩

theorem javaType_ofSignature_signature {text : String} {type : JavaType}
    (read : JavaType.ofSignature text = .ok type) :
    JavaType.ofSignature (String.ofList type.signature) = .ok type := by
  obtain ⟨tree, -, rfl⟩ := javaType_ofSignature_eq_ok.mp read
  exact tree.ofSignature_signature

theorem methodSignature_ofSignature_written {text : String} {signature : MethodSignature}
    (read : MethodSignature.ofSignature text = .ok signature) :
    MethodSignature.ofSignature (String.ofList signature.written) = .ok signature := by
  obtain ⟨tree, -, rfl⟩ := methodSignature_ofSignature_eq_ok.mp read
  obtain ⟨printed, written, same⟩ := tree.exists_printed
  exact methodSignature_ofSignature_eq_ok.mpr
    ⟨printed, by rw [written, String.toList_ofList], same⟩

/-- Types and signatures of methods are read exactly from the texts of trees, and
as what the trees stand for; no two trees have the same text. The base of a class
inside another one is all names up to it, joined with dollar signs, and a class
type is its joined name alone exactly if none of the names has arguments. What was
read is read again from what is written for it. -/
theorem signatures_are_derived :
    (∀ (text : String) (type : JavaType), JavaType.ofSignature text = .ok type ↔
      ∃ tree : FieldTree, tree.text = text.toList ∧ tree.type = type) ∧
    (∀ first second : FieldTree, first.text = second.text → first = second) ∧
    (∀ (text : String) (signature : MethodSignature),
      MethodSignature.ofSignature text = .ok signature ↔
        ∃ tree : MethodTree, tree.text = text.toList ∧ tree.signature = signature) ∧
    (∀ first second : MethodTree, first.text = second.text → first = second) ∧
    (∀ (first : ClassSegment) (rest : List ClassSegment), JavaType.ofSegments first rest =
      if ∀ segment ∈ first :: rest, segment.2 = [] then .ofClass ⟨joinedName (first :: rest)⟩
      else .parameterized (GenericType.ofSegments first rest)) ∧
    (∀ first : ClassSegment, GenericType.ofSegments first [] = .outermost ⟨first.1⟩ first.2) ∧
    (∀ (first : ClassSegment) (rest : List ClassSegment) (last : ClassSegment),
      GenericType.ofSegments first (rest ++ [last]) =
        .inside (GenericType.ofSegments first rest) ⟨joinedName (first :: (rest ++ [last]))⟩
          last.2) ∧
    (∀ (text : String) (type : JavaType), JavaType.ofSignature text = .ok type →
      JavaType.ofSignature (String.ofList type.signature) = .ok type) ∧
    (∀ (text : String) (signature : MethodSignature),
      MethodSignature.ofSignature text = .ok signature →
        MethodSignature.ofSignature (String.ofList signature.written) = .ok signature) := by
  refine ⟨?_, ?_, ?_, ?_, ?_, ?_, ?_, ?_, ?_⟩
  · intro text type
    exact javaType_ofSignature_eq_ok
  · exact FieldTree.eq_of_text
  · intro text signature
    exact methodSignature_ofSignature_eq_ok
  · intro first second same
    exact MethodTree.eq_of_text same
  · exact JavaType.ofSegments_eq
  · intro first
    rfl
  · exact GenericType.ofSegments_concat
  · intro text type read
    exact javaType_ofSignature_signature read
  · intro text signature read
    exact methodSignature_ofSignature_written read

/-- A class inside one with arguments, in a signature that bounds a variable by
itself. -/
theorem signatures_are_derived_recursive :
    MethodSignature.ofSignature (String.ofList (MethodSignature.written
      ⟨[⟨"X", none, [.parameterized (.outermost ⟨"p/C"⟩ [.exactly (.typeVariable "X")])]⟩],
        [.parameterized (.inside (.outermost ⟨"p/O"⟩ [.wildcard]) ⟨"p/O$I"⟩ [])],
        .primitive .void, [.typeVariable "X"]⟩)) =
      .ok ⟨[⟨"X", none, [.parameterized (.outermost ⟨"p/C"⟩ [.exactly (.typeVariable "X")])]⟩],
        [.parameterized (.inside (.outermost ⟨"p/O"⟩ [.wildcard]) ⟨"p/O$I"⟩ [])],
        .primitive .void, [.typeVariable "X"]⟩ :=
  signatures_are_derived.2.2.2.2.2.2.2.2 "<X::Lp/C<TX;>;>(Lp/O<*>.I;)V^TX;" _ (by cbv)

end ClassMembers
