/-
This file proves when fields of one stored name are told apart by their types. A field that is
marked for it is written with a word for its type in front of the name: "arr" for each
dimension of an array, and behind that the keyword of a primitive type, or the letters and
digits of the simple name of a class. The word says neither the package of a class nor the
classes around it, and nothing keeps a class from being called like a keyword or like the word
of an array. So two descriptors have the same word exactly if one of them is that of a class
or of an array of classes, and the class is called what the word of the other is behind the
dimensions they share. Primitive types and the arrays of them are always told apart.
-/

import ClassMembers.Field
import ClassMembers.Proofs.LocalClasses.ArrayNames
import ClassMembers.Proofs.Signature.Acceptance

namespace ClassMembers

/-! ### Keywords -/

namespace PrimitiveType

variable {type other : PrimitiveType}

theorem eq_of_name (same : type.name = other.name) : type = other := by
  cases type <;> cases other <;> first | rfl | exact absurd same (by decide)

theorem head?_name_ne (type : PrimitiveType) : type.name.toList.head? ≠ some 'a' := by
  cases type <;> decide

end PrimitiveType

/-! ### Descriptors of fields -/

/-- What a descriptor ends with: the letter of a primitive type, or the name of a class. -/
inductive FieldElement where
  | primitive (type : PrimitiveType) (valued : type ≠ .void)
  | ofClass (name : Identifier classNameStops)

namespace FieldElement

/-- The characters of an element. -/
def chars : FieldElement → List Char
  | primitive type _ => [type.letter]
  | ofClass name => 'L' :: (name.chars ++ [';'])

/-- The type of an element. -/
def type : FieldElement → JavaType
  | primitive type _ => .primitive type
  | ofClass name => .ofClass ⟨name.text⟩

/-- The keyword of a primitive type, or what of the simple name of a class can be part of an
identifier. -/
def word : FieldElement → String
  | primitive type _ => type.name
  | ofClass name => (ClassName.mk name.text).identifierPart

theorem identifierPart_type (element : FieldElement) :
    element.type.identifierPart = element.word := by
  cases element <;> rfl

theorem exists_tree (element : FieldElement) :
    ∃ tree : FieldTree, tree.text = element.chars ∧ tree.type = element.type := by
  cases element with
  | primitive type valued => exact ⟨.primitive type valued, rfl, rfl⟩
  | ofClass name =>
    refine ⟨.reference (.ofClass (.named name []) []), ?_, rfl⟩
    show 'L' :: ((name.chars ++ []) ++ ([] ++ [';'])) = _
    rw [List.append_nil]
    rfl

end FieldElement

/-- A descriptor of a field: an element behind as many brackets as it has dimensions. -/
structure FieldDescriptor where
  dimensions : Nat
  element : FieldElement

/-- "arr" for each of a number of dimensions. -/
def arrs : Nat → String
  | 0 => ""
  | depth + 1 => "arr" ++ arrs depth

theorem arrs_add (first second : Nat) : arrs (first + second) = arrs first ++ arrs second := by
  induction first with
  | zero => rw [Nat.zero_add, arrs, String.empty_append]
  | succ first hypothesis => rw [Nat.succ_add, arrs, hypothesis, arrs, String.append_assoc]

theorem JavaType.identifierPart_arrays (type : JavaType) (depth : Nat) :
    (type.arrays depth).identifierPart = arrs depth ++ type.identifierPart := by
  induction depth with
  | zero => exact String.empty_append.symm
  | succ depth hypothesis =>
    rw [arrays, JavaType.identifierPart, hypothesis, arrs, String.append_assoc]

namespace FieldDescriptor

variable {descriptor other : FieldDescriptor}

/-- The text of a descriptor. -/
def text (descriptor : FieldDescriptor) : String :=
  String.ofList (List.replicate descriptor.dimensions '[' ++ descriptor.element.chars)

/-- The type that a descriptor spells. -/
def type (descriptor : FieldDescriptor) : JavaType :=
  descriptor.element.type.arrays descriptor.dimensions

/-- The word for that type. -/
def word (descriptor : FieldDescriptor) : String :=
  arrs descriptor.dimensions ++ descriptor.element.word

theorem identifierPart_type (descriptor : FieldDescriptor) :
    descriptor.type.identifierPart = descriptor.word := by
  rw [type, JavaType.identifierPart_arrays, FieldElement.identifierPart_type, word]

/-- A descriptor is read as its type. -/
theorem ofSignature_text (descriptor : FieldDescriptor) :
    JavaType.ofSignature descriptor.text = .ok descriptor.type := by
  obtain ⟨dimensions, element⟩ := descriptor
  rw [javaType_ofSignature_eq_ok]
  unfold text type
  rw [String.toList_ofList]
  induction dimensions with
  | zero => exact element.exists_tree
  | succ dimensions hypothesis =>
    obtain ⟨tree, spelled, same⟩ := hypothesis
    exact ⟨.reference (.array tree), congrArg (List.cons '[') spelled, congrArg JavaType.array same⟩

/-! ### Descriptors with the same word -/

/-- A descriptor with as many dimensions as another one or fewer, of a class that is called
what the word of the other is behind the dimensions they share. -/
def Imitates (descriptor other : FieldDescriptor) : Prop :=
  descriptor.dimensions ≤ other.dimensions ∧ ∃ name, descriptor.element = .ofClass name ∧
    (ClassName.mk name.text).identifierPart =
      arrs (other.dimensions - descriptor.dimensions) ++ other.element.word

theorem Imitates.word_eq (imitates : descriptor.Imitates other) : descriptor.word = other.word := by
  obtain ⟨fewer, name, named, called⟩ := imitates
  rw [word, named, FieldElement.word, called, ← String.append_assoc, ← arrs_add,
    Nat.add_sub_cancel' fewer, word]

/-- No keyword is the word of an array. -/
theorem eq_zero_of_name_eq {type : PrimitiveType} {depth : Nat} {rest : String}
    (same : type.name = arrs depth ++ rest) : depth = 0 := by
  cases depth with
  | zero => rfl
  | succ depth =>
    refine absurd ?_ type.head?_name_ne
    rw [same, arrs, String.append_assoc, String.toList_append]
    rfl

/-- Of different descriptors with the same word, one is called what the other is. -/
theorem imitates_of_word_eq (different : descriptor ≠ other)
    (fewer : descriptor.dimensions ≤ other.dimensions) (same : descriptor.word = other.word) :
    descriptor.Imitates other ∨ other.Imitates descriptor := by
  obtain ⟨dimensions, element⟩ := descriptor
  obtain ⟨_, otherElement⟩ := other
  obtain ⟨more, rfl⟩ := Nat.exists_eq_add_of_le fewer
  have behind : element.word = arrs more ++ otherElement.word := by
    rw [word, word, arrs_add, String.append_assoc, String.append_right_inj] at same
    exact same
  cases element with
  | ofClass name =>
    refine .inl ⟨fewer, name, rfl, ?_⟩
    rw [Nat.add_sub_cancel_left]
    exact behind
  | primitive type valued =>
    -- The other descriptor has no more dimensions, so only a class can be called like the type.
    cases eq_zero_of_name_eq behind
    rw [arrs, String.empty_append] at behind
    cases otherElement with
    | ofClass name =>
      refine .inr ⟨Nat.le_refl _, name, rfl, ?_⟩
      rw [Nat.add_zero, Nat.sub_self, arrs, String.empty_append]
      exact behind.symm
    | primitive other valuedToo =>
      cases PrimitiveType.eq_of_name behind
      exact absurd rfl different

theorem word_eq_iff (different : descriptor ≠ other) :
    descriptor.word = other.word ↔ descriptor.Imitates other ∨ other.Imitates descriptor := by
  constructor
  · intro same
    rcases Nat.le_total descriptor.dimensions other.dimensions with fewer | fewer
    · exact imitates_of_word_eq different fewer same
    · exact (imitates_of_word_eq different.symm fewer same.symm).symm
  · rintro (imitates | imitates)
    · exact imitates.word_eq
    · exact imitates.word_eq.symm

end FieldDescriptor

/-! ### Names of fields -/

namespace Field

variable {descriptor other : FieldDescriptor}

/-- Without a signature, a field has the type of its descriptor. -/
theorem type_of_descriptor {field : Field} (unsigned : field.attributes.signature? = none)
    (described : field.descriptor = descriptor.text) : field.type = .ok descriptor.type := by
  have plain : field.record.attributes.signature? = none := unsigned
  rw [type, Record.fieldType, plain, Option.getD_none, described,
    FieldDescriptor.ofSignature_text]
  rfl

theorem name_disambiguate {field : Field} (unsigned : field.attributes.signature? = none)
    (described : field.descriptor = descriptor.text) :
    field.disambiguate.name = .ok ("var_" ++ descriptor.word ++ "_" ++ field.rawName) := by
  have typed : field.disambiguate.type = .ok descriptor.type :=
    type_of_descriptor unsigned described
  have marked : field.disambiguate.disambiguated = true := rfl
  rw [name, if_pos marked, typed, ← descriptor.identifierPart_type]
  rfl

/-- Two fields with the same stored name and different descriptors are both written once they
are marked, and are told apart exactly if neither descriptor is that of a class, or of an array
of classes, which is called like the other one behind the dimensions they share. -/
theorem disambiguated_names_ne_iff {first second : Field}
    (named : first.rawName = second.rawName)
    (firstUnsigned : first.attributes.signature? = none)
    (secondUnsigned : second.attributes.signature? = none)
    (firstDescribed : first.descriptor = descriptor.text)
    (secondDescribed : second.descriptor = other.text)
    (different : first.descriptor ≠ second.descriptor) :
    ∃ name otherName, first.disambiguate.name = .ok name ∧
      second.disambiguate.name = .ok otherName ∧
      (name ≠ otherName ↔ ¬ descriptor.Imitates other ∧ ¬ other.Imitates descriptor) := by
  have apart : descriptor ≠ other := by
    rintro rfl
    exact different (firstDescribed.trans secondDescribed.symm)
  refine ⟨_, _, name_disambiguate firstUnsigned firstDescribed,
    name_disambiguate secondUnsigned secondDescribed, ?_⟩
  rw [named, Ne, String.append_left_inj, String.append_left_inj, String.append_right_inj,
    FieldDescriptor.word_eq_iff apart, not_or]

/-- A field without attributes. -/
def plain (rawName descriptor : String) : Field :=
  ⟨⟨2, 1, 2, .empty, 8⟩, rawName, descriptor, .ofBits 2, none, false⟩

/-- An array of arrays and an array of what is not an array. -/
theorem disambiguated_names_ne_iff_arrays :
    ∃ name otherName, (plain "x" "[[I").disambiguate.name = .ok name ∧
      (plain "x" "[J").disambiguate.name = .ok otherName ∧ name ≠ otherName := by
  let ints : FieldDescriptor := ⟨2, .primitive .int (by decide)⟩
  let longs : FieldDescriptor := ⟨1, .primitive .long (by decide)⟩
  have named : (plain "x" "[[I").rawName = (plain "x" "[J").rawName := rfl
  have unsigned : ∀ text, (plain "x" text).attributes.signature? = none := fun _ => rfl
  have described : (plain "x" "[[I").descriptor = ints.text := by decide
  have otherDescribed : (plain "x" "[J").descriptor = longs.text := by decide
  obtain ⟨name, otherName, written, otherWritten, apart⟩ :=
    disambiguated_names_ne_iff named (unsigned _) (unsigned _) described otherDescribed (by decide)
  refine ⟨name, otherName, written, otherWritten, apart.mpr ⟨?_, ?_⟩⟩
  · rintro ⟨-, _, ⟨⟩, -⟩
  · rintro ⟨-, _, ⟨⟩, -⟩

/-- Fields whose types are classes of the same simple name are not told apart. -/
theorem disambiguated_names_eq :
    Field.ofRecord ⟨2, 1, 2, .empty, 8⟩ ⟨[.utf8 "value", .utf8 "Ljava/lang/String;"]⟩ =
      .ok (plain "value" "Ljava/lang/String;") ∧
    Field.ofRecord ⟨2, 1, 2, .empty, 8⟩ ⟨[.utf8 "value", .utf8 "Lp/String;"]⟩ =
      .ok (plain "value" "Lp/String;") ∧
    (plain "value" "Ljava/lang/String;").disambiguate.name = .ok "var_String_value" ∧
    (plain "value" "Lp/String;").disambiguate.name = .ok "var_String_value" :=
  ⟨by cbv, by cbv, by cbv, by cbv⟩

end Field

end ClassMembers
