/-
This file holds the grammar of descriptors and generic signatures as trees. A tree
is a derivation: it has a text, which is the string that is derived, and a type or
a signature, which is what the string means. The marks between the parts are put
back when the text is written, so a tree holds nothing but names, types and lists,
and the names are such that no stop is inside them. In one place the grammar looks
ahead: the bound of a type parameter by a class may be missing only in front of
another bound or of the end of the list.
-/

import ClassMembers.Signature.Method

namespace ClassMembers

/-! ### Names and letters -/

/-- A name: at least one character, and no stop among them. -/
structure Identifier (stops : List Char) where
  chars : List Char
  nonempty : chars ≠ []
  free : ∀ c ∈ chars, c ∉ stops

namespace Identifier

variable {stops : List Char}

/-- The name as a text. -/
def text (name : Identifier stops) : String := String.ofList name.chars

theorem eq_of_chars {first second : Identifier stops} (same : first.chars = second.chars) :
    first = second := by
  cases first
  cases second
  cases same
  rfl

theorem eq_of_text {first second : Identifier stops} (same : first.text = second.text) :
    first = second :=
  eq_of_chars (String.ofList_injective same)

end Identifier

/-- The letter of a primitive type. -/
def PrimitiveType.letter : PrimitiveType → Char
  | boolean => 'Z'
  | byte => 'B'
  | char => 'C'
  | short => 'S'
  | int => 'I'
  | long => 'J'
  | float => 'F'
  | double => 'D'
  | void => 'V'

theorem PrimitiveType.ofLetter?_eq_some {letter : Char} {type : PrimitiveType} :
    PrimitiveType.ofLetter? letter = some type ↔ type.letter = letter := by
  constructor
  · intro found
    unfold ofLetter? at found
    split at found <;> cases found <;> rfl
  · rintro rfl
    cases type <;> rfl

/-! ### Types -/

mutual

/-- A class type by its segments, a type variable or an array. -/
inductive ReferenceTree where
  | ofClass (first : SegmentTree) (rest : List SegmentTree)
  | typeVariable (name : Identifier [';'])
  | array (component : FieldTree)

/-- The type of a field. -/
inductive FieldTree where
  | primitive (type : PrimitiveType) (valued : type ≠ .void)
  | reference (type : ReferenceTree)

/-- A class name with its arguments. The list of these is not written if there are
none, and there is no other way to write that there are none. -/
inductive SegmentTree where
  | named (name : Identifier classNameStops) (arguments : List ArgumentTree)

/-- An argument of a class. -/
inductive ArgumentTree where
  | wildcard
  | atMost (bound : ReferenceTree)
  | atLeast (bound : ReferenceTree)
  | exactly (type : ReferenceTree)

end

mutual

/-- The text of a reference type. -/
def ReferenceTree.text : ReferenceTree → List Char
  | .ofClass first rest => 'L' :: (first.text ++ (SegmentTree.texts rest ++ [';']))
  | .typeVariable name => 'T' :: (name.chars ++ [';'])
  | .array component => '[' :: component.text

/-- The text of the type of a field. -/
def FieldTree.text : FieldTree → List Char
  | .primitive type _ => [type.letter]
  | .reference type => type.text

/-- The text of a class name with its arguments. -/
def SegmentTree.text : SegmentTree → List Char
  | .named name arguments => name.chars ++ ArgumentTree.listText arguments

/-- The text of the segments behind the first, each with a point in front of it. -/
def SegmentTree.texts : List SegmentTree → List Char
  | [] => []
  | segment :: rest => '.' :: (segment.text ++ SegmentTree.texts rest)

/-- The text of an argument. -/
def ArgumentTree.text : ArgumentTree → List Char
  | .wildcard => ['*']
  | .atMost bound => '+' :: bound.text
  | .atLeast bound => '-' :: bound.text
  | .exactly type => type.text

/-- The text of a list of arguments, with the brackets around it. -/
def ArgumentTree.listText : List ArgumentTree → List Char
  | [] => []
  | first :: rest => '<' :: (first.text ++ (ArgumentTree.texts rest ++ ['>']))

/-- The texts of arguments, one behind the other. -/
def ArgumentTree.texts : List ArgumentTree → List Char
  | [] => []
  | first :: rest => first.text ++ ArgumentTree.texts rest

end

mutual

/-- The type that a tree stands for. -/
def ReferenceTree.type : ReferenceTree → JavaType
  | .ofClass first rest => .ofSegments first.segment (SegmentTree.segments rest)
  | .typeVariable name => .typeVariable name.text
  | .array component => .array component.type

/-- The type of a field that a tree stands for. -/
def FieldTree.type : FieldTree → JavaType
  | .primitive type _ => .primitive type
  | .reference type => type.type

/-- The segment that a tree stands for. -/
def SegmentTree.segment : SegmentTree → ClassSegment
  | .named name arguments => (name.text, ArgumentTree.types arguments)

/-- The segments that trees stand for. -/
def SegmentTree.segments : List SegmentTree → List ClassSegment
  | [] => []
  | segment :: rest => segment.segment :: SegmentTree.segments rest

/-- The argument that a tree stands for. -/
def ArgumentTree.type : ArgumentTree → TypeArgument
  | .wildcard => .wildcard
  | .atMost bound => .atMost bound.type
  | .atLeast bound => .atLeast bound.type
  | .exactly type => .exactly type.type

/-- The arguments that trees stand for. -/
def ArgumentTree.types : List ArgumentTree → List TypeArgument
  | [] => []
  | first :: rest => first.type :: ArgumentTree.types rest

end

theorem SegmentTree.texts_eq_flatMap (segments : List SegmentTree) :
    texts segments = segments.flatMap fun segment => '.' :: segment.text := by
  induction segments with
  | nil => rfl
  | cons segment rest hypothesis => rw [texts, List.flatMap_cons, hypothesis, List.cons_append]

theorem SegmentTree.segments_eq_map (segments : List SegmentTree) :
    SegmentTree.segments segments = segments.map segment := by
  induction segments with
  | nil => rfl
  | cons segment rest hypothesis => rw [SegmentTree.segments, List.map_cons, hypothesis]

theorem ArgumentTree.texts_eq_flatMap (arguments : List ArgumentTree) :
    texts arguments = arguments.flatMap text := by
  induction arguments with
  | nil => rfl
  | cons argument rest hypothesis => rw [texts, List.flatMap_cons, hypothesis]

theorem ArgumentTree.types_eq_map (arguments : List ArgumentTree) :
    types arguments = arguments.map type := by
  induction arguments with
  | nil => rfl
  | cons argument rest hypothesis => rw [types, List.map_cons, hypothesis]

/-- The text of arguments that are there stands between brackets. -/
theorem ArgumentTree.listText_of_ne_nil {arguments : List ArgumentTree} (present : arguments ≠ []) :
    listText arguments = '<' :: (arguments.flatMap text ++ ['>']) := by
  cases arguments with
  | nil => exact absurd rfl present
  | cons first rest => rw [listText, texts_eq_flatMap, List.flatMap_cons, List.append_assoc]

/-! ### Methods -/

/-- A type parameter. -/
structure ParameterTree where
  name : Identifier typeParameterStops
  classBound? : Option ReferenceTree
  interfaceBounds : List ReferenceTree

namespace ParameterTree

/-- The texts of bounds by interfaces, each with a colon in front of it. -/
def boundTexts (bounds : List ReferenceTree) : List Char :=
  bounds.flatMap fun bound => ':' :: bound.text

/-- The text of a type parameter. -/
def text (parameter : ParameterTree) : List Char :=
  parameter.name.chars ++ (':' ::
    ((parameter.classBound?.elim [] ReferenceTree.text) ++ boundTexts parameter.interfaceBounds))

/-- The type parameter that a tree stands for. -/
def parameter (tree : ParameterTree) : TypeParameter :=
  ⟨tree.name.text, tree.classBound?.map ReferenceTree.type,
    tree.interfaceBounds.map ReferenceTree.type⟩

/-- The bound by a class is missing only in front of a colon or of the end of the
list, given what follows the type parameter. -/
def Bounded (parameter : ParameterTree) (following : List Char) : Prop :=
  parameter.classBound? = none →
    (boundTexts parameter.interfaceBounds ++ following).head? = some ':' ∨
      (boundTexts parameter.interfaceBounds ++ following).head? = some '>'

/-- The same of every type parameter of a list. -/
def AllBounded : List ParameterTree → Prop
  | [] => True
  | parameter :: rest => parameter.Bounded (rest.flatMap text ++ ['>']) ∧ AllBounded rest

end ParameterTree

/-- The signature of a method. The list of type parameters may be there and hold
none; a method without a result has `V` in its place. -/
structure MethodTree where
  typeParameters? : Option (List ParameterTree)
  arguments : List FieldTree
  result? : Option FieldTree
  throws : List ReferenceTree
  bounded : ∀ parameters ∈ typeParameters?, ParameterTree.AllBounded parameters

namespace MethodTree

/-- The text of a list of type parameters, with the brackets around it. -/
def parametersText : Option (List ParameterTree) → List Char
  | none => []
  | some parameters => '<' :: (parameters.flatMap ParameterTree.text ++ ['>'])

/-- The text of the result. -/
def resultText : Option FieldTree → List Char
  | none => ['V']
  | some type => type.text

/-- The type of the result. -/
def resultType : Option FieldTree → JavaType
  | none => .primitive .void
  | some type => type.type

/-- The text of the signature of a method. -/
def text (method : MethodTree) : List Char :=
  parametersText method.typeParameters? ++ ('(' :: (method.arguments.flatMap FieldTree.text ++
    (')' :: (resultText method.result? ++
      method.throws.flatMap fun thrown => '^' :: thrown.text))))

/-- The signature that a tree stands for. -/
def signature (method : MethodTree) : MethodSignature :=
  ⟨(method.typeParameters?.getD []).map ParameterTree.parameter,
    method.arguments.map FieldTree.type, resultType method.result?,
    method.throws.map ReferenceTree.type⟩

end MethodTree

end ClassMembers
