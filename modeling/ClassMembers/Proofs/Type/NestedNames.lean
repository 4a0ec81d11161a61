/-
This file compares the two ways in which the name of a class is written. A class with
arguments inside another one is written after it with its simple name, which is what
the last dollar sign or slash of the internal name leaves. A class by itself is
written with its whole name. The names between the points of a signature may hold
those signs as well, and then the simple name is only an end of what was added to
the name of the class around it. So the two ways agree exactly where no such name
holds any of the signs, and otherwise the simple names are too short.
-/

import ClassMembers.Proofs.Signature.Printing
import ClassMembers.Type.Mentions
import Mathlib

namespace ClassMembers

/-! ### What follows the last mark -/

section AfterLast

variable {mark : Char}

theorem afterLast_append {back : List Char} (free : mark ∉ back) (front : List Char) :
    afterLast mark (front ++ back) = afterLast mark front ++ back := by
  have all : ∀ c ∈ back.reverse, decide (c ≠ mark) = true := by
    intro c inside
    refine decide_eq_true fun same => free ?_
    rwa [← same, ← List.mem_reverse]
  rw [afterLast, List.reverse_append, List.takeWhile_append_of_pos all, List.reverse_append,
    List.reverse_reverse, afterLast]

theorem afterLast_append_cons {back : List Char} (free : mark ∉ back) (front : List Char) :
    afterLast mark (front ++ mark :: back) = back := by
  have none : afterLast mark (front ++ [mark]) = [] := by simp [afterLast]
  rw [← List.singleton_append, ← List.append_assoc, afterLast_append free, none, List.nil_append]

theorem length_afterLast_le (chars : List Char) :
    (afterLast mark chars).length ≤ chars.length := by
  rw [afterLast, List.length_reverse]
  exact (List.takeWhile_sublist _).length_le.trans List.length_reverse.le

theorem exists_last {chars : List Char} (inside : mark ∈ chars) :
    ∃ front back, chars = front ++ mark :: back ∧ mark ∉ back := by
  obtain ⟨back, front, split, free⟩ :=
    List.eq_append_cons_of_mem (List.mem_reverse.mpr inside)
  refine ⟨front.reverse, back.reverse, ?_, mt List.mem_reverse.mp free⟩
  rw [← List.reverse_reverse chars, split, List.reverse_append, List.reverse_cons,
    List.append_assoc, List.singleton_append]

end AfterLast

/-! ### Names of nested classes -/

/-- A name without the signs that internal names separate packages and classes by. -/
def IsPlainName (name : String) : Prop := '$' ∉ name.toList ∧ '/' ∉ name.toList

namespace ClassName

variable {name : String}

theorem toList_nested (outer name : String) :
    (outer ++ "$" ++ name).toList = outer.toList ++ '$' :: name.toList := by
  simp

theorem simpleName_nested (plain : IsPlainName name) (outer : String) :
    (ClassName.mk (outer ++ "$" ++ name)).simpleName = name := by
  have noSlash : '/' ∉ '$' :: name.toList := by
    simpa using plain.2
  rw [simpleName, toList_nested, afterLast_append noSlash, afterLast_append_cons plain.1,
    String.ofList_toList]

/-- Of a name with other separators only an end is left. -/
theorem length_simpleName_nested_lt (mixed : ¬ IsPlainName name) (outer : String) :
    (ClassName.mk (outer ++ "$" ++ name)).simpleName.toList.length < name.toList.length := by
  rw [simpleName, toList_nested, String.toList_ofList]
  by_cases slash : '/' ∈ name.toList
  · obtain ⟨front, back, split, free⟩ := exists_last slash
    rw [split, ← List.cons_append, ← List.append_assoc, afterLast_append_cons free,
      List.length_append, List.length_cons]
    have short := @length_afterLast_le '$' back
    omega
  · have dollar : '$' ∈ name.toList := by
      by_contra dollar
      exact mixed ⟨dollar, slash⟩
    obtain ⟨front, back, split, free⟩ := exists_last dollar
    have noSlash : '/' ∉ '$' :: name.toList := by
      simpa using slash
    rw [afterLast_append noSlash, split, ← List.cons_append, ← List.append_assoc,
      afterLast_append_cons free, List.length_append, List.length_cons]
    omega

theorem text_nested (outer name : String) :
    (ClassName.mk (outer ++ "$" ++ name)).text =
      (ClassName.mk outer).text ++ "." ++ (ClassName.mk name).text := by
  rw [text, toList_nested]
  simp [text, String.ofList_append, String.append_assoc]

theorem length_text (name : ClassName) :
    name.text.toList.length = name.internal.toList.length := by
  rw [text, String.toList_ofList, List.length_map]

theorem text_of_plain (plain : IsPlainName name) : (ClassName.mk name).text = name := by
  have kept : ∀ c ∈ name.toList, (if c = '/' ∨ c = '$' then '.' else c) = c := by
    intro c inside
    refine if_neg ?_
    rintro (rfl | rfl)
    · exact plain.2 inside
    · exact plain.1 inside
  rw [text, List.map_congr_left kept, List.map_id', String.ofList_toList]

end ClassName

/-! ### Chains of classes without arguments -/

namespace GenericType

/-- A class without its arguments, and without those of the classes around it. -/
def bare : GenericType → GenericType
  | outermost base _ => outermost base []
  | inside outer base _ => inside outer.bare base []

theorem text_bare_outermost (base : ClassName) (arguments : List TypeArgument) :
    (outermost base arguments).bare.text = base.text := by
  rw [bare, text]
  exact String.append_empty

theorem text_bare_inside (outer : GenericType) (base : ClassName) (arguments : List TypeArgument) :
    (inside outer base arguments).bare.text = outer.bare.text ++ "." ++ base.simpleName := by
  rw [bare, text]
  exact String.append_empty

/-- Texts in two parts around a point are the same only if their parts are, provided
that no part of the one is longer than that of the other. -/
theorem eq_and_eq_of_append_eq {front back front' back' : String}
    (frontShort : front.toList.length ≤ front'.toList.length)
    (backShort : back.toList.length ≤ back'.toList.length)
    (same : front ++ "." ++ back = front' ++ "." ++ back') : front = front' ∧ back = back' := by
  have chars := congrArg String.toList same
  have lengths := congrArg List.length chars
  simp only [String.toList_append, List.length_append] at lengths
  have sameFront : front.toList.length = front'.toList.length := by omega
  simp only [String.toList_append, List.append_assoc] at chars
  obtain ⟨fronts, backs⟩ := List.append_inj chars sameFront
  exact ⟨String.toList_injective fronts, String.toList_injective (List.append_cancel_left backs)⟩

theorem base_concat (first : ClassSegment) (rest : List ClassSegment) (last : ClassSegment) :
    (ofSegments first (rest ++ [last])).base =
      ⟨(ofSegments first rest).base.internal ++ "$" ++ last.1⟩ := by
  rw [base_ofSegments, base_ofSegments, ← List.cons_append,
    joinedName_concat (List.cons_ne_nil first rest)]

theorem text_base_concat (first : ClassSegment) (rest : List ClassSegment) (last : ClassSegment) :
    (ofSegments first (rest ++ [last])).base.text =
      (ofSegments first rest).base.text ++ "." ++ (ClassName.mk last.1).text := by
  rw [base_concat, ClassName.text_nested]

theorem text_bare_concat (first : ClassSegment) (rest : List ClassSegment) (last : ClassSegment) :
    (ofSegments first (rest ++ [last])).bare.text =
      (ofSegments first rest).bare.text ++ "." ++
        (ofSegments first (rest ++ [last])).base.simpleName := by
  rw [ofSegments_concat, text_bare_inside]
  rfl

/-- Without arguments a chain of classes is not written longer than the last class by
itself, and the same exactly if all names inside others are plain. -/
theorem text_bare_ofSegments (first : ClassSegment) (rest : List ClassSegment) :
    (ofSegments first rest).bare.text.toList.length ≤
        (ofSegments first rest).base.text.toList.length ∧
      ((ofSegments first rest).bare.text = (ofSegments first rest).base.text ↔
        ∀ segment ∈ rest, IsPlainName segment.1) := by
  induction rest using List.reverseRecOn with
  | nil =>
    have same : (ofSegments first []).bare.text = (ofSegments first []).base.text :=
      text_bare_outermost _ _
    exact ⟨by rw [same], iff_of_true same nofun⟩
  | append_singleton rest last hypothesis =>
    obtain ⟨short, agree⟩ := hypothesis
    rw [text_bare_concat, text_base_concat, base_concat, List.forall_mem_append,
      List.forall_mem_singleton]
    by_cases plain : IsPlainName last.1
    · rw [ClassName.simpleName_nested plain, ClassName.text_of_plain plain]
      refine ⟨by simpa using short, ?_⟩
      constructor
      · intro same
        exact ⟨agree.mp (eq_and_eq_of_append_eq short (Nat.le_refl _) same).1, plain⟩
      · rintro ⟨others, -⟩
        rw [agree.mpr others]
    · have shorter := ClassName.length_simpleName_nested_lt plain
        (ofSegments first rest).base.internal
      rw [← ClassName.length_text ⟨last.1⟩] at shorter
      refine ⟨?_, iff_of_false (fun same => ?_) fun all => plain all.2⟩
      · simp only [String.toList_append, List.length_append]
        omega
      · obtain ⟨-, backs⟩ := eq_and_eq_of_append_eq short (Nat.le_of_lt shorter) same
        rw [backs] at shorter
        exact Nat.lt_irrefl _ shorter

/-! ### Chains of classes in types -/

theorem mentions_ofSegments (first : ClassSegment) (rest : List ClassSegment) :
    (ofSegments first rest).mentions =
      (first :: rest).flatMap fun segment => TypeArgument.mentions segment.2 := by
  induction rest using List.reverseRecOn with
  | nil =>
    rw [List.flatMap_singleton]
    rfl
  | append_singleton rest last hypothesis =>
    rw [ofSegments_concat, mentions, hypothesis, ← List.cons_append, List.flatMap_append,
      List.flatMap_singleton]

end GenericType

/-- Whether all classes with arguments among types are chains of segments. -/
def AllChains (types : List JavaType) : Prop :=
  ∀ generic, .parameterized generic ∈ types → ∃ first rest, generic = .ofSegments first rest

theorem AllChains.append {first second : List JavaType} (here : AllChains first)
    (there : AllChains second) : AllChains (first ++ second) := by
  intro generic inside
  rcases List.mem_append.mp inside with inside | inside
  · exact here generic inside
  · exact there generic inside

theorem AllChains.cons {type : JavaType} {types : List JavaType}
    (other : ∀ generic, type ≠ .parameterized generic) (rest : AllChains types) :
    AllChains (type :: types) := by
  intro generic inside
  rcases List.mem_cons.mp inside with same | inside
  · exact absurd same.symm (other generic)
  · exact rest generic inside

mutual

theorem ReferenceTree.allChains : (tree : ReferenceTree) → AllChains tree.type.mentions
  | .ofClass first rest => by
    have parts : ∀ segment ∈ first.segment :: SegmentTree.segments rest,
        AllChains (TypeArgument.mentions segment.2) :=
      List.forall_mem_cons.mpr ⟨first.allChains, SegmentTree.list_allChains rest⟩
    rw [ReferenceTree.type, JavaType.ofSegments_eq]
    split
    · exact .cons nofun nofun
    · rw [JavaType.mentions, GenericType.mentions_ofSegments]
      intro generic inside
      rcases List.mem_cons.mp inside with same | inside
      · exact ⟨_, _, JavaType.parameterized.inj same⟩
      · obtain ⟨segment, among, inside⟩ := List.mem_flatMap.mp inside
        exact parts segment among generic inside
  | .typeVariable name => .cons nofun nofun
  | .array component => .cons nofun component.allChains

theorem FieldTree.allChains : (tree : FieldTree) → AllChains tree.type.mentions
  | .primitive _ _ => .cons nofun nofun
  | .reference tree => tree.allChains

theorem SegmentTree.allChains : (tree : SegmentTree) →
    AllChains (TypeArgument.mentions tree.segment.2)
  | .named _ arguments => ArgumentTree.list_allChains arguments

theorem SegmentTree.list_allChains : (trees : List SegmentTree) →
    ∀ segment ∈ SegmentTree.segments trees, AllChains (TypeArgument.mentions segment.2)
  | [] => nofun
  | first :: rest => List.forall_mem_cons.mpr ⟨first.allChains, SegmentTree.list_allChains rest⟩

theorem ArgumentTree.allChains : (tree : ArgumentTree) → AllChains tree.type.mentionsOne
  | .wildcard => nofun
  | .atMost bound => bound.allChains
  | .atLeast bound => bound.allChains
  | .exactly type => type.allChains

theorem ArgumentTree.list_allChains : (trees : List ArgumentTree) →
    AllChains (TypeArgument.mentions (ArgumentTree.types trees))
  | [] => nofun
  | first :: rest => first.allChains.append (ArgumentTree.list_allChains rest)

end

/-- In a type that was read every class with arguments is a chain of segments, as the
points of its text divide it. Without any arguments it is written under the name of
its own class exactly if no segment behind the first holds a sign that separates
classes or packages in internal names. -/
theorem generic_named_iff {text : String} {type : JavaType}
    (read : JavaType.ofSignature text = .ok type) {generic : GenericType}
    (occurs : .parameterized generic ∈ type.mentions) :
    ∃ first rest, generic = .ofSegments first rest ∧
      ((JavaType.parameterized generic.bare).text = (JavaType.ofClass generic.base).text ↔
        ∀ segment ∈ rest, IsPlainName segment.1) := by
  obtain ⟨tree, -, rfl⟩ := javaType_ofSignature_eq_ok.mp read
  obtain ⟨first, rest, rfl⟩ := tree.allChains generic occurs
  exact ⟨first, rest, rfl, (GenericType.text_bare_ofSegments first rest).2⟩

/-- Two classes inside one with an argument, the innermost with another one. -/
def nestedGeneric : GenericType :=
  .inside (.inside (.outermost ⟨"p/Outer"⟩ [.exactly (.typeVariable "T")]) ⟨"p/Outer$Mid"⟩ [])
    ⟨"p/Outer$Mid$Inner"⟩ [.wildcard]

theorem generic_named_iff_nested :
    JavaType.ofSignature "Lq/List<-[Lp/Outer<TT;>.Mid.Inner<*>;>;" =
      .ok (.parameterized (.outermost ⟨"q/List"⟩
        [.atLeast (.array (.parameterized nestedGeneric))])) ∧
    (∃ first rest, nestedGeneric = .ofSegments first rest ∧
      ((JavaType.parameterized nestedGeneric.bare).text = (JavaType.ofClass nestedGeneric.base).text ↔
        ∀ segment ∈ rest, IsPlainName segment.1)) := by
  have read : JavaType.ofSignature "Lq/List<-[Lp/Outer<TT;>.Mid.Inner<*>;>;" =
      .ok (.parameterized (.outermost ⟨"q/List"⟩
        [.atLeast (.array (.parameterized nestedGeneric))])) := by cbv
  refine ⟨read, generic_named_iff read ?_⟩
  simp [JavaType.mentions, GenericType.mentions, TypeArgument.mentions, TypeArgument.mentionsOne]

/-- A class whose name holds a dollar sign, inside one with an argument. -/
def dollarGeneric : GenericType :=
  .inside (.outermost ⟨"p/Outer"⟩ [.exactly (.typeVariable "T")]) ⟨"p/Outer$A$B"⟩ []

/-- Of that name nothing but the end is written. -/
theorem not_generic_named_dollar :
    JavaType.ofSignature "Lp/Outer<TT;>.A$B;" = .ok (.parameterized dollarGeneric) ∧
    (JavaType.parameterized dollarGeneric).text = "p.Outer<T>.B" ∧
    (JavaType.parameterized dollarGeneric.bare).text = "p.Outer.B" ∧
    (JavaType.ofClass dollarGeneric.base).text = "p.Outer.A.B" ∧
    (JavaType.parameterized dollarGeneric.bare).text ≠ (JavaType.ofClass dollarGeneric.base).text := by
  have nested : (JavaType.parameterized dollarGeneric.bare).text = "p.Outer.B" := rfl
  have plain : (JavaType.ofClass dollarGeneric.base).text = "p.Outer.A.B" := rfl
  refine ⟨by cbv, rfl, nested, plain, ?_⟩
  rw [nested, plain]
  decide

end ClassMembers
