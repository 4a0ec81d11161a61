/-
This file writes types and signatures of methods in the syntax that they are read
from, and proves that reading takes back what was written. A nested class is written
after the one around it with the part of its name that it adds, and a class type
without arguments as one name. So a type may be written in another way than it was
read, but there is always a tree with the written text and the same type.
-/

import ClassMembers.Proofs.Signature.Acceptance

namespace ClassMembers

/-! ### The syntax of signatures -/

mutual

/-- A type as a signature. -/
def JavaType.signature : JavaType → List Char
  | .primitive type => [type.letter]
  | .ofClass name => 'L' :: (name.internal.toList ++ [';'])
  | .parameterized type => 'L' :: (type.signature ++ [';'])
  | .typeVariable name => 'T' :: (name.toList ++ [';'])
  | .array component => '[' :: component.signature

/-- A class with its arguments as part of a signature. Of the name of a nested class
this is what follows the name of the class around it and a dollar sign. -/
def GenericType.signature : GenericType → List Char
  | .outermost base arguments =>
    base.internal.toList ++ TypeArgument.listSignature arguments
  | .inside outer base arguments =>
    outer.signature ++ '.' :: (base.internal.toList.drop (outer.base.internal.toList.length + 1) ++
      TypeArgument.listSignature arguments)

/-- An argument as part of a signature. -/
def TypeArgument.signature : TypeArgument → List Char
  | .wildcard => ['*']
  | .atMost bound => '+' :: bound.signature
  | .atLeast bound => '-' :: bound.signature
  | .exactly type => type.signature

/-- A list of arguments with the brackets around it, and nothing if it is empty. -/
def TypeArgument.listSignature : List TypeArgument → List Char
  | [] => []
  | first :: rest => '<' :: (first.signature ++ (TypeArgument.signatures rest ++ ['>']))

/-- Arguments one behind the other. -/
def TypeArgument.signatures : List TypeArgument → List Char
  | [] => []
  | first :: rest => first.signature ++ TypeArgument.signatures rest

end

/-- A type parameter as part of a signature. -/
def TypeParameter.signature (parameter : TypeParameter) : List Char :=
  parameter.name.toList ++ (':' :: (parameter.classBound.elim [] JavaType.signature ++
    parameter.interfaceBounds.flatMap fun bound => ':' :: bound.signature))

/-- The type parameters with the brackets around them, and nothing if there are none. -/
def TypeParameter.listSignature : List TypeParameter → List Char
  | [] => []
  | first :: rest => '<' :: ((first :: rest).flatMap TypeParameter.signature ++ ['>'])

/-- The signature of a method as a text. -/
def MethodSignature.written (signature : MethodSignature) : List Char :=
  TypeParameter.listSignature signature.typeParameters ++
    ('(' :: (signature.arguments.flatMap JavaType.signature ++
      (')' :: (signature.result.signature ++
        signature.throws.flatMap fun thrown => '^' :: thrown.signature))))

/-! ### Chains of classes -/

/-- The names of segments, joined with dollar signs. -/
def joinedName (segments : List ClassSegment) : String :=
  String.intercalate "$" (segments.map Prod.fst)

/-- One more class inside a chain of classes. -/
def GenericType.nest (outer : GenericType) (segment : ClassSegment) : GenericType :=
  .inside outer ⟨outer.base.internal ++ "$" ++ segment.1⟩ segment.2

theorem GenericType.ofSegments_eq_foldl (first : ClassSegment) (rest : List ClassSegment) :
    ofSegments first rest = rest.foldl nest (.outermost ⟨first.1⟩ first.2) := rfl

theorem joinedName_concat {segments : List ClassSegment} (present : segments ≠ [])
    (segment : ClassSegment) :
    joinedName (segments ++ [segment]) = joinedName segments ++ "$" ++ segment.1 := by
  have names : segments.map Prod.fst ≠ [] := by
    intro empty
    exact present (List.map_eq_nil_iff.mp empty)
  rw [joinedName, joinedName, List.map_append, List.map_singleton,
    String.intercalate_append_of_ne_nil names (List.cons_ne_nil _ _), String.intercalate_singleton]

/-- The base of a chain is the joined name of its segments. -/
theorem GenericType.base_ofSegments (first : ClassSegment) (rest : List ClassSegment) :
    (ofSegments first rest).base = ⟨joinedName (first :: rest)⟩ := by
  have chain : ∀ (outer : GenericType) (before : List ClassSegment), before ≠ [] →
      outer.base = ⟨joinedName before⟩ →
        (rest.foldl nest outer).base = ⟨joinedName (before ++ rest)⟩ := by
    induction rest with
    | nil =>
      intro outer before _ named
      rw [List.append_nil]
      exact named
    | cons segment more hypothesis =>
      intro outer before present named
      have next := hypothesis (outer.nest segment) (before ++ [segment]) (by simp) (by
        rw [joinedName_concat present]
        show ClassName.mk (outer.base.internal ++ "$" ++ segment.1) = _
        rw [named])
      rw [List.append_assoc] at next
      exact next
  have single : joinedName [first] = first.1 := String.intercalate_singleton
  refine chain (.outermost ⟨first.1⟩ first.2) [first] (by simp) ?_
  rw [single]
  rfl

/-- The last segment stands inside the chain of the others. -/
theorem GenericType.ofSegments_concat (first : ClassSegment) (rest : List ClassSegment)
    (last : ClassSegment) :
    ofSegments first (rest ++ [last]) =
      .inside (ofSegments first rest) ⟨joinedName (first :: (rest ++ [last]))⟩ last.2 := by
  rw [← List.cons_append, joinedName_concat (List.cons_ne_nil first rest)]
  have base := base_ofSegments first rest
  rw [ofSegments_eq_foldl, List.foldl_append, ← ofSegments_eq_foldl]
  show nest (ofSegments first rest) last = _
  rw [nest, base]

/-- A class type is the name alone exactly if no segment has arguments. -/
theorem JavaType.ofSegments_eq (first : ClassSegment) (rest : List ClassSegment) :
    JavaType.ofSegments first rest =
      if ∀ segment ∈ first :: rest, segment.2 = [] then .ofClass ⟨joinedName (first :: rest)⟩
      else .parameterized (GenericType.ofSegments first rest) := by
  rw [JavaType.ofSegments, GenericType.base_ofSegments]
  have plain : ((first :: rest).all fun segment => segment.2.isEmpty) = true ↔
      ∀ segment ∈ first :: rest, segment.2 = [] := by
    rw [List.all_eq_true]
    exact forall_congr' fun segment => forall_congr' fun _ => List.isEmpty_iff
  exact ite_congr (propext plain) (fun _ => rfl) fun _ => rfl

theorem GenericType.signature_ofSegments (first : ClassSegment) (rest : List ClassSegment) :
    (ofSegments first rest).signature =
      (first.1.toList ++ TypeArgument.listSignature first.2) ++ rest.flatMap fun segment =>
        '.' :: (segment.1.toList ++ TypeArgument.listSignature segment.2) := by
  have chain : ∀ outer : GenericType, (rest.foldl nest outer).signature =
      outer.signature ++ rest.flatMap fun segment =>
        '.' :: (segment.1.toList ++ TypeArgument.listSignature segment.2) := by
    induction rest with
    | nil =>
      intro outer
      rw [List.flatMap_nil, List.append_nil]
      rfl
    | cons segment more hypothesis =>
      intro outer
      have added : (outer.base.internal ++ "$" ++ segment.1).toList.drop
          (outer.base.internal.toList.length + 1) = segment.1.toList := by
        rw [String.toList_append, String.toList_append]
        exact List.drop_left' (by simp)
      rw [List.foldl_cons, hypothesis, nest, signature, added, List.flatMap_cons,
        List.append_assoc]
  rw [ofSegments_eq_foldl, chain, signature]

/-! ### Types that are written -/

/-- The names of segments, joined, make a name again. -/
theorem exists_joined_identifier (first : SegmentTree) (rest : List SegmentTree) :
    ∃ name : Identifier classNameStops,
      name.text = joinedName (first.segment :: SegmentTree.segments rest) := by
  have named : ∀ segment : SegmentTree, segment.segment.1.toList ≠ [] ∧
      ∀ c ∈ segment.segment.1.toList, c ∉ classNameStops := by
    rintro ⟨name, arguments⟩
    rw [SegmentTree.segment, Identifier.text, String.toList_ofList]
    exact ⟨name.nonempty, name.free⟩
  -- The induction goes along the segments with the name that is joined so far.
  have joined : ∀ (name : Identifier classNameStops) (before : List ClassSegment), before ≠ [] →
      name.text = joinedName before → ∃ whole : Identifier classNameStops,
        whole.text = joinedName (before ++ SegmentTree.segments rest) := by
    induction rest with
    | nil =>
      intro name before _ same
      rw [SegmentTree.segments, List.append_nil]
      exact ⟨name, same⟩
    | cons segment more hypothesis =>
      intro name before present same
      have longer : ∀ c ∈ name.chars ++ '$' :: segment.segment.1.toList, c ∉ classNameStops := by
        intro c inside
        rcases List.mem_append.mp inside with front | behind
        · exact name.free c front
        · rcases List.mem_cons.mp behind with rfl | behind
          · decide
          · exact (named segment).2 c behind
      obtain ⟨whole, text⟩ := hypothesis ⟨_, by simp, longer⟩ (before ++ [segment.segment])
        (by simp) (by
          rw [joinedName_concat present, ← same, Identifier.text, Identifier.text,
            String.ofList_append, String.ofList_cons, String.ofList_toList]
          simp [String.append_assoc])
      refine ⟨whole, ?_⟩
      rw [text, SegmentTree.segments, List.append_assoc]
      rfl
  have single : joinedName [first.segment] = first.segment.1 := String.intercalate_singleton
  refine joined ⟨first.segment.1.toList, (named first).1, (named first).2⟩ [first.segment]
    (by simp) ?_
  rw [single, Identifier.text, String.ofList_toList]

mutual

/-- What is written for a reference type is the text of a tree of the same type. -/
theorem ReferenceTree.exists_printed : (tree : ReferenceTree) →
    ∃ printed : ReferenceTree, printed.text = tree.type.signature ∧ printed.type = tree.type
  | .ofClass first rest => by
    rw [ReferenceTree.type, JavaType.ofSegments_eq]
    split
    -- Without arguments the segments have become one name, which is one segment.
    · obtain ⟨name, text⟩ := exists_joined_identifier first rest
      refine ⟨.ofClass (.named name []) [], ?_, ?_⟩
      · rw [JavaType.signature, ← text, Identifier.text, String.toList_ofList]
        show 'L' :: ((name.chars ++ []) ++ ([] ++ [';'])) = _
        rw [List.append_nil, List.nil_append]
      · rw [← text]
        rfl
    · rename_i generic
      obtain ⟨first', segment, text⟩ := first.exists_printed
      obtain ⟨rest', segments, texts⟩ := SegmentTree.exists_list_printed rest
      refine ⟨.ofClass first' rest', ?_, ?_⟩
      · rw [JavaType.signature, GenericType.signature_ofSegments, ReferenceTree.text, text, texts,
          List.append_assoc (first.segment.1.toList ++ _)]
      · rw [ReferenceTree.type, segment, segments, JavaType.ofSegments_eq, if_neg generic]
  | .typeVariable name => by
    refine ⟨.typeVariable name, ?_, rfl⟩
    rw [ReferenceTree.type, JavaType.signature, Identifier.text, String.toList_ofList]
    rfl
  | .array component => by
    obtain ⟨printed, text, type⟩ := component.exists_printed
    refine ⟨.array printed, ?_, ?_⟩
    · rw [ReferenceTree.text, text]
      rfl
    · rw [ReferenceTree.type, type]
      rfl

theorem FieldTree.exists_printed : (tree : FieldTree) →
    ∃ printed : FieldTree, printed.text = tree.type.signature ∧ printed.type = tree.type
  | .primitive type valued => ⟨.primitive type valued, rfl, rfl⟩
  | .reference tree => by
    obtain ⟨printed, text, type⟩ := tree.exists_printed
    exact ⟨.reference printed, text, type⟩

theorem SegmentTree.exists_printed : (tree : SegmentTree) →
    ∃ printed : SegmentTree, printed.segment = tree.segment ∧ printed.text =
      tree.segment.1.toList ++ TypeArgument.listSignature tree.segment.2
  | .named name arguments => by
    obtain ⟨arguments', types, texts⟩ := ArgumentTree.exists_list_printed arguments
    refine ⟨.named name arguments', ?_, ?_⟩
    · rw [SegmentTree.segment, types]
      rfl
    · rw [SegmentTree.text, SegmentTree.segment, Identifier.text, String.toList_ofList, texts]

theorem SegmentTree.exists_list_printed : (trees : List SegmentTree) →
    ∃ printed : List SegmentTree,
      SegmentTree.segments printed = SegmentTree.segments trees ∧
      SegmentTree.texts printed = (SegmentTree.segments trees).flatMap fun segment =>
        '.' :: (segment.1.toList ++ TypeArgument.listSignature segment.2)
  | [] => ⟨[], rfl, rfl⟩
  | first :: rest => by
    obtain ⟨first', segment, text⟩ := first.exists_printed
    obtain ⟨rest', segments, texts⟩ := SegmentTree.exists_list_printed rest
    refine ⟨first' :: rest', ?_, ?_⟩
    · rw [SegmentTree.segments, SegmentTree.segments, segment, segments]
    · rw [SegmentTree.texts, SegmentTree.segments, List.flatMap_cons, text, texts, List.cons_append]

theorem ArgumentTree.exists_printed : (tree : ArgumentTree) →
    ∃ printed : ArgumentTree, printed.type = tree.type ∧ printed.text = tree.type.signature
  | .wildcard => ⟨.wildcard, rfl, rfl⟩
  | .atMost bound => by
    obtain ⟨printed, text, type⟩ := bound.exists_printed
    exact ⟨.atMost printed, congrArg TypeArgument.atMost type, congrArg (List.cons '+') text⟩
  | .atLeast bound => by
    obtain ⟨printed, text, type⟩ := bound.exists_printed
    exact ⟨.atLeast printed, congrArg TypeArgument.atLeast type, congrArg (List.cons '-') text⟩
  | .exactly tree => by
    obtain ⟨printed, text, type⟩ := tree.exists_printed
    exact ⟨.exactly printed, congrArg TypeArgument.exactly type, text⟩

theorem ArgumentTree.exists_list_printed : (trees : List ArgumentTree) →
    ∃ printed : List ArgumentTree,
      ArgumentTree.types printed = ArgumentTree.types trees ∧
      ArgumentTree.listText printed = TypeArgument.listSignature (ArgumentTree.types trees)
  | [] => ⟨[], rfl, rfl⟩
  | first :: rest => by
    obtain ⟨first', type, text⟩ := first.exists_printed
    obtain ⟨rest', types, texts⟩ := ArgumentTree.exists_texts_printed rest
    refine ⟨first' :: rest', ?_, ?_⟩
    · rw [ArgumentTree.types, ArgumentTree.types, type, types]
    · rw [ArgumentTree.listText, ArgumentTree.types, TypeArgument.listSignature, text, texts]

theorem ArgumentTree.exists_texts_printed : (trees : List ArgumentTree) →
    ∃ printed : List ArgumentTree,
      ArgumentTree.types printed = ArgumentTree.types trees ∧
      ArgumentTree.texts printed = TypeArgument.signatures (ArgumentTree.types trees)
  | [] => ⟨[], rfl, rfl⟩
  | first :: rest => by
    obtain ⟨first', type, text⟩ := first.exists_printed
    obtain ⟨rest', types, texts⟩ := ArgumentTree.exists_texts_printed rest
    refine ⟨first' :: rest', ?_, ?_⟩
    · rw [ArgumentTree.types, ArgumentTree.types, type, types]
    · rw [ArgumentTree.texts, ArgumentTree.types, TypeArgument.signatures, text, texts]

end

/-! ### Signatures of methods that are written -/

/-- What is written for a list is the text of a list of trees, if what is written
for an item is the text of a tree. -/
theorem exists_list_printed {σ τ : Type} {text : σ → List Char} {value : σ → τ}
    {write : τ → List Char}
    (each : ∀ tree, ∃ printed, text printed = write (value tree) ∧ value printed = value tree)
    (trees : List σ) :
    ∃ printed : List σ, printed.flatMap text = (trees.map value).flatMap write ∧
      printed.map value = trees.map value := by
  induction trees with
  | nil => exact ⟨[], rfl, rfl⟩
  | cons tree rest hypothesis =>
    obtain ⟨first, here, same⟩ := each tree
    obtain ⟨others, behind, more⟩ := hypothesis
    refine ⟨first :: others, ?_, ?_⟩
    · rw [List.flatMap_cons, List.map_cons, List.flatMap_cons, here, behind]
    · rw [List.map_cons, List.map_cons, same, more]

theorem ReferenceTree.exists_announced_printed (mark : Char) (trees : List ReferenceTree) :
    ∃ printed : List ReferenceTree,
      (printed.flatMap fun tree => mark :: tree.text) =
        (trees.map ReferenceTree.type).flatMap (fun type => mark :: type.signature) ∧
      printed.map ReferenceTree.type = trees.map ReferenceTree.type := by
  refine exists_list_printed (fun tree => ?_) trees
  obtain ⟨printed, text, type⟩ := tree.exists_printed
  exact ⟨printed, congrArg (List.cons mark) text, type⟩

/-- Behind bounds there is a colon if there are any, and otherwise what follows. -/
theorem ParameterTree.head_boundTexts_append (bounds : List ReferenceTree) (following : List Char) :
    (boundTexts bounds ++ following).head? = if bounds = [] then following.head? else some ':' := by
  cases bounds with
  | nil => rfl
  | cons bound more => rfl

theorem ParameterTree.exists_printed (tree : ParameterTree) :
    ∃ printed : ParameterTree, printed.text = tree.parameter.signature ∧
      printed.parameter = tree.parameter ∧
      ∀ following other : List Char, following.head? = other.head? →
        tree.Bounded following → printed.Bounded other := by
  obtain ⟨name, classBound?, interfaceBounds⟩ := tree
  obtain ⟨bounds, texts, types⟩ := ReferenceTree.exists_announced_printed ':' interfaceBounds
  have nothing : bounds = [] ↔ interfaceBounds = [] := by
    have lengths := congrArg List.length types
    rw [List.length_map, List.length_map] at lengths
    rw [← List.length_eq_zero_iff, lengths, List.length_eq_zero_iff]
  have head : ∀ following other : List Char, following.head? = other.head? →
      (boundTexts bounds ++ other).head? = (boundTexts interfaceBounds ++ following).head? := by
    intro following other same
    rw [head_boundTexts_append, head_boundTexts_append, same]
    exact ite_congr (propext nothing) (fun _ => rfl) fun _ => rfl
  have signature : ∀ bound? : Option ReferenceTree,
      bound?.elim [] ReferenceTree.text =
        (classBound?.map ReferenceTree.type).elim [] JavaType.signature →
      text ⟨name, bound?, bounds⟩ =
        (parameter ⟨name, classBound?, interfaceBounds⟩).signature := by
    intro bound? same
    rw [text, same, TypeParameter.signature, parameter, Identifier.text, String.toList_ofList,
      boundTexts, texts]
  cases classBound? with
  | none =>
    refine ⟨⟨name, none, bounds⟩, signature none rfl, ?_, ?_⟩
    · rw [parameter, parameter, types]
    · intro following other same bounded _
      rw [head following other same]
      exact bounded rfl
  | some bound =>
    obtain ⟨bound', boundText, boundType⟩ := bound.exists_printed
    refine ⟨⟨name, some bound', bounds⟩, signature (some bound') boundText, ?_, ?_⟩
    · rw [parameter, parameter, types, Option.map_some, Option.map_some, boundType]
    · intro following other same _ missing
      cases missing

theorem ParameterTree.head_text (tree : ParameterTree) (rest : List Char) :
    (tree.text ++ rest).head? = tree.parameter.name.toList.head? := by
  obtain ⟨⟨chars, nonempty, free⟩, classBound?, interfaceBounds⟩ := tree
  rw [parameter, Identifier.text, String.toList_ofList]
  cases chars with
  | nil => exact absurd rfl nonempty
  | cons c more => rfl

theorem ParameterTree.exists_list_printed {trees : List ParameterTree}
    (bounded : AllBounded trees) :
    ∃ printed : List ParameterTree,
      printed.flatMap text = (trees.map parameter).flatMap TypeParameter.signature ∧
      printed.map parameter = trees.map parameter ∧ AllBounded printed ∧
      (printed.flatMap text ++ ['>']).head? = (trees.flatMap text ++ ['>']).head? := by
  induction trees with
  | nil => exact ⟨[], rfl, rfl, trivial, rfl⟩
  | cons tree rest hypothesis =>
    obtain ⟨first, here, same, carried⟩ := tree.exists_printed
    obtain ⟨others, behind, more, allBounded, head⟩ := hypothesis bounded.2
    refine ⟨first :: others, ?_, ?_, ⟨carried _ _ head.symm bounded.1, allBounded⟩, ?_⟩
    · rw [List.flatMap_cons, List.map_cons, List.flatMap_cons, here, behind]
    · rw [List.map_cons, List.map_cons, same, more]
    · rw [List.flatMap_cons, List.flatMap_cons, List.append_assoc, List.append_assoc, head_text,
        head_text, same]

/-- What is written for the type parameters is the text of a list of trees, or of
no list where there are none. -/
theorem MethodTree.exists_parameters_printed {trees? : Option (List ParameterTree)}
    (bounded : ∀ trees ∈ trees?, ParameterTree.AllBounded trees) :
    ∃ printed? : Option (List ParameterTree),
      parametersText printed? =
        TypeParameter.listSignature ((trees?.getD []).map ParameterTree.parameter) ∧
      (printed?.getD []).map ParameterTree.parameter =
        (trees?.getD []).map ParameterTree.parameter ∧
      ∀ trees ∈ printed?, ParameterTree.AllBounded trees := by
  cases trees? with
  | none => exact ⟨none, rfl, rfl, nofun⟩
  | some trees =>
    cases trees with
    | nil => exact ⟨none, rfl, rfl, nofun⟩
    | cons first rest =>
      obtain ⟨printed, text, parameters, allBounded, -⟩ :=
        ParameterTree.exists_list_printed (bounded _ rfl)
      refine ⟨some printed, ?_, parameters, ?_⟩
      · rw [parametersText, text]
        rfl
      · rintro _ ⟨⟩
        exact allBounded

theorem MethodTree.exists_result_printed (tree? : Option FieldTree) :
    ∃ printed? : Option FieldTree, resultText printed? = (resultType tree?).signature ∧
      resultType printed? = resultType tree? := by
  cases tree? with
  | none => exact ⟨none, rfl, rfl⟩
  | some tree =>
    obtain ⟨printed, text, type⟩ := tree.exists_printed
    exact ⟨some printed, text, type⟩

/-- What is written for the signature of a method is the text of a tree of the same
signature. -/
theorem MethodTree.exists_printed (tree : MethodTree) :
    ∃ printed : MethodTree, printed.text = tree.signature.written ∧
      printed.signature = tree.signature := by
  obtain ⟨parameters?, arguments, result?, throws, bounded⟩ := tree
  obtain ⟨parameters?', parametersText, parameters, bounded'⟩ := exists_parameters_printed bounded
  obtain ⟨arguments', argumentTexts, argumentTypes⟩ :=
    exists_list_printed FieldTree.exists_printed arguments
  obtain ⟨result?', resultText, resultType⟩ := exists_result_printed result?
  obtain ⟨throws', throwTexts, throwTypes⟩ := ReferenceTree.exists_announced_printed '^' throws
  refine ⟨⟨parameters?', arguments', result?', throws', bounded'⟩, ?_, ?_⟩
  · rw [text, parametersText, argumentTexts, resultText, throwTexts]
    rfl
  · rw [signature, parameters, argumentTypes, resultType, throwTypes]
    rfl

end ClassMembers
