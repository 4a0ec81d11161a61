/-
This file proves that the grammar is not ambiguous: no two trees have the same
text. Where two trees stand in front of the same characters the scanner has told
already that their texts end at the same place, so equal texts are made of equal
parts. The induction follows the trees.
-/

import ClassMembers.Proofs.Signature.Acceptance

namespace ClassMembers

open Scanner

/-! ### Texts in front of the same characters -/

theorem Identifier.cancel {stops : List Char} {first second : Identifier stops}
    {rest other : List Char} (same : first.chars ++ rest = second.chars ++ other)
    (here : ∀ c, rest.head? = some c → c ∈ stops) (there : ∀ c, other.head? = some c → c ∈ stops) :
    first = second ∧ rest = other := by
  have one := identifier_eq_ok.mpr ⟨first, rfl, rfl, here⟩
  have two := identifier_eq_ok.mpr ⟨second, same, rfl, there⟩
  rw [one] at two
  injection two with name behind
  exact ⟨eq_of_text name, behind⟩

theorem ReferenceTree.cancel {first second : ReferenceTree} {rest other : List Char}
    (same : first.text ++ rest = second.text ++ other) :
    first.text = second.text ∧ rest = other :=
  (scanReference_accepts _).cancel (Nat.le_refl _) same trivial trivial

theorem FieldTree.cancel {first second : FieldTree} {rest other : List Char}
    (same : first.text ++ rest = second.text ++ other) :
    first.text = second.text ∧ rest = other :=
  (scanFieldType_accepts _).cancel (Nat.le_refl _) same trivial trivial

theorem ArgumentTree.cancel {first second : ArgumentTree} {rest other : List Char}
    (same : first.text ++ rest = second.text ++ other) :
    first.text = second.text ∧ rest = other :=
  (scanTypeArgument_accepts (scanReference_accepts _)).cancel (Nat.le_refl _) same trivial trivial

theorem SegmentTree.cancel {first second : SegmentTree} {rest other : List Char}
    (same : first.text ++ rest = second.text ++ other) (here : first.Ends rest)
    (there : second.Ends other) : first.text = second.text ∧ rest = other :=
  (scanClassSegment_accepts (scanReference_accepts _)).cancel (Nat.le_refl _) same here there

theorem ParameterTree.cancel {first second : ParameterTree} {rest other : List Char}
    (same : first.text ++ rest = second.text ++ other) (here : first.Ends rest)
    (there : second.Ends other) : first.text = second.text ∧ rest = other :=
  (scanTypeParameter_accepts _).cancel (Nat.le_refl _) same here there

theorem FieldTree.primitive_ne_reference (type : PrimitiveType) (tree : ReferenceTree) :
    [type.letter] ≠ tree.text := by
  obtain ⟨c, more, begins, inside⟩ := tree.begins
  rw [begins]
  intro same
  cases same
  revert inside
  cases type <;> decide

/-- Arguments, or the end of a name without any, begin with a stop. -/
theorem ArgumentTree.head_listText {arguments : List ArgumentTree} {c : Char}
    (next : (listText arguments).head? = some c) : c ∈ classNameStops := by
  cases arguments with
  | nil => cases next
  | cons first rest =>
    cases next
    decide

/-- An argument that does not bring its own mark is a reference type. -/
theorem ArgumentTree.marked_ne_exactly {mark : Char} (other : mark ∉ referenceMarks)
    (rest : List Char) (tree : ReferenceTree) : mark :: rest ≠ tree.text := by
  intro same
  have head := tree.head_ne other []
  rw [List.append_nil, ← same] at head
  exact head rfl

/-! ### Types -/

mutual

/-- A reference type is derived in one way only. -/
theorem ReferenceTree.eq_of_text :
    (first second : ReferenceTree) → first.text = second.text → first = second
  | .ofClass first others, .ofClass second more, same => by
    rw [ReferenceTree.text, ReferenceTree.text, SegmentTree.texts_eq_flatMap,
      SegmentTree.texts_eq_flatMap] at same
    injection same with _ same
    obtain ⟨front, behind⟩ :=
      SegmentTree.cancel same (first.ends_texts others []) (second.ends_texts more [])
    rw [first.eq_of_text second front, SegmentTree.list_eq_of_texts others more behind]
  | .typeVariable first, .typeVariable second, same => by
    injection same with _ same
    rw [Identifier.eq_of_chars (List.append_cancel_right same)]
  | .array first, .array second, same => by
    injection same with _ same
    rw [first.eq_of_text second same]
  | .ofClass _ _, .typeVariable _, same => by cases same
  | .ofClass _ _, .array _, same => by cases same
  | .typeVariable _, .ofClass _ _, same => by cases same
  | .typeVariable _, .array _, same => by cases same
  | .array _, .ofClass _ _, same => by cases same
  | .array _, .typeVariable _, same => by cases same

theorem FieldTree.eq_of_text :
    (first second : FieldTree) → first.text = second.text → first = second
  | .primitive first _, .primitive second _, same => by
    injection same with letters
    have found := PrimitiveType.ofLetter?_eq_some.mpr letters
    rw [PrimitiveType.ofLetter?_eq_some.mpr rfl] at found
    cases found
    rfl
  | .reference first, .reference second, same => by rw [first.eq_of_text second same]
  | .primitive type _, .reference tree, same =>
    absurd same (FieldTree.primitive_ne_reference type tree)
  | .reference tree, .primitive type _, same =>
    absurd same.symm (FieldTree.primitive_ne_reference type tree)

theorem SegmentTree.eq_of_text :
    (first second : SegmentTree) → first.text = second.text → first = second
  | .named first arguments, .named second others, same => by
    obtain ⟨rfl, behind⟩ := Identifier.cancel same
      (fun _ => ArgumentTree.head_listText) (fun _ => ArgumentTree.head_listText)
    rw [ArgumentTree.list_eq_of_listText arguments others behind]

theorem SegmentTree.list_eq_of_texts : (first second : List SegmentTree) →
    (first.flatMap fun segment => '.' :: segment.text) ++ [';'] =
      (second.flatMap fun segment => '.' :: segment.text) ++ [';'] → first = second
  | [], [], _ => rfl
  | [], _ :: _, same => by cases same
  | _ :: _, [], same => by cases same
  | first :: others, second :: more, same => by
    rw [List.flatMap_cons, List.flatMap_cons, List.append_assoc, List.append_assoc] at same
    injection same with _ same
    obtain ⟨front, behind⟩ :=
      SegmentTree.cancel same (first.ends_texts others []) (second.ends_texts more [])
    rw [first.eq_of_text second front, SegmentTree.list_eq_of_texts others more behind]

theorem ArgumentTree.eq_of_text :
    (first second : ArgumentTree) → first.text = second.text → first = second
  | .wildcard, .wildcard, _ => rfl
  | .atMost first, .atMost second, same => by
    injection same with _ same
    rw [first.eq_of_text second same]
  | .atLeast first, .atLeast second, same => by
    injection same with _ same
    rw [first.eq_of_text second same]
  | .exactly first, .exactly second, same => by rw [first.eq_of_text second same]
  | .wildcard, .atMost _, same => by cases same
  | .wildcard, .atLeast _, same => by cases same
  | .atMost _, .wildcard, same => by cases same
  | .atMost _, .atLeast _, same => by cases same
  | .atLeast _, .wildcard, same => by cases same
  | .atLeast _, .atMost _, same => by cases same
  | .wildcard, .exactly tree, same =>
    absurd same (ArgumentTree.marked_ne_exactly (by decide) _ tree)
  | .atMost _, .exactly tree, same =>
    absurd same (ArgumentTree.marked_ne_exactly (by decide) _ tree)
  | .atLeast _, .exactly tree, same =>
    absurd same (ArgumentTree.marked_ne_exactly (by decide) _ tree)
  | .exactly tree, .wildcard, same =>
    absurd same.symm (ArgumentTree.marked_ne_exactly (by decide) _ tree)
  | .exactly tree, .atMost _, same =>
    absurd same.symm (ArgumentTree.marked_ne_exactly (by decide) _ tree)
  | .exactly tree, .atLeast _, same =>
    absurd same.symm (ArgumentTree.marked_ne_exactly (by decide) _ tree)

theorem ArgumentTree.list_eq_of_listText : (first second : List ArgumentTree) →
    ArgumentTree.listText first = ArgumentTree.listText second → first = second
  | [], [], _ => rfl
  | [], _ :: _, same => by cases same
  | _ :: _, [], same => by cases same
  | first :: others, second :: more, same => by
    injection same with _ same
    obtain ⟨front, behind⟩ := ArgumentTree.cancel same
    rw [first.eq_of_text second front, ArgumentTree.list_eq_of_texts others more behind]

theorem ArgumentTree.list_eq_of_texts : (first second : List ArgumentTree) →
    ArgumentTree.texts first ++ ['>'] = ArgumentTree.texts second ++ ['>'] → first = second
  | [], [], _ => rfl
  | [], second :: more, same => by
    obtain ⟨c, behind, begins, other⟩ := second.begins
    rw [ArgumentTree.texts, ArgumentTree.texts, begins] at same
    injection same with same
    exact absurd same.symm other
  | first :: others, [], same => by
    obtain ⟨c, behind, begins, other⟩ := first.begins
    rw [ArgumentTree.texts, ArgumentTree.texts, begins] at same
    injection same with same
    exact absurd same other
  | first :: others, second :: more, same => by
    rw [ArgumentTree.texts, ArgumentTree.texts, List.append_assoc, List.append_assoc] at same
    obtain ⟨front, behind⟩ := ArgumentTree.cancel same
    rw [first.eq_of_text second front, ArgumentTree.list_eq_of_texts others more behind]

end

/-! ### Lists -/

/-- Items in front of a closing mark are the same, if one item is. -/
theorem list_cancel {σ : Type} {text : σ → List Char} {demand : σ → List Char → Prop} {close : Char}
    (cancel : ∀ {first second : σ} {rest other : List Char},
      text first ++ rest = text second ++ other → demand first rest → demand second other →
        first = second ∧ rest = other)
    (opens : ∀ tree, ∃ c more, text tree = c :: more ∧ c ≠ close)
    {first second : List σ} {rest other : List Char}
    (same : first.flatMap text ++ close :: rest = second.flatMap text ++ close :: other)
    (here : Demanded text demand first (close :: rest))
    (there : Demanded text demand second (close :: other)) : first = second ∧ rest = other := by
  have closed : ∀ (tree : σ) (front behind left : List Char),
      close :: left ≠ text tree ++ front ++ behind := by
    intro tree front behind left same
    obtain ⟨c, more, begins, different⟩ := opens tree
    rw [begins] at same
    injection same with same
    exact different same.symm
  induction first generalizing second with
  | nil =>
    cases second with
    | nil =>
      injection same with _ same
      exact ⟨rfl, same⟩
    | cons tree more => exact absurd same (closed tree _ _ _)
  | cons tree more hypothesis =>
    cases second with
    | nil => exact absurd same.symm (closed tree _ _ _)
    | cons tree' more' =>
      rw [List.flatMap_cons, List.flatMap_cons, List.append_assoc, List.append_assoc] at same
      obtain ⟨rfl, behind⟩ := cancel same here.1 there.1
      obtain ⟨rfl, left⟩ := hypothesis behind here.2 there.2
      exact ⟨rfl, left⟩

/-- Reference types of which a mark announces each are the same. -/
theorem ReferenceTree.list_eq_of_announced {mark : Char} {first second : List ReferenceTree}
    (same : (first.flatMap fun tree => mark :: tree.text) =
      second.flatMap fun tree => mark :: tree.text) : first = second := by
  induction first generalizing second with
  | nil =>
    cases second with
    | nil => rfl
    | cons tree more => cases same
  | cons tree more hypothesis =>
    cases second with
    | nil => cases same
    | cons tree' more' =>
      rw [List.flatMap_cons, List.flatMap_cons] at same
      injection same with _ same
      obtain ⟨front, behind⟩ := ReferenceTree.cancel same
      rw [tree.eq_of_text tree' front, hypothesis behind]

/-! ### Signatures of methods -/

theorem ParameterTree.head_boundTexts {bounds : List ReferenceTree} {c : Char}
    (next : (boundTexts bounds).head? = some c) : c = ':' := by
  cases bounds with
  | nil => cases next
  | cons bound more =>
    cases next
    rfl

theorem ParameterTree.boundTexts_ne (bounds others : List ReferenceTree) (tree : ReferenceTree) :
    boundTexts bounds ≠ tree.text ++ boundTexts others := by
  intro same
  obtain ⟨c, more, begins, inside⟩ := tree.begins
  rw [begins] at same
  have colon := head_boundTexts (congrArg List.head? same)
  subst colon
  revert inside
  decide

theorem ParameterTree.eq_of_text {first second : ParameterTree} (same : first.text = second.text) :
    first = second := by
  obtain ⟨name, bound?, bounds⟩ := first
  obtain ⟨name', bound?', bounds'⟩ := second
  have colon : ∀ (rest : List Char) (c : Char), (':' :: rest).head? = some c →
      c ∈ typeParameterStops := by
    intro rest c next
    cases next
    decide
  obtain ⟨rfl, behind⟩ := Identifier.cancel same (colon _) (colon _)
  injection behind with _ behind
  cases bound? with
  | none =>
    cases bound?' with
    | none =>
      obtain rfl := ReferenceTree.list_eq_of_announced behind
      rfl
    | some tree' => exact absurd behind (boundTexts_ne bounds bounds' tree')
  | some tree =>
    cases bound?' with
    | none => exact absurd behind.symm (boundTexts_ne bounds' bounds tree)
    | some tree' =>
      obtain ⟨front, behind⟩ := ReferenceTree.cancel behind
      obtain rfl := tree.eq_of_text tree' front
      obtain rfl := ReferenceTree.list_eq_of_announced behind
      rfl

theorem MethodTree.parameters_cancel {first second : Option (List ParameterTree)}
    {rest other : List Char} (here : ∀ parameters ∈ first, ParameterTree.AllBounded parameters)
    (there : ∀ parameters ∈ second, ParameterTree.AllBounded parameters)
    (same : parametersText first ++ '(' :: rest = parametersText second ++ '(' :: other) :
    first = second ∧ rest = other := by
  cases first with
  | none =>
    cases second with
    | none =>
      injection same with _ same
      exact ⟨rfl, same⟩
    | some parameters => cases same
  | some parameters =>
    cases second with
    | none => cases same
    | some parameters' =>
      rw [parametersText, parametersText, List.cons_append, List.cons_append, List.append_assoc,
        List.append_assoc] at same
      injection same with _ same
      have cancel : ∀ {first second : ParameterTree} {rest other : List Char},
          first.text ++ rest = second.text ++ other → first.Ends rest → second.Ends other →
            first = second ∧ rest = other := by
        intro first second rest other same here there
        obtain ⟨front, behind⟩ := ParameterTree.cancel same here there
        exact ⟨ParameterTree.eq_of_text front, behind⟩
      have opens : ∀ tree : ParameterTree, ∃ c more, tree.text = c :: more ∧ c ≠ '>' := by
        intro tree
        obtain ⟨c, more, begins, free⟩ := tree.begins
        refine ⟨c, more, begins, ?_⟩
        rintro rfl
        exact free (by decide)
      obtain ⟨rfl, behind⟩ := list_cancel cancel opens same
        ((ParameterTree.demanded_ends_iff _ _).mpr (here _ rfl))
        ((ParameterTree.demanded_ends_iff _ _).mpr (there _ rfl))
      injection behind with _ behind
      exact ⟨rfl, behind⟩

theorem MethodTree.result_cancel {first second : Option FieldTree} {rest other : List Char}
    (same : resultText first ++ rest = resultText second ++ other) :
    first = second ∧ rest = other := by
  have void : ∀ (tree : FieldTree) (left behind : List Char),
      'V' :: left ≠ tree.text ++ behind := by
    intro tree left behind same
    have done := (scanFieldType_accepts _ ('V' :: left) (Nat.le_refl _) _ _).mpr
      ⟨tree, same, rfl, trivial⟩
    cases done
  cases first with
  | none =>
    cases second with
    | none =>
      injection same with _ same
      exact ⟨rfl, same⟩
    | some tree => exact absurd same (void tree _ _)
  | some tree =>
    cases second with
    | none => exact absurd same.symm (void tree _ _)
    | some tree' =>
      obtain ⟨front, behind⟩ := FieldTree.cancel same
      rw [tree.eq_of_text tree' front]
      exact ⟨rfl, behind⟩

/-- A signature of a method is derived in one way only. -/
theorem MethodTree.eq_of_text {first second : MethodTree} (same : first.text = second.text) :
    first = second := by
  obtain ⟨parameters?, arguments, result?, throws, bounded⟩ := first
  obtain ⟨parameters?', arguments', result?', throws', bounded'⟩ := second
  have cancel : ∀ {first second : FieldTree} {rest other : List Char},
      first.text ++ rest = second.text ++ other → True → True → first = second ∧ rest = other := by
    intro first second rest other same _ _
    obtain ⟨front, behind⟩ := FieldTree.cancel same
    exact ⟨first.eq_of_text second front, behind⟩
  have free : ∀ (trees : List FieldTree) (rest : List Char),
      Demanded FieldTree.text (fun _ _ => True) trees rest :=
    demanded_of_forall fun _ _ => trivial
  obtain ⟨rfl, same⟩ := parameters_cancel bounded bounded' same
  obtain ⟨rfl, same⟩ := list_cancel cancel FieldTree.begins same (free _ _) (free _ _)
  obtain ⟨rfl, same⟩ := result_cancel same
  obtain rfl := ReferenceTree.list_eq_of_announced same
  rfl

end ClassMembers
