/-
This file proves that the scanner of types and of signatures of methods accepts
its grammar and nothing else, and yields what the derivation stands for. Each
scanner is treated under the assumption that the scanner of the reference types
inside accepts their trees in front of fewer characters. The scanner of reference
types has a bound on its depth, and the induction on the bound discharges the
assumption, because every level takes a character.
-/

import ClassMembers.Proofs.Signature.Scanning

namespace ClassMembers

open Scanner Sequencing

/-! ### First characters -/

theorem ReferenceTree.begins (tree : ReferenceTree) :
    ∃ c more, tree.text = c :: more ∧ c ∈ referenceMarks := by
  cases tree with
  | ofClass first rest => exact ⟨'L', _, rfl, by decide⟩
  | typeVariable name => exact ⟨'T', _, rfl, by decide⟩
  | array component => exact ⟨'[', _, rfl, by decide⟩

/-- A reference type does not begin with any mark between types. -/
theorem ReferenceTree.head_ne (tree : ReferenceTree) {mark : Char} (other : mark ∉ referenceMarks)
    (rest : List Char) : (tree.text ++ rest).head? ≠ some mark := by
  obtain ⟨c, more, begins, inside⟩ := tree.begins
  rw [begins]
  intro same
  cases same
  exact other inside

theorem FieldTree.begins (tree : FieldTree) : ∃ c more, tree.text = c :: more ∧ c ≠ ')' := by
  cases tree with
  | primitive type valued => exact ⟨type.letter, [], rfl, by cases type <;> decide⟩
  | reference type =>
    obtain ⟨c, more, begins, inside⟩ := type.begins
    refine ⟨c, more, begins, ?_⟩
    rintro rfl
    revert inside
    decide

theorem ArgumentTree.begins (tree : ArgumentTree) : ∃ c more, tree.text = c :: more ∧ c ≠ '>' := by
  cases tree with
  | wildcard => exact ⟨'*', [], rfl, by decide⟩
  | atMost bound => exact ⟨'+', _, rfl, by decide⟩
  | atLeast bound => exact ⟨'-', _, rfl, by decide⟩
  | exactly type =>
    obtain ⟨c, more, begins, inside⟩ := type.begins
    refine ⟨c, more, begins, ?_⟩
    rintro rfl
    revert inside
    decide

/-! ### Class types -/

/-- A scanner of reference types, in front of no more characters than the bound. -/
abbrev AcceptsReferences (reference : Scanner JavaType) (bound : Nat) : Prop :=
  Accepts reference bound ReferenceTree.text ReferenceTree.type fun _ _ => True

section Inner

variable {reference : Scanner JavaType} {bound : Nat}

theorem scanTypeArgument_accepts (accepts : AcceptsReferences reference bound) :
    Accepts (scanTypeArgument reference) bound ArgumentTree.text ArgumentTree.type
      fun _ _ => True := by
  intro chars small result rest
  unfold scanTypeArgument
  constructor
  · intro done
    by_cases star : chars.head? = some '*'
    · obtain ⟨more, rfl⟩ := List.head?_eq_some_iff.mp star
      rw [eat_then] at done
      cases done
      exact ⟨.wildcard, rfl, rfl, trivial⟩
    rw [eat_else star] at done
    by_cases plus : chars.head? = some '+'
    · obtain ⟨more, rfl⟩ := List.head?_eq_some_iff.mp plus
      rw [eat_then] at done
      obtain ⟨tree, rfl, rfl, -⟩ := (accepts.bind_pure_eq_ok (Nat.le_of_succ_le small)).mp done
      exact ⟨.atMost tree, rfl, rfl, trivial⟩
    rw [eat_else plus] at done
    by_cases minus : chars.head? = some '-'
    · obtain ⟨more, rfl⟩ := List.head?_eq_some_iff.mp minus
      rw [eat_then] at done
      obtain ⟨tree, rfl, rfl, -⟩ := (accepts.bind_pure_eq_ok (Nat.le_of_succ_le small)).mp done
      exact ⟨.atLeast tree, rfl, rfl, trivial⟩
    rw [eat_else minus] at done
    obtain ⟨tree, rfl, rfl, -⟩ := (accepts.bind_pure_eq_ok small).mp done
    exact ⟨.exactly tree, rfl, rfl, trivial⟩
  · rintro ⟨tree, rfl, rfl, -⟩
    cases tree with
    | wildcard => exact eat_then
    | atMost type =>
      rw [eat_else (by rintro ⟨⟩), ArgumentTree.text, List.cons_append, eat_then]
      exact (accepts.bind_pure_eq_ok (Nat.le_of_succ_le small)).mpr ⟨type, rfl, rfl, trivial⟩
    | atLeast type =>
      rw [eat_else (by rintro ⟨⟩), eat_else (by rintro ⟨⟩), ArgumentTree.text, List.cons_append,
        eat_then]
      exact (accepts.bind_pure_eq_ok (Nat.le_of_succ_le small)).mpr ⟨type, rfl, rfl, trivial⟩
    | exactly type =>
      rw [ArgumentTree.text, eat_else (type.head_ne (by decide) rest),
        eat_else (type.head_ne (by decide) rest), eat_else (type.head_ne (by decide) rest)]
      exact (accepts.bind_pure_eq_ok small).mpr ⟨type, rfl, rfl, trivial⟩

theorem scanTypeArguments_eq_ok (accepts : AcceptsReferences reference bound)
    {chars rest : List Char} (small : chars.length ≤ bound) {arguments : List TypeArgument} :
    scanTypeArguments reference chars = .ok arguments rest ↔
      ∃ trees, chars = ArgumentTree.listText trees ++ rest ∧
        ArgumentTree.types trees = arguments ∧ (trees = [] → rest.head? ≠ some '<') := by
  unfold scanTypeArguments
  by_cases opened : chars.head? = some '<'
  · obtain ⟨more, rfl⟩ := List.head?_eq_some_iff.mp opened
    have items := fun (results : List TypeArgument) (left : List Char) =>
      @untilMark_eq_ok _ _ _ _ _ _ _ '>' (scanTypeArgument_accepts accepts) ArgumentTree.begins
        more left (Nat.le_of_succ_le small) results
    rw [eat_then]
    constructor
    · intro done
      obtain ⟨found, middle, here, behind⟩ := bind_eq_ok.mp done
      obtain ⟨trees, rfl, rfl, -⟩ := (items found middle).mp here
      cases trees with
      | nil => cases behind
      | cons first others =>
        cases behind
        refine ⟨first :: others, ?_, ArgumentTree.types_eq_map _, nofun⟩
        rw [ArgumentTree.listText_of_ne_nil (by simp), List.cons_append, List.append_assoc]
        rfl
    · rintro ⟨trees, split, rfl, absent⟩
      cases trees with
      | nil =>
        rw [ArgumentTree.listText, List.nil_append] at split
        exact absurd (congrArg List.head? split.symm) (absent rfl)
      | cons first others =>
        rw [ArgumentTree.listText_of_ne_nil (by simp), List.cons_append, List.append_assoc] at split
        injection split with _ split
        have here := (items _ rest).mpr
          ⟨first :: others, split, rfl, demanded_of_forall (fun _ _ => trivial) _ _⟩
        rw [bind_of_ok here, ArgumentTree.types_eq_map]
        rfl
  · rw [eat_else opened]
    constructor
    · intro done
      cases done
      exact ⟨[], rfl, rfl, fun _ => opened⟩
    · rintro ⟨trees, rfl, rfl, -⟩
      cases trees with
      | nil => rfl
      | cons first others => exact absurd rfl opened

/-- What may follow a class name with its arguments: if it has none, a point or a
semicolon, for otherwise the name would go on or a list of arguments would begin. -/
def SegmentTree.Ends : SegmentTree → List Char → Prop
  | .named _ arguments, rest => arguments = [] → ∀ c, rest.head? = some c → c = ';' ∨ c = '.'

theorem scanClassSegment_accepts (accepts : AcceptsReferences reference bound) :
    Accepts (scanClassSegment reference) bound SegmentTree.text SegmentTree.segment
      SegmentTree.Ends := by
  intro chars small result rest
  constructor
  · intro done
    obtain ⟨text, middle, named, behind⟩ := bind_eq_ok.mp done
    obtain ⟨arguments, left, listed, same⟩ := bind_eq_ok.mp behind
    cases same
    obtain ⟨name, rfl, rfl, stopped⟩ := identifier_eq_ok.mp named
    rw [List.length_append] at small
    obtain ⟨trees, rfl, rfl, absent⟩ := (scanTypeArguments_eq_ok accepts (by omega)).mp listed
    refine ⟨.named name trees, (List.append_assoc _ _ _).symm, rfl, ?_⟩
    rintro rfl c next
    have stop := stopped c next
    have other : c ≠ '<' := fun same => absent rfl (same ▸ next)
    simpa [classNameStops, other] using stop
  · rintro ⟨⟨name, trees⟩, rfl, rfl, ends⟩
    rw [SegmentTree.text, List.append_assoc] at small ⊢
    have stopped : ∀ c, (ArgumentTree.listText trees ++ rest).head? = some c →
        c ∈ classNameStops := by
      intro c next
      cases trees with
      | nil =>
        rcases ends rfl c next with rfl | rfl
        · decide
        · decide
      | cons first others =>
        cases next
        decide
    have absent : trees = [] → rest.head? ≠ some '<' := by
      intro none next
      rcases ends none '<' next with same | same
      · revert same
        decide
      · revert same
        decide
    have named := identifier_eq_ok.mpr ⟨name, rfl, rfl, stopped⟩
    rw [List.length_append] at small
    have listed := (scanTypeArguments_eq_ok accepts (Nat.le_of_add_left_le small)).mpr
      ⟨trees, rfl, rfl, absent⟩
    exact (bind_of_ok named).trans (bind_of_ok listed)

/-- Behind a segment of a class type come the next one or the end. -/
theorem SegmentTree.ends_texts (segment : SegmentTree) (others : List SegmentTree)
    (rest : List Char) :
    segment.Ends ((others.flatMap fun other => '.' :: other.text) ++ ';' :: rest) := by
  obtain ⟨name, arguments⟩ := segment
  rintro - c next
  cases others with
  | nil =>
    cases next
    exact .inl rfl
  | cons other more =>
    cases next
    exact .inr rfl

theorem SegmentTree.demanded_ends (others : List SegmentTree) (rest : List Char) :
    Demanded (fun segment => '.' :: segment.text) SegmentTree.Ends others (';' :: rest) := by
  induction others with
  | nil => trivial
  | cons other more hypothesis => exact ⟨other.ends_texts more rest, hypothesis⟩

theorem scanClassType_eq_ok (accepts : AcceptsReferences reference bound)
    {chars rest : List Char} (small : chars.length ≤ bound) {type : JavaType} :
    scanClassType reference chars = .ok type rest ↔
      ∃ first others, 'L' :: chars = ReferenceTree.text (.ofClass first others) ++ rest ∧
        ReferenceTree.type (.ofClass first others) = type := by
  have segments := scanClassSegment_accepts accepts
  constructor
  · intro done
    obtain ⟨first, middle, here, behind⟩ := bind_eq_ok.mp done
    obtain ⟨others, left, more, last⟩ := bind_eq_ok.mp behind
    obtain ⟨_, ending, closed, same⟩ := bind_eq_ok.mp last
    cases same
    obtain ⟨tree, rfl, rfl, -⟩ := (segments chars small _ _).mp here
    rw [List.length_append] at small
    obtain ⟨trees, rfl, rfl, -⟩ := (announced_eq_ok segments (by omega)).mp more
    rw [expect_eq_ok.mp closed]
    refine ⟨tree, trees, ?_, ?_⟩
    · rw [ReferenceTree.text, SegmentTree.texts_eq_flatMap]
      simp only [List.cons_append, List.append_assoc, List.nil_append]
    · rw [ReferenceTree.type, SegmentTree.segments_eq_map]
  · rintro ⟨tree, trees, split, rfl⟩
    rw [ReferenceTree.text, SegmentTree.texts_eq_flatMap] at split
    simp only [List.cons_append, List.append_assoc, List.nil_append] at split
    injection split with _ split
    have here := (segments chars small _ _).mpr ⟨tree, split, rfl, tree.ends_texts trees rest⟩
    rw [split, List.length_append] at small
    have more := (announced_eq_ok segments (Nat.le_of_add_left_le small)).mpr
      ⟨trees, rfl, rfl, SegmentTree.demanded_ends trees rest, by simp⟩
    have closed : expect ';' .unclosedClass (';' :: rest) = .ok () rest := expect_eq_ok.mpr rfl
    rw [ReferenceTree.type, SegmentTree.segments_eq_map]
    exact (bind_of_ok here).trans ((bind_of_ok more).trans (bind_of_ok closed))

/-! ### Reference types and types of fields -/

theorem scanTypeVariable_eq_ok {chars rest : List Char} {type : JavaType} :
    scanTypeVariable chars = .ok type rest ↔
      ∃ name, 'T' :: chars = ReferenceTree.text (.typeVariable name) ++ rest ∧
        ReferenceTree.type (.typeVariable name) = type := by
  constructor
  · intro done
    obtain ⟨text, middle, named, behind⟩ := bind_eq_ok.mp done
    obtain ⟨_, left, closed, same⟩ := bind_eq_ok.mp behind
    cases same
    obtain ⟨name, rfl, rfl, -⟩ := identifier_eq_ok.mp named
    rw [expect_eq_ok.mp closed]
    refine ⟨name, ?_, rfl⟩
    rw [ReferenceTree.text, List.cons_append, List.append_assoc]
    rfl
  · rintro ⟨name, split, rfl⟩
    rw [ReferenceTree.text, List.cons_append, List.append_assoc] at split
    injection split with _ split
    have stopped : ∀ c, ([';'] ++ rest).head? = some c → c ∈ [';'] := by
      intro c next
      cases next
      decide
    have named := identifier_eq_ok.mpr ⟨name, split, rfl, stopped⟩
    have closed : expect ';' .unclosedVariable (';' :: rest) = .ok () rest := expect_eq_ok.mpr rfl
    exact (bind_of_ok named).trans (bind_of_ok closed)

/-- A letter alone is a primitive type other than `void`. -/
theorem scanLetter_eq_ok {first : Char} {more rest : List Char} {result : JavaType} :
    ((if first = 'V' then .error .misplacedVoid (first :: more)
      else match PrimitiveType.ofLetter? first with
        | some type => .ok (.primitive type) more
        | none => .error .unknownTag (first :: more)) :
          EStateM.Result SignatureFault (List Char) JavaType) = .ok result rest ↔
      ∃ type : PrimitiveType, type ≠ .void ∧ type.letter = first ∧ more = rest ∧
        .primitive type = result := by
  constructor
  · intro done
    split at done
    · cases done
    · rename_i present
      split at done
      · rename_i type found
        cases done
        obtain rfl := PrimitiveType.ofLetter?_eq_some.mp found
        refine ⟨type, ?_, rfl, rfl, rfl⟩
        rintro rfl
        exact present rfl
      · cases done
  · rintro ⟨type, valued, rfl, rfl, rfl⟩
    have present : type.letter ≠ 'V' := by
      intro same
      have void := PrimitiveType.ofLetter?_eq_some.mpr same
      cases void
      exact valued rfl
    rw [if_neg present, PrimitiveType.ofLetter?_eq_some.mpr rfl]

theorem scanFieldTypeWith_accepts (accepts : AcceptsReferences reference bound) :
    Accepts (scanFieldTypeWith reference) bound FieldTree.text FieldTree.type
      fun _ _ => True := by
  intro chars small result rest
  cases chars with
  | nil =>
    constructor
    · intro done
      cases done
    · rintro ⟨tree, split, -⟩
      obtain ⟨c, more, begins, -⟩ := tree.begins
      rw [begins] at split
      cases split
  | cons first more =>
    rw [scanFieldTypeWith]
    by_cases marked : referenceMarks.contains first = true
    · rw [if_pos marked, accepts _ small]
      constructor
      · rintro ⟨tree, split, rfl, -⟩
        exact ⟨.reference tree, split, rfl, trivial⟩
      · rintro ⟨tree, split, rfl, -⟩
        cases tree with
        | reference tree => exact ⟨tree, split, rfl, trivial⟩
        | primitive type valued =>
          cases split
          cases type <;> cases marked
    · rw [if_neg marked]
      refine scanLetter_eq_ok.trans ?_
      constructor
      · rintro ⟨type, valued, rfl, rfl, rfl⟩
        exact ⟨.primitive type valued, rfl, rfl, trivial⟩
      · rintro ⟨tree, split, rfl, -⟩
        cases tree with
        | primitive type valued =>
          cases split
          exact ⟨type, valued, rfl, rfl, rfl⟩
        | reference tree =>
          obtain ⟨c, others, begins, inside⟩ := tree.begins
          rw [FieldTree.text, begins] at split
          cases split
          exact absurd (List.contains_iff_mem.mpr inside) marked

end Inner

/-- The first character of a reference type tells what it is. -/
theorem ReferenceTree.exists_ofClass_iff {more rest : List Char} {type : JavaType} :
    (∃ tree : ReferenceTree, 'L' :: more = tree.text ++ rest ∧ tree.type = type ∧ True) ↔
      ∃ first others, 'L' :: more = ReferenceTree.text (.ofClass first others) ++ rest ∧
        ReferenceTree.type (.ofClass first others) = type := by
  constructor
  · rintro ⟨tree, split, rfl, -⟩
    cases tree with
    | ofClass first others => exact ⟨first, others, split, rfl⟩
    | typeVariable name => cases split
    | array component => cases split
  · rintro ⟨first, others, split, rfl⟩
    exact ⟨.ofClass first others, split, rfl, trivial⟩

theorem ReferenceTree.exists_typeVariable_iff {more rest : List Char} {type : JavaType} :
    (∃ tree : ReferenceTree, 'T' :: more = tree.text ++ rest ∧ tree.type = type ∧ True) ↔
      ∃ name, 'T' :: more = ReferenceTree.text (.typeVariable name) ++ rest ∧
        ReferenceTree.type (.typeVariable name) = type := by
  constructor
  · rintro ⟨tree, split, rfl, -⟩
    cases tree with
    | ofClass first others => cases split
    | typeVariable name => exact ⟨name, split, rfl⟩
    | array component => cases split
  · rintro ⟨name, split, rfl⟩
    exact ⟨.typeVariable name, split, rfl, trivial⟩

theorem ReferenceTree.exists_array_iff {more rest : List Char} {type : JavaType} :
    (∃ tree : ReferenceTree, '[' :: more = tree.text ++ rest ∧ tree.type = type ∧ True) ↔
      ∃ component : FieldTree, more = component.text ++ rest ∧ .array component.type = type := by
  constructor
  · rintro ⟨tree, split, rfl, -⟩
    cases tree with
    | ofClass first others => cases split
    | typeVariable name => cases split
    | array component =>
      injection split with _ split
      exact ⟨component, split, rfl⟩
  · rintro ⟨component, split, rfl⟩
    exact ⟨.array component, congrArg (List.cons '[') split, rfl, trivial⟩

/-- Reference types within a bound on their depth, in front of no more characters
than that. -/
theorem scanReferenceWithin_accepts (depth : Nat) :
    AcceptsReferences (scanReferenceWithin depth) depth := by
  have empty : ∀ (tree : ReferenceTree) (rest : List Char), [] ≠ tree.text ++ rest := by
    intro tree rest split
    obtain ⟨c, more, begins, -⟩ := tree.begins
    rw [begins] at split
    cases split
  induction depth with
  | zero =>
    intro chars small result rest
    cases List.length_eq_zero_iff.mp (Nat.le_zero.mp small)
    constructor
    · intro done
      cases done
    · rintro ⟨tree, split, -⟩
      exact absurd split (empty tree rest)
  | succ depth hypothesis =>
    intro chars small result rest
    unfold scanReferenceWithin
    simp only
    split
    · constructor
      · intro done
        cases done
      · rintro ⟨tree, split, -⟩
        exact absurd split (empty tree rest)
    · rw [ReferenceTree.exists_ofClass_iff]
      exact scanClassType_eq_ok hypothesis (Nat.le_of_succ_le_succ small)
    · rw [ReferenceTree.exists_typeVariable_iff]
      exact scanTypeVariable_eq_ok
    · rename_i more
      have fields := scanFieldTypeWith_accepts hypothesis more (Nat.le_of_succ_le_succ small)
      rw [ReferenceTree.exists_array_iff, map_eq_ok]
      constructor
      · rintro ⟨component, done, rfl⟩
        obtain ⟨tree, split, rfl, -⟩ := (fields _ _).mp done
        exact ⟨tree, split, rfl⟩
      · rintro ⟨tree, split, rfl⟩
        exact ⟨tree.type, (fields _ _).mpr ⟨tree, split, rfl, trivial⟩, rfl⟩
    · rename_i notEmpty notClass notVariable notArray
      constructor
      · intro done
        cases done
      · rintro ⟨tree, split, -⟩
        cases tree with
        | ofClass first others => exact absurd split (notClass _)
        | typeVariable name => exact absurd split (notVariable _)
        | array component => exact absurd split (notArray _)

theorem scanReference_accepts (bound : Nat) : AcceptsReferences scanReference bound := by
  intro chars _ result rest
  exact scanReferenceWithin_accepts chars.length chars (Nat.le_refl _) result rest

theorem scanFieldType_accepts (bound : Nat) :
    Accepts scanFieldType bound FieldTree.text FieldTree.type fun _ _ => True :=
  scanFieldTypeWith_accepts (scanReference_accepts bound)

/-! ### Signatures of methods -/

theorem scanClassBound_eq_ok {chars rest : List Char} {classBound? : Option JavaType} :
    scanClassBound chars = .ok classBound? rest ↔
      ∃ tree? : Option ReferenceTree, chars = tree?.elim [] ReferenceTree.text ++ rest ∧
        tree?.map ReferenceTree.type = classBound? ∧
        (tree? = none → rest.head? = some ':' ∨ rest.head? = some '>') := by
  constructor
  · intro done
    unfold scanClassBound at done
    split at done
    · cases done
      exact ⟨none, rfl, rfl, fun _ => .inl rfl⟩
    · cases done
      exact ⟨none, rfl, rfl, fun _ => .inr rfl⟩
    · obtain ⟨type, here, rfl⟩ := map_eq_ok.mp done
      obtain ⟨tree, split, rfl, -⟩ :=
        (scanReference_accepts chars.length chars (Nat.le_refl _) _ _).mp here
      exact ⟨some tree, split, rfl, nofun⟩
  · rintro ⟨tree?, rfl, rfl, missing⟩
    cases tree? with
    | none =>
      rcases missing rfl with next | next
      · obtain ⟨more, rfl⟩ := List.head?_eq_some_iff.mp next
        rfl
      · obtain ⟨more, rfl⟩ := List.head?_eq_some_iff.mp next
        rfl
    | some tree =>
      have here := (scanReference_accepts _ (tree.text ++ rest) (Nat.le_refl _) _ _).mpr
        ⟨tree, rfl, rfl, trivial⟩
      show scanClassBound (tree.text ++ rest) = _
      unfold scanClassBound
      split
      · rename_i same
        exact absurd (congrArg List.head? same) (tree.head_ne (by decide) rest)
      · rename_i same
        exact absurd (congrArg List.head? same) (tree.head_ne (by decide) rest)
      · exact map_eq_ok.mpr ⟨tree.type, here, rfl⟩

/-- What may follow a type parameter: no further bound, and the end of the list if
it has no bounds at all. -/
def ParameterTree.Ends (parameter : ParameterTree) (rest : List Char) : Prop :=
  parameter.Bounded rest ∧ rest.head? ≠ some ':'

theorem scanTypeParameter_accepts (bound : Nat) :
    Accepts scanTypeParameter bound ParameterTree.text ParameterTree.parameter
      ParameterTree.Ends := by
  have references := scanReference_accepts
  intro chars _ result rest
  constructor
  · intro done
    obtain ⟨text, middle, named, behind⟩ := bind_eq_ok.mp done
    obtain ⟨_, bounds, marked, bounded⟩ := bind_eq_ok.mp behind
    obtain ⟨classBound?, interfaces, first, others⟩ := bind_eq_ok.mp bounded
    obtain ⟨interfaceBounds, left, listed, same⟩ := bind_eq_ok.mp others
    cases same
    obtain ⟨name, rfl, rfl, -⟩ := identifier_eq_ok.mp named
    rw [expect_eq_ok.mp marked]
    obtain ⟨tree?, rfl, rfl, missing⟩ := scanClassBound_eq_ok.mp first
    obtain ⟨trees, rfl, rfl, -, last⟩ :=
      (announced_eq_ok (references interfaces.length) (Nat.le_refl _)).mp listed
    refine ⟨⟨name, tree?, trees⟩, ?_, rfl, missing, last⟩
    simp only [ParameterTree.text, ParameterTree.boundTexts, List.append_assoc, List.cons_append]
  · rintro ⟨⟨name, tree?, trees⟩, rfl, rfl, missing, last⟩
    have stopped : ∀ c, (':' :: (tree?.elim [] ReferenceTree.text ++
        (ParameterTree.boundTexts trees ++ rest))).head? = some c → c ∈ typeParameterStops := by
      intro c next
      cases next
      decide
    have named := identifier_eq_ok.mpr ⟨name, rfl, rfl, stopped⟩
    have marked := (@expect_eq_ok ':' .missingBound _ (tree?.elim [] ReferenceTree.text ++
      (ParameterTree.boundTexts trees ++ rest))).mpr rfl
    have first := scanClassBound_eq_ok.mpr ⟨tree?, rfl, rfl, missing⟩
    have listed := (announced_eq_ok (references _) (Nat.le_refl _)).mpr
      ⟨trees, rfl, rfl, demanded_of_forall (fun _ _ => trivial) trees rest, last⟩
    simp only [ParameterTree.text, List.append_assoc, List.cons_append]
    exact (bind_of_ok named).trans ((bind_of_ok marked).trans
      ((bind_of_ok first).trans (bind_of_ok listed)))

theorem ParameterTree.begins (parameter : ParameterTree) :
    ∃ c more, parameter.text = c :: more ∧ c ∉ typeParameterStops := by
  obtain ⟨⟨chars, nonempty, free⟩, classBound?, interfaceBounds⟩ := parameter
  cases chars with
  | nil => exact absurd rfl nonempty
  | cons c more => exact ⟨c, _, rfl, free c List.mem_cons_self⟩

/-- In front of the closing mark of a list its type parameters demand what the
grammar asks of them, for no name begins with a colon. -/
theorem ParameterTree.demanded_ends_iff (parameters : List ParameterTree) (rest : List Char) :
    Demanded text Ends parameters ('>' :: rest) ↔ AllBounded parameters := by
  have close : ∀ front : List Char, (front ++ '>' :: rest).head? = (front ++ ['>']).head? := by
    intro front
    cases front with
    | nil => rfl
    | cons c more => rfl
  have bounded : ∀ (parameter : ParameterTree) (following : List Char),
      parameter.Bounded (following ++ '>' :: rest) ↔ parameter.Bounded (following ++ ['>']) := by
    intro parameter following
    unfold Bounded
    rw [← List.append_assoc, close, List.append_assoc]
  have noColon : ∀ others : List ParameterTree,
      (others.flatMap text ++ '>' :: rest).head? ≠ some ':' := by
    intro others next
    cases others with
    | nil => cases next
    | cons other more =>
      obtain ⟨c, behind, begins, free⟩ := other.begins
      rw [List.flatMap_cons, begins] at next
      cases next
      exact free (by decide)
  induction parameters with
  | nil => exact Iff.rfl
  | cons parameter others hypothesis =>
    exact and_congr ((and_iff_left (noColon others)).trans (bounded parameter _)) hypothesis

theorem scanTypeParameters_eq_ok {chars rest : List Char} {parameters : List TypeParameter} :
    scanTypeParameters chars = .ok parameters rest ↔
      ∃ trees? : Option (List ParameterTree), chars = MethodTree.parametersText trees? ++ rest ∧
        (trees?.getD []).map ParameterTree.parameter = parameters ∧
        (∀ trees ∈ trees?, ParameterTree.AllBounded trees) ∧
        (trees? = none → rest.head? ≠ some '<') := by
  have opens : ∀ tree : ParameterTree, ∃ c more, tree.text = c :: more ∧ c ≠ '>' := by
    intro tree
    obtain ⟨c, more, begins, free⟩ := tree.begins
    refine ⟨c, more, begins, ?_⟩
    rintro rfl
    exact free (by decide)
  unfold scanTypeParameters
  by_cases opened : chars.head? = some '<'
  · obtain ⟨more, rfl⟩ := List.head?_eq_some_iff.mp opened
    rw [eat_then, untilMark_eq_ok (scanTypeParameter_accepts more.length) opens (Nat.le_refl _)]
    constructor
    · rintro ⟨trees, rfl, rfl, demanded⟩
      refine ⟨some trees, ?_, rfl, ?_, nofun⟩
      · rw [MethodTree.parametersText, List.cons_append, List.append_assoc]
        rfl
      · rintro _ ⟨⟩
        exact (ParameterTree.demanded_ends_iff trees rest).mp demanded
    · rintro ⟨trees?, split, rfl, bounded, absent⟩
      cases trees? with
      | none =>
        rw [MethodTree.parametersText, List.nil_append] at split
        exact absurd (congrArg List.head? split.symm) (absent rfl)
      | some trees =>
        rw [MethodTree.parametersText, List.cons_append, List.append_assoc] at split
        injection split with _ split
        exact ⟨trees, split, rfl,
          (ParameterTree.demanded_ends_iff trees rest).mpr (bounded trees rfl)⟩
  · rw [eat_else opened]
    constructor
    · intro done
      cases done
      exact ⟨none, rfl, rfl, nofun, fun _ => opened⟩
    · rintro ⟨trees?, rfl, rfl, -⟩
      cases trees? with
      | none => rfl
      | some trees => exact absurd rfl opened

theorem scanResult_eq_ok {chars rest : List Char} {type : JavaType} :
    scanResult chars = .ok type rest ↔
      ∃ tree? : Option FieldTree, chars = MethodTree.resultText tree? ++ rest ∧
        MethodTree.resultType tree? = type := by
  have field := scanFieldType_accepts chars.length chars (Nat.le_refl _)
  unfold scanResult
  by_cases none : chars.head? = some 'V'
  · obtain ⟨more, rfl⟩ := List.head?_eq_some_iff.mp none
    rw [eat_then]
    constructor
    · intro done
      cases done
      exact ⟨.none, rfl, rfl⟩
    · rintro ⟨tree?, split, rfl⟩
      cases tree? with
      | none =>
        cases split
        rfl
      | some tree =>
        have done := (field _ _).mpr ⟨tree, split, rfl, trivial⟩
        cases done
  · rw [eat_else none, field]
    constructor
    · rintro ⟨tree, split, rfl, -⟩
      exact ⟨some tree, split, rfl⟩
    · rintro ⟨tree?, split, rfl⟩
      cases tree? with
      | none =>
        rw [split] at none
        exact absurd rfl none
      | some tree => exact ⟨tree, split, rfl, trivial⟩

theorem scanMethodSignature_eq_ok {chars rest : List Char} {signature : MethodSignature} :
    scanMethodSignature chars = .ok signature rest ↔
      ∃ tree : MethodTree, chars = tree.text ++ rest ∧ tree.signature = signature ∧
        rest.head? ≠ some '^' := by
  constructor
  · intro done
    obtain ⟨parameters, rest₁, first, done₁⟩ := bind_eq_ok.mp done
    obtain ⟨_, rest₂, opened, done₂⟩ := bind_eq_ok.mp done₁
    obtain ⟨arguments, rest₃, second, done₃⟩ := bind_eq_ok.mp done₂
    obtain ⟨result, rest₄, third, done₄⟩ := bind_eq_ok.mp done₃
    obtain ⟨throws, rest₅, fourth, same⟩ := bind_eq_ok.mp done₄
    cases same
    obtain ⟨parameters?, rfl, rfl, bounded, -⟩ := scanTypeParameters_eq_ok.mp first
    rw [expect_eq_ok.mp opened]
    obtain ⟨fields, rfl, rfl, -⟩ :=
      (untilMark_eq_ok (scanFieldType_accepts rest₂.length) FieldTree.begins (Nat.le_refl _)).mp
        second
    obtain ⟨result?, rfl, rfl⟩ := scanResult_eq_ok.mp third
    obtain ⟨thrown, rfl, rfl, -, last⟩ :=
      (announced_eq_ok (scanReference_accepts rest₄.length) (Nat.le_refl _)).mp fourth
    refine ⟨⟨parameters?, fields, result?, thrown, bounded⟩, ?_, rfl, last⟩
    simp only [MethodTree.text, List.append_assoc, List.cons_append]
  · rintro ⟨⟨parameters?, fields, result?, thrown, bounded⟩, rfl, rfl, last⟩
    have first := (@scanTypeParameters_eq_ok _ ('(' :: (fields.flatMap FieldTree.text ++
      (')' :: (MethodTree.resultText result? ++
        ((thrown.flatMap fun thrown => '^' :: thrown.text) ++ rest))))) _).mpr
      ⟨parameters?, rfl, rfl, bounded, by rintro - ⟨⟩⟩
    have opened := (@expect_eq_ok '(' .missingArguments _ (fields.flatMap FieldTree.text ++
      (')' :: (MethodTree.resultText result? ++
        ((thrown.flatMap fun thrown => '^' :: thrown.text) ++ rest))))).mpr rfl
    have second := (untilMark_eq_ok (scanFieldType_accepts _) FieldTree.begins
      (Nat.le_refl _)).mpr ⟨fields, rfl, rfl, demanded_of_forall (fun _ _ => trivial) fields
        (')' :: (MethodTree.resultText result? ++
          ((thrown.flatMap fun thrown => '^' :: thrown.text) ++ rest)))⟩
    have third := (@scanResult_eq_ok _
      ((thrown.flatMap fun thrown => '^' :: thrown.text) ++ rest) _).mpr ⟨result?, rfl, rfl⟩
    have fourth := (announced_eq_ok (scanReference_accepts _) (Nat.le_refl _)).mpr
      ⟨thrown, rfl, rfl, demanded_of_forall (fun _ _ => trivial) thrown rest, last⟩
    simp only [MethodTree.text, List.append_assoc, List.cons_append]
    exact (bind_of_ok first).trans ((bind_of_ok opened).trans ((bind_of_ok second).trans
      ((bind_of_ok third).trans (bind_of_ok fourth))))

/-! ### Whole texts -/

theorem scan_eq_ok {α : Type} {scanner : Scanner α} {text : String} {value : α} :
    scanner.scan text = .ok value ↔ scanner text.toList = .ok value [] := by
  unfold Scanner.scan
  simp only
  cases scanner text.toList with
  | ok found rest =>
    cases rest with
    | nil => simp
    | cons c more => simp
  | error fault rest => simp

/-- A text is a type exactly if it is derived, and the type is that of the tree. -/
theorem javaType_ofSignature_eq_ok {text : String} {type : JavaType} :
    JavaType.ofSignature text = .ok type ↔
      ∃ tree : FieldTree, tree.text = text.toList ∧ tree.type = type := by
  rw [JavaType.ofSignature, scan_eq_ok, scanFieldType_accepts _ _ (Nat.le_refl _)]
  constructor
  · rintro ⟨tree, split, same, -⟩
    exact ⟨tree, by rw [split, List.append_nil], same⟩
  · rintro ⟨tree, split, same⟩
    exact ⟨tree, by rw [split, List.append_nil], same, trivial⟩

/-- The same of signatures of methods. -/
theorem methodSignature_ofSignature_eq_ok {text : String} {signature : MethodSignature} :
    MethodSignature.ofSignature text = .ok signature ↔
      ∃ tree : MethodTree, tree.text = text.toList ∧ tree.signature = signature := by
  rw [MethodSignature.ofSignature, scan_eq_ok, scanMethodSignature_eq_ok]
  constructor
  · rintro ⟨tree, split, same, -⟩
    exact ⟨tree, by rw [split, List.append_nil], same⟩
  · rintro ⟨tree, split, same⟩
    exact ⟨tree, by rw [split, List.append_nil], same, nofun⟩

end ClassMembers
