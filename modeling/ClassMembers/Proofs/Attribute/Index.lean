/-
This file proves what an index of attributes holds. Of each name it holds the last attribute
in the list it was made of, at the place of the first one. To take a name out of an index is
to leave the attributes of that name out of the list, so whatever was taken out of it, an
index is that of a list, and what holds of the one holds of the other. A question for a kind
of attribute looks at the last attribute of the name and at no other one, and finds nothing if
this one is kept as a block of bytes. Only the annotations of all parameters are collected from
the whole index; they are those of the single parameters, row by row.
-/

import ClassMembers.Proofs.Attribute.Order
import ClassMembers.Proofs.FirstOccurrences

namespace ClassMembers

namespace Attributes

variable {attributes : Attributes}

/-! ### The index of a list -/

/-- The last attribute of a name in a list. -/
def lastNamed? (list : List Attribute) (name : String) : Option Attribute :=
  (list.filter fun entry => entry.name = name).getLast?

theorem ofList_concat (list : List Attribute) (last : Attribute) :
    ofList (list ++ [last]) = (ofList list).insert last := by
  rw [ofList, List.foldl_append]
  rfl

/-- A name leads to the last attribute that has it. -/
theorem get?_ofList (list : List Attribute) (name : String) :
    (ofList list).get? name = lastNamed? list name := by
  induction list using List.reverseRecOn with
  | nil => rfl
  | append_singleton list last hypothesis =>
    rw [ofList_concat, get?_insert, hypothesis, lastNamed?, lastNamed?, List.filter_append]
    by_cases met : last.name = name <;> simp [met]

/-- The names stand in the order in which they first occur. -/
theorem names_ofList (list : List Attribute) :
    (ofList list).names = (list.map Attribute.name).eraseDups :=
  view_foldl_of_nil names_insert rfl list

/-- Every attribute is found under its own name. -/
theorem get?_name (distinct : attributes.names.Nodup) {entry : Attribute}
    (inside : entry ∈ attributes.entries) : attributes.get? entry.name = some entry :=
  (get?_eq_some_iff distinct).mpr ⟨inside, rfl⟩

theorem map_get?_names (distinct : attributes.names.Nodup) :
    attributes.names.map attributes.get? = attributes.entries.map some := by
  rw [names, List.map_map]
  exact List.map_congr_left fun entry inside => get?_name distinct inside

/-! ### Taking attributes out -/

/-- What it means to take a name out: the attribute that has it is handed out and all others
stay as they are, or there is none and nothing changes. -/
inductive TakesOut (attributes : Attributes) (name : String) :
    Option Attribute → Attributes → Prop
  | found {front back : List Attribute} {entry : Attribute}
      (held : attributes.entries = front ++ entry :: back) (named : entry.name = name) :
      TakesOut attributes name (some entry) ⟨front ++ back⟩
  | missing (absent : name ∉ attributes.names) : TakesOut attributes name none attributes

theorem erase_of_held (distinct : attributes.names.Nodup) {front back : List Attribute}
    {entry : Attribute} (held : attributes.entries = front ++ entry :: back) :
    attributes.erase entry.name = ⟨front ++ back⟩ := by
  have others : ∀ other ∈ front ++ back, other.name ≠ entry.name := by
    intro other inside same
    rw [names, held, List.map_append, List.map_cons, List.nodup_middle, List.nodup_cons,
      ← List.map_append] at distinct
    exact distinct.1 (same ▸ List.mem_map_of_mem inside)
  rw [erase, held, List.filter_append, List.filter_cons_of_neg (by simp), ← List.filter_append,
    List.filter_eq_self.mpr fun other inside => decide_eq_true (others other inside)]

theorem erase_of_notMem {name : String} (absent : name ∉ attributes.names) :
    attributes.erase name = attributes := by
  obtain ⟨entries⟩ := attributes
  have others : ∀ entry ∈ entries, decide (entry.name ≠ name) = true :=
    fun entry inside => decide_eq_true fun same => absent (same ▸ List.mem_map_of_mem inside)
  exact congrArg Attributes.mk (List.filter_eq_self.mpr others)

theorem get?_eq_none_iff {name : String} : attributes.get? name = none ↔ name ∉ attributes.names := by
  simp [get?, names]

theorem takesOut_erase (distinct : attributes.names.Nodup) (name : String) :
    attributes.TakesOut name (attributes.get? name) (attributes.erase name) := by
  cases found : attributes.get? name with
  | none =>
    have absent := get?_eq_none_iff.mp found
    rw [erase_of_notMem absent]
    exact .missing absent
  | some entry =>
    obtain ⟨inside, rfl⟩ := (get?_eq_some_iff distinct).mp found
    obtain ⟨front, back, held⟩ := List.append_of_mem inside
    rw [erase_of_held distinct held]
    exact .found held rfl

theorem erase_insert (attributes : Attributes) (entry : Attribute) (name : String) :
    (attributes.insert entry).erase name =
      if entry.name = name then attributes.erase name
      else (attributes.erase name).insert entry := by
  obtain ⟨entries⟩ := attributes
  suffices placed : (place entry entries).filter (fun other => other.name ≠ name) =
      if entry.name = name then entries.filter fun other => other.name ≠ name
      else place entry (entries.filter fun other => other.name ≠ name) by
    rw [erase, insert, placed]
    split <;> rfl
  induction entries with
  | nil => by_cases met : entry.name = name <;> simp [place, met]
  | cons first rest hypothesis =>
    by_cases taken : first.name = entry.name
    · by_cases met : entry.name = name <;> simp [place, taken, met]
    · by_cases met : first.name = name
      · subst met
        simpa [place, taken, Ne.symm taken] using hypothesis
      · by_cases same : entry.name = name <;> simp_all [place]

/-- To take a name out of the index of a list is to leave its attributes out of the list. -/
theorem erase_ofList (list : List Attribute) (name : String) :
    (ofList list).erase name = ofList (list.filter fun entry => entry.name ≠ name) := by
  induction list using List.reverseRecOn with
  | nil => rfl
  | append_singleton list last hypothesis =>
    rw [ofList_concat, erase_insert, hypothesis, List.filter_append]
    by_cases met : last.name = name
    · simp [met]
    · simp [met, ofList_concat]

/-- A way to take attributes out of an index: the one of a name, or all of them. -/
inductive Removal where
  | named (name : String)
  | everything

/-- Whether a removal leaves an attribute where it is. -/
def Removal.spares : Removal → Attribute → Bool
  | named name, entry => entry.name ≠ name
  | everything, _ => false

/-- The attributes of a list that removals leave. -/
def spared (removals : List Removal) (list : List Attribute) : List Attribute :=
  list.filter fun entry => removals.all fun removal => removal.spares entry

/-- An index after a removal. -/
def after (attributes : Attributes) : Removal → Attributes
  | .named name => attributes.erase name
  | .everything => empty

/-- An index after removals one behind the other. -/
def afterAll (attributes : Attributes) (removals : List Removal) : Attributes :=
  removals.foldl after attributes

theorem after_ofList (list : List Attribute) (removal : Removal) :
    (ofList list).after removal = ofList (list.filter removal.spares) := by
  cases removal with
  | named name => exact erase_ofList list name
  | everything =>
    have nothing : list.filter Removal.everything.spares = [] :=
      List.filter_eq_nil_iff.mpr fun _ _ => Bool.false_ne_true
    rw [nothing]
    rfl

/-- After any removals an index is that of the attributes that these left. -/
theorem afterAll_ofList (list : List Attribute) (removals : List Removal) :
    (ofList list).afterAll removals = ofList (spared removals list) := by
  induction removals generalizing list with
  | nil => rw [spared, List.filter_eq_self.mpr fun _ _ => List.all_nil]; rfl
  | cons removal rest hypothesis =>
    show ((ofList list).after removal).afterAll rest = _
    rw [after_ofList, hypothesis, spared, spared, List.filter_filter]
    simp only [List.all_cons, Bool.and_comm]

/-! ### What the name of a kind leads to -/

/-- An attribute with the name of a kind is of that kind, or a block of bytes. -/
theorem kind?_of_name {entry : Attribute} {kind : AttributeKind} (named : entry.name = kind.name) :
    entry.kind? = some kind ∨ ∃ body, entry = .unknown kind.name body := by
  cases known : entry.kind? with
  | some other =>
    have same : some other = some kind := by
      rw [← AttributeKind.ofName?_name, ← AttributeKind.ofName?_name kind, ← named,
        Attribute.name_eq_of_kind? known]
    exact .inl same
  | none =>
    cases entry with
    | unknown name body =>
      cases named
      exact .inr ⟨body, rfl⟩
    | _ => cases known

/-- The name of a kind leads to nothing, to a block of bytes or to an attribute of the kind. -/
@[elab_as_elim]
theorem get?_cases {motive : Option Attribute → Prop} (attributes : Attributes)
    (kind : AttributeKind) (missing : motive none)
    (unread : ∀ body, motive (some (.unknown kind.name body)))
    (read : ∀ entry, entry.kind? = some kind → motive (some entry)) :
    motive (attributes.get? kind.name) := by
  cases found : attributes.get? kind.name with
  | none => exact missing
  | some entry =>
    rcases kind?_of_name (name_of_get? found) with known | ⟨body, rfl⟩
    · exact read entry known
    · exact unread body

/-! ### Rows of annotations -/

/-- The visible annotations of parameters, row by row. -/
def visibleRows (attributes : Attributes) : List (List AnnotationUse) :=
  match attributes.ofKind? .visibleParameterAnnotations with
  | some (.visibleParameterAnnotations rows) => rows
  | _ => []

/-- The invisible annotations of parameters, row by row. -/
def invisibleRows (attributes : Attributes) : List (List AnnotationUse) :=
  match attributes.ofKind? .invisibleParameterAnnotations with
  | some (.invisibleParameterAnnotations rows) => rows
  | _ => []

theorem parameterAnnotations_eq (attributes : Attributes) (position : Nat) :
    attributes.parameterAnnotations position =
      attributes.visibleRows[position]?.getD [] ++ attributes.invisibleRows[position]?.getD [] := by
  unfold parameterAnnotations visibleRows invisibleRows ofKind?
  refine congrArg₂ (· ++ ·) ?_ ?_
  all_goals
    refine get?_cases attributes _ rfl (fun _ => rfl) fun entry _ => ?_
    cases entry <;> rfl

/-- What is collected from an index is what is collected from the attribute of a name and from
all others. -/
theorem flatMap_entries {α : Type} (distinct : attributes.names.Nodup) (collect : Attribute → List α)
    (name : String) :
    (attributes.entries.flatMap collect).Perm
      ((attributes.get? name).elim [] collect ++
        (attributes.erase name).entries.flatMap collect) := by
  have taken := takesOut_erase distinct name
  generalize attributes.get? name = answer, attributes.erase name = others at taken
  cases taken with
  | found held named =>
    rw [held]
    exact List.perm_middle.flatMap_right collect
  | missing absent => exact .refl _

/-- The rows of annotations that an attribute lists. -/
def rowsOf : Attribute → List (List AnnotationUse)
  | .visibleParameterAnnotations rows => rows
  | .invisibleParameterAnnotations rows => rows
  | _ => []

theorem visibleRows_and_invisibleRows (attributes : Attributes) :
    attributes.visibleRows =
      (attributes.get? AttributeKind.visibleParameterAnnotations.name).elim [] rowsOf ∧
    attributes.invisibleRows =
      (attributes.get? AttributeKind.invisibleParameterAnnotations.name).elim [] rowsOf := by
  unfold visibleRows invisibleRows ofKind?
  refine ⟨?_, ?_⟩
  all_goals
    refine get?_cases attributes _ rfl (fun _ => rfl) fun entry known => ?_
    cases entry <;> first | rfl | cases known

theorem flatten_elim_rowsOf (found : Option Attribute) :
    (found.elim [] rowsOf).flatten = found.elim [] rowAnnotations := by
  cases found with
  | none => rfl
  | some entry => cases entry <;> rfl

theorem rowAnnotations_of_other {entry : Attribute}
    (notVisible : entry.name ≠ AttributeKind.visibleParameterAnnotations.name)
    (notInvisible : entry.name ≠ AttributeKind.invisibleParameterAnnotations.name) :
    rowAnnotations entry = [] := by
  cases entry with
  | visibleParameterAnnotations rows => exact absurd rfl notVisible
  | invisibleParameterAnnotations rows => exact absurd rfl notInvisible
  | _ => rfl

theorem name_ne_of_mem_erase {name : String} {entry : Attribute}
    (inside : entry ∈ (attributes.erase name).entries) :
    entry ∈ attributes.entries ∧ entry.name ≠ name := by
  simpa [erase] using inside

theorem nodup_names_erase (distinct : attributes.names.Nodup) (name : String) :
    (attributes.erase name).names.Nodup :=
  (List.filter_sublist.map Attribute.name).nodup distinct

/-- The annotations of all parameters are the visible and the invisible rows. -/
theorem allParameterAnnotations_perm (distinct : attributes.names.Nodup) :
    attributes.allParameterAnnotations.Perm
      (attributes.visibleRows.flatten ++ attributes.invisibleRows.flatten) := by
  have visible := flatMap_entries distinct rowAnnotations
    AttributeKind.visibleParameterAnnotations.name
  have invisible := flatMap_entries
    (nodup_names_erase distinct AttributeKind.visibleParameterAnnotations.name) rowAnnotations
    AttributeKind.invisibleParameterAnnotations.name
  have others : ((attributes.erase AttributeKind.visibleParameterAnnotations.name).erase
      AttributeKind.invisibleParameterAnnotations.name).entries.flatMap rowAnnotations = [] := by
    refine List.flatMap_eq_nil_iff.mpr fun entry inside => ?_
    obtain ⟨inside, notInvisible⟩ := name_ne_of_mem_erase inside
    exact rowAnnotations_of_other (name_ne_of_mem_erase inside).2 notInvisible
  rw [others, List.append_nil, get?_erase, if_neg (by decide)] at invisible
  obtain ⟨visibleRows, invisibleRows⟩ := attributes.visibleRows_and_invisibleRows
  rw [visibleRows, invisibleRows, flatten_elim_rowsOf, flatten_elim_rowsOf]
  exact visible.trans (invisible.append_left _)

/-- Rows one behind the other are the rows at all positions, the last of which may be
missing. -/
theorem flatten_eq_flatMap_range {α : Type} (rows : List (List α)) {bound : Nat}
    (enough : rows.length ≤ bound) :
    rows.flatten = (List.range bound).flatMap fun position => rows[position]?.getD [] := by
  induction rows generalizing bound with
  | nil => simp
  | cons first rest hypothesis =>
    obtain ⟨bound, rfl⟩ := Nat.exists_eq_add_of_le' (Nat.le_of_add_left_le enough)
    rw [List.flatten_cons, hypothesis (Nat.le_of_succ_le_succ enough), List.range_succ_eq_map,
      List.flatMap_cons, List.flatMap_map]
    rfl

/-- They are those of the single parameters. Behind the longest table there are none. -/
theorem exists_parameterAnnotations (distinct : attributes.names.Nodup) :
    ∃ count, (∀ position, count ≤ position → attributes.parameterAnnotations position = []) ∧
      ∀ bound, count ≤ bound → attributes.allParameterAnnotations.Perm
        ((List.range bound).flatMap attributes.parameterAnnotations) := by
  refine ⟨max attributes.visibleRows.length attributes.invisibleRows.length, ?_, ?_⟩
  · intro position behind
    obtain ⟨visible, invisible⟩ := max_le_iff.mp behind
    rw [parameterAnnotations_eq, List.getElem?_eq_none visible, List.getElem?_eq_none invisible]
    rfl
  · intro bound enough
    obtain ⟨visible, invisible⟩ := max_le_iff.mp enough
    have rows : attributes.parameterAnnotations = fun position =>
        attributes.visibleRows[position]?.getD [] ++ attributes.invisibleRows[position]?.getD [] :=
      funext attributes.parameterAnnotations_eq
    rw [rows]
    refine (allParameterAnnotations_perm distinct).trans ?_
    rw [flatten_eq_flatMap_range _ visible, flatten_eq_flatMap_range _ invisible]
    exact List.flatMap_append_perm ..

/-! ### What an index answers -/

/-- The annotations that an attribute lists. -/
def marksOf : Attribute → List AnnotationUse
  | .visibleAnnotations annotations => annotations
  | .invisibleAnnotations annotations => annotations
  | _ => []

theorem annotations_eq (attributes : Attributes) :
    attributes.annotations =
      (attributes.get? AttributeKind.visibleAnnotations.name).elim [] marksOf ++
        (attributes.get? AttributeKind.invisibleAnnotations.name).elim [] marksOf := by
  unfold annotations ofKind?
  refine congrArg₂ (· ++ ·) ?_ ?_
  all_goals
    refine get?_cases attributes _ rfl (fun _ => rfl) fun entry known => ?_
    cases entry <;> first | rfl | cases known

/-- An index that answers as a list of attributes does whose last one of a name counts. It
holds one attribute for each name, in the order in which the names first occur. A question for
a kind is answered by the last attribute with its name and by no other one, so there is no
answer if this one is a block of bytes. -/
structure IsIndexOf (attributes : Attributes) (list : List Attribute) : Prop where
  distinct : attributes.names.Nodup
  entries : attributes.entries.map some =
    (list.map Attribute.name).eraseDups.map (lastNamed? list)
  found : ∀ entry ∈ attributes.entries, attributes.get? entry.name = some entry
  get? : ∀ name, attributes.get? name = lastNamed? list name
  signature? : ∀ text, attributes.signature? = some text ↔
    lastNamed? list AttributeKind.signature.name = some (.signature text)
  constantValueIndex? : ∀ index, attributes.constantValueIndex? = some index ↔
    lastNamed? list AttributeKind.constantValue.name = some (.constantValue index)
  code? : ∀ code, attributes.code? = some code ↔
    lastNamed? list AttributeKind.code.name = some (.code code)
  exceptions? : ∀ names, attributes.exceptions? = some names ↔
    lastNamed? list AttributeKind.exceptions.name = some (.exceptions names)
  annotationDefault? : ∀ value, attributes.annotationDefault? = some value ↔
    lastNamed? list AttributeKind.annotationDefault.name = some (.annotationDefault value)
  localVariables? : ∀ rows, attributes.localVariables? = some rows ↔
    lastNamed? list AttributeKind.localVariables.name = some (.localVariables rows)
  annotations : attributes.annotations =
    (lastNamed? list AttributeKind.visibleAnnotations.name).elim [] marksOf ++
      (lastNamed? list AttributeKind.invisibleAnnotations.name).elim [] marksOf
  parameterAnnotations : ∃ count,
    (∀ position, count ≤ position → attributes.parameterAnnotations position = []) ∧
    ∀ bound, count ≤ bound → attributes.allParameterAnnotations.Perm
      ((List.range bound).flatMap attributes.parameterAnnotations)

theorem ofList_isIndexOf (list : List Attribute) : (ofList list).IsIndexOf list := by
  have distinct := nodup_names_ofList list
  have last : ∀ kind : AttributeKind, (ofList list).ofKind? kind = lastNamed? list kind.name :=
    fun kind => get?_ofList list kind.name
  constructor
  case distinct => exact distinct
  case entries =>
    rw [← map_get?_names distinct, names_ofList, funext (get?_ofList list)]
  case found => exact fun entry inside => get?_name distinct inside
  case get? => exact get?_ofList list
  case annotations => rw [annotations_eq, get?_ofList, get?_ofList]
  case parameterAnnotations => exact exists_parameterAnnotations distinct
  all_goals
    intro answer
    simp only [Attributes.signature?, Attributes.constantValueIndex?, Attributes.code?,
      Attributes.exceptions?, Attributes.annotationDefault?, Attributes.localVariables?, last]
    split <;> simp_all

/-- An index is that of the attributes it holds. -/
theorem isIndexOf_entries (distinct : attributes.names.Nodup) :
    attributes.IsIndexOf attributes.entries := by
  obtain ⟨entries⟩ := attributes
  have kept : (ofList entries).entries = entries := entries_ofList distinct
  have index := ofList_isIndexOf entries
  generalize ofList entries = whole at kept index
  cases whole
  cases kept
  exact index

/-- An index keeps the last attribute of each name, and whatever is taken out of it, it is the
index of the attributes that were left. What is handed out for a name is what the name led to;
the others stay where they are, and the name leads nowhere from then on. -/
theorem last_of_each_name_is_kept (list : List Attribute) (removals : List Removal) :
    (ofList list).IsIndexOf list ∧
    ((ofList list).afterAll removals).IsIndexOf (spared removals list) ∧
    ∀ name, ((ofList list).afterAll removals).TakesOut name
        (((ofList list).afterAll removals).get? name)
        (((ofList list).afterAll removals).erase name) ∧
      (((ofList list).afterAll removals).erase name).get? name = none := by
  rw [afterAll_ofList]
  refine ⟨ofList_isIndexOf list, ofList_isIndexOf _, fun name => ⟨?_, ?_⟩⟩
  · exact takesOut_erase (nodup_names_ofList _) name
  · rw [get?_erase, if_pos rfl]

/-- A signature that cannot be read hides the one in front of it. -/
example : (ofList [.signature "I", .synthetic, .unknown "Signature" [0]]).signature? = none ∧
    (ofList [.signature "I", .synthetic, .unknown "Signature" [0]]).names =
      ["Signature", "Synthetic"] := by
  constructor <;> rfl

end Attributes

end ClassMembers
