/-
This file holds the index of attributes by name. The index keeps the order in
which names were first met; a later attribute of a name takes the place of the
earlier one. Each question for a kind of attribute looks at the one entry of
that name, and finds nothing if that entry is kept as a block of bytes.
-/

import ClassMembers.Attribute.Basic

namespace ClassMembers

namespace Attributes

/-- No attributes. -/
def empty : Attributes := ⟨[]⟩

/-- Puts an attribute into a list, in the place of the one of its name if there
is one and at the end if there is none. -/
def place (entry : Attribute) : List Attribute → List Attribute
  | [] => [entry]
  | first :: rest =>
    if first.name = entry.name then entry :: rest else first :: place entry rest

/-- Adds an attribute to an index. -/
def insert (attributes : Attributes) (entry : Attribute) : Attributes :=
  ⟨place entry attributes.entries⟩

/-- The index of attributes that follow each other. -/
def ofList (list : List Attribute) : Attributes :=
  list.foldl insert empty

/-- The attribute of a name. -/
def get? (attributes : Attributes) (name : String) : Option Attribute :=
  attributes.entries.find? fun entry => entry.name = name

/-- The index without the attribute of a name. -/
def erase (attributes : Attributes) (name : String) : Attributes :=
  ⟨attributes.entries.filter fun entry => entry.name ≠ name⟩

/-- The number of attributes. -/
def size (attributes : Attributes) : Nat := attributes.entries.length

/-- Whether there are no attributes. -/
def isEmpty (attributes : Attributes) : Bool := attributes.entries.isEmpty

/-- The names, in the order in which they were first met. -/
def names (attributes : Attributes) : List String := attributes.entries.map Attribute.name

/-! ### The index after a change -/

@[simp] theorem get?_empty (name : String) : empty.get? name = none := rfl

/-- What was added is found, and every other name leads where it led before. -/
theorem get?_insert (attributes : Attributes) (entry : Attribute) (name : String) :
    (attributes.insert entry).get? name =
      if entry.name = name then some entry else attributes.get? name := by
  obtain ⟨entries⟩ := attributes
  show (place entry entries).find? _ = if _ then _ else entries.find? _
  induction entries with
  | nil => by_cases same : entry.name = name <;> simp [place, same]
  | cons first rest hypothesis =>
    by_cases taken : first.name = entry.name
    · by_cases same : entry.name = name <;> simp [place, taken, same]
    · by_cases met : first.name = name
      · have other : entry.name ≠ name := fun same => taken (met.trans same.symm)
        simp [place, met, other, Ne.symm other]
      · simp [place, taken, met, hypothesis]

/-- A name that was taken out leads nowhere, and every other where it led before. -/
theorem get?_erase (attributes : Attributes) (removed name : String) :
    (attributes.erase removed).get? name =
      if removed = name then none else attributes.get? name := by
  unfold get? erase
  rw [List.find?_filter]
  by_cases same : removed = name
  · subst same
    simp
  · rw [if_neg same]
    congr 1
    funext entry
    by_cases met : entry.name = name
    · have other : entry.name ≠ removed := fun equal => same (equal.symm.trans met)
      simp [met, Ne.symm same]
    · simp [met]

/-- A new name comes last; a name that is there keeps its place. -/
theorem names_insert (attributes : Attributes) (entry : Attribute) :
    (attributes.insert entry).names =
      if entry.name ∈ attributes.names then attributes.names
      else attributes.names ++ [entry.name] := by
  obtain ⟨entries⟩ := attributes
  show (place entry entries).map _ = if _ ∈ entries.map _ then entries.map _ else entries.map _ ++ _
  induction entries with
  | nil => simp [place]
  | cons first rest hypothesis =>
    by_cases taken : first.name = entry.name
    · simp [place, taken]
    · have other : entry.name ≠ first.name := Ne.symm taken
      by_cases known : entry.name ∈ rest.map Attribute.name <;>
        simp_all [place]

/-- No name stands in an index twice. -/
theorem nodup_names_ofList (list : List Attribute) : (ofList list).names.Nodup := by
  suffices kept : ∀ attributes : Attributes, attributes.names.Nodup →
      (list.foldl insert attributes).names.Nodup from kept empty List.nodup_nil
  induction list with
  | nil => exact fun _ distinct => distinct
  | cons entry rest hypothesis =>
    refine fun attributes distinct => hypothesis _ ?_
    rw [names_insert]
    by_cases known : entry.name ∈ attributes.names
    · rwa [if_pos known]
    · rw [if_neg known, List.nodup_append]
      exact ⟨distinct, by simp, by grind⟩

/-! ### Questions for one kind -/

/-- The attribute with the name of a kind. -/
def ofKind? (attributes : Attributes) (kind : AttributeKind) : Option Attribute :=
  attributes.get? kind.name

/-- The text of the generic signature. -/
def signature? (attributes : Attributes) : Option String :=
  match attributes.ofKind? .signature with
  | some (.signature text) => some text
  | _ => none

/-- The index of the value of a constant field. -/
def constantValueIndex? (attributes : Attributes) : Option UInt16 :=
  match attributes.ofKind? .constantValue with
  | some (.constantValue index) => some index
  | _ => none

/-- The code of a method. -/
def code? (attributes : Attributes) : Option Code :=
  match attributes.ofKind? .code with
  | some (.code code) => some code
  | _ => none

/-- The internal names of the exceptions a method declares. -/
def exceptions? (attributes : Attributes) : Option (List String) :=
  match attributes.ofKind? .exceptions with
  | some (.exceptions names) => some names
  | _ => none

/-- The default value of an element of an annotation interface. -/
def annotationDefault? (attributes : Attributes) : Option ElementValue :=
  match attributes.ofKind? .annotationDefault with
  | some (.annotationDefault value) => some value
  | _ => none

/-- The table of local variables. -/
def localVariables? (attributes : Attributes) : Option (List LocalVariable) :=
  match attributes.ofKind? .localVariables with
  | some (.localVariables rows) => some rows
  | _ => none

/-! ### Annotations -/

/-- The visible annotations followed by the invisible ones. -/
def annotations (attributes : Attributes) : List AnnotationUse :=
  let visible := match attributes.ofKind? .visibleAnnotations with
    | some (.visibleAnnotations annotations) => annotations
    | _ => []
  let invisible := match attributes.ofKind? .invisibleAnnotations with
    | some (.invisibleAnnotations annotations) => annotations
    | _ => []
  visible ++ invisible

/-- The annotations of the parameter at a position, the visible ones first. -/
def parameterAnnotations (attributes : Attributes) (position : Nat) : List AnnotationUse :=
  let visible := match attributes.ofKind? .visibleParameterAnnotations with
    | some (.visibleParameterAnnotations rows) => rows[position]?.getD []
    | _ => []
  let invisible := match attributes.ofKind? .invisibleParameterAnnotations with
    | some (.invisibleParameterAnnotations rows) => rows[position]?.getD []
    | _ => []
  visible ++ invisible

/-- The parameter annotations that an attribute holds, row by row. -/
def rowAnnotations : Attribute → List AnnotationUse
  | .visibleParameterAnnotations rows => rows.flatten
  | .invisibleParameterAnnotations rows => rows.flatten
  | _ => []

/-- The annotations of all parameters, in the order of the index. -/
def allParameterAnnotations (attributes : Attributes) : List AnnotationUse :=
  attributes.entries.flatMap rowAnnotations

end Attributes

namespace Code

/-- The table of local variables of a piece of code. -/
def localVariables? (code : Code) : Option (List LocalVariable) :=
  code.attributes.localVariables?

/-- Drops the bytes and the attributes, which are of no use after analysis. -/
def release (code : Code) : Code :=
  { code with bytes := [], attributes := .empty, released := true }

end Code

end ClassMembers
