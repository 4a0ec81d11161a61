/-
This file compares the bounds of a type parameter with those that are written for
it. A bound by the class at the root of all goes without saying, so it is left out
wherever it stands. Erasure goes by the leftmost bound, and where that one is left
out in front of others, the declaration that is written has another leftmost bound.
A variable erases then as before exactly if the bound that takes the first place
erases to the class at the root of all itself. Whether it does is told by the bounds
that are variables themselves, one behind the other, up to a bound that is none.
-/

import ClassMembers.Proofs.Type.Bounds
import ClassMembers.Signature.Method

namespace ClassMembers

/-! ### What is written for a type parameter -/

namespace TypeParameter

/-- The bounds that are written: all but those by the class at the root of all. -/
def writtenBounds (parameter : TypeParameter) : List JavaType :=
  parameter.bounds.filter fun bound => bound.className? ≠ some .object

/-- The type parameter that is declared by what is written for one. -/
def asWritten (parameter : TypeParameter) : TypeParameter :=
  ⟨parameter.name, parameter.writtenBounds.head?, parameter.writtenBounds.tail⟩

theorem bounds_asWritten (parameter : TypeParameter) :
    parameter.asWritten.bounds = parameter.writtenBounds := by
  rw [asWritten, bounds]
  cases parameter.writtenBounds with
  | nil => rfl
  | cons first rest => rfl

theorem leftmostBound?_asWritten (parameter : TypeParameter) :
    parameter.asWritten.leftmostBound? = parameter.writtenBounds.head? := by
  rw [leftmostBound?, bounds_asWritten]

/-- Bounds in source code, behind the name of a type parameter. -/
def boundsText (bounds : List JavaType) : String :=
  if bounds.isEmpty then "" else " extends " ++ String.intercalate " & " (bounds.map JavaType.text)

/-- What is written for a type parameter is its name and the bounds that are written. -/
theorem text_eq (parameter : TypeParameter) :
    parameter.text = parameter.asWritten.name ++ boundsText parameter.asWritten.bounds := by
  rw [bounds_asWritten, boundsText, text, ← writtenBounds]
  split
  · rw [String.append_empty]
    rfl
  · rw [← String.append_assoc]
    rfl

/-- The type parameters where one of them is declared as it is written. -/
def rewritten (parameters : List TypeParameter) (parameter : TypeParameter) : List TypeParameter :=
  parameters.map fun other => if other = parameter then parameter.asWritten else other

variable {parameters : List TypeParameter} {parameter : TypeParameter}

/-- Among parameters with different names each is the first one of its name. -/
theorem find?_name (distinct : (parameters.map name).Nodup) (declared : parameter ∈ parameters) :
    (parameters.find? fun other => other.name = parameter.name) = some parameter := by
  cases found : parameters.find? fun other => other.name = parameter.name with
  | none =>
    have absent := List.find?_eq_none.mp found parameter declared
    simp at absent
  | some other =>
    have named : other.name = parameter.name := by simpa using List.find?_some found
    rw [List.inj_on_of_nodup_map distinct (List.mem_of_find?_eq_some found) declared named]

theorem boundOf?_of_mem (distinct : (parameters.map name).Nodup)
    (declared : parameter ∈ parameters) :
    boundOf? parameters parameter.name = parameter.leftmostBound? := by
  rw [boundOf?, find?_name distinct declared, Option.bind_some]

theorem boundOf?_rewritten (distinct : (parameters.map TypeParameter.name).Nodup)
    (declared : parameter ∈ parameters) (name : String) :
    boundOf? (rewritten parameters parameter) name =
      if name = parameter.name then parameter.writtenBounds.head?
      else boundOf? parameters name := by
  have named : ((fun other : TypeParameter => decide (other.name = name)) ∘
      fun other => if other = parameter then parameter.asWritten else other) =
        fun other => decide (other.name = name) := by
    funext other
    rw [Function.comp_apply]
    split
    · rename_i same
      rw [same]
      rfl
    · rfl
  rw [boundOf?, rewritten, List.find?_map, named, Option.bind_map]
  split
  · rename_i same
    rw [same, find?_name distinct declared, Option.bind_some, Function.comp_apply, if_pos rfl,
      leftmostBound?_asWritten]
  · rename_i different
    refine Option.bind_congr fun other found => ?_
    have kept : other ≠ parameter := by
      rintro rfl
      have met : other.name = name := by simpa using List.find?_some found
      exact different met.symm
    rw [Function.comp_apply, if_neg kept]

end TypeParameter

open TypeParameter

/-! ### Departing from the root -/

namespace JavaType

/-- A type departs from the class at the root of all after a number of steps. It is
neither that class nor a variable, or it is a variable whose leftmost bound departs. -/
inductive Departs (parameters : List TypeParameter) : Nat → JavaType → Prop where
  | here {type : JavaType} (other : type.className? ≠ some .object)
    (fixed : ∀ name, type ≠ typeVariable name) : Departs parameters 0 type
  | further {depth : Nat} {name : String} {bound : JavaType}
    (bounded : boundOf? parameters name = some bound) (ahead : Departs parameters depth bound) :
    Departs parameters (depth + 1) (typeVariable name)

variable {parameters : List TypeParameter} {depth : Nat} {type : JavaType}

theorem Departs.unique (departs : Departs parameters depth type) {other : Nat}
    (again : Departs parameters other type) : depth = other := by
  induction departs generalizing other with
  | here _ fixed =>
    cases again with
    | here => rfl
    | further => exact absurd rfl (fixed _)
  | further bounded _ hypothesis =>
    cases again with
    | here _ fixed => exact absurd rfl (fixed _)
    | further bounded' ahead =>
      cases bounded.symm.trans bounded'
      rw [hypothesis ahead]

theorem not_departs_of_root (root : type.className? = some .object) :
    ¬ Departs parameters depth type := by
  intro departs
  cases departs with
  | here other fixed => exact other root
  | further bounded ahead => cases root

/-- No variable is met twice on the way. -/
theorem Departs.exists_names (departs : Departs parameters depth type) :
    ∃ names : List String, names.length = depth ∧ names.Nodup ∧
      names ⊆ parameters.map TypeParameter.name ∧
      ∀ name ∈ names, ∃ fewer ≤ depth, Departs parameters fewer (typeVariable name) := by
  induction departs with
  | here => exact ⟨[], rfl, .nil, List.nil_subset _, nofun⟩
  | @further depth name bound bounded ahead hypothesis =>
    obtain ⟨names, length, distinct, declared, later⟩ := hypothesis
    refine ⟨name :: names, by rw [List.length_cons, length], ?_, ?_, ?_⟩
    · refine List.nodup_cons.mpr ⟨fun again => ?_, distinct⟩
      obtain ⟨fewer, less, departs⟩ := later name again
      have same := departs.unique (.further bounded ahead)
      omega
    · exact List.cons_subset.mpr ⟨mem_names_of_boundOf? bounded, declared⟩
    · intro other inside
      rcases List.mem_cons.mp inside with rfl | inside
      · exact ⟨depth + 1, Nat.le_refl _, .further bounded ahead⟩
      · obtain ⟨fewer, less, departs⟩ := later other inside
        exact ⟨fewer, Nat.le_succ_of_le less, departs⟩

theorem Departs.le_length (departs : Departs parameters depth type) :
    depth ≤ parameters.length := by
  obtain ⟨names, rfl, distinct, declared, -⟩ := departs.exists_names
  simpa using distinct.length_le_of_subset declared

theorem erasureWith_eq_object_iff {ofVariable : String → JavaType} :
    type.erasureWith ofVariable = object ↔
      type.className? = some .object ∨ ∃ name, type = typeVariable name ∧ ofVariable name = object := by
  cases type <;> simp [erasureWith, className?, object]

theorem departs_typeVariable_iff {name : String} {bound : JavaType}
    (bounded : boundOf? parameters name = some bound) :
    Departs parameters depth (typeVariable name) ↔
      ∃ fewer, depth = fewer + 1 ∧ Departs parameters fewer bound := by
  constructor
  · intro departs
    cases departs with
    | here other fixed => exact absurd rfl (fixed name)
    | further bounded' ahead =>
      cases bounded.symm.trans bounded'
      exact ⟨_, rfl, ahead⟩
  · rintro ⟨fewer, rfl, ahead⟩
    exact .further bounded ahead

theorem not_departs_of_unbounded {name : String} (unbounded : boundOf? parameters name = none) :
    ¬ Departs parameters depth (typeVariable name) := by
  intro departs
  cases departs with
  | here other fixed => exact fixed name rfl
  | further bounded ahead => cases unbounded.symm.trans bounded

/-- What holds of variables within a number of steps holds of all types, for any other
type departs at once or is the class at the root of all itself. -/
theorem erasureWith_ne_object_of_variables {steps : Nat}
    (ofEach : ∀ name, variableErasure parameters steps name ≠ object ↔
      ∃ depth ≤ steps, Departs parameters depth (typeVariable name)) :
    type.erasureWith (variableErasure parameters steps) ≠ object ↔
      ∃ depth ≤ steps, Departs parameters depth type := by
  by_cases fixed : ∀ name, type ≠ typeVariable name
  · rw [Ne, erasureWith_eq_object_iff]
    constructor
    · intro other
      exact ⟨0, Nat.zero_le steps, .here (fun root => other (.inl root)) fixed⟩
    · rintro ⟨depth, -, departs⟩ (root | ⟨name, same, -⟩)
      · exact not_departs_of_root root departs
      · exact fixed name same
  · obtain ⟨name, same⟩ := not_forall_not.mp fixed
    subst same
    exact ofEach name

/-- Within a number of steps a variable erases to the class at the root of all unless it
departs from it within as many. -/
theorem variableErasure_ne_object_iff (steps : Nat) (name : String) :
    variableErasure parameters steps name ≠ object ↔
      ∃ depth ≤ steps, Departs parameters depth (typeVariable name) := by
  induction steps generalizing name with
  | zero =>
    refine iff_of_false (fun other => other rfl) ?_
    rintro ⟨depth, none, departs⟩
    cases departs with
    | here other fixed => exact fixed name rfl
    | further bounded ahead => cases none
  | succ steps hypothesis =>
    cases bounded : boundOf? parameters name with
    | none =>
      refine iff_of_false (fun other => other (variableErasure_of_unbounded bounded _)) ?_
      rintro ⟨depth, -, departs⟩
      exact not_departs_of_unbounded bounded departs
    | some bound =>
      rw [variableErasure_succ bounded, erasureWith_ne_object_of_variables hypothesis]
      constructor
      · rintro ⟨depth, enough, departs⟩
        exact ⟨depth + 1, Nat.succ_le_succ enough, .further bounded departs⟩
      · rintro ⟨depth, enough, departs⟩
        obtain ⟨fewer, rfl, ahead⟩ := (departs_typeVariable_iff bounded).mp departs
        exact ⟨fewer, Nat.le_of_succ_le_succ enough, ahead⟩

/-- A type erases to the class at the root of all unless it departs from it. -/
theorem erasure_eq_object_iff :
    type.erasure parameters = object ↔ ∀ depth, ¬ Departs parameters depth type := by
  rw [← not_iff_not, not_forall_not]
  refine (erasureWith_ne_object_of_variables (variableErasure_ne_object_iff _)).trans
    (exists_congr fun depth => ?_)
  exact and_iff_right_of_imp Departs.le_length

end JavaType

/-! ### Erasure by what is written -/

section Rewritten

open JavaType

variable {parameters : List TypeParameter} {parameter : TypeParameter} {next : JavaType}

theorem length_rewritten : (rewritten parameters parameter).length = parameters.length :=
  List.length_map _

/-- A bound that takes the place of one by the class at the root of all departs from
that class as it did before. The variable that it bounds is not on the way: before,
it would have led to the root, and afterwards, back to the bound. -/
theorem departs_rewritten_iff (distinct : (parameters.map TypeParameter.name).Nodup)
    (declared : parameter ∈ parameters) {first : JavaType}
    (leftmost : parameter.leftmostBound? = some first) (root : first.className? = some .object)
    (takesPlace : parameter.writtenBounds.head? = some next) (depth : Nat) :
    Departs (rewritten parameters parameter) depth next ↔ Departs parameters depth next := by
  have boundBefore := (boundOf?_of_mem distinct declared).trans leftmost
  have boundAfter : boundOf? (rewritten parameters parameter) parameter.name = some next := by
    rw [boundOf?_rewritten distinct declared, if_pos rfl, takesPlace]
  have boundOfOther : ∀ name, name ≠ parameter.name →
      boundOf? (rewritten parameters parameter) name = boundOf? parameters name := by
    intro name different
    rw [boundOf?_rewritten distinct declared, if_neg different]
  constructor
  · intro departs
    have later := Departs.further boundAfter departs
    -- Every part of the way is shorter than the way from the variable.
    have part : ∀ {fewer : Nat} {type : JavaType},
        Departs (rewritten parameters parameter) fewer type → fewer ≤ depth →
          Departs parameters fewer type := by
      intro fewer type departs
      induction departs with
      | here other fixed => exact fun _ => .here other fixed
      | @further fewer name bound bounded ahead hypothesis =>
        intro less
        have different : name ≠ parameter.name := by
          rintro rfl
          have same := later.unique (.further bounded ahead)
          omega
        rw [boundOfOther name different] at bounded
        exact .further bounded (hypothesis (Nat.le_of_succ_le less))
    exact part departs (Nat.le_refl depth)
  · have whole : ∀ {depth : Nat} {type : JavaType}, Departs parameters depth type →
        Departs (rewritten parameters parameter) depth type := by
      intro depth type departs
      induction departs with
      | here other fixed => exact .here other fixed
      | @further depth name bound bounded ahead hypothesis =>
        have different : name ≠ parameter.name := by
          rintro rfl
          cases boundBefore.symm.trans bounded
          exact not_departs_of_root root ahead
        rw [← boundOfOther name different] at bounded
        exact .further bounded hypothesis
    exact whole

/-- Where the first bound is written, nothing erases otherwise than before. -/
theorem erasure_rewritten (distinct : (parameters.map TypeParameter.name).Nodup)
    (declared : parameter ∈ parameters)
    (kept : parameter.writtenBounds.head? = parameter.leftmostBound?) (name : String) :
    (typeVariable name).erasure (rewritten parameters parameter) =
      (typeVariable name).erasure parameters := by
  have same : ∀ name, boundOf? (rewritten parameters parameter) name = boundOf? parameters name := by
    intro name
    rw [boundOf?_rewritten distinct declared]
    split
    · rename_i here
      rw [here, kept, boundOf?_of_mem distinct declared]
    · rfl
  calc (typeVariable name).erasure (rewritten parameters parameter)
      = variableErasure (rewritten parameters parameter) parameters.length name := by
        rw [← length_rewritten]
        rfl
    _ = (typeVariable name).erasure parameters :=
      variableErasure_congr (fun reached _ => same reached) _

theorem head?_writtenBounds
    (other : ∀ first, parameter.leftmostBound? = some first → first.className? ≠ some .object) :
    parameter.writtenBounds.head? = parameter.leftmostBound? := by
  rw [leftmostBound?] at other ⊢
  rw [writtenBounds]
  cases split : parameter.bounds with
  | nil => rfl
  | cons first rest =>
    have written : first.className? ≠ some .object := other first (by rw [split]; rfl)
    rw [List.filter_cons_of_pos (by simpa using written)]
    rfl

theorem erasure_rewritten_eq_iff (distinct : (parameters.map TypeParameter.name).Nodup)
    (declared : parameter ∈ parameters) :
    (typeVariable parameter.name).erasure (rewritten parameters parameter) =
        (typeVariable parameter.name).erasure parameters ↔
      ∀ first next, parameter.leftmostBound? = some first → first.className? = some .object →
        parameter.writtenBounds.head? = some next → next.erasure parameters = .object := by
  by_cases other : ∀ first, parameter.leftmostBound? = some first → first.className? ≠ some .object
  · refine iff_of_true (erasure_rewritten distinct declared (head?_writtenBounds other) _) ?_
    intro first next leftmost root
    exact absurd root (other first leftmost)
  push Not at other
  obtain ⟨first, leftmost, root⟩ := other
  have boundBefore := (boundOf?_of_mem distinct declared).trans leftmost
  have boundAfter := boundOf?_rewritten distinct declared parameter.name
  rw [if_pos rfl] at boundAfter
  have before : (typeVariable parameter.name).erasure parameters = .object := by
    refine erasure_eq_object_iff.mpr fun depth departs => ?_
    obtain ⟨fewer, -, ahead⟩ := (departs_typeVariable_iff boundBefore).mp departs
    exact not_departs_of_root root ahead
  rw [before, erasure_eq_object_iff]
  cases takesPlace : parameter.writtenBounds.head? with
  | none =>
    rw [takesPlace] at boundAfter
    exact iff_of_true (fun depth => not_departs_of_unbounded boundAfter) nofun
  | some next =>
    rw [takesPlace] at boundAfter
    have sameWay := departs_rewritten_iff distinct declared leftmost root takesPlace
    constructor
    · rintro stays _ _ - - ⟨⟩
      refine erasure_eq_object_iff.mpr fun depth departs => ?_
      exact stays (depth + 1) (.further boundAfter ((sameWay depth).mpr departs))
    · intro stays depth departs
      obtain ⟨fewer, -, ahead⟩ := (departs_typeVariable_iff boundAfter).mp departs
      exact erasure_eq_object_iff.mp (stays first next leftmost root rfl) fewer
        ((sameWay fewer).mp ahead)

/-- What is written for a type parameter declares it with the bounds that are written.
By that declaration its variable erases as before exactly if no other bound takes the
place of one by the class at the root of all, or the one that does erases to that
class itself. -/
theorem written_parameter_erases_iff (distinct : (parameters.map TypeParameter.name).Nodup)
    (declared : parameter ∈ parameters) :
    parameter.text = parameter.asWritten.name ++ boundsText parameter.asWritten.bounds ∧
    ((typeVariable parameter.name).erasure (rewritten parameters parameter) =
        (typeVariable parameter.name).erasure parameters ↔
      ∀ first next, parameter.leftmostBound? = some first → first.className? = some .object →
        parameter.writtenBounds.head? = some next → next.erasure parameters = .object) :=
  ⟨parameter.text_eq, erasure_rewritten_eq_iff distinct declared⟩

end Rewritten

/-- The class at the root of all bounds a variable, in front of another variable with
that bound. -/
def rootedParameters : List TypeParameter :=
  [⟨"T", some .object, [.typeVariable "U"]⟩, ⟨"U", some .object, []⟩]

theorem written_parameter_erases_iff_rooted :
    (rootedParameters.map TypeParameter.name).Nodup ∧
    ⟨"T", some .object, [.typeVariable "U"]⟩ ∈ rootedParameters ∧
    (JavaType.typeVariable "T").erasure
        (rewritten rootedParameters ⟨"T", some .object, [.typeVariable "U"]⟩) =
      (JavaType.typeVariable "T").erasure rootedParameters := by
  have distinct : (rootedParameters.map TypeParameter.name).Nodup := by decide
  have declared : ⟨"T", some .object, [.typeVariable "U"]⟩ ∈ rootedParameters := List.mem_cons_self
  refine ⟨distinct, declared, (written_parameter_erases_iff distinct declared).2.mpr ?_⟩
  rintro first next - - takesPlace
  cases takesPlace
  rfl

/-- The class at the root of all bounds a variable, in front of an interface. -/
def comparableParameter : TypeParameter := ⟨"T", some .object, [.named "java/lang/Comparable"]⟩

/-- Without the bound that goes without saying, the variable erases to the interface. -/
theorem erasure_rewritten_ne :
    MethodSignature.ofSignature "<T:Ljava/lang/Object;:Ljava/lang/Comparable;>(TT;)V" =
      .ok ⟨[comparableParameter], [.typeVariable "T"], .primitive .void, []⟩ ∧
    ([comparableParameter].map TypeParameter.name).Nodup ∧
    comparableParameter.text = "T extends java.lang.Comparable" ∧
    (JavaType.typeVariable "T").erasure (rewritten [comparableParameter] comparableParameter) =
      .named "java/lang/Comparable" ∧
    (JavaType.typeVariable "T").erasure [comparableParameter] = .object ∧
    (JavaType.typeVariable "T").erasure (rewritten [comparableParameter] comparableParameter) ≠
      (JavaType.typeVariable "T").erasure [comparableParameter] := by
  have after : (JavaType.typeVariable "T").erasure
      (rewritten [comparableParameter] comparableParameter) = .named "java/lang/Comparable" := by cbv
  have before : (JavaType.typeVariable "T").erasure [comparableParameter] = .object := by cbv
  refine ⟨by cbv, by decide, rfl, after, before, ?_⟩
  rw [after, before]
  simp [JavaType.named, JavaType.object, ClassName.object]

end ClassMembers
