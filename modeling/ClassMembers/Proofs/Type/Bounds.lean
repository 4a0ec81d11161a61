/-
This file proves that the erasure of a variable follows leftmost bounds to their
end. A variable leads to another one if its leftmost bound is that variable or an
array of it, so one chain goes out from each variable. A chain that never comes around
ends: in a bound whose element is no variable, or in a variable that has no bound. The
variable erases to what stands there, in all arrays that were passed on the way. Erasure
is given as many steps along the chain as there are type parameters. Such a chain passes
every parameter at most once, so the steps are enough for it, whatever its length: more
of them change nothing, and neither do parameters that are not reached. A chain that does
come around is followed until no step is left, and then the variable stands for the class
at the root of all, in the arrays that were passed.
-/

import Mathlib
import ClassMembers.Type.Erasure

namespace ClassMembers

open Relation

/-! ### The variable at the end of a bound -/

namespace JavaType

/-- What is left of a type without its array dimensions. -/
def element : JavaType → JavaType
  | array component => component.element
  | type => type

/-- Only what the variable at the end of a type erases to has a say in its erasure. -/
theorem erasureWith_congr {first second : String → JavaType} :
    ∀ {type : JavaType},
      (∀ name, type.element = typeVariable name → first name = second name) →
        type.erasureWith first = type.erasureWith second
  | primitive _, _ => rfl
  | ofClass _, _ => rfl
  | parameterized _, _ => rfl
  | typeVariable name, same => same name rfl
  | array _, same => congrArg array (erasureWith_congr same)

/-- The number of array dimensions of a type. -/
def dimensions : JavaType → Nat
  | array component => component.dimensions + 1
  | _ => 0

/-- A type erases to what its element erases to, in as many array dimensions. -/
theorem erasureWith_eq_iterate (ofVariable : String → JavaType) :
    ∀ type : JavaType, type.erasureWith ofVariable =
      array^[type.dimensions] (type.element.erasureWith ofVariable)
  | primitive _ => rfl
  | ofClass _ => rfl
  | parameterized _ => rfl
  | typeVariable _ => rfl
  | array component => by
    rw [dimensions, Function.iterate_succ_apply', element,
      ← component.erasureWith_eq_iterate ofVariable]
    rfl

theorem erasureWith_of_element {ofVariable : String → JavaType} {type : JavaType} {name : String}
    (ends : type.element = typeVariable name) :
    type.erasureWith ofVariable = array^[type.dimensions] (ofVariable name) := by
  rw [erasureWith_eq_iterate, ends]
  rfl

end JavaType

/-! ### Chains of bounds -/

namespace TypeParameter

/-- The leftmost bound of a variable, if it is declared and has one. The first
parameter of its name counts. -/
def boundOf? (parameters : List TypeParameter) (name : String) : Option JavaType :=
  (parameters.find? fun parameter => parameter.name = name).bind leftmostBound?

/-- The bound of the class comes first. -/
theorem leftmostBound?_eq (parameter : TypeParameter) :
    parameter.leftmostBound? = parameter.classBound.or parameter.interfaceBounds.head? := by
  rw [leftmostBound?, bounds]
  cases parameter.classBound <;> rfl

/-- A variable leads to another one if that one is its leftmost bound, or the
element of the arrays that its leftmost bound is. -/
def LeadsTo (parameters : List TypeParameter) (name next : String) : Prop :=
  ∃ bound, boundOf? parameters name = some bound ∧ bound.element = .typeVariable next

/-- The chain of a variable comes around if it reaches a variable that leads back to
itself. -/
def ComesAround (parameters : List TypeParameter) (name : String) : Prop :=
  ∃ again, ReflTransGen (LeadsTo parameters) name again ∧
    TransGen (LeadsTo parameters) again again

/-- The chain of a variable ends in an element, behind as many array dimensions as its bounds
pass. It ends in the class at the root of all if it comes to a variable without a bound, and
otherwise in the element of the first bound that leads to no other variable. -/
inductive EndsIn (parameters : List TypeParameter) : String → Nat → JavaType → Prop
  | unbounded {name : String} (missing : boundOf? parameters name = none) :
    EndsIn parameters name 0 .object
  | fixed {name : String} {bound : JavaType} (bounded : boundOf? parameters name = some bound)
    (fixes : ∀ next, bound.element ≠ .typeVariable next) :
    EndsIn parameters name bound.dimensions bound.element
  | further {name next : String} {bound last : JavaType} {dimensions : Nat}
    (bounded : boundOf? parameters name = some bound)
    (ends : bound.element = .typeVariable next) (ahead : EndsIn parameters next dimensions last) :
    EndsIn parameters name (bound.dimensions + dimensions) last

variable {parameters : List TypeParameter} {name next : String} {bound : JavaType}

/-- Only one chain goes out from a variable, so it has one end. -/
theorem EndsIn.unique {dimensions other : Nat} {last final : JavaType}
    (ends : EndsIn parameters name dimensions last) (again : EndsIn parameters name other final) :
    dimensions = other ∧ last = final := by
  induction ends generalizing other with
  | unbounded missing =>
    cases again with
    | unbounded => exact ⟨rfl, rfl⟩
    | fixed bounded => cases missing.symm.trans bounded
    | further bounded => cases missing.symm.trans bounded
  | fixed bounded fixes =>
    cases again with
    | unbounded missing => cases missing.symm.trans bounded
    | fixed bounded' =>
      cases bounded.symm.trans bounded'
      exact ⟨rfl, rfl⟩
    | further bounded' leads =>
      cases bounded.symm.trans bounded'
      exact absurd leads (fixes _)
  | further bounded leads _ hypothesis =>
    cases again with
    | unbounded missing => cases missing.symm.trans bounded
    | fixed bounded' fixes =>
      cases bounded.symm.trans bounded'
      exact absurd leads (fixes _)
    | further bounded' leads' ahead =>
      cases bounded.symm.trans bounded'
      cases leads.symm.trans leads'
      obtain ⟨same, lastly⟩ := hypothesis ahead
      exact ⟨congrArg _ same, lastly⟩

theorem mem_names_of_boundOf? (bounded : boundOf? parameters name = some bound) :
    name ∈ parameters.map TypeParameter.name := by
  obtain ⟨parameter, declared, -⟩ := Option.bind_eq_some_iff.mp bounded
  have named : parameter.name = name := by simpa using List.find?_some declared
  exact List.mem_map.mpr ⟨parameter, List.mem_of_find?_eq_some declared, named⟩

theorem ComesAround.of_leadsTo (leads : LeadsTo parameters name next)
    (around : ComesAround parameters next) : ComesAround parameters name := by
  obtain ⟨again, reached, back⟩ := around
  exact ⟨again, reached.head leads, back⟩

theorem ComesAround.exists_next (around : ComesAround parameters name) :
    ∃ next, LeadsTo parameters name next ∧ ComesAround parameters next := by
  obtain ⟨again, reached, back⟩ := around
  rcases ReflTransGen.cases_head reached with rfl | ⟨next, leads, reached⟩
  · obtain ⟨next, leads, reached⟩ := TransGen.head'_iff.mp back
    exact ⟨next, leads, name, reached, back⟩
  · exact ⟨next, leads, again, reached, back⟩

end TypeParameter

open TypeParameter

/-! ### Walking along a chain -/

namespace JavaType

variable {parameters : List TypeParameter} {name : String} {bound : JavaType}

theorem variableErasure_of_unbounded (unbounded : boundOf? parameters name = none) (steps : Nat) :
    variableErasure parameters steps name = object := by
  cases steps with
  | zero => rfl
  | succ steps =>
    rw [variableErasure]
    cases declared : parameters.find? fun parameter => parameter.name = name with
    | none => rfl
    | some parameter =>
      rw [boundOf?, declared, Option.bind_some] at unbounded
      dsimp only
      rw [unbounded]

theorem variableErasure_succ (bounded : boundOf? parameters name = some bound) (steps : Nat) :
    variableErasure parameters (steps + 1) name =
      bound.erasureWith (variableErasure parameters steps) := by
  obtain ⟨parameter, declared, leftmost⟩ := Option.bind_eq_some_iff.mp bounded
  rw [variableErasure, declared]
  dsimp only
  rw [leftmost]

/-- Behind a bound that leads to no other variable one step is as good as any number of them. -/
theorem variableErasure_of_fixed (bounded : boundOf? parameters name = some bound)
    (fixes : ∀ next, bound.element ≠ typeVariable next) (steps : Nat) :
    variableErasure parameters (steps + 1) name =
      array^[bound.dimensions] (bound.element.erasure parameters) := by
  rw [variableErasure_succ bounded, erasure, ← erasureWith_eq_iterate]
  exact erasureWith_congr fun next ends => absurd ends (fixes next)

/-- A chain that does not come around ends, and as many steps lead to its end as there are
names to hold all bounded variables on it. -/
theorem exists_endsIn {depth : Nat} (names : List String) (few : names.length ≤ depth)
    (straight : ¬ ComesAround parameters name)
    (holds : ∀ reached bound, ReflTransGen (LeadsTo parameters) name reached →
      boundOf? parameters reached = some bound → reached ∈ names) :
    ∃ dimensions last, EndsIn parameters name dimensions last ∧ ∀ steps, depth ≤ steps →
      variableErasure parameters steps name = array^[dimensions] (last.erasure parameters) := by
  induction depth generalizing names name with
  | zero =>
    have missing : boundOf? parameters name = none := by
      refine Option.eq_none_iff_forall_ne_some.mpr fun bound bounded => ?_
      have inside := holds name bound .refl bounded
      rw [List.length_eq_zero_iff.mp (Nat.le_zero.mp few)] at inside
      cases inside
    exact ⟨0, object, .unbounded missing, fun steps _ => variableErasure_of_unbounded missing steps⟩
  | succ depth hypothesis =>
    cases bounded : boundOf? parameters name with
    | none =>
      have erased := variableErasure_of_unbounded bounded
      exact ⟨0, object, .unbounded bounded, fun steps _ => erased steps⟩
    | some bound =>
      by_cases fixes : ∀ next, bound.element ≠ typeVariable next
      · refine ⟨bound.dimensions, bound.element, .fixed bounded fixes, fun steps enough => ?_⟩
        obtain ⟨steps, rfl⟩ := Nat.exists_eq_add_of_lt (Nat.zero_lt_of_lt enough)
        exact variableErasure_of_fixed bounded fixes _
      · obtain ⟨next, ends⟩ := not_forall_not.mp fixes
        have leads : LeadsTo parameters name next := ⟨bound, bounded, ends⟩
        -- The variable is not met again, so the names without its own hold what is ahead.
        have inside := holds name bound .refl bounded
        have others : ∀ reached further, ReflTransGen (LeadsTo parameters) next reached →
            boundOf? parameters reached = some further → reached ∈ names.erase name := by
          intro reached further path bounded'
          refine (List.mem_erase_of_ne ?_).mpr (holds reached further (path.head leads) bounded')
          rintro rfl
          exact straight ⟨reached, .refl, .head' leads path⟩
        have fewer : (names.erase name).length ≤ depth := by
          rw [List.length_erase_of_mem inside]
          omega
        obtain ⟨dimensions, last, ahead, erased⟩ := hypothesis (names.erase name) fewer
          (fun around => straight (around.of_leadsTo leads)) others
        refine ⟨_, last, .further bounded ends ahead, fun steps enough => ?_⟩
        obtain ⟨beyond, rfl⟩ := Nat.exists_eq_add_of_le' enough
        rw [← Nat.add_assoc, variableErasure_succ bounded, erasureWith_of_element ends,
          erased _ (Nat.le_add_left depth beyond), Function.iterate_add_apply]

/-- Along such a chain more steps than these make no difference. -/
theorem variableErasure_of_enough {depth : Nat} (names : List String) (few : names.length ≤ depth)
    (straight : ¬ ComesAround parameters name)
    (holds : ∀ reached bound, ReflTransGen (LeadsTo parameters) name reached →
      boundOf? parameters reached = some bound → reached ∈ names)
    {steps : Nat} (enough : depth ≤ steps) :
    variableErasure parameters steps name = variableErasure parameters depth name := by
  obtain ⟨_, _, -, erased⟩ := exists_endsIn names few straight holds
  rw [erased steps enough, erased depth (Nat.le_refl depth)]

/-- The steps of an erasure are enough for every chain that does not come around. -/
theorem variableErasure_of_length_le (straight : ¬ ComesAround parameters name) {steps : Nat}
    (enough : parameters.length ≤ steps) :
    variableErasure parameters steps name = (typeVariable name).erasure parameters :=
  variableErasure_of_enough (parameters.map TypeParameter.name) (List.length_map _).le straight
    (fun _ _ _ bounded => mem_names_of_boundOf? bounded) enough

/-- A variable erases to what stands at the end of its chain, in the arrays that were passed. -/
theorem erasure_of_straight (straight : ¬ ComesAround parameters name) :
    ∃ dimensions last, EndsIn parameters name dimensions last ∧
      (typeVariable name).erasure parameters = array^[dimensions] (last.erasure parameters) := by
  obtain ⟨dimensions, last, ends, erased⟩ := exists_endsIn (parameters.map TypeParameter.name)
    (List.length_map _).le straight fun _ _ _ bounded => mem_names_of_boundOf? bounded
  exact ⟨dimensions, last, ends, erased parameters.length (Nat.le_refl _)⟩

theorem erasure_typeVariable (straight : ¬ ComesAround parameters name)
    (bounded : boundOf? parameters name = some bound) :
    (typeVariable name).erasure parameters = bound.erasure parameters := by
  rw [← variableErasure_of_length_le straight (Nat.le_succ _), variableErasure_succ bounded]
  rfl

/-! ### Other type parameters -/

section Others

variable {others : List TypeParameter}
  (agree : ∀ reached, ReflTransGen (LeadsTo parameters) name reached →
    boundOf? others reached = boundOf? parameters reached)

include agree

theorem variableErasure_congr (steps : Nat) :
    variableErasure others steps name = variableErasure parameters steps name := by
  induction steps generalizing name with
  | zero => rfl
  | succ steps hypothesis =>
    have here := agree name .refl
    cases bounded : boundOf? parameters name with
    | none =>
      rw [variableErasure_of_unbounded bounded, variableErasure_of_unbounded (here.trans bounded)]
    | some bound =>
      rw [variableErasure_succ bounded, variableErasure_succ (here.trans bounded)]
      refine erasureWith_congr fun next ends => hypothesis fun reached path => ?_
      exact agree reached (path.head ⟨bound, bounded, ends⟩)

/-- Type parameters with the same bounds along a chain erase its variable to the same
type, however many there are of them. -/
theorem erasure_typeVariable_congr (straight : ¬ ComesAround parameters name) :
    (typeVariable name).erasure others = (typeVariable name).erasure parameters := by
  have fromOthers := variableErasure_of_enough (others.map TypeParameter.name)
    (List.length_map _).le straight
    (fun reached _ path bounded => mem_names_of_boundOf? ((agree reached path).trans bounded))
    (Nat.le_max_left others.length parameters.length)
  calc (typeVariable name).erasure others
      = variableErasure parameters others.length name := variableErasure_congr agree _
    _ = variableErasure parameters (max others.length parameters.length) name := fromOthers.symm
    _ = (typeVariable name).erasure parameters :=
      variableErasure_of_length_le straight (Nat.le_max_right _ _)

end Others

/-! ### Chains that come around -/

theorem variableErasure_of_comesAround (around : ComesAround parameters name) (steps : Nat) :
    ∃ dimensions, variableErasure parameters steps name = array^[dimensions] object := by
  induction steps generalizing name with
  | zero => exact ⟨0, rfl⟩
  | succ steps hypothesis =>
    obtain ⟨next, ⟨bound, bounded, ends⟩, around⟩ := around.exists_next
    obtain ⟨inner, ahead⟩ := hypothesis around
    refine ⟨bound.dimensions + inner, ?_⟩
    rw [variableErasure_succ bounded, erasureWith_of_element ends, ahead,
      Function.iterate_add_apply]

end JavaType

/-! ### Erasure of types -/

/-- The leftmost bound is that of the class, and the first of an interface if there is none.
What is no variable erases to its class, or to itself if it is primitive, and an array to the
array of what its component erases to. A variable whose chain of bounds does not come around
erases as its leftmost bound does, and to the class at the root of all if it has none. Its chain
has an end, and it erases to what the end erases to, in the array dimensions that were passed.
No number of steps beyond that of the type parameters makes a difference, and no type parameters
do that leave the bounds along the chain as they are. A variable whose chain comes around erases
to the class at the root of all in some array dimensions. -/
theorem erasure_follows_bounds (parameters : List TypeParameter) (name : String) :
    (∀ parameter : TypeParameter,
      parameter.leftmostBound? = parameter.classBound.or parameter.interfaceBounds.head?) ∧
    (∀ type, (JavaType.primitive type).erasure parameters = .primitive type) ∧
    (∀ declared, (JavaType.ofClass declared).erasure parameters = .ofClass declared) ∧
    (∀ generic : GenericType,
      (JavaType.parameterized generic).erasure parameters = .ofClass generic.base) ∧
    (∀ component : JavaType,
      (JavaType.array component).erasure parameters = .array (component.erasure parameters)) ∧
    (¬ ComesAround parameters name →
      (∀ bound, boundOf? parameters name = some bound →
        (JavaType.typeVariable name).erasure parameters = bound.erasure parameters) ∧
      (boundOf? parameters name = none →
        (JavaType.typeVariable name).erasure parameters = .object) ∧
      (∃ dimensions last, EndsIn parameters name dimensions last) ∧
      (∀ dimensions last, EndsIn parameters name dimensions last →
        (JavaType.typeVariable name).erasure parameters =
          JavaType.array^[dimensions] (last.erasure parameters)) ∧
      (∀ steps, parameters.length ≤ steps → JavaType.variableErasure parameters steps name =
        (JavaType.typeVariable name).erasure parameters) ∧
      (∀ others, (∀ reached, ReflTransGen (LeadsTo parameters) name reached →
          boundOf? others reached = boundOf? parameters reached) →
        (JavaType.typeVariable name).erasure others =
          (JavaType.typeVariable name).erasure parameters)) ∧
    (ComesAround parameters name → ∃ dimensions,
      (JavaType.typeVariable name).erasure parameters = JavaType.array^[dimensions] .object) := by
  refine ⟨leftmostBound?_eq, fun _ => rfl, fun _ => rfl, fun _ => rfl, fun _ => rfl,
    fun straight => ?_, fun around => JavaType.variableErasure_of_comesAround around _⟩
  obtain ⟨dimensions, last, ends, erased⟩ := JavaType.erasure_of_straight straight
  refine ⟨?_, ?_, ⟨dimensions, last, ends⟩, ?_, ?_, ?_⟩
  · intro bound bounded
    exact JavaType.erasure_typeVariable straight bounded
  · intro missing
    exact JavaType.variableErasure_of_unbounded missing _
  · intro other final again
    obtain ⟨rfl, rfl⟩ := ends.unique again
    exact erased
  · intro steps enough
    exact JavaType.variableErasure_of_length_le straight enough
  · intro others agree
    exact JavaType.erasure_typeVariable_congr agree straight

/-- An array of a variable bounds another one, in front of an interface. That variable is
declared twice, and the second time its bound would lead back. -/
def shadowedParameters : List TypeParameter :=
  [⟨"U", some (.array (.typeVariable "T")), [.named "p/J"]⟩, ⟨"T", none, [.named "p/I"]⟩,
    ⟨"T", some (.typeVariable "U"), []⟩]

/-- A variable is bounded by arrays of itself. -/
def circularParameters : List TypeParameter := [⟨"T", some (.array (.typeVariable "T")), []⟩]

theorem erasure_follows_bounds_shadowed :
    ¬ ComesAround shadowedParameters "U" ∧
    (JavaType.typeVariable "U").erasure shadowedParameters =
      (JavaType.array (.typeVariable "T")).erasure shadowedParameters ∧
    (JavaType.typeVariable "U").erasure shadowedParameters = .array (.named "p/I") ∧
    ComesAround circularParameters "T" ∧
    ∃ dimensions, (JavaType.typeVariable "T").erasure circularParameters =
      JavaType.array^[dimensions] .object := by
  have boundOfU : boundOf? shadowedParameters "U" = some (.array (.typeVariable "T")) := rfl
  have boundOfT : boundOf? shadowedParameters "T" = some (.named "p/I") := rfl
  have straight : ¬ ComesAround shadowedParameters "U" := by
    intro around
    obtain ⟨next, ⟨bound, bounded, ends⟩, around⟩ := around.exists_next
    cases boundOfU.symm.trans bounded
    cases ends
    obtain ⟨next, ⟨bound, bounded, ends⟩, -⟩ := around.exists_next
    cases boundOfT.symm.trans bounded
    cases ends
  have around : ComesAround circularParameters "T" := ⟨"T", .refl, .single ⟨_, rfl, rfl⟩⟩
  have ends : EndsIn shadowedParameters "U" 1 (.named "p/I") :=
    .further boundOfU rfl (.fixed boundOfT (by rintro _ ⟨⟩))
  obtain ⟨-, -, ofClass, -, -, follows, -⟩ := erasure_follows_bounds shadowedParameters "U"
  obtain ⟨asBound, -, -, atEnd, -⟩ := follows straight
  obtain ⟨-, -, -, -, -, -, comesAround⟩ := erasure_follows_bounds circularParameters "T"
  refine ⟨straight, asBound _ boundOfU, ?_, around, comesAround around⟩
  exact (atEnd 1 _ ends).trans (congrArg JavaType.array (ofClass _))

end ClassMembers
