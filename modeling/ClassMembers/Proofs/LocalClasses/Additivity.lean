/-
This file proves that registries of local classes add up. Whatever is done with registries,
each of them is what it was at the beginning, together with the offers that were made to it
since: the classes that it had keep their places, new ones come behind them as they are first
met, and the latest name that was offered for a class is the one it goes by. To merge
registries is to offer the classes of one to the other. So merging is associative, although
it is the left registry that settles the order of the classes and the right one that settles
their names.
-/

import ClassMembers.Proofs.FirstOccurrences
import ClassMembers.Proofs.LocalClasses

namespace ClassMembers

namespace LocalClasses

variable {registry : LocalClasses}

/-! ### Offers in a row -/

/-- The latest name that offers hold for a class. -/
def latestName? (offers : List (ClassName × Option String)) (name : ClassName) : Option String :=
  (offers.filterMap fun offer => if offer.1 = name then offer.2 else none).getLast?

/-- What offers make of a registry. Its classes stay in front, and the new ones follow in the
order in which they are first offered. A class goes by the latest name that is offered for it,
or by its earlier name if there is no such offer. -/
structure Collects (registry : LocalClasses) (offers : List (ClassName × Option String))
    (later : LocalClasses) : Prop where
  distinct : later.classes.Nodup
  classes : later.classes =
    registry.classes ++ ((offers.map Prod.fst).removeAll registry.classes).eraseDups
  names : ∀ name, later.suggestedName? name =
    (latestName? offers name).or (registry.suggestedName? name)

theorem nodup_classes_insert (distinct : registry.classes.Nodup) (name : ClassName)
    (suggestion : Option String) : (registry.insert name suggestion).classes.Nodup := by
  rw [classes_insert]
  split
  · exact distinct
  · rename_i new
    refine List.nodup_append.mpr ⟨distinct, List.pairwise_singleton .., ?_⟩
    intro known inside other last same
    exact new (List.mem_singleton.mp last ▸ same ▸ inside)

theorem nodup_classes_merge (distinct : registry.classes.Nodup)
    (offers : List (ClassName × Option String)) : (registry.merge ⟨offers⟩).classes.Nodup := by
  induction offers generalizing registry with
  | nil => exact distinct
  | cons offer rest hypothesis => exact hypothesis (nodup_classes_insert distinct _ _)

theorem classes_merge (registry : LocalClasses) (offers : List (ClassName × Option String)) :
    (registry.merge ⟨offers⟩).classes =
      registry.classes ++ ((offers.map Prod.fst).removeAll registry.classes).eraseDups :=
  view_foldl (fun registry offer => classes_insert registry offer.1 offer.2) registry offers

theorem latestName?_concat (offers : List (ClassName × Option String))
    (offer : ClassName × Option String) (name : ClassName) :
    latestName? (offers ++ [offer]) name =
      if offer.1 = name then offer.2.or (latestName? offers name) else latestName? offers name := by
  unfold latestName?
  rw [List.filterMap_append, List.getLast?_append]
  by_cases met : offer.1 = name
  · cases given : offer.2 <;> simp [met, given]
  · simp [met]

theorem suggestedName?_merge (registry : LocalClasses)
    (offers : List (ClassName × Option String)) (name : ClassName) :
    (registry.merge ⟨offers⟩).suggestedName? name =
      (latestName? offers name).or (registry.suggestedName? name) := by
  induction offers using List.reverseRecOn with
  | nil => rfl
  | append_singleton offers offer hypothesis =>
    rw [merge_concat, suggestedName?_insert, latestName?_concat, hypothesis]
    split
    · exact (Option.or_assoc ..).symm
    · rfl

theorem collects_merge (distinct : registry.classes.Nodup)
    (offers : List (ClassName × Option String)) :
    registry.Collects offers (registry.merge ⟨offers⟩) :=
  ⟨nodup_classes_merge distinct offers, classes_merge registry offers,
    suggestedName?_merge registry offers⟩

/-- What a registry holds is its classes with the names that are suggested for them. -/
theorem map_classes (distinct : registry.classes.Nodup) :
    (registry.classes.map fun name => (name, registry.suggestedName? name)) =
      registry.entries := by
  obtain ⟨entries⟩ := registry
  induction entries with
  | nil => rfl
  | cons entry rest hypothesis =>
    obtain ⟨new, distinctRest⟩ := List.nodup_cons.mp distinct
    have here : suggestedName? ⟨entry :: rest⟩ entry.1 = entry.2 := by simp [suggestedName?]
    have behind : ∀ name ∈ rest.map Prod.fst,
        suggestedName? ⟨entry :: rest⟩ name = suggestedName? ⟨rest⟩ name := by
      intro name inside
      have other : entry.1 ≠ name := fun same => new (same ▸ inside)
      simp [suggestedName?, other]
    show (entry.1, suggestedName? ⟨entry :: rest⟩ entry.1) :: (rest.map Prod.fst).map _ = _
    rw [here, List.map_congr_left fun name inside => congrArg (Prod.mk name) (behind name inside)]
    exact congrArg (entry :: ·) (hypothesis distinctRest)

/-! ### Sums of registries -/

theorem merge_append (registry : LocalClasses) (first second : List (ClassName × Option String)) :
    registry.merge ⟨first ++ second⟩ = (registry.merge ⟨first⟩).merge ⟨second⟩ :=
  List.foldl_append

/-- A class that is known can be offered before offers for other classes as well as behind
them. -/
theorem insert_merge_of_other {name : ClassName} (known : name ∈ registry.classes)
    {offers : List (ClassName × Option String)} (other : ∀ offer ∈ offers, name ≠ offer.1)
    (suggestion : Option String) :
    (registry.merge ⟨offers⟩).insert name suggestion =
      (registry.insert name suggestion).merge ⟨offers⟩ := by
  induction offers generalizing registry with
  | nil => rfl
  | cons offer rest hypothesis =>
    obtain ⟨here, behind⟩ := List.forall_mem_cons.mp other
    rw [merge_cons, merge_cons, hypothesis (mem_classes_insert.mpr (.inl known)) behind,
      insert_comm here known]

/-- To merge a registry to which a class was offered is to merge it and then offer the class. -/
theorem merge_insert {other : LocalClasses} (distinct : other.classes.Nodup)
    (registry : LocalClasses) (name : ClassName) (suggestion : Option String) :
    registry.merge (other.insert name suggestion) =
      (registry.merge other).insert name suggestion := by
  obtain ⟨entries⟩ := other
  show registry.merge ⟨offer name suggestion entries⟩ = _
  induction entries generalizing registry with
  | nil => rfl
  | cons entry rest hypothesis =>
    obtain ⟨new, distinctRest⟩ := List.nodup_cons.mp distinct
    by_cases met : entry.1 = name
    · subst met
      have others : ∀ offer ∈ rest, entry.1 ≠ offer.1 :=
        fun offer inside same => new (same ▸ List.mem_map_of_mem inside)
      have known : entry.1 ∈ (registry.insert entry.1 entry.2).classes :=
        mem_classes_insert.mpr (.inr rfl)
      rw [offer, if_pos rfl, merge_cons, merge_cons, insert_merge_of_other known others,
        insert_insert]
    · rw [offer, if_neg met, merge_cons, merge_cons, hypothesis _ distinctRest]

theorem merge_assoc {second : LocalClasses} (distinct : second.classes.Nodup)
    (first third : LocalClasses) :
    (first.merge second).merge third = first.merge (second.merge third) := by
  obtain ⟨offers⟩ := third
  induction offers using List.reverseRecOn with
  | nil => rfl
  | append_singleton offers offer hypothesis =>
    rw [merge_concat, merge_concat, hypothesis,
      merge_insert (nodup_classes_merge distinct offers)]

/-- What a registry holds already is nothing new to it. -/
theorem insert_of_mem (distinct : registry.classes.Nodup) {name : ClassName}
    {suggestion : Option String} (held : (name, suggestion) ∈ registry.entries) :
    registry.insert name suggestion = registry := by
  obtain ⟨entries⟩ := registry
  refine congrArg LocalClasses.mk ?_
  show offer name suggestion entries = entries
  induction entries with
  | nil => cases held
  | cons entry rest hypothesis =>
    obtain ⟨new, distinctRest⟩ := List.nodup_cons.mp distinct
    rcases List.mem_cons.mp held with rfl | behind
    · rw [offer, if_pos rfl, Option.or_self]
    · have other : entry.1 ≠ name := fun same => new (same ▸ List.mem_map_of_mem behind)
      rw [offer, if_neg other, hypothesis distinctRest behind]

theorem merge_of_subset (distinct : registry.classes.Nodup)
    {offers : List (ClassName × Option String)} (held : offers ⊆ registry.entries) :
    registry.merge ⟨offers⟩ = registry := by
  induction offers with
  | nil => rfl
  | cons offer rest hypothesis =>
    obtain ⟨here, behind⟩ := List.cons_subset.mp held
    rw [merge_cons, insert_of_mem distinct here, hypothesis behind]

theorem merge_self (distinct : registry.classes.Nodup) : registry.merge registry = registry :=
  merge_of_subset distinct (List.Subset.refl registry.entries)

/-! ### Classes that cannot be registered -/

/-- A type is refused exactly if it erases to a primitive type or to an array. -/
theorem register_eq_error_iff {type : JavaType} {suggestion : Option String}
    {fault : MemberError} :
    registry.register type suggestion = .error fault ↔
      fault = .notALocalClass type ∧
        ((∃ primitive, type.withoutGenerics = .primitive primitive) ∨
          ∃ component, type.withoutGenerics = .array component) := by
  unfold register
  cases type <;> simp [JavaType.withoutGenerics, JavaType.erasure, JavaType.erasureWith,
    JavaType.variableErasure, JavaType.object, eq_comm]

theorem register_toOption (registry : LocalClasses) (type : JavaType)
    (suggestion : Option String) :
    (registry.register type suggestion).toOption.getD registry =
      registry.merge ⟨classesAmong [(type, suggestion)]⟩ :=
  registerAll_eq registry [(type, suggestion)]

end LocalClasses

/-! ### Families of registries -/

/-- A step of work with registries: a class is registered in one of them, or one of them is
merged into another one or into itself. -/
inductive RegistryStep (ι : Type) where
  | register (target : ι) (type : JavaType) (suggestion : Option String)
  | merge (target source : ι)

/-- A family of registries. -/
abbrev Registries (ι : Type) := ι → LocalClasses

namespace Registries

variable {ι : Type} [DecidableEq ι] {registries : Registries ι}

/-- The registries after a step. A type that is refused changes nothing. -/
def after (registries : Registries ι) : RegistryStep ι → Registries ι
  | .register target type suggestion =>
    Function.update registries target
      (((registries target).register type suggestion).toOption.getD (registries target))
  | .merge target source =>
    Function.update registries target ((registries target).mergeFrom (registries source)).2

def afterAll (registries : Registries ι) (steps : List (RegistryStep ι)) : Registries ι :=
  steps.foldl after registries

/-- The offers that a step makes to a registry. A merge offers the classes of the other
registry under the names that they have there at that time. -/
def offers (registries : Registries ι) (index : ι) :
    RegistryStep ι → List (ClassName × Option String)
  | .register target type suggestion =>
    if target = index then LocalClasses.classesAmong [(type, suggestion)] else []
  | .merge target source =>
    if target = index then
      (registries source).classes.map fun name => (name, (registries source).suggestedName? name)
    else []

/-- The offers that steps one behind the other make to a registry. -/
def offersAll (registries : Registries ι) (index : ι) :
    List (RegistryStep ι) → List (ClassName × Option String)
  | [] => []
  | step :: rest => registries.offers index step ++ (registries.after step).offersAll index rest

/-- No registry holds a class twice. Empty registries hold none, and so it stays. -/
def Distinct (registries : Registries ι) : Prop := ∀ index, (registries index).classes.Nodup

/-- A step makes its offers, and nothing else happens. -/
theorem after_eq_merge (distinct : registries.Distinct) (step : RegistryStep ι) (index : ι) :
    registries.after step index = (registries index).merge ⟨registries.offers index step⟩ := by
  cases step with
  | register target type suggestion =>
    by_cases same : target = index
    · subst same
      rw [after, Function.update_self, offers, if_pos rfl, LocalClasses.register_toOption]
    · rw [after, Function.update_of_ne (Ne.symm same), offers, if_neg same]
      rfl
  | merge target source =>
    by_cases same : target = index
    · subst same
      rw [after, Function.update_self, offers, if_pos rfl,
        LocalClasses.map_classes (distinct source)]
      rfl
    · rw [after, Function.update_of_ne (Ne.symm same), offers, if_neg same]
      rfl

theorem Distinct.after (distinct : registries.Distinct) (step : RegistryStep ι) :
    (registries.after step).Distinct := by
  intro index
  rw [after_eq_merge distinct]
  exact LocalClasses.nodup_classes_merge (distinct index) _

theorem Distinct.afterAll (distinct : registries.Distinct) (steps : List (RegistryStep ι)) :
    (registries.afterAll steps).Distinct := by
  induction steps generalizing registries with
  | nil => exact distinct
  | cons step rest hypothesis => exact hypothesis (distinct.after step)

/-- Steps make their offers one behind the other, and nothing else happens. -/
theorem afterAll_eq_merge (distinct : registries.Distinct) (steps : List (RegistryStep ι))
    (index : ι) :
    registries.afterAll steps index =
      (registries index).merge ⟨registries.offersAll index steps⟩ := by
  induction steps generalizing registries with
  | nil => rfl
  | cons step rest hypothesis =>
    rw [offersAll, LocalClasses.merge_append, ← after_eq_merge distinct]
    exact hypothesis (distinct.after step)

theorem after_refused {target : ι} {type : JavaType} {suggestion : Option String}
    {fault : MemberError}
    (refused : (registries target).register type suggestion = .error fault) :
    registries.after (.register target type suggestion) = registries := by
  rw [after, refused]
  exact Function.update_eq_self target registries

/-- Registries add up. After any steps, each one is what it was with the offers that were made
to it; a type is refused exactly if it erases to a primitive type or to an array, and then
nothing changes; and merging, which tells whether there was anything to merge, is idempotent,
absorbs a second time, and is associative. -/
theorem registries_add_up (distinct : registries.Distinct) (steps : List (RegistryStep ι)) :
    let later := registries.afterAll steps
    (∀ index, (registries index).Collects (registries.offersAll index steps) (later index)) ∧
    (∀ index type suggestion fault,
      ((later index).register type suggestion = .error fault ↔
        fault = .notALocalClass type ∧
          ((∃ primitive, type.withoutGenerics = .primitive primitive) ∨
            ∃ component, type.withoutGenerics = .array component)) ∧
      ((later index).register type suggestion = .error fault →
        later.after (.register index type suggestion) = later)) ∧
    (∀ first, (later first).merge (later first) = later first) ∧
    (∀ first second, ((later first).merge (later second)).merge (later second) =
      (later first).merge (later second)) ∧
    (∀ first second third, ((later first).merge (later second)).merge (later third) =
      (later first).merge ((later second).merge (later third))) ∧
    (∀ first second, (later first).mergeFrom (later second) =
      (decide ((later second).classes ≠ []), (later first).merge (later second))) := by
  intro later
  have distinctLater : later.Distinct := distinct.afterAll steps
  refine ⟨fun index => ?_, fun index type suggestion fault =>
    ⟨LocalClasses.register_eq_error_iff, after_refused⟩, fun first => ?_, fun first second => ?_,
    fun first second third => ?_, fun first second => ?_⟩
  · show (registries index).Collects _ (registries.afterAll steps index)
    rw [afterAll_eq_merge distinct]
    exact LocalClasses.collects_merge (distinct index) _
  · exact LocalClasses.merge_self (distinctLater first)
  · exact LocalClasses.merge_merge (later first) (later second).entries
  · exact LocalClasses.merge_assoc (distinctLater second) _ _
  · unfold LocalClasses.mergeFrom LocalClasses.classes
    cases (later second).entries <;> rfl

/-- Two registries that meet one class, of which only one knows a name. -/
def sharingSteps : List (RegistryStep Bool) :=
  [.register false (.named "p/A$1L") (some "L"), .register true (.named "p/A$2") none,
    .register true (.named "p/A$1L") none, .merge false true, .merge true false,
    .merge false false]

theorem registries_add_up_shared :
    let later := afterAll (fun _ => .empty) sharingSteps
    (later false).classes = [⟨"p/A$1L"⟩, ⟨"p/A$2"⟩] ∧
    (later true).classes = [⟨"p/A$2"⟩, ⟨"p/A$1L"⟩] ∧
    (later true).suggestedName? ⟨"p/A$1L"⟩ = some "L" ∧
    (later true).register (.array (.named "p/A$2")) none =
      .error (.notALocalClass (.array (.named "p/A$2"))) ∧
    (later false).mergeFrom (later true) = (true, (later false).merge (later true)) := by
  have distinct : Registries.Distinct fun _ : Bool => .empty := fun _ => List.nodup_nil
  obtain ⟨collects, refuses, -, -, -, merges⟩ := registries_add_up distinct sharingSteps
  refine ⟨(collects false).classes.trans (by decide), (collects true).classes.trans (by decide),
    ((collects true).names _).trans (by decide), ?_, ?_⟩
  · exact (refuses true _ none _).1.mpr ⟨rfl, .inr ⟨_, rfl⟩⟩
  · refine (merges false true).trans (congrArg (·, _) ?_)
    exact decide_eq_true (by rw [(collects true).classes]; decide)

end Registries

end ClassMembers
