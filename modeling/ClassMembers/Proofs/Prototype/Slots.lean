/-
This file proves that parameters are named by the slots in which the machine keeps
them. Slots are counted along the arguments of the prototype, which may be those of
a signature, but the machine lays out those of the descriptor. Only the widths of
arguments matter for the count, and erasure keeps these, so the slots are the same
wherever the prototype follows the descriptor: argument by argument after a patch or
by agreement, or because the descriptor was taken instead.
-/

import ClassMembers.Proofs.Prototype.Reconciliation

namespace ClassMembers

/-! ### The slots of a descriptor -/

/-- The number of slots that the machine gives an argument: two for a `long` or a
`double`, and one for every other. -/
def JavaType.argumentWidth : JavaType → Nat
  | .primitive .long | .primitive .double => 2
  | _ => 1

/-- The slot of an argument behind those in front of it, given where the first one
begins. Counting stops at the greatest slot. -/
def argumentSlot (first : Nat) (arguments : List JavaType) (index : Nat) : Nat :=
  min 65535 (first + ((arguments.take index).map JavaType.argumentWidth).sum)

theorem slotWidth_eq_argumentWidth {type : JavaType} (valued : type ≠ .primitive .void) :
    type.slotWidth = type.argumentWidth := by
  cases type with
  | primitive type =>
    cases type with
    | void => exact absurd rfl valued
    | _ => rfl
  | _ => rfl

/-- No argument that was read is `void`, so all widths are those that the machine gives. -/
theorem slotWidths_of_ofSignature {text : String} {signature : MethodSignature}
    (read : MethodSignature.ofSignature text = .ok signature) :
    signature.arguments.map JavaType.slotWidth =
      signature.arguments.map JavaType.argumentWidth :=
  List.map_congr_left fun argument inside =>
    slotWidth_eq_argumentWidth (MethodSignature.ne_void_of_mem_arguments read argument inside)

/-! ### Counting slots -/

namespace Prototype

/-- Counting along arguments adds up their widths, and stops at the greatest slot. -/
theorem slotsFrom_eq {first : Nat} (small : first ≤ greatestSlot) (arguments : List JavaType) :
    slotsFrom first arguments = (List.range arguments.length).map fun index =>
      min greatestSlot (first + ((arguments.take index).map JavaType.slotWidth).sum) := by
  induction arguments generalizing first with
  | nil => rfl
  | cons argument rest hypothesis =>
    have start : min greatestSlot (first + 0) = first := Nat.min_eq_right small
    rw [slotsFrom, hypothesis (Nat.min_le_left _ _), List.length_cons, List.range_succ_eq_map,
      List.map_cons, List.map_map]
    refine List.cons_eq_cons.mpr ⟨start.symm, List.map_congr_left fun index _ => ?_⟩
    simp only [Function.comp_apply, List.take_succ_cons, List.map_cons, List.sum_cons]
    omega

/-- Arguments with the widths of a descriptor have the slots of that descriptor. -/
theorem slotsFrom_of_widths {first : Nat} (small : first ≤ greatestSlot)
    {arguments described : List JavaType}
    (widths : arguments.map JavaType.slotWidth = described.map JavaType.argumentWidth) :
    slotsFrom first arguments =
      (List.range described.length).map (argumentSlot first described) := by
  have counts : arguments.length = described.length := by
    rw [← List.length_map JavaType.slotWidth, widths, List.length_map]
  rw [slotsFrom_eq small, counts]
  refine List.map_congr_left fun index _ => ?_
  rw [List.map_take, widths, ← List.map_take]
  rfl

theorem zipIdx_map_range (view : Nat → Nat) (count : Nat) :
    ((List.range count).map view).zipIdx =
      (List.range count).map fun index => (view index, index) := by
  refine List.ext_getElem (by simp) fun index inside there => ?_
  rw [List.getElem_zipIdx, List.getElem_map, List.getElem_map, List.getElem_range, Nat.zero_add]

theorem firstSlot_le (prototype : Prototype) : prototype.firstSlot ≤ greatestSlot := by
  unfold firstSlot greatestSlot
  split <;> split <;> omega

/-- The names that a namer gives arguments with the widths of a descriptor. -/
theorem namesBy_of_widths {prototype : Prototype} {described : List JavaType}
    (widths : prototype.effectiveArguments.map JavaType.slotWidth =
      described.map JavaType.argumentWidth) (namer : Namer) :
    prototype.namesBy namer = (List.range described.length).map fun index =>
      namer (argumentSlot prototype.firstSlot described index) index := by
  rw [namesBy, slotsFrom_of_widths prototype.firstSlot_le widths, zipIdx_map_range, List.map_map]
  rfl

/-! ### Names once computed -/

theorem parameterNames_withNames (prototype : Prototype) (namer later : Namer) :
    (prototype.withNames namer).parameterNames later = prototype.parameterNames namer := rfl

theorem withNames_withNames (prototype : Prototype) (namer later : Namer) :
    (prototype.withNames namer).withNames later = prototype.withNames namer := rfl

/-- Names that were asked for once stay, whoever is asked to name afterwards. -/
theorem foldl_withNames (prototype : Prototype) (namer : Namer) (others : List Namer) :
    others.foldl withNames (prototype.withNames namer) = prototype.withNames namer := by
  induction others with
  | nil => rfl
  | cons other rest hypothesis => rw [List.foldl_cons, withNames_withNames, hypothesis]

end Prototype

/-! ### Prototypes that follow the descriptor -/

/-- The ways in which the arguments of a prototype follow the descriptor of its source:
there is no signature; or the signature of an inner class was patched, or given up for
the descriptor, or it erases to the descriptor argument by argument. -/
inductive PrototypeSource.Follows (source : PrototypeSource) (prototype : Prototype) : Prop where
  | bare (absent : source.signature = none)
  | patched (text : String) (signature : MethodSignature) (inner : source.ownerIsInner = true)
    (given : source.signature = some text)
    (read : MethodSignature.ofSignature text = .ok signature)
    (changed : prototype.signature.arguments ≠ signature.arguments)
  | fellBack (inner : source.ownerIsInner = true) (given : source.signature ≠ none)
    (fallback : prototype.fallback ≠ none)
  | agreeing (text : String) (signature descriptor : MethodSignature)
    (inner : source.ownerIsInner = true) (given : source.signature = some text)
    (read : MethodSignature.ofSignature text = .ok signature)
    (readDescriptor : MethodSignature.ofSignature source.descriptor = .ok descriptor)
    (erases : signature.arguments.map signature.erase = descriptor.arguments)

section Follows

variable {source : PrototypeSource} {prototype : Prototype}

/-- Arguments that erase to others are as wide. -/
theorem slotWidths_of_erases {text : String} {signature : MethodSignature}
    (read : MethodSignature.ofSignature text = .ok signature) {arguments erased : List JavaType}
    (erases : arguments.map signature.erase = erased) :
    arguments.map JavaType.slotWidth = erased.map JavaType.slotWidth := by
  rw [← erases, List.map_map]
  exact List.map_congr_left fun argument _ => (MethodSignature.slotWidth_erase read argument).symm

/-- A signature that met a descriptor, and does not merely have as many arguments, has
arguments as wide as those of the descriptor. -/
theorem slotWidths_of_meets {text : String} {signature descriptor : MethodSignature}
    {outcome : MethodSignature × Option MethodSignature}
    (read : MethodSignature.ofSignature text = .ok signature)
    (meets : signature.Meets descriptor outcome)
    (close : outcome = (signature, none) →
      signature.arguments.map signature.erase = descriptor.arguments) :
    (outcome.2.getD outcome.1).arguments.map JavaType.slotWidth =
      descriptor.arguments.map JavaType.slotWidth := by
  cases meets with
  | agreeing counts => exact slotWidths_of_erases read (close rfl)
  | patched first behind =>
    show (first :: signature.arguments).map JavaType.slotWidth = _
    rw [behind, List.map_cons, List.map_cons, slotWidths_of_erases read rfl]
  | apart counts unlike => rfl

/-- The arguments to be passed are as wide as those of the descriptor. -/
theorem slotWidths_of_follows (made : Prototype.ofSource source = .ok prototype)
    (follows : source.Follows prototype) :
    ∃ descriptor, MethodSignature.ofSignature source.descriptor = .ok descriptor ∧
      prototype.effectiveArguments.map JavaType.slotWidth =
        descriptor.arguments.map JavaType.argumentWidth := by
  cases makes_of_ofSource made with
  | alone preferred read unmet =>
    have absent : source.signature = none := by
      refine Classical.byContradiction fun given => ?_
      cases follows with
      | bare absent => exact given absent
      | patched _ _ inner => exact unmet ⟨inner, given⟩
      | fellBack inner => exact unmet ⟨inner, given⟩
      | agreeing _ _ _ inner => exact unmet ⟨inner, given⟩
    rw [PrototypeSource.preferredText, absent] at read
    exact ⟨preferred, read, slotWidths_of_ofSignature read⟩
  | compared signature descriptor outcome compares read readDescriptor meets =>
    refine ⟨descriptor, readDescriptor, ?_⟩
    rw [← slotWidths_of_ofSignature readDescriptor]
    refine slotWidths_of_meets read meets ?_
    rintro rfl
    cases follows with
    | bare absent => exact absurd absent compares.2
    | patched text other inner given readOther changed =>
      rw [PrototypeSource.preferredText, given] at read
      cases readOther.symm.trans read
      exact absurd rfl changed
    | fellBack inner given fallback => exact absurd rfl fallback
    | agreeing text other described inner given readOther readDescribed erases =>
      rw [PrototypeSource.preferredText, given] at read
      cases readOther.symm.trans read
      cases readDescribed.symm.trans readDescriptor
      exact erases

end Follows

/-! ### Names by slots -/

/-- A prototype that follows the descriptor, other than that of an enum constructor with
a signature, has one name for each argument of the descriptor, given for the slot of
that argument: behind the instance if there is one, and behind the arguments in front.
Every later request is answered with these names, whatever namer comes with it. -/
theorem parameterNames_of_follows {source : PrototypeSource} {prototype : Prototype}
    (made : Prototype.ofSource source = .ok prototype) (other : prototype.kind ≠ .enumConstructor)
    (follows : source.Follows prototype) :
    ∃ descriptor, MethodSignature.ofSignature source.descriptor = .ok descriptor ∧
      ∀ namer : Namer,
        prototype.parameterNames namer =
          (List.range descriptor.arguments.length).map (fun index =>
            namer (argumentSlot (if source.flags.contains Flag.isStatic then 0 else 1)
              descriptor.arguments index) index) ∧
        ∀ (others : List Namer) (later : Namer),
          (others.foldl Prototype.withNames (prototype.withNames namer)).parameterNames later =
            prototype.parameterNames namer := by
  obtain ⟨descriptor, readDescriptor, widths⟩ := slotWidths_of_follows made follows
  refine ⟨descriptor, readDescriptor, fun namer => ⟨?_, ?_⟩⟩
  · obtain ⟨outcome, -, rfl⟩ := ofSource_eq_ok.mp made
    have first : (source.prototype outcome).firstSlot =
        if source.flags.contains Flag.isStatic then 0 else 1 := by
      rw [Prototype.firstSlot, if_neg other, Nat.add_zero, PrototypeSource.prototype]
      cases source.flags.contains Flag.isStatic <;> rfl
    rw [← first]
    exact Prototype.namesBy_of_widths widths namer
  · intro others later
    rw [Prototype.foldl_withNames, Prototype.parameterNames_withNames]

/-- A constructor of an inner class with a wide argument, whose signature leaves out the
instance around it. -/
def wideSource : PrototypeSource where
  name := "<init>"
  owner := ⟨"p/Outer$Inner"⟩
  ownerIsInner := true
  flags := .ofBits 1
  kind := .constructor
  descriptor := "(Lp/Outer;JLjava/lang/Number;)V"
  signature := some "<T:Ljava/lang/Number;>(JTT;)V"

/-- Its prototype, which has that instance in front. -/
def widePrototype : Prototype where
  name := "<init>"
  owner := ⟨"p/Outer$Inner"⟩
  signature := ⟨[⟨"T", some (.named "java/lang/Number"), []⟩],
    [.named "p/Outer", .primitive .long, .typeVariable "T"], .primitive .void, []⟩
  fallback := none
  isInstance := true
  isVarargs := false
  isSynthetic := false
  kind := .constructor
  computedNames := none

theorem parameterNames_of_follows_wide :
    Prototype.ofSource wideSource = .ok widePrototype ∧
    widePrototype.parameterNames (fun slot _ => toString slot) = ["1", "2", "4"] ∧
    (widePrototype.withNames fun slot _ => toString slot).parameterNames .byPosition =
      ["1", "2", "4"] := by
  have made : Prototype.ofSource wideSource = .ok widePrototype := by cbv
  have readSignature : MethodSignature.ofSignature "<T:Ljava/lang/Number;>(JTT;)V" =
      .ok ⟨[⟨"T", some (.named "java/lang/Number"), []⟩],
        [.primitive .long, .typeVariable "T"], .primitive .void, []⟩ := by cbv
  have readDescriptor : MethodSignature.ofSignature "(Lp/Outer;JLjava/lang/Number;)V" =
      .ok ⟨[], [.named "p/Outer", .primitive .long, .named "java/lang/Number"],
        .primitive .void, []⟩ := by cbv
  obtain ⟨descriptor, read, names⟩ := parameterNames_of_follows made (by decide)
    (.patched _ _ rfl rfl readSignature (by simp [widePrototype]))
  cases readDescriptor.symm.trans read
  obtain ⟨first, later⟩ := names fun slot _ => toString slot
  have named : widePrototype.parameterNames (fun slot _ => toString slot) = ["1", "2", "4"] :=
    first.trans (by decide)
  exact ⟨made, named, (later [] .byPosition).trans named⟩

end ClassMembers
