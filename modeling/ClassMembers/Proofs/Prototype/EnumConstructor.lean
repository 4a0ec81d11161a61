/-
This file proves what the constructor of an enum constant declares. Its descriptor
begins with the name and the ordinal of the constant, which source code does not show
and which a signature omits. Without a signature these two are hidden; with one they
are not there, and the slots are counted from behind them. Either way the same
arguments are declared, in the same slots. There is one exception: if the class counts
as an inner class, as the bodies of constants do, the signature is held against the
descriptor, loses against it by two arguments, and the descriptor is used without
anything being hidden.
-/

import ClassMembers.Proofs.Prototype.Slots

namespace ClassMembers

/-- The name and the ordinal of an enum constant. -/
def hiddenEnumArguments : List JavaType := [.named "java/lang/String", .primitive .int]

/-- A prototype declares arguments as source code has them: it has so many, they erase
to the same, and their names are those of the slots behind the instance and the two
hidden arguments, for every namer that goes by slots. -/
structure Prototype.Declares (prototype : Prototype) (declared : List JavaType) : Prop where
  count : prototype.declaredArguments.length = declared.length
  erasing : prototype.declaredArguments.map prototype.signature.erase =
    declared.map prototype.signature.erase
  erased : (∀ type ∈ declared, type.isErased = true) →
    prototype.declaredArguments.map prototype.signature.erase = declared
  names : ∀ bySlot : Nat → String,
    (prototype.parameterNames fun slot _ => bySlot slot).drop
        ((prototype.parameterNames fun slot _ => bySlot slot).length - declared.length) =
      (List.range declared.length).map fun index => bySlot (argumentSlot 3 declared index)

/-! ### Parts of the argument -/

theorem map_erase_of_isErased (signature : MethodSignature) {types : List JavaType}
    (erased : ∀ type ∈ types, type.isErased = true) : types.map signature.erase = types :=
  (List.map_congr_left fun type inside => JavaType.erasure_of_isErased (erased type inside)).trans
    (List.map_id _)

/-- What arguments erase to erases to itself. -/
theorem map_erase_map_erase (signature : MethodSignature) (types : List JavaType) :
    (types.map signature.erase).map signature.erase = types.map signature.erase := by
  refine map_erase_of_isErased signature fun type inside => ?_
  obtain ⟨unerased, -, rfl⟩ := List.mem_map.mp inside
  exact JavaType.isErased_erasure unerased

/-- Behind the two hidden arguments the slots are those behind the instance and them. -/
theorem argumentSlot_hidden (declared : List JavaType) (index : Nat) :
    argumentSlot 1 (hiddenEnumArguments ++ declared) (index + 2) =
      argumentSlot 3 declared index := by
  simp only [argumentSlot, hiddenEnumArguments, JavaType.named, List.cons_append, List.nil_append,
    List.take_succ_cons, List.map_cons, List.sum_cons, JavaType.argumentWidth]
  omega

theorem drop_names_hidden (bySlot : Nat → String) (declared : List JavaType) :
    ((List.range (hiddenEnumArguments ++ declared).length).map fun index =>
        bySlot (argumentSlot 1 (hiddenEnumArguments ++ declared) index)).drop 2 =
      (List.range declared.length).map fun index => bySlot (argumentSlot 3 declared index) := by
  have count : (hiddenEnumArguments ++ declared).length = declared.length + 1 + 1 := by
    rw [List.length_append, Nat.add_comm]
    rfl
  rw [count, List.range_succ_eq_map, List.range_succ_eq_map]
  simp only [List.map_cons, List.map_map, List.drop_succ_cons, List.drop_zero]
  exact List.map_congr_left fun index _ => congrArg bySlot (argumentSlot_hidden declared index)

/-! ### The forms of a constructor -/

section Forms

variable {source : PrototypeSource} {descriptor : MethodSignature} {declared : List JavaType}

/-- Without a signature the two hidden arguments of the descriptor are hidden. -/
theorem declares_of_bare (kind : source.kind = .enumConstructor)
    (ofInstance : source.flags.contains Flag.isStatic = false) (absent : source.signature = none)
    (readDescriptor : MethodSignature.ofSignature source.descriptor = .ok descriptor)
    (shown : descriptor.arguments = hiddenEnumArguments ++ declared) :
    (source.prototype (descriptor, none)).Declares declared := by
  have bare : (source.prototype (descriptor, none)).kind = .bareEnumConstructor := by
    rw [PrototypeSource.prototype, kind, absent]
    rfl
  have passed : (source.prototype (descriptor, none)).effectiveArguments =
      hiddenEnumArguments ++ declared := shown
  have declares : (source.prototype (descriptor, none)).declaredArguments = declared := by
    rw [Prototype.declaredArguments, Prototype.hiddenCount, bare, passed]
    show (hiddenEnumArguments ++ declared).drop
      (min hiddenEnumArguments.length (hiddenEnumArguments ++ declared).length) = declared
    rw [Nat.min_eq_left (by rw [List.length_append]; exact Nat.le_add_right _ _), List.drop_left]
  have first : (source.prototype (descriptor, none)).firstSlot = 1 := by
    rw [Prototype.firstSlot, bare, PrototypeSource.prototype, ofInstance]
    rfl
  have widths : (source.prototype (descriptor, none)).effectiveArguments.map JavaType.slotWidth =
      (hiddenEnumArguments ++ declared).map JavaType.argumentWidth := by
    rw [← shown]
    exact slotWidths_of_ofSignature readDescriptor
  refine ⟨by rw [declares], by rw [declares], ?_, ?_⟩
  · intro erased
    rw [declares, map_erase_of_isErased _ erased]
  · intro bySlot
    have named : ((source.prototype (descriptor, none)).parameterNames fun slot _ => bySlot slot) =
        (List.range (hiddenEnumArguments ++ declared).length).map fun index =>
          bySlot (argumentSlot 1 (hiddenEnumArguments ++ declared) index) := by
      rw [← first]
      exact Prototype.namesBy_of_widths widths fun slot _ => bySlot slot
    have behind : (hiddenEnumArguments ++ declared).length - declared.length = 2 := by
      rw [List.length_append, Nat.add_sub_cancel]
      rfl
    rw [named, List.length_map, List.length_range, behind, drop_names_hidden]

/-- A signature that is not held against the descriptor has the declared arguments. -/
theorem declares_of_signature {text : String} {signature : MethodSignature}
    (kind : source.kind = .enumConstructor)
    (ofInstance : source.flags.contains Flag.isStatic = false)
    (given : source.signature = some text)
    (read : MethodSignature.ofSignature text = .ok signature)
    (readDescriptor : MethodSignature.ofSignature source.descriptor = .ok descriptor)
    (shown : descriptor.arguments = hiddenEnumArguments ++ declared)
    (erases : signature.arguments.map signature.erase = declared) :
    (source.prototype (signature, none)).Declares declared := by
  have whole : (source.prototype (signature, none)).kind = .enumConstructor := by
    rw [PrototypeSource.prototype, kind, given]
    rfl
  have declares : (source.prototype (signature, none)).declaredArguments = signature.arguments := by
    rw [Prototype.declaredArguments, Prototype.hiddenCount, whole]
    rfl
  have first : (source.prototype (signature, none)).firstSlot = 3 := by
    rw [Prototype.firstSlot, whole, PrototypeSource.prototype, ofInstance]
    rfl
  have count : signature.arguments.length = declared.length := by
    rw [← erases, List.length_map]
  have erasing : signature.arguments.map signature.erase = declared.map signature.erase := by
    rw [← erases, map_erase_map_erase]
  have widths : (source.prototype (signature, none)).effectiveArguments.map JavaType.slotWidth =
      declared.map JavaType.argumentWidth := by
    refine (slotWidths_of_erases read erases).trans ?_
    refine List.map_congr_left fun argument inside => slotWidth_eq_argumentWidth ?_
    refine MethodSignature.ne_void_of_mem_arguments readDescriptor argument ?_
    rw [shown]
    exact List.mem_append_right _ inside
  refine ⟨by rw [declares, count], by rw [declares]; exact erasing, ?_, ?_⟩
  · intro _
    rw [declares]
    exact erases
  · intro bySlot
    have named : ((source.prototype (signature, none)).parameterNames fun slot _ => bySlot slot) =
        (List.range declared.length).map fun index => bySlot (argumentSlot 3 declared index) := by
      rw [← first]
      exact Prototype.namesBy_of_widths widths fun slot _ => bySlot slot
    rw [named, List.length_map, List.length_range, Nat.sub_self, List.drop_zero]

/-- A signature that is held against the descriptor lacks two arguments, and nothing is
hidden of the descriptor, which is used instead. -/
theorem not_declares_of_compared {text : String} {signature : MethodSignature}
    {outcome : MethodSignature × Option MethodSignature} (kind : source.kind = .enumConstructor)
    (given : source.signature = some text)
    (shown : descriptor.arguments = hiddenEnumArguments ++ declared)
    (meets : signature.Meets descriptor outcome) :
    ¬ (source.prototype outcome).Declares declared := by
  have whole : (source.prototype outcome).kind = .enumConstructor := by
    rw [PrototypeSource.prototype, kind, given]
    rfl
  have passed := meets.length_arguments
  intro declares
  have count := declares.count
  rw [Prototype.declaredArguments, Prototype.hiddenCount, whole, List.drop_zero] at count
  have longer : descriptor.arguments.length = declared.length + 2 := by
    rw [shown, List.length_append, Nat.add_comm]
    rfl
  exact absurd (longer.symm.trans (passed.symm.trans count)) (by omega)

end Forms

/-! ### All forms together -/

/-- A constructor of an enum, whose descriptor shows the hidden arguments and whose
signature, if it has one, erases to the others, declares these others in their slots,
unless it has a signature and its class counts as an inner class. -/
theorem declares_iff {source : PrototypeSource} {descriptor : MethodSignature}
    {declared : List JavaType} (kind : source.kind = .enumConstructor)
    (ofInstance : source.flags.contains Flag.isStatic = false)
    (readDescriptor : MethodSignature.ofSignature source.descriptor = .ok descriptor)
    (shown : descriptor.arguments = .named "java/lang/String" :: .primitive .int :: declared)
    (erases : ∀ text, source.signature = some text →
      ∃ signature, MethodSignature.ofSignature text = .ok signature ∧
        signature.arguments.map signature.erase = declared) :
    ∃ prototype, Prototype.ofSource source = .ok prototype ∧
      (prototype.Declares declared ↔ source.ownerIsInner = false ∨ source.signature = none) := by
  cases given : source.signature with
  | none =>
    have unmet : ¬ source.Compares := fun compares => compares.2 given
    have read : MethodSignature.ofSignature source.preferredText = .ok descriptor := by
      rw [PrototypeSource.preferredText, given]
      exact readDescriptor
    refine ⟨_, ofSource_eq_ok.mpr
      ⟨_, signatures_eq_ok.mpr ⟨descriptor, read, .inr ⟨unmet, rfl⟩⟩, rfl⟩, ?_⟩
    exact iff_of_true (declares_of_bare kind ofInstance given readDescriptor shown) (.inr rfl)
  | some text =>
    obtain ⟨signature, readText, erasesTo⟩ := erases text given
    have read : MethodSignature.ofSignature source.preferredText = .ok signature := by
      rw [PrototypeSource.preferredText, given]
      exact readText
    cases inner : source.ownerIsInner with
    | false =>
      have unmet : ¬ source.Compares := fun compares => by
        cases inner.symm.trans compares.1
      refine ⟨_, ofSource_eq_ok.mpr
        ⟨_, signatures_eq_ok.mpr ⟨signature, read, .inr ⟨unmet, rfl⟩⟩, rfl⟩, ?_⟩
      exact iff_of_true
        (declares_of_signature kind ofInstance given readText readDescriptor shown erasesTo)
        (.inl rfl)
    | true =>
      have compares : source.Compares := ⟨inner, by rw [given]; exact Option.some_ne_none text⟩
      refine ⟨_, ofSource_eq_ok.mpr ⟨_, signatures_eq_ok.mpr
        ⟨signature, read, .inl ⟨compares, descriptor, readDescriptor, rfl⟩⟩, rfl⟩, ?_⟩
      exact iff_of_false
        (not_declares_of_compared kind given shown (MethodSignature.meets_of_reconcile rfl))
        (by rintro (⟨⟨⟩⟩ | ⟨⟨⟩⟩))

/-- A constructor of an enum with a wide and a generic argument. -/
def constantSource : PrototypeSource where
  name := "<init>"
  owner := ⟨"p/E"⟩
  ownerIsInner := false
  flags := .ofBits 0
  kind := .enumConstructor
  descriptor := "(Ljava/lang/String;IJLjava/lang/Number;)V"
  signature := some "<T:Ljava/lang/Number;>(JTT;)V"

theorem declares_iff_constant :
    ∃ prototype, Prototype.ofSource constantSource = .ok prototype ∧
      prototype.Declares [.primitive .long, .named "java/lang/Number"] := by
  have readDescriptor : MethodSignature.ofSignature constantSource.descriptor =
      .ok ⟨[], .named "java/lang/String" :: .primitive .int ::
        [.primitive .long, .named "java/lang/Number"], .primitive .void, []⟩ := by cbv
  have readSignature : MethodSignature.ofSignature "<T:Ljava/lang/Number;>(JTT;)V" =
      .ok ⟨[⟨"T", some (.named "java/lang/Number"), []⟩],
        [.primitive .long, .typeVariable "T"], .primitive .void, []⟩ := by cbv
  obtain ⟨prototype, made, declares⟩ := declares_iff rfl rfl readDescriptor rfl
    fun text given => by cases given; exact ⟨_, readSignature, by cbv⟩
  exact ⟨prototype, made, declares.mpr (.inl rfl)⟩

/-- The constructor of the body of an enum constant, whose class counts as an inner
class. -/
def constantBodySource : PrototypeSource where
  name := "<init>"
  owner := ⟨"p/E$1"⟩
  ownerIsInner := true
  flags := .ofBits 0
  kind := .enumConstructor
  descriptor := "(Ljava/lang/String;II)V"
  signature := some "(I)V"

/-- Its prototype, whose name and ordinal are not hidden. -/
def constantBodyPrototype : Prototype where
  name := "<init>"
  owner := ⟨"p/E$1"⟩
  signature := ⟨[], [.primitive .int], .primitive .void, []⟩
  fallback := some ⟨[], hiddenEnumArguments ++ [.primitive .int], .primitive .void, []⟩
  isInstance := true
  isVarargs := false
  isSynthetic := false
  kind := .enumConstructor
  computedNames := none

theorem not_declares_constantBody :
    MethodSignature.ofSignature constantBodySource.descriptor =
      .ok ⟨[], hiddenEnumArguments ++ [.primitive .int], .primitive .void, []⟩ ∧
    MethodSignature.ofSignature "(I)V" = .ok ⟨[], [.primitive .int], .primitive .void, []⟩ ∧
    Prototype.ofSource constantBodySource = .ok constantBodyPrototype ∧
    constantBodyPrototype.declaredArguments = hiddenEnumArguments ++ [.primitive .int] ∧
    constantBodyPrototype.parameterNames (fun slot _ => toString slot) = ["3", "4", "5"] ∧
    ¬ constantBodyPrototype.Declares [.primitive .int] :=
  ⟨by cbv, by cbv, by cbv, rfl, by cbv, fun declares => absurd declares.count (by decide)⟩

end ClassMembers
