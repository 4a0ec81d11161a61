/-
This file proves how the signature and the descriptor of a method become one
prototype. The signature is gone by where there is one; that of a method of an inner
class is held against the descriptor, and there are three outcomes. Either the
numbers of arguments agree, or the descriptor has one argument more in front and the
signature erases to the others, which puts that argument into the prototype, or the
descriptor is kept as the fallback. So the arguments that a call passes are as many
as those of the descriptor, unless a signature was never held against it.
-/

import ClassMembers.Prototype
import ClassMembers.Proofs.Signature.Erasure
import Mathlib

namespace ClassMembers

open Sequencing

/-! ### When a signature meets a descriptor -/

namespace MethodSignature

/-- A descriptor has one argument in front of those that a signature erases to. -/
def ErasesBehindFirst (signature descriptor : MethodSignature) : Prop :=
  descriptor.arguments.length = signature.arguments.length + 1 ∧
    ∀ index, ∀ inside : index < signature.arguments.length,
      ∀ behind : index + 1 < descriptor.arguments.length,
        signature.erase signature.arguments[index] = descriptor.arguments[index + 1]

/-- The outcomes when a signature meets a descriptor: the signature to go by, and
the fallback for its arguments. -/
inductive Meets (signature descriptor : MethodSignature) :
    MethodSignature × Option MethodSignature → Prop where
  | agreeing (counts : descriptor.arguments.length = signature.arguments.length) :
    Meets signature descriptor (signature, none)
  | patched (first : JavaType)
    (behind : descriptor.arguments = first :: signature.arguments.map signature.erase) :
    Meets signature descriptor
      ({ signature with arguments := first :: signature.arguments }, none)
  | apart (counts : descriptor.arguments.length ≠ signature.arguments.length)
    (unlike : ¬ signature.ErasesBehindFirst descriptor) :
    Meets signature descriptor (signature, some descriptor)

variable {signature descriptor : MethodSignature}

theorem erasesBehindFirst_iff :
    signature.ErasesBehindFirst descriptor ↔
      ∃ first, descriptor.arguments = first :: signature.arguments.map signature.erase := by
  constructor
  · rintro ⟨counts, erases⟩
    obtain ⟨first, rest, split⟩ := List.exists_cons_of_length_eq_add_one counts
    refine ⟨first, split.trans (congrArg (List.cons first) ?_)⟩
    simp only [split, List.length_cons, Nat.add_right_cancel_iff, List.getElem_cons_succ]
      at counts erases
    refine List.ext_getElem (counts.trans (List.length_map signature.erase).symm) ?_
    intro index inside there
    rw [List.getElem_map]
    exact (erases index (counts ▸ inside) (Nat.succ_lt_succ inside)).symm
  · rintro ⟨first, split⟩
    refine ⟨by rw [split, List.length_cons, List.length_map], ?_⟩
    intro index inside behind
    simp only [split, List.getElem_cons_succ, List.getElem_map]

theorem lacksFirstArgument_iff :
    signature.lacksFirstArgument descriptor = true ↔ signature.ErasesBehindFirst descriptor := by
  rw [erasesBehindFirst_iff, lacksFirstArgument, Bool.and_eq_true, decide_eq_true_iff,
    decide_eq_true_iff]
  constructor
  · rintro ⟨erases, counts⟩
    obtain ⟨first, rest, split⟩ := List.exists_cons_of_length_eq_add_one counts
    rw [split, List.drop_one, List.tail_cons] at erases
    exact ⟨first, split.trans (congrArg (List.cons first) erases.symm)⟩
  · rintro ⟨first, split⟩
    refine ⟨by rw [split, List.drop_one, List.tail_cons], ?_⟩
    rw [split, List.length_cons, List.length_map]

/-- A signature meets a descriptor with one of the outcomes. -/
theorem meets_of_reconcile {outcome : MethodSignature × Option MethodSignature}
    (met : signature.reconcile descriptor = outcome) : signature.Meets descriptor outcome := by
  subst met
  unfold reconcile
  split
  case isTrue counts => exact .agreeing counts
  case isFalse counts =>
    split
    case isTrue lacks =>
      obtain ⟨first, behind⟩ := erasesBehindFirst_iff.mp (lacksFirstArgument_iff.mp lacks)
      rw [withFirstArgument, behind]
      exact .patched first behind
    case isFalse lacks =>
      exact .apart counts fun erases => lacks (lacksFirstArgument_iff.mpr erases)

namespace Meets

variable {outcome : MethodSignature × Option MethodSignature}

/-- Of the signature nothing but the arguments is changed. -/
theorem kept (meets : signature.Meets descriptor outcome) :
    outcome.1.typeParameters = signature.typeParameters ∧
      outcome.1.result = signature.result ∧ outcome.1.throws = signature.throws := by
  cases meets <;> exact ⟨rfl, rfl, rfl⟩

/-- There are as many arguments to be passed as the descriptor has. -/
theorem length_arguments (meets : signature.Meets descriptor outcome) :
    (outcome.2.getD outcome.1).arguments.length = descriptor.arguments.length := by
  cases meets with
  | agreeing counts => exact counts.symm
  | patched first behind =>
    show (first :: signature.arguments).length = descriptor.arguments.length
    rw [behind, List.length_cons, List.length_cons, List.length_map]
  | apart counts unlike => rfl

end Meets

end MethodSignature

/-! ### Prototypes by their signatures -/

/-- The prototype of a source with the given signature and fallback. -/
def PrototypeSource.prototype (source : PrototypeSource)
    (signatures : MethodSignature × Option MethodSignature) : Prototype where
  name := source.name
  owner := source.owner
  signature := signatures.1
  fallback := signatures.2
  isInstance := !source.flags.contains Flag.isStatic
  isVarargs := source.flags.contains Flag.isVarargs
  isSynthetic := source.flags.contains Flag.isSynthetic
  kind := source.kind.withSignature source.signature
  computedNames := none

/-- The text that a prototype goes by: the signature if there is one, and the
descriptor if not. -/
def PrototypeSource.preferredText (source : PrototypeSource) : String :=
  source.signature.getD source.descriptor

/-- Whether the signature is held against the descriptor. -/
def PrototypeSource.Compares (source : PrototypeSource) : Prop :=
  source.ownerIsInner = true ∧ source.signature ≠ none

section Sources

variable {source : PrototypeSource}

theorem compares_iff :
    (source.ownerIsInner && source.signature.isSome) = true ↔ source.Compares := by
  rw [Bool.and_eq_true, Option.isSome_iff_ne_none, PrototypeSource.Compares]

/-- A source has signatures if the text it goes by is read, and the descriptor as
well where the two are compared. -/
theorem signatures_eq_ok {outcome : MethodSignature × Option MethodSignature} :
    source.signatures = .ok outcome ↔
      ∃ preferred, MethodSignature.ofSignature source.preferredText = .ok preferred ∧
        ((source.Compares ∧ ∃ descriptor,
            MethodSignature.ofSignature source.descriptor = .ok descriptor ∧
              preferred.reconcile descriptor = outcome) ∨
          (¬ source.Compares ∧ (preferred, none) = outcome)) := by
  refine except_bind_eq_ok.trans (exists_congr fun preferred => and_congr_right fun _ => ?_)
  by_cases compares : source.Compares
  · rw [if_pos (compares_iff.mpr compares), except_bind_eq_ok]
    simp only [compares, true_and, not_true_eq_false, false_and, or_false, pure, Except.pure,
      Except.ok.injEq]
  · rw [if_neg (mt compares_iff.mp compares)]
    simp only [compares, false_and, not_false_eq_true, true_and, false_or, pure, Except.pure,
      Except.ok.injEq]

theorem ofSource_eq_ok {prototype : Prototype} :
    Prototype.ofSource source = .ok prototype ↔
      ∃ outcome, source.signatures = .ok outcome ∧ source.prototype outcome = prototype := by
  refine except_bind_eq_ok.trans (exists_congr fun outcome => and_congr_right fun _ => ?_)
  exact ⟨Except.ok.inj, congrArg Except.ok⟩

/-- The failure is that of the text to go by, or else that of the descriptor. -/
theorem ofSource_eq_error {fault : SignatureError} :
    Prototype.ofSource source = .error fault ↔
      MethodSignature.ofSignature source.preferredText = .error fault ∨
        ∃ preferred, MethodSignature.ofSignature source.preferredText = .ok preferred ∧
          source.Compares ∧ MethodSignature.ofSignature source.descriptor = .error fault := by
  have bySignatures :
      Prototype.ofSource source = .error fault ↔ source.signatures = .error fault := by
    refine except_bind_eq_error.trans ⟨?_, .inl⟩
    rintro (failed | ⟨outcome, -, failed⟩)
    · exact failed
    · cases failed
  refine bySignatures.trans (except_bind_eq_error.trans (or_congr Iff.rfl ?_))
  refine exists_congr fun preferred => and_congr_right fun _ => ?_
  by_cases compares : source.Compares
  · rw [if_pos (compares_iff.mpr compares), except_bind_eq_error]
    constructor
    · rintro (failed | ⟨descriptor, -, failed⟩)
      · exact ⟨compares, failed⟩
      · cases failed
    · exact fun failed => .inl failed.2
  · rw [if_neg (mt compares_iff.mp compares)]
    constructor
    · intro failed
      cases failed
    · exact fun failed => absurd failed.1 compares

/-- How a prototype comes out of its source: by the text to go by alone, or by what
happens when the signature meets the descriptor. -/
inductive PrototypeSource.Makes (source : PrototypeSource) : Prototype → Prop where
  | alone (preferred : MethodSignature)
    (read : MethodSignature.ofSignature source.preferredText = .ok preferred)
    (unmet : ¬ source.Compares) : Makes source (source.prototype (preferred, none))
  | compared (signature descriptor : MethodSignature)
    (outcome : MethodSignature × Option MethodSignature) (compares : source.Compares)
    (read : MethodSignature.ofSignature source.preferredText = .ok signature)
    (readDescriptor : MethodSignature.ofSignature source.descriptor = .ok descriptor)
    (meets : signature.Meets descriptor outcome) : Makes source (source.prototype outcome)

theorem makes_of_ofSource {prototype : Prototype}
    (made : Prototype.ofSource source = .ok prototype) : source.Makes prototype := by
  obtain ⟨outcome, answered, rfl⟩ := ofSource_eq_ok.mp made
  obtain ⟨preferred, read, ⟨compares, descriptor, readDescriptor, met⟩ | ⟨unmet, rfl⟩⟩ :=
    signatures_eq_ok.mp answered
  · exact .compared preferred descriptor outcome compares read readDescriptor
      (MethodSignature.meets_of_reconcile met)
  · exact .alone preferred read unmet

end Sources

/-! ### Reconciliation -/

/-- What a prototype has of a signature and a descriptor that were compared. -/
structure Prototype.Reconciles (prototype : Prototype) (signature descriptor : MethodSignature) :
    Prop where
  agreeing : descriptor.arguments.length = signature.arguments.length →
    prototype.signature.arguments = signature.arguments ∧ prototype.fallback = none
  patched : signature.ErasesBehindFirst descriptor →
    ∃ first rest, descriptor.arguments = first :: rest ∧
      prototype.signature.arguments = first :: signature.arguments ∧ prototype.fallback = none ∧
      ((∀ type ∈ descriptor.arguments, type.isErased = true) →
        prototype.effectiveArguments.map signature.erase = descriptor.arguments)
  apart : descriptor.arguments.length ≠ signature.arguments.length →
    ¬ signature.ErasesBehindFirst descriptor →
      prototype.signature.arguments = signature.arguments ∧ prototype.fallback = some descriptor

theorem MethodSignature.Meets.reconciles {signature descriptor : MethodSignature}
    {outcome : MethodSignature × Option MethodSignature}
    (meets : signature.Meets descriptor outcome) (source : PrototypeSource) :
    (source.prototype outcome).Reconciles signature descriptor := by
  cases meets with
  | agreeing counts =>
    refine ⟨fun _ => ⟨rfl, rfl⟩, ?_, fun different => absurd counts different⟩
    rintro ⟨more, -⟩
    omega
  | patched first behind =>
    have erases := erasesBehindFirst_iff.mpr ⟨first, behind⟩
    refine ⟨?_, ?_, fun _ unlike => absurd erases unlike⟩
    · intro counts
      rw [erases.1] at counts
      omega
    · refine fun _ => ⟨first, _, behind, rfl, rfl, ?_⟩
      intro erased
      have plain : signature.erase first = first :=
        JavaType.erasure_of_isErased (erased first (behind ▸ List.mem_cons_self))
      show (first :: signature.arguments).map signature.erase = descriptor.arguments
      rw [List.map_cons, plain, behind]
  | apart counts unlike =>
    exact ⟨fun same => absurd same counts, fun erases => absurd erases unlike,
      fun _ _ => ⟨rfl, rfl⟩⟩

/-- A prototype is not made exactly if the text to go by is not read, or the descriptor
is not where the two are compared. Its type parameters, its result and what it throws
are always those of the text to go by. A signature of an inner class is reconciled with
the descriptor, and there, as where there is no signature, as many arguments are passed
as the descriptor has. -/
theorem ofSource_reconciles (source : PrototypeSource) :
    ((∃ fault, Prototype.ofSource source = .error fault) ↔
      (∃ fault, MethodSignature.ofSignature source.preferredText = .error fault) ∨
        source.ownerIsInner = true ∧ source.signature ≠ none ∧
          ∃ fault, MethodSignature.ofSignature source.descriptor = .error fault) ∧
    ∀ prototype, Prototype.ofSource source = .ok prototype →
      (∃ preferred, MethodSignature.ofSignature source.preferredText = .ok preferred ∧
        prototype.signature.typeParameters = preferred.typeParameters ∧
        prototype.signature.result = preferred.result ∧
        prototype.signature.throws = preferred.throws) ∧
      (∀ text, source.ownerIsInner = true → source.signature = some text →
        ∃ signature descriptor, MethodSignature.ofSignature text = .ok signature ∧
          MethodSignature.ofSignature source.descriptor = .ok descriptor ∧
          prototype.Reconciles signature descriptor) ∧
      (source.ownerIsInner = true ∨ source.signature = none →
        ∃ descriptor, MethodSignature.ofSignature source.descriptor = .ok descriptor ∧
          prototype.effectiveArguments.length = descriptor.arguments.length) := by
  refine ⟨?_, ?_⟩
  · constructor
    · rintro ⟨fault, failed⟩
      rcases ofSource_eq_error.mp failed with unread | ⟨preferred, -, compares, unread⟩
      · exact .inl ⟨fault, unread⟩
      · exact .inr ⟨compares.1, compares.2, fault, unread⟩
    · intro unread
      cases result : Prototype.ofSource source with
      | error fault => exact ⟨fault, rfl⟩
      | ok prototype =>
        cases makes_of_ofSource result with
        | alone preferred read unmet =>
          rcases unread with ⟨fault, unread⟩ | ⟨inner, given, -⟩
          · cases read.symm.trans unread
          · exact absurd ⟨inner, given⟩ unmet
        | compared signature descriptor outcome compares read readDescriptor meets =>
          rcases unread with ⟨fault, unread⟩ | ⟨-, -, fault, unread⟩
          · cases read.symm.trans unread
          · cases readDescriptor.symm.trans unread
  · intro prototype made
    cases makes_of_ofSource made with
    | alone preferred read unmet =>
      refine ⟨⟨preferred, read, rfl, rfl, rfl⟩, ?_, ?_⟩
      · intro text inner given
        exact absurd ⟨inner, given ▸ Option.some_ne_none text⟩ unmet
      · intro either
        have absent : source.signature = none := by
          rcases either with inner | absent
          · exact Classical.byContradiction fun given => unmet ⟨inner, given⟩
          · exact absent
        rw [PrototypeSource.preferredText, absent] at read
        exact ⟨preferred, read, rfl⟩
    | compared signature descriptor outcome compares read readDescriptor meets =>
      refine ⟨⟨signature, read, meets.kept⟩, ?_, ?_⟩
      · intro text inner given
        rw [PrototypeSource.preferredText, given] at read
        exact ⟨signature, descriptor, read, readDescriptor, meets.reconciles source⟩
      · exact fun _ => ⟨descriptor, readDescriptor, meets.length_arguments⟩

/-- A constructor of an inner class whose signature leaves out the instance around it. -/
def innerSource : PrototypeSource where
  name := "<init>"
  owner := ⟨"p/Outer$Inner"⟩
  ownerIsInner := true
  flags := .ofBits 1
  kind := .constructor
  descriptor := "(Lp/Outer;Ljava/lang/Number;[Ljava/lang/Number;)V"
  signature := some "<T:Ljava/lang/Number;>(TT;[TT;)V"

/-- Its prototype, which has that instance in front. -/
def innerPrototype : Prototype where
  name := "<init>"
  owner := ⟨"p/Outer$Inner"⟩
  signature := ⟨[⟨"T", some (.named "java/lang/Number"), []⟩],
    [.named "p/Outer", .typeVariable "T", .array (.typeVariable "T")], .primitive .void, []⟩
  fallback := none
  isInstance := true
  isVarargs := false
  isSynthetic := false
  kind := .constructor
  computedNames := none

theorem ofSource_reconciles_inner :
    Prototype.ofSource innerSource = .ok innerPrototype ∧
    (∃ signature descriptor,
      MethodSignature.ofSignature "<T:Ljava/lang/Number;>(TT;[TT;)V" = .ok signature ∧
      MethodSignature.ofSignature "(Lp/Outer;Ljava/lang/Number;[Ljava/lang/Number;)V" =
        .ok descriptor ∧
      innerPrototype.Reconciles signature descriptor) :=
  have made : Prototype.ofSource innerSource = .ok innerPrototype := by cbv
  ⟨made, ((ofSource_reconciles innerSource).2 innerPrototype made).2.1 _ rfl rfl⟩

end ClassMembers
