/-
This file proves what is left of attributes when the body of a method is taken from them. Code
that was read goes into the body, and the other attributes stay as they are. Without an
attribute for code nothing is taken. But the name of that attribute is taken out before it is
looked at, so code that was kept as a block of bytes, since it could not be read, is lost: it
gets into no body, and it is no longer among the attributes.
-/

import ClassMembers.Proofs.Attribute.Index
import ClassMembers.Proofs.Method.LifeCycle

namespace ClassMembers

/-! ### Attributes that are held -/

namespace Attributes

variable {attributes : Attributes}

theorem code?_eq_some_iff (distinct : attributes.names.Nodup) {code : Code} :
    attributes.code? = some code ↔ .code code ∈ attributes.entries := by
  have index := isIndexOf_entries distinct
  rw [index.code?, ← index.get?, get?_eq_some_iff distinct]
  exact and_iff_left rfl

theorem annotationDefault?_eq_some_iff (distinct : attributes.names.Nodup) {value : ElementValue} :
    attributes.annotationDefault? = some value ↔ .annotationDefault value ∈ attributes.entries := by
  have index := isIndexOf_entries distinct
  rw [index.annotationDefault?, ← index.get?, get?_eq_some_iff distinct]
  exact and_iff_left rfl

theorem annotationDefault?_erase_code (attributes : Attributes) :
    (attributes.erase AttributeKind.code.name).annotationDefault? =
      attributes.annotationDefault? := by
  unfold annotationDefault? ofKind?
  rw [get?_erase, if_neg (by decide)]

/-- What has the name of code without being code is a block of bytes. -/
theorem code_mem_names_iff (codeless : ∀ code, .code code ∉ attributes.entries) :
    AttributeKind.code.name ∈ attributes.names ↔
      ∃ body, .unknown AttributeKind.code.name body ∈ attributes.entries := by
  constructor
  · intro known
    obtain ⟨entry, inside, named⟩ := List.mem_map.mp known
    rcases kind?_of_name named with ofKind | ⟨body, rfl⟩
    · cases entry with
      | code code => exact absurd inside (codeless code)
      | _ => cases ofKind
    · exact ⟨body, inside⟩
  · rintro ⟨body, inside⟩
    exact List.mem_map_of_mem inside

end Attributes

/-! ### Taking the body -/

namespace MethodBody

variable {attributes : Attributes}

/-- A body that is taken from attributes without a loss: the code is handed over and all
others stay where they are, or there is no code and nothing changes. -/
inductive TakenWhole (attributes : Attributes) : MethodBody × Attributes → Prop
  | present {front back : List Attribute} {code : Code}
      (held : attributes.entries = front ++ .code code :: back) :
      TakenWhole attributes (.present code none, ⟨front ++ back⟩)
  | absentWithDefault {value : ElementValue} (codeless : ∀ code, .code code ∉ attributes.entries)
      (valued : .annotationDefault value ∈ attributes.entries) :
      TakenWhole attributes (.absentWithDefault value, attributes)
  | absent (codeless : ∀ code, .code code ∉ attributes.entries)
      (valueless : ∀ value, .annotationDefault value ∉ attributes.entries) :
      TakenWhole attributes (.absent, attributes)

theorem takeFrom_of_code (distinct : attributes.names.Nodup) {front back : List Attribute}
    {code : Code} (held : attributes.entries = front ++ .code code :: back) :
    takeFrom attributes = (.present code none, ⟨front ++ back⟩) := by
  have inside : .code code ∈ attributes.entries := held ▸ List.mem_append_cons_self
  apply Prod.ext
  · exact fst_takeFrom_of_code ((Attributes.code?_eq_some_iff distinct).mpr inside)
  · exact (snd_takeFrom attributes).trans (Attributes.erase_of_held distinct held)

/-- The body of a method whose attributes hold no code that was read. -/
def withoutCode (attributes : Attributes) : MethodBody :=
  attributes.annotationDefault?.elim .absent .absentWithDefault

theorem takeFrom_of_codeless (codeless : attributes.code? = none) :
    takeFrom attributes =
      (withoutCode attributes, attributes.erase AttributeKind.code.name) := by
  dsimp only [takeFrom]
  rw [codeless, Attributes.annotationDefault?_erase_code, withoutCode]
  cases attributes.annotationDefault? <;> rfl

/-- If nothing has the name of code, nothing is taken. -/
theorem takenWhole_of_codeless (distinct : attributes.names.Nodup)
    (codeless : ∀ code, .code code ∉ attributes.entries) :
    TakenWhole attributes (withoutCode attributes, attributes) := by
  unfold withoutCode
  cases valued : attributes.annotationDefault? with
  | some value =>
    exact .absentWithDefault codeless
      ((Attributes.annotationDefault?_eq_some_iff distinct).mp valued)
  | none =>
    refine .absent codeless fun value inside => ?_
    rw [(Attributes.annotationDefault?_eq_some_iff distinct).mpr inside] at valued
    cases valued

theorem TakenWhole.names_eq {taken : MethodBody × Attributes} (whole : TakenWhole attributes taken)
    (codeless : ∀ code, .code code ∉ attributes.entries) :
    taken.2.names = attributes.names := by
  cases whole with
  | present held => exact absurd (held ▸ List.mem_append_cons_self) (codeless _)
  | absentWithDefault => rfl
  | absent => rfl

/-- No attribute is lost when the body is taken, exactly if no attribute with the name of code
is kept as a block of bytes. Such a block is lost, although there is no code in the body. -/
theorem takenWhole_takeFrom_iff (distinct : attributes.names.Nodup) :
    (TakenWhole attributes (takeFrom attributes) ↔
      ∀ body, .unknown AttributeKind.code.name body ∉ attributes.entries) ∧
    ∀ front body back, attributes.entries = front ++ .unknown AttributeKind.code.name body :: back →
      takeFrom attributes = (withoutCode attributes, ⟨front ++ back⟩) := by
  cases read : attributes.code? with
  | some code =>
    have inside := (Attributes.code?_eq_some_iff distinct).mp read
    have readable : ∀ body, .unknown AttributeKind.code.name body ∉ attributes.entries := by
      intro body kept
      cases List.inj_on_of_nodup_map distinct inside kept rfl
    obtain ⟨front, back, held⟩ := List.append_of_mem inside
    refine ⟨iff_of_true ?_ readable, fun front body back kept => ?_⟩
    · rw [takeFrom_of_code distinct held]
      exact .present held
    · exact absurd (kept ▸ List.mem_append_cons_self) (readable body)
  | none =>
    have codeless : ∀ code, .code code ∉ attributes.entries := by
      intro code inside
      rw [(Attributes.code?_eq_some_iff distinct).mpr inside] at read
      cases read
    rw [takeFrom_of_codeless read]
    refine ⟨⟨fun whole body kept => ?_, fun readable => ?_⟩, fun front body back kept => ?_⟩
    · have named := (Attributes.code_mem_names_iff codeless).mpr ⟨body, kept⟩
      rw [← whole.names_eq codeless] at named
      obtain ⟨entry, inside, same⟩ := List.mem_map.mp named
      exact (Attributes.name_ne_of_mem_erase inside).2 same
    · have absent : AttributeKind.code.name ∉ attributes.names := by
        rw [Attributes.code_mem_names_iff codeless]
        exact fun ⟨body, kept⟩ => readable body kept
      rw [Attributes.erase_of_notMem absent]
      exact takenWhole_of_codeless distinct codeless
    · exact congrArg (Prod.mk _) (Attributes.erase_of_held distinct kept)

theorem takenWhole_takeFrom_iff_return :
    TakenWhole ⟨[.deprecated, .code Method.returnCode, .signature "()V"]⟩
      (takeFrom ⟨[.deprecated, .code Method.returnCode, .signature "()V"]⟩) ∧
    takeFrom ⟨[.deprecated, .unknown "Code" [0], .synthetic]⟩ =
      (.absent, ⟨[.deprecated, .synthetic]⟩) := by
  constructor
  · exact (takenWhole_takeFrom_iff (by decide)).1.mpr (by simp)
  · exact (takenWhole_takeFrom_iff (by decide)).2 [.deprecated] [0] [.synthetic] rfl

/-- The record of a method with an attribute for code that is too short to be code. -/
def unreadRecord : Record := ⟨1, 1, 2, ⟨[.unknown "Code" [0]]⟩, 15⟩

/-- The block of bytes that this attribute is kept as is lost when the method is made. -/
theorem not_takenWhole_unread :
    Record.ofBytes decodeAttribute ⟨[.utf8 "run", .utf8 "()V", .utf8 "Code"]⟩ ⟨52, 0⟩
      [0, 1, 0, 1, 0, 2, 0, 1, 0, 3, 0, 0, 0, 1, 0] = .ok unreadRecord ∧
    ¬ TakenWhole unreadRecord.attributes (takeFrom unreadRecord.attributes) ∧
    ∃ method, Method.ofRecord unreadRecord ⟨[.utf8 "run", .utf8 "()V", .utf8 "Code"]⟩
        ⟨⟨"p/A"⟩, .ofBits 1, false⟩ {} = .ok method ∧
      method.body = .absent ∧ method.attributes.entries = [] := by
  refine ⟨by cbv, fun whole => ?_, _, rfl, rfl, rfl⟩
  have same := whole.names_eq (by simp [unreadRecord])
  cases same

end MethodBody

end ClassMembers
