/-
This file holds how a computation goes on behind another one. Readers of bytes and
scanners of characters are both computations on what is not consumed yet, and one
that consists of two has succeeded exactly if the first has, and the second on
what the first has left. The same holds of computations that consume nothing and only
answer or fail, and of those that emit something on their way.
-/

import ClassMembers.Emission

namespace ClassMembers.Sequencing

variable {ε ε' σ α β : Type}

theorem bind_of_ok {reader : EStateM ε σ α} {next : α → EStateM ε σ β} {raw rest : σ} {value : α}
    (done : reader raw = .ok value rest) : (reader >>= next) raw = next value rest := by
  show EStateM.bind reader next raw = next value rest
  rw [EStateM.bind, done]

theorem bind_of_error {reader : EStateM ε σ α} {next : α → EStateM ε σ β} {raw rest : σ}
    {fault : ε} (failed : reader raw = .error fault rest) :
    (reader >>= next) raw = .error fault rest := by
  show EStateM.bind reader next raw = .error fault rest
  rw [EStateM.bind, failed]

/-- A reader behind another has succeeded only if both have. -/
theorem bind_eq_ok {reader : EStateM ε σ α} {next : α → EStateM ε σ β} {raw rest : σ} {value : β} :
    (reader >>= next) raw = .ok value rest ↔
      ∃ first middle, reader raw = .ok first middle ∧ next first middle = .ok value rest := by
  cases result : reader raw with
  | ok first middle =>
    rw [bind_of_ok result]
    constructor
    · exact fun done => ⟨first, middle, rfl, done⟩
    · rintro ⟨_, _, same, done⟩
      cases same
      exact done
  | error fault middle => simp [bind_of_error result]

theorem map_eq_ok {reader : EStateM ε σ α} {view : α → β} {raw rest : σ} {value : β} :
    (view <$> reader) raw = .ok value rest ↔
      ∃ first, reader raw = .ok first rest ∧ view first = value := by
  show EStateM.map view reader raw = .ok value rest ↔ _
  rw [EStateM.map]
  cases reader raw with
  | ok first middle =>
    constructor
    · intro done
      cases done
      exact ⟨first, rfl, rfl⟩
    · rintro ⟨_, same, rfl⟩
      cases same
      rfl
  | error fault middle => simp

/-- Readers that agree on what there is, and go on alike, agree. -/
theorem bind_congr {first second : EStateM ε σ α} {next other : α → EStateM ε σ β} {raw : σ}
    (same : first raw = second raw)
    (behind : ∀ value rest, first raw = .ok value rest → next value rest = other value rest) :
    (first >>= next) raw = (second >>= other) raw := by
  cases result : first raw with
  | ok value rest =>
    rw [bind_of_ok result, bind_of_ok (same.symm.trans result), behind value rest result]
  | error fault rest => rw [bind_of_error result, bind_of_error (same.symm.trans result)]

/-! ### Computations that consume nothing -/

theorem except_bind_eq_ok {first : Except ε α} {next : α → Except ε β} {value : β} :
    (first >>= next) = .ok value ↔ ∃ middle, first = .ok middle ∧ next middle = .ok value := by
  cases first with
  | ok middle =>
    constructor
    · exact fun done => ⟨middle, rfl, done⟩
    · rintro ⟨_, same, done⟩
      cases same
      exact done
  | error fault =>
    constructor
    · intro done
      cases done
    · rintro ⟨_, same, -⟩
      cases same

theorem except_bind_eq_error {first : Except ε α} {next : α → Except ε β} {fault : ε} :
    (first >>= next) = .error fault ↔
      first = .error fault ∨ ∃ middle, first = .ok middle ∧ next middle = .error fault := by
  cases first with
  | ok middle =>
    constructor
    · exact fun failed => .inr ⟨middle, rfl, failed⟩
    · rintro (same | ⟨_, same, failed⟩)
      · cases same
      · cases same
        exact failed
  | error first =>
    constructor
    · exact fun failed => .inl (congrArg Except.error (Except.error.inj failed))
    · rintro (same | ⟨_, same, -⟩)
      · cases same
        rfl
      · cases same

/-- Only failures are changed. -/
theorem mapError_eq_ok {change : ε → ε'} {first : Except ε α} {value : α} :
    first.mapError change = .ok value ↔ first = .ok value := by
  cases first with
  | ok middle => exact ⟨fun done => congrArg Except.ok (Except.ok.inj done), fun done => by
      cases done
      rfl⟩
  | error fault => exact ⟨nofun, nofun⟩

theorem mapError_eq_error {change : ε → ε'} {first : Except ε α} {fault : ε'} :
    first.mapError change = .error fault ↔
      ∃ source, first = .error source ∧ change source = fault := by
  cases first with
  | ok middle => exact ⟨nofun, fun ⟨_, failed, _⟩ => nomatch failed⟩
  | error source =>
    constructor
    · exact fun failed => ⟨source, rfl, Except.error.inj failed⟩
    · rintro ⟨_, same, rfl⟩
      cases same
      rfl

/-- Only answers are changed. -/
theorem except_map_eq_error {view : α → β} {first : Except ε α} {fault : ε} :
    first.map view = .error fault ↔ first = .error fault := by
  cases first with
  | ok middle => exact iff_of_false nofun nofun
  | error other =>
    exact ⟨fun same => congrArg Except.error (Except.error.inj same),
      fun same => congrArg Except.error (Except.error.inj same)⟩

end ClassMembers.Sequencing

/-! ### Computations that emit -/

namespace ClassMembers.Emission

variable {ω ε α β : Type}

theorem result_bind_eq_ok {first : Emission ω ε α} {next : α → Emission ω ε β} {answer : β} :
    (first >>= next).result = .ok answer ↔
      ∃ middle, first.result = .ok middle ∧ (next middle).result = .ok answer := by
  cases done : first.result with
  | ok middle =>
    rw [bind_of_ok done]
    constructor
    · exact fun later => ⟨middle, rfl, later⟩
    · rintro ⟨_, same, later⟩
      cases same
      exact later
  | error fault =>
    rw [bind_of_error done]
    constructor
    · intro later
      cases later
    · rintro ⟨_, same, -⟩
      cases same

theorem succeeds_iff {emission : Emission ω ε Unit} :
    emission.succeeds = true ↔ emission.result = .ok () := by
  unfold succeeds
  split <;> rename_i found <;> simp [found]

theorem forEach_succeed_iff {step : α → Emission ω ε Unit} {items : List α} :
    (forEach items step).result = .ok () ↔ ∀ item ∈ items, (step item).result = .ok () := by
  induction items with
  | nil => simp [forEach]
  | cons item rest hypothesis =>
    rw [forEach, result_bind_eq_ok, List.forall_mem_cons, ← hypothesis]
    constructor
    · rintro ⟨_, first, others⟩
      exact ⟨first, others⟩
    · exact fun both => ⟨(), both.1, both.2⟩

theorem emitted_forEach_of_ok {step : α → Emission ω ε Unit} {items : List α}
    (done : (forEach items step).result = .ok ()) :
    (forEach items step).emitted = items.flatMap fun item => (step item).emitted := by
  induction items with
  | nil => rfl
  | cons item rest hypothesis =>
    obtain ⟨_, first, others⟩ := result_bind_eq_ok.mp done
    rw [forEach, bind_of_ok first, hypothesis others, List.flatMap_cons]

end ClassMembers.Emission
