/-
This file holds computations that emit items in order and then answer or fail.
What was emitted before a failure stays emitted. Rendering is such a
computation, which emits calls on the output; so is the collection of usages,
which emits types.
-/

namespace ClassMembers

/-- The items emitted, and the answer or the failure. -/
structure Emission (ω ε α : Type) where
  emitted : List ω
  result : Except ε α

namespace Emission

variable {ω ω' ε α β : Type}

/-- Emits one item. -/
def emit (item : ω) : Emission ω ε Unit := ⟨[item], .ok ()⟩

/-- Emits items in order. -/
def emitAll (items : List ω) : Emission ω ε Unit := ⟨items, .ok ()⟩

/-- An answer found without emitting. -/
def ofExcept (answer : Except ε α) : Emission ω ε α := ⟨[], answer⟩

/-- Emits the items of one computation and then, if that answers, of another
that depends on the answer. -/
def andThen (first : Emission ω ε α) (next : α → Emission ω ε β) : Emission ω ε β :=
  match first.result with
  | .error error => ⟨first.emitted, .error error⟩
  | .ok answer => ⟨first.emitted ++ (next answer).emitted, (next answer).result⟩

instance : Monad (Emission ω ε) where
  pure answer := ⟨[], .ok answer⟩
  bind := andThen

/-- Runs a computation for each element, in order. -/
def forEach (list : List α) (step : α → Emission ω ε Unit) : Emission ω ε Unit :=
  match list with
  | [] => pure ()
  | first :: rest => do
    step first
    forEach rest step

/-- Changes the failure. -/
def mapError (change : ε → ε) (emission : Emission ω ε α) : Emission ω ε α :=
  { emission with result := emission.result.mapError change }

/-- Changes each item. -/
def mapEmitted (change : ω → ω') (emission : Emission ω ε α) : Emission ω' ε α :=
  { emitted := emission.emitted.map change, result := emission.result }

/-- Whether a computation answers. -/
def succeeds (emission : Emission ω ε α) : Bool :=
  match emission.result with
  | .ok _ => true
  | .error _ => false

/-! ### What a computation emits and answers -/

@[simp] theorem emitted_pure (answer : α) :
    (pure answer : Emission ω ε α).emitted = [] := rfl

@[simp] theorem result_pure (answer : α) :
    (pure answer : Emission ω ε α).result = .ok answer := rfl

@[simp] theorem emitted_emit (item : ω) : (emit item : Emission ω ε Unit).emitted = [item] := rfl

@[simp] theorem result_emit (item : ω) : (emit item : Emission ω ε Unit).result = .ok () := rfl

theorem bind_of_ok {first : Emission ω ε α} {answer : α} (answers : first.result = .ok answer)
    (next : α → Emission ω ε β) :
    (first >>= next) =
      ⟨first.emitted ++ (next answer).emitted, (next answer).result⟩ := by
  show andThen first next = _
  simp [andThen, answers]

theorem bind_of_error {first : Emission ω ε α} {error : ε} (fails : first.result = .error error)
    (next : α → Emission ω ε β) : (first >>= next) = ⟨first.emitted, .error error⟩ := by
  show andThen first next = _
  simp [andThen, fails]

@[simp] theorem emitted_mapError (change : ε → ε) (emission : Emission ω ε α) :
    (emission.mapError change).emitted = emission.emitted := rfl

@[simp] theorem result_mapError (change : ε → ε) (emission : Emission ω ε α) :
    (emission.mapError change).result = emission.result.mapError change := rfl

@[simp] theorem emitted_mapEmitted (change : ω → ω') (emission : Emission ω ε α) :
    (emission.mapEmitted change).emitted = emission.emitted.map change := rfl

@[simp] theorem result_mapEmitted (change : ω → ω') (emission : Emission ω ε α) :
    (emission.mapEmitted change).result = emission.result := rfl

end Emission

end ClassMembers
