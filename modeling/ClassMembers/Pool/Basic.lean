/-
This file holds the constant pool and the questions asked of it. The entries are
numbered from one: index zero is never valid. A question goes through one or two
references and fails at the first that leads nowhere or to an entry of the wrong
kind.
-/

import ClassMembers.ClassError

namespace ClassMembers

/-- A constant pool, by its entries in the order of their indexes from one on. -/
structure Pool where
  entries : List PoolEntry
  deriving DecidableEq

/-- A constant as a value: what an entry that can be loaded stands for. Class
constants hold an internal name, or a descriptor for the class of an array. -/
inductive Constant where
  | int (value : Int32)
  | long (value : Int64)
  | float (bits : UInt32)
  | double (bits : UInt64)
  | string (text : String)
  | ofClass (name : String)
  | methodType (descriptor : String)
  deriving DecidableEq

namespace Pool

/-- The number of places, the unused one of index zero not counted. -/
def size (pool : Pool) : Nat := pool.entries.length

/-- The entry of an index. -/
def get (pool : Pool) (index : UInt16) : Except ClassError PoolEntry :=
  match index.toNat with
  | 0 => .error (.indexOutOfRange index pool.size)
  | place + 1 =>
    match pool.entries[place]? with
    | some entry => .ok entry
    | none => .error (.indexOutOfRange index pool.size)

/-- The text that an index leads to. -/
def utf8 (pool : Pool) (index : UInt16) : Except ClassError String := do
  match ← pool.get index with
  | .utf8 text => .ok text
  | entry => .error (.unexpectedEntry .utf8 entry)

/-- The internal name of the class that an index leads to. -/
def className (pool : Pool) (index : UInt16) : Except ClassError String := do
  match ← pool.get index with
  | .className nameIndex => pool.utf8 nameIndex
  | entry => .error (.unexpectedEntry .className entry)

/-- The value of the constant that an index leads to. -/
def constant (pool : Pool) (index : UInt16) : Except ClassError Constant := do
  match ← pool.get index with
  | .int value => .ok (.int value)
  | .long value => .ok (.long value)
  | .float bits => .ok (.float bits)
  | .double bits => .ok (.double bits)
  | .string textIndex => .string <$> pool.utf8 textIndex
  | .className nameIndex => .ofClass <$> pool.utf8 nameIndex
  | .methodType descriptorIndex => .methodType <$> pool.utf8 descriptorIndex
  | entry => .error (.unexpectedEntry .loadable entry)

/-! ### What a question can fail with -/

/-- Only a fault of the pool can come of looking an index up. -/
theorem get_error {pool : Pool} {index : UInt16} {fault : ClassError}
    (failed : pool.get index = .error fault) : fault.isPoolError = true := by
  unfold get at failed
  split at failed
  · cases failed; rfl
  · split at failed
    · cases failed
    · cases failed; rfl

/-- Only a fault of the pool can come of asking for a text. -/
theorem utf8_error {pool : Pool} {index : UInt16} {fault : ClassError}
    (failed : pool.utf8 index = .error fault) : fault.isPoolError = true := by
  unfold utf8 at failed
  cases found : pool.get index with
  | error other =>
    rw [found] at failed
    cases failed
    exact get_error found
  | ok entry =>
    rw [found] at failed
    cases entry <;> cases failed <;> rfl

end Pool

end ClassMembers
