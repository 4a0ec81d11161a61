/-
This file holds the reader of class files. A reader consumes a list of bytes
from the front and yields a value or a fault, and what it has not consumed is
known after a fault as well as after a success. A number of fixed width that
does not fit into what remains consumes all of it; a block of bytes that reaches
past the end consumes nothing. All numbers are big-endian.
-/

import ClassMembers.ClassError

namespace ClassMembers

/-- A computation on the bytes that are not consumed yet. -/
abbrev Reader := EStateM ClassError (List UInt8)

namespace Reader

variable {α : Type}

/-! ### Blocks of bytes -/

/-- The next bytes, as many as asked for. Consumes everything if there are not
enough of them. -/
def exactly (count : Nat) : Reader (List UInt8) := fun rest =>
  if count ≤ rest.length then .ok (rest.take count) (rest.drop count)
  else .error .truncated []

/-- The next bytes, as many as asked for. Consumes nothing if there are not
enough of them. -/
def bytes (count : Nat) : Reader (List UInt8) := fun rest =>
  if count ≤ rest.length then .ok (rest.take count) (rest.drop count)
  else .error .pastEnd rest

/-- Passes over bytes that have been looked at already. -/
def skip (count : Nat) : Reader Unit := do
  let _ ← bytes count

/-- The bytes that are not consumed yet, which stay so. -/
def remaining : Reader (List UInt8) := get

/-! ### Numbers -/

/-- The number that bytes spell, the most significant one first. -/
def bigEndian (digits : List UInt8) : Nat :=
  digits.foldl (fun value digit => value * 256 + digit.toNat) 0

/-- A number of the given count of bytes. -/
def natural (width : Nat) : Reader Nat := do
  return bigEndian (← exactly width)

/-- An unsigned number of one byte. -/
def u8 : Reader UInt8 := do
  return UInt8.ofNat (← natural 1)

/-- An unsigned number of two bytes. -/
def u16 : Reader UInt16 := do
  return UInt16.ofNat (← natural 2)

/-- An unsigned number of four bytes. -/
def u32 : Reader UInt32 := do
  return UInt32.ofNat (← natural 4)

/-- An unsigned number of eight bytes. -/
def u64 : Reader UInt64 := do
  return UInt64.ofNat (← natural 8)

/-- A signed number of four bytes. -/
def i32 : Reader Int32 := do
  return (← u32).toInt32

/-- A signed number of eight bytes. -/
def i64 : Reader Int64 := do
  return (← u64).toInt64

/-! ### Tables -/

/-- Runs a reader the given number of times. -/
def times : Nat → Reader α → Reader (List α)
  | 0, _ => pure []
  | count + 1, item => do
    let first ← item
    let rest ← times count item
    return first :: rest

/-- A table: a count of two bytes and as many items. -/
def table (item : Reader α) : Reader (List α) := do
  let count ← u16
  times count.toNat item

/-- The numbers of two bytes that a block of bytes spells. -/
def pairs : List UInt8 → List UInt16
  | high :: low :: rest => UInt16.ofNat (bigEndian [high, low]) :: pairs rest
  | _ => []

/-- As many numbers of two bytes as asked for, read as one block. -/
def u16Block (count : Nat) : Reader (List UInt16) := do
  return pairs (← exactly (2 * count))

/-! ### What readers do with bytes that go on -/

/-- A block is read off the front of whatever follows it. -/
theorem exactly_append (block rest : List UInt8) :
    exactly block.length (block ++ rest) = .ok block rest := by
  simp [exactly]

theorem bytes_append (block rest : List UInt8) :
    bytes block.length (block ++ rest) = .ok block rest := by
  simp [bytes]

/-- Where too little is left, a number of fixed width consumes what there is. -/
theorem exactly_of_length_lt {count : Nat} {rest : List UInt8} (short : rest.length < count) :
    exactly count rest = .error .truncated [] := by
  simp [exactly, Nat.not_le.mpr short]

/-- Where too little is left, a block consumes nothing. -/
theorem bytes_of_length_lt {count : Nat} {rest : List UInt8} (short : rest.length < count) :
    bytes count rest = .error .pastEnd rest := by
  simp [bytes, Nat.not_le.mpr short]

/-! ### The value of digits -/

@[simp] theorem bigEndian_nil : bigEndian [] = 0 := rfl

end Reader

end ClassMembers
