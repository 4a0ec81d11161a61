/-
This file reads the constant pool of a class file. The pool declares the number
of its places plus one. A wide constant takes two places, and the second holds
an entry that cannot be used, unless the wide constant stands in the last place
that was declared: the pool never has more places than it declares.
-/

import ClassMembers.Pool.Basic
import ClassMembers.Reader.Basic
import ClassMembers.Text.Utf8

namespace ClassMembers

open Reader

/-- A text: its length in bytes and the bytes. -/
def readUtf8 : Reader String := do
  let length ← u16
  return Text.decodeUtf8 (← bytes length.toNat)

/-- What follows the tag of a constant. -/
def PoolEntry.readBody (tag : UInt8) : Reader PoolEntry := do
  match tag.toNat with
  | 1 => return .utf8 (← readUtf8)
  | 3 => return .int (← i32)
  | 4 => return .float (← u32)
  | 5 => return .long (← i64)
  | 6 => return .double (← u64)
  | 7 => return .className (← u16)
  | 8 => return .string (← u16)
  | 9 => return .fieldRef (← u16) (← u16)
  | 10 => return .methodRef (← u16) (← u16)
  | 11 => return .interfaceMethodRef (← u16) (← u16)
  | 12 => return .nameAndType (← u16) (← u16)
  | 15 => return .methodHandle (← u8) (← u16)
  | 16 => return .methodType (← u16)
  | 17 => return .dynamic (← u16) (← u16)
  | 18 => return .invokeDynamic (← u16) (← u16)
  | 19 => return .moduleName (← u16)
  | 20 => return .packageName (← u16)
  | _ => throw (.unknownConstantTag tag)

/-- A constant: its tag and what follows. -/
def PoolEntry.read : Reader PoolEntry := do
  PoolEntry.readBody (← u8)

/-- The entries of the given number of places. -/
def PoolEntry.readPlaces : Nat → Reader (List PoolEntry)
  | 0 => return []
  | 1 => return [← PoolEntry.read]
  | places + 2 => do
    let entry ← PoolEntry.read
    if entry.isWide then
      return entry :: .unusable :: (← readPlaces places)
    else
      return entry :: (← readPlaces (places + 1))

/-- The constant pool, whose declared count is one more than its places. -/
def Pool.read : Reader Pool := do
  let count ← u16
  return ⟨← PoolEntry.readPlaces (count.toNat - 1)⟩

end ClassMembers
