/-
This file holds a cursor: a buffer together with what remains of it. A reader
acts on what remains; the position of the cursor is what the buffer has more
than that. The cursor moves after a fault as well as after a success, because a
reader tells what remains in both cases.
-/

import ClassMembers.Reader.Basic

namespace ClassMembers

/-- A buffer and the bytes of it that are not consumed yet. -/
structure Cursor where
  buffer : List UInt8
  rest : List UInt8

namespace Cursor

/-- A cursor at the beginning of a buffer. -/
def ofBuffer (buffer : List UInt8) : Cursor := ⟨buffer, buffer⟩

/-- The number of bytes before the cursor. -/
def position (cursor : Cursor) : Nat := cursor.buffer.length - cursor.rest.length

/-- Runs a reader at the cursor. -/
def run {α : Type} (cursor : Cursor) (reader : Reader α) : Except ClassError α × Cursor :=
  match reader cursor.rest with
  | .ok value rest => (.ok value, { cursor with rest })
  | .error fault rest => (.error fault, { cursor with rest })

end Cursor

end ClassMembers
