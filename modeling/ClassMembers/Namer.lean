/-
This file names parameters. A name is asked for by the slot that holds the
parameter and by its position among the parameters. Where nothing better is
known the position makes the name; a table of local variables names a slot by
its last row that is live from the start of the code and whose name can stand in
source code.
-/

import ClassMembers.Attribute.Basic
import ClassMembers.Unicode.Letters

namespace ClassMembers

/-- Names the parameter of a slot and a position. -/
abbrev Namer := (slot position : Nat) → String

/-- A character that an identifier may begin with. -/
def startsIdentifier (c : Char) : Bool :=
  Unicode.isAlphabetic c || c = '_' || c = '$'

/-- A character that an identifier may go on with. -/
def continuesIdentifier (c : Char) : Bool :=
  Unicode.isAlphanumeric c || c = '_' || c = '$'

/-- Whether a name can stand in source code. -/
def isIdentifier (name : String) : Bool :=
  match name.toList with
  | [] => false
  | first :: rest => startsIdentifier first && rest.all continuesIdentifier

/-- A row that names a parameter: it is live from the start and can be written. -/
def LocalVariable.namesParameter (row : LocalVariable) : Bool :=
  row.startPc = 0 && isIdentifier row.name

namespace Namer

/-- The names `arg0`, `arg1` and so on, by position. -/
def byPosition : Namer := fun _ position => "arg" ++ toString position

/-- The name of a slot in a table, if a row of it names a parameter. -/
def nameOfSlot? (rows : List LocalVariable) (slot : Nat) : Option String :=
  (rows.reverse.find? fun row => row.namesParameter && row.slot.toNat = slot).map
    LocalVariable.name

/-- The names in a table, and names by position for the other slots. -/
def ofTable (rows : List LocalVariable) : Namer := fun slot position =>
  (nameOfSlot? rows slot).getD (byPosition slot position)

/-- The names in a table if there is one, and names by position if not. -/
def ofTable? (rows : Option (List LocalVariable)) : Namer :=
  match rows with
  | some rows => ofTable rows
  | none => byPosition

end Namer

end ClassMembers
