/-
This file holds the form in which properties of characters are tabulated: a list
of closed ranges of code points. A property of the Unicode standard is data, so
each of the tables beside this file is one such list, taken from version 17.0 of
the standard, and this file says what it means for a code point to be in one. The
tables leave out ASCII, for which the predicates that use them have a rule of
their own; questions about ASCII text are then answered without looking into a
table.
-/

namespace ClassMembers.Unicode

/-- Closed ranges of code points, each given by its first and its last member. -/
abbrev CodeRanges := List (Nat × Nat)

/-- A code point is covered when one of the ranges holds it. -/
def CodeRanges.covers (ranges : CodeRanges) (code : Nat) : Bool :=
  ranges.any fun range => range.1 ≤ code && code ≤ range.2

end ClassMembers.Unicode
