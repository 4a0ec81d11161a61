/-
This file holds the quoted form in which a diagnostic shows a text or a single
character. The quotes of the form itself, the backslash and the common control
characters are escaped by a backslash; a character that the page cannot show
(see `Unicode.isPrintable`), or that would attach itself to its neighbour, is
written by its code point in lower-case hexadecimal between braces; everything
else stands as it is.
-/

import ClassMembers.Unicode.Printable

namespace ClassMembers.Text

/-- The code point of a character in lower-case hexadecimal, without padding. -/
def hexCode (c : Char) : String :=
  String.ofList (Nat.toDigits 16 c.toNat)

/-- One character inside the given quotes. -/
def quotedChar (quote c : Char) : String :=
  if c = Char.ofNat 0 then "\\0"
  else if c = '\t' then "\\t"
  else if c = '\r' then "\\r"
  else if c = '\n' then "\\n"
  else if c = '\\' then "\\\\"
  else if c = quote then "\\" ++ c.toString
  else if Unicode.isExtendingMark c || !Unicode.isPrintable c then
    "\\u\x7b" ++ hexCode c ++ "\x7d"
  else c.toString

/-- A text between double quotes. -/
def quoteText (text : String) : String :=
  "\"" ++ String.join (text.toList.map (quotedChar '\"')) ++ "\""

/-- A character between single quotes. -/
def quoteChar (c : Char) : String :=
  "'" ++ quotedChar '\'' c ++ "'"

end ClassMembers.Text
