/-
This file holds how string and character literals are read. Source code is read in two steps.
First every unicode escape becomes the unit of its number, wherever it stands: it begins with a
backslash that an even number of backslashes precedes, and has one `u` or more and four
hexadecimal digits. Only then the units between the quotes are read, where a backslash and a
letter stand for one unit. Both steps go from left to right, so a piece of source code that
holds whole escapes only is read by itself, whatever stands behind it.
-/

import ClassMembers.Proofs.Text.Utf16

namespace ClassMembers

open Text

/-! ### Unicode escapes -/

namespace Source

/-- The value of a hexadecimal digit. -/
def hexValue? (c : Char) : Option Nat :=
  if '0' ≤ c ∧ c ≤ '9' then some (c.toNat - '0'.toNat)
  else if 'a' ≤ c ∧ c ≤ 'f' then some (c.toNat - 'a'.toNat + 10)
  else if 'A' ≤ c ∧ c ≤ 'F' then some (c.toNat - 'A'.toNat + 10)
  else none

/-- The unit of a number of four hexadecimal digits. -/
def hexUnit? (first second third fourth : Char) : Option UInt16 := do
  let number := (← hexValue? first) * 0x1000 + (← hexValue? second) * 0x100 +
    (← hexValue? third) * 0x10 + (← hexValue? fourth)
  return UInt16.ofNat number

mutual

/-- The units of source code, in which unicode escapes stand for the units of their numbers.
The first argument tells whether an even number of backslashes precede. -/
def units (even : Bool) : List Char → Option (List UInt16)
  | [] => some []
  | c :: rest =>
    if c = '\\' then
      if even && rest.head? = some 'u' then unitsBehindBackslash rest
      else (units (!even) rest).map (unit c :: ·)
    else (units true rest).map (unitsOf c ++ ·)

/-- The units of source code from the `u` of a unicode escape on. -/
def unitsBehindBackslash : List Char → Option (List UInt16)
  | [] => none
  | first :: rest =>
    if first = 'u' then unitsBehindBackslash rest
    else match rest with
      | second :: third :: fourth :: rest =>
        (hexUnit? first second third fourth).bind fun number =>
          (units true rest).map (number :: ·)
      | _ => none

end

/-! ### Quoted literals -/

/-- The letters of the other escapes, with what they stand for. -/
def escapes : List (Char × Char) :=
  [('b', '\x08'), ('t', '\t'), ('n', '\n'), ('f', '\x0c'), ('r', '\r'), ('\"', '\"'),
    ('\'', '\''), ('\\', '\\')]

/-- The unit that the unit behind a backslash stands for. -/
def escaped? (letter : UInt16) : Option UInt16 :=
  (escapes.find? fun row => unit row.1 = letter).map fun row => unit row.2

/-- The units up to the closing quote, which has to be the last unit. Line breaks cannot stand
inside of a literal. -/
def unquote (quote : Char) : List UInt16 → Option (List UInt16)
  | [] => none
  | first :: rest =>
    if first = unit quote then if rest.isEmpty then some [] else none
    else if first = unit '\n' ∨ first = unit '\r' then none
    else if first = unit '\\' then
      match rest with
      | [] => none
      | letter :: rest => (escaped? letter).bind fun value =>
          (unquote quote rest).map (value :: ·)
    else (unquote quote rest).map (first :: ·)

/-- The units that a literal with the given quotes stands for. -/
def readQuoted (quote : Char) (source : String) : Option (List UInt16) :=
  match units true source.toList with
  | some (first :: rest) => if first = unit quote then unquote quote rest else none
  | _ => none

/-- The text that a string literal stands for. -/
def readString (source : String) : Option String :=
  (readQuoted '\"' source).bind fun units => (decodeUnits none units).map String.ofList

/-- The unit that a character literal stands for. -/
def readChar (source : String) : Option UInt16 :=
  match readQuoted '\'' source with
  | some [unit] => some unit
  | _ => none

/-! ### Source code without escapes -/

theorem units_of_ne {c : Char} (other : c ≠ '\\') (even : Bool) (rest : List Char) :
    units even (c :: rest) = (units true rest).map (unitsOf c ++ ·) := by
  rw [units, if_neg other]

/-- A backslash with another letter than that of a unicode escape behind it stands as it is. -/
theorem units_backslash {letter : Char} (other : letter ≠ 'u') (rest : List Char) :
    units true ('\\' :: letter :: rest) =
      (units true rest).map (unit '\\' :: unitsOf letter ++ ·) := by
  have noEscape : (true && (letter :: rest).head? = some 'u') ≠ true := by simpa using other
  rw [units, if_pos rfl, if_neg noEscape]
  by_cases again : letter = '\\'
  · subst again
    rw [units, if_pos rfl, if_neg (by simp), Option.map_map]
    rfl
  · rw [units_of_ne again, Option.map_map]
    rfl

theorem units_number {first second third fourth : Char} {number : UInt16} (other : first ≠ 'u')
    (digits : hexUnit? first second third fourth = some number) (rest : List Char) :
    units true ('\\' :: 'u' :: first :: second :: third :: fourth :: rest) =
      (units true rest).map (number :: ·) := by
  rw [units, if_pos rfl, if_pos (by rw [List.head?_cons]; decide), unitsBehindBackslash,
    if_pos rfl, unitsBehindBackslash, if_neg other]
  simp only [digits, Option.bind_some]

/-! ### Units between quotes -/

/-- Whether a character is a quote of literals. -/
def IsQuote (quote : Char) : Prop := quote = '\"' ∨ quote = '\''

section Quote

variable {quote : Char}

theorem IsQuote.lt (isQuote : IsQuote quote) : quote.toNat < 0x80 := by
  rcases isQuote with rfl | rfl <;> decide

theorem IsQuote.ne_backslash (isQuote : IsQuote quote) : quote ≠ '\\' := by
  rcases isQuote with rfl | rfl <;> decide

theorem unit_ne_of_ne {c mark : Char} (small : mark.toNat < 0x80) (other : c ≠ mark) :
    ∀ first ∈ unitsOf c, first ≠ unit mark :=
  fun _ inside same => other (eq_of_mem_unitsOf (by omega) (same ▸ inside))

/-- A unit that stands for itself between the given quotes. -/
structure IsPlain (quote : Char) (first : UInt16) : Prop where
  noQuote : first ≠ unit quote
  noLine : first ≠ unit '\n'
  noReturn : first ≠ unit '\r'
  noBackslash : first ≠ unit '\\'

theorem isPlain_of_mem {c : Char} (isQuote : IsQuote quote) (noQuote : c ≠ quote)
    (noLine : c ≠ '\n') (noReturn : c ≠ '\r') (noBackslash : c ≠ '\\') :
    ∀ first ∈ unitsOf c, IsPlain quote first := fun first inside =>
  { noQuote := unit_ne_of_ne isQuote.lt noQuote first inside
    noLine := unit_ne_of_ne (by decide) noLine first inside
    noReturn := unit_ne_of_ne (by decide) noReturn first inside
    noBackslash := unit_ne_of_ne (by decide) noBackslash first inside }

/-- Units beyond ASCII stand for themselves between all quotes. -/
theorem isPlain_of_le (isQuote : IsQuote quote) {first : UInt16} (above : 0x80 ≤ first.toNat) :
    IsPlain quote first := by
  have apart {mark : Char} (small : mark.toNat < 0x80) : first ≠ unit mark := by
    intro same
    rw [same, unit, toNat_unit_of_lt (by omega)] at above
    omega
  exact ⟨apart isQuote.lt, apart (by decide), apart (by decide), apart (by decide)⟩

theorem unquote_cons (first : UInt16) (rest : List UInt16) :
    unquote quote (first :: rest) =
      if first = unit quote then if rest.isEmpty then some [] else none
      else if first = unit '\n' ∨ first = unit '\r' then none
      else if first = unit '\\' then
        match rest with
        | [] => none
        | letter :: rest => (escaped? letter).bind fun value =>
            (unquote quote rest).map (value :: ·)
      else (unquote quote rest).map (first :: ·) :=
  unquote.eq_def quote (first :: rest)

theorem unquote_plain {first : UInt16} (plain : IsPlain quote first) (rest : List UInt16) :
    unquote quote (first :: rest) = (unquote quote rest).map (first :: ·) := by
  rw [unquote_cons, if_neg plain.noQuote, if_neg (not_or_intro plain.noLine plain.noReturn),
    if_neg plain.noBackslash]

theorem unquote_plain_append {front : List UInt16} (plain : ∀ first ∈ front, IsPlain quote first)
    (rest : List UInt16) :
    unquote quote (front ++ rest) = (unquote quote rest).map (front ++ ·) := by
  induction front with
  | nil => exact (congrFun Option.map_id _).symm
  | cons first others hypothesis =>
    obtain ⟨here, behind⟩ := List.forall_mem_cons.mp plain
    rw [List.cons_append, unquote_plain here, hypothesis behind, Option.map_map]
    rfl

/-! ### Pieces of literals -/

/-- Source code that is read by itself, and stands for the given units between the quotes. -/
def Spells (quote : Char) (source : List Char) (answer : List UInt16) : Prop :=
  ∃ raw, (∀ rest, units true (source ++ rest) = (units true rest).map (raw ++ ·)) ∧
    ∀ rest, unquote quote (raw ++ rest) = (unquote quote rest).map (answer ++ ·)

namespace Spells

theorem nil : Spells quote [] [] :=
  ⟨[], fun _ => (congrFun Option.map_id _).symm, fun _ => (congrFun Option.map_id _).symm⟩

theorem append {first second : List Char} {answer others : List UInt16}
    (here : Spells quote first answer) (behind : Spells quote second others) :
    Spells quote (first ++ second) (answer ++ others) := by
  obtain ⟨raw, translates, reads⟩ := here
  obtain ⟨raw', translates', reads'⟩ := behind
  refine ⟨raw ++ raw', fun rest => ?_, fun rest => ?_⟩
  · rw [List.append_assoc, translates, translates', Option.map_map]
    exact congrArg (Option.map · _) (funext fun tail => (List.append_assoc _ _ _).symm)
  · rw [List.append_assoc, reads, reads', Option.map_map]
    exact congrArg (Option.map · _) (funext fun tail => (List.append_assoc _ _ _).symm)

theorem flatMap {write : Char → List Char} (each : ∀ c, Spells quote (write c) (unitsOf c))
    (chars : List Char) : Spells quote (chars.flatMap write) (chars.flatMap unitsOf) := by
  induction chars with
  | nil => exact nil
  | cons c rest hypothesis => exact (each c).append hypothesis

theorem itself {c : Char} (other : c ≠ '\\') (plain : ∀ first ∈ unitsOf c, IsPlain quote first) :
    Spells quote [c] (unitsOf c) :=
  ⟨unitsOf c, units_of_ne other true, unquote_plain_append plain⟩

theorem number {first second third fourth : Char} {number : UInt16} (other : first ≠ 'u')
    (digits : hexUnit? first second third fourth = some number) (plain : IsPlain quote number) :
    Spells quote ['\\', 'u', first, second, third, fourth] [number] :=
  ⟨[number], units_number other digits, unquote_plain plain⟩

/-- A letter behind a backslash stands for the unit that it is listed with. -/
theorem letter {letter : Char} {value : UInt16} (isQuote : IsQuote quote)
    (listed : escaped? (unit letter) = some value) (other : letter ≠ 'u')
    (narrow : unitsOf letter = [unit letter]) : Spells quote ['\\', letter] [value] := by
  have noQuote : unit '\\' ≠ unit quote :=
    unit_ne_of_ne isQuote.lt isQuote.ne_backslash.symm _ List.mem_cons_self
  refine ⟨[unit '\\', unit letter], fun rest => ?_, fun rest => ?_⟩
  · rw [← narrow]
    exact units_backslash other rest
  · rw [List.cons_append, unquote_cons, if_neg noQuote, if_neg (by decide), if_pos rfl]
    simp only [List.cons_append, listed, Option.bind_some, List.nil_append]

/-- Between quotes such source code is a literal. -/
theorem readQuoted {source : List Char} {answer : List UInt16} (isQuote : IsQuote quote)
    (spells : Spells quote source answer) :
    readQuoted quote (String.ofList (quote :: (source ++ [quote]))) = some answer := by
  obtain ⟨raw, translates, reads⟩ := spells
  have narrow : unitsOf quote = [unit quote] := if_pos (by have := isQuote.lt; omega)
  have whole : units true (quote :: (source ++ [quote])) =
      some (unit quote :: (raw ++ [unit quote])) := by
    rw [units_of_ne isQuote.ne_backslash, translates, units_of_ne isQuote.ne_backslash, narrow]
    rfl
  have inside : unquote quote (raw ++ [unit quote]) = some answer := by
    rw [reads, unquote_cons, if_pos rfl, List.isEmpty_nil, if_pos rfl, Option.map_some,
      List.append_nil]
  rw [Source.readQuoted, String.toList_ofList, whole]
  show (if unit quote = unit quote then _ else _) = _
  rw [if_pos rfl, inside]

end Spells

end Quote

end Source

end ClassMembers
