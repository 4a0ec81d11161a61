/-
This file proves that string and character literals are read as what was written. Since a
backslash is always written as two, none of those in a text is taken for the beginning of an
escape, and every piece that is written of a character is read by itself. What stands between
the quotes shows neither control characters nor quotes that would end the literal.
-/

import ClassMembers.Literal
import ClassMembers.Proofs.Literal.Source
import Mathlib

namespace ClassMembers

open Text

/-! ### Numbers of four digits -/

/-- The lowest digits of a number, with zeros in front. -/
def padded (width n : Nat) : List Char :=
  List.replicate (width - (Nat.toDigits 16 n).length) '0' ++ Nat.toDigits 16 n

theorem padded_succ (width n : Nat) :
    padded (width + 2) n = padded (width + 1) (n / 16) ++ [Nat.digitChar (n % 16)] := by
  unfold padded
  rcases Nat.lt_or_ge n 16 with small | large
  · rw [Nat.toDigits_of_lt_base small, Nat.div_eq_of_lt small, Nat.mod_eq_of_lt small,
      Nat.toDigits_of_lt_base (by decide)]
    simp [List.replicate_succ']
  · rw [Nat.toDigits_of_base_le (by decide) large, ← List.append_assoc, List.length_append,
      List.length_singleton, Nat.succ_sub_succ]

theorem fourHexDigits_eq {n : Nat} (small : n < 0x10000) :
    fourHexDigits n = [Nat.digitChar (n / 16 / 16 / 16), Nat.digitChar (n / 16 / 16 % 16),
      Nat.digitChar (n / 16 % 16), Nat.digitChar (n % 16)] := by
  have first : padded 1 (n / 16 / 16 / 16) = [Nat.digitChar (n / 16 / 16 / 16)] := by
    rw [padded, Nat.toDigits_of_lt_base (by omega)]
    rfl
  show padded 4 n = _
  rw [padded_succ, padded_succ, padded_succ, first]
  rfl

namespace Source

theorem hexValue?_digitChar : ∀ digit < 16, hexValue? (Nat.digitChar digit) = some digit := by
  decide

theorem hexUnit?_digits {n : Nat} (small : n < 0x10000) :
    hexUnit? (Nat.digitChar (n / 16 / 16 / 16)) (Nat.digitChar (n / 16 / 16 % 16))
      (Nat.digitChar (n / 16 % 16)) (Nat.digitChar (n % 16)) = some (UInt16.ofNat n) := by
  have whole : n / 16 / 16 / 16 * 0x1000 + n / 16 / 16 % 16 * 0x100 + n / 16 % 16 * 0x10 +
      n % 16 = n := by omega
  simp only [hexUnit?, hexValue?_digitChar _ (show n / 16 / 16 / 16 < 16 by omega),
    hexValue?_digitChar _ (Nat.mod_lt _ (show 0 < 16 by decide)), Option.bind_eq_bind,
    Option.bind_some, whole]
  rfl

/-! ### Characters as they are written -/

variable {quote : Char}

theorem unitEscape_spells {n : Nat} (small : n < 0x10000)
    (plain : IsPlain quote (UInt16.ofNat n)) :
    Spells quote (unitEscape n) [UInt16.ofNat n] := by
  have other : ∀ digit < 16, Nat.digitChar digit ≠ 'u' := by decide
  rw [unitEscape, fourHexDigits_eq small]
  exact .number (other _ (by omega)) (hexUnit?_digits small) plain

theorem toNat_lt_of_isControl {c : Char} (control : Unicode.isControl c = true) :
    c.toNat < 0xA0 := by
  simp only [Unicode.isControl, Bool.or_eq_true, Bool.and_eq_true, decide_eq_true_iff] at control
  omega

/-- The ways in which a character is written between quotes. -/
inductive IsWritten (quote c : Char) : List Char → Prop where
  | listed {letter : Char} (row : (letter, c) ∈ escapes) : IsWritten quote c ['\\', letter]
  | number (control : Unicode.isControl c = true)
      (plain : ∀ first ∈ unitsOf c, IsPlain quote first) : IsWritten quote c (unitEscape c.toNat)
  | itself (noControl : Unicode.isControl c = false) (noQuote : c ≠ quote)
      (noBackslash : c ≠ '\\') (plain : ∀ first ∈ unitsOf c, IsPlain quote first) :
      IsWritten quote c [c]

theorem escapeChar_isWritten (isQuote : IsQuote quote) (c : Char) :
    IsWritten quote c (escapeChar quote c) := by
  unfold escapeChar
  -- The six escapes that do not depend on the quotes.
  iterate 6
    split
    · rename_i same
      rw [same]
      exact .listed (by decide)
  rename_i noBackslash noLine _ noReturn _ _
  split
  · rename_i same
    rw [same]
    have marks := isQuote
    rcases marks with rfl | rfl <;> exact .listed (by decide)
  rename_i noQuote
  have plain := isPlain_of_mem isQuote noQuote noLine noReturn noBackslash
  split
  · rename_i control
    exact .number control plain
  · rename_i noControl
    exact .itself (Bool.eq_false_iff.mpr noControl) noQuote noBackslash plain

/-- What a listed escape is read as. -/
theorem escaped?_of_mem : ∀ row ∈ escapes, escaped? (unit row.1) = some (unit row.2) ∧
    row.1 ≠ 'u' ∧ unitsOf row.1 = [unit row.1] ∧ unitsOf row.2 = [unit row.2] := by
  decide

/-- What is written of a character stands for it. -/
theorem IsWritten.spells (isQuote : IsQuote quote) {c : Char} {source : List Char}
    (written : IsWritten quote c source) : Spells quote source (unitsOf c) := by
  cases written with
  | listed row =>
    obtain ⟨listed, other, narrow, meant⟩ := escaped?_of_mem _ row
    rw [meant]
    exact .letter isQuote listed other narrow
  | number control plain =>
    have small := toNat_lt_of_isControl control
    have narrow : unitsOf c = [UInt16.ofNat c.toNat] := if_pos (by omega)
    rw [narrow] at plain ⊢
    exact unitEscape_spells (by omega) (List.forall_mem_singleton.mp plain)
  | itself _ _ noBackslash plain => exact .itself noBackslash plain

theorem escapeChar_spells (isQuote : IsQuote quote) (c : Char) :
    Spells quote (escapeChar quote c) (unitsOf c) :=
  (escapeChar_isWritten isQuote c).spells isQuote

/-- A string literal stands for its text. -/
theorem readString_stringLiteral (text : String) : readString (stringLiteral text) = some text := by
  have spelled := Spells.flatMap (escapeChar_spells (.inl rfl)) text.toList
  rw [readString, stringLiteral, spelled.readQuoted (.inl rfl), Option.bind_some,
    decodeUnits_flatMap, Option.map_some, String.ofList_toList]

theorem unitsOf_ofNat {number : UInt16} (valid : number.toNat.isValidChar) :
    unitsOf (Char.ofNat number.toNat) = [number] := by
  have same : (Char.ofNat number.toNat).toNat = number.toNat := by
    rw [Char.ofNat, dif_pos valid]
    rfl
  rw [unitsOf, same, if_pos number.toNat_lt, unit, same, UInt16.ofNat_toNat]

/-- A character literal stands for its unit, also if that is half of a pair. -/
theorem readChar_charLiteral (number : UInt16) : readChar (charLiteral number) = some number := by
  have spelled : Spells '\'' (if 0xD800 ≤ number.toNat ∧ number.toNat ≤ 0xDFFF
      then unitEscape number.toNat else escapeChar '\'' (Char.ofNat number.toNat)) [number] := by
    split
    · rename_i half
      have plain : IsPlain '\'' number := isPlain_of_le (.inr rfl) (by omega)
      rw [← number.ofNat_toNat] at plain
      have spelled := unitEscape_spells number.toNat_lt plain
      rwa [UInt16.ofNat_toNat] at spelled
    · rename_i whole
      have valid : number.toNat.isValidChar := by
        have small := number.toNat_lt
        unfold Nat.isValidChar
        omega
      rw [← unitsOf_ofNat valid]
      exact escapeChar_spells (.inr rfl) _
  rw [readChar, charLiteral, spelled.readQuoted (.inr rfl)]

/-! ### Between the quotes -/

/-- The number of backslashes at the end of source code. -/
def backslashesBehind (source : List Char) : Nat :=
  (source.reverse.takeWhile fun c => c = '\\').length

/-- Source code that can stand between double quotes: it holds no control character, and no
quote that is not escaped by the last of an odd number of backslashes. One behind it is not
escaped. -/
structure StandsInside (source : List Char) : Prop where
  noControl : ∀ c ∈ source, Unicode.isControl c = false
  escaped : ∀ front back, source = front ++ '\"' :: back → backslashesBehind front % 2 = 1
  closed : backslashesBehind source % 2 = 0

theorem backslashesBehind_append {front : List Char} (even : backslashesBehind front % 2 = 0)
    (back : List Char) : backslashesBehind (front ++ back) % 2 = backslashesBehind back % 2 := by
  unfold backslashesBehind at even ⊢
  rw [List.reverse_append, List.takeWhile_append]
  split
  · rename_i all
    rw [List.length_append, all]
    omega
  · rfl

theorem backslashesBehind_of_free {source : List Char} (free : '\\' ∉ source) :
    backslashesBehind source = 0 := by
  unfold backslashesBehind
  cases reversed : source.reverse with
  | nil => rfl
  | cons last front =>
    have inside : last ∈ source := by
      rw [← List.mem_reverse, reversed]
      exact List.mem_cons_self
    have other : last ≠ '\\' := fun same => free (same ▸ inside)
    rw [List.takeWhile_cons_of_neg (by simpa using other)]
    rfl

namespace StandsInside

/-- Source code without the two marks. -/
theorem of_free {source : List Char} (noControl : ∀ c ∈ source, Unicode.isControl c = false)
    (noQuote : '\"' ∉ source) (noBackslash : '\\' ∉ source) : StandsInside source where
  noControl := noControl
  escaped front back split := absurd (split ▸ by simp) noQuote
  closed := by rw [backslashesBehind_of_free noBackslash]

theorem append {first second : List Char} (here : StandsInside first)
    (behind : StandsInside second) : StandsInside (first ++ second) where
  noControl c inside := (List.mem_append.mp inside).elim (here.noControl c) (behind.noControl c)
  escaped front back split := by
    rcases List.append_eq_append_iff.mp split with ⟨middle, rfl, rest⟩ | ⟨middle, split, rest⟩
    · rw [backslashesBehind_append here.closed]
      exact behind.escaped middle back rest
    · cases middle with
      | nil =>
        rw [List.append_nil] at split
        rw [← split, ← List.append_nil first, backslashesBehind_append here.closed]
        exact behind.escaped [] back rest.symm
      | cons mark middle =>
        obtain ⟨rfl, -⟩ := List.cons.inj rest
        exact here.escaped front middle split
  closed := by rw [backslashesBehind_append here.closed, behind.closed]

theorem flatMap {write : Char → List Char} (each : ∀ c, StandsInside (write c))
    (chars : List Char) : StandsInside (chars.flatMap write) := by
  induction chars with
  | nil => exact of_free nofun nofun nofun
  | cons c rest hypothesis => exact (each c).append hypothesis

/-- A backslash escapes whatever stands behind it. -/
theorem pair {letter : Char} (noControl : Unicode.isControl letter = false) :
    StandsInside ['\\', letter] where
  noControl := List.forall_mem_cons.mpr ⟨by decide, List.forall_mem_singleton.mpr noControl⟩
  escaped front back split := by
    cases front with
    | nil => cases (List.cons.inj split).1
    | cons first front =>
      obtain ⟨rfl, split⟩ := List.cons.inj split
      cases front with
      | nil => rfl
      | cons second front => simp at split
  closed := by
    by_cases again : letter = '\\'
    · rw [again]
      rfl
    · simp [backslashesBehind, again]

theorem unitEscape {n : Nat} (small : n < 0x10000) : StandsInside (unitEscape n) := by
  have digit : ∀ digit < 16, Unicode.isControl (Nat.digitChar digit) = false ∧
      '\"' ≠ Nat.digitChar digit ∧ '\\' ≠ Nat.digitChar digit := by decide
  have first := digit (n / 16 / 16 / 16) (by omega)
  have second := digit (n / 16 / 16 % 16) (Nat.mod_lt _ (by decide))
  have third := digit (n / 16 % 16) (Nat.mod_lt _ (by decide))
  have fourth := digit (n % 16) (Nat.mod_lt _ (by decide))
  rw [ClassMembers.unitEscape, fourHexDigits_eq small]
  have mark : Unicode.isControl 'u' = false := by decide
  refine (pair mark).append (of_free ?_ ?_ ?_)
  · simp [first.1, second.1, third.1, fourth.1]
  · simp [first.2.1, second.2.1, third.2.1, fourth.2.1]
  · simp [first.2.2, second.2.2, third.2.2, fourth.2.2]

end StandsInside

theorem isControl_of_mem : ∀ row ∈ escapes, Unicode.isControl row.1 = false := by decide

/-- What is written of a character of a string can stand between double quotes. -/
theorem IsWritten.standsInside {c : Char} {source : List Char}
    (written : IsWritten '\"' c source) : StandsInside source := by
  cases written with
  | listed row => exact .pair (isControl_of_mem _ row)
  | number control _ =>
    have small := toNat_lt_of_isControl control
    exact .unitEscape (by omega)
  | itself noControl noQuote noBackslash _ =>
    refine .of_free (List.forall_mem_singleton.mpr noControl) ?_ ?_
    · simpa using Ne.symm noQuote
    · simpa using Ne.symm noBackslash

end Source

/-! ### Literals -/

namespace Literal

theorem text_string (text : String) : (string text).text = stringLiteral text := rfl

theorem text_char (number : UInt16) : (char number).text = charLiteral number := rfl

end Literal

/-- A string literal stands between double quotes without control characters and without
quotes that are not escaped, and it is read as the text that was written. A character literal
is read as the unit that was written. So what is written of different texts and of different
units is different, and a text is not written as a unit is. -/
theorem literals_read_back :
    (∀ text : String, ∃ inside : List Char,
      (Literal.string text).text.toList = '\"' :: (inside ++ ['\"']) ∧
      Source.StandsInside inside ∧
      Source.readString (Literal.string text).text = some text) ∧
    (∀ number : UInt16, Source.readChar (Literal.char number).text = some number) ∧
    (∀ text other : String, (Literal.string text).text = (Literal.string other).text →
      text = other) ∧
    (∀ number other : UInt16, (Literal.char number).text = (Literal.char other).text →
      number = other) ∧
    (∀ (text : String) (number : UInt16),
      (Literal.string text).text ≠ (Literal.char number).text) := by
  simp only [Literal.text_string, Literal.text_char]
  have readString := Source.readString_stringLiteral
  have readChar := Source.readChar_charLiteral
  refine ⟨fun text => ?_, readChar, fun text other same => ?_, fun number other same => ?_,
    fun text number same => ?_⟩
  · have inside (c : Char) := (Source.escapeChar_isWritten (.inl rfl) c).standsInside
    exact ⟨_, String.toList_ofList, .flatMap inside _, readString text⟩
  · rw [← Option.some.injEq, ← readString text, same, readString other]
  · rw [← Option.some.injEq, ← readChar number, same, readChar other]
  · have quotes := congrArg (fun source => source.toList.head?) same
    simp [stringLiteral, charLiteral] at quotes

/-- Text that looks like an escape, with a quote, a control character and a pair of units
behind it; a quote by itself, and half of a pair. -/
theorem literals_read_back_marks :
    (Literal.string "\\u0041\"\x07😀").text = "\"\\\\u0041\\\"\\u0007😀\"" ∧
    Source.readString "\"\\\\u0041\\\"\\u0007😀\"" = some "\\u0041\"\x07😀" ∧
    (Literal.char 0x27).text = "'\\''" ∧ Source.readChar "'\\''" = some 0x27 ∧
    (Literal.char 0xD83D).text = "'\\ud83d'" ∧ Source.readChar "'\\ud83d'" = some 0xD83D := by
  obtain ⟨strings, chars, -⟩ := literals_read_back
  have text : (Literal.string "\\u0041\"\x07😀").text = "\"\\\\u0041\\\"\\u0007😀\"" := by
    rw [Literal.text_string]
    cbv
  have quote : (Literal.char 0x27).text = "'\\''" := by
    rw [Literal.text_char]
    cbv
  have half : (Literal.char 0xD83D).text = "'\\ud83d'" := by
    rw [Literal.text_char]
    cbv
  refine ⟨text, ?_, quote, ?_, half, ?_⟩
  · obtain ⟨_, -, -, read⟩ := strings "\\u0041\"\x07😀"
    rwa [text] at read
  · rw [← quote]
    exact chars 0x27
  · rw [← half]
    exact chars 0xD83D

end ClassMembers
