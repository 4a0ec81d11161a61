/-
This file holds the decoding of bytes that are meant to be UTF-8 but need not
be. Well-formed text decodes to its characters; every maximal run of bytes that
begins a character and is then broken off, and every byte that begins none,
decodes to one replacement character U+FFFD. The decoder is a machine that takes
one byte at a time: between characters it owes nothing, and inside one it knows
the bits collected so far, how many bytes are owed and which range the next one
has to lie in. The range is narrower than a continuation byte's after the
leading bytes E0, ED, F0 and F4, and that is what shuts out overlong forms,
surrogates and numbers beyond U+10FFFF.
-/

namespace ClassMembers.Text

/-- A character that has begun: the bits collected so far, the number of bytes
still owed, and the range of the next of them. -/
structure Pending where
  bits : Nat
  owed : Nat
  low : UInt8
  high : UInt8
  deriving DecidableEq

/-- The character that stands for bytes that are no character. -/
def replacement : Char := '\uFFFD'

/-- The character that a leading byte begins. `none` if it begins no character
of more than one byte. -/
def Pending.ofLead (byte : UInt8) : Option Pending :=
  if 0xC2 ≤ byte ∧ byte ≤ 0xDF then some ⟨byte.toNat - 0xC0, 1, 0x80, 0xBF⟩
  else if byte = 0xE0 then some ⟨0, 2, 0xA0, 0xBF⟩
  else if byte = 0xED then some ⟨0xD, 2, 0x80, 0x9F⟩
  else if 0xE1 ≤ byte ∧ byte ≤ 0xEF then some ⟨byte.toNat - 0xE0, 2, 0x80, 0xBF⟩
  else if byte = 0xF0 then some ⟨0, 3, 0x90, 0xBF⟩
  else if 0xF1 ≤ byte ∧ byte ≤ 0xF3 then some ⟨byte.toNat - 0xF0, 3, 0x80, 0xBF⟩
  else if byte = 0xF4 then some ⟨4, 3, 0x80, 0x8F⟩
  else none

/-- A byte between characters: what it completes and what it begins. -/
def firstByte (byte : UInt8) : List Char × Option Pending :=
  if byte < 0x80 then ([Char.ofNat byte.toNat], none)
  else match Pending.ofLead byte with
    | some pending => ([], some pending)
    | none => ([replacement], none)

/-- A byte inside a character. A byte out of range breaks the character off and
is then read as a first byte. -/
def nextByte (pending : Pending) (byte : UInt8) : List Char × Option Pending :=
  if pending.low ≤ byte ∧ byte ≤ pending.high then
    let bits := pending.bits * 64 + (byte.toNat - 0x80)
    if pending.owed ≤ 1 then ([Char.ofNat bits], none)
    else ([], some ⟨bits, pending.owed - 1, 0x80, 0xBF⟩)
  else
    let (completed, state) := firstByte byte
    (replacement :: completed, state)

/-- Decodes bytes from a state of the machine. -/
def decodeFrom : Option Pending → List UInt8 → List Char
  | none, [] => []
  | some _, [] => [replacement]
  | none, byte :: rest =>
    let (completed, state) := firstByte byte
    completed ++ decodeFrom state rest
  | some pending, byte :: rest =>
    let (completed, state) := nextByte pending byte
    completed ++ decodeFrom state rest

/-- The text that bytes stand for, with a replacement character for every broken
piece. -/
def decodeUtf8 (bytes : List UInt8) : String :=
  String.ofList (decodeFrom none bytes)

/-- The bytes of a text. -/
def encodeUtf8 (text : String) : List UInt8 :=
  text.toList.flatMap String.utf8EncodeChar

/-- The number of bytes that characters take. -/
def utf8Length : List Char → Nat
  | [] => 0
  | c :: rest => c.utf8Size + utf8Length rest

/-- Decoding a byte of ASCII leaves the machine between characters. -/
theorem firstByte_of_lt {byte : UInt8} (ascii : byte < 0x80) :
    firstByte byte = ([Char.ofNat byte.toNat], none) := by
  simp [firstByte, ascii]

@[simp] theorem utf8Length_nil : utf8Length [] = 0 := rfl

@[simp] theorem utf8Length_cons (c : Char) (rest : List Char) :
    utf8Length (c :: rest) = c.utf8Size + utf8Length rest := rfl

@[simp] theorem utf8Length_append (first second : List Char) :
    utf8Length (first ++ second) = utf8Length first + utf8Length second := by
  induction first with
  | nil => simp
  | cons c rest hypothesis =>
    rw [List.cons_append, utf8Length_cons, utf8Length_cons, hypothesis, Nat.add_assoc]

end ClassMembers.Text
