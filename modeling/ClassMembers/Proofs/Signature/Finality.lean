/-
This file proves that the faults of signatures are well placed and final. A fault is found at
the end of the text or in front of a character, and the scanner of bytes finds the same one
there, so it has cut no name inside of a character on its way. If bytes follow, then nothing
behind the first of them has been looked at. Every text with the same bytes up to there has
the same fault at the same place, and no way to go on from there makes a signature.
-/

import ClassMembers.Proofs.Signature.Following
import Mathlib

namespace ClassMembers

open Scanner Text

variable {α : Type}

theorem utf8ByteSize_ofList (chars : List Char) :
    (String.ofList chars).utf8ByteSize = utf8Length chars := by
  induction chars with
  | nil => rfl
  | cons c rest hypothesis =>
    rw [String.ofList_cons, String.utf8ByteSize_append, hypothesis, String.utf8ByteSize_singleton]
    rfl

theorem utf8ByteSize_eq (text : String) : text.utf8ByteSize = utf8Length text.toList := by
  rw [← utf8ByteSize_ofList, String.ofList_toList]

theorem length_encodeUtf8 (text : String) : (encodeUtf8 text).length = text.utf8ByteSize :=
  (length_bytesOf text.toList).trans (utf8ByteSize_eq text).symm

/-! ### The fault of a scan -/

namespace Scanner

/-- The fault of a scan that ends with the outcome, if it has one: something may be left. -/
def fault? : EStateM.Result SignatureFault (List Char) α → Option SignatureFault
  | .ok _ [] => none
  | .ok _ (_ :: _) => some .trailingCharacters
  | .error fault _ => some fault

theorem scan_eq_error {scanner : Scanner α} {text : String} {error : SignatureError} :
    scanner.scan text = .error error ↔
      fault? (scanner text.toList) = some error.fault ∧ error.text = text ∧
        error.offset =
          utf8Length text.toList - utf8Length (left (scanner text.toList)) := by
  obtain ⟨written, offset, fault⟩ := error
  unfold Scanner.scan
  dsimp only
  rcases scanner text.toList with ⟨value, _ | ⟨c, rest⟩⟩ | ⟨found, rest⟩
  · exact ⟨nofun, fun both => nomatch both.1⟩
  · simp [fault?, left, eq_comm, and_comm, and_left_comm]
  · simp [fault?, left, eq_comm, and_comm, and_left_comm]

/-- Two outcomes that look the same on bytes. -/
theorem onBytes_inj {first second : EStateM.Result SignatureFault (List Char) α}
    {tail behind : List UInt8} (same : onBytes tail first = onBytes behind second) :
    tail = behind ∧ ((left first = [] ↔ left second = []) → fault? first = fault? second) := by
  rcases first with ⟨value, _ | ⟨c, rest⟩⟩ | ⟨found, rest⟩ <;>
    rcases second with ⟨other, _ | ⟨d, more⟩⟩ | ⟨fault, more⟩ <;> cases same <;>
      simp [fault?, left]

end Scanner

section Scans

variable {bytes : ByteScanner α} {chars : Scanner α}

/-- A scan consumes a part of the text, and on the bytes of that part with others behind it that
begin alike, the scan of bytes comes to the same outcome. -/
theorem exists_front (follows : ∀ most bound, Follows most bound bytes chars) (text : String) :
    ∃ front, text.toList = front ++ left (chars text.toList) ∧
      ∀ tail, tail.head? = (bytesOf (left (chars text.toList))).head? →
        bytes (bytesOf front ++ tail) = onBytes tail (chars text.toList) := by
  obtain ⟨front, split⟩ := (follows 0 0).advances text.toList
  refine ⟨front, split.symm, fun tail next => ?_⟩
  exact (follows text.toList.length (bytesOf front ++ tail).length).on text.toList (Nat.le_refl _)
    front tail split.symm next (Nat.le_refl _)

theorem onBytes_encodeUtf8 (follows : ∀ most bound, Follows most bound bytes chars)
    (text : String) :
    bytes (encodeUtf8 text) =
      onBytes (bytesOf (left (chars text.toList))) (chars text.toList) := by
  obtain ⟨front, split, same⟩ := exists_front follows text
  rw [← same _ rfl, ← bytesOf_append, ← split]
  rfl

/-- On the bytes of a text both scans come to the same, so no name is cut inside of a character. -/
theorem scan_encodeUtf8 (follows : ∀ most bound, Follows most bound bytes chars) (text : String) :
    bytes.scan (encodeUtf8 text) =
      (chars.scan text).mapError fun error => (error.offset, .signature error.fault) := by
  have total : (encodeUtf8 text).length = utf8Length text.toList := length_bytesOf _
  have same := onBytes_encodeUtf8 follows text
  rw [ByteScanner.scan, Scanner.scan, same, total]
  rcases chars text.toList with ⟨value, _ | ⟨c, rest⟩⟩ | ⟨fault, rest⟩
  · rfl
  · obtain ⟨more, behind⟩ := List.head?_eq_some_iff.mp (head?_bytesOf_cons c rest)
    have remain := length_bytesOf (c :: rest)
    rw [behind] at remain
    simp only [left, onBytes, behind, remain, Except.mapError]
  · simp only [left, onBytes, length_bytesOf, Except.mapError]

-- Bytes that are no text are cut where the name begins.
example : ByteScanner.fieldType.scan [0x4C, 0xA9, 0x3B] = .error (2, .torn) := by cbv

/-- A fault is well placed and final: it was found at the end of the text or in front of a
character, the scanner of bytes finds it there too and has cut nothing inside of a character,
and if it was found in front of a byte, it is the fault of all texts with the same bytes up to
this one. -/
structure Settled (bytes : ByteScanner α) (parse : String → Except SignatureError α)
    (text : String) (error : SignatureError) : Prop where
  about : error.text = text
  within : error.offset ≤ text.utf8ByteSize
  boundary : String.Pos.Raw.IsValid text ⟨error.offset⟩
  cut : bytes.scan (encodeUtf8 text) = .error (error.offset, .signature error.fault)
  final : error.offset < text.utf8ByteSize → ∀ other,
    (encodeUtf8 other).take (error.offset + 1) = (encodeUtf8 text).take (error.offset + 1) →
      parse other = .error ⟨other, error.offset, error.fault⟩

/-- A text with the same bytes as another up to the one that a character begins with. -/
theorem exists_encodeUtf8_eq {text other : String} {front rest : List Char} {c : Char}
    (split : text.toList = front ++ c :: rest)
    (agree : (encodeUtf8 other).take ((bytesOf front).length + 1) =
      (encodeUtf8 text).take ((bytesOf front).length + 1)) :
    ∃ behind, encodeUtf8 other = bytesOf front ++ lead c :: behind := by
  obtain ⟨more, begins⟩ := List.head?_eq_some_iff.mp (head?_bytesOf_cons c rest)
  have whole : encodeUtf8 text = bytesOf front ++ lead c :: more := by
    rw [← begins, ← bytesOf_append, ← split]
    rfl
  refine ⟨(encodeUtf8 other).drop ((bytesOf front).length + 1), ?_⟩
  refine (List.take_append_drop ((bytesOf front).length + 1) _).symm.trans ?_
  rw [agree, whole, List.take_length_add_append]
  simp

/-- A text with the same bytes up to the one that a fault was found in front of has the same
fault. -/
theorem scan_of_sameBytes (follows : ∀ most bound, Follows most bound bytes chars)
    {text other : String} {error : SignatureError} (failed : chars.scan text = .error error)
    (follow : error.offset < text.utf8ByteSize)
    (agree : (encodeUtf8 other).take (error.offset + 1) =
      (encodeUtf8 text).take (error.offset + 1)) :
    chars.scan other = .error ⟨other, error.offset, error.fault⟩ := by
  obtain ⟨faulty, -, offset⟩ := scan_eq_error.mp failed
  obtain ⟨front, split, same⟩ := exists_front follows text
  have total := congrArg utf8Length split
  rw [utf8Length_append] at total
  have placed : (bytesOf front).length = error.offset := by
    rw [length_bytesOf]
    omega
  have remains : left (chars text.toList) ≠ [] := by
    intro none
    rw [utf8ByteSize_eq, total, none, utf8Length_nil, ← length_bytesOf] at follow
    omega
  -- The byte that comes next is the same in both texts.
  obtain ⟨c, rest, next⟩ := List.exists_cons_of_ne_nil remains
  obtain ⟨behind, begins⟩ := exists_encodeUtf8_eq (next ▸ split) (placed ▸ agree)
  have outcome := onBytes_encodeUtf8 follows other
  rw [begins, same _ (by rw [next, head?_bytesOf_cons]; rfl)] at outcome
  obtain ⟨tail, faults⟩ := onBytes_inj outcome
  have othersRemain : left (chars other.toList) ≠ [] := by
    intro none
    rw [none] at tail
    cases tail
  refine scan_eq_error.mpr ⟨?_, rfl, ?_⟩
  · rw [← faults (iff_of_false remains othersRemain), faulty]
  · have length := congrArg List.length begins
    rw [tail, List.length_append, length_encodeUtf8, utf8ByteSize_eq, placed] at length
    rw [length, length_bytesOf]
    exact (Nat.add_sub_cancel _ _).symm

theorem settled_of_follows (follows : ∀ most bound, Follows most bound bytes chars)
    {text : String} {error : SignatureError} (failed : chars.scan text = .error error) :
    Settled bytes chars.scan text error := by
  obtain ⟨faulty, about, offset⟩ := scan_eq_error.mp failed
  obtain ⟨front, split, -⟩ := exists_front follows text
  have size := utf8ByteSize_eq text
  have total := congrArg utf8Length split
  rw [utf8Length_append] at total
  refine ⟨about, by omega, ?_, ?_, fun follow other => scan_of_sameBytes follows failed follow⟩
  · refine String.Pos.Raw.isValid_iff_exists_append.mpr
      ⟨.ofList front, .ofList (left (chars text.toList)), ?_, ?_⟩
    · rw [← String.ofList_append, ← split, String.ofList_toList]
    · refine String.Pos.Raw.ext ?_
      rw [String.byteIdx_rawEndPos, utf8ByteSize_ofList]
      show error.offset = _
      omega
  · rw [scan_encodeUtf8 follows, failed]
    rfl

end Scans

/-- The faults of types and of the signatures of methods are well placed and final. -/
theorem signature_errors_are_final (text : String) (error : SignatureError) :
    (JavaType.ofSignature text = .error error →
      Settled ByteScanner.fieldType JavaType.ofSignature text error) ∧
    (MethodSignature.ofSignature text = .error error →
      Settled ByteScanner.methodSignature MethodSignature.ofSignature text error) :=
  ⟨settled_of_follows fun _ _ => fieldType_follows,
    settled_of_follows fun _ _ => methodSignature_follows⟩

/-- A fault in front of a character of two bytes, of which another text has only the first, and
one behind the mark that closes an empty list. -/
theorem accented_and_empty_errors_are_final :
    JavaType.ofSignature "[Lä;é" = .error ⟨"[Lä;é", 5, .trailingCharacters⟩ ∧
      Settled ByteScanner.fieldType JavaType.ofSignature "[Lä;é"
        ⟨"[Lä;é", 5, .trailingCharacters⟩ ∧
      JavaType.ofSignature "[Lä;êI" = .error ⟨"[Lä;êI", 5, .trailingCharacters⟩ ∧
      MethodSignature.ofSignature "(La<>;)V" = .error ⟨"(La<>;)V", 5, .emptyArguments⟩ ∧
      MethodSignature.ofSignature "(La<>;^" = .error ⟨"(La<>;^", 5, .emptyArguments⟩ := by
  have trailing : JavaType.ofSignature "[Lä;é" = .error ⟨"[Lä;é", 5, .trailingCharacters⟩ := by
    cbv
  have empty : MethodSignature.ofSignature "(La<>;)V" =
      .error ⟨"(La<>;)V", 5, .emptyArguments⟩ := by
    cbv
  have settled := (signature_errors_are_final _ _).1 trailing
  have final := ((signature_errors_are_final _ _).2 empty).final
  exact ⟨trailing, settled, settled.final (by decide +kernel) "[Lä;êI" (by decide +kernel), empty,
    final (by decide +kernel) "(La<>;^" (by decide +kernel)⟩

end ClassMembers
