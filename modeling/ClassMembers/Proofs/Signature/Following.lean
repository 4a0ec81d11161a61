/-
This file proves that the scanner of bytes follows the scanner of characters. Whatever a
scanner of characters consumes of a text, whether it succeeds or fails, the scanner of bytes
comes to the same answer on the bytes of that part, and leaves what stands behind them. For
that it has to know of what stands behind no more than the byte that comes next, and nothing
if nothing does. So it never cuts a name inside of a character, and what follows the place of
a fault has no part in it. The property is kept when scanners are composed. The bounds of
the two scanners differ, since a character may have several bytes, and neither is met before
the end.
-/

import ClassMembers.Proofs.Signature.Acceptance
import ClassMembers.Proofs.Signature.Bytes

namespace ClassMembers

open Scanner Sequencing Text

variable {α β : Type}

/-! ### What scanners of characters leave -/

namespace Scanner

/-- What a scan leaves, after a fault as well as after a success. -/
def left : EStateM.Result SignatureFault (List Char) α → List Char
  | .ok _ rest => rest
  | .error _ rest => rest

/-- What a scanner leaves is an end of what there was. -/
def Advances (scanner : Scanner α) : Prop := ∀ text, left (scanner text) <:+ text

/-- The outcome of a scan as one of bytes, with the bytes that are left. -/
def onBytes (tail : List UInt8) :
    EStateM.Result SignatureFault (List Char) α → EStateM.Result ByteFault (List UInt8) α
  | .ok value _ => .ok value tail
  | .error fault _ => .error (.signature fault) tail

theorem advances_bind {scanner : Scanner α} {next : α → Scanner β} (before : Advances scanner)
    (behind : ∀ value, Advances (next value)) : Advances (scanner >>= next) := by
  intro text
  have first := before text
  cases result : scanner text with
  | ok value rest =>
    rw [result] at first
    rw [bind_of_ok result]
    exact (behind value rest).trans first
  | error fault rest =>
    rw [result] at first
    rw [bind_of_error result]
    exact first

theorem pure_advances (value : α) : Advances (pure value : Scanner α) := List.suffix_refl

theorem throw_advances (fault : SignatureFault) : Advances (throw fault : Scanner α) :=
  List.suffix_refl

theorem eat_advances (mark : Char) : Advances (eat mark) := by
  intro text
  by_cases next : text.head? = some mark
  · obtain ⟨rest, rfl⟩ := List.head?_eq_some_iff.mp next
    have eaten : eat mark (mark :: rest) = .ok true rest := if_pos rfl
    rw [eaten]
    exact List.suffix_cons mark rest
  · have stays : eat mark text = .ok false text := by
      cases text with
      | nil => rfl
      | cons c rest => exact if_neg fun same => next (congrArg some same)
    rw [stays]
    exact List.suffix_refl text

/-- A mark decides how to go on. -/
theorem choice_advances (mark : Char) {yes no : Scanner α} (eaten : Advances yes)
    (other : Advances no) :
    Advances (eat mark >>= fun found => if found = true then yes else no) := by
  refine advances_bind (eat_advances mark) fun found => ?_
  cases found with
  | true => exact eaten
  | false => exact other

end Scanner

theorem ascii_of_all {marks : List Char} (all : marks.all (·.toNat < 128) = true) :
    ∀ mark ∈ marks, mark.toNat < 128 :=
  fun mark inside => of_decide_eq_true (List.all_eq_true.mp all mark inside)

/-! ### One text -/

/-- On a text, with no more bytes than the bound, a scanner of bytes follows one of characters:
on the bytes of what that consumes, with any bytes behind that begin like those of what it
leaves, it comes to the same outcome. -/
def FollowsOn (bound : Nat) (bytes : ByteScanner α) (chars : Scanner α) (text : List Char) :
    Prop :=
  ∀ front tail, text = front ++ left (chars text) →
    tail.head? = (bytesOf (left (chars text))).head? → (bytesOf front ++ tail).length ≤ bound →
      bytes (bytesOf front ++ tail) = onBytes tail (chars text)

/-- What follows a part of a text begins like the rest of it. -/
theorem head?_bytesOf_append (front : List Char) {rest : List Char} {tail : List UInt8}
    (next : tail.head? = (bytesOf rest).head?) :
    (bytesOf front ++ tail).head? = (bytesOf (front ++ rest)).head? := by
  cases front with
  | nil => exact next
  | cons c front =>
    rw [List.cons_append, head?_bytesOf_cons, List.head?_append, head?_bytesOf_cons]
    rfl

namespace FollowsOn

variable {bound other : Nat} {bytes inner : ByteScanner α} {chars within : Scanner α}
  {text rest : List Char}

theorem mono (follows : FollowsOn bound bytes chars text) (less : other ≤ bound) :
    FollowsOn other bytes chars text :=
  fun front tail split next small => follows front tail split next (Nat.le_trans small less)

/-- Where something is left, a bound of zero is never kept. -/
theorem of_zero {c : Char} : FollowsOn 0 bytes chars (c :: rest) := by
  intro front tail split next small
  have none := List.eq_nil_of_length_eq_zero (Nat.le_zero.mp small)
  have same := head?_bytesOf_append front next
  rw [← split, none, head?_bytesOf_cons] at same
  cases same

/-- Where nothing is left, there is only one outcome of each. -/
theorem nil_iff (advances : Advances chars) :
    FollowsOn bound bytes chars [] ↔ bytes [] = onBytes [] (chars []) := by
  have nothing : left (chars []) = [] := List.suffix_nil.mp (advances [])
  constructor
  · intro follows
    exact follows [] [] (by rw [nothing]; rfl) (by rw [nothing]; rfl) (Nat.zero_le bound)
  · intro same front tail split next _
    rw [nothing] at split next
    obtain ⟨rfl, -⟩ := List.append_eq_nil_iff.mp split.symm
    obtain rfl := List.head?_eq_none_iff.mp next
    exact same

/-- Both scanners only look at what comes next. -/
theorem peek (charStep : chars text = within text)
    (byteStep : ∀ raw, raw.head? = (bytesOf text).head? → bytes raw = inner raw)
    (behind : FollowsOn bound inner within text) : FollowsOn bound bytes chars text := by
  intro front tail split next small
  rw [charStep] at split next ⊢
  have begins := head?_bytesOf_append front next
  rw [← split] at begins
  rw [byteStep _ begins]
  exact behind front tail split next small

/-- Both scanners consume a character of ASCII. -/
theorem step {c : Char} (ascii : c.toNat < 128) (advances : left (within rest) <:+ rest)
    (charStep : chars (c :: rest) = within rest)
    (byteStep : ∀ raw, bytes (c.toUInt8 :: raw) = inner raw)
    (behind : FollowsOn (bound - 1) inner within rest) :
    FollowsOn bound bytes chars (c :: rest) := by
  intro front tail split next small
  rw [charStep] at split next ⊢
  obtain ⟨consumed, same⟩ := advances
  have begins : front = c :: consumed := by
    refine List.append_cancel_right (split.symm.trans ?_)
    rw [List.cons_append, same]
  rw [begins, bytesOf_cons_of_ascii ascii, List.cons_append] at small ⊢
  rw [byteStep]
  exact behind consumed tail same.symm next (Nat.le_sub_of_add_le small)

theorem pure (value : α) : FollowsOn bound (pure value) (pure value) text := by
  intro front tail split next small
  have none : front = [] := List.self_eq_append_left.mp split
  rw [none]
  rfl

theorem throw (fault : SignatureFault) :
    FollowsOn bound (throw (.signature fault) : ByteScanner α) (throw fault) text := by
  intro front tail split next small
  have none : front = [] := List.self_eq_append_left.mp split
  rw [none]
  rfl

theorem bind {nextBytes : α → ByteScanner β} {nextChars : α → Scanner β}
    (first : FollowsOn bound bytes chars text) (before : Advances chars)
    (advances : ∀ value, Advances (nextChars value))
    (second : ∀ value rest, chars text = .ok value rest →
      FollowsOn (bound - (text.length - rest.length)) (nextBytes value) (nextChars value) rest) :
    FollowsOn bound (bytes >>= nextBytes) (chars >>= nextChars) text := by
  intro front tail split next small
  cases result : chars text with
  | error fault rest =>
    rw [bind_of_error result] at split next ⊢
    have failed := first front tail (by rw [result]; exact split) (by rw [result]; exact next) small
    rw [result] at failed
    exact bind_of_error failed
  | ok value middle =>
    rw [bind_of_ok result] at split next ⊢
    obtain ⟨early, here⟩ := before text
    obtain ⟨late, there⟩ := advances value middle
    rw [result] at here
    rw [← there] at here
    have both : front = early ++ late := by
      refine List.append_cancel_right (split.symm.trans (here.symm.trans ?_))
      exact (List.append_assoc _ _ _).symm
    rw [both, bytesOf_append, List.append_assoc] at small ⊢
    have follow := head?_bytesOf_append late next
    rw [there] at follow here
    have done := first early (bytesOf late ++ tail) (by rw [result]; exact here.symm)
      (by rw [result]; exact follow) small
    rw [result] at done
    rw [bind_of_ok done]
    refine second value middle result late tail there.symm next ?_
    have wide := length_le_length_bytesOf early
    have whole : text.length = early.length + middle.length := by
      rw [← here]
      exact List.length_append
    rw [List.length_append] at small
    omega

/-! ### Marks and names -/

theorem head?_ne_of_mark {mark : Char} (ascii : mark.toNat < 128) {raw : List UInt8}
    (next : raw.head? = (bytesOf text).head?) (absent : text.head? ≠ some mark) :
    raw.head? ≠ some mark.toUInt8 := by
  rw [next]
  cases text with
  | nil => nofun
  | cons c rest =>
    rw [head?_bytesOf_cons]
    intro same
    exact absent (congrArg some ((lead_eq_iff ascii).mp (Option.some.inj same)))

/-- A mark decides how both go on. -/
theorem choice {mark : Char} (ascii : mark.toNat < 128) {yes no : ByteScanner α}
    {yesChars noChars : Scanner α} (advances : Advances yesChars)
    (eaten : ∀ rest, text = mark :: rest → FollowsOn (bound - 1) yes yesChars rest)
    (uneaten : text.head? ≠ some mark → FollowsOn bound no noChars text) :
    FollowsOn bound (ByteScanner.eat mark >>= fun found => if found = true then yes else no)
      (eat mark >>= fun found => if found = true then yesChars else noChars) text := by
  by_cases next : text.head? = some mark
  · obtain ⟨rest, rfl⟩ := List.head?_eq_some_iff.mp next
    refine step ascii (advances rest) eat_then (fun raw => ?_) (eaten rest rfl)
    have found : ByteScanner.eat mark (mark.toUInt8 :: raw) = .ok true raw := if_pos rfl
    exact bind_of_ok found
  · refine peek (eat_else next) (fun raw begins => ?_) (uneaten next)
    have different := head?_ne_of_mark ascii begins next
    have missed : ByteScanner.eat mark raw = .ok false raw := by
      cases raw with
      | nil => rfl
      | cons byte more => exact if_neg fun same => different (congrArg some same)
    exact bind_of_ok missed

theorem passes_iff {stops : List Char} {byte : UInt8} :
    ByteScanner.passes stops byte = true ↔ ∀ stop ∈ stops, byte ≠ stop.toUInt8 := by
  rw [ByteScanner.passes, Bool.not_eq_true', ← Bool.not_eq_true, List.contains_iff_mem,
    List.mem_map]
  exact ⟨fun absent stop inside same => absent ⟨stop, inside, same.symm⟩,
    fun absent ⟨stop, inside, same⟩ => absent stop inside same.symm⟩

/-- A text may be cut in front of bytes that begin like those of characters. -/
theorem cutsBefore_of_head? {raw : List UInt8} (next : raw.head? = (bytesOf text).head?) :
    ByteScanner.cutsBefore raw = true := by
  cases text with
  | nil =>
    cases raw with
    | nil => rfl
    | cons byte more => cases next
  | cons c rest =>
    rw [head?_bytesOf_cons] at next
    obtain ⟨others, rfl⟩ := List.head?_eq_some_iff.mp next
    rw [ByteScanner.cutsBefore, Bool.or_eq_true, decide_eq_true_iff, decide_eq_true_iff]
    by_cases ascii : c.toNat < 128
    · refine .inl (UInt8.lt_iff_toNat_lt.mpr ?_)
      rwa [lead_of_ascii ascii, toNat_toUInt8 ascii]
    · exact .inr (le_lead_of_not_ascii (Nat.le_of_not_lt ascii))

/-- The bytes of a name are those in front of the first stop. -/
theorem span_passes {stops : List Char} (name : List Char) {tail : List UInt8}
    (ascii : ∀ stop ∈ stops, stop.toNat < 128) (free : ∀ c ∈ name, c ∉ stops)
    (stopped : ∀ c, text.head? = some c → c ∈ stops)
    (next : tail.head? = (bytesOf text).head?) :
    (bytesOf name ++ tail).takeWhile (ByteScanner.passes stops) = bytesOf name ∧
      (bytesOf name ++ tail).dropWhile (ByteScanner.passes stops) = tail := by
  have inside : ∀ byte ∈ bytesOf name, ByteScanner.passes stops byte = true := by
    refine fun byte held => passes_iff.mpr fun stop listed same => ?_
    subst same
    exact free stop (toUInt8_mem_bytesOf (ascii stop listed) held) listed
  have behind : ∀ byte, tail.head? = some byte → ¬ ByteScanner.passes stops byte = true := by
    intro byte begins passes
    rw [next] at begins
    cases text with
    | nil => cases begins
    | cons c rest =>
      rw [head?_bytesOf_cons] at begins
      have listed := stopped c rfl
      refine passes_iff.mp passes c listed ?_
      rw [← lead_of_ascii (ascii c listed), Option.some.inj begins]
  rw [List.takeWhile_append_of_pos inside, List.dropWhile_append_of_pos inside]
  cases tail with
  | nil => exact ⟨List.append_nil _, rfl⟩
  | cons byte more =>
    rw [List.takeWhile_cons_of_neg (behind byte rfl), List.dropWhile_cons_of_neg (behind byte rfl)]
    exact ⟨List.append_nil _, rfl⟩

theorem identifier_eq_error {stops : List Char} {fault : SignatureFault}
    (failed : Scanner.identifier stops text = .error fault rest) :
    fault = .emptyIdentifier ∧ rest = text ∧ ∀ c, text.head? = some c → c ∈ stops := by
  unfold Scanner.identifier at failed
  simp only at failed
  split at failed
  · rename_i empty
    cases failed
    refine ⟨rfl, rfl, fun c next => ?_⟩
    obtain ⟨more, rfl⟩ := List.head?_eq_some_iff.mp next
    by_cases listed : c ∈ stops
    · exact listed
    · rw [List.takeWhile_cons_of_pos (by simpa using listed)] at empty
      cases empty
  · cases failed

/-- Both take the same name, whose bytes are cut out between characters. -/
theorem identifier {stops : List Char} (ascii : ∀ stop ∈ stops, stop.toNat < 128) :
    FollowsOn bound (ByteScanner.identifier stops) (Scanner.identifier stops) text := by
  intro front tail split next small
  unfold ByteScanner.identifier
  cases result : Scanner.identifier stops text with
  | ok value behind =>
    rw [result] at split next
    obtain ⟨name, whole, rfl, stopped⟩ := identifier_eq_ok.mp result
    have taken : front = name.chars := List.append_cancel_right (split.symm.trans whole)
    have begins := head?_bytesOf_append name.chars next
    obtain ⟨before, after⟩ := span_passes name.chars ascii name.free stopped next
    have present : (bytesOf name.chars).isEmpty = false := by
      obtain ⟨c, more, holds⟩ := List.exists_cons_of_ne_nil name.nonempty
      have first := head?_bytesOf_cons c more
      rw [← holds] at first
      obtain ⟨others, bytes⟩ := List.head?_eq_some_iff.mp first
      rw [bytes]
      rfl
    have decoded : decodeUtf8 (bytesOf name.chars) = String.ofList name.chars := by
      have encoded : encodeUtf8 (String.ofList name.chars) = bytesOf name.chars := by
        rw [encodeUtf8, String.toList_ofList]
        rfl
      rw [← encoded, decodeUtf8_encodeUtf8]
    rw [taken]
    simp only [before, after, present, cutsBefore_of_head? begins, cutsBefore_of_head? next]
    rw [decoded]
    rfl
  | error fault behind =>
    rw [result] at split next
    obtain ⟨rfl, rfl, stopped⟩ := identifier_eq_error result
    have none : front = [] := List.self_eq_append_left.mp split
    have nothing := (span_passes [] ascii (List.forall_mem_nil _) stopped next).1
    rw [none]
    simp only [nothing]
    rfl

end FollowsOn

/-! ### All texts -/

/-- Of no more characters and no more bytes than the bounds, a scanner of bytes follows one of
characters, and that leaves an end of what there was. -/
structure Follows (most bound : Nat) (bytes : ByteScanner α) (chars : Scanner α) : Prop where
  advances : Advances chars
  on : ∀ text, text.length ≤ most → FollowsOn bound bytes chars text

namespace Follows

variable {most less bound fewer : Nat} {bytes : ByteScanner α} {chars : Scanner α}
  {nextBytes : α → ByteScanner β} {nextChars : α → Scanner β}

theorem mono (follows : Follows most bound bytes chars) (chars_le : less ≤ most)
    (bytes_le : fewer ≤ bound) : Follows less fewer bytes chars where
  advances := follows.advances
  on text small := (follows.on text (Nat.le_trans small chars_le)).mono bytes_le

theorem pure (value : α) : Follows most bound (pure value) (pure value) :=
  ⟨pure_advances value, fun _ _ => .pure value⟩

theorem throw (fault : SignatureFault) :
    Follows most bound (throw (.signature fault) : ByteScanner α) (throw fault) :=
  ⟨throw_advances fault, fun _ _ => .throw fault⟩

theorem bind (first : Follows most bound bytes chars)
    (second : ∀ value, Follows most bound (nextBytes value) (nextChars value)) :
    Follows most bound (bytes >>= nextBytes) (chars >>= nextChars) := by
  have behind := fun value => (second value).advances
  refine ⟨advances_bind first.advances behind, fun text small => ?_⟩
  refine (first.on text small).bind first.advances behind fun value rest done => ?_
  have shorter := (first.advances text).length_le
  rw [done] at shorter
  exact ((second value).on rest (Nat.le_trans shorter small)).mono (Nat.sub_le _ _)

theorem bind_pure (first : Follows most bound bytes chars) (next : α → β) :
    Follows most bound (bytes >>= fun value => Pure.pure (next value))
      (chars >>= fun value => Pure.pure (next value)) :=
  first.bind fun value => pure (next value)

theorem map (first : Follows most bound bytes chars) (view : α → β) :
    Follows most bound (view <$> bytes) (view <$> chars) := first.bind_pure view

theorem choice {mark : Char} (ascii : mark.toNat < 128) {yes no : ByteScanner α}
    {yesChars noChars : Scanner α} (eaten : Follows most bound yes yesChars)
    (uneaten : Follows most bound no noChars) :
    Follows most bound
      (ByteScanner.eat mark >>= fun found => if found = true then yes else no)
      (eat mark >>= fun found => if found = true then yesChars else noChars) where
  advances := choice_advances mark eaten.advances uneaten.advances
  on text small := by
    refine .choice ascii eaten.advances (fun rest same => ?_) fun _ => uneaten.on text small
    rw [same] at small
    exact (eaten.on rest (Nat.le_of_succ_le small)).mono (Nat.sub_le _ _)

theorem expect {mark : Char} (ascii : mark.toNat < 128) (fault : SignatureFault) :
    Follows most bound (ByteScanner.expect mark fault) (Scanner.expect mark fault) :=
  .choice ascii (.pure ()) (.throw fault)

theorem identifier {stops : List Char} (ascii : ∀ stop ∈ stops, stop.toNat < 128) :
    Follows most bound (ByteScanner.identifier stops) (Scanner.identifier stops) where
  advances text := by
    cases result : Scanner.identifier stops text with
    | ok value behind =>
      obtain ⟨name, whole, -⟩ := identifier_eq_ok.mp result
      exact ⟨name.chars, whole.symm⟩
    | error fault behind =>
      obtain ⟨-, rfl, -⟩ := FollowsOn.identifier_eq_error result
      exact List.suffix_refl _
  on _ _ := .identifier ascii

end Follows

/-! ### Loops -/

/-- Of no more characters than the bound, an item takes at least one. -/
def Takes (most : Nat) (item : Scanner α) : Prop :=
  ∀ text value rest, text.length ≤ most → item text = .ok value rest → rest.length < text.length

/-- An item whose text begins with a character of some kind takes one. -/
theorem takes_of_accepts {σ : Type} {item : Scanner α} {most : Nat} {text : σ → List Char}
    {value : σ → α} {demand : σ → List Char → Prop} {kind : Char → Prop}
    (accepts : Accepts item most text value demand)
    (begins : ∀ tree, ∃ c more, text tree = c :: more ∧ kind c) : Takes most item := by
  intro chars result rest small done
  obtain ⟨tree, rfl, -⟩ := (accepts chars small result rest).mp done
  obtain ⟨c, more, same, -⟩ := begins tree
  rw [same, List.cons_append, List.length_cons, List.length_append]
  omega

theorem Takes.mono {item : Scanner α} {most less : Nat} (takes : Takes most item)
    (chars_le : less ≤ most) : Takes less item :=
  fun text value rest small => takes text value rest (Nat.le_trans small chars_le)

theorem untilWithin_advances (close : Char) {item : Scanner α} (advances : Advances item)
    (depth : Nat) : Advances (untilWithin close item depth) := by
  induction depth with
  | zero => exact advances_bind advances fun _ => pure_advances _
  | succ depth hypothesis =>
    exact choice_advances close (pure_advances []) (advances_bind advances fun _ =>
      advances_bind hypothesis fun _ => pure_advances _)

theorem announcedWithin_advances (mark : Char) {item : Scanner α} (advances : Advances item)
    (depth : Nat) : Advances (announcedWithin mark item depth) := by
  induction depth with
  | zero => exact pure_advances []
  | succ depth hypothesis =>
    exact choice_advances mark (advances_bind advances fun _ =>
      advances_bind hypothesis fun _ => pure_advances _) (pure_advances [])

namespace Follows

variable {most bound depth limit : Nat} {bytes : ByteScanner α} {chars : Scanner α}

/-- At the end of a text the loops fail as the item does. -/
theorem untilWithin_nil (close : Char) (item : Follows most bound bytes chars)
    (takes : Takes most chars) :
    FollowsOn bound (ByteScanner.untilWithin close bytes limit)
      (Scanner.untilWithin close chars depth) [] := by
  have same := (FollowsOn.nil_iff item.advances).mp (item.on [] (Nat.zero_le most))
  have advances := item.advances []
  rw [FollowsOn.nil_iff (untilWithin_advances close item.advances depth)]
  cases result : chars [] with
  | ok value rest =>
    exact absurd (takes [] value rest (Nat.zero_le most) result) (Nat.not_lt_zero _)
  | error fault rest =>
    rw [result] at same advances
    obtain rfl : rest = [] := List.suffix_nil.mp advances
    have charLoop : Scanner.untilWithin close chars depth [] = .error fault [] := by
      cases depth with
      | zero => exact bind_of_error result
      | succ depth =>
        have missed : eat close [] = .ok false [] := rfl
        exact (bind_of_ok missed).trans (bind_of_error result)
    have byteLoop : ByteScanner.untilWithin close bytes limit [] =
        .error (.signature fault) [] := by
      cases limit with
      | zero => exact bind_of_error same
      | succ limit =>
        have missed : ByteScanner.eat close [] = .ok false [] := rfl
        exact (bind_of_ok missed).trans (bind_of_error same)
    rw [charLoop, byteLoop]
    rfl

theorem untilWithin {close : Char} (ascii : close.toNat < 128)
    (item : Follows most bound bytes chars) (takes : Takes most chars) (enough : most ≤ depth)
    (within : bound ≤ limit) :
    Follows most bound (ByteScanner.untilWithin close bytes limit)
      (Scanner.untilWithin close chars depth) := by
  refine ⟨untilWithin_advances close item.advances depth, fun text small => ?_⟩
  induction depth generalizing most bound limit text with
  | zero =>
    cases List.length_eq_zero_iff.mp (Nat.le_zero.mp (Nat.le_trans small enough))
    exact untilWithin_nil close item takes
  | succ depth hypothesis =>
    cases text with
    | nil => exact untilWithin_nil close item takes
    | cons c rest =>
      cases limit with
      | zero =>
        cases Nat.le_zero.mp within
        exact .of_zero
      | succ limit =>
        have inner := untilWithin_advances close item.advances depth
        refine .choice ascii (pure_advances []) (fun _ _ => .pure []) fun _ => ?_
        refine (item.on _ small).bind item.advances (fun _ => advances_bind inner fun _ =>
          pure_advances _) fun first rest done => ?_
        -- The item has taken a character, so that both bounds are still kept.
        have shorter := takes _ first rest small done
        have fewer := item.mono (Nat.sub_le most 1) (Nat.sub_le bound 1)
        have others : Follows (most - 1) (bound - 1) (ByteScanner.untilWithin close bytes limit)
            (Scanner.untilWithin close chars depth) :=
          ⟨inner, fun text small => hypothesis fewer (takes.mono (Nat.sub_le most 1)) (by omega)
            (by omega) text small⟩
        exact ((others.bind_pure (first :: ·)).on rest (by omega)).mono (by omega)

/-- At the end of a text nothing is announced. -/
theorem announcedWithin_nil (mark : Char) (advances : Advances chars) :
    FollowsOn bound (ByteScanner.announcedWithin mark bytes limit)
      (Scanner.announcedWithin mark chars depth) [] := by
  rw [FollowsOn.nil_iff (announcedWithin_advances mark advances depth)]
  cases depth <;> cases limit <;> rfl

theorem announcedWithin {mark : Char} (ascii : mark.toNat < 128)
    (item : Follows most bound bytes chars) (enough : most ≤ depth) (within : bound ≤ limit) :
    Follows most bound (ByteScanner.announcedWithin mark bytes limit)
      (Scanner.announcedWithin mark chars depth) := by
  refine ⟨announcedWithin_advances mark item.advances depth, fun text small => ?_⟩
  induction depth generalizing most bound limit text with
  | zero =>
    cases List.length_eq_zero_iff.mp (Nat.le_zero.mp (Nat.le_trans small enough))
    exact announcedWithin_nil mark item.advances
  | succ depth hypothesis =>
    cases text with
    | nil => exact announcedWithin_nil mark item.advances
    | cons c rest =>
      cases limit with
      | zero =>
        cases Nat.le_zero.mp within
        exact .of_zero
      | succ limit =>
        have inner := announcedWithin_advances mark item.advances depth
        have advances := advances_bind item.advances fun first =>
          advances_bind inner fun rest => pure_advances (first :: rest)
        refine .choice ascii advances (fun behind same => ?_) fun _ => .pure []
        cases same
        have fewer := item.mono (Nat.sub_le most 1) (Nat.sub_le bound 1)
        have others : Follows (most - 1) (bound - 1)
            (ByteScanner.announcedWithin mark bytes limit)
            (Scanner.announcedWithin mark chars depth) :=
          ⟨inner, fun text small => hypothesis fewer (by omega) (by omega) text small⟩
        refine (fewer.bind fun first => others.bind_pure (first :: ·)).on _ ?_
        exact Nat.le_sub_of_add_le small

theorem untilMark {close : Char} (item : Follows most bound bytes chars)
    (ascii : close.toNat < 128) (takes : Takes most chars) :
    Follows most bound (ByteScanner.untilMark close bytes) (Scanner.untilMark close chars) where
  advances text := untilWithin_advances close item.advances text.length text
  on text small := fun front tail split next fits =>
    (untilWithin ascii (item.mono small fits) (takes.mono small) (Nat.le_refl _)
      (Nat.le_refl _)).on text (Nat.le_refl _) front tail split next (Nat.le_refl _)

theorem announced {mark : Char} (item : Follows most bound bytes chars)
    (ascii : mark.toNat < 128) :
    Follows most bound (ByteScanner.announced mark bytes) (Scanner.announced mark chars) where
  advances text := announcedWithin_advances mark item.advances text.length text
  on text small := fun front tail split next fits =>
    (announcedWithin ascii (item.mono small fits) (Nat.le_refl _) (Nat.le_refl _)).on text
      (Nat.le_refl _) front tail split next (Nat.le_refl _)

end Follows

/-! ### Types -/

theorem exists_lead {c : Char} {rest : List Char} {raw : List UInt8}
    (next : raw.head? = (bytesOf (c :: rest)).head?) : ∃ more, raw = lead c :: more := by
  rw [head?_bytesOf_cons] at next
  exact List.head?_eq_some_iff.mp next

theorem contains_lead {marks : List Char} (ascii : ∀ mark ∈ marks, mark.toNat < 128) (c : Char) :
    (marks.map Char.toUInt8).contains (lead c) = marks.contains c := by
  rw [Bool.eq_iff_iff, List.contains_iff_mem, List.contains_iff_mem, List.mem_map]
  constructor
  · rintro ⟨mark, inside, same⟩
    rwa [(lead_eq_iff (ascii mark inside)).mp same.symm]
  · exact fun inside => ⟨c, inside, (lead_of_ascii (ascii c inside)).symm⟩

/-- No letter of a primitive type is mistaken for the first byte of another character. -/
theorem ofLetter?_lead (c : Char) :
    PrimitiveType.ofLetter? (Char.ofNat (lead c).toNat) = PrimitiveType.ofLetter? c := by
  by_cases ascii : c.toNat < 128
  · rw [lead_of_ascii ascii, toNat_toUInt8 ascii, Char.ofNat_toNat]
  · have wide := Nat.le_of_not_lt ascii
    have letters (type : PrimitiveType) : type.letter.toNat < 128 := by cases type <;> decide
    have absent : PrimitiveType.ofLetter? c = none := by
      refine Option.eq_none_iff_forall_ne_some.mpr fun type found => ?_
      have letter := letters type
      rw [PrimitiveType.ofLetter?_eq_some.mp found] at letter
      exact ascii letter
    rw [absent]
    refine Option.eq_none_iff_forall_ne_some.mpr fun type found => ?_
    have letter := letters type
    rw [PrimitiveType.ofLetter?_eq_some.mp found] at letter
    have above := UInt8.le_iff_toNat_le.mp (le_lead_of_not_ascii wide)
    have below := (lead c).toNat_lt
    have valid : (lead c).toNat.isValidChar := .inl (by omega)
    rw [Char.ofNat, dif_pos valid] at letter
    have same : (Char.ofNatAux (lead c).toNat valid).toNat = (lead c).toNat := rfl
    have bound : (0xC0 : UInt8).toNat = 192 := rfl
    omega

section Inner

variable {most bound : Nat} {bytes : ByteScanner JavaType} {chars : Scanner JavaType}

theorem typeArgument_follows (reference : Follows most bound bytes chars) :
    Follows most bound (ByteScanner.typeArgument bytes) (scanTypeArgument chars) :=
  .choice (by decide) (.pure _) <| .choice (by decide) (reference.bind_pure _) <|
    .choice (by decide) (reference.bind_pure _) (reference.bind_pure _)

theorem typeArguments_follows (reference : Follows most bound bytes chars)
    (accepts : AcceptsReferences chars most) :
    Follows most bound (ByteScanner.typeArguments bytes) (scanTypeArguments chars) := by
  have takes : Takes most (scanTypeArgument chars) :=
    takes_of_accepts (scanTypeArgument_accepts accepts) ArgumentTree.begins
  have argument := typeArgument_follows reference
  refine .choice (by decide) ((argument.untilMark (by decide) takes).bind fun arguments => ?_)
    (.pure [])
  cases arguments with
  | nil => exact .throw .emptyArguments
  | cons first rest => exact .pure (first :: rest)

theorem classSegment_follows (reference : Follows most bound bytes chars)
    (accepts : AcceptsReferences chars most) :
    Follows most bound (ByteScanner.classSegment bytes) (scanClassSegment chars) :=
  (Follows.identifier (ascii_of_all rfl)).bind fun name =>
    (typeArguments_follows reference accepts).bind_pure fun arguments => (name, arguments)

theorem classType_follows (reference : Follows most bound bytes chars)
    (accepts : AcceptsReferences chars most) :
    Follows most bound (ByteScanner.classType bytes) (scanClassType chars) := by
  have segment := classSegment_follows reference accepts
  refine segment.bind fun first => (segment.announced (by decide)).bind fun rest => ?_
  exact (Follows.expect (by decide) _).bind_pure fun _ => JavaType.ofSegments first rest

theorem typeVariable_follows :
    Follows most bound ByteScanner.typeVariable scanTypeVariable :=
  (Follows.identifier (ascii_of_all rfl)).bind fun name =>
    (Follows.expect (by decide) _).bind_pure fun _ => JavaType.typeVariable name

theorem fieldTypeWith_follows (reference : Follows most bound bytes chars) :
    Follows most bound (ByteScanner.fieldTypeWith bytes) (scanFieldTypeWith chars) := by
  have ascii : ∀ mark ∈ referenceMarks, mark.toNat < 128 := ascii_of_all rfl
  have advances : Advances (scanFieldTypeWith chars) := by
    intro text
    cases text with
    | nil => exact List.suffix_refl []
    | cons c rest =>
      rw [scanFieldTypeWith]
      split
      · exact reference.advances _
      · split
        · exact List.suffix_refl _
        · split
          · exact List.suffix_cons c rest
          · exact List.suffix_refl _
  refine ⟨advances, fun text small => ?_⟩
  cases text with
  | nil => exact (FollowsOn.nil_iff advances).mpr rfl
  | cons c rest =>
    by_cases marked : referenceMarks.contains c = true
    · refine .peek (if_pos marked) (fun raw next => ?_) (reference.on _ small)
      obtain ⟨more, rfl⟩ := exists_lead next
      exact if_pos ((contains_lead ascii c).trans marked)
    · have unmarked : ¬ (referenceMarks.map Char.toUInt8).contains (lead c) = true :=
        (contains_lead ascii c).symm ▸ marked
      by_cases void : c = 'V'
      · refine .peek ((if_neg marked).trans (if_pos void)) (fun raw next => ?_)
          (.throw .misplacedVoid)
        obtain ⟨more, rfl⟩ := exists_lead next
        exact (if_neg unmarked).trans (if_pos ((lead_eq_iff (by decide)).mpr void))
      · have valued : ¬ lead c = 'V'.toUInt8 := mt (lead_eq_iff (by decide)).mp void
        have letter := ofLetter?_lead c
        cases found : PrimitiveType.ofLetter? c with
        | none =>
          rw [found] at letter
          refine .peek ?_ (fun raw next => ?_) (.throw .unknownTag)
          · rw [scanFieldTypeWith, if_neg marked, if_neg void, found]
            rfl
          · obtain ⟨more, rfl⟩ := exists_lead next
            rw [ByteScanner.fieldTypeWith, if_neg unmarked, if_neg valued, letter]
            rfl
        | some type =>
          rw [found] at letter
          have narrow : c.toNat < 128 := by
            rw [← PrimitiveType.ofLetter?_eq_some.mp found]
            cases type <;> decide
          rw [lead_of_ascii narrow] at letter unmarked valued
          refine .step narrow (pure_advances _ rest) ?_ (fun raw => ?_)
            (.pure (JavaType.primitive type))
          · rw [scanFieldTypeWith, if_neg marked, if_neg void, found]
            rfl
          · rw [ByteScanner.fieldTypeWith, if_neg unmarked, if_neg valued, letter]
            rfl

end Inner

theorem scanReferenceWithin_of_other {depth : Nat} {c : Char} (isClass : c ≠ 'L')
    (isVariable : c ≠ 'T') (isArray : c ≠ '[') (rest : List Char) :
    scanReferenceWithin (depth + 1) (c :: rest) = .error .notAReference (c :: rest) := by
  unfold scanReferenceWithin
  dsimp only
  split
  · rename_i same
    cases same
  · rename_i same
    cases same
    exact absurd rfl isClass
  · rename_i same
    cases same
    exact absurd rfl isVariable
  · rename_i same
    cases same
    exact absurd rfl isArray
  · rfl

theorem referenceWithin_nil {bound depth : Nat} (limit : Nat)
    (advances : Advances (scanReferenceWithin depth)) :
    FollowsOn bound (ByteScanner.referenceWithin limit) (scanReferenceWithin depth) [] := by
  rw [FollowsOn.nil_iff advances]
  cases depth <;> cases limit <;> rfl

theorem scanReferenceWithin_advances (depth : Nat) : Advances (scanReferenceWithin depth) := by
  induction depth with
  | zero => exact throw_advances .unexpectedEnd
  | succ depth hypothesis =>
    -- On no bytes at all the types inside are followed at once, and what is built of them
    -- advances because it is followed.
    have inner : Follows depth 0 (ByteScanner.referenceWithin 0) (scanReferenceWithin depth) := by
      refine ⟨hypothesis, fun text _ => ?_⟩
      cases text with
      | nil => exact referenceWithin_nil 0 hypothesis
      | cons c rest => exact .of_zero
    intro text
    unfold scanReferenceWithin
    dsimp only
    split
    · exact List.suffix_refl []
    · have type := classType_follows inner (scanReferenceWithin_accepts depth)
      exact (type.advances _).trans (List.suffix_cons _ _)
    · have typeName : Follows 0 0 ByteScanner.typeVariable scanTypeVariable :=
        typeVariable_follows
      exact (typeName.advances _).trans (List.suffix_cons _ _)
    · have component := (fieldTypeWith_follows inner).map JavaType.array
      exact (component.advances _).trans (List.suffix_cons _ _)
    · exact List.suffix_refl _

/-- A reference type takes a character before the types inside of it are read, so that the
bounds on the depth are kept. -/
theorem referenceWithin_follows {most bound depth limit : Nat} (enough : most ≤ depth)
    (within : bound ≤ limit) :
    Follows most bound (ByteScanner.referenceWithin limit) (scanReferenceWithin depth) := by
  refine ⟨scanReferenceWithin_advances depth, fun text small => ?_⟩
  induction depth generalizing most bound limit text with
  | zero =>
    cases List.length_eq_zero_iff.mp (Nat.le_zero.mp (Nat.le_trans small enough))
    exact referenceWithin_nil limit (scanReferenceWithin_advances 0)
  | succ depth hypothesis =>
    cases text with
    | nil => exact referenceWithin_nil limit (scanReferenceWithin_advances (depth + 1))
    | cons c rest =>
      cases limit with
      | zero =>
        cases Nat.le_zero.mp within
        exact .of_zero
      | succ limit =>
        have inner : Follows (most - 1) (bound - 1) (ByteScanner.referenceWithin limit)
            (scanReferenceWithin depth) :=
          ⟨scanReferenceWithin_advances depth,
            fun text small => hypothesis (by omega) (by omega) text small⟩
        have accepts : AcceptsReferences (scanReferenceWithin depth) (most - 1) :=
          fun chars few => scanReferenceWithin_accepts depth chars (by omega)
        have behind : rest.length ≤ most - 1 := Nat.le_sub_of_add_le small
        have type := classType_follows inner accepts
        have typeName : Follows (most - 1) (bound - 1) ByteScanner.typeVariable
            scanTypeVariable := typeVariable_follows
        have component := (fieldTypeWith_follows inner).map JavaType.array
        by_cases isClass : c = 'L'
        · subst isClass
          exact .step (by decide) (type.advances rest) rfl (fun raw => rfl) (type.on rest behind)
        by_cases isVariable : c = 'T'
        · subst isVariable
          exact .step (by decide) (typeName.advances rest) rfl (fun raw => rfl)
            (typeName.on rest behind)
        by_cases isArray : c = '['
        · subst isArray
          exact .step (by decide) (component.advances rest) rfl (fun raw => rfl)
            (component.on rest behind)
        refine .peek (scanReferenceWithin_of_other isClass isVariable isArray rest)
          (fun raw next => ?_) (.throw .notAReference)
        obtain ⟨more, rfl⟩ := exists_lead next
        have different {mark : Char} (ascii : mark.toNat < 128) (other : c ≠ mark) :
            lead c ≠ mark.toUInt8 := mt (lead_eq_iff ascii).mp other
        exact (if_neg (different (by decide) isClass)).trans
          ((if_neg (different (by decide) isVariable)).trans
            (if_neg (different (by decide) isArray)))

variable {most bound : Nat}

theorem reference_follows : Follows most bound ByteScanner.reference scanReference where
  advances text :=
    (referenceWithin_follows (Nat.le_refl text.length) (Nat.le_refl 0)).advances text
  on text _ := fun front tail split next _ =>
    (referenceWithin_follows (Nat.le_refl _) (Nat.le_refl _)).on text (Nat.le_refl _) front tail
      split next (Nat.le_refl _)

theorem fieldType_follows : Follows most bound ByteScanner.fieldType scanFieldType :=
  fieldTypeWith_follows reference_follows

theorem takes_fieldType : Takes most scanFieldType :=
  takes_of_accepts (scanFieldType_accepts most) FieldTree.begins

/-! ### Signatures of methods -/

theorem classBound_follows : Follows most bound ByteScanner.classBound scanClassBound := by
  have reference : Follows most bound (some <$> ByteScanner.reference) (some <$> scanReference) :=
    reference_follows.map some
  have read {c : Char} (colon : c ≠ ':') (close : c ≠ '>') (rest : List Char) :
      scanClassBound (c :: rest) = (some <$> scanReference) (c :: rest) := by
    unfold scanClassBound
    split
    · rename_i same
      cases same
      exact absurd rfl colon
    · rename_i same
      cases same
      exact absurd rfl close
    · rfl
  refine ⟨fun text => ?_, fun text small => ?_⟩
  · unfold scanClassBound
    split
    · exact List.suffix_refl _
    · exact List.suffix_refl _
    · exact reference.advances _
  · cases text with
    | nil =>
      refine .peek rfl (fun raw next => ?_) (reference.on [] small)
      rw [List.head?_eq_none_iff.mp next]
      rfl
    | cons c rest =>
      have unbounded (mark : c = ':' ∨ c = '>') : FollowsOn bound ByteScanner.classBound
          scanClassBound (c :: rest) := by
        refine .peek ?_ (fun raw next => ?_) (.pure none)
        · rcases mark with rfl | rfl <;> rfl
        · obtain ⟨more, rfl⟩ := exists_lead next
          refine if_pos (mark.imp (fun same => ?_) fun same => ?_)
          · exact (lead_eq_iff (by decide)).mpr same
          · exact (lead_eq_iff (by decide)).mpr same
      by_cases colon : c = ':'
      · exact unbounded (.inl colon)
      by_cases close : c = '>'
      · exact unbounded (.inr close)
      refine .peek (read colon close rest) (fun raw next => ?_) (reference.on _ small)
      obtain ⟨more, rfl⟩ := exists_lead next
      refine if_neg (not_or.mpr ⟨mt (lead_eq_iff (by decide)).mp colon, ?_⟩)
      exact mt (lead_eq_iff (by decide)).mp close

theorem typeParameter_follows : Follows most bound ByteScanner.typeParameter scanTypeParameter :=
  (Follows.identifier (ascii_of_all rfl)).bind fun name =>
    (Follows.expect (by decide) _).bind fun _ => classBound_follows.bind fun classBound =>
      (reference_follows.announced (by decide)).bind_pure fun interfaceBounds =>
        (⟨name, classBound, interfaceBounds⟩ : TypeParameter)

theorem takes_typeParameter : Takes most scanTypeParameter :=
  takes_of_accepts (scanTypeParameter_accepts most) ParameterTree.begins

theorem typeParameters_follows :
    Follows most bound ByteScanner.typeParameters scanTypeParameters :=
  .choice (by decide) (typeParameter_follows.untilMark (by decide) takes_typeParameter) (.pure [])

theorem result_follows : Follows most bound ByteScanner.result scanResult :=
  .choice (by decide) (.pure _) fieldType_follows

theorem methodSignature_follows :
    Follows most bound ByteScanner.methodSignature scanMethodSignature :=
  typeParameters_follows.bind fun parameters => (Follows.expect (by decide) _).bind fun _ =>
    (fieldType_follows.untilMark (by decide) takes_fieldType).bind fun arguments =>
      result_follows.bind fun result => (reference_follows.announced (by decide)).bind_pure
        fun throws => (⟨parameters, arguments, result, throws⟩ : MethodSignature)

end ClassMembers
