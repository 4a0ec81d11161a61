/-
This file proves what the parts of the scanner accept, without the bounds that
they are given. A scanner is said to accept trees by their texts: it succeeds on
exactly the characters that begin with the text of a tree, yields the value of the
tree and leaves the rest, of which the tree may demand something. Both loops turn
such a scanner of items into one of lists. That a tree is found in front of what
remains also says that no two trees can be found there with texts of different
lengths.
-/

import ClassMembers.Proofs.Sequencing
import ClassMembers.Proofs.Signature.Grammar

namespace ClassMembers.Scanner

open Sequencing

variable {α σ : Type}

/-! ### Marks and names -/

theorem eat_then {mark : Char} {first second : Scanner α} {rest : List Char} :
    (eat mark >>= fun found => if found = true then first else second) (mark :: rest) =
      first rest := by
  have eaten : eat mark (mark :: rest) = .ok true rest := if_pos rfl
  rw [bind_of_ok eaten, if_pos rfl]

theorem eat_else {mark : Char} {first second : Scanner α} {chars : List Char}
    (other : chars.head? ≠ some mark) :
    (eat mark >>= fun found => if found = true then first else second) chars = second chars := by
  have left : eat mark chars = .ok false chars := by
    cases chars with
    | nil => rfl
    | cons c rest => exact if_neg fun same => other (congrArg some same)
  rw [bind_of_ok left, if_neg Bool.false_ne_true]

theorem expect_eq_ok {mark : Char} {fault : SignatureFault} {chars rest : List Char} :
    expect mark fault chars = .ok () rest ↔ chars = mark :: rest := by
  by_cases next : chars.head? = some mark
  · obtain ⟨more, rfl⟩ := List.head?_eq_some_iff.mp next
    have passed : expect mark fault (mark :: more) = .ok () more := eat_then
    rw [passed]
    constructor
    · intro same
      cases same
      rfl
    · intro same
      cases same
      rfl
  · have stopped : expect mark fault chars = .error fault chars := eat_else next
    rw [stopped]
    constructor
    · intro same
      cases same
    · rintro rfl
      exact absurd rfl next

/-- A name goes on to the first stop or to the end. -/
theorem identifier_eq_ok {stops : List Char} {chars rest : List Char} {text : String} :
    identifier stops chars = .ok text rest ↔
      ∃ name : Identifier stops, chars = name.chars ++ rest ∧ name.text = text ∧
        ∀ c, rest.head? = some c → c ∈ stops := by
  unfold identifier
  constructor
  · intro done
    simp only at done
    split at done
    · cases done
    · rename_i present
      cases done
      refine ⟨⟨chars.takeWhile fun c => !stops.contains c, ?_, ?_⟩,
        List.takeWhile_append_dropWhile.symm, rfl, ?_⟩
      · intro empty
        exact present (List.isEmpty_iff.mpr empty)
      · intro c inside
        have holds := List.all_eq_true.mp List.all_takeWhile c inside
        simpa using holds
      · intro c next
        have stopped := List.head?_dropWhile_not (fun c => !stops.contains c) chars
        rw [next] at stopped
        simpa using stopped
  · rintro ⟨name, rfl, rfl, stopped⟩
    have free : ∀ c ∈ name.chars, (!stops.contains c) = true := by
      intro c inside
      simpa using name.free c inside
    have taken : rest.takeWhile (fun c => !stops.contains c) = [] := by
      cases rest with
      | nil => rfl
      | cons c more => exact List.takeWhile_cons_of_neg (by simpa using stopped c rfl)
    have dropped : rest.dropWhile (fun c => !stops.contains c) = rest := by
      cases rest with
      | nil => rfl
      | cons c more => exact List.dropWhile_cons_of_neg (by simpa using stopped c rfl)
    rw [List.takeWhile_append_of_pos free, List.dropWhile_append_of_pos free, taken, dropped,
      List.append_nil]
    simp only [List.isEmpty_iff, name.nonempty, if_false]
    rfl

/-! ### Scanners of trees -/

/-- A scanner succeeds, on no more characters than the bound, exactly where the
text of a tree comes first and what follows it is as the tree demands. -/
def Accepts (scanner : Scanner α) (bound : Nat) (text : σ → List Char) (value : σ → α)
    (demand : σ → List Char → Prop) : Prop :=
  ∀ chars : List Char, chars.length ≤ bound → ∀ result rest,
    scanner chars = .ok result rest ↔
      ∃ tree, chars = text tree ++ rest ∧ value tree = result ∧ demand tree rest

/-- What trees demand that stand one behind the other. -/
def Demanded (text : σ → List Char) (demand : σ → List Char → Prop) : List σ → List Char → Prop
  | [], _ => True
  | tree :: more, rest =>
    demand tree (more.flatMap text ++ rest) ∧ Demanded text demand more rest

theorem demanded_of_forall {text : σ → List Char} {demand : σ → List Char → Prop}
    (free : ∀ tree rest, demand tree rest) (trees : List σ) (rest : List Char) :
    Demanded text demand trees rest := by
  induction trees with
  | nil => trivial
  | cons tree more hypothesis => exact ⟨free tree _, hypothesis⟩

variable {scanner item : Scanner α} {bound : Nat} {text : σ → List Char} {value : σ → α}
  {demand : σ → List Char → Prop}

/-- Of two trees in front of the same characters both have the same text. -/
theorem Accepts.cancel (accepts : Accepts scanner bound text value demand) {first second : σ}
    {rest other : List Char} (small : (text first ++ rest).length ≤ bound)
    (same : text first ++ rest = text second ++ other) (here : demand first rest)
    (there : demand second other) : text first = text second ∧ rest = other := by
  have one := (accepts _ small _ _).mpr ⟨first, rfl, rfl, here⟩
  have two := (accepts _ small _ _).mpr ⟨second, same, rfl, there⟩
  rw [one] at two
  injection two with _ behind
  subst behind
  exact ⟨List.append_cancel_right same, rfl⟩

theorem Accepts.bind_pure_eq_ok {β : Type} (accepts : Accepts scanner bound text value demand)
    {chars rest : List Char} (small : chars.length ≤ bound) {next : α → β} {result : β} :
    (scanner >>= fun found => pure (next found)) chars = .ok result rest ↔
      ∃ tree, chars = text tree ++ rest ∧ next (value tree) = result ∧ demand tree rest := by
  rw [bind_eq_ok]
  constructor
  · rintro ⟨found, middle, here, same⟩
    cases same
    obtain ⟨tree, split, rfl, demanded⟩ := (accepts chars small found rest).mp here
    exact ⟨tree, split, rfl, demanded⟩
  · rintro ⟨tree, split, rfl, demanded⟩
    exact ⟨value tree, rest, (accepts chars small _ rest).mpr ⟨tree, split, rfl, demanded⟩, rfl⟩

/-! ### Loops -/

/-- One item in front of a list of others. -/
theorem Accepts.cons_eq_ok (accepts : Accepts item bound text value demand)
    {chars rest : List Char} (small : chars.length ≤ bound) {others : Scanner (List α)}
    {results : List α} :
    (item >>= fun first => others >>= fun more => pure (first :: more)) chars =
        .ok results rest ↔
      ∃ tree middle more, chars = text tree ++ middle ∧ demand tree middle ∧
        others middle = .ok more rest ∧ value tree :: more = results := by
  rw [bind_eq_ok]
  constructor
  · rintro ⟨first, middle, here, behind⟩
    obtain ⟨more, left, done, same⟩ := bind_eq_ok.mp behind
    cases same
    obtain ⟨tree, split, rfl, demanded⟩ := (accepts chars small first middle).mp here
    exact ⟨tree, middle, more, split, demanded, done, rfl⟩
  · rintro ⟨tree, middle, more, split, demanded, done, rfl⟩
    refine ⟨value tree, middle, (accepts chars small _ middle).mpr ⟨tree, split, rfl, demanded⟩, ?_⟩
    rw [bind_of_ok done]
    rfl

/-- Nothing is accepted where nothing is left, if no text is empty. -/
theorem Accepts.nil_ne_ok (accepts : Accepts item bound text value demand)
    (present : ∀ tree, text tree ≠ []) (result : α) (rest : List Char) :
    item [] ≠ .ok result rest := by
  intro done
  obtain ⟨tree, split, -⟩ := (accepts [] (Nat.zero_le bound) result rest).mp done
  exact present tree (List.append_eq_nil_iff.mp split.symm).1

/-- Where the closing mark comes next there is no item in front of it. -/
theorem closed_iff {close : Char} (opens : ∀ tree, ∃ c more, text tree = c :: more ∧ c ≠ close)
    {chars rest : List Char} {results : List α} :
    .ok [] chars = (.ok results rest : EStateM.Result SignatureFault (List Char) (List α)) ↔
      ∃ trees : List σ, close :: chars = trees.flatMap text ++ close :: rest ∧
        trees.map value = results ∧ Demanded text demand trees (close :: rest) := by
  constructor
  · intro done
    cases done
    exact ⟨[], rfl, rfl, trivial⟩
  · rintro ⟨trees, split, rfl, -⟩
    cases trees with
    | nil =>
      cases split
      rfl
    | cons tree others =>
      obtain ⟨c, front, begins, different⟩ := opens tree
      rw [List.flatMap_cons, begins] at split
      injection split with same
      exact absurd same.symm different

theorem untilWithin_eq_ok {close : Char} {depth : Nat}
    (accepts : Accepts item bound text value demand)
    (opens : ∀ tree, ∃ c more, text tree = c :: more ∧ c ≠ close)
    {chars rest : List Char} (small : chars.length ≤ bound) (enough : chars.length ≤ depth)
    {results : List α} :
    untilWithin close item depth chars = .ok results rest ↔
      ∃ trees : List σ, chars = trees.flatMap text ++ close :: rest ∧ trees.map value = results ∧
        Demanded text demand trees (close :: rest) := by
  have present : ∀ tree, text tree ≠ [] := by
    intro tree
    obtain ⟨c, more, begins, -⟩ := opens tree
    rw [begins]
    exact List.cons_ne_nil c more
  -- The bound is met only where nothing is left, and there an item fails.
  induction depth generalizing chars results with
  | zero =>
    cases List.length_eq_zero_iff.mp (Nat.le_zero.mp enough)
    constructor
    · intro done
      obtain ⟨first, middle, here, -⟩ := bind_eq_ok.mp done
      exact absurd here (accepts.nil_ne_ok present first middle)
    · rintro ⟨trees, split, -⟩
      cases (List.append_eq_nil_iff.mp split.symm).2
  | succ depth hypothesis =>
    by_cases closing : chars.head? = some close
    · obtain ⟨more, rfl⟩ := List.head?_eq_some_iff.mp closing
      have closed : untilWithin close item (depth + 1) (close :: more) = .ok [] more := eat_then
      rw [closed]
      exact closed_iff opens
    · have step : untilWithin close item (depth + 1) chars =
          (item >>= fun first => untilWithin close item depth >>= fun more =>
            pure (first :: more)) chars := eat_else closing
      have shorter : ∀ tree middle, chars = text tree ++ middle → middle.length < chars.length := by
        intro tree middle split
        have positive := List.length_pos_iff.mpr (present tree)
        rw [split, List.length_append]
        omega
      rw [step, accepts.cons_eq_ok small]
      constructor
      · rintro ⟨tree, middle, more, split, demanded, done, rfl⟩
        have less := shorter tree middle split
        obtain ⟨trees, splitMore, rfl, demandedMore⟩ :=
          (hypothesis (by omega) (by omega)).mp done
        refine ⟨tree :: trees, ?_, rfl, ?_, demandedMore⟩
        · rw [split, splitMore, List.flatMap_cons, List.append_assoc]
        · rwa [← splitMore]
      · rintro ⟨trees, split, rfl, demanded⟩
        cases trees with
        | nil =>
          rw [split] at closing
          exact absurd rfl closing
        | cons tree others =>
          rw [List.flatMap_cons, List.append_assoc] at split
          have less := shorter tree _ split
          have behind := (hypothesis (by omega) (by omega)).mpr ⟨others, rfl, rfl, demanded.2⟩
          exact ⟨tree, _, _, split, demanded.1, behind, rfl⟩

/-- The items up to a closing mark, none of which begins with that mark. -/
theorem untilMark_eq_ok {close : Char} (accepts : Accepts item bound text value demand)
    (opens : ∀ tree, ∃ c more, text tree = c :: more ∧ c ≠ close)
    {chars rest : List Char} (small : chars.length ≤ bound) {results : List α} :
    untilMark close item chars = .ok results rest ↔
      ∃ trees : List σ, chars = trees.flatMap text ++ close :: rest ∧ trees.map value = results ∧
        Demanded text demand trees (close :: rest) :=
  untilWithin_eq_ok accepts opens small (Nat.le_refl _)

/-- Where the mark does not come next no item is announced. -/
theorem announced_none {mark : Char} {chars rest : List Char} {results : List α}
    (absent : chars.head? ≠ some mark) :
    .ok [] chars = (.ok results rest : EStateM.Result SignatureFault (List Char) (List α)) ↔
      ∃ trees : List σ, chars = (trees.flatMap fun tree => mark :: text tree) ++ rest ∧
        trees.map value = results ∧
        Demanded (fun tree => mark :: text tree) demand trees rest ∧ rest.head? ≠ some mark := by
  constructor
  · intro done
    cases done
    exact ⟨[], rfl, rfl, trivial, absent⟩
  · rintro ⟨trees, split, rfl, -⟩
    cases trees with
    | nil =>
      cases split
      rfl
    | cons tree others =>
      rw [split] at absent
      exact absurd rfl absent

theorem announcedWithin_eq_ok {mark : Char} {depth : Nat}
    (accepts : Accepts item bound text value demand) {chars rest : List Char}
    (small : chars.length ≤ bound) (enough : chars.length ≤ depth) {results : List α} :
    announcedWithin mark item depth chars = .ok results rest ↔
      ∃ trees : List σ, chars = (trees.flatMap fun tree => mark :: text tree) ++ rest ∧
        trees.map value = results ∧
        Demanded (fun tree => mark :: text tree) demand trees rest ∧ rest.head? ≠ some mark := by
  induction depth generalizing chars results with
  | zero =>
    cases List.length_eq_zero_iff.mp (Nat.le_zero.mp enough)
    exact announced_none nofun
  | succ depth hypothesis =>
    by_cases marked : chars.head? = some mark
    · obtain ⟨chars, rfl⟩ := List.head?_eq_some_iff.mp marked
      have step : announcedWithin mark item (depth + 1) (mark :: chars) =
          (item >>= fun first => announcedWithin mark item depth >>= fun more =>
            pure (first :: more)) chars := eat_then
      have shorter : ∀ tree middle, chars = text tree ++ middle →
          middle.length ≤ chars.length := by
        intro tree middle split
        rw [split, List.length_append]
        exact Nat.le_add_left _ _
      rw [List.length_cons] at small enough
      rw [step, accepts.cons_eq_ok (Nat.le_of_succ_le small)]
      constructor
      · rintro ⟨tree, middle, more, split, demanded, done, rfl⟩
        have less := shorter tree middle split
        obtain ⟨trees, splitMore, rfl, demandedMore, last⟩ :=
          (hypothesis (by omega) (by omega)).mp done
        refine ⟨tree :: trees, ?_, rfl, ⟨?_, demandedMore⟩, last⟩
        · rw [split, splitMore, List.flatMap_cons, List.append_assoc, List.cons_append]
        · rwa [← splitMore]
      · rintro ⟨trees, split, rfl, demanded, last⟩
        cases trees with
        | nil =>
          rw [List.flatMap_nil, List.nil_append] at split
          rw [← split] at last
          exact absurd rfl last
        | cons tree others =>
          rw [List.flatMap_cons, List.append_assoc, List.cons_append] at split
          injection split with _ split
          have less := shorter tree _ split
          have behind := (hypothesis (by omega) (by omega)).mpr
            ⟨others, rfl, rfl, demanded.2, last⟩
          exact ⟨tree, _, _, split, demanded.1, behind, rfl⟩
    · have stopped : announcedWithin mark item (depth + 1) chars = .ok [] chars := eat_else marked
      rw [stopped]
      exact announced_none marked

/-- The items that a mark announces, behind which there is no further mark. -/
theorem announced_eq_ok {mark : Char} (accepts : Accepts item bound text value demand)
    {chars rest : List Char} (small : chars.length ≤ bound) {results : List α} :
    announced mark item chars = .ok results rest ↔
      ∃ trees : List σ, chars = (trees.flatMap fun tree => mark :: text tree) ++ rest ∧
        trees.map value = results ∧
        Demanded (fun tree => mark :: text tree) demand trees rest ∧ rest.head? ≠ some mark :=
  announcedWithin_eq_ok accepts small (Nat.le_refl _)

end ClassMembers.Scanner
