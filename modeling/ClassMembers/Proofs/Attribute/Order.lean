/-
This file proves that the order of attributes does not matter. An index whose names are all
different holds its attributes in the order in which they were added, and each question for
a name has the same answer in every order. Only the annotations of all parameters are listed
in the order of the index, and they are the same list rearranged. In a table of attributes
as it is written each attribute is framed, so whether it decodes, and to what, does not
depend on the attributes around it.
-/

import ClassMembers.Proofs.Attribute.Containment
import Mathlib.Data.List.Nodup
import Mathlib.Data.List.Perm.Basic

namespace ClassMembers

open Reader Sequencing

/-! ### An index in another order -/

namespace Attributes

variable {first second attributes : Attributes}

/-- The same attributes in another order, no two of which have the same name. -/
structure Rearranged (first second : Attributes) : Prop where
  permutes : first.entries.Perm second.entries
  distinct : first.names.Nodup

theorem Rearranged.names_nodup (rearranged : first.Rearranged second) : second.names.Nodup :=
  (rearranged.permutes.map Attribute.name).nodup_iff.mp rearranged.distinct

theorem name_of_get? {name : String} {entry : Attribute}
    (found : attributes.get? name = some entry) : entry.name = name := by
  unfold get? at found
  simpa using List.find?_some found

/-- If no name stands in an index twice, a name leads to the attribute that has it. -/
theorem get?_eq_some_iff (distinct : attributes.names.Nodup) {name : String} {entry : Attribute} :
    attributes.get? name = some entry ↔ entry ∈ attributes.entries ∧ entry.name = name := by
  constructor
  · exact fun found => ⟨List.mem_of_find?_eq_some found, name_of_get? found⟩
  · rintro ⟨inside, named⟩
    cases found : attributes.get? name with
    | none =>
      have missing := List.find?_eq_none.mp found entry inside
      exact absurd (decide_eq_true named) missing
    | some other =>
      have same : other.name = entry.name := (name_of_get? found).trans named.symm
      rw [List.inj_on_of_nodup_map distinct (List.mem_of_find?_eq_some found) inside same]

theorem Rearranged.get?_eq (rearranged : first.Rearranged second) (name : String) :
    first.get? name = second.get? name :=
  Option.ext fun entry => by
    rw [get?_eq_some_iff rearranged.distinct, get?_eq_some_iff rearranged.names_nodup,
      rearranged.permutes.mem_iff]

theorem Rearranged.erase (rearranged : first.Rearranged second) (name : String) :
    (first.erase name).Rearranged (second.erase name) where
  permutes := rearranged.permutes.filter _
  distinct := (List.filter_sublist.map Attribute.name).nodup rearranged.distinct

/-- The annotations of all parameters come in the order of the index. -/
theorem Rearranged.allParameterAnnotations (rearranged : first.Rearranged second) :
    first.allParameterAnnotations.Perm second.allParameterAnnotations :=
  rearranged.permutes.flatMap_right _

/-- The questions that have one answer each. -/
structure SameAnswers (first second : Attributes) : Prop where
  ofKind? : ∀ kind, first.ofKind? kind = second.ofKind? kind
  signature? : first.signature? = second.signature?
  constantValueIndex? : first.constantValueIndex? = second.constantValueIndex?
  code? : first.code? = second.code?
  exceptions? : first.exceptions? = second.exceptions?
  annotationDefault? : first.annotationDefault? = second.annotationDefault?
  annotations : first.annotations = second.annotations
  parameterAnnotations : first.parameterAnnotations = second.parameterAnnotations

/-- They have the same answers in every order. -/
theorem Rearranged.answers (rearranged : first.Rearranged second) : first.SameAnswers second := by
  have ofKind? : ∀ kind, first.ofKind? kind = second.ofKind? kind :=
    fun kind => rearranged.get?_eq kind.name
  constructor
  case ofKind? => exact ofKind?
  case parameterAnnotations =>
    funext position
    simp only [Attributes.parameterAnnotations, ofKind?]
  all_goals
    simp only [Attributes.signature?, Attributes.constantValueIndex?, Attributes.code?,
      Attributes.exceptions?, Attributes.annotationDefault?, Attributes.annotations, ofKind?]

/-! ### An index made of attributes of different names -/

theorem place_of_new {entry : Attribute} {entries : List Attribute}
    (new : entry.name ∉ entries.map Attribute.name) : place entry entries = entries ++ [entry] := by
  induction entries with
  | nil => rfl
  | cons head rest hypothesis =>
    rw [List.map_cons, List.mem_cons, not_or] at new
    rw [place, if_neg (Ne.symm new.1), hypothesis new.2, List.cons_append]

/-- Attributes of different names stay in order. -/
theorem entries_ofList {list : List Attribute} (distinct : (list.map Attribute.name).Nodup) :
    (ofList list).entries = list := by
  suffices added : ∀ attributes : Attributes,
      (attributes.entries ++ list |>.map Attribute.name).Nodup →
        (list.foldl insert attributes).entries = attributes.entries ++ list from added empty distinct
  induction list with
  | nil => exact fun attributes _ => (List.append_nil _).symm
  | cons entry rest hypothesis =>
    intro attributes different
    have new : entry.name ∉ attributes.entries.map Attribute.name := by
      intro known
      rw [List.map_append, List.nodup_append] at different
      exact different.2.2 _ known _ (by simp) rfl
    have placed : (attributes.insert entry).entries = attributes.entries ++ [entry] :=
      place_of_new new
    rw [List.foldl_cons, hypothesis (List.nodup_cons.mp distinct).2, placed, List.append_assoc]
    · rfl
    · rw [placed, List.append_assoc]
      exact different

theorem rearranged_ofList {list reordered : List Attribute} (permutes : list.Perm reordered)
    (distinct : (list.map Attribute.name).Nodup) : (ofList list).Rearranged (ofList reordered) where
  permutes := by
    rw [entries_ofList distinct,
      entries_ofList ((permutes.map Attribute.name).nodup_iff.mp distinct)]
    exact permutes
  distinct := nodup_names_ofList list

end Attributes

/-! ### Attributes as they are written -/

/-- An attribute as it is written: the index of its name and its body. -/
structure AttributeBlock where
  nameIndex : UInt16
  body : List UInt8
  short : body.length < 2 ^ 32

namespace AttributeBlock

variable {pool : Pool} {version : Version}

/-- The bytes of an attribute. -/
def bytes (block : AttributeBlock) : List UInt8 := attributeBytes block.nameIndex block.body

/-- The attribute that a block decodes to where it stands alone. -/
def decoded? (pool : Pool) (version : Version) (block : AttributeBlock) : Option Attribute :=
  ((decodeAttribute block.bytes pool version).map Prod.fst).toOption

/-- Two blocks have different names, unless one of them has no name. -/
def OtherName (pool : Pool) (block other : AttributeBlock) : Prop :=
  ∀ name, pool.utf8 block.nameIndex = .ok name → pool.utf8 other.nameIndex ≠ .ok name

/-- What follows a block has no part in what it decodes to. -/
theorem decode_bytes_append (block : AttributeBlock) (rest : List UInt8) :
    decodeAttribute (block.bytes ++ rest) pool version =
      decodeAttribute block.bytes pool version := by
  cases named : pool.utf8 block.nameIndex with
  | ok name =>
    have alone : decodeAttribute (block.bytes ++ []) pool version = _ :=
      decodeAttribute_framed named block.short []
    rw [List.append_nil] at alone
    rw [alone]
    exact decodeAttribute_framed named block.short rest
  | error fault =>
    have alone := readAttributeHeader_of_unnamed named block.body []
    have followed := readAttributeHeader_of_unnamed named block.body rest
    rw [List.append_nil] at alone
    rw [bytes, decodeAttribute_of_header_error alone, decodeAttribute_of_header_error followed]

theorem decoded?_eq_some {block : AttributeBlock} {entry : Attribute}
    (alone : block.decoded? pool version = some entry) :
    pool.utf8 block.nameIndex = .ok entry.name ∧
      AttributeDecoder.Decodes decodeAttribute pool version block.bytes entry := by
  cases answer : decodeAttribute block.bytes pool version with
  | error fault =>
    rw [decoded?, answer] at alone
    cases alone
  | ok row =>
    rw [decoded?, answer] at alone
    cases alone
    cases named : pool.utf8 block.nameIndex with
    | error fault =>
      have header := readAttributeHeader_of_unnamed named block.body []
      rw [List.append_nil] at header
      rw [bytes, decodeAttribute_of_header_error header] at answer
      cases answer
    | ok name =>
      have contained : Attribute.Contained pool version name block.body
          (decodeAttribute (block.bytes ++ []) pool version) :=
        decodeAttribute_framed_contained named block.short []
      rw [List.append_nil, answer] at contained
      refine ⟨?_, fun rest => ?_⟩
      · cases contained with
        | typed known ofKind named => rw [named]
        | kept malformed => rfl
      · rw [decode_bytes_append, answer, bytes, length_attributeBytes]
        cases contained <;> rfl

theorem isSome_of_read {block : AttributeBlock} {rest left : List UInt8} {row : Attribute × Nat}
    (read : AttributeDecoder.read decodeAttribute pool version (block.bytes ++ rest) =
      .ok row left) :
    (block.decoded? pool version).isSome = true ∧ left = rest := by
  cases alone : block.decoded? pool version with
  | some entry =>
    have reads := decoder_reads (decoded?_eq_some alone).2 rest
    cases reads.symm.trans read
    exact ⟨rfl, rfl⟩
  | none =>
    rw [decoder_read_eq, decode_bytes_append] at read
    rw [decoded?] at alone
    cases answer : decodeAttribute block.bytes pool version with
    | error fault =>
      rw [answer] at read
      cases read
    | ok row =>
      rw [answer] at alone
      cases alone

/-- A table of blocks is read only if each of them decodes. -/
theorem isSome_of_times {blocks : List AttributeBlock} {rest left : List UInt8}
    {rows : List (Attribute × Nat)}
    (read : times blocks.length (AttributeDecoder.read decodeAttribute pool version)
      (blocks.flatMap bytes ++ rest) = .ok rows left) :
    ∀ block ∈ blocks, (block.decoded? pool version).isSome = true := by
  induction blocks generalizing rows left with
  | nil => exact fun block inside => nomatch inside
  | cons block others hypothesis =>
    rw [List.flatMap_cons, List.append_assoc] at read
    obtain ⟨row, middle, first, more⟩ := bind_eq_ok.mp read
    obtain ⟨behind, _, second, -⟩ := bind_eq_ok.mp more
    obtain ⟨decodes, rfl⟩ := isSome_of_read first
    exact List.forall_mem_cons.mpr ⟨decodes, hypothesis second⟩

/-- The attributes of blocks that decode are those that the bytes of the blocks hold. -/
theorem sequence_of_isSome {blocks : List AttributeBlock}
    (each : ∀ block ∈ blocks, (block.decoded? pool version).isSome = true) :
    Sequence (AttributeDecoder.Decodes decodeAttribute pool version) (blocks.flatMap bytes)
      (blocks.filterMap (decoded? pool version)) := by
  induction blocks with
  | nil => exact .nil
  | cons block others hypothesis =>
    obtain ⟨first, rest⟩ := List.forall_mem_cons.mp each
    obtain ⟨entry, decodes⟩ := Option.isSome_iff_exists.mp first
    rw [List.flatMap_cons, List.filterMap_cons_some decodes]
    exact .cons (decoded?_eq_some decodes).2 (hypothesis rest)

/-- Blocks of different names decode to attributes of different names. -/
theorem nodup_names_decoded {blocks : List AttributeBlock}
    (different : blocks.Pairwise (OtherName pool)) :
    ((blocks.filterMap (decoded? pool version)).map Attribute.name).Nodup := by
  rw [List.Nodup, List.pairwise_map, List.pairwise_filterMap]
  refine different.imp fun differ entry decoded other decodedOther same => ?_
  refine differ entry.name (decoded?_eq_some decoded).1 ?_
  rw [same]
  exact (decoded?_eq_some decodedOther).1

end AttributeBlock

end ClassMembers
