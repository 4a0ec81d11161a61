/-
This file holds the version of a class file. Versions are ordered by their major
number and then by their minor one, and the order matters in one place: generic
signatures and annotations exist from version 49.0 on.
-/

namespace ClassMembers

/-- The version of a class file. -/
structure Version where
  major : UInt16
  minor : UInt16
  deriving DecidableEq

namespace Version

/-- A version precedes another or equals it: by the major number first. -/
def atMost (first second : Version) : Bool :=
  first.major < second.major || (first.major = second.major && first.minor ≤ second.minor)

/-- The first version with generic signatures and annotations. -/
def firstGeneric : Version := ⟨49, 0⟩

/-- Whether generic signatures and annotations have a meaning in this version. -/
def supportsGenerics (version : Version) : Bool :=
  firstGeneric.atMost version

/-- The two numbers with a point between them. -/
def text (version : Version) : String :=
  toString version.major.toNat ++ "." ++ toString version.minor.toNat

/-- The minor number never decides: generics begin with a minor number of zero. -/
theorem supportsGenerics_iff (version : Version) :
    version.supportsGenerics = true ↔ 49 ≤ version.major.toNat := by
  have bound := version.minor.toNat_lt
  simp [supportsGenerics, atMost, firstGeneric, UInt16.lt_iff_toNat_lt, UInt16.le_iff_toNat_le,
    ← UInt16.toNat_inj]
  omega

end Version

end ClassMembers
