/-
This file holds internal names of classes. An internal name separates packages
by slashes and nested classes by dollar signs, as in `java/util/Map$Entry`; the
name in source code has points for both.
-/

import ClassMembers.Unicode.Letters

namespace ClassMembers

/-- What follows the last occurrence of a mark, or everything if there is none. -/
def afterLast (mark : Char) (chars : List Char) : List Char :=
  (chars.reverse.takeWhile fun c => c ≠ mark).reverse

/-- What precedes the last occurrence of a mark, or nothing if there is none. -/
def beforeLast (mark : Char) (chars : List Char) : List Char :=
  ((chars.reverse.dropWhile fun c => c ≠ mark).drop 1).reverse

/-- The internal name of a class or an interface. -/
structure ClassName where
  internal : String
  deriving DecidableEq

namespace ClassName

/-- The class at the root of all. -/
def object : ClassName := ⟨"java/lang/Object"⟩

/-- The package, with slashes: `java/util` for `java/util/Map$Entry`. -/
def packageName (name : ClassName) : String :=
  String.ofList (beforeLast '/' name.internal.toList)

/-- The name without package and enclosing classes: `Entry` for
`java/util/Map$Entry`. -/
def simpleName (name : ClassName) : String :=
  String.ofList (afterLast '$' (afterLast '/' name.internal.toList))

/-- The name in source code. -/
def text (name : ClassName) : String :=
  String.ofList (name.internal.toList.map fun c => if c = '/' ∨ c = '$' then '.' else c)

/-- What of the simple name can be part of an identifier. -/
def identifierPart (name : ClassName) : String :=
  String.ofList (name.simpleName.toList.filter Unicode.isAlphanumeric)

/-- Names are ordered by the code points of their characters, which is the order
of the bytes of their texts. -/
def atMost (first second : ClassName) : Bool := !(second.internal < first.internal)

end ClassName

end ClassMembers
