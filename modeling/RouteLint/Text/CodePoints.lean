/-!
# Texts as code points

A JSON document can spell half of a surrogate pair on its own.  Such a text is no `String`, so
texts read from JSON are sequences of code points.  Most of them are strings, and `toString?`
gives the string back.

## Main definitions

* `CodePoints` — a sequence of code points, surrogates included.
* `CodePoints.ofString`, `CodePoints.toString?` — strings among them.
* `CodePoints.shown` — the text for display, U+FFFD standing for a lone surrogate.
-/

namespace RouteLint

/-- A sequence of code points, surrogates included. -/
structure CodePoints where
  /-- The code points in order. -/
  points : List Nat
  deriving DecidableEq, Repr, Inhabited

namespace CodePoints

/-- The code points of a string. -/
def ofString (s : String) : CodePoints := ⟨s.toList.map Char.toNat⟩

/-- Whether a code point is half of a surrogate pair. -/
def isSurrogate (n : Nat) : Bool := 0xD800 ≤ n && n ≤ 0xDFFF

/-- The string with these code points, unless one of them is a surrogate. -/
def toString? (t : CodePoints) : Option String :=
  if t.points.any isSurrogate then none else some (String.ofList (t.points.map Char.ofNat))

/-- The text for display, with U+FFFD in place of a lone surrogate. -/
def shown (t : CodePoints) : String :=
  String.ofList (t.points.map fun n => if isSurrogate n then '\uFFFD' else Char.ofNat n)

end CodePoints

end RouteLint
