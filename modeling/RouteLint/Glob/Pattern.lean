/-!
# File patterns

A pattern is a path whose parts may hold wildcards.  `*` stands for any characters of one part,
`?` for one character, `[abc]`, `[a-z]` and `[!abc]` for one character of a set or outside it,
and a part `**` for any number of parts.  A bracket that is never closed stands for itself.

The front of a pattern up to its first wildcard is an ordinary path and is kept as one.

## Main definitions

* `Glob.Piece`, `Glob.pieces` — the pieces of one part of a pattern.
* `Glob.matches` — whether a name matches the pieces of a part.
* `Glob.Segment`, `Glob.Pattern`, `Glob.Pattern.parse` — patterns.
-/

namespace RouteLint.Glob

/-! ### One part -/

/-- Characters from `lo` to `hi`. -/
structure Interval where
  /-- The first character. -/
  lo : Char
  /-- The last character. -/
  hi : Char
  deriving DecidableEq, Repr

/-- A piece of one part of a pattern. -/
inductive Piece where
  /-- A character that stands for itself. -/
  | char (c : Char)
  /-- Any one character. -/
  | any
  /-- Any characters, also none. -/
  | star
  /-- One character of a set, or outside it. -/
  | oneOf (negated : Bool) (intervals : List Interval)
  deriving DecidableEq, Repr

/-- Whether a piece other than `star` matches a character. -/
def Piece.accepts : Piece → Char → Bool
  | .char d, c => c = d
  | .any, _ => true
  | .star, _ => false
  | .oneOf negated intervals, c => (intervals.any fun i => i.lo ≤ c && c ≤ i.hi) != negated

/-- The intervals of the inside of a bracket: `a-z` is a range when something follows the
hyphen, and a range that runs backwards is empty. -/
def intervals : List Char → List Interval
  | a :: '-' :: b :: r => if a ≤ b then ⟨a, b⟩ :: intervals r else intervals r
  | a :: r => ⟨a, a⟩ :: intervals r
  | [] => []

/-- The inside of a bracket without the ranges at its front that run backwards. -/
def forward : List Char → List Char
  | a :: '-' :: b :: r => if a ≤ b then a :: '-' :: b :: r else forward r
  | cs => cs

/-- The set that a bracket writes.  An exclamation mark that comes to the front because the ranges
before it run backwards negates the set as well, and if a range started there, only its end
remains. -/
def bracketed (negated : Bool) (inside : List Char) : Piece :=
  match negated, forward inside with
  | false, '!' :: '-' :: b :: r => .oneOf true (⟨'-', '-'⟩ :: ⟨b, b⟩ :: intervals r)
  | false, '!' :: r => .oneOf true (intervals r)
  | _, _ => .oneOf negated (intervals inside)

/-- What stands before the next closing bracket, and what follows it. -/
def closed (cs : List Char) : Option (List Char × List Char) :=
  match cs.span (· ≠ ']') with
  | (inside, ']' :: r) => some (inside, r)
  | _ => none

/-- The inside of a bracket and what follows it; a closing bracket right at the front belongs to
the inside. -/
def insideOf : List Char → Option (List Char × List Char)
  | ']' :: r => (closed r).map fun (inside, rest) => (']' :: inside, rest)
  | cs => closed cs

/-- Whether a bracket is marked with an exclamation mark, its inside and what follows it. -/
def bracket : List Char → Option (Bool × List Char × List Char)
  | '!' :: r => (insideOf r).map (true, ·)
  | cs => (insideOf cs).map (false, ·)

/-- The pieces of one part, at most `fuel` of them. -/
def piecesFrom : Nat → List Char → List Piece
  | 0, _ => []
  | _, [] => []
  | fuel + 1, '*' :: r => .star :: piecesFrom fuel r
  | fuel + 1, '?' :: r => .any :: piecesFrom fuel r
  | fuel + 1, '[' :: r =>
    match bracket r with
    | some (negated, inside, r') => bracketed negated inside :: piecesFrom fuel r'
    | none => .char '[' :: piecesFrom fuel r
  | fuel + 1, c :: r => .char c :: piecesFrom fuel r

/-- The pieces of one part of a pattern. -/
def pieces (part : String) : List Piece := piecesFrom part.length part.toList

/-- Whether some tail of the characters passes a test. -/
def anyTail (test : List Char → Bool) : List Char → Bool
  | [] => test []
  | c :: cs => test (c :: cs) || anyTail test cs

/-- Whether characters match pieces. -/
def matchesChars : List Piece → List Char → Bool
  | [], cs => cs.isEmpty
  | .star :: ps, cs => anyTail (matchesChars ps) cs
  | p :: ps, c :: cs => p.accepts c && matchesChars ps cs
  | _ :: _, [] => false

/-- Whether a name starts with a dot. -/
def isHidden (name : String) : Bool := name.toList.head? == some '.'

/-- Whether a name matches one part of a pattern.  A name that starts with a dot only matches a
part that does so too. -/
def admits (part name : String) : Bool :=
  (isHidden part || !isHidden name) && matchesChars (pieces part) name.toList

/-! ### Patterns -/

/-- Whether a text holds a wildcard. -/
def hasWildcard (s : String) : Bool := s.toList.any fun c => c = '*' || c = '?' || c = '['

/-- One segment of a pattern, from its first wildcard on. -/
inductive Segment where
  /-- A part without wildcards. -/
  | literal (name : String)
  /-- A part with wildcards. -/
  | wild (part : String)
  /-- `**`: any number of parts, none hidden. -/
  | anyDepth
  /-- The empty part after a final slash: a directory. -/
  | directory
  deriving DecidableEq, Repr

/-- A pattern: the path up to its first wildcard, and the segments from there on. -/
structure Pattern where
  /-- The front without wildcards, as it is written. -/
  base : String
  /-- The segments after it. -/
  segments : List Segment
  deriving DecidableEq, Repr

/-- The segment a part is, `last` when nothing follows it. -/
def segmentOf (part : String) : Segment :=
  if part = "**" then .anyDepth
  else if hasWildcard part then .wild part
  else if part = "" then .directory
  else .literal part

/-- Split at the last slash: what stands before it, without slashes at its end unless there is
nothing else, and what stands after it. -/
def splitLast (cs : List Char) : List Char × List Char :=
  let after := (cs.reverse.takeWhile (· ≠ '/')).reverse
  let before := cs.take (cs.length - after.length)
  if before.all (· = '/') then (before, after)
  else ((before.reverse.dropWhile (· = '/')).reverse, after)

/-- Peel segments off the end of a pattern until what is left has no wildcard. -/
def peel : Nat → List Char → List Segment → Pattern
  | 0, cs, later => ⟨String.ofList cs, later⟩
  | fuel + 1, cs, later =>
    if hasWildcard (String.ofList cs) then
      let (before, after) := splitLast cs
      peel fuel before (segmentOf (String.ofList after) :: later)
    else ⟨String.ofList cs, later⟩

/-- The pattern a text writes.  One without wildcards that ends with a slash names a directory. -/
def Pattern.parse (s : String) : Pattern :=
  let cs := s.toList
  if !hasWildcard s && cs.getLast? == some '/' then
    ⟨String.ofList (splitLast cs).1, [.directory]⟩
  else peel (s.length + 1) cs []

end RouteLint.Glob
