/-!
# Paths

A path is a root and a list of parts.  Empty parts and the part `.` carry no meaning and are
dropped when a path is read; the part `..` is kept, since what it leads to is a matter of the
disk.  A path that starts with exactly two slashes has a root of its own.

## Main definitions

* `Path.parse`, `Path.text` — reading and writing.
* `Path.join` — a path seen from another.
* `Path.name`, `Path.suffix`, `Path.stem`, `Path.parent` — pieces of a path.
* `Path.absolute` — the path with every `..` carried out, seen from a directory.
* `Path.le` — paths in order of their parts.
-/

namespace RouteLint

/-- Where a path starts. -/
inductive Path.Root where
  /-- At a directory that is not said. -/
  | relative
  /-- At the root directory. -/
  | slash
  /-- At the root written with two slashes. -/
  | twoSlashes
  deriving DecidableEq, Repr, Inhabited

/-- A path: its root and its parts. -/
structure Path where
  /-- Where the path starts. -/
  root : Path.Root
  /-- The parts from the root on; none is empty or `.`. -/
  parts : List String
  deriving DecidableEq, Repr, Inhabited

namespace Path

/-- The text of a root. -/
def Root.text : Root → String
  | .relative => ""
  | .slash => "/"
  | .twoSlashes => "//"

/-- Split a list of characters at every slash. -/
def splitSlash : List Char → List (List Char)
  | [] => [[]]
  | c :: cs =>
    if c = '/' then [] :: splitSlash cs
    else
      match splitSlash cs with
      | [] => [[c]]
      | w :: ws => (c :: w) :: ws

/-- The parts of a text that carry meaning. -/
def partsOf (s : String) : List String :=
  ((splitSlash s.toList).map String.ofList).filter fun p => p ≠ "" && p ≠ "."

/-- The path a text writes. -/
def parse (s : String) : Path :=
  let root :=
    match s.toList with
    | '/' :: '/' :: '/' :: _ => Root.slash
    | '/' :: '/' :: _ => .twoSlashes
    | '/' :: _ => .slash
    | _ => .relative
  ⟨root, partsOf s⟩

/-- The text of a path. -/
def text (p : Path) : String :=
  if p.root = .relative && p.parts.isEmpty then "." else p.root.text ++ "/".intercalate p.parts

/-- The path `q` seen from `p`: a path with a root stands for itself. -/
def join (p q : Path) : Path :=
  if q.root = .relative then ⟨p.root, p.parts ++ q.parts⟩ else q

/-- The path a text writes, seen from `p`. -/
def joinText (p : Path) (s : String) : Path := p.join (parse s)

/-- One more part. -/
def child (p : Path) (part : String) : Path := ⟨p.root, p.parts ++ [part]⟩

/-- The last part, empty if there is none. -/
def name (p : Path) : String := p.parts.getLast?.getD ""

/-- The path without its last part. -/
def parent (p : Path) : Path := ⟨p.root, p.parts.dropLast⟩

/-- The path with another last part. -/
def withName (p : Path) (name : String) : Path := p.parent.child name

/-- Where the suffix of a name starts: at its last dot, unless that is its first or its last
character. -/
def suffixStart? (name : List Char) : Option Nat :=
  let after := name.reverse.takeWhile (· ≠ '.')
  if after.isEmpty || name.length ≤ after.length + 1 then none
  else some (name.length - after.length - 1)

/-- The suffix of a path's name, with its dot; empty if there is none. -/
def suffix (p : Path) : String :=
  let name := p.name.toList
  match suffixStart? name with
  | some i => String.ofList (name.drop i)
  | none => ""

/-- A path's name without its suffix. -/
def stem (p : Path) : String :=
  let name := p.name.toList
  match suffixStart? name with
  | some i => String.ofList (name.take i)
  | none => p.name

/-- Carry out every `..` of a list of parts, starting below `before`. -/
def climb (before : List String) : List String → List String
  | [] => before
  | p :: ps => if p = ".." then climb before.dropLast ps else climb (before ++ [p]) ps

/-- The path as seen from the directory `here`, from the root directory on and without `..`. -/
def absolute (here p : Path) : Path := ⟨.slash, climb [] (here.join p).parts⟩

/-- Compare two lists of parts, one part after the other. -/
def leParts : List String → List String → Bool
  | [], _ => true
  | _ :: _, [] => false
  | a :: as, b :: bs => if a = b then leParts as bs else decide (a < b)

/-- The order of paths: by their parts. -/
def le (p q : Path) : Bool := leParts p.parts q.parts

end Path

end RouteLint
