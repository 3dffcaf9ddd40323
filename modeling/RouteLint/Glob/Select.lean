import RouteLint.Disk
import RouteLint.Glob.Pattern

/-!
# Selecting files

The files a pattern selects are found by walking the disk: a part without wildcards leads to the
place of that name, a part with wildcards to the matching names of a directory, and `**` to the
directory itself and everything below it that is not hidden.  Only directories are walked
through, and only files are selected.

## Main definitions

* `Glob.below` — everything below a directory that is not hidden.
* `Glob.walk` — the paths that segments lead to.
* `Glob.select` — the files a pattern selects, in order of their parts and each once.
-/

namespace RouteLint.Glob

/-- Whether something stands at a place that a walk can go on from. -/
def isWalkable : Disk.Entry → Bool
  | .directory => true
  | .file _ => false

/-- Everything below a directory that is not hidden, at most `depth` levels deep. -/
def below (d : Disk) (onlyDirectories : Bool) : Nat → Path → List Path
  | 0, _ => []
  | depth + 1, p =>
    (d.names p).flatMap fun (name, entry) =>
      if isHidden name || (onlyDirectories && !isWalkable entry) then []
      else p.child name :: below d onlyDirectories depth (p.child name)

/-- The paths one segment leads to from a path; a segment in the middle of a pattern leads through
wildcards to directories only. -/
def step (d : Disk) (inMiddle : Bool) (p : Path) : Segment → List Path
  | .literal name => if d.exists? (p.join ⟨.relative, [name]⟩) then [p.child name] else []
  | .wild part =>
    ((d.names p).filter fun (name, entry) =>
      (!inMiddle || isWalkable entry) && admits part name).map fun (name, _) => p.child name
  | .anyDepth => (if d.isDirectory p then [p] else []) ++ below d inMiddle (d.size + 1) p
  | .directory => if d.isDirectory p then [p] else []

/-- The paths that segments lead to from a path. -/
def walk (d : Disk) : List Segment → Path → List Path
  | [], p => [p]
  | s :: rest, p => (step d (!rest.isEmpty) p s).flatMap (walk d rest)

/-- What a pattern leads to from a directory.  A pattern without wildcards leads to the place it
names; one that starts with `**` does not lead to the directory itself. -/
def matchesFrom (d : Disk) (here : Path) (pattern : Pattern) : List Path :=
  let start := here.joinText pattern.base
  match pattern.segments with
  | [] => if pattern.base ≠ "" && d.exists? start then [start] else []
  | segments =>
    let found := walk d segments start
    if pattern.base = "" then found.filter (· ≠ here) else found

/-- Put a path into an ordered list, once. -/
def insert (p : Path) : List Path → List Path
  | [] => [p]
  | q :: qs => if p = q then q :: qs else if p.le q then p :: q :: qs else q :: insert p qs

/-- The files a pattern selects from a directory, by their absolute paths, in order of their
parts. -/
def select (d : Disk) (here : Path) (pattern : String) : List Path :=
  let found := (matchesFrom d here (.parse pattern)).filter d.isFile
  (found.map fun p => Path.absolute here p).foldr insert []

end RouteLint.Glob
