import RouteLint.Data.Table
import RouteLint.Path
import RouteLint.Text.Quoted
import RouteLint.Text.Utf8

/-!
# The disk

A disk is a finite tree of directories and files, kept as a table from the parts of an absolute
path to what stands there.  There are no links, so a path leads to one place.

Following a path visits one directory after the other, and `..` leads to the directory above;
so a path fails if a part on the way is missing or is a file, even if a later `..` leaves it again.

## Main definitions

* `Disk`, `Disk.Entry` — the tree.
* `Disk.find` — what a path leads to.
* `Disk.isFile`, `Disk.isDirectory`, `Disk.exists?` — questions about a path.
* `Disk.read`, `Disk.write`, `Disk.remove` — the content of a file.
* `Disk.names` — the names in a directory.
* `Disk.Failure.message` — the wording of failures.
-/

namespace RouteLint

namespace Disk

/-- What stands at a place. -/
inductive Entry where
  /-- A file and its content. -/
  | file (content : Bytes)
  /-- A directory. -/
  | directory
  deriving DecidableEq, Repr, Inhabited

/-- Why a path leads nowhere, or not to a file. -/
inductive Cause where
  /-- A part is missing. -/
  | missing
  /-- The path goes on below a file. -/
  | notDirectory
  /-- A directory stands where a file is needed. -/
  | isDirectory
  deriving DecidableEq, Repr

/-- A path that could not be used, and why. -/
structure Failure where
  /-- The path as it was given. -/
  path : Path
  /-- Why it could not be used. -/
  cause : Cause
  deriving DecidableEq, Repr

/-- The wording of a cause, with its number. -/
def Cause.message : Cause → String
  | .missing => "[Errno 2] No such file or directory"
  | .notDirectory => "[Errno 20] Not a directory"
  | .isDirectory => "[Errno 21] Is a directory"

/-- The wording of a failure. -/
def Failure.message (f : Failure) : String :=
  f.cause.message ++ ": " ++ Text.quoteString f.path.text

end Disk

/-- A tree of directories and files, by the parts of absolute paths.  The root directory has no
entry of its own. -/
structure Disk where
  /-- What stands at each place below the root. -/
  entries : Table (List String) Disk.Entry
  deriving Repr, Inhabited

namespace Disk

/-- The disk with nothing but its root directory. -/
def empty : Disk := ⟨[]⟩

/-- What stands at a place. -/
def entry? (d : Disk) (place : List String) : Option Entry :=
  if place.isEmpty then some .directory else d.entries.get? place

/-- Follow parts from a place. -/
def follow (d : Disk) : List String → List String → Except Cause (List String)
  | place, [] => .ok place
  | place, p :: ps =>
    match d.entry? place with
    | some .directory =>
      let next := if p = ".." then place.dropLast else place ++ [p]
      match d.entry? next with
      | some _ => follow d next ps
      | none => .error .missing
    | some (.file _) => .error .notDirectory
    | none => .error .missing

/-- The place an absolute path leads to, and what stands there. -/
def find (d : Disk) (p : Path) : Except Cause (List String × Entry) :=
  match d.follow [] p.parts with
  | .ok place =>
    match d.entry? place with
    | some e => .ok (place, e)
    | none => .error .missing
  | .error e => .error e

/-- Whether a path leads to a file. -/
def isFile (d : Disk) (p : Path) : Bool :=
  match d.find p with
  | .ok (_, .file _) => true
  | _ => false

/-- Whether a path leads to a directory. -/
def isDirectory (d : Disk) (p : Path) : Bool :=
  match d.find p with
  | .ok (_, .directory) => true
  | _ => false

/-- Whether a path leads anywhere. -/
def exists? (d : Disk) (p : Path) : Bool := (d.find p).isOk

/-- The content of the file a path leads to. -/
def read (d : Disk) (p : Path) : Except Failure Bytes :=
  match d.find p with
  | .ok (_, .file content) => .ok content
  | .ok (_, .directory) => .error ⟨p, .isDirectory⟩
  | .error e => .error ⟨p, e⟩

/-- The disk with a file at a path whose directory is there. -/
def write (d : Disk) (p : Path) (content : Bytes) : Except Failure Disk :=
  match d.find p with
  | .ok (_, .directory) => .error ⟨p, .isDirectory⟩
  | .ok (place, .file _) => .ok ⟨d.entries.set place (.file content)⟩
  | .error _ =>
    match d.find p.parent with
    | .ok (place, .directory) => .ok ⟨d.entries.set (place ++ [p.name]) (.file content)⟩
    | .ok (_, .file _) => .error ⟨p, .notDirectory⟩
    | .error e => .error ⟨p, e⟩

/-- The disk with a directory at a place, and at every place above it that is free. -/
def makeDirectories (d : Disk) (place : List String) : Disk :=
  (List.range place.length).foldl (fun d i => ⟨d.entries.setDefault (place.take (i + 1)) .directory⟩) d

/-- The disk with a file at a place, and directories above it. -/
def put (d : Disk) (place : List String) (content : Bytes) : Disk :=
  ⟨(d.makeDirectories place.dropLast).entries.set place (.file content)⟩

/-- The disk without the file a path leads to. -/
def remove (d : Disk) (p : Path) : Except Failure Disk :=
  match d.find p with
  | .ok (_, .directory) => .error ⟨p, .isDirectory⟩
  | .ok (place, .file _) => .ok ⟨d.entries.filter fun e => e.1 ≠ place⟩
  | .error e => .error ⟨p, e⟩

/-- The name of a place in the directory `here`. -/
def nameIn (here place : List String) : Option String :=
  if place.length = here.length + 1 && here.isPrefixOf place then place.getLast? else none

/-- The names in a directory, each with what it names. -/
def names (d : Disk) (p : Path) : List (String × Entry) :=
  match d.find p with
  | .ok (here, .directory) =>
    d.entries.filterMap fun (place, e) => (nameIn here place).map fun n => (n, e)
  | _ => []

/-- How many places the disk has below its root. -/
def size (d : Disk) : Nat := d.entries.length

end Disk

end RouteLint
