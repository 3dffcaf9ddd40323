import RouteLint.Language

/-!
# Changes worth a look

While a directory is watched, most of what changes there does not matter: only source files do,
and not those of installed packages, of built output or of the tools that edit and keep them.

## Main definitions

* `Change` — something that happened to a path.
* `Change.isRelevant` — whether it matters.
* `relevantPaths` — the paths of the changes that matter.
-/

namespace RouteLint

/-- What can happen to a file. -/
inductive ChangeKind where
  | added
  | modified
  | deleted
  deriving DecidableEq, Repr, Inhabited

/-- Something that happened to a file. -/
structure Change where
  /-- What happened. -/
  kind : ChangeKind
  /-- The path of the file, as it was told. -/
  path : String
  deriving DecidableEq, Repr, Inhabited

/-- Directories in which nothing matters. -/
def ignoredDirectories : List String :=
  ["__pycache__", ".git", ".hg", ".svn", ".tox", ".venv", ".idea", "node_modules", ".mypy_cache",
    ".pytest_cache", ".hypothesis", ".next", "dist", "build"]

/-- The last `n` characters. -/
def ending (n : Nat) (cs : List Char) : List Char := cs.drop (cs.length - n)

/-- Whether a name ends like that of a compiled or a swap file. -/
def hasTransientSuffix (cs : List Char) : Bool :=
  match ending 4 cs with
  | ['.', 'p', 'y', c] => c == 'c' || c == 'o' || c == 'd'
  | ['.', 's', 'w', c] => c != '\n'
  | _ => false

/-- Whether a name ends like that of a file being written safely: three characters between
`.___jb_` and `___`. -/
def isSafeWrite (cs : List Char) : Bool :=
  let last := ending 13 cs
  ".___jb_".toList.isPrefixOf last && last.drop 10 == ['_', '_', '_']

/-- Whether a name is one of those that tools give to files they do not keep: bytecode, backups,
swap files, locks and the like. -/
def isTransient (name : String) : Bool :=
  let cs := name.toList
  hasTransientSuffix cs || isSafeWrite cs || cs.getLast? == some '~' ||
    ['.', '#'].isPrefixOf cs || name == ".DS_Store" || "flycheck_".toList.isPrefixOf cs

/-- The parts of a path as it was told, without the slashes in front. -/
def toldParts (path : String) : List String :=
  (Path.splitSlash (path.toList.dropWhile (· = '/'))).map String.ofList

namespace Change

/-- Whether a change matters: it is about a source file, no part of the path is a directory in
which nothing matters, and its last part is not transient. -/
def isRelevant (c : Change) : Bool :=
  let parts := toldParts c.path
  Language.isSource (Path.parse c.path) && !parts.any ignoredDirectories.contains &&
    !isTransient (parts.getLast?.getD "")

end Change

/-- Put a path into a list ordered by text, once. -/
def insertByText (p : Path) : List Path → List Path
  | [] => [p]
  | q :: qs =>
    if p = q then q :: qs
    else if p.text < q.text then p :: q :: qs
    else q :: insertByText p qs

/-- The paths of the changes that matter, each once, in order of their texts. -/
def relevantPaths (changes : List Change) : List Path :=
  ((changes.filter Change.isRelevant).map fun c => Path.parse c.path).foldr insertByText []

end RouteLint
