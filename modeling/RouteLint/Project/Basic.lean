import RouteLint.Log
import RouteLint.Project.TypeConfig
import RouteLint.Scope
import RouteLint.Source

/-!
# Projects

A project holds the sources of one analysis by their absolute paths.  Its roots are the files to
be analysed; files that imports lead to are loaded when they are needed, and only looked up in.
A source is read from the disk once and then kept, edited or not, until it is saved.

The scope of a source is kept together with the revision it was made from, so that it is made anew
only after the source has been edited.

## Main definitions

* `Project`, `Workspace` — sources, and the disk they come from.
* `Work` — an activity that may fail; whatever it did until then stays done.
* `Project.load`, `Project.add`, `Project.fetch`, `Project.sourceAt` — loading files.
* `Project.scopeOf` — the scope of a source.
* `Project.save` — writing what has been edited.
-/

namespace RouteLint

open Syntax

/-- What an analysis starts from: the disk, the current directory, and what has been told. -/
structure Workspace where
  /-- The disk. -/
  disk : Disk
  /-- The current directory. -/
  home : Path
  /-- What has been told so far. -/
  log : List Event
  deriving Inhabited

/-- The sources of one analysis. -/
structure Project where
  /-- How sources are read. -/
  parse : Parser
  /-- The working directory. -/
  root : Path
  /-- The type configuration. -/
  config : Option TypeConfig
  /-- Loaded files by absolute path, in the order they were loaded. -/
  files : Table Path Source
  /-- The files to be analysed, in the order they were added. -/
  roots : List Path
  /-- Scopes by file, each with the revision it was made from. -/
  scopes : Table Path (Nat × Scope)

namespace Project

/-- A project without files. -/
def empty (parse : Parser) (root : Path) (config : Option TypeConfig) : Project :=
  ⟨parse, root, config, [], [], []⟩

instance : Inhabited Project := ⟨empty Module.parse default none⟩

/-- Why a file cannot be loaded. -/
inductive LoadCause where
  /-- Its name shows no known language. -/
  | language (e : Language.Unsupported)
  /-- It cannot be read. -/
  | disk (f : Disk.Failure)
  /-- Its content is not UTF-8. -/
  | encoding (f : Utf8.Fault)
  deriving Repr

/-- The wording of a cause. -/
def LoadCause.message : LoadCause → String
  | .language e => e.message
  | .disk f => f.message
  | .encoding f => f.message

/-- Why work on a project fails. -/
inductive Error where
  /-- A source file cannot be loaded. -/
  | unloadable (path : Path) (cause : LoadCause)
  /-- The working directory is missing. -/
  | noDirectory (path : Path)
  /-- The type configuration cannot be read. -/
  | config (e : TypeConfig.Error)
  /-- An import leads to a path without a name. -/
  | emptyName (path : Path)
  /-- Edits overlap. -/
  | overlap (path : Path)
  /-- A file cannot be written. -/
  | write (f : Disk.Failure)
  deriving Repr

/-- The wording of an error. -/
def Error.message : Error → String
  | .unloadable p cause => "Cannot load source file " ++ p.text ++ ": " ++ cause.message
  | .noDirectory p => "Working directory does not exist: " ++ p.text
  | .config e => e.message
  | .emptyName p => "PosixPath(" ++ Text.quoteString p.text ++ ") has an empty name"
  | .overlap p => "Overlapping edits in " ++ p.text
  | .write f => f.message

end Project

/-- A workspace with the project being worked on. -/
structure Bench extends Workspace where
  /-- The project. -/
  project : Project
  deriving Inhabited

/-- An activity that may fail; whatever it did until then stays done. -/
abbrev Work := ExceptT Project.Error (StateM Bench)

/-- Tell something. -/
def tell (e : Event) : Work Unit := modify fun b => { b with log := b.log ++ [e] }

/-- Change the project. -/
def modifyProject (f : Project → Project) : Work Unit :=
  modify fun b => { b with project := f b.project }

namespace Project

/-- The source at an absolute path, if it is loaded. -/
def source? (p : Project) (path : Path) : Option Source := p.files.get? path

/-- The project with a source put at its path. -/
def putSource (p : Project) (s : Source) : Project := { p with files := p.files.set s.path s }

/-- A file as it is on the disk. -/
def readSource (parse : Parser) (d : Disk) (path : Path) : Except LoadCause Source := do
  let language ← (Language.ofPath path).mapError .language
  let content ← (d.read path).mapError .disk
  discard <| (Utf8.decodeChars content).mapError .encoding
  return .ofContent parse path language content

/-- The source at an absolute path, which is loaded unless it is there. -/
def sourceAt (place : Path) : Work Source := do
  let b ← get
  match b.project.source? place with
  | some s => return s
  | none =>
    match readSource b.project.parse b.disk place with
    | .error cause => throw (.unloadable place cause)
    | .ok s =>
      if s.module.malformed then tell (.malformed place)
      modifyProject (·.putSource s)
      return s

/-- Load a file unless it is loaded; the absolute path it is loaded at. -/
def fetch (path : Path) : Work Path := do
  let place := (← get).home.absolute path
  discard <| sourceAt place
  return place

/-- Load a file and make it a root. -/
def add (path : Path) : Work Path := do
  let place ← fetch path
  modifyProject fun p =>
    if p.roots.contains place then p else { p with roots := p.roots ++ [place] }
  return place

/-- The type configuration for a working directory: the one named, or else the one found under
its usual name. -/
def findConfig (d : Disk) (root : Path) (named : Option String) : Except TypeConfig.Error
    (Option TypeConfig) :=
  let usual := root.child "tsconfig.json"
  match named with
  | some name =>
    if name.isEmpty then ifPresent usual else some <$> TypeConfig.read d root (root.joinText name)
  | none => ifPresent usual
where
  /-- The configuration in a file, if there is such a file. -/
  ifPresent (p : Path) : Except TypeConfig.Error (Option TypeConfig) :=
    if d.isFile p then some <$> TypeConfig.read d root p else .ok none

/-- Start a project in a working directory with the given roots. -/
def load (parse : Parser) (directory : Path) (config : Option String) (files : List Path) :
    Work Unit := do
  let b ← get
  let root := b.home.absolute directory
  if !b.disk.isDirectory root then throw (.noDirectory root)
  match findConfig b.disk root config with
  | .error e => throw (.config e)
  | .ok found =>
    modifyProject fun _ => .empty parse root found
    files.forM fun file => discard <| add file

/-- The scope of a source, made anew only if the source has changed since. -/
def scopeOf (path : Path) : Work Scope := do
  let place := (← get).home.absolute path
  let s ← sourceAt place
  match (← get).project.scopes.get? place with
  | some (revision, scope) => if revision = s.revision then return scope else make place s
  | none => make place s
where
  /-- Make the scope of a source and keep it. -/
  make (place : Path) (s : Source) : Work Scope := do
    let scope := Scope.ofModule s.module
    modifyProject fun p => { p with scopes := p.scopes.set place (s.revision, scope) }
    return scope

/-! ### Edits -/

/-- Stage an edit of a source. -/
def stage (path : Path) (e : Edit) : Work Unit := do
  match (← get).project.source? path with
  | none => return
  | some s =>
    match s.stage? e with
    | none => throw (.overlap path)
    | some s => modifyProject (·.putSource s)

/-- Apply the staged edits of a source; how many there were. -/
def apply (path : Path) : Work Nat := do
  let p := (← get).project
  match p.source? path with
  | none => return 0
  | some s =>
    modifyProject (·.putSource (s.apply p.parse))
    return s.staged.length

/-- Write a source to the disk. -/
def saveSource (s : Source) : Work Unit := do
  match (← get).disk.write s.path s.content with
  | .error f => throw (.write f)
  | .ok disk =>
    modify fun b => { b with disk }
    modifyProject (·.putSource { s with modified := false })
    tell (.saved s.path)

/-- Write every source that has been edited; their paths. -/
def save : Work (List Path) := do
  let edited := (← get).project.files.values.filter Source.modified
  edited.forM saveSource
  return edited.map Source.path

end Project

end RouteLint
