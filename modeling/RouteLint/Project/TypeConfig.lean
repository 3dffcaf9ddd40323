import RouteLint.Json.File

/-!
# Type configurations

A type configuration is a JSON object that may say where imports lead: a base directory, and
patterns of specifiers with the places they stand for.  It may extend other configurations, which
are read first, one after the other; what a later one says replaces what an earlier one says, and
the configuration's own word is the last.  Only relative and absolute paths are followed, names of
packages are not.

## Main definitions

* `TypeConfig` — what is known after reading.
* `TypeConfig.read` — reading a configuration with everything it extends.
* `TypeConfig.capture` — what the star of a pattern stands for.
-/

namespace RouteLint

/-- Where imports lead. -/
structure TypeConfig where
  /-- The file that was read. -/
  path : Path
  /-- The directory that plain specifiers start from. -/
  baseUrl : Option Path
  /-- Patterns of specifiers and the places they stand for. -/
  paths : Table String (List String)
  /-- The directory these places start from. -/
  pathsBase : Option Path
  deriving Repr, Inhabited

namespace TypeConfig

/-- Why a configuration cannot be read. -/
inductive Error where
  /-- It extends itself. -/
  | circular (path : Path)
  /-- The file holds no document. -/
  | unreadable (path : Path) (cause : Json.FileError)
  /-- The document is no object. -/
  | notObject (path : Path)
  /-- The compiler options are no object. -/
  | optionsNotObject (path : Path)
  deriving Repr

/-- The wording of an error. -/
def Error.message : Error → String
  | .circular p => "Circular tsconfig extends: " ++ p.text
  | .unreadable p cause => "Cannot read type configuration " ++ p.text ++ ": " ++ cause.message
  | .notObject p => "Type configuration " ++ p.text ++ " must be a JSON object"
  | .optionsNotObject p => "compilerOptions in " ++ p.text ++ " must be an object"

/-- The strings of an array, all else left out. -/
def strings (items : List Json.Value) : List String := items.filterMap Json.Value.string?

/-- The configurations an entry names. -/
def extendsTargets : Option Json.Value → List String
  | some (.text t) => [t.shown]
  | some (.array items) => strings items
  | _ => []

/-- Whether a target is a path and not the name of a package. -/
def isPathTarget (target : String) : Bool :=
  match target.toList.head? with
  | some c => c = '.' || c = '/'
  | none => false

/-- The file a target names, seen from the directory of a configuration: the suffix may be left
out. -/
def parentPath (d : Disk) (directory : Path) (target : String) : Path :=
  let p := directory.absolute (Path.parse target)
  if !d.exists? p && p.suffix ≠ ".json" then p.withName (p.name ++ ".json") else p

/-- The patterns an object writes; entries that are no arrays are left out. -/
def patterns (fields : List (CodePoints × Json.Value)) : Table String (List String) :=
  fields.filterMap fun (key, v) =>
    match v with
    | .array items => some (key.shown, strings items)
    | _ => none

/-- What is known from a parent after what was known before. -/
def inherit (before parent : TypeConfig) : TypeConfig :=
  { before with
    baseUrl := parent.baseUrl <|> before.baseUrl
    paths := if parent.paths.isEmpty then before.paths else parent.paths
    pathsBase := if parent.paths.isEmpty then before.pathsBase else parent.pathsBase }

/-- What is known after a configuration's own options. -/
def override (before : TypeConfig) (options : Json.Value) : TypeConfig :=
  let directory := before.path.parent
  let baseUrl :=
    match options.get? "baseUrl" with
    | some (.text t) => some (directory.absolute (Path.parse t.shown))
    | _ => before.baseUrl
  match options.get? "paths" with
  | some (.object fields) =>
    { before with baseUrl, paths := patterns fields, pathsBase := some (baseUrl.getD directory) }
  | _ => { before with baseUrl }

/-- The options of a configuration; nothing counts as an object without entries. -/
def optionsOf (path : Path) (data : Json.Value) : Except Error Json.Value :=
  match data.get? "compilerOptions" with
  | none => .ok (.object [])
  | some v =>
    if v.isVoid then .ok (.object [])
    else
      match v with
      | .object fields => .ok (.object fields)
      | _ => .error (.optionsNotObject path)

/-- Read a configuration below those in `seen`, which are being read.  Every one of them is a
different file on the disk, so `fuel` is never used up if the disk has fewer files. -/
def readFrom (d : Disk) : (fuel : Nat) → (seen : List Path) → (path : Path) →
    Except Error TypeConfig
  | 0, _, path => .error (.circular path)
  | fuel + 1, seen, path => do
    if seen.contains path then throw (.circular path)
    let data ← (Json.readFile d path).mapError (.unreadable path)
    if !(data matches .object _) then throw (.notObject path)
    let parents := (extendsTargets (data.get? "extends")).filter isPathTarget
    let inherited ← parents.foldlM (fun (before : TypeConfig) target => do
      let parent ← readFrom d fuel (path :: seen) (parentPath d path.parent target)
      return before.inherit parent) ⟨path, none, [], none⟩
    let options ← optionsOf path data
    return inherited.override options

/-- Read a configuration with everything it extends. -/
def read (d : Disk) (here path : Path) : Except Error TypeConfig :=
  readFrom d (d.size + 2) [] (here.absolute path)

/-! ### Patterns -/

/-- What the first star of a pattern stands for in a specifier; a pattern without a star stands
only for itself. -/
def capture (pattern specifier : String) : Option String :=
  let p := pattern.toList
  let s := specifier.toList
  if !p.contains '*' then
    if p = s then some "" else none
  else
    let before := p.takeWhile (· ≠ '*')
    let after := (p.dropWhile (· ≠ '*')).drop 1
    if before.isPrefixOf s && after.isSuffixOf s && before.length + after.length ≤ s.length then
      some (String.ofList ((s.take (s.length - after.length)).drop before.length))
    else none

/-- A target with a text put in place of every star. -/
def substitute (target captured : String) : String :=
  String.ofList (target.toList.flatMap fun c => if c = '*' then captured.toList else [c])

/-- The places a specifier may stand for, in order. -/
def candidates (c : TypeConfig) (specifier : String) : List Path :=
  let aliased :=
    match c.pathsBase with
    | none => []
    | some base =>
      c.paths.flatMap fun (pattern, targets) =>
        match capture pattern specifier with
        | none => []
        | some captured => targets.map fun t => base.joinText (substitute t captured)
  aliased ++ (c.baseUrl.map fun base => base.joinText specifier).toList

end TypeConfig

end RouteLint
