import RouteLint.Project.Basic
import RouteLint.Typing.Basic

/-!
# Where imports lead

A specifier that starts with a dot is seen from the importing file, one that starts with a slash
is a path, and any other is looked up in the type configuration.  Each candidate stands for several
paths, since an import may leave out the suffix of a file, name the file it is compiled to, or name
a directory with an index file.  The import leads to the first of these paths that is a TypeScript
file.

## Main definitions

* `Project.candidates` — the paths a specifier may mean.
* `Project.expansions` — the paths a candidate stands for.
* `Project.target` — the file an import leads to.
* `Project.graph` — the modules of the project, as typing sees them.
-/

namespace RouteLint.Project

/-- The paths a specifier in a file may mean. -/
def candidates (p : Project) (importer : Path) (specifier : String) : List Path :=
  match specifier.toList.head? with
  | some '.' => [importer.parent.joinText specifier]
  | some '/' => [Path.parse specifier]
  | _ => (p.config.map fun c => c.candidates specifier).getD []

/-- Suffixes of files that TypeScript files are compiled to. -/
def compiledSuffixes : List String := [".js", ".jsx", ".mjs", ".cjs"]

/-- A path with each of several endings added to its name; an error if it has no name. -/
def withEndings (p : Path) (endings : List String) : Except Error (List Path) :=
  if p.parts.isEmpty then .error (.emptyName p)
  else .ok (endings.map fun e => p.withName (p.name ++ e))

/-- The paths a candidate stands for: itself, the file it may be compiled from, itself with a
suffix, and the index files in it. -/
def expansions (p : Path) : Except Error (List Path) := do
  let sources ←
    if compiledSuffixes.contains p.suffix then
      withEndings (p.withName p.stem) Language.moduleSuffixes
    else .ok []
  let files ← withEndings p Language.moduleSuffixes
  return p :: sources ++ files ++ Language.indexFiles.map p.child

/-- Whether a path leads to a TypeScript file. -/
def isModule (d : Disk) (p : Path) : Bool := d.isFile p && Language.isSource p

/-- The first path of the first candidate that leads to a TypeScript file. -/
def firstModule (d : Disk) : List Path → Except Error (Option Path)
  | [] => .ok none
  | c :: cs => do
    match (← expansions c).find? (isModule d) with
    | some p => return some p
    | none => firstModule d cs

/-- The file an import leads to, which is loaded. -/
def target (importer : Path) (specifier : String) : Work (Option Path) := do
  let b ← get
  match firstModule b.disk (b.project.candidates importer specifier) with
  | .error e => throw e
  | .ok none => return none
  | .ok (some p) => some <$> fetch p

/-- The modules of the project, as typing sees them. -/
def graph : ModuleGraph Work := ⟨scopeOf, target⟩

end RouteLint.Project
