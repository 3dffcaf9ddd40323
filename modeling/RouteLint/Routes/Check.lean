import RouteLint.Glob.Select
import RouteLint.Project.Modules
import RouteLint.Report
import RouteLint.Routes.Handler
import RouteLint.Routes.Repair
import RouteLint.Typing.Infer

/-!
# Checking handlers

A handler violates the rule if the type of its second parameter has a property `params` whose type
does not mention a promise.  With repairs turned on, a violation that can be repaired is staged as
an edit instead of being reported; the edits of a file are applied after all its handlers have been
judged, and the files are written after all of them have been checked.

Whatever goes wrong becomes the message of a failed result.

## Main definitions

* `checkHandler`, `checkSource` — the violations of a handler and of a file.
* `CheckRequest`, `checkRoutes` — the check of all files that a pattern selects.
-/

namespace RouteLint

open Syntax

/-- The pattern of route files. -/
def defaultPattern : String := "**/app/api/**/route.ts"

/-- The violation of a handler whose parameters have the type `found`. -/
def violationOf (s : Source) (h : Handler) (context : Parameter) (found : String) : Violation :=
  let position := s.position context.extent
  { filePath := s.path.text
    line := position.line
    column := position.column
    message := "Next.js 14+ route handler \"" ++ h.name ++
      "\" params must be Promise<\x7b ... \x7d>. Found: " ++ found
    severity := .error
    fixable := true
    suggestedFix := some "Wrap params type with Promise<...>" }

/-- The type of the parameters of a route as a handler's second parameter has it. -/
def routeParams {m : Type → Type} [Monad m] (g : ModuleGraph m) (file : Path)
    (context : Parameter) : m (Option String) := do
  match ← parameterType g file context with
  | none => return none
  | some owner =>
    match owner.properties.get? routeMember with
    | none => return none
    | some p => propertyType g owner p

/-- The type of a handler's parameters if it violates the rule. -/
def judge {m : Type → Type} [Monad m] (g : ModuleGraph m) (file : Path) (context : Parameter) :
    m (Option String) := do
  let found ← routeParams g file context
  return found.filter fun text => !mentionsWrapper text

/-- Check a handler; with `fix`, stage its repair if there is one. -/
def checkHandler (file : Path) (fix : Bool) (h : Handler) : Work (Option Violation) := do
  match h.context? with
  | none => return none
  | some context =>
    match ← judge Project.graph file context with
    | none => return none
    | some found =>
      match planRepair context, fix with
      | .ok edit, true =>
        Project.stage file edit
        tell (.fixed h.name file)
        return none
      | _, _ =>
        return (← get).project.source? file |>.map fun s => violationOf s h context found

/-- Check the handlers of a source, and apply the repairs that were staged. -/
def checkSource (file : Path) (fix : Bool) : Work (List Violation) := do
  let scope ← Project.scopeOf file
  let violations ← (handlers scope).mapM (checkHandler file fix)
  discard <| Project.apply file
  return violations.filterMap id

/-- What is to be checked. -/
structure CheckRequest where
  /-- The working directory. -/
  directory : Path
  /-- The type configuration, if one is named. -/
  config : Option String := none
  /-- The pattern of files. -/
  pattern : String := defaultPattern
  /-- Whether to repair. -/
  fix : Bool := false
  deriving Repr, Inhabited

/-- How many there are of something, in words. -/
def counted (n : Nat) (what : String) : String := toString n ++ " " ++ what

/-- The result of a check without repairs. -/
def plainResult (violations : List Violation) (files : Nat) : RunResult :=
  if violations.isEmpty then
    { success := true
      message := "All " ++ counted files "route handler file(s) passed validation" }
  else
    { success := false
      violations
      message := "Found " ++ counted violations.length "violation(s) in " ++
        counted files "file(s)" }

/-- The result of a check that repaired files. -/
def repairedResult (violations : List Violation) (written : Nat) : RunResult :=
  let remaining :=
    if violations.isEmpty then "All violations fixed!"
    else "Found " ++ counted violations.length "remaining violation(s)."
  { success := violations.isEmpty
    violations
    message := "Fixed " ++ counted written "file(s). " ++ remaining }

/-- Check files that have been selected. -/
def checkFiles (parse : Parser) (q : CheckRequest) (files : List Path) : Work RunResult := do
  Project.load parse q.directory q.config files
  let roots := (← get).project.roots
  let violations ← roots.mapM fun file => checkSource file q.fix
  let found := violations.flatten
  if q.fix then
    let written ← Project.save
    if !written.isEmpty then return repairedResult found written.length
  return plainResult found files.length

/-- The result of work that failed. -/
def failedResult (message : String) : RunResult :=
  { success := false, message := "Error: " ++ message }

/-- Run work on a project of its own, which is given up afterwards. -/
def Workspace.runWork {α : Type} (w : Workspace) (work : Work α) : Except Project.Error α × Workspace :=
  let (result, b) := (work.run).run { w with project := default }
  (result, b.toWorkspace)

/-- Check all files that a pattern selects below a directory. -/
def checkRoutes (parse : Parser) (q : CheckRequest) (w : Workspace) : RunResult × Workspace :=
  let files := Glob.select w.disk (w.home.absolute q.directory) q.pattern
  if files.isEmpty then
    ({ success := true, message := "No files found matching pattern: " ++ q.pattern }, w)
  else
    match w.runWork (checkFiles parse q files) with
    | (.ok result, w) => (result, w)
    | (.error e, w) => (failedResult e.message, w)

end RouteLint
