import RouteLint.Command.Request
import RouteLint.Config
import RouteLint.Console.Screen

/-!
# Checking once

The rules of a configuration are run one after the other, and what each of them finds is shown.  The
command fails if one of the rules does.

## Main definitions

* `Desk` — the workspace and the screen.
* `runCheck` — check once.
* `exitCode` — how a check ends.
-/

namespace RouteLint.Command

open Console

/-- A workspace and a screen. -/
structure Desk extends Workspace where
  /-- The screen. -/
  screen : Screen := {}
  deriving Inhabited

/-- Something a command does. -/
abbrev Session := StateM Desk

namespace Session

/-- Do something with the workspace. -/
def onWorkspace {α : Type} (x : StateM Workspace α) : Session α := fun d =>
  let (a, w) := x.run d.toWorkspace
  (a, { d with toWorkspace := w })

/-- Change what is shown. -/
def onScreen (f : Screen → Screen) : Session Unit := modify fun d => { d with screen := f d.screen }

/-- Show marked-up text. -/
def print (markup : String) : Session Unit := onScreen (·.print markup)

/-- Show marked-up text among the errors. -/
def complain (markup : String) : Session Unit := onScreen (·.complain markup)

/-- Show a text among the errors as it is. -/
def complainText (text : String) : Session Unit := onScreen (·.complainText text)

end Session

open Session

/-- A violation in one line. -/
def violationLine (v : Violation) : String :=
  "    " ++ v.filePath ++ ":" ++ toString v.line ++ ":" ++ toString v.column ++ " - " ++ v.message

/-- Show the result of a rule. -/
def showRun (run : RuleRun) : Session Unit := do
  let message := literal run.result.message
  if run.result.success then
    print ("  [green]✓[/green] " ++ message ++ "\n")
  else
    complain ("  [red]✗[/red] " ++ message)
    run.result.violations.forM fun v => complainText (violationLine v)
    complainText ""

/-- A rule's description in brackets, if it has one. -/
def descriptionOf (rule : PlannedRule) : String :=
  match rule.details with
  | none => ""
  | some m => if m.description = "" then "" else " (" ++ m.description ++ ")"

/-- Run a rule and show its result. -/
def showRule (q : RunRequest) (rule : PlannedRule) : Session RuleRun := do
  print ("Running: " ++ literal rule.name ++ literal (descriptionOf rule) ++ "...")
  let run ← onWorkspace (runRule q rule)
  showRun run
  return run

/-- How a check ends: zero if every rule is a success. -/
def exitCode (runs : List RuleRun) : Nat := if (summarize runs).success then 0 else 1

/-- Show the sum of all results. -/
def showSummary (runs : List RuleRun) : Session Unit :=
  let s := summarize runs
  if s.success then print "[green]All rules passed![/green]"
  else
    complain
      ("\n[red]Found " ++ toString s.totalViolations ++ " violation(s) across " ++
        toString s.ruleCount ++ " rule(s)[/red]")

/-- The working directory of a check: the current one if none is named. -/
def workingDirectory (o : CheckOptions) (home : Path) : Path :=
  match o.directory with
  | none => home
  | some d => if d = "" then home else Path.parse d

/-- Check the configured rules once, and show what comes of it: the rules run, with their
results. -/
def runCheck (handlers : Handlers) (o : CheckOptions) : Session (List RuleRun) := do
  let config ← onWorkspace (Config.load o.config)
  let rules := (config.withPreset o.preset).rules
  if rules.isEmpty then
    print "No biome-rules configured. Add biomeRules to biome.json"
    return []
  else
    let q : RunRequest := ⟨workingDirectory o (← get).home, o.typeConfig, o.fix⟩
    print ("Running " ++ toString rules.length ++ " rule(s)...\n")
    let planned ← onWorkspace (planRules handlers rules)
    let runs ← planned.mapM (showRule q)
    showSummary runs
    return runs

end RouteLint.Command
