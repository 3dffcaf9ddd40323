import RouteLint.Command.Check
import RouteLint.Console.Grid
import RouteLint.Watch.Watcher

/-!
# Commands

## Main definitions

* `listRules` — the list of rules.
* `Happening`, `runWatch` — checking again whenever a file changes.
* `run` — do what is asked for.
-/

namespace RouteLint.Command

open Console Session

/-- The command breaks down: a closing tag closes nothing. -/
inductive Failure where
  | unbalancedMarkup
  deriving DecidableEq, Repr

/-- Something a command does that may break down; what it did until then stays done. -/
abbrev Attempt := ExceptT Failure Session

/-- Show marked-up text that nobody has escaped. -/
def printRaw (markup : String) : Attempt Unit :=
  if Markup.isBalanced markup.toList then liftM (print markup)
  else throw .unbalancedMarkup

/-! ### The list of rules -/

/-- The row of a rule in the list. -/
def ruleRow (handlers : Handlers) (name : String) : List String :=
  let details := registry.get? name
  let yes := fun (b : Bool) => if b then "yes" else "no"
  [name, (details.map RuleMeta.description).getD "", yes ((details.map RuleMeta.fixable).getD false),
    yes (handlers.contains name)]

/-- What is shown of a cell. -/
def cellText (markup : String) : List Char :=
  (Markup.plain markup.toList).filter fun c => !isSilent c

/-- Show the list of rules. -/
def listRules (handlers : Handlers) : Attempt Unit := do
  let names := availableRules handlers
  let rows := names.map (ruleRow handlers)
  if rows.all fun row => row.all fun cell => Markup.isBalanced cell.toList then
    let headings := ["rule", "description", "fixable", "handler"]
    let grid : Grid := ⟨headings.map cellText, rows.map (·.map cellText)⟩
    let lines := grid.draw.map fun cs => String.ofList cs ++ "\n"
    liftM (onScreen fun s => { s with out := s.out ++ String.join lines })
    liftM (print ("(" ++ toString names.length ++ " rules)"))
  else throw .unbalancedMarkup

/-! ### Watching -/

/-- Something that happens while a directory is watched: the disk changes, and some of that is
told. -/
structure Happening where
  /-- What becomes of the disk. -/
  change : Disk → Disk
  /-- The changes that are told. -/
  told : List Change

/-- What is done when files have changed: the rules are checked again. -/
def recheck (handlers : Handlers) (o : CheckOptions) : Listener Desk where
  react paths := do
    print ("[cyan]" ++ toString paths.length ++ " file(s) changed, re-running rules[/cyan]")
    let _ ← runCheck handlers o
    return true
  tell e := onWorkspace (modify (·.tell e))

/-- Check once and start watching. -/
def beginWatch (handlers : Handlers) (o : CheckOptions) : Attempt Watcher := do
  let directory := workingDirectory o (← get).home
  let _ ← liftM (runCheck handlers o)
  let w ← liftM (Watcher.step (recheck handlers o) { directory } .start : Session Watcher)
  printRaw ("[green]Watching " ++ directory.text ++ " (Ctrl+C to stop)[/green]")
  return w

/-- Let something happen. -/
def happen (handlers : Handlers) (o : CheckOptions) (w : Watcher) (h : Happening) :
    Session Watcher := do
  modify fun d => { d with disk := h.change d.disk }
  w.step (recheck handlers o) (.emit h.told)

/-- Stop watching. -/
def endWatch (handlers : Handlers) (o : CheckOptions) (w : Watcher) : Session Watcher := do
  (← w.step (recheck handlers o) .finish).step (recheck handlers o) .stop

/-- Watch while several things happen. -/
def runWatch (handlers : Handlers) (o : CheckOptions) (happenings : List Happening) :
    Attempt Unit := do
  let w ← beginWatch handlers o
  let w ← liftM (happenings.foldlM (happen handlers o) w : Session Watcher)
  let _ ← liftM (endWatch handlers o w : Session Watcher)

/-! ### Doing what is asked for -/

/-- The exit code of an attempt: one if it breaks down. -/
def attempted (x : Attempt Nat) : Session Nat := do
  match ← x.run with
  | .ok code => return code
  | .error _ => return 1

/-- The exit code for a command line that makes no sense. -/
def usageExit : Nat := 2

/-- Do what is asked for, while several things happen; the exit code. -/
def run (handlers : Handlers) (happenings : List Happening) : Request → Session Nat
  | .help => return 0
  | .check o _ => return exitCode (← runCheck handlers o)
  | .rules => attempted do
    listRules handlers
    return 0
  | .watch o _ => attempted do
    runWatch handlers { o with fix := false } happenings
    return 0

end RouteLint.Command
