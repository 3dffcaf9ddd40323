import RouteLint.Rules.Registry

/-!
# Running rules

The configured rules are planned first: those turned off are dropped, and so are those whose
setting makes no sense or that have no handler, which is told.  Then they are run one after the
other, since a later rule may read what an earlier one has repaired.  A rule that breaks down gives
a failed result and does not keep the others from running.

## Main definitions

* `PlannedRule`, `planRules` — the rules to be run.
* `runRule`, `runRules` — running them.
-/

namespace RouteLint

open Validation

/-- A rule to be run. -/
structure PlannedRule where
  /-- Its name. -/
  name : String
  /-- Its setting. -/
  setting : RuleSetting
  /-- How it is checked. -/
  handler : RuleHandler
  /-- Its description. -/
  details : Option RuleMeta

/-- Tell something. -/
def Workspace.tell (w : Workspace) (e : Event) : Workspace := { w with log := w.log ++ [e] }

/-- The rule a setting stands for, or what is to be told instead.  A key that is no string names no
rule. -/
def planRule (handlers : Handlers) (key : CodePoints) (v : Json.Value) :
    Except (Option Event) PlannedRule :=
  match RuleSetting.read v with
  | .error e =>
    .error (some (.ruleIgnored key.shown e.message))
  | .ok setting =>
    if setting.level = .off then .error none
    else
      match key.toString?.bind fun name => (handlers.get? name).map fun h => (name, h) with
      | none => .error (some (.ruleUnknown key.shown))
      | some (name, handler) => .ok ⟨name, setting, handler, registry.get? name⟩

/-- The rules to be run, in the order they are configured. -/
def planRules (handlers : Handlers) : Entries → StateM Workspace (List PlannedRule)
  | [] => pure []
  | (key, v) :: es => do
    match planRule handlers key v with
    | .ok rule => return rule :: (← planRules handlers es)
    | .error told =>
      told.forM fun e => modify (·.tell e)
      planRules handlers es

/-- How rules are to be run. -/
structure RunRequest where
  /-- The working directory. -/
  directory : Path
  /-- The type configuration, if one is named. -/
  config : Option String := none
  /-- Whether to repair. -/
  fix : Bool := false
  deriving Inhabited

/-- Run a rule. -/
def runRule (q : RunRequest) (rule : PlannedRule) : StateM Workspace RuleRun := do
  match ← rule.handler ⟨q.directory, q.config, rule.setting.options, q.fix⟩ with
  | .ok result => return ⟨rule.name, result⟩
  | .error message =>
    modify (·.tell (.ruleFailed rule.name))
    return ⟨rule.name, failedResult message⟩

/-- Plan and run rules. -/
def runRules (handlers : Handlers) (q : RunRequest) (es : Entries) :
    StateM Workspace (List RuleRun) := do
  let rules ← planRules handlers es
  rules.mapM (runRule q)

end RouteLint
