/-!
# Reports

What the check of a rule finds: violations, each at a place in a file, and a message.

## Main definitions

* `Violation`, `RunResult` — a violation, and the result of one rule.
* `RuleRun`, `Summary` — a rule with its result, and the sum of several.
* `summarize` — the sum of several runs.
-/

namespace RouteLint

/-- How severe a violation is. -/
inductive Severity where
  | error
  | warning
  deriving DecidableEq, Repr, Inhabited

/-- The name of a severity. -/
def Severity.name : Severity → String
  | .error => "error"
  | .warning => "warning"

/-- A violation of a rule. -/
structure Violation where
  /-- The file. -/
  filePath : String
  /-- The line, counted from one. -/
  line : Int
  /-- The column in characters, counted from one. -/
  column : Int
  /-- What is wrong. -/
  message : String
  /-- How severe it is. -/
  severity : Severity := .error
  /-- Whether it can be repaired. -/
  fixable : Bool := false
  /-- How it could be repaired. -/
  suggestedFix : Option String := none
  deriving DecidableEq, Repr, Inhabited

/-- The result of checking one rule. -/
structure RunResult where
  /-- Whether nothing is wrong. -/
  success : Bool
  /-- What is wrong. -/
  violations : List Violation := []
  /-- The result in words. -/
  message : String := ""
  deriving DecidableEq, Repr, Inhabited

/-- A rule and its result. -/
structure RuleRun where
  /-- The rule. -/
  rule : String
  /-- Its result. -/
  result : RunResult
  deriving DecidableEq, Repr, Inhabited

/-- The sum of several runs. -/
structure Summary where
  /-- Whether every run was a success. -/
  success : Bool
  /-- How many violations there are. -/
  totalViolations : Nat
  /-- How many rules were run. -/
  ruleCount : Nat
  deriving DecidableEq, Repr, Inhabited

/-- The sum of several runs. -/
def summarize (runs : List RuleRun) : Summary :=
  ⟨runs.all fun r => r.result.success, runs.foldr (fun r n => r.result.violations.length + n) 0,
    runs.length⟩

end RouteLint
