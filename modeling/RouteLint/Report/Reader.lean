import RouteLint.Report
import RouteLint.Validation.Scalars

/-!
# Reports as JSON

Reports written as JSON objects.  Fields that no report has are ignored.

## Main definitions

* `Violation.check`, `RunResult.check`, `RuleRun.check` — reports read from JSON values.
-/

namespace RouteLint

open Validation

/-- The severity a value names. -/
def Severity.check (v : Json.Value) : Checked Severity :=
  match v.string? with
  | some "error" => .valid .error
  | some "warning" => .valid .warning
  | _ => .fault .literal

/-- A violation read from a JSON value. -/
def Violation.check (v : Json.Value) : Checked Violation :=
  object v fun es =>
    Violation.mk <$> required es ⟨"filePath", "file_path"⟩ string <*>
      required es (.named "line") integer <*>
      required es (.named "column") integer <*>
      required es (.named "message") string <*>
      optional es (.named "severity") .error Severity.check <*>
      optional es (.named "fixable") false truth <*>
      optional es ⟨"suggestedFix", "suggested_fix"⟩ none (nullable string)

/-- The result of a rule read from a JSON value. -/
def RunResult.check (v : Json.Value) : Checked RunResult :=
  object v fun es =>
    RunResult.mk <$> required es (.named "success") truth <*>
      optional es (.named "violations") [] (listOf Violation.check) <*>
      optional es (.named "message") "" string

/-- A rule and its result read from a JSON value. -/
def RuleRun.check (v : Json.Value) : Checked RuleRun :=
  object v fun es =>
    RuleRun.mk <$> required es (.named "rule") string <*>
      required es (.named "result") RunResult.check

end RouteLint
