import RouteLint.Routes.Check
import RouteLint.Validation.Scalars

/-!
# Settings of rules

A rule is set to a level, or to a list of a level and options.  Options may hold more than is known
here; what is not known is kept.

## Main definitions

* `RuleLevel`, `RuleOptions`, `RuleSetting` — levels, options and settings.
* `SettingError` — why a value is no setting.
* `RuleSetting.read` — the setting a value writes.
-/

namespace RouteLint

open Validation

/-- How much a rule matters. -/
inductive RuleLevel where
  | off
  | warn
  | error
  deriving DecidableEq, Repr, Inhabited

namespace RuleLevel

/-- The name of a level. -/
def name : RuleLevel → String
  | .off => "off"
  | .warn => "warn"
  | .error => "error"

/-- All levels. -/
def all : List RuleLevel := [.off, .warn, .error]

/-- The level a value names. -/
def read? (v : Json.Value) : Option RuleLevel :=
  match v with
  | .text t => all.find? fun l => CodePoints.ofString l.name = t
  | _ => none

end RuleLevel

/-- Options of a rule. -/
structure RuleOptions where
  /-- The pattern of the files to be checked. -/
  pattern : CodePoints := .ofString defaultPattern
  /-- Whether to repair. -/
  fix : Bool := false
  /-- All other options. -/
  others : Entries := []
  deriving Inhabited

/-- Options read from the entries of an object. -/
def RuleOptions.check (es : Entries) : Checked RuleOptions :=
  let pattern := Field.named "pattern"
  let fix := Field.named "fix"
  RuleOptions.mk <$> optional es pattern (.ofString defaultPattern) text <*>
    optional es fix false truth <*>
    .valid (extras es [pattern, fix])

/-- A rule's level and options. -/
structure RuleSetting where
  /-- The level. -/
  level : RuleLevel
  /-- The options. -/
  options : RuleOptions
  deriving Inhabited

/-- Why a value is no setting. -/
inductive SettingError where
  /-- It is neither a text nor a list with an entry. -/
  | setting (v : Json.Value)
  /-- The level is none of those there are. -/
  | level (v : Json.Value)
  /-- The options are no object. -/
  | options (v : Json.Value)
  /-- The options have the wrong form. -/
  | form (issues : List Issue)

/-- The wording of an error. -/
def SettingError.message : SettingError → String
  | .setting v => "Invalid rule setting: " ++ v.display
  | .level v =>
    "Invalid rule level " ++ v.display ++ ". Expected one of: " ++
      ", ".intercalate (RuleLevel.all.map RuleLevel.name)
  | .options v => "Rule options must be an object, got " ++ v.kind
  | .form issues => report issues

namespace RuleSetting

/-- The options a value writes; null means none. -/
def readOptions : Json.Value → Except SettingError RuleOptions
  | .null => .ok {}
  | .object es => (RuleOptions.check es).toExcept.mapError .form
  | v => .error (.options v)

/-- The setting a level and options write. -/
def readParts (level options : Json.Value) : Except SettingError RuleSetting :=
  match RuleLevel.read? level with
  | none => .error (.level level)
  | some l => (fun o => ⟨l, o⟩) <$> readOptions options

/-- The setting a value writes.  What follows the options in a list is ignored. -/
def read (v : Json.Value) : Except SettingError RuleSetting :=
  match v with
  | .text _ => readParts v .null
  | .array (level :: rest) => readParts level (rest.head?.getD .null)
  | _ => .error (.setting v)

end RuleSetting

end RouteLint
