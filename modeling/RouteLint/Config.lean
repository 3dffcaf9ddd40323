import RouteLint.Json.File
import RouteLint.Rules.Run

/-!
# Configurations

A configuration is a JSON object that sets rules, among settings of other tools, which are kept as
they are.  A configuration that cannot be read counts as an empty one, and that is told.

## Main definitions

* `Config` — a configuration.
* `Config.load` — the configuration in a file.
* `Config.withPreset` — a configuration with the rules of a preset below its own.
-/

namespace RouteLint

open Validation

/-- Other configurations to start from. -/
inductive Config.Extends where
  /-- Several of them. -/
  | several (names : List CodePoints)
  /-- One of them. -/
  | one (name : CodePoints)

/-- A configuration. -/
structure Config where
  /-- The schema it follows. -/
  schema : Option CodePoints := none
  /-- The configurations it starts from. -/
  extendsFrom : Option Config.Extends := none
  /-- Settings of the linter. -/
  linter : Option Entries := none
  /-- Settings of the formatter. -/
  formatter : Option Entries := none
  /-- Settings about files. -/
  files : Option Entries := none
  /-- Rules and their settings. -/
  rules : Entries := []
  /-- Everything else. -/
  others : Entries := []
  deriving Inhabited

namespace Config

/-- One name or several; if it is neither, what is wrong with it as either. -/
def Extends.check (v : Json.Value) : Checked Extends :=
  match listOf text v, text v with
  | .valid names, _ => .valid (.several names)
  | _, .valid name => .valid (.one name)
  | .invalid asList, .invalid asName =>
    .invalid
      (asList.map (fun i => ⟨"list[str]" :: i.location, i.kind⟩) ++
        asName.map fun i => ⟨"str" :: i.location, i.kind⟩)

/-- The field of the schema. -/
def schemaField : Field := ⟨"$schema", "schema_url"⟩

/-- The field of the rules. -/
def rulesField : Field := ⟨"biomeRules", "biome_rules"⟩

/-- All fields. -/
def fields : List Field :=
  [schemaField, .named "extends", .named "linter", .named "formatter", .named "files", rulesField]

/-- A configuration read from a JSON value. -/
def check (v : Json.Value) : Checked Config :=
  object v fun es =>
    Config.mk <$> optional es schemaField none (nullable text) <*>
      optional es (.named "extends") none (nullable Extends.check) <*>
      optional es (.named "linter") none (nullable entries) <*>
      optional es (.named "formatter") none (nullable entries) <*>
      optional es (.named "files") none (nullable entries) <*>
      optional es rulesField [] entries <*>
      .valid (extras es fields)

/-- The configurations to start from as JSON. -/
def Extends.toJson : Extends → Json.Value
  | .several names => .array (names.map .text)
  | .one name => .text name

/-- Something that may be missing, as JSON. -/
def orNull {α : Type} (f : α → Json.Value) (a : Option α) : Json.Value := (a.map f).getD .null

/-- A configuration as JSON: its fields under their outer names, then everything else. -/
def toJson (c : Config) : Json.Value :=
  .object
    ([(.ofString "$schema", orNull .text c.schema),
      (.ofString "extends", orNull Extends.toJson c.extendsFrom),
      (.ofString "linter", orNull .object c.linter),
      (.ofString "formatter", orNull .object c.formatter),
      (.ofString "files", orNull .object c.files),
      (.ofString "biomeRules", .object c.rules)] ++ c.others)

/-- The configuration in a file, or why there is none. -/
def read (d : Disk) (path : Path) : Except String Config :=
  match Json.readFile d path with
  | .error e => .error e.message
  | .ok v => (check v).toExcept.mapError report

/-- The configuration in a file; an empty one if it cannot be read. -/
def load (path : String) : StateM Workspace Config := do
  let w ← get
  match read w.disk (w.home.absolute (Path.parse path)) with
  | .ok c => return c
  | .error reason =>
    modify (·.tell (.configUnusable path reason))
    return {}

/-- A configuration with the rules of a preset below its own. -/
def withPreset (c : Config) (name : Option String) : Config :=
  match name with
  | some n => if n.isEmpty then c else { c with rules := (preset n).merge c.rules }
  | none => c

end Config

end RouteLint
