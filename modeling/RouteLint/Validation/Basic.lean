import RouteLint.Data.Table
import RouteLint.Json.Value

/-!
# Checking values against a form

A JSON value is checked against the form it should have.  A check collects everything that is
wrong, each with the place where it is wrong, in the order in which the form names its fields.

A field may be written under two names, one used outside and one used inside; the outer name comes
first.

## Main definitions

* `Issue` — something wrong at a place.
* `Checked` — a value of the right form, or what is wrong with it.
* `Field`, `required`, `optional` — fields of an object.
* `extras` — the fields that no form names.
-/

namespace RouteLint.Validation

/-- What can be wrong with a value. -/
inductive IssueKind where
  | missing
  | modelType
  | stringType
  | dictType
  | listType
  | boolType
  | boolParsing
  | intType
  | intParsing
  | intParsingSize
  | intFromFloat
  | finiteNumber
  | literal
  deriving DecidableEq, Repr

/-- The name of a kind. -/
def IssueKind.name : IssueKind → String
  | .missing => "missing"
  | .modelType => "model_type"
  | .stringType => "string_type"
  | .dictType => "dict_type"
  | .listType => "list_type"
  | .boolType => "bool_type"
  | .boolParsing => "bool_parsing"
  | .intType => "int_type"
  | .intParsing => "int_parsing"
  | .intParsingSize => "int_parsing_size"
  | .intFromFloat => "int_from_float"
  | .finiteNumber => "finite_number"
  | .literal => "literal_error"

/-- Something wrong at a place. -/
structure Issue where
  /-- The way from the whole value to the place. -/
  location : List String
  /-- What is wrong there. -/
  kind : IssueKind
  deriving DecidableEq, Repr

/-- The wording of an issue. -/
def Issue.message (i : Issue) : String := ".".intercalate i.location ++ ": " ++ i.kind.name

/-- The wording of several issues. -/
def report (issues : List Issue) : String :=
  "ValidationError: " ++ "; ".intercalate (issues.map Issue.message)

/-- A value of the right form, or what is wrong with it. -/
inductive Checked (α : Type) where
  /-- The value has the right form. -/
  | valid (a : α)
  /-- It has not. -/
  | invalid (issues : List Issue)
  deriving Repr

namespace Checked

/-- One thing is wrong. -/
def fault {α : Type} (kind : IssueKind) : Checked α := .invalid [⟨[], kind⟩]

/-- Apply a function to a checked value. -/
def map {α β : Type} (f : α → β) : Checked α → Checked β
  | .valid a => .valid (f a)
  | .invalid issues => .invalid issues

/-- Apply a checked function to a checked value; everything wrong with either is collected. -/
def apply {α β : Type} : Checked (α → β) → Checked α → Checked β
  | .valid f, .valid a => .valid (f a)
  | .valid _, .invalid issues => .invalid issues
  | .invalid issues, .valid _ => .invalid issues
  | .invalid issues, .invalid more => .invalid (issues ++ more)

instance : Applicative Checked where
  pure := .valid
  map := map
  seq f x := apply f (x ())

/-- The issues of a value that stands at a place. -/
def under {α : Type} (part : String) : Checked α → Checked α
  | .valid a => .valid a
  | .invalid issues => .invalid (issues.map fun i => ⟨part :: i.location, i.kind⟩)

/-- As a result or a list of issues. -/
def toExcept {α : Type} : Checked α → Except (List Issue) α
  | .valid a => .ok a
  | .invalid issues => .error issues

end Checked

/-- The entries of an object. -/
abbrev Entries := Table CodePoints Json.Value

/-- A field: the name it has outside, and the name it has inside. -/
structure Field where
  /-- The name it has outside. -/
  outside : String
  /-- The name it has inside. -/
  inside : String

/-- A field with one name. -/
def Field.named (name : String) : Field := ⟨name, name⟩

/-- The name a field is written under and its value. -/
def Field.find? (f : Field) (entries : Entries) : Option (String × Json.Value) :=
  match entries.get? (.ofString f.outside) with
  | some v => some (f.outside, v)
  | none => (entries.get? (.ofString f.inside)).map fun v => (f.inside, v)

/-- A field that must be there. -/
def required {α : Type} (entries : Entries) (f : Field) (check : Json.Value → Checked α) :
    Checked α :=
  match f.find? entries with
  | some (name, v) => (check v).under name
  | none => .invalid [⟨[f.outside], .missing⟩]

/-- A field that may be left out. -/
def optional {α : Type} (entries : Entries) (f : Field) (fallback : α)
    (check : Json.Value → Checked α) : Checked α :=
  match f.find? entries with
  | some (name, v) => (check v).under name
  | none => .valid fallback

/-- The entries that are none of the fields. -/
def extras (entries : Entries) (fields : List Field) : Entries :=
  let used := fields.filterMap fun f => (f.find? entries).map fun e => CodePoints.ofString e.1
  entries.filter fun e => !used.contains e.1

/-- A value that must be an object. -/
def object {α : Type} (v : Json.Value) (check : Entries → Checked α) : Checked α :=
  match v with
  | .object entries => check entries
  | _ => .fault .modelType

end RouteLint.Validation
