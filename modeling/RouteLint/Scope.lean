import RouteLint.Data.Table
import RouteLint.Syntax.Tree

/-!
# Scopes of modules

The scope of a module tabulates what the module declares, imports and exports, by name and in the
order in which the names first appear.  A name exported twice is exported as the last statement
says.

## Main definitions

* `Scope` — the tables.
* `Scope.ofModule` — the scope of a module.
* `Scope.declarations` — what a name stands for inside the module.
* `Scope.exportedDeclarations` — what the module itself declares and exports.
-/

namespace RouteLint

open Syntax

namespace Scope

/-- Where an imported name comes from. -/
structure Import where
  /-- The module it is imported from. -/
  specifier : String
  /-- The name it has there. -/
  name : String
  deriving DecidableEq, Repr, Inhabited

/-- What an exported name stands for. -/
structure Export where
  /-- The name inside the module, or in the module it comes from. -/
  name : String
  /-- The module it comes from, if that is another. -/
  specifier : Option String
  deriving DecidableEq, Repr, Inhabited

end Scope

/-- What a module declares, imports and exports. -/
structure Scope where
  /-- Aliases and interfaces by name. -/
  types : Table String (List TypeDeclaration) := []
  /-- Functions with a body by name. -/
  functions : Table String (List FunctionDeclaration) := []
  /-- All other values by name. -/
  values : Table String (List ValueDeclaration) := []
  /-- Imports by the name they have here. -/
  imports : Table String Scope.Import := []
  /-- Exports by the name they have outside. -/
  exports : Table String Scope.Export := []
  /-- The modules of which everything is exported. -/
  starExports : List String := []
  deriving Repr, Inhabited

namespace Scope

/-- Add a declaration. -/
def declare (s : Scope) : Declaration → Scope
  | .type d => { s with types := s.types.append d.name d }
  | .function d => { s with functions := s.functions.append d.name d }
  | .value d => { s with values := s.values.append d.name d }

/-- Export a name. -/
def exportAs (s : Scope) (outside : String) (e : Export) : Scope :=
  { s with exports := s.exports.set outside e }

/-- Export names of declarations as a statement says: each under its own name, or the first as
the default. -/
def exportDeclared (s : Scope) (names : List String) : Exporting → Scope
  | .none => s
  | .named => names.foldl (fun s n => s.exportAs n ⟨n, none⟩) s
  | .default =>
    match names with
    | n :: _ => s.exportAs "default" ⟨n, none⟩
    | [] => s

/-- Add what a statement declares, imports or exports. -/
def read (s : Scope) : Statement → Scope
  | .imports specifier names =>
    names.foldl
      (fun s n => { s with imports := s.imports.set n.here ⟨specifier, n.there.value⟩ }) s
  | .exports names specifier =>
    names.foldl
      (fun s n =>
        let outside := (n.renamed.map ModuleName.written).getD n.name.value
        s.exportAs outside ⟨n.name.value, specifier⟩) s
  | .exportsAll specifier => { s with starExports := s.starExports ++ [specifier] }
  | .declares exporting ds =>
    (ds.foldl declare s).exportDeclared (ds.map Declaration.name) exporting
  | .other => s

/-- The scope of a module. -/
def ofModule (m : Module) : Scope := m.statements.foldl read {}

/-- What a name stands for inside the module: functions first, then other values, then types. -/
def declarations (s : Scope) (name : String) : List Declaration :=
  (s.functions.list name).map .function ++ (s.values.list name).map .value ++
    (s.types.list name).map .type

/-- What the module declares itself under each of its exported names.  Names that come from other
modules, or stand for nothing, are left out. -/
def exportedDeclarations (s : Scope) : Table String (List Declaration) :=
  s.exports.filterMap fun (outside, e) =>
    match e.specifier, s.declarations e.name with
    | none, d :: ds => some (outside, d :: ds)
    | _, _ => none

end Scope

end RouteLint
