import Mathlib.Data.List.Basic
import RouteLint.Proofs.Data.Table
import RouteLint.Routes.Handler

/-!
# Scopes of renewed modules

A renewal changes the declarations of a module one by one and keeps their names.  The scope of the
renewed module is then the renewed scope, and its handlers are the renewed handlers: tables are
made by name, and whatever else a declaration holds is only carried along.

## Main definitions

* `Renewal` — a change of declarations that keeps their names.
* `Module.renew`, `Scope.renew`, `Handler.renew` — its effect.

## Main results

* `Scope.ofModule_renew` — **the scope of a renewed module is the renewed scope.**
* `handlers_renew` — and its handlers are the renewed handlers.
-/

namespace RouteLint.Syntax

/-- A change of declarations that keeps their names. -/
structure Renewal where
  /-- What becomes of a type. -/
  type : TypeDeclaration → TypeDeclaration
  /-- What becomes of a function. -/
  function : FunctionDeclaration → FunctionDeclaration
  /-- What becomes of any other value. -/
  value : ValueDeclaration → ValueDeclaration
  type_name : ∀ d, (type d).name = d.name
  function_name : ∀ f, (function f).name = f.name
  value_name : ∀ v, (value v).name = v.name

/-- A declaration after a renewal. -/
def Declaration.renew (c : Renewal) : Declaration → Declaration
  | .type d => .type (c.type d)
  | .function f => .function (c.function f)
  | .value v => .value (c.value v)

@[simp] theorem Declaration.renew_name (c : Renewal) (d : Declaration) :
    (d.renew c).name = d.name := by
  cases d with
  | type d => exact c.type_name d
  | function f => exact c.function_name f
  | value v => exact c.value_name v

/-- A statement after a renewal. -/
def Statement.renew (c : Renewal) : Statement → Statement
  | .declares exporting ds => .declares exporting (ds.map (Declaration.renew c))
  | s => s

/-- A module after a renewal. -/
def Module.renew (c : Renewal) (m : Module) : Module :=
  { m with statements := m.statements.map (Statement.renew c) }

end RouteLint.Syntax

namespace RouteLint

open Syntax

variable (c : Renewal)

/-- A handler after a renewal. -/
def Handler.renew (h : Handler) : Handler := { h with declaration := c.function h.declaration }

namespace Scope

/-- A scope after a renewal. -/
def renew (s : Scope) : Scope :=
  { s with
    types := s.types.mapValues (List.map c.type)
    functions := s.functions.mapValues (List.map c.function)
    values := s.values.mapValues (List.map c.value) }

theorem declare_renew (s : Scope) (d : Declaration) :
    (s.renew c).declare (d.renew c) = (s.declare d).renew c := by
  cases d with
  | type d => simp only [declare, renew, Declaration.renew, Table.mapValues_append, c.type_name]
  | function f =>
    simp only [declare, renew, Declaration.renew, Table.mapValues_append, c.function_name]
  | value v => simp only [declare, renew, Declaration.renew, Table.mapValues_append, c.value_name]

theorem exportDeclared_renew (s : Scope) (names : List String) (e : Exporting) :
    (s.renew c).exportDeclared names e = (s.exportDeclared names e).renew c := by
  cases e with
  | none => rfl
  | named => exact List.foldl_hom (renew c) fun s n => rfl
  | default => cases names <;> rfl

theorem read_renew (s : Scope) (t : Statement) :
    (s.renew c).read (t.renew c) = (s.read t).renew c := by
  cases t with
  | imports specifier names => exact List.foldl_hom (renew c) fun s n => rfl
  | exports names specifier => exact List.foldl_hom (renew c) fun s n => rfl
  | exportsAll specifier => rfl
  | declares exporting ds =>
    have hnames :
        (ds.map (Declaration.renew c)).map Declaration.name = ds.map Declaration.name := by
      rw [List.map_map]
      exact List.map_congr_left fun d _ => Declaration.renew_name c d
    have hdeclare : (ds.map (Declaration.renew c)).foldl declare (s.renew c) =
        (ds.foldl declare s).renew c := by
      rw [List.foldl_map]
      exact List.foldl_hom (renew c) (declare_renew c)
    simp only [read, Statement.renew]
    rw [hnames, hdeclare, exportDeclared_renew]
  | other => rfl

/-- **The scope of a renewed module is the renewed scope.** -/
theorem ofModule_renew (m : Module) : ofModule (m.renew c) = (ofModule m).renew c := by
  unfold ofModule Module.renew
  rw [List.foldl_map]
  show List.foldl (fun s t => s.read (t.renew c)) (renew c {}) m.statements = _
  exact List.foldl_hom (renew c) (read_renew c)

theorem declarations_renew (s : Scope) (name : String) :
    (s.renew c).declarations name = (s.declarations name).map (Declaration.renew c) := by
  simp only [declarations, renew, Table.list_mapValues, List.map_append, List.map_map]
  rfl

theorem exportedDeclarations_renew (s : Scope) :
    (s.renew c).exportedDeclarations =
      s.exportedDeclarations.mapValues (List.map (Declaration.renew c)) := by
  unfold exportedDeclarations Table.mapValues
  rw [List.map_filterMap]
  refine List.filterMap_congr fun e _ => ?_
  obtain ⟨outside, inside, specifier⟩ := e
  cases specifier with
  | some t => rfl
  | none =>
    simp only [declarations_renew]
    cases s.declarations inside <;> rfl

end Scope

/-- The handlers of a renewed scope are the renewed handlers. -/
theorem handlers_renew (s : Scope) : handlers (s.renew c) = (handlers s).map (Handler.renew c) := by
  unfold handlers
  rw [Scope.exportedDeclarations_renew, Table.mapValues, List.filter_map, List.flatMap_map,
    List.map_flatMap]
  refine List.flatMap_congr fun e _ => ?_
  obtain ⟨name, ds⟩ := e
  simp only
  rw [List.filterMap_map, List.map_filterMap]
  refine List.filterMap_congr fun d _ => ?_
  cases d <;> rfl

end RouteLint
