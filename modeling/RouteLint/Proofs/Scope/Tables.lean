import Mathlib.Data.List.Induction
import RouteLint.Proofs.Data.Once
import RouteLint.Proofs.Data.Table
import RouteLint.Routes.Handler

/-!
# What the tables of a scope hold

A scope is filled statement by statement, and a name that comes again replaces what was written
under it.  Read off the statements themselves, its tables are plain: functions stand under their
names in the order of their declarations, and a name is exported as the last statement that exports
it says.  So the handlers of a module can be said without tables, and it does not matter whether
something is exported before or after it is declared.

## Main definitions

* `Module.types`, `Module.functions`, `Module.values` — what a module declares.
* `Module.imported`, `Module.starExports` — its imports, and what it exports wholesale.
* `Module.exportedBy` — its exports, under a rule that says how names are written.
* `Module.lastImport`, `Module.lastExport` — what its last word on a name is.

## Main results

* `Scope.read_eq` — what a statement writes into a scope.
* `Scope.ofModule_eq` — **the tables of a scope.**
* `handlers_ofModule` — **the handlers of a module, read off its statements.**
-/

namespace RouteLint

/-! ### Lists without repetitions -/

section Once

variable {α : Type} [DecidableEq α]

/-- Elements stand in the order in which they first come. -/
theorem pairwise_once (l : List α) : (once l).Pairwise fun a b => l.idxOf a < l.idxOf b := by
  induction l using List.reverseRecOn with
  | nil => exact .nil
  | append_singleton l x ih =>
    have hidx : ∀ {a}, a ∈ once l → (l ++ [x]).idxOf a = l.idxOf a := fun ha =>
      List.idxOf_append_of_mem (mem_once.1 ha)
    have hold : (once l).Pairwise fun a b => (l ++ [x]).idxOf a < (l ++ [x]).idxOf b := by
      refine ih.imp_of_mem fun ha hb hab => ?_
      rw [hidx ha, hidx hb]
      exact hab
    rw [once_append_singleton, putOnce]
    split
    · exact hold
    · next hx =>
      have hnew : x ∉ l := fun hmem => hx (List.contains_iff_mem.2 (mem_once.2 hmem))
      refine List.pairwise_append.2 ⟨hold, List.pairwise_singleton _ _, fun a ha b hb => ?_⟩
      rw [List.mem_singleton.1 hb, hidx ha, List.idxOf_append_of_notMem hnew]
      exact Nat.lt_of_lt_of_le (List.idxOf_lt_length_iff.2 (mem_once.1 ha)) (Nat.le_add_right _ _)

/-- Leaving elements out before or after. -/
theorem filter_once (p : α → Bool) (l : List α) : (once l).filter p = once (l.filter p) := by
  induction l using List.reverseRecOn with
  | nil => rfl
  | append_singleton l x ih =>
    rw [once_append_singleton, List.filter_append]
    cases hp : p x with
    | false =>
      have hx : [x].filter p = [] := by simp [hp]
      rw [hx, List.append_nil, ← ih, putOnce]
      split
      · rfl
      · rw [List.filter_append, hx, List.append_nil]
    | true =>
      have hx : [x].filter p = [x] := by simp [hp]
      have hmem : (once l).contains x = (once (l.filter p)).contains x := by
        rw [Bool.eq_iff_iff, List.contains_iff_mem, List.contains_iff_mem, mem_once, mem_once,
          List.mem_filter, and_iff_left hp]
      rw [hx, once_append_singleton, putOnce, putOnce, hmem]
      split
      · exact ih
      · rw [List.filter_append, hx, ih]

end Once

/-! ### Statements -/

namespace Syntax

/-- The type a declaration is. -/
def Declaration.type? : Declaration → Option TypeDeclaration
  | .type d => some d
  | _ => none

/-- The function a declaration is. -/
def Declaration.function? : Declaration → Option FunctionDeclaration
  | .function f => some f
  | _ => none

/-- The value a declaration is, if it is no function. -/
def Declaration.value? : Declaration → Option ValueDeclaration
  | .value v => some v
  | _ => none

namespace Statement

/-- The types a statement declares. -/
def types : Statement → List TypeDeclaration
  | .declares _ ds => ds.filterMap Declaration.type?
  | _ => []

/-- The functions a statement declares. -/
def functions : Statement → List FunctionDeclaration
  | .declares _ ds => ds.filterMap Declaration.function?
  | _ => []

/-- The other values a statement declares. -/
def values : Statement → List ValueDeclaration
  | .declares _ ds => ds.filterMap Declaration.value?
  | _ => []

/-- The names a statement imports. -/
def imported : Statement → List (String × Scope.Import)
  | .imports specifier names => names.map fun n => (n.here, ⟨specifier, n.there.value⟩)
  | _ => []

/-- The exports a statement makes, with a rule that says under which name something in a list is
exported. -/
def exportedBy (naming : ExportedName → String) : Statement → List (String × Scope.Export)
  | .exports names specifier => names.map fun n => (naming n, ⟨n.name.value, specifier⟩)
  | .declares .named ds => ds.map fun d => (d.name, ⟨d.name, none⟩)
  | .declares .default ds => (ds.take 1).map fun d => ("default", ⟨d.name, none⟩)
  | _ => []

/-- The module of which a statement exports everything. -/
def starExports : Statement → List String
  | .exportsAll specifier => [specifier]
  | _ => []

end Statement

/-- The name that a scope keeps something in a list under: with its quotes if it is renamed. -/
def ExportedName.kept (n : ExportedName) : String :=
  (n.renamed.map ModuleName.written).getD n.name.value

/-- The name something in a list is exported as. -/
def ExportedName.outside (n : ExportedName) : String := (n.renamed.getD n.name).value

namespace Module

/-- The types a module declares, in order. -/
def types (m : Module) : List TypeDeclaration := m.statements.flatMap Statement.types

/-- The functions a module declares, in order. -/
def functions (m : Module) : List FunctionDeclaration := m.statements.flatMap Statement.functions

/-- The other values a module declares, in order. -/
def values (m : Module) : List ValueDeclaration := m.statements.flatMap Statement.values

/-- The names a module imports, in order. -/
def imported (m : Module) : List (String × Scope.Import) := m.statements.flatMap Statement.imported

/-- The exports a module makes, in order. -/
def exportedBy (naming : ExportedName → String) (m : Module) : List (String × Scope.Export) :=
  m.statements.flatMap (Statement.exportedBy naming)

/-- The modules of which a module exports everything, in order. -/
def starExports (m : Module) : List String := m.statements.flatMap Statement.starExports

/-- What the last import of a name says. -/
def lastImport (m : Module) (name : String) : Option Scope.Import := Table.last? m.imported name

/-- The exports of a module, in order. -/
def exported (m : Module) : List (String × Scope.Export) := m.exportedBy ExportedName.outside

/-- What the last export of a name says. -/
def lastExport (m : Module) (name : String) : Option Scope.Export := Table.last? m.exported name

end Module

end Syntax

open Syntax

namespace Scope

/-! ### What one statement does -/

theorem foldl_declare (ds : List Declaration) (s : Scope) :
    ds.foldl declare s =
      { s with
        types := s.types.collect TypeDeclaration.name (ds.filterMap Declaration.type?)
        functions :=
          s.functions.collect FunctionDeclaration.name (ds.filterMap Declaration.function?)
        values := s.values.collect ValueDeclaration.name (ds.filterMap Declaration.value?) } := by
  induction ds generalizing s with
  | nil => rfl
  | cons d ds ih =>
    rw [List.foldl_cons, ih]
    cases d <;> rfl

/-- Exporting one after the other writes the entries one after the other. -/
theorem foldl_exportAs {ι : Type} (f : ι → String × Export) (l : List ι) (s : Scope) :
    l.foldl (fun s i => s.exportAs (f i).1 (f i).2) s =
      { s with exports := s.exports.merge (l.map f) } := by
  induction l generalizing s with
  | nil => rfl
  | cons i l ih =>
    rw [List.foldl_cons, ih]
    rfl

/-- So does importing. -/
theorem foldl_imports {ι : Type} (f : ι → String × Import) (l : List ι) (s : Scope) :
    l.foldl (fun s i => { s with imports := s.imports.set (f i).1 (f i).2 }) s =
      { s with imports := s.imports.merge (l.map f) } := by
  induction l generalizing s with
  | nil => rfl
  | cons i l ih =>
    rw [List.foldl_cons, ih]
    rfl

/-- Exporting declared names writes the exports of the statement. -/
theorem exportDeclared_eq (ds : List Declaration) (e : Exporting) (s : Scope) :
    s.exportDeclared (ds.map Declaration.name) e =
      { s with
        exports := s.exports.merge ((Statement.declares e ds).exportedBy ExportedName.kept) } := by
  cases e with
  | none => rfl
  | named =>
    have hexport := foldl_exportAs (fun n => (n, ⟨n, none⟩)) (ds.map Declaration.name) s
    rw [List.map_map] at hexport
    exact hexport
  | default => cases ds <;> rfl

/-- **What a statement writes into the tables of a scope.** -/
theorem read_eq (s : Scope) (t : Statement) :
    s.read t =
      { types := s.types.collect TypeDeclaration.name t.types
        functions := s.functions.collect FunctionDeclaration.name t.functions
        values := s.values.collect ValueDeclaration.name t.values
        imports := s.imports.merge t.imported
        exports := s.exports.merge (t.exportedBy ExportedName.kept)
        starExports := s.starExports ++ t.starExports } := by
  cases t with
  | imports specifier names =>
    have himports := foldl_imports (fun n => (n.here, ⟨specifier, n.there.value⟩)) names s
    exact himports.trans (by simp only [Statement.starExports, List.append_nil]; rfl)
  | exports names specifier =>
    have hexports := foldl_exportAs (fun n => (n.kept, ⟨n.name.value, specifier⟩)) names s
    exact hexports.trans (by simp only [Statement.starExports, List.append_nil]; rfl)
  | exportsAll specifier => rfl
  | declares exporting ds =>
    have hexports := exportDeclared_eq ds exporting (ds.foldl declare s)
    rw [foldl_declare] at hexports
    have hread : s.read (.declares exporting ds) =
        (ds.foldl declare s).exportDeclared (ds.map Declaration.name) exporting := rfl
    rw [hread, foldl_declare]
    exact hexports.trans (by simp only [Statement.starExports, List.append_nil]; rfl)
  | other => simp only [read, Statement.starExports, List.append_nil]; rfl

/-! ### What a module does -/

theorem foldl_read (ts : List Statement) (s : Scope) :
    ts.foldl read s =
      { types := s.types.collect TypeDeclaration.name (ts.flatMap Statement.types)
        functions := s.functions.collect FunctionDeclaration.name (ts.flatMap Statement.functions)
        values := s.values.collect ValueDeclaration.name (ts.flatMap Statement.values)
        imports := s.imports.merge (ts.flatMap Statement.imported)
        exports := s.exports.merge (ts.flatMap (Statement.exportedBy ExportedName.kept))
        starExports := s.starExports ++ ts.flatMap Statement.starExports } := by
  induction ts generalizing s with
  | nil => simp only [List.foldl_nil, List.flatMap_nil, List.append_nil]; rfl
  | cons t ts ih =>
    rw [List.foldl_cons, ih, read_eq]
    simp only [List.flatMap_cons, Table.collect, Table.merge, List.foldl_append, List.append_assoc]

/-- **The tables of a scope**, read off the statements of the module. -/
theorem ofModule_eq (m : Module) :
    ofModule m =
      { types := Table.collect TypeDeclaration.name [] m.types
        functions := Table.collect FunctionDeclaration.name [] m.functions
        values := Table.collect ValueDeclaration.name [] m.values
        imports := Table.merge [] m.imported
        exports := Table.merge [] (m.exportedBy ExportedName.kept)
        starExports := m.starExports } :=
  foldl_read m.statements {}

/-- The exports of a scope: each name is written once for every statement that exports it. -/
theorem exports_ofModule (m : Module) :
    (ofModule m).exports = Table.merge [] (m.exportedBy ExportedName.kept) := by
  rw [ofModule_eq]

/-- The functions of a scope under a name, in the order of their declarations. -/
theorem list_functions_ofModule (m : Module) (name : String) :
    (ofModule m).functions.list name = m.functions.filter fun f => f.name = name := by
  rw [ofModule_eq]
  exact Table.list_collect _ _ _ _

/-! ### Handlers -/

/-- The functions that an exported name stands for. -/
theorem filterMap_of?_declarations (s : Scope) (outside inside : String) :
    (s.declarations inside).filterMap (Handler.of? outside) =
      (s.functions.list inside).map (Handler.mk outside) := by
  unfold declarations
  have hfunctions : ((s.functions.list inside).map Declaration.function).filterMap
      (Handler.of? outside) = (s.functions.list inside).map (Handler.mk outside) := by
    rw [List.filterMap_map]
    exact congrFun List.filterMap_eq_map' _
  have hvalues : ((s.values.list inside).map Declaration.value).filterMap
      (Handler.of? outside) = [] := by
    rw [List.filterMap_map]
    exact List.filterMap_eq_nil_iff.2 fun _ _ => rfl
  have htypes : ((s.types.list inside).map Declaration.type).filterMap
      (Handler.of? outside) = [] := by
    rw [List.filterMap_map]
    exact List.filterMap_eq_nil_iff.2 fun _ _ => rfl
  rw [List.filterMap_append, List.filterMap_append, hfunctions, hvalues, htypes, List.append_nil,
    List.append_nil]

end Scope

/-- The handlers in a scope, export by export. -/
theorem handlers_eq_flatMap (s : Scope) : handlers s = s.exports.flatMap fun e =>
    if e.1 ∈ httpMethods ∧ e.2.specifier = none then
      (s.functions.list e.2.name).map (Handler.mk e.1) else [] := by
  unfold handlers Scope.exportedDeclarations
  rw [List.filterMap_eq_flatMap_toList, List.filter_flatMap, List.flatMap_assoc]
  refine List.flatMap_congr fun e _ => ?_
  obtain ⟨outside, inside, specifier⟩ := e
  cases specifier with
  | some specifier => simp
  | none =>
    have hof := s.filterMap_of?_declarations outside inside
    cases hds : s.declarations inside with
    | nil =>
      rw [hds] at hof
      simp [hds, ← hof]
    | cons d ds =>
      rw [hds] at hof
      by_cases hmethod : outside ∈ httpMethods <;> simp [hds, ← hof, hmethod]

/-- The handlers of a module that exports under kept names. -/
theorem handlers_ofModule (m : Module) : handlers (Scope.ofModule m) =
    (once ((m.exportedBy ExportedName.kept).map Prod.fst)).flatMap fun n =>
      if n ∈ httpMethods then
        (m.functions.filter fun f =>
          Table.last? (m.exportedBy ExportedName.kept) n = some ⟨f.name, none⟩).map (Handler.mk n)
      else [] := by
  rw [handlers_eq_flatMap, Scope.exports_ofModule,
    (Table.distinct_merge Table.distinct_nil _).flatMap_eq, Table.keys_merge]
  refine List.flatMap_congr fun n hn => ?_
  rw [Table.get?_merge, Table.get?_nil, Option.or_none]
  rcases Table.last? (m.exportedBy ExportedName.kept) n with _ | ⟨inside, specifier⟩
  · simp
  · rw [Option.map_some, Option.getD_some]
    by_cases hmethod : n ∈ httpMethods
    · cases specifier with
      | some specifier => simp
      | none =>
        simp only [hmethod, if_true, Scope.list_functions_ofModule, Option.some.injEq,
          Scope.Export.mk.injEq, and_true]
        simp only [eq_comm]
    · simp [hmethod]

end RouteLint
