import RouteLint.Proofs.Data.Related
import RouteLint.Proofs.Disk.Places
import RouteLint.Proofs.Project.VisibleTypes
import RouteLint.Proofs.Syntax.Equality
import RouteLint.Proofs.Typing.Graphs

/-!
# Names in quotes

A name in an import or export list can be written as a word or, with the same characters, as a
string.  A scope keeps all of these names without quotes but one: a name that something is exported
as keeps its quotes.  So modules that write the same names with and without quotes, and write alike
what they export things as, have the same imports, the same exports and the same handlers; and in
projects of such modules names lead to the same types.

## Main definitions

* `Module.Requoted` — modules that differ in the quotes around names, and in places.
* `Module.aliases` — what a module writes behind the word `as` when it exports something.
* `Bench.Requoted` — projects of such modules.
* `Bench.viewGraph` — what a project answers, as typing sees it.

## Main results

* `Scope.ofModule_bare_of_requoted`, `Scope.tables_of_requoted` — such modules have the same scope,
  up to places.
* `Bench.Tidy.visibleTypes_viewGraph` — what names lead to is worked out from what a project answers.
* `requoted_alike` — **quotes around names do not matter**, unless something is exported as a name
  in quotes.
* `requoted_alias_differs` — then they do.
-/

namespace RouteLint

namespace Syntax

/-! ### Names without quotes -/

/-- A name without quotes. -/
def ModuleName.unquoted (n : ModuleName) : ModuleName := .identifier n.value

/-- An imported name without quotes; what it makes known here is a word anyway. -/
def ImportedName.unquoted (n : ImportedName) : ImportedName := { n with there := n.there.unquoted }

/-- An exported name without quotes. -/
def ExportedName.unquoted (n : ExportedName) : ExportedName :=
  ⟨n.name.unquoted, n.renamed.map ModuleName.unquoted⟩

namespace Statement

/-- A statement with all names in lists without quotes. -/
def unquoted : Statement → Statement
  | .imports specifier names => .imports specifier (names.map ImportedName.unquoted)
  | .exports names specifier => .exports (names.map ExportedName.unquoted) specifier
  | t => t

/-- What a statement writes behind the word `as` when it exports something. -/
def aliases : Statement → List (Option ModuleName)
  | .exports names _ => names.map ExportedName.renamed
  | _ => []

end Statement

namespace Module

/-- Modules that differ in the quotes around the names in import and export lists, and in places. -/
def Requoted (m m' : Module) : Prop :=
  m.bare.statements.map Statement.unquoted = m'.bare.statements.map Statement.unquoted

instance (m m' : Module) : Decidable (m.Requoted m') := inferInstanceAs (Decidable (_ = _))

/-- What a module writes behind the word `as` when it exports something, by statement. -/
def aliases (m : Module) : List (List (Option ModuleName)) := m.statements.map Statement.aliases

theorem aliases_bare (m : Module) : m.bare.aliases = m.aliases := by
  unfold aliases bare renew
  rw [List.map_map]
  refine List.map_congr_left fun t _ => ?_
  cases t <;> rfl

end Module

end Syntax

open Syntax

/-! ### Scopes -/

namespace Syntax.Statement

/-- The exports of a statement of which the names are without quotes and the aliases are known. -/
def exportedAs (aliases : List (Option ModuleName)) : Statement → List (String × Scope.Export)
  | .exports names specifier =>
    aliases.zipWith (fun a n => ((a.map ModuleName.written).getD n.name.value,
      ⟨n.name.value, specifier⟩)) names
  | t => t.exportedBy ExportedName.kept

theorem exportedBy_kept_eq (t : Statement) :
    t.exportedBy ExportedName.kept = t.unquoted.exportedAs t.aliases := by
  cases t with
  | exports names specifier =>
    show (names.map fun n => (n.kept, (⟨n.name.value, specifier⟩ : Scope.Export))) =
      List.zipWith _ (names.map ExportedName.renamed) (names.map ExportedName.unquoted)
    induction names with
    | nil => rfl
    | cons n names ih =>
      rw [List.map_cons, ih]
      rfl
  | imports | exportsAll | declares | other => rfl

theorem imported_unquoted (t : Statement) : t.unquoted.imported = t.imported := by
  cases t with
  | imports specifier names =>
    show (names.map ImportedName.unquoted).map _ = names.map _
    rw [List.map_map]
    rfl
  | exports | exportsAll | declares | other => rfl

theorem declared_unquoted (t : Statement) : t.unquoted.types = t.types ∧
    t.unquoted.functions = t.functions ∧ t.unquoted.values = t.values ∧
    t.unquoted.starExports = t.starExports := by
  cases t <;> exact ⟨rfl, rfl, rfl, rfl⟩

end Syntax.Statement

namespace Scope

/-- A statement writes the same with other quotes and the same aliases. -/
theorem read_of_requoted {t t' : Statement} (h : t.unquoted = t'.unquoted)
    (haliases : t.aliases = t'.aliases) (s : Scope) : s.read t = s.read t' := by
  obtain ⟨htypes, hfunctions, hvalues, hstar⟩ := t.declared_unquoted
  obtain ⟨htypes', hfunctions', hvalues', hstar'⟩ := t'.declared_unquoted
  rw [read_eq, read_eq, ← htypes, ← hfunctions, ← hvalues, ← hstar, ← t.imported_unquoted,
    t.exportedBy_kept_eq, ← htypes', ← hfunctions', ← hvalues', ← hstar', ← t'.imported_unquoted,
    t'.exportedBy_kept_eq, h, haliases]

theorem foldl_read_of_requoted {ts ts' : List Statement}
    (h : ts.map Statement.unquoted = ts'.map Statement.unquoted)
    (haliases : ts.map Statement.aliases = ts'.map Statement.aliases) (s : Scope) :
    ts.foldl read s = ts'.foldl read s := by
  induction ts generalizing ts' s with
  | nil =>
    rw [List.map_eq_nil_iff.1 h.symm]
  | cons t ts ih =>
    obtain ⟨t', rest, rfl, ht, hrest⟩ := List.map_eq_cons_iff.1 h.symm
    obtain ⟨halias, haliases⟩ := List.cons.inj haliases
    rw [List.foldl_cons, List.foldl_cons, read_of_requoted ht.symm halias]
    exact ih hrest.symm haliases _

variable {m m' : Module}

/-- **Modules with other quotes and the same aliases have the same scope**, up to places. -/
theorem ofModule_bare_of_requoted (h : m.Requoted m') (haliases : m.aliases = m'.aliases) :
    ofModule m.bare = ofModule m'.bare := by
  rw [← m.aliases_bare, ← m'.aliases_bare] at haliases
  exact foldl_read_of_requoted h haliases {}

theorem renew_of_requoted (h : m.Requoted m') (haliases : m.aliases = m'.aliases) :
    (ofModule m).renew .bare = (ofModule m').renew .bare := by
  rw [← ofModule_renew, ← ofModule_renew]
  exact ofModule_bare_of_requoted h haliases

/-- They have the same imports and exports, and the same handlers up to places. -/
theorem tables_of_requoted (h : m.Requoted m') (haliases : m.aliases = m'.aliases) :
    (ofModule m').imports = (ofModule m).imports ∧ (ofModule m').exports = (ofModule m).exports ∧
      (handlers (ofModule m')).map Handler.bare = (handlers (ofModule m)).map Handler.bare := by
  have hscope := renew_of_requoted h haliases
  have hhandlers := congrArg handlers hscope
  rw [handlers_renew, handlers_renew] at hhandlers
  exact ⟨(congrArg Scope.imports hscope).symm, (congrArg Scope.exports hscope).symm, hhandlers.symm⟩

theorem view_of_requoted (h : m.Requoted m') (haliases : m.aliases = m'.aliases) :
    (ofModule m).view = (ofModule m').view := by
  unfold view
  rw [renew_of_requoted h haliases]

end Scope

/-! ### Projects -/

open Project

/-- Two projects over the same files, which hold modules that differ in quotes around names but not
in what stands behind the word `as` when something is exported. -/
structure Bench.Requoted (b b' : Bench) : Prop where
  home : b'.home = b.home
  config : b'.project.config = b.project.config
  shape : b'.disk.shape = b.disk.shape
  /-- Files can be loaded in both projects or in neither. -/
  sources : ∀ p : Path, p.Plain →
    Related (fun s s' => s.module.Requoted s'.module ∧ s.module.aliases = s'.module.aliases)
      (outcome (sourceAt p) b).1 (outcome (sourceAt p) b').1

/-- What a project answers, as typing sees it. -/
def Bench.viewGraph (b : Bench) : ModuleGraph (Except Project.Error) where
  scope file := (outcome (scopeOf file) b).1.map Scope.view
  target importer specifier := (outcome (target importer specifier) b).1

/-- Work with one result at a bench and all benches that grow from it, and that result up to a
map. -/
def Bench.results (b : Bench) : Coupling Work (Except Project.Error) where
  Maps ψ x y := ∃ r, b.Yields x r ∧ y = r.map ψ
  pure ψ a := ⟨.ok a, .pure a, rfl⟩
  bind := by
    rintro α β γ δ ψ χ x y f g ⟨r, hr, rfl⟩ hf
    cases r with
    | error err => exact ⟨.error err, hr.bind_error, rfl⟩
    | ok a =>
      obtain ⟨s, hs, hg⟩ := hf a
      exact ⟨s, hr.bind hs, hg⟩

variable {b b' : Bench}

theorem Bench.Tidy.answers (hb : b.Tidy) : b.results.Answers Project.graph b.viewGraph where
  scope file := ⟨_, hb.scopeOf file, rfl⟩
  target importer specifier :=
    ⟨_, b.yields_target importer specifier, (congrFun Except.map_id _).symm⟩

/-- **What names lead to is worked out from what a project answers.** -/
theorem Bench.Tidy.visibleTypes_viewGraph (hb : b.Tidy) (file : Path) (name : String) :
    visibleTypes b.viewGraph file name =
      (outcome (visibleTypes Project.graph file name) b).1.map (List.map DeclaredType.bare) := by
  obtain ⟨r, hr, hview⟩ := hb.answers.visibleTypes file name
  rw [hview, hr.eq]

namespace Bench.Requoted

theorem scope_eq (h : b.Requoted b') (hb : b.Tidy) (hb' : b'.Tidy) (file : Path) :
    b'.viewGraph.scope file = b.viewGraph.scope file := by
  unfold viewGraph
  dsimp only
  rw [scopeOf_result hb, scopeOf_result hb', h.home]
  rcases (h.sources _ (Path.absolute_plain b.home file)).cases with
    ⟨s, s', hs, hs', hrequoted, haliases⟩ | ⟨err, herr, herr'⟩
  · rw [hs, hs']
    exact congrArg Except.ok (Scope.view_of_requoted hrequoted haliases).symm
  · rw [herr, herr']

theorem target_eq (h : b.Requoted b') (importer : Path) (specifier : String) :
    b'.viewGraph.target importer specifier = b.viewGraph.target importer specifier := by
  have hcandidates : b'.project.candidates importer specifier =
      b.project.candidates importer specifier := by
    unfold candidates
    rw [h.config]
  unfold viewGraph target
  dsimp only
  rw [outcome_get_bind, outcome_get_bind, hcandidates, ← firstModule_shape b'.disk, h.shape,
    firstModule_shape]
  cases firstModule b.disk (b.project.candidates importer specifier) with
  | error err => rfl
  | ok found =>
    cases found with
    | none => rfl
    | some q =>
      dsimp only
      rw [outcome_map, outcome_map, fetch_result, fetch_result, h.home]
      rw [(h.sources _ (Path.absolute_plain b.home q)).map_const]

/-- Both projects answer alike. -/
theorem viewGraph_eq (h : b.Requoted b') (hb : b.Tidy) (hb' : b'.Tidy) :
    b'.viewGraph = b.viewGraph := by
  have hscope : b'.viewGraph.scope = b.viewGraph.scope := funext (h.scope_eq hb hb')
  have htarget : b'.viewGraph.target = b.viewGraph.target :=
    funext fun importer => funext (h.target_eq importer)
  exact (congrArg₂ ModuleGraph.mk hscope htarget :)

end Bench.Requoted

/-- **Quotes around names do not matter**, unless something is exported as a name in quotes.  Let two
projects differ in the quotes around the names in import and export lists, but not in what stands
behind the word `as` where something is exported.  Then every file has the same imports, the same
exports and the same handlers in both, or can be loaded in none; and every name in it leads to the
same types in the same files.  Handlers and types are compared up to their places, since quotes move
what follows them. -/
theorem requoted_alike (hb : b.Tidy) (hb' : b'.Tidy) (h : b.Requoted b') (file : Path) :
    Related (fun s s' =>
        (Scope.ofModule s'.module).imports = (Scope.ofModule s.module).imports ∧
        (Scope.ofModule s'.module).exports = (Scope.ofModule s.module).exports ∧
        (handlers (Scope.ofModule s'.module)).map Handler.bare =
          (handlers (Scope.ofModule s.module)).map Handler.bare)
      (outcome (sourceAt (b.home.absolute file)) b).1
      (outcome (sourceAt (b'.home.absolute file)) b').1 ∧
    ∀ name, (outcome (visibleTypes Project.graph file name) b').1.map (List.map DeclaredType.bare) =
      (outcome (visibleTypes Project.graph file name) b).1.map (List.map DeclaredType.bare) := by
  constructor
  · rw [h.home]
    exact (h.sources _ (Path.absolute_plain _ _)).imp fun s s' hs =>
      Scope.tables_of_requoted hs.1 hs.2
  · intro name
    rw [← hb.visibleTypes_viewGraph, ← hb'.visibleTypes_viewGraph, h.viewGraph_eq hb hb']

/-! ### Names with and without quotes -/

namespace Requoting

/-- A project without loaded files over a disk with some files, given by their lines. -/
def bench (files : List (String × List String)) : Bench :=
  OnDisk.bench (files.map fun e => (e.1, bytesOfLines e.2))

/-- Lines can be read. -/
theorem exists_decodeChars_bytesOfLines (lines : List String) :
    ∃ cs, Utf8.decodeChars (bytesOfLines lines) = .ok cs := by
  rw [bytesOfLines_eq, Utf8.decodeChars_encodeChars]
  exact ⟨_, rfl⟩

/-- Files with some lines hold modules with other quotes and the same aliases. -/
def Requotes (lines lines' : List String) : Prop :=
  (Module.parse .typescript (bytesOfLines lines)).Requoted
    (Module.parse .typescript (bytesOfLines lines')) ∧
  (Module.parse .typescript (bytesOfLines lines)).aliases =
    (Module.parse .typescript (bytesOfLines lines')).aliases

instance (lines lines' : List String) : Decidable (Requotes lines lines') :=
  inferInstanceAs (Decidable (_ ∧ _))

/-- Sources that hold modules with other quotes and the same aliases. -/
def RequotesSource (s s' : Source) : Prop :=
  s.module.Requoted s'.module ∧ s.module.aliases = s'.module.aliases

/-- Such files can be loaded in both projects. -/
theorem Requotes.related_readSource {lines lines' : List String} (h : Requotes lines lines')
    {p : Path} (hp : Language.ofPath p = .ok .typescript) {d d' : Disk}
    (hread : d.read p = .ok (bytesOfLines lines)) (hread' : d'.read p = .ok (bytesOfLines lines')) :
    Related RequotesSource (readSource Module.parse d p) (readSource Module.parse d' p) := by
  rw [readSource_eq_ok.2 ⟨_, _, hp, hread, exists_decodeChars_bytesOfLines lines, rfl⟩,
    readSource_eq_ok.2 ⟨_, _, hp, hread', exists_decodeChars_bytesOfLines lines', rfl⟩]
  exact .ok h

/-- The same TypeScript files with other quotes. -/
def RequotesFiles (files files' : List (String × List String)) : Prop :=
  List.Forall₂ (fun e e' => e.1 = e'.1 ∧
    Language.ofPath (OnDisk.place e.1) = .ok .typescript ∧ Requotes e.2 e'.2) files files'

variable {files files' : List (String × List String)}

/-- The disks have the same places, with such files. -/
theorem RequotesFiles.entries (h : RequotesFiles files files') :
    Table.Related (fun k e e' => Language.ofPath ⟨.slash, k⟩ = .ok .typescript ∧
        ∃ lines lines', e = .file (bytesOfLines lines) ∧ e' = .file (bytesOfLines lines') ∧
          Requotes lines lines')
      (bench files).disk.entries (bench files').disk.entries := by
  unfold bench OnDisk.bench Table.Related
  dsimp only
  rw [List.map_map, List.map_map, List.forall₂_map_left_iff, List.forall₂_map_right_iff]
  exact List.Forall₂.imp
    (fun e e' he => ⟨congrArg (fun n => [n]) he.1, he.2.1, _, _, rfl, rfl, he.2.2⟩) h

theorem RequotesFiles.shape (h : RequotesFiles files files') :
    (bench files').disk.shape = (bench files).disk.shape := by
  have hshape : ∀ fs, (bench fs).disk.shape = ⟨(fs.map Prod.fst).map fun n => ([n], .file [])⟩ := by
    intro fs
    unfold bench OnDisk.bench Disk.shape Table.mapValues
    dsimp only
    rw [List.map_map, List.map_map, List.map_map]
    rfl
  have hnames : files.map Prod.fst = files'.map Prod.fst := by
    induction h with
    | nil => rfl
    | cons he _ ih => rw [List.map_cons, List.map_cons, he.1, ih]
  rw [hshape, hshape, hnames]

theorem RequotesFiles.related_readSource (h : RequotesFiles files files') {p : Path}
    (hp : p.Plain) :
    Related RequotesSource (readSource Module.parse (bench files).disk p)
      (readSource Module.parse (bench files').disk p) := by
  rcases Disk.read_cases_of_shape h.shape hp with
    ⟨content, content', hread, hread', hentry, hentry'⟩ | ⟨failure, hread, hread'⟩
  · have hplace := h.entries.get? p.parts
    rw [Disk.get?_of_entry_eq hentry, Disk.get?_of_entry_eq hentry'] at hplace
    cases hplace with
    | some hfiles =>
      obtain ⟨hlanguage, lines, lines', hfile, hfile', hlines⟩ := hfiles
      cases hfile
      cases hfile'
      rw [← hp.1] at hlanguage
      exact hlines.related_readSource hlanguage hread hread'
  · rw [readSource_eq, readSource_eq, hread, hread']
    cases Language.ofPath p <;> exact .error _

/-- Projects over such files differ in quotes. -/
theorem RequotesFiles.requoted (h : RequotesFiles files files') :
    (bench files).Requoted (bench files') := by
  refine ⟨rfl, rfl, h.shape, fun p hp => ?_⟩
  have hloaded : ∀ fs, (outcome (sourceAt p) (bench fs)).1 =
      (readSource Module.parse (bench fs).disk p).mapError (.unloadable p) :=
    fun fs => sourceAt_result p (bench fs)
  rw [hloaded, hloaded]
  rcases (h.related_readSource hp).cases with ⟨s, s', hs, hs', hmodules⟩ | ⟨cause, herr, herr'⟩
  · rw [hs, hs']
    exact .ok hmodules
  · rw [herr, herr']
    exact .error (Project.Error.unloadable p cause)

/-- An interface and a function that are exported from a list, by way of an import:
```
| import {X as T} from "./b"
```
```
| interface I{}
| function h(){}
| export {I as X, h as GET}
``` -/
def words : List (String × List String) :=
  [("a.ts", ["import \x7bX as T\x7d from \"./b\""]),
    ("b.ts", ["interface I\x7b\x7d", "function h()\x7b\x7d",
      "export \x7bI as X, h as GET\x7d"])]

/-- The same with quotes around the name that is imported and around those that are exported:
```
| import {"X" as T} from "./b"
```
```
| interface I{}
| function h(){}
| export {"I" as X, "h" as GET}
``` -/
def strings : List (String × List String) :=
  [("a.ts", ["import \x7b\"X\" as T\x7d from \"./b\""]),
    ("b.ts", ["interface I\x7b\x7d", "function h()\x7b\x7d",
      "export \x7b\"I\" as X, \"h\" as GET\x7d"])]

/-- A module that exports a function as a word or as a string with some characters. -/
def exporting (name : String) : Module :=
  Module.parse .typescript
    (bytesOfLines ["function h()\x7b\x7d", "export \x7bh as " ++ name ++ "\x7d"])

set_option maxRecDepth 100000 in
/-- The files differ by quotes, and what is found in those without. -/
theorem requotes_found : (Requotes ["import \x7bX as T\x7d from \"./b\""]
        ["import \x7b\"X\" as T\x7d from \"./b\""] ∧
      Requotes ["interface I\x7b\x7d", "function h()\x7b\x7d", "export \x7bI as X, h as GET\x7d"]
        ["interface I\x7b\x7d", "function h()\x7b\x7d",
          "export \x7b\"I\" as X, \"h\" as GET\x7d"]) ∧
    (outcome (sourceAt (OnDisk.place "b.ts")) (bench words)).1.toOption.map
        (fun s => (handlers (Scope.ofModule s.module)).length) = some 1 ∧
      (outcome (visibleTypes Project.graph (OnDisk.place "a.ts") "T")
        (bench words)).1.toOption.map List.length = some 1 := by
  simp only [Requotes, bench, OnDisk.bench_eq, ← eagerParse_eq]
  decide +kernel

theorem tidy (files : List (String × List String)) : (bench files).Tidy := OnDisk.tidy _

theorem requoted_files : (bench words).Requoted (bench strings) :=
  RequotesFiles.requoted
    (.cons ⟨rfl, rfl, requotes_found.1.1⟩ (.cons ⟨rfl, rfl, requotes_found.1.2⟩ .nil))

set_option maxRecDepth 100000 in
theorem differing : (exporting "GET").Requoted (exporting "\"GET\"") ∧
    (Scope.ofModule (exporting "GET")).exports = [("GET", ⟨"h", none⟩)] ∧
    (Scope.ofModule (exporting "\"GET\"")).exports = [("\"GET\"", ⟨"h", none⟩)] ∧
    (handlers (Scope.ofModule (exporting "GET"))).length = 1 ∧
    (handlers (Scope.ofModule (exporting "\"GET\""))).length = 0 := by
  simp only [exporting, ← eagerParse_eq]
  decide +kernel

end Requoting

open Requoting in
/-- A handler and an interface are found with and without quotes around their names. -/
theorem requoted_alike_lists :
    (bench words).Tidy ∧ (bench strings).Tidy ∧ (bench words).Requoted (bench strings) ∧
    (∃ s, (outcome (sourceAt (OnDisk.place "b.ts")) (bench strings)).1 = .ok s ∧
      (handlers (Scope.ofModule s.module)).length = 1) ∧
    ∃ ds, (outcome (visibleTypes Project.graph (OnDisk.place "a.ts") "T")
      (bench strings)).1.map (List.map DeclaredType.bare) = .ok ds ∧ ds.length = 1 := by
  have halike := requoted_alike (tidy words) (tidy strings) requoted_files
  obtain ⟨hhandlers, htypes⟩ := requotes_found.2
  refine ⟨tidy _, tidy _, requoted_files, ?_, ?_⟩
  · obtain ⟨s, hs, hlength⟩ := Option.map_eq_some_iff.1 hhandlers
    obtain ⟨s', hs', -, -, hsame⟩ :=
      (halike (OnDisk.place "b.ts")).1.exists_ok (except_ok_of_toOption hs)
    refine ⟨s', hs', ?_⟩
    have hcount := congrArg List.length hsame
    rwa [List.length_map, List.length_map, hlength] at hcount
  · obtain ⟨ds, hds, hlength⟩ := Option.map_eq_some_iff.1 htypes
    rw [(halike (OnDisk.place "a.ts")).2 "T", except_ok_of_toOption hds]
    exact ⟨_, rfl, (List.length_map _).trans hlength⟩

open Requoting in
/-- A function that is exported as the name of a method is a handler, and none with quotes around
that name. -/
theorem requoted_alias_differs :
    (exporting "GET").Requoted (exporting "\"GET\"") ∧
    (Scope.ofModule (exporting "\"GET\"")).exports ≠
      (Scope.ofModule (exporting "GET")).exports ∧
    (handlers (Scope.ofModule (exporting "GET"))).length = 1 ∧
    handlers (Scope.ofModule (exporting "\"GET\"")) = [] := by
  obtain ⟨hrequoted, hwords, hstrings, hlength, hnone⟩ := differing
  refine ⟨hrequoted, ?_, hlength, List.eq_nil_of_length_eq_zero hnone⟩
  rw [hwords, hstrings]
  decide

end RouteLint
