import RouteLint.Proofs.Project.VisibleTypes

/-!
# Types that are exported as the default

A module can export a type as its default where it declares the type, or in a list that renames the
type; the list may stand before or after the declaration.  Both ways end in the same entry of the
exports table, so a file that imports the default finds all declarations with the name, in order.

A third way is to write the name of the type as the value of the default.  Such a statement is read
as one that declares and exports nothing, and the import leads nowhere.

## Main definitions

* `Statement.Defaults`, `Module.DefaultsTo` — **the last word on the default is a given name.**
* `Module.HasNoDefault` — nothing is exported as the default.
* `Bench.ImportsDefault` — a file imports the default of another one.

## Main results

* `Module.DefaultsTo.lastKept` — both ways make one entry.
* `visibleTypes_default` — **a file that imports the default finds the declarations of the type.**
* `visibleTypes_default_value` — it finds none if the name is written as a value.
-/

namespace RouteLint

open Syntax

namespace Syntax

/-! ### The default of a module -/

/-- A statement exports what a name stands for as the default, and exports nothing else as the
default after that. -/
inductive Statement.Defaults (name : String) : Statement → Prop
  /-- It declares a type with the name: `export default interface N {..}`. -/
  | declared {d : TypeDeclaration} {ds : List Declaration} (h : d.name = name) :
    Defaults name (.declares .default (.type d :: ds))
  /-- It lists the name: `export { N as default }`. -/
  | listed {inner : ModuleName} {before after : List ExportedName} (h : inner.value = name)
    (hafter : ∀ n ∈ after, n.kept ≠ "default") :
    Defaults name (.exports (before ++ ⟨inner, some (.identifier "default")⟩ :: after) none)

namespace Module

/-- A statement of a module exports what a name stands for as the default, and no later statement
exports a default. -/
def DefaultsTo (m : Module) (name : String) : Prop :=
  ∃ before t after, m.statements = before ++ t :: after ∧ t.Defaults name ∧
    ∀ t' ∈ after, ∀ e ∈ t'.exportedBy ExportedName.kept, e.1 ≠ "default"

/-- No statement of a module exports a default. -/
def HasNoDefault (m : Module) : Prop :=
  ∀ t ∈ m.statements, ∀ e ∈ t.exportedBy ExportedName.kept, e.1 ≠ "default"

instance (m : Module) : Decidable m.HasNoDefault :=
  inferInstanceAs (Decidable (∀ t ∈ m.statements, ∀ e ∈ t.exportedBy ExportedName.kept, _))

end Module

/-- Both ways make the same entry. -/
theorem Statement.Defaults.exists_split {t : Statement} {name : String} (h : t.Defaults name) :
    ∃ before after, t.exportedBy ExportedName.kept =
        before ++ ("default", (⟨name, none⟩ : Scope.Export)) :: after ∧
      ∀ e ∈ after, e.1 ≠ "default" := by
  cases h with
  | declared h =>
    subst h
    exact ⟨[], [], rfl, nofun⟩
  | listed h hafter =>
    subst h
    refine ⟨_, _, List.map_append, fun e he => ?_⟩
    obtain ⟨n, hn, rfl⟩ := List.mem_map.1 he
    exact hafter n hn

variable {m : Module} {name : String}

/-- **The last entry for the default is that of the name**, wherever the statement stands. -/
theorem Module.DefaultsTo.lastKept (h : m.DefaultsTo name) :
    Table.last? (m.exportedBy ExportedName.kept) "default" = some ⟨name, none⟩ := by
  obtain ⟨before, t, after, hm, ht, hlater⟩ := h
  obtain ⟨entries, entries', hsplit, hentries⟩ := ht.exists_split
  have hall : m.exportedBy ExportedName.kept =
      (before.flatMap (Statement.exportedBy ExportedName.kept) ++ entries) ++
        ("default", ⟨name, none⟩) ::
          (entries' ++ after.flatMap (Statement.exportedBy ExportedName.kept)) := by
    rw [Module.exportedBy, hm, List.flatMap_append, List.flatMap_cons, hsplit, List.append_assoc,
      List.append_assoc, List.cons_append]
  refine Table.last?_of_split hall fun e he => ?_
  rcases List.mem_append.1 he with he | he
  · exact hentries e he
  · obtain ⟨t', ht', he⟩ := List.mem_flatMap.1 he
    exact hlater t' ht' e he

theorem Module.HasNoDefault.lastKept (h : m.HasNoDefault) :
    Table.last? (m.exportedBy ExportedName.kept) "default" = none := by
  refine Table.last?_eq_none fun e he => ?_
  obtain ⟨t, ht, he⟩ := List.mem_flatMap.1 he
  exact h t ht e he

end Syntax

/-! ### Looking up what is imported as the default -/

open Project

variable {b : Bench} {file importer : Path} {s : Source}

/-- A name that a file declares. -/
theorem Bench.Tidy.yields_lookupType (hb : b.Tidy)
    (h : (outcome (sourceAt (b.home.absolute file)) b).1 = .ok s) {name : String}
    (hdeclared : ∃ d ∈ s.module.types, d.name = name) (n : Nat) :
    b.Yields (lookupType Project.graph (n + 1) file name)
      (.ok ((s.module.types.filter fun d => d.name = name).map fun d => ⟨d, file⟩)) := by
  rw [lookupType]
  refine (hb.yields_scope h).bind ?_
  have hne : (s.module.types.filter fun d => d.name = name) ≠ [] := by
    obtain ⟨d, hd, hname⟩ := hdeclared
    exact List.ne_nil_of_mem (List.mem_filter.2 ⟨hd, decide_eq_true hname⟩)
  rw [get?_types_ofModule, if_neg hne]
  exact .pure _

/-- A name that a file does not declare is looked up where it is imported from. -/
theorem Bench.Tidy.yields_lookupType_import (hb : b.Tidy)
    (h : (outcome (sourceAt (b.home.absolute importer)) b).1 = .ok s) {name : String}
    (hown : ∀ d ∈ s.module.types, d.name ≠ name) {i : Scope.Import}
    (hi : s.module.lastImport name = some i)
    (htarget : (outcome (target importer i.specifier) b).1 = .ok (some file)) {n : Nat}
    {r : Except Project.Error (List DeclaredType)}
    (hexport : b.Yields (lookupExport Project.graph n file i.name) r) :
    b.Yields (lookupType Project.graph (n + 1) importer name) r := by
  rw [lookupType]
  refine (hb.yields_scope h).bind ?_
  have hnone : (s.module.types.filter fun d => d.name = name) = [] :=
    List.filter_eq_nil_iff.2 fun d hd => by simpa using hown d hd
  rw [get?_types_ofModule, if_pos hnone, get?_imports_ofModule, hi]
  have hyields := b.yields_target importer i.specifier
  rw [htarget] at hyields
  exact hyields.bind hexport

/-- A file imports the default of another file under a name that it declares no type with; the
other file holds a module. -/
structure Bench.ImportsDefault (b : Bench) (importer : Path) (name : String) (file : Path)
    (m : Module) : Prop where
  /-- The last import of the name is that of the default, and leads to the other file. -/
  imports : ∃ s specifier, (outcome (sourceAt (b.home.absolute importer)) b).1 = .ok s ∧
    (∀ d ∈ s.module.types, d.name ≠ name) ∧
    s.module.lastImport name = some ⟨specifier, "default"⟩ ∧
    (outcome (target importer specifier) b).1 = .ok (some file)
  /-- The other file can be loaded. -/
  holds : ∃ t, (outcome (sourceAt (b.home.absolute file)) b).1 = .ok t ∧ t.module = m

/-- What the other file exports as the default is what the file finds. -/
theorem Bench.ImportsDefault.visibleTypes_eq {m : Module} {name : String}
    (h : b.ImportsDefault importer name file m) (hb : b.Tidy)
    {r : Except Project.Error (List DeclaredType)}
    (hexport : b.Yields (lookupExport Project.graph maxDepth file "default") r) :
    (outcome (visibleTypes Project.graph importer name) b).1 = r := by
  obtain ⟨s, specifier, hs, hown, himport, htarget⟩ := h.imports
  exact (hb.yields_lookupType_import hs hown himport htarget hexport).eq.symm

/-- **A file that imports the default of another file finds the type there that is exported as the
default**, by whichever of the two ways, and wherever the export stands: it finds all aliases and
interfaces that the other file declares with the name, in order.  If the other file exports no
default and nothing wholesale, it finds none. -/
theorem visibleTypes_default (hb : b.Tidy) {name : String} {m : Module}
    (h : b.ImportsDefault importer name file m) :
    (∀ inner, m.DefaultsTo inner → (∃ d ∈ m.types, d.name = inner) →
      (outcome (visibleTypes Project.graph importer name) b).1 =
        .ok ((m.types.filter fun d => d.name = inner).map fun d => ⟨d, file⟩)) ∧
    (m.HasNoDefault → m.starExports = [] →
      (outcome (visibleTypes Project.graph importer name) b).1 = .ok []) := by
  obtain ⟨t, ht, rfl⟩ := h.holds
  constructor
  · intro inner hdefault hdeclared
    refine h.visibleTypes_eq hb ?_
    rw [maxDepth, lookupExport]
    refine (hb.yields_scope ht).bind ?_
    rw [get?_exports_kept, hdefault.lastKept]
    exact hb.yields_lookupType ht hdeclared _
  · intro hdefault hstar
    refine h.visibleTypes_eq hb ?_
    rw [maxDepth, lookupExport]
    refine (hb.yields_scope ht).bind ?_
    rw [get?_exports_kept, hdefault.lastKept, starExports_ofModule, hstar]
    exact .pure []

/-! ### A list, and a value -/

namespace Defaulted

open OnDisk

/-- A file that imports the default of another one, which has some lines:
```
| import X from "./b"
``` -/
def files (lines : List String) : List (String × Bytes) :=
  [("a.ts", bytesOfLines ["import X from \"./b\""]), ("b.ts", bytesOfLines lines)]

/-- A list that renames an interface before its two declarations. -/
def listing : List (String × Bytes) :=
  files ["export \x7bI as default\x7d", "interface I\x7ba:x\x7d", "interface I\x7bb:y\x7d"]

/-- The name of an interface as the value of the default, after its declaration. -/
def value : List (String × Bytes) := files ["interface I\x7ba:x\x7d", "export default I;"]

/-- What two files on a disk hold. -/
def modules (files : List (String × Bytes)) : Modules :=
  (bench files).modules [place "a.ts", place "b.ts"]

/-- What the other file holds. -/
def other (files : List (String × Bytes)) : Module := (modules files).module (place "b.ts")

/-- The one file imports the default of the other one. -/
def Imports (files : List (String × Bytes)) : Prop :=
  (bench files).Closed [place "a.ts", place "b.ts"] ∧
    (∀ d ∈ ((modules files).module (place "a.ts")).types, d.name ≠ "X") ∧
    ((modules files).module (place "a.ts")).lastImport "X" = some ⟨"./b", "default"⟩ ∧
    (modules files).target (place "a.ts") "./b" = some (place "b.ts")

instance (files : List (String × Bytes)) : Decidable (Imports files) :=
  inferInstanceAs (Decidable (_ ∧ (∀ d ∈ _, _) ∧ _ ∧ _))

theorem Imports.importsDefault {files : List (String × Bytes)} (h : Imports files) :
    (bench files).ImportsDefault (place "a.ts") "X" (place "b.ts") (other files) := by
  obtain ⟨hclosed, hown, himport, htarget⟩ := h
  have hfile : place "a.ts" ∈ [place "a.ts", place "b.ts"] := List.mem_cons_self
  have hholds := hclosed.holds
  refine ⟨?_, hholds.module _ (List.mem_cons_of_mem _ List.mem_cons_self)⟩
  obtain ⟨s, hs, hmodule⟩ := hholds.module _ hfile
  have hlead := hholds.target _ hfile _ (Module.mem_specifiers_of_import himport)
  unfold modules at hown himport htarget
  rw [htarget] at hlead
  rw [← hmodule] at hown himport
  exact ⟨s, _, hs, hown, himport, hlead⟩

/-- The name that the first statement of a module lists as the default. -/
def listed? (m : Module) : Option String :=
  match m.statements with
  | .exports [⟨inner, some (.identifier "default")⟩] none :: _ => some inner.value
  | _ => none

theorem defaultsTo_of_listed? {m : Module} {name : String} (h : listed? m = some name)
    (hlater : ∀ t ∈ m.statements.tail, ∀ e ∈ t.exportedBy ExportedName.kept, e.1 ≠ "default") :
    m.DefaultsTo name := by
  unfold listed? at h
  split at h
  · next inner rest hm =>
    rw [hm] at hlater
    have hfirst : Statement.Defaults name
        (.exports ([] ++ ⟨inner, some (.identifier "default")⟩ :: []) none) :=
      .listed (Option.some.inj h) nofun
    exact ⟨[], _, rest, hm, hfirst, hlater⟩
  · cases h

set_option maxRecDepth 100000 in
theorem assumed_listing : Imports listing ∧ listed? (other listing) = some "I" ∧
    (∀ t ∈ (other listing).statements.tail,
      ∀ e ∈ t.exportedBy ExportedName.kept, e.1 ≠ "default") ∧
    (∃ d ∈ (other listing).types, d.name = "I") ∧
    ((other listing).types.filter fun d => d.name = "I").length = 2 := by
  simp only [Imports, other, modules, bench_eq]
  decide +kernel

set_option maxRecDepth 100000 in
theorem assumed_value : Imports value ∧ (other value).HasNoDefault ∧
    (other value).starExports = [] ∧ (∃ d ∈ (other value).types, d.name = "I") ∧
    (outcome (visibleTypes Project.graph (place "a.ts") "X") (bench value)).1.toOption.map
      List.length = some 0 := by
  simp only [Imports, other, modules, bench_eq]
  decide +kernel

end Defaulted

open OnDisk Defaulted in
/-- A list leads to both declarations of an interface; a module without a default leads nowhere. -/
theorem visibleTypes_default_listing :
    ((bench listing).Tidy ∧
      (bench listing).ImportsDefault (place "a.ts") "X" (place "b.ts") (other listing) ∧
      (other listing).DefaultsTo "I" ∧ (∃ d ∈ (other listing).types, d.name = "I") ∧
      ∃ ds, (outcome (visibleTypes Project.graph (place "a.ts") "X") (bench listing)).1 = .ok ds ∧
        ds.length = 2) ∧
    (bench value).Tidy ∧
      (bench value).ImportsDefault (place "a.ts") "X" (place "b.ts") (other value) ∧
      (other value).HasNoDefault ∧ (other value).starExports = [] ∧
      (outcome (visibleTypes Project.graph (place "a.ts") "X") (bench value)).1 = .ok [] := by
  constructor
  · obtain ⟨himports, hlisted, hlater, hdeclared, hlength⟩ := assumed_listing
    have hdefault := defaultsTo_of_listed? hlisted hlater
    have hfound := (visibleTypes_default (tidy _) himports.importsDefault).1 "I" hdefault hdeclared
    exact ⟨tidy _, himports.importsDefault, hdefault, hdeclared, _, hfound,
      (List.length_map _).trans hlength⟩
  · obtain ⟨himports, hdefault, hstar, -⟩ := assumed_value
    exact ⟨tidy _, himports.importsDefault, hdefault, hstar,
      (visibleTypes_default (tidy _) himports.importsDefault).2 hdefault hstar⟩

open OnDisk Defaulted in
/-- An interface whose name is written as the value of the default is not found. -/
theorem visibleTypes_default_value :
    (bench value).ImportsDefault (place "a.ts") "X" (place "b.ts") (other value) ∧
    (∃ d ∈ (other value).types, d.name = "I") ∧
    (outcome (visibleTypes Project.graph (place "a.ts") "X") (bench value)).1 = .ok [] := by
  obtain ⟨himports, -, -, hdeclared, hfound⟩ := assumed_value
  refine ⟨himports.importsDefault, hdeclared, ?_⟩
  obtain ⟨ds, hds, hnil⟩ := Option.map_eq_some_iff.1 hfound
  rw [except_ok_of_toOption hds, List.eq_nil_of_length_eq_zero hnil]

end RouteLint
