import RouteLint.Proofs.Project.Steadiness
import RouteLint.Proofs.Routes.Deciding
import RouteLint.Proofs.Typing.Lookups

/-!
# The types that a name leads to in a project

In a project the scopes of files are made when they are asked for and kept, and files are loaded
when an import leads to them.  None of this shows in what a name stands for: as long as all files
that imports lead to can be loaded, looking up a name comes to a result, and it finds exactly what
the name leads to within the limit.

## Main definitions

* `Bench.certain` — work that comes to a result.
* `Bench.Holds` — a project whose files and imports are those of given modules.
* `Bench.modules` — the modules that a project sees in some of its files.

## Main results

* `visibleTypes_iff_reaches` — **a name stands for what it leads to.**
* `visibleTypes_quoted` — a name in quotes leads somewhere and stands for nothing.
-/

namespace RouteLint

open Syntax Project

/-! ### Work that comes to a result -/

/-- Coming to one result at a bench and all benches that grow from it, with a property. -/
def Bench.certain (b : Bench) : Assurance Work where
  Ensures x P := ∃ a, b.Yields x (.ok a) ∧ P a
  pure {_ _ a} ha := ⟨a, .pure a, ha⟩
  bind hx hf := by
    obtain ⟨a, ha, hP⟩ := hx
    obtain ⟨c, hc, hQ⟩ := hf a hP
    exact ⟨c, ha.bind hc, hQ⟩

/-! ### Projects and their modules -/

/-- A project whose files and imports are those of given modules. -/
structure Bench.Holds (b : Bench) (M : Modules) : Prop where
  /-- The files can be loaded, and hold what they are said to hold. -/
  module : ∀ file, M.files file →
    ∃ s, (outcome (sourceAt (b.home.absolute file)) b).1 = .ok s ∧ s.module = M.module file
  /-- Imports lead where they are said to lead. -/
  target : ∀ file, M.files file → ∀ specifier ∈ (M.module file).specifiers,
    (outcome (Project.target file specifier) b).1 = .ok (M.target file specifier)
  /-- They lead to files that belong to the modules. -/
  closed : ∀ file, M.files file → ∀ specifier ∈ (M.module file).specifiers,
    ∀ target, M.target file specifier = some target → M.files target

variable {b : Bench}

theorem Bench.Holds.reads {M : Modules} (h : b.Holds M) (hb : b.Tidy) :
    b.certain.Reads Project.graph M where
  scope file hfile := by
    obtain ⟨s, hs, hmodule⟩ := h.module file hfile
    exact ⟨_, hb.yields_scope hs, by rw [hmodule]⟩
  target file hfile specifier hspecifier := by
    have htarget := b.yields_target file specifier
    rw [h.target file hfile specifier hspecifier] at htarget
    exact ⟨_, htarget, rfl⟩
  closed := h.closed

/-- **A name stands for what it leads to.**  Looking it up comes to a result; the result is empty
exactly if the name leads nowhere within the limit, and else consists of all types that the file at
the end of a way declares with the name there, in order. -/
theorem visibleTypes_iff_reaches (hb : b.Tidy) {M : Modules} (hM : b.Holds M)
    (hplain : ∀ file, M.files file → (M.module file).RenamesPlainly) {file : Path}
    (hfile : M.files file) (name : String) :
    ∃ ds, (outcome (visibleTypes Project.graph file name) b).1 = .ok ds ∧
      (ds ≠ [] ↔ ∃ n ≤ maxDepth, ∃ file' name', M.Reaches n (.inside file name) file' name') ∧
      (ds ≠ [] → ∃ n ≤ maxDepth, ∃ file' name',
        M.Reaches n (.inside file name) file' name' ∧ ds = M.declared file' name') := by
  obtain ⟨ds, hds, hfinds⟩ :=
    (lookup_ensures (hM.reads hb) hplain (maxDepth + 1)).1 file name hfile
  have hsound : ds ≠ [] → ∃ n ≤ maxDepth, ∃ file' name',
      M.Reaches n (.inside file name) file' name' ∧ ds = M.declared file' name' := by
    intro hne
    obtain ⟨n, hn, hway⟩ := hfinds.sound hne
    exact ⟨n, Nat.le_of_lt_succ hn, hway⟩
  refine ⟨ds, hds.eq.symm, ⟨fun hne => ?_, ?_⟩, hsound⟩
  · obtain ⟨n, hn, file', name', hreaches, -⟩ := hsound hne
    exact ⟨n, hn, file', name', hreaches⟩
  · rintro ⟨n, hn, file', name', hreaches⟩
    exact hfinds.complete n (Nat.lt_succ_of_le hn) file' name' hreaches

/-! ### Modules as a project sees them -/

/-- The modules that a project sees in some of its files. -/
def Bench.modules (b : Bench) (files : List Path) : Modules where
  files file := file ∈ files
  module file := ((outcome (sourceAt (b.home.absolute file)) b).1.toOption.map
    Source.module).getD default
  target file specifier := (outcome (Project.target file specifier) b).1.toOption.join

/-- All imports of some files of a project lead to files among them, if anywhere, and all of them
can be loaded. -/
def Bench.Closed (b : Bench) (files : List Path) : Prop :=
  ∀ file ∈ files, (outcome (sourceAt (b.home.absolute file)) b).1.toOption.isSome = true ∧
    ∀ specifier ∈ ((b.modules files).module file).specifiers,
      (outcome (Project.target file specifier) b).1.toOption.isSome = true ∧
      ∀ target ∈ ((b.modules files).target file specifier).toList, target ∈ files

instance (b : Bench) (files : List Path) : Decidable (b.Closed files) :=
  inferInstanceAs (Decidable (∀ file ∈ files, _ ∧ ∀ specifier ∈ _, _ ∧ ∀ target ∈ _, _))

theorem Bench.Closed.holds {files : List Path} (h : b.Closed files) :
    b.Holds (b.modules files) where
  module file hfile := by
    obtain ⟨s, hs⟩ := Option.isSome_iff_exists.1 (h file hfile).1
    refine ⟨s, except_ok_of_toOption hs, ?_⟩
    unfold modules
    dsimp only
    rw [hs]
    rfl
  target file hfile specifier hspecifier := by
    obtain ⟨t, ht⟩ := Option.isSome_iff_exists.1 ((h file hfile).2 specifier hspecifier).1
    unfold modules
    dsimp only
    rw [ht]
    exact except_ok_of_toOption ht
  closed file hfile specifier hspecifier target htarget :=
    ((h file hfile).2 specifier hspecifier).2 target (Option.mem_toList.2 htarget)

/-! ### Projects on a disk -/

namespace OnDisk

/-- A project without files that starts from a disk with some. -/
def bench (files : List (String × Bytes)) : Bench where
  disk := ⟨files.map fun e => ([e.1], .file e.2)⟩
  home := ⟨.slash, []⟩
  log := []
  project := .empty Module.parse ⟨.slash, []⟩ none

/-- The project with a parser whose evaluation costs less. -/
theorem bench_eq (files : List (String × Bytes)) : bench files =
    { disk := ⟨files.map fun e => ([e.1], .file e.2)⟩
      home := ⟨.slash, []⟩
      log := []
      project := .empty eagerParse ⟨.slash, []⟩ none } := by
  rw [eagerParse_eq]
  rfl

theorem tidy (files : List (String × Bytes)) : (bench files).Tidy :=
  ⟨nofun, Table.distinct_nil, nofun⟩

/-- The place of a file. -/
def place (name : String) : Path := ⟨.slash, [name]⟩

end OnDisk

/-! ### Files that export each other -/

namespace Circle

open OnDisk

/-- Two files that export everything of each other, and a third one that is exported as well, where
an interface is declared twice:
```
| import {P as Q} from "./b"
| export * from "./b"
```
```
| export * from "./a"
| export * from "./c"
```
```
| export {I as P}
| export * from "./b"
| interface I{a:x}
| interface I{b:y}
``` -/
def files : List (String × Bytes) :=
  [("a.ts", bytesOfLines ["import \x7bP as Q\x7d from \"./b\"", "export * from \"./b\""]),
    ("b.ts", bytesOfLines ["export * from \"./a\"", "export * from \"./c\""]),
    ("c.ts", bytesOfLines ["export \x7bI as P\x7d", "export * from \"./b\"",
      "interface I\x7ba:x\x7d", "interface I\x7bb:y\x7d"])]

/-- The three files. -/
def places : List Path := [place "a.ts", place "b.ts", place "c.ts"]

/-- What the three files hold. -/
def modules : Modules := (bench files).modules places

/-- The number of types that the name stands for. -/
def found : Option Nat :=
  (outcome (visibleTypes Project.graph (place "a.ts") "Q") (bench files)).1.toOption.map List.length

set_option maxRecDepth 100000 in
theorem assumed : ((bench files).Closed places ∧
      (∀ file ∈ places, (modules.module file).RenamesPlainly) ∧ found = some 2) ∧
    ((modules.declared (place "a.ts") "Q").isEmpty = true ∧
      (modules.module (place "a.ts")).lastImport "Q" = some ⟨"./b", "P"⟩ ∧
      modules.target (place "a.ts") "./b" = some (place "b.ts")) ∧
    ((modules.module (place "b.ts")).lastExport "P" = none ∧
      "./c" ∈ (modules.module (place "b.ts")).starExports ∧
      modules.target (place "b.ts") "./c" = some (place "c.ts")) ∧
    (modules.module (place "c.ts")).lastExport "P" = some ⟨"I", none⟩ ∧
      (modules.declared (place "c.ts") "I").isEmpty = false := by
  simp only [modules, found, bench_eq]
  decide +kernel

/-- The way through the two other files. -/
theorem reaches : modules.Reaches 3 (.inside (place "a.ts") "Q") (place "c.ts") "I" := by
  obtain ⟨-, ⟨hnone, hi, hb⟩, ⟨hunlisted, hstar, hc⟩, hlisted, hdeclared⟩ := assumed
  refine .hop (.imported (List.isEmpty_iff.1 hnone) hi hb) ?_
  refine .hop (.wholesale hunlisted hstar hc) ?_
  refine .hop (.listed hlisted) (.here fun h => ?_)
  rw [h] at hdeclared
  cases hdeclared

end Circle

/-- Two files that export each other do not keep a name from the interface that it leads to. -/
theorem visibleTypes_iff_reaches_circle :
    (OnDisk.bench Circle.files).Tidy ∧ (OnDisk.bench Circle.files).Holds Circle.modules ∧
    (∀ file, Circle.modules.files file → (Circle.modules.module file).RenamesPlainly) ∧
    Circle.modules.files (OnDisk.place "a.ts") ∧
    ∃ ds, (outcome (visibleTypes Project.graph (OnDisk.place "a.ts") "Q")
        (OnDisk.bench Circle.files)).1 = .ok ds ∧
      ds.length = 2 ∧
      ∃ n ≤ maxDepth, ∃ file name,
        Circle.modules.Reaches n (.inside (OnDisk.place "a.ts") "Q") file name ∧
        ds = Circle.modules.declared file name := by
  have htidy := OnDisk.tidy Circle.files
  have hfile : Circle.modules.files (OnDisk.place "a.ts") := List.mem_cons_self
  obtain ⟨⟨hclosed, hplain, hfound⟩, -⟩ := Circle.assumed
  refine ⟨htidy, hclosed.holds, hplain, hfile, ?_⟩
  obtain ⟨ds, hds, hiff, hway⟩ := visibleTypes_iff_reaches htidy hclosed.holds hplain hfile "Q"
  have hne : ds ≠ [] := hiff.2 ⟨3, by decide, _, _, Circle.reaches⟩
  obtain ⟨es, hes, hlength⟩ := Option.map_eq_some_iff.1 hfound
  have heq : ds = es := Except.ok.inj (hds.symm.trans (except_ok_of_toOption hes))
  exact ⟨ds, hds, heq ▸ hlength, hway hne⟩

/-! ### A name in quotes -/

namespace Quoting

open OnDisk

/-- A file that imports what another one exports as a name in quotes:
```
| import {"X" as T} from "./b"
```
```
| interface I{a:x}
| export {I as "X"}
``` -/
def files : List (String × Bytes) :=
  [("a.ts", bytesOfLines ["import \x7b\"X\" as T\x7d from \"./b\""]),
    ("b.ts", bytesOfLines ["interface I\x7ba:x\x7d", "export \x7bI as \"X\"\x7d"])]

/-- What the two files hold. -/
def modules : Modules := (bench files).modules [place "a.ts", place "b.ts"]

/-- The number of types that the name stands for. -/
def found : Option Nat :=
  (outcome (visibleTypes Project.graph (place "a.ts") "T") (bench files)).1.toOption.map List.length

set_option maxRecDepth 100000 in
theorem assumed : ((bench files).Closed [place "a.ts", place "b.ts"] ∧ found = some 0) ∧
    ((modules.declared (place "a.ts") "T").isEmpty = true ∧
      (modules.module (place "a.ts")).lastImport "T" = some ⟨"./b", "X"⟩ ∧
      modules.target (place "a.ts") "./b" = some (place "b.ts")) ∧
    (modules.module (place "b.ts")).lastExport "X" = some ⟨"I", none⟩ ∧
      (modules.declared (place "b.ts") "I").isEmpty = false := by
  simp only [modules, found, bench_eq]
  decide +kernel

theorem reaches : modules.Reaches 2 (.inside (place "a.ts") "T") (place "b.ts") "I" := by
  obtain ⟨-, ⟨hnone, hi, hb⟩, hlisted, hdeclared⟩ := assumed
  refine .hop (.imported (List.isEmpty_iff.1 hnone) hi hb) ?_
  refine .hop (.listed hlisted) (.here fun h => ?_)
  rw [h] at hdeclared
  cases hdeclared

end Quoting

/-- What is exported as a name in quotes leads to an interface, and is not found. -/
theorem visibleTypes_quoted :
    (OnDisk.bench Quoting.files).Tidy ∧ (OnDisk.bench Quoting.files).Holds Quoting.modules ∧
    Quoting.modules.files (OnDisk.place "a.ts") ∧
    Quoting.modules.Reaches 2 (.inside (OnDisk.place "a.ts") "T") (OnDisk.place "b.ts") "I" ∧
    (outcome (visibleTypes Project.graph (OnDisk.place "a.ts") "T")
      (OnDisk.bench Quoting.files)).1 = .ok [] := by
  obtain ⟨⟨hclosed, hfound⟩, -⟩ := Quoting.assumed
  refine ⟨OnDisk.tidy _, hclosed.holds, List.mem_cons_self, Quoting.reaches, ?_⟩
  obtain ⟨ds, hds, hlength⟩ := Option.map_eq_some_iff.1 hfound
  rw [except_ok_of_toOption hds, List.eq_nil_of_length_eq_zero hlength]

end RouteLint
