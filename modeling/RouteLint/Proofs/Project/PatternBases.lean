import RouteLint.Proofs.Project.InheritedOptions

/-!
# The directory that patterns start from

The patterns of a type configuration come from one of the configurations that are visited, its
supplier: its own patterns count before those that it inherits, and what a later parent supplies
counts before what an earlier one does.  A supplier fixes the directory that its patterns start
from when it is read.  This is the base directory that it has itself or inherits, and if it has none
the directory that it stands in.

The base directory of the whole configuration may be that of another one, which extends the supplier
or is visited beside it.  The patterns do not follow it: they keep the directory that their supplier
has fixed.  Both agree if the last word on the base directory is spoken by the supplier or by a
configuration that it extends.

## Main definitions

* `TypeConfig.lastBase` — the last word of visits on the base directory.
* `TypeConfig.Supplier`, `TypeConfig.Supplied` — **the configuration that patterns come from.**
* `TypeConfig.Supplier.base` — the directory that a supplier fixes.

## Main results

* `TypeConfig.BasedOn.inherit`, `TypeConfig.BasedOn.override` — what is known keeps to its supplier.
* `TypeConfig.read_pathsBase` — **patterns start from the directory that their supplier fixes.**
* `TypeConfig.read_pathsBase_stays` — they stay there if the base directory is another one.
-/

namespace RouteLint

namespace TypeConfig

/-! ### Suppliers -/

/-- The last word of visits on the base directory. -/
def lastBase (visits : List Visit) : Option Path := (visits.filterMap Visit.baseUrl?).getLast?

/-- A visited configuration, and the visits to those that it extends. -/
structure Supplier where
  /-- The visits to the configurations that it extends. -/
  below : List Visit
  /-- The visit to itself. -/
  visit : Visit

namespace Supplier

/-- The visits up to the one to the supplier. -/
def visits (s : Supplier) : List Visit := s.below ++ [s.visit]

/-- The directory that the supplier stands in. -/
def directory (s : Supplier) : Path := s.visit.path.parent

/-- The base directory that the supplier has or inherits, or else its own directory. -/
def base (s : Supplier) : Path := (lastBase s.visits).getD s.directory

end Supplier

/-- The supplier behind a configuration: itself if it has patterns, and otherwise the one that it
inherits.  If nothing is left of its own patterns there is none. -/
def Visit.supplier (v : Visit) (below : List Visit) (inherited : Option Supplier) :
    Option Supplier :=
  match v.paths? with
  | none => inherited
  | some [] => none
  | some (_ :: _) => some ⟨below, v⟩

/-- The supplier behind several configurations: that of the last one which has one. -/
inductive Supplied (d : Disk) : List Path → Option Supplier → Prop
  /-- There is nothing that could supply patterns. -/
  | nil : Supplied d [] none
  /-- The others count before the first configuration. -/
  | cons {path : Path} {others : List Path} {fields : List (CodePoints × Json.Value)}
      {options : Json.Value} {below : List Visit} {inherited after : Option Supplier}
      (hread : Json.readFile d path = .ok (.object fields))
      (hoptions : optionsOf path (.object fields) = .ok options)
      (hvisits : Visits d (parents d path (.object fields)) below)
      (hbelow : Supplied d (parents d path (.object fields)) inherited)
      (hafter : Supplied d others after) :
      Supplied d (path :: others) (after.or (Visit.supplier ⟨path, options⟩ below inherited))

variable {d : Disk}

/-- There is one supplier. -/
theorem Supplied.unique {paths : List Path} {s s' : Option Supplier} (h : Supplied d paths s)
    (h' : Supplied d paths s') : s' = s := by
  induction h generalizing s' with
  | nil =>
    cases h'
    rfl
  | cons hread hoptions hvisits _ _ ihbelow ihafter =>
    cases h' with
    | cons hread' hoptions' hvisits' hbelow' hafter' =>
      rw [hread] at hread'
      cases hread'
      rw [hoptions] at hoptions'
      cases hoptions'
      rw [hvisits.unique hvisits', ihbelow hbelow', ihafter hafter']

theorem Supplied.append {paths paths' : List Path} {s s' : Option Supplier}
    (h : Supplied d paths s) (h' : Supplied d paths' s') :
    Supplied d (paths ++ paths') (s'.or s) := by
  induction h with
  | nil => rwa [List.nil_append, Option.or_none]
  | cons hread hoptions hvisits hbelow _ _ ihafter =>
    rw [← Option.or_assoc]
    exact .cons hread hoptions hvisits hbelow ihafter

/-- A supplier is visited, right after the configurations that it extends. -/
theorem Supplied.visits_infix {paths : List Path} {visits : List Visit} {s : Supplier}
    (h : Supplied d paths (some s)) (hvisits : Visits d paths visits) :
    s.visits <:+: visits := by
  generalize hs : some s = supplier at h
  induction h generalizing visits with
  | nil => cases hs
  | @cons path others fields options below inherited later hread hoptions hbelow _ _ ihbelow
      ihafter =>
    cases hvisits with
    | @cons _ _ _ _ below' after hread' hoptions' hbelow' hafter =>
      rw [hread] at hread'
      cases hread'
      rw [hoptions] at hoptions'
      cases hoptions'
      cases hbelow.unique hbelow'
      cases later with
      | some t =>
        have hrest : after <:+ below ++ ⟨path, options⟩ :: after :=
          List.suffix_append_of_suffix (List.suffix_cons _ _)
        exact (ihafter hafter hs).trans hrest.isInfix
      | none =>
        rw [Option.none_or, Visit.supplier] at hs
        split at hs
        · exact (ihbelow hbelow hs).trans (List.prefix_append _ _).isInfix
        · cases hs
        · cases hs
          refine ⟨[], after, ?_⟩
          rw [Supplier.visits, List.nil_append, List.append_assoc, List.singleton_append]

/-! ### What is known keeps to its supplier -/

/-- The patterns that are known are those of a supplier, and start from the directory that it has
fixed; without a supplier there are none. -/
def BasedOn (c : TypeConfig) : Option Supplier → Prop
  | none => c.paths = []
  | some s => c.paths ≠ [] ∧ s.visit.paths? = some c.paths ∧ c.pathsBase = some s.base

/-- Nothing is known before the first visit. -/
theorem basedOn_none (path : Path) : BasedOn ⟨path, none, [], none⟩ none := rfl

/-- What a parent knows comes with the directory that it starts from. -/
theorem BasedOn.inherit {c parent : TypeConfig} {s t : Option Supplier} (h : c.BasedOn s)
    (hparent : parent.BasedOn t) : (c.inherit parent).BasedOn (t.or s) := by
  cases t with
  | none =>
    have hempty : parent.paths.isEmpty = true := List.isEmpty_iff.2 hparent
    have hpaths : (c.inherit parent).paths = c.paths := if_pos hempty
    have hbase : (c.inherit parent).pathsBase = c.pathsBase := if_pos hempty
    rw [Option.none_or]
    cases s with
    | none => exact hpaths.trans h
    | some s =>
      obtain ⟨hne, hown, hfixed⟩ := h
      exact ⟨hpaths ▸ hne, hpaths ▸ hown, hbase.trans hfixed⟩
  | some t =>
    obtain ⟨hne, hown, hfixed⟩ := hparent
    have hempty : ¬parent.paths.isEmpty = true := fun hnil => hne (List.isEmpty_iff.1 hnil)
    have hpaths : (c.inherit parent).paths = parent.paths := if_neg hempty
    have hbase : (c.inherit parent).pathsBase = parent.pathsBase := if_neg hempty
    exact ⟨hpaths ▸ hne, hpaths ▸ hown, hbase.trans hfixed⟩

theorem override_pathsBase (c : TypeConfig) (options : Json.Value) :
    (c.override options).pathsBase =
      match Visit.paths? ⟨c.path, options⟩ with
      | none => c.pathsBase
      | some _ => some ((c.override options).baseUrl.getD c.path.parent) := by
  unfold TypeConfig.override Visit.paths?
  dsimp only
  cases options.get? "paths" with
  | none => rfl
  | some v => cases v <;> rfl

/-- Own patterns start from the base directory that is known by then. -/
theorem BasedOn.override {c : TypeConfig} {below : List Visit} {inherited : Option Supplier}
    (h : c.BasedOn inherited) (hreflects : Reflects below c) (options : Json.Value) :
    (c.override options).BasedOn (Visit.supplier ⟨c.path, options⟩ below inherited) := by
  have hpaths := override_paths c options
  have hbase := override_pathsBase c options
  unfold Visit.supplier
  cases hown : Visit.paths? ⟨c.path, options⟩ with
  | none =>
    rw [hown] at hpaths hbase
    dsimp only at hbase ⊢
    cases inherited with
    | none => exact hpaths.trans h
    | some s =>
      obtain ⟨hne, hsupplied, hfixed⟩ := h
      exact ⟨hpaths ▸ hne, hpaths ▸ hsupplied, hbase.trans hfixed⟩
  | some patterns =>
    rw [hown] at hpaths hbase
    cases patterns with
    | nil => exact hpaths
    | cons pattern patterns =>
      refine ⟨fun hnil => List.cons_ne_nil _ _ (hpaths.symm.trans hnil), ?_, ?_⟩
      · rw [hpaths]
        exact hown
      · rw [hbase, (hreflects.override options).baseUrl]
        rfl

/-! ### Reading -/

/-- What is known from several parents keeps to the supplier behind them. -/
theorem basedOn_foldl {paths : List Path} {known : List TypeConfig} {before : Option Supplier}
    {c : TypeConfig} (hc : c.BasedOn before)
    (h : List.Forall₂ (fun p parent => ∃ s, Supplied d [p] s ∧ BasedOn parent s) paths known) :
    ∃ s, Supplied d paths s ∧ (known.foldl TypeConfig.inherit c).BasedOn (s.or before) := by
  induction h generalizing before c with
  | nil => exact ⟨none, .nil, by rwa [Option.none_or]⟩
  | cons hhead _ ih =>
    obtain ⟨s, hs, hbased⟩ := hhead
    obtain ⟨rest, hrest, hall⟩ := ih (hc.inherit hbased)
    refine ⟨rest.or s, hs.append hrest, ?_⟩
    rwa [← Option.or_assoc] at hall

/-- Below any files that are seen, what is read keeps to the supplier behind it. -/
theorem readFrom_basedOn {fuel : Nat} {seen : List Path} {path : Path} {config : TypeConfig}
    (h : readFrom d fuel seen path = .ok config) :
    ∃ s, Supplied d [path] s ∧ config.BasedOn s := by
  induction fuel generalizing seen path config with
  | zero => cases h
  | succ fuel ih =>
    obtain ⟨-, fields, known, options, hread, hknown, hoptions, rfl⟩ := readFrom_eq_ok h
    have hpath := foldl_inherit_path known ⟨path, none, [], none⟩
    obtain ⟨below, hbelow, hreflects⟩ := reflects_foldl (reflects_nil path)
      (hknown.imp fun p parent hparent => (readFrom_reflects hparent).2)
    obtain ⟨inherited, hinherited, hbased⟩ := basedOn_foldl (basedOn_none path)
      (hknown.imp fun p parent hparent => ih hparent)
    rw [Option.or_none] at hbased
    refine ⟨_, .cons hread hoptions hbelow hinherited .nil, ?_⟩
    have hown := hbased.override hreflects options
    rwa [hpath] at hown

/-- **Patterns start from the directory that their supplier fixes.**  If a configuration that is
read has patterns, they are those of the one supplier behind it, which is among the visited
configurations; and they start from the base directory that the supplier has or inherits, or else
from its own directory.  So they start from the base directory of the configuration that is read, or
else from the directory of the supplier, if no configuration but the supplier and those that it
extends has changed the base directory. -/
theorem read_pathsBase (d : Disk) (here path : Path) {config : TypeConfig}
    (h : read d here path = .ok config) (hpaths : config.paths ≠ []) :
    ∃ visits supplier, Visits d [here.absolute path] visits ∧
      Supplied d [here.absolute path] (some supplier) ∧
      (∀ other, Supplied d [here.absolute path] other → other = some supplier) ∧
      supplier.visits <:+: visits ∧
      supplier.visit.paths? = some config.paths ∧
      config.pathsBase = some supplier.base ∧
      (lastBase supplier.visits = lastBase visits →
        config.pathsBase = some (config.baseUrl.getD supplier.directory)) := by
  obtain ⟨-, visits, hvisits, hreflects⟩ := readFrom_reflects h
  obtain ⟨s, hs, hbased⟩ := readFrom_basedOn h
  cases s with
  | none => exact absurd hbased hpaths
  | some supplier =>
    obtain ⟨-, hown, hbase⟩ := hbased
    refine ⟨visits, supplier, hvisits, hs, fun other hother => hs.unique hother,
      hs.visits_infix hvisits, hown, hbase, fun hlast => ?_⟩
    have hknown : config.baseUrl = lastBase supplier.visits := hreflects.baseUrl.trans hlast.symm
    rw [hbase, hknown, Supplier.base]

/-! ### Configurations with and without a base directory of their own -/

/-- The visit to a file, if it holds a configuration. -/
def visit? (d : Disk) (path : Path) : Option Visit :=
  match Json.readFile d path with
  | .ok (.object fields) => (optionsOf path (.object fields)).toOption.map (Visit.mk path)
  | _ => none

theorem visit?_eq_some {path : Path} {v : Visit} (h : visit? d path = some v) :
    ∃ fields options, Json.readFile d path = .ok (.object fields) ∧
      optionsOf path (.object fields) = .ok options ∧ v = ⟨path, options⟩ := by
  unfold visit? at h
  split at h
  · next fields hread =>
    obtain ⟨options, hoptions, rfl⟩ := Option.map_eq_some_iff.1 h
    exact ⟨fields, options, hread, except_ok_of_toOption hoptions, rfl⟩
  · cases h

theorem Visits.of_visit? {path : Path} {others : List Path} {v : Visit} {below after : List Visit}
    (h : visit? d path = some v) (hbelow : Visits d (extended d path) below)
    (hafter : Visits d others after) : Visits d (path :: others) (below ++ v :: after) := by
  obtain ⟨fields, options, hread, hoptions, rfl⟩ := visit?_eq_some h
  rw [extended_eq hread] at hbelow
  exact .cons hread hoptions hbelow hafter

theorem Supplied.of_visit? {path : Path} {others : List Path} {v : Visit} {below : List Visit}
    {inherited after : Option Supplier} (h : visit? d path = some v)
    (hvisits : Visits d (extended d path) below) (hbelow : Supplied d (extended d path) inherited)
    (hafter : Supplied d others after) :
    Supplied d (path :: others) (after.or (v.supplier below inherited)) := by
  obtain ⟨fields, options, hread, hoptions, rfl⟩ := visit?_eq_some h
  rw [extended_eq hread] at hvisits hbelow
  exact .cons hread hoptions hvisits hbelow hafter

namespace Bases

/-- A disk with patterns under an inherited base directory, and two configurations that inherit
both, one of them with a base directory of its own:
```
/base.json    {"compilerOptions":{"baseUrl":"src"}}
/inner.json   {"extends":"./base","compilerOptions":{"paths":{"~/*":["lib/*"]}}}
/all.json     {"extends":"./inner"}
/outer.json   {"extends":"./inner","compilerOptions":{"baseUrl":"app"}}
``` -/
def disk : Disk :=
  ⟨[(["base.json"], .file (Utf8.encode
      "\x7b\"compilerOptions\":\x7b\"baseUrl\":\"src\"\x7d\x7d")),
    (["inner.json"], .file (Utf8.encode ("\x7b\"extends\":\"./base\"," ++
      "\"compilerOptions\":\x7b\"paths\":\x7b\"~/*\":[\"lib/*\"]\x7d\x7d\x7d"))),
    (["all.json"], .file (Utf8.encode "\x7b\"extends\":\"./inner\"\x7d")),
    (["outer.json"], .file (Utf8.encode ("\x7b\"extends\":\"./inner\"," ++
      "\"compilerOptions\":\x7b\"baseUrl\":\"app\"\x7d\x7d")))]⟩

/-- The root directory. -/
def root : Path := ⟨.slash, []⟩

/-- A file in the root directory. -/
def file (name : String) : Path := root.child name

/-- What is read from a file: the base directory, the patterns, and where they start from. -/
def known (name : String) : Option (Option Path × Table String (List String) × Option Path) :=
  (read disk root (file name)).toOption.map fun c => (c.baseUrl, c.paths, c.pathsBase)

theorem read_of_known {name : String} {found : Option Path × Table String (List String) × Option Path}
    (h : known name = some found) : ∃ config, read disk root (file name) = .ok config ∧
      config.baseUrl = found.1 ∧ config.paths = found.2.1 ∧ config.pathsBase = found.2.2 := by
  obtain ⟨config, hread, rfl⟩ := Option.map_eq_some_iff.1 h
  exact ⟨config, except_ok_of_toOption hread, rfl, rfl, rfl⟩

set_option synthInstance.maxSize 1024 in
set_option maxRecDepth 100000 in
theorem known_files :
    known "all.json" = some (some (file "src"), [("~/*", ["lib/*"])], some (file "src")) ∧
    known "outer.json" = some (some (file "app"), [("~/*", ["lib/*"])], some (file "src")) := by
  decide +kernel

/-- What the visit to a file says: the base directory, and the patterns. -/
def said (name : String) : Option (Option Path × Option (Table String (List String))) :=
  (visit? disk (file name)).map fun v => (v.baseUrl?, v.paths?)

set_option synthInstance.maxSize 1024 in
set_option maxRecDepth 100000 in
/-- What the files say, and which files they extend. -/
theorem said_files :
    (said "base.json" = some (some (file "src"), none) ∧
      said "inner.json" = some (none, some [("~/*", ["lib/*"])]) ∧
      said "all.json" = some (none, none)) ∧
    extended disk (file "base.json") = [] ∧
      extended disk (file "inner.json") = [file "base.json"] ∧
      extended disk (file "all.json") = [file "inner.json"] := by
  decide +kernel

theorem exists_visit {name : String} {base : Option Path}
    {patterns : Option (Table String (List String))} (h : said name = some (base, patterns)) :
    ∃ v, visit? disk (file name) = some v ∧ v.baseUrl? = base ∧ v.paths? = patterns := by
  obtain ⟨v, hv, hsaid⟩ := Option.map_eq_some_iff.1 h
  exact ⟨v, hv, congrArg Prod.fst hsaid, congrArg Prod.snd hsaid⟩

/-- The patterns come from the configuration in the middle, with the one that it extends below. -/
theorem exists_supplier : ∃ visits supplier, Visits disk [file "all.json"] visits ∧
    Supplied disk [file "all.json"] (some supplier) ∧ lastBase supplier.visits = lastBase visits := by
  obtain ⟨⟨hbaseSaid, hinnerSaid, hallSaid⟩, hbaseBelow, hinnerBelow, hallBelow⟩ := said_files
  obtain ⟨base, hbase, hbaseUrl, hbasePaths⟩ := exists_visit hbaseSaid
  obtain ⟨inner, hinner, hinnerUrl, hinnerPaths⟩ := exists_visit hinnerSaid
  obtain ⟨all, hall, hallUrl, hallPaths⟩ := exists_visit hallSaid
  have hnone : Visits disk (extended disk (file "base.json")) [] ∧
      Supplied disk (extended disk (file "base.json")) none := by
    rw [hbaseBelow]
    exact ⟨.nil, .nil⟩
  have hfirst : Visits disk (extended disk (file "inner.json")) [base] ∧
      Supplied disk (extended disk (file "inner.json")) none := by
    have hsupplied := Supplied.of_visit? hbase hnone.1 hnone.2 .nil
    rw [Visit.supplier, hbasePaths] at hsupplied
    rw [hinnerBelow]
    exact ⟨.of_visit? hbase hnone.1 .nil, hsupplied⟩
  have hsecond : Visits disk (extended disk (file "all.json")) [base, inner] ∧
      Supplied disk (extended disk (file "all.json")) (some ⟨[base], inner⟩) := by
    have hsupplied := Supplied.of_visit? hinner hfirst.1 hfirst.2 .nil
    rw [Visit.supplier, hinnerPaths] at hsupplied
    rw [hallBelow]
    exact ⟨.of_visit? hinner hfirst.1 .nil, hsupplied⟩
  have hsupplied := Supplied.of_visit? hall hsecond.1 hsecond.2 .nil
  rw [Visit.supplier, hallPaths] at hsupplied
  refine ⟨_, _, .of_visit? hall hsecond.1 .nil, hsupplied, ?_⟩
  simp [lastBase, Supplier.visits, hbaseUrl, hinnerUrl, hallUrl]

end Bases

set_option maxRecDepth 100000 in
/-- A configuration that inherits patterns and their base directory from one that has inherited the
base directory itself. -/
theorem read_pathsBase_inherited :
    ∃ config visits supplier, read Bases.disk Bases.root (Bases.file "all.json") = .ok config ∧
      config.paths ≠ [] ∧ Visits Bases.disk [Bases.file "all.json"] visits ∧
      Supplied Bases.disk [Bases.file "all.json"] (some supplier) ∧
      lastBase supplier.visits = lastBase visits ∧
      config.baseUrl = some (Bases.file "src") ∧
      config.pathsBase = some (config.baseUrl.getD supplier.directory) := by
  obtain ⟨config, hread, hbaseUrl, hpaths, -⟩ := Bases.read_of_known Bases.known_files.1
  have hne : config.paths ≠ [] := by
    rw [hpaths]
    exact List.cons_ne_nil _ _
  obtain ⟨visits, supplier, hvisits, hsupplied, -, -, -, -, hbase⟩ := read_pathsBase _ _ _ hread hne
  rw [show Path.absolute Bases.root (Bases.file "all.json") = Bases.file "all.json" by decide]
    at hvisits hsupplied
  obtain ⟨visits', supplier', hvisits', hsupplied', hlast⟩ := Bases.exists_supplier
  cases hvisits.unique hvisits'
  cases hsupplied.unique hsupplied'
  exact ⟨config, visits, supplier, hread, hne, hvisits, hsupplied, hlast, hbaseUrl, hbase hlast⟩

/-- A configuration with a base directory of its own, where the patterns that it inherits keep the
directory that they started from. -/
theorem read_pathsBase_stays :
    ∃ config, read Bases.disk Bases.root (Bases.file "outer.json") = .ok config ∧
      config.paths ≠ [] ∧ config.baseUrl = some (Bases.file "app") ∧
      config.pathsBase = some (Bases.file "src") := by
  obtain ⟨config, hread, hbaseUrl, hpaths, hbase⟩ := Bases.read_of_known Bases.known_files.2
  refine ⟨config, hread, ?_, hbaseUrl, hbase⟩
  rw [hpaths]
  exact List.cons_ne_nil _ _

end TypeConfig

end RouteLint
