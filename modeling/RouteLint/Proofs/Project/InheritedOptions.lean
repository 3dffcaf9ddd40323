import RouteLint.Proofs.Project.ConfigChains

/-!
# Inherited options

A type configuration starts from what it inherits: the configurations that it extends are visited
from left to right, each after those that it extends itself, and the configuration comes last.  The
base directory is that of the last visited configuration which has one, seen from where that
configuration stands, and the patterns are those of the last visited configuration which has them.

Reading keeps no list of visits.  At every level it takes what a parent says over what was said
before, and the own options over both; that this leaves the last word of all visits is shown by
going through the tree.  It fails for patterns in one case: if nothing is left of the patterns of a
configuration, those of an earlier one come into play again above it.

## Main definitions

* `TypeConfig.Visits` — configurations in the order in which they are visited.
* `TypeConfig.Visit.baseUrl?`, `TypeConfig.Visit.paths?` — what a visited configuration says.
* `TypeConfig.Reflects` — what is known is the last word of the visits.

## Main results

* `TypeConfig.Reflects.inherit`, `TypeConfig.Reflects.override` — what is known grows with the
  visits.
* `TypeConfig.read_reflects` — **a configuration reflects all visits, however they nest.**
-/

namespace RouteLint

namespace TypeConfig

/-! ### Visits -/

/-- A configuration that is visited: its file, and its own compiler options. -/
structure Visit where
  /-- The file of the configuration. -/
  path : Path
  /-- Its own compiler options. -/
  options : Json.Value

namespace Visit

/-- The own base directory, seen from the directory of the configuration. -/
def baseUrl? (v : Visit) : Option Path :=
  match v.options.get? "baseUrl" with
  | some (.text t) => some (v.path.parent.absolute (Path.parse t.shown))
  | _ => none

/-- The own patterns, those without a list of places left out. -/
def paths? (v : Visit) : Option (Table String (List String)) :=
  match v.options.get? "paths" with
  | some (.object fields) => some (patterns fields)
  | _ => none

end Visit

/-- Configurations in the order in which they are visited: below each one those that it extends,
from left to right, and then the configuration itself. -/
inductive Visits (d : Disk) : List Path → List Visit → Prop
  /-- There is nothing to visit. -/
  | nil : Visits d [] []
  /-- The first configuration is visited, and then the others. -/
  | cons {path : Path} {others : List Path} {fields : List (CodePoints × Json.Value)}
      {options : Json.Value} {below after : List Visit}
      (hread : Json.readFile d path = .ok (.object fields))
      (hoptions : optionsOf path (.object fields) = .ok options)
      (hbelow : Visits d (parents d path (.object fields)) below)
      (hafter : Visits d others after) :
      Visits d (path :: others) (below ++ ⟨path, options⟩ :: after)

variable {d : Disk}

/-- There is one order in which configurations are visited. -/
theorem Visits.unique {paths : List Path} {visits visits' : List Visit} (h : Visits d paths visits)
    (h' : Visits d paths visits') : visits' = visits := by
  induction h generalizing visits' with
  | nil =>
    cases h'
    rfl
  | cons hread hoptions _ _ ihbelow ihafter =>
    cases h' with
    | cons hread' hoptions' hbelow' hafter' =>
      rw [hread] at hread'
      cases hread'
      rw [hoptions] at hoptions'
      cases hoptions'
      rw [ihbelow hbelow', ihafter hafter']

theorem Visits.append {paths paths' : List Path} {visits visits' : List Visit}
    (h : Visits d paths visits) (h' : Visits d paths' visits') :
    Visits d (paths ++ paths') (visits ++ visits') := by
  induction h with
  | nil => exact h'
  | cons hread hoptions hbelow _ _ ihafter =>
    rw [List.append_assoc]
    exact .cons hread hoptions hbelow ihafter

/-! ### The last word -/

/-- What is known is the last word of the visits: on the base directory, and on the patterns unless
a configuration was visited that has an object of patterns of which nothing is left. -/
structure Reflects (visits : List Visit) (c : TypeConfig) : Prop where
  baseUrl : c.baseUrl = (visits.filterMap Visit.baseUrl?).getLast?
  paths : (∀ v ∈ visits, v.paths? ≠ some []) →
    c.paths = ((visits.filterMap Visit.paths?).getLast?).getD []

/-- Nothing is known before the first visit. -/
theorem reflects_nil (path : Path) : Reflects [] ⟨path, none, [], none⟩ := ⟨rfl, fun _ => rfl⟩

/-- What is known from a parent is put over what was known before. -/
theorem Reflects.inherit {before below : List Visit} {c parent : TypeConfig}
    (h : Reflects before c) (hparent : Reflects below parent) :
    Reflects (before ++ below) (c.inherit parent) where
  baseUrl := by
    rw [List.filterMap_append, List.getLast?_append, ← h.baseUrl, ← hparent.baseUrl]
    show (parent.baseUrl <|> c.baseUrl) = _
    cases parent.baseUrl <;> rfl
  paths := by
    intro hall
    have hc := h.paths fun v hv => hall v (List.mem_append_left _ hv)
    have hp := hparent.paths fun v hv => hall v (List.mem_append_right _ hv)
    rw [List.filterMap_append, List.getLast?_append]
    show (if parent.paths.isEmpty then c.paths else parent.paths) = _
    cases hlast : (below.filterMap Visit.paths?).getLast? with
    | none =>
      rw [hlast] at hp
      rw [hp, hc]
      rfl
    | some patterns =>
      rw [hlast] at hp
      obtain ⟨v, hv, hpaths⟩ := List.mem_filterMap.1 (List.mem_of_getLast? hlast)
      -- a parent without patterns would be passed over, but the last word is not empty
      have hne : patterns ≠ [] := by
        rintro rfl
        exact hall v (List.mem_append_right _ hv) hpaths
      rw [hp]
      exact if_neg fun hempty => hne (List.isEmpty_iff.1 hempty)

theorem override_path (c : TypeConfig) (options : Json.Value) :
    (c.override options).path = c.path := by
  unfold TypeConfig.override
  dsimp only
  split <;> rfl

theorem override_baseUrl (c : TypeConfig) (options : Json.Value) :
    (c.override options).baseUrl = (Visit.baseUrl? ⟨c.path, options⟩).or c.baseUrl := by
  have hown : (c.override options).baseUrl =
      match options.get? "baseUrl" with
      | some (.text t) => some (c.path.parent.absolute (Path.parse t.shown))
      | _ => c.baseUrl := by
    unfold TypeConfig.override
    dsimp only
    split <;> rfl
  rw [hown, Visit.baseUrl?]
  cases options.get? "baseUrl" with
  | none => rfl
  | some v => cases v <;> rfl

theorem override_paths (c : TypeConfig) (options : Json.Value) :
    (c.override options).paths = (Visit.paths? ⟨c.path, options⟩).getD c.paths := by
  unfold TypeConfig.override Visit.paths?
  dsimp only
  cases options.get? "paths" with
  | none => rfl
  | some v => cases v <;> rfl

/-- The own options of a configuration are the last word. -/
theorem Reflects.override {below : List Visit} {c : TypeConfig} (h : Reflects below c)
    (options : Json.Value) : Reflects (below ++ [⟨c.path, options⟩]) (c.override options) where
  baseUrl := by
    rw [override_baseUrl, h.baseUrl, List.filterMap_append, List.getLast?_append]
    cases hv : Visit.baseUrl? ⟨c.path, options⟩ with
    | none => rw [List.filterMap_cons_none hv]; rfl
    | some base => rw [List.filterMap_cons_some hv]; rfl
  paths := by
    intro hall
    rw [override_paths, h.paths fun v hv => hall v (List.mem_append_left _ hv),
      List.filterMap_append, List.getLast?_append]
    cases hv : Visit.paths? ⟨c.path, options⟩ with
    | none => rw [List.filterMap_cons_none hv]; rfl
    | some patterns => rw [List.filterMap_cons_some hv]; rfl

theorem foldl_inherit_path (known : List TypeConfig) (c : TypeConfig) :
    (known.foldl TypeConfig.inherit c).path = c.path := by
  induction known generalizing c with
  | nil => rfl
  | cons parent known ih => exact ih (c.inherit parent)

/-! ### Reading -/

/-- What is known from several parents reflects the visits to all of them. -/
theorem reflects_foldl {paths : List Path} {known : List TypeConfig} {before : List Visit}
    {c : TypeConfig} (hc : Reflects before c)
    (h : List.Forall₂ (fun p parent => ∃ visits, Visits d [p] visits ∧ Reflects visits parent)
      paths known) :
    ∃ visits, Visits d paths visits ∧ Reflects (before ++ visits) (known.foldl inherit c) := by
  induction h generalizing before c with
  | nil => exact ⟨[], .nil, by rwa [List.append_nil]⟩
  | cons hhead _ ih =>
    obtain ⟨visits, hvisits, hreflects⟩ := hhead
    obtain ⟨rest, hrest, hall⟩ := ih (hc.inherit hreflects)
    refine ⟨visits ++ rest, hvisits.append hrest, ?_⟩
    rwa [List.append_assoc] at hall

/-- Below any files that are seen, what is read reflects its visits. -/
theorem readFrom_reflects {fuel : Nat} {seen : List Path} {path : Path} {config : TypeConfig}
    (h : readFrom d fuel seen path = .ok config) :
    config.path = path ∧ ∃ visits, Visits d [path] visits ∧ Reflects visits config := by
  induction fuel generalizing seen path config with
  | zero => cases h
  | succ fuel ih =>
    obtain ⟨-, fields, known, options, hread, hknown, hoptions, rfl⟩ := readFrom_eq_ok h
    -- parents leave the path alone, so the own options are put under it
    have hpath := foldl_inherit_path known ⟨path, none, [], none⟩
    obtain ⟨below, hbelow, hreflects⟩ := reflects_foldl (reflects_nil path)
      (hknown.imp fun p parent hparent => (ih hparent).2)
    refine ⟨(override_path _ options).trans hpath, below ++ [⟨path, options⟩],
      .cons hread hoptions hbelow .nil, ?_⟩
    have hown := hreflects.override options
    rwa [hpath] at hown

/-- **A configuration reflects all visits, however they nest.**  Where reading succeeds the
configurations below the one that is read can be visited, in one order: each after those that it
extends, and these from left to right.  The base directory is that of the last visited configuration
which has one, seen from its own directory.  If no visited configuration has an object of patterns
of which nothing is left, the patterns are those of the last visited configuration which has
them. -/
theorem read_reflects (d : Disk) (here path : Path) {config : TypeConfig}
    (h : read d here path = .ok config) :
    config.path = here.absolute path ∧
      ∃ visits, Visits d [here.absolute path] visits ∧
        (∀ others, Visits d [here.absolute path] others → others = visits) ∧
        config.baseUrl = (visits.filterMap Visit.baseUrl?).getLast? ∧
        ((∀ v ∈ visits, v.paths? ≠ some []) →
          config.paths = ((visits.filterMap Visit.paths?).getLast?).getD []) := by
  obtain ⟨hpath, visits, hvisits, hreflects⟩ := readFrom_reflects h
  exact ⟨hpath, visits, hvisits, fun others hothers => hvisits.unique hothers, hreflects.baseUrl,
    hreflects.paths⟩

/-! ### A tree of configurations -/

/-- Whether the own patterns of a configuration, if it has any, are not all left out. -/
def keepsPaths (d : Disk) (path : Path) : Bool :=
  match Json.readFile d path with
  | .error _ => true
  | .ok data =>
    match optionsOf path data with
    | .error _ => true
    | .ok options => Visit.paths? ⟨path, options⟩ ≠ some []

/-- What is visited from files that extend only each other keeps its patterns if they do. -/
theorem Visits.keepsPaths_of_closed (ps : List Path) {paths : List Path} {visits : List Visit}
    (h : ps.all (fun p => keepsPaths d p && (extended d p).all ps.contains) = true)
    (hpaths : ∀ p ∈ paths, p ∈ ps) (hvisits : Visits d paths visits) :
    ∀ v ∈ visits, v.paths? ≠ some [] := by
  induction hvisits with
  | nil => exact fun v hv => absurd hv List.not_mem_nil
  | @cons path others fields options below after hread hoptions _ _ ihbelow ihafter =>
    obtain ⟨hown, hclosed⟩ := Bool.and_eq_true_iff.1
      (List.all_eq_true.1 h path (hpaths path List.mem_cons_self))
    rw [extended_eq hread] at hclosed
    intro v hv
    rcases List.mem_append.1 hv with hv | hv
    · exact ihbelow (fun p hp => List.contains_iff_mem.1 (List.all_eq_true.1 hclosed p hp)) v hv
    · rcases List.mem_cons.1 hv with rfl | hv
      · unfold keepsPaths at hown
        rw [hread] at hown
        dsimp only at hown
        rw [hoptions] at hown
        exact of_decide_eq_true hown
      · exact ihafter (fun p hp => hpaths p (List.mem_cons_of_mem _ hp)) v hv

namespace Tree

/-- A disk with a configuration that extends another one directly and through a third one:
```
/app/tsconfig.json     {"extends":["../base","./more/other.json"]}
/app/more/other.json   {"extends":"../../base","compilerOptions":{"baseUrl":"."}}
/base.json             {"compilerOptions":{"baseUrl":"src","paths":{"a":1,"~/*":["lib/*"]}}}
``` -/
def disk : Disk :=
  ⟨[(["app"], .directory), (["app", "more"], .directory),
    (["app", "tsconfig.json"], .file (Utf8.encode
      "\x7b\"extends\":[\"../base\",\"./more/other.json\"]\x7d")),
    (["app", "more", "other.json"], .file (Utf8.encode
      ("\x7b\"extends\":\"../../base\"," ++
        "\"compilerOptions\":\x7b\"baseUrl\":\".\"\x7d\x7d"))),
    (["base.json"], .file (Utf8.encode
      ("\x7b\"compilerOptions\":\x7b\"baseUrl\":\"src\"," ++
        "\"paths\":\x7b\"a\":1,\"~/*\":[\"lib/*\"]\x7d\x7d\x7d")))]⟩

/-- The configuration that is read. -/
def start : Path := ⟨.slash, ["app", "tsconfig.json"]⟩

end Tree

set_option maxRecDepth 100000 in
/-- The configuration to the right has the last word on the base directory, and what it inherits
has it on the patterns. -/
theorem read_reflects_tree :
    ∃ config visits, read Tree.disk ⟨.slash, ["app"]⟩ Tree.start = .ok config ∧
      Visits Tree.disk [Tree.start] visits ∧ (∀ v ∈ visits, v.paths? ≠ some []) ∧
      (visits.filterMap Visit.baseUrl?).getLast? = some ⟨.slash, ["app", "more"]⟩ ∧
      ((visits.filterMap Visit.paths?).getLast?).getD [] = [("~/*", ["lib/*"])] := by
  have hread : ((read Tree.disk ⟨.slash, ["app"]⟩ Tree.start).toOption.map fun config =>
      (config.baseUrl, config.paths)) =
      some (some ⟨.slash, ["app", "more"]⟩, [("~/*", ["lib/*"])]) := by
    decide +kernel
  cases h : read Tree.disk ⟨.slash, ["app"]⟩ Tree.start with
  | error err =>
    rw [h] at hread
    cases hread
  | ok config =>
    rw [h] at hread
    obtain ⟨hbase, hpaths⟩ := Prod.mk.inj (Option.some.inj hread)
    obtain ⟨-, visits, hvisits, -, hbaseUrl, hlast⟩ := read_reflects _ _ _ h
    rw [show Path.absolute ⟨.slash, ["app"]⟩ Tree.start = Tree.start by decide] at hvisits
    have hkeeps := hvisits.keepsPaths_of_closed [Tree.start, ⟨.slash, ["app", "more", "other.json"]⟩,
      ⟨.slash, ["base.json"]⟩] (by decide +kernel) (by decide)
    exact ⟨config, visits, rfl, hvisits, hkeeps, hbaseUrl ▸ hbase, hlast hkeeps ▸ hpaths⟩

end TypeConfig

end RouteLint
