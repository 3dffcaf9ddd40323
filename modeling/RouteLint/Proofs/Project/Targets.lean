import RouteLint.Proofs.Data.Ranks
import RouteLint.Proofs.Disk.Places
import RouteLint.Proofs.Project.PatternBases
import RouteLint.Proofs.Project.VisibleTypes

/-!
# The file that an import leads to

A specifier has candidates, and a candidate stands for several paths.  Both come in an order that
ranks say: aliases count by the position of their pattern and then by that of the target, and the
base directory counts after all aliases; a candidate stands for itself, for the files that it may be
compiled from, for itself with a suffix added and for the index files in it.  The import leads to the
first module in this order.

The ranks know of no lists and of no search.  The search stops at the first module, and it fails at
a candidate without a name, which no suffix can be added to.  The only path without a name that can
come up is that of the root directory, since everything else is seen from an absolute path.

## Main definitions

* `Project.Candidate`, `Project.StandsFor` — candidates and what they stand for, by rank.
* `Project.First` — **the first module in the order of ranks.**
* `Project.Stuck` — a candidate without a name comes before any module.
* `Disk.Legible` — all TypeScript files can be read.

## Main results

* `Project.ranked_candidates`, `Project.ranked_choices` — the lists that are searched are in the
  order of ranks.
* `Project.firstModule_candidates` — what a search comes to.
* `Project.target_first` — **an import leads to the first module, or nowhere, unless the search is
  stuck.**
* `Project.target_root` — an import from the root directory gets stuck.
-/

namespace RouteLint

open Syntax

/-! ### Candidates by rank -/

/-- What a type configuration makes of a specifier, with its rank. -/
inductive TypeConfig.Candidate (c : TypeConfig) (specifier : String) : List Nat → Path → Prop
  /-- An alias stands for the targets of its pattern. -/
  | mapped {base : Path} {pattern target captured : String} {targets : List String} {i j : Nat}
    (hbase : c.pathsBase = some base) (hpattern : c.paths[i]? = some (pattern, targets))
    (hcaptured : capture pattern specifier = some captured) (htarget : targets[j]? = some target) :
    Candidate c specifier [0, i, j] (base.joinText (substitute target captured))
  /-- After all aliases a specifier is seen from the base directory. -/
  | based {base : Path} (hbase : c.baseUrl = some base) :
    Candidate c specifier [1] (base.joinText specifier)

namespace Project

/-- What a specifier in a file may mean, with its rank. -/
inductive Candidate (p : Project) (importer : Path) (specifier : String) :
    List Nat → Path → Prop
  /-- A specifier that starts with a dot is seen from the directory of the file. -/
  | relative (h : specifier.toList.head? = some '.') :
    Candidate p importer specifier [] (importer.parent.joinText specifier)
  /-- One that starts with a slash is a path. -/
  | absolute (h : specifier.toList.head? = some '/') :
    Candidate p importer specifier [] (Path.parse specifier)
  /-- Any other is left to the type configuration. -/
  | configured {config : TypeConfig} {r : List Nat} {c : Path}
    (hdot : specifier.toList.head? ≠ some '.') (hslash : specifier.toList.head? ≠ some '/')
    (hconfig : p.config = some config) (h : config.Candidate specifier r c) :
    Candidate p importer specifier r c

/-- What a candidate stands for, with its rank. -/
inductive StandsFor (c : Path) : List Nat → Path → Prop
  /-- First it stands for itself. -/
  | itself : StandsFor c [0] c
  /-- Then, if it may be the result of compiling, for what it is compiled from. -/
  | source {k : Nat} {suffix : String} (h : c.suffix ∈ compiledSuffixes)
    (hk : Language.moduleSuffixes[k]? = some suffix) :
    StandsFor c [1, k] (c.withName (c.stem ++ suffix))
  /-- Then for itself with a suffix added. -/
  | suffixed {k : Nat} {suffix : String} (hk : Language.moduleSuffixes[k]? = some suffix) :
    StandsFor c [2, k] (c.withName (c.name ++ suffix))
  /-- Last it stands for the index files in it. -/
  | index {k : Nat} {name : String} (hk : Language.indexFiles[k]? = some name) :
    StandsFor c [3, k] (c.child name)

/-- A candidate stands for no module. -/
def Barren (d : Disk) (c : Path) : Prop := ∀ s q, StandsFor c s q → isModule d q = false

/-- A path is the first module in the order of ranks: no module stands before it among what its
candidate stands for, and none among what earlier candidates stand for. -/
def First (p : Project) (d : Disk) (importer : Path) (specifier : String) (q : Path) : Prop :=
  ∃ r c s, p.Candidate importer specifier r c ∧ StandsFor c s q ∧ isModule d q = true ∧
    (∀ s' q', StandsFor c s' q' → s' < s → isModule d q' = false) ∧
    ∀ r' c', p.Candidate importer specifier r' c' → r' < r → Barren d c'

/-- A candidate without a name comes before any module. -/
def Stuck (p : Project) (d : Disk) (importer : Path) (specifier : String) : Prop :=
  ∃ r c, p.Candidate importer specifier r c ∧ c.parts = [] ∧
    ∀ r' c', p.Candidate importer specifier r' c' → r' < r → Barren d c'

/-! ### Lists in the order of ranks -/

/-- The targets of a pattern that a specifier matches. -/
theorem ranked_targets (base : Path) (specifier : String) (e : String × List String) :
    Ranked (fun s a => ∃ captured j target, TypeConfig.capture e.1 specifier = some captured ∧
        e.2[j]? = some target ∧ s = [j] ∧
        a = base.joinText (TypeConfig.substitute target captured))
      (match TypeConfig.capture e.1 specifier with
        | none => []
        | some captured =>
          e.2.map fun t => base.joinText (TypeConfig.substitute t captured)) := by
  cases TypeConfig.capture e.1 specifier with
  | none => exact Ranked.nil.congr fun r a => by simp
  | some captured =>
    refine (Ranked.map _ e.2).congr fun r a => ?_
    constructor
    · rintro ⟨j, target, hj, rfl, rfl⟩
      exact ⟨captured, j, target, rfl, hj, rfl, rfl⟩
    · rintro ⟨_, j, target, heq, hj, rfl, rfl⟩
      cases heq
      exact ⟨j, target, hj, rfl, rfl⟩

theorem ranked_aliased (c : TypeConfig) (specifier : String) :
    Ranked (fun r a => c.Candidate specifier (0 :: r) a)
      (match c.pathsBase with
        | none => []
        | some base =>
          c.paths.flatMap fun (pattern, targets) =>
            match TypeConfig.capture pattern specifier with
            | none => []
            | some captured => targets.map fun t =>
              base.joinText (TypeConfig.substitute t captured)) := by
  cases hbase : c.pathsBase with
  | none =>
    refine Ranked.nil.congr fun r a => ⟨False.elim, ?_⟩
    rintro ⟨h⟩
    rw [hbase] at h
    cases h
  | some base =>
    refine (Ranked.flatMap fun e _ => ranked_targets base specifier e).congr fun r a => ⟨?_, ?_⟩
    · rintro ⟨i, ⟨pattern, targets⟩, s, hi, ⟨captured, j, target, hcaptured, hj, rfl, rfl⟩, rfl⟩
      exact .mapped hbase hi hcaptured hj
    · rintro ⟨h, hi, hcaptured, hj⟩
      rw [hbase] at h
      cases h
      exact ⟨_, _, _, hi, ⟨_, _, _, hcaptured, hj, rfl, rfl⟩, rfl⟩

theorem ranked_based (c : TypeConfig) (specifier : String) :
    Ranked (fun r a => c.Candidate specifier (1 :: r) a)
      (c.baseUrl.map fun base => base.joinText specifier).toList := by
  cases hbase : c.baseUrl with
  | none =>
    refine Ranked.nil.congr fun r a => ⟨False.elim, ?_⟩
    rintro (_ | h)
    rw [hbase] at h
    cases h
  | some base =>
    refine (Ranked.singleton _).congr fun r a => ⟨?_, ?_⟩
    · rintro ⟨rfl, rfl⟩
      exact .based hbase
    · rintro (_ | h)
      rw [hbase] at h
      cases h
      exact ⟨rfl, rfl⟩

theorem ranked_config (c : TypeConfig) (specifier : String) :
    Ranked (c.Candidate specifier) (c.candidates specifier) := by
  refine ((ranked_aliased c specifier).append (ranked_based c specifier)).congr fun r a => ⟨?_, ?_⟩
  · rintro (⟨s, h, rfl⟩ | ⟨s, h, rfl⟩) <;> exact h
  · intro h
    cases h with
    | mapped hbase hi hcaptured hj => exact .inl ⟨_, .mapped hbase hi hcaptured hj, rfl⟩
    | based hbase => exact .inr ⟨_, .based hbase, rfl⟩

/-- **Candidates are listed in the order of their ranks.** -/
theorem ranked_candidates (p : Project) (importer : Path) (specifier : String) :
    Ranked (p.Candidate importer specifier) (p.candidates importer specifier) := by
  unfold candidates
  split
  · next hdot =>
    refine (Ranked.singleton _).congr fun r a => ⟨?_, ?_⟩
    · rintro ⟨rfl, rfl⟩
      exact .relative hdot
    · rintro (_ | hslash | ⟨hno, -⟩)
      · exact ⟨rfl, rfl⟩
      · rw [hdot] at hslash
        cases hslash
      · exact absurd hdot hno
  · next hslash =>
    refine (Ranked.singleton _).congr fun r a => ⟨?_, ?_⟩
    · rintro ⟨rfl, rfl⟩
      exact .absolute hslash
    · rintro (hdot | _ | ⟨-, hno, -⟩)
      · rw [hdot] at hslash
        cases hslash
      · exact ⟨rfl, rfl⟩
      · exact absurd hslash hno
  · next hdot hslash =>
    cases hconfig : p.config with
    | none =>
      refine Ranked.nil.congr fun r a => ⟨False.elim, ?_⟩
      rintro (h | h | ⟨-, -, h, -⟩)
      · exact hdot h
      · exact hslash h
      · rw [hconfig] at h
        cases h
    | some config =>
      refine (ranked_config config specifier).congr fun r a => ⟨?_, ?_⟩
      · exact .configured hdot hslash hconfig
      · rintro (h | h | ⟨-, -, h, hcandidate⟩)
        · exact absurd h hdot
        · exact absurd h hslash
        · rw [hconfig] at h
          cases h
          exact hcandidate

/-- What a candidate with a name stands for, in the order of ranks. -/
def choices (c : Path) : List Path :=
  [[c],
    if compiledSuffixes.contains c.suffix then
      Language.moduleSuffixes.map fun e => c.withName (c.stem ++ e)
    else [],
    Language.moduleSuffixes.map fun e => c.withName (c.name ++ e),
    Language.indexFiles.map c.child].flatten

/-- **What a candidate stands for is listed in the order of ranks.** -/
theorem ranked_choices (c : Path) : Ranked (StandsFor c) (choices c) := by
  have hself : Ranked (fun r q => StandsFor c (0 :: r) q) [c] := by
    refine (Ranked.singleton c).congr fun r q => ⟨?_, ?_⟩
    · rintro ⟨rfl, rfl⟩
      exact .itself
    · rintro ⟨⟩
      exact ⟨rfl, rfl⟩
  have hsources : Ranked (fun r q => StandsFor c (1 :: r) q)
      (if compiledSuffixes.contains c.suffix then
        Language.moduleSuffixes.map fun e => c.withName (c.stem ++ e) else []) := by
    by_cases hsuffix : c.suffix ∈ compiledSuffixes
    · rw [if_pos (List.contains_iff_mem.2 hsuffix)]
      refine (Ranked.map _ _).congr fun r q => ⟨?_, ?_⟩
      · rintro ⟨k, e, hk, rfl, rfl⟩
        exact .source hsuffix hk
      · rintro (_ | ⟨-, hk⟩)
        exact ⟨_, _, hk, rfl, rfl⟩
    · rw [if_neg fun h => hsuffix (List.contains_iff_mem.1 h)]
      refine Ranked.nil.congr fun r q => ⟨False.elim, ?_⟩
      rintro (_ | ⟨h, -⟩)
      exact hsuffix h
  have hfiles : Ranked (fun r q => StandsFor c (2 :: r) q)
      (Language.moduleSuffixes.map fun e => c.withName (c.name ++ e)) := by
    refine (Ranked.map _ _).congr fun r q => ⟨?_, ?_⟩
    · rintro ⟨k, e, hk, rfl, rfl⟩
      exact .suffixed hk
    · rintro (_ | _ | hk)
      exact ⟨_, _, hk, rfl, rfl⟩
  have hindexes : Ranked (fun r q => StandsFor c (3 :: r) q) (Language.indexFiles.map c.child) := by
    refine (Ranked.map _ _).congr fun r q => ⟨?_, ?_⟩
    · rintro ⟨k, e, hk, rfl, rfl⟩
      exact .index hk
    · rintro (_ | _ | _ | hk)
      exact ⟨_, _, hk, rfl, rfl⟩
  refine (Ranked.flatten (.cons hself (.cons hsources (.cons hfiles
    (.cons hindexes .nil))))).congr fun r q => ⟨?_, fun h => ?_⟩
  · rintro ⟨k, R, s, hk, hR, rfl⟩
    match k, hk with
    | 0, rfl => exact hR
    | 1, rfl => exact hR
    | 2, rfl => exact hR
    | 3, rfl => exact hR
  · cases h with
    | itself => exact ⟨0, _, _, rfl, .itself, rfl⟩
    | source h hk => exact ⟨1, _, _, rfl, .source h hk, rfl⟩
    | suffixed hk => exact ⟨2, _, _, rfl, .suffixed hk, rfl⟩
    | index hk => exact ⟨3, _, _, rfl, .index hk, rfl⟩

/-! ### Searching -/

/-- Only a candidate without a name stands for nothing. -/
theorem expansions_eq (c : Path) :
    expansions c = if c.parts = [] then .error (.emptyName c) else .ok (choices c) := by
  unfold expansions
  by_cases hparts : c.parts = []
  · have hsuffix : compiledSuffixes.contains c.suffix = false := by
      unfold Path.suffix Path.name
      rw [hparts]
      rfl
    have hfiles : withEndings c Language.moduleSuffixes = .error (.emptyName c) :=
      if_pos (List.isEmpty_iff.2 hparts)
    rw [hsuffix, hfiles, if_pos hparts]
    rfl
  · have hfiles : withEndings c Language.moduleSuffixes =
        .ok (Language.moduleSuffixes.map fun e => c.withName (c.name ++ e)) :=
      if_neg fun hempty => hparts (List.isEmpty_iff.1 hempty)
    have hsources : withEndings (c.withName c.stem) Language.moduleSuffixes =
        .ok (Language.moduleSuffixes.map fun e => c.withName (c.stem ++ e)) := by
      have hne : ¬(c.withName c.stem).parts.isEmpty = true := fun hempty =>
        List.append_ne_nil_of_right_ne_nil _ (List.cons_ne_nil _ _) (List.isEmpty_iff.1 hempty)
      unfold withEndings
      rw [if_neg hne, Path.name_withName]
      exact congrArg Except.ok (List.map_congr_left fun e _ => Path.withName_withName _ _ _)
    rw [hfiles, hsources, if_neg hparts, choices]
    cases compiledSuffixes.contains c.suffix <;> simp <;> rfl

/-- The search ends at a candidate: it has no name, or it stands for a module. -/
def endsSearch (d : Disk) (c : Path) : Bool := c.parts.isEmpty || (choices c).any (isModule d)

theorem firstModule_cons {d : Disk} {c : Path} (hparts : c.parts ≠ []) (cs : List Path) :
    firstModule d (c :: cs) =
      match (choices c).find? (isModule d) with
      | some q => .ok (some q)
      | none => firstModule d cs := by
  rw [firstModule, expansions_eq, if_neg hparts]
  rfl

/-- **The search goes by the first candidate at which it ends.** -/
theorem firstModule_eq (d : Disk) (cs : List Path) :
    firstModule d cs =
      match cs.find? (endsSearch d) with
      | none => .ok none
      | some c =>
        if c.parts = [] then .error (.emptyName c) else .ok ((choices c).find? (isModule d)) := by
  induction cs with
  | nil => rfl
  | cons c cs ih =>
    rw [List.find?_cons]
    by_cases hparts : c.parts = []
    · have hends : endsSearch d c = true := by
        unfold endsSearch
        rw [hparts]
        rfl
      rw [hends, firstModule, expansions_eq, if_pos hparts]
      dsimp only
      rw [if_pos hparts]
      rfl
    · have hempty : c.parts.isEmpty = false :=
        Bool.eq_false_iff.2 fun h => hparts (List.isEmpty_iff.1 h)
      rw [firstModule_cons hparts, endsSearch, hempty, Bool.false_or, ← List.isSome_find?]
      cases hfind : (choices c).find? (isModule d) with
      | none => exact ih
      | some q =>
        dsimp only [Option.isSome]
        rw [if_neg hparts, hfind]

variable {d : Disk}

theorem endsSearch_iff {c : Path} : endsSearch d c = true ↔ c.parts = [] ∨ ¬Barren d c := by
  unfold endsSearch Barren
  rw [Bool.or_eq_true, List.isEmpty_iff, List.any_eq_true]
  simp only [(ranked_choices c).mem_iff, not_forall, Bool.not_eq_false]
  exact or_congr_right ⟨fun ⟨q, ⟨s, hs⟩, hq⟩ => ⟨s, q, hs, hq⟩,
    fun ⟨s, q, hs, hq⟩ => ⟨q, ⟨s, hs⟩, hq⟩⟩

theorem barren_of_endsSearch {c : Path} (h : endsSearch d c = false) : Barren d c :=
  not_not.1 fun hc => Bool.eq_false_iff.1 h (endsSearch_iff.2 (.inr hc))

variable {p : Project} {importer : Path} {specifier : String}

/-- If nothing before a candidate stands for a module, the search ends there or at a candidate
without a name. -/
theorem exists_endsSearch {r : List Nat} {c : Path} (hc : p.Candidate importer specifier r c)
    (hends : endsSearch d c = true)
    (hearlier : ∀ r' c', p.Candidate importer specifier r' c' → r' < r → Barren d c') :
    ∃ found, (p.candidates importer specifier).find? (endsSearch d) = some found ∧
      (found = c ∨ found.parts = []) := by
  have hranked := ranked_candidates p importer specifier
  obtain ⟨found, hfound⟩ := Option.isSome_iff_exists.1
    (List.find?_isSome.2 ⟨c, hranked.mem_iff.2 ⟨r, hc⟩, hends⟩)
  refine ⟨found, hfound, ?_⟩
  obtain ⟨s, hs, hfoundEnds, hfirst⟩ := hranked.find?_eq_some_iff.1 hfound
  rcases lt_trichotomy s r with hlt | rfl | hgt
  · exact .inr ((endsSearch_iff.1 hfoundEnds).resolve_right
      (not_not_intro (hearlier s found hs hlt)))
  · exact .inl (hranked.unique hs hc)
  · rw [hfirst r c hc hgt] at hends
    cases hends

/-- The search is stuck where it ends at a candidate without a name. -/
theorem stuck_iff : p.Stuck d importer specifier ↔
    ∃ c, (p.candidates importer specifier).find? (endsSearch d) = some c ∧ c.parts = [] := by
  constructor
  · rintro ⟨r, c, hc, hparts, hearlier⟩
    obtain ⟨found, hfound, rfl | hnameless⟩ :=
      exists_endsSearch hc (endsSearch_iff.2 (.inl hparts)) hearlier
    · exact ⟨found, hfound, hparts⟩
    · exact ⟨found, hfound, hnameless⟩
  · rintro ⟨c, hfound, hparts⟩
    obtain ⟨r, hc, -, hearlier⟩ :=
      (ranked_candidates p importer specifier).find?_eq_some_iff.1 hfound
    exact ⟨r, c, hc, hparts, fun r' c' hc' hlt => barren_of_endsSearch (hearlier r' c' hc' hlt)⟩

/-- Unless the search is stuck, it ends at the candidate that stands for the first module. -/
theorem first_iff (h : ¬p.Stuck d importer specifier) {q : Path} :
    p.First d importer specifier q ↔
      ∃ c, (p.candidates importer specifier).find? (endsSearch d) = some c ∧
        (choices c).find? (isModule d) = some q := by
  constructor
  · rintro ⟨r, c, s, hc, hs, hmodule, hbefore, hearlier⟩
    have hends : endsSearch d c = true := endsSearch_iff.2 (.inr fun hbarren => by
      rw [hbarren s q hs] at hmodule
      cases hmodule)
    obtain ⟨found, hfound, rfl | hnameless⟩ := exists_endsSearch hc hends hearlier
    · exact ⟨found, hfound,
        (ranked_choices found).find?_eq_some_iff.2 ⟨s, hs, hmodule, hbefore⟩⟩
    · exact absurd (stuck_iff.2 ⟨found, hfound, hnameless⟩) h
  · rintro ⟨c, hfound, hq⟩
    obtain ⟨r, hc, -, hearlier⟩ :=
      (ranked_candidates p importer specifier).find?_eq_some_iff.1 hfound
    obtain ⟨s, hs, hmodule, hbefore⟩ := (ranked_choices c).find?_eq_some_iff.1 hq
    exact ⟨r, c, s, hc, hs, hmodule, hbefore,
      fun r' c' hc' hlt => barren_of_endsSearch (hearlier r' c' hc' hlt)⟩

/-- **What a search comes to**: it fails if it is stuck, and otherwise finds the first module. -/
theorem firstModule_candidates (p : Project) (d : Disk) (importer : Path) (specifier : String) :
    (p.Stuck d importer specifier → ∃ c, c.parts = [] ∧
      firstModule d (p.candidates importer specifier) = .error (.emptyName c)) ∧
    (¬p.Stuck d importer specifier → ∃ found,
      firstModule d (p.candidates importer specifier) = .ok found ∧
      ∀ q, found = some q ↔ p.First d importer specifier q) := by
  rw [firstModule_eq]
  constructor
  · intro hstuck
    obtain ⟨c, hfound, hparts⟩ := stuck_iff.1 hstuck
    rw [hfound]
    exact ⟨c, hparts, if_pos hparts⟩
  · intro hstuck
    simp only [first_iff hstuck]
    cases hfound : (p.candidates importer specifier).find? (endsSearch d) with
    | none => exact ⟨none, rfl, by simp⟩
    | some c =>
      have hparts : c.parts ≠ [] := fun hnil => hstuck (stuck_iff.2 ⟨c, hfound, hnil⟩)
      exact ⟨_, if_neg hparts, by simp⟩

end Project

/-! ### Paths from a root on -/

namespace TypeConfig

variable {d : Disk} {here path base : Path} {config : TypeConfig}

/-- Configurations that are visited from absolute paths on stand at absolute paths. -/
theorem Visits.root {paths : List Path} {visits : List Visit} (h : Visits d paths visits)
    (hpaths : ∀ p ∈ paths, p.root = .slash) : ∀ v ∈ visits, v.path.root = .slash := by
  induction h with
  | nil => exact nofun
  | @cons path others fields options below after _ _ _ _ ihbelow ihafter =>
    intro v hv
    rcases List.mem_append.1 hv with hv | hv
    · refine ihbelow (fun p hp => ?_) v hv
      obtain ⟨target, -, rfl⟩ := List.mem_map.1 hp
      exact (parentPath_plain d path.parent target).1
    · rcases List.mem_cons.1 hv with rfl | hv
      · exact hpaths path List.mem_cons_self
      · exact ihafter (fun p hp => hpaths p (List.mem_cons_of_mem _ hp)) v hv

theorem root_of_lastBase {visits : List Visit} (h : lastBase visits = some base) :
    base.root = .slash := by
  obtain ⟨v, -, hv⟩ := List.mem_filterMap.1 (List.mem_of_getLast? h)
  unfold Visit.baseUrl? at hv
  split at hv
  · cases hv
    rfl
  · cases hv

theorem root_baseUrl (h : read d here path = .ok config) (hbase : config.baseUrl = some base) :
    base.root = .slash := by
  obtain ⟨-, visits, -, hreflects⟩ := readFrom_reflects h
  exact root_of_lastBase (hreflects.baseUrl.symm.trans hbase)

theorem root_pathsBase (h : read d here path = .ok config) (hpaths : config.paths ≠ [])
    (hbase : config.pathsBase = some base) : base.root = .slash := by
  obtain ⟨-, visits, hvisits, -⟩ := readFrom_reflects h
  obtain ⟨s, hs, hbased⟩ := readFrom_basedOn h
  cases s with
  | none => exact absurd hbased hpaths
  | some supplier =>
    obtain ⟨-, -, hfixed⟩ := hbased
    obtain rfl : base = supplier.base := Option.some.inj (hbase.symm.trans hfixed)
    unfold Supplier.base
    cases hlast : lastBase supplier.visits with
    | some last => exact root_of_lastBase hlast
    | none =>
      refine hvisits.root (fun p hp => ?_) supplier.visit
        ((hs.visits_infix hvisits).subset (List.mem_append_right _ List.mem_cons_self))
      rw [List.mem_singleton.1 hp]
      rfl

end TypeConfig

theorem Path.root_join {p : Path} (h : p.root ≠ .relative) (q : Path) :
    (p.join q).root ≠ .relative := by
  unfold Path.join
  split
  · exact h
  · assumption

namespace Project

variable {p : Project} {importer : Path} {specifier : String} {r : List Nat} {c q : Path}

/-- Candidates have a root if the importing file has one and the type configuration was read. -/
theorem Candidate.root (h : p.Candidate importer specifier r c)
    (hconfig : ∀ config, p.config = some config →
      ∃ d here path, TypeConfig.read d here path = .ok config)
    (himporter : importer.root ≠ .relative) : c.root ≠ .relative := by
  cases h with
  | relative => exact Path.root_join (p := importer.parent) himporter _
  | absolute hslash =>
    obtain ⟨cs, hcs⟩ : ∃ cs, specifier.toList = '/' :: cs := by
      cases hlist : specifier.toList with
      | nil =>
        rw [hlist] at hslash
        cases hslash
      | cons c cs =>
        rw [hlist] at hslash
        cases hslash
        exact ⟨cs, rfl⟩
    unfold Path.parse
    rw [hcs]
    dsimp only
    split
    · exact nofun
    · exact nofun
    · exact nofun
    · next hno => exact absurd rfl (hno cs)
  | configured _ _ hsome h =>
    obtain ⟨d, here, path, hread⟩ := hconfig _ hsome
    cases h with
    | mapped hbase hpattern =>
      refine Path.root_join (fun hrelative => ?_) _
      have hne := List.ne_nil_of_mem (List.mem_of_getElem? hpattern)
      rw [TypeConfig.root_pathsBase hread hne hbase] at hrelative
      cases hrelative
    | based hbase =>
      refine Path.root_join (fun hrelative => ?_) _
      rw [TypeConfig.root_baseUrl hread hbase] at hrelative
      cases hrelative

theorem StandsFor.root {s : List Nat} (h : StandsFor c s q) : q.root = c.root := by
  cases h <;> rfl

/-! ### Loading what is found -/

end Project

/-- All TypeScript files on a disk are valid UTF-8. -/
def Disk.Legible (d : Disk) : Prop :=
  ∀ p content, Language.isSource p = true → d.read p = .ok content →
    ∃ cs, Utf8.decodeChars content = .ok cs

/-- Whether all files on a disk are valid UTF-8. -/
def Disk.isLegible (d : Disk) : Bool :=
  d.entries.all fun e =>
    match e.2 with
    | .file content => (Utf8.decodeChars content).isOk
    | .directory => true

theorem Disk.legible_of_isLegible {d : Disk} (h : d.isLegible = true) : d.Legible := by
  intro p content _ hread
  obtain ⟨place, hentry⟩ := d.exists_entry_of_read hread
  have hok := List.all_eq_true.1 h _ hentry
  dsimp only at hok
  cases hdecode : Utf8.decodeChars content with
  | ok cs => exact ⟨cs, rfl⟩
  | error fault =>
    rw [hdecode] at hok
    cases hok

namespace Project

variable {q : Path}

/-- A module can be loaded where its absolute path leads to. -/
theorem exists_readSource (parse : Parser) {d : Disk} (hd : d.Legible) (here : Path)
    (hroot : q.root ≠ .relative) (h : isModule d q = true) :
    ∃ s, readSource parse d (here.absolute q) = .ok s := by
  obtain ⟨hfile, hsource⟩ := Bool.and_eq_true_iff.1 h
  obtain ⟨hname, language, hlanguage⟩ := Language.ofPath_of_isSource hsource
  obtain ⟨content, hcontent⟩ := Disk.isFile_iff.1 hfile
  have hsame := Language.ofPath_absolute here hroot hname
  have hread : d.read (here.absolute q) = .ok content := by
    unfold Disk.read at hcontent ⊢
    cases hfind : d.find q with
    | error cause =>
      rw [hfind] at hcontent
      cases hcontent
    | ok found =>
      rw [hfind] at hcontent
      rw [Disk.find_absolute here hroot hfind]
      obtain ⟨place, _ | _⟩ := found
      · exact hcontent
      · cases hcontent
  have hchars := hd _ content ((Language.isSource_absolute here hroot hname).trans hsource) hread
  exact ⟨_, readSource_eq_ok.2 ⟨language, content, hsame.trans hlanguage, hread, hchars, rfl⟩⟩

/-- A source that can be read is there after it has been fetched. -/
theorem outcome_fetch_of_readSource {b : Bench} {s : Source}
    (h : readSource b.project.parse b.disk (b.home.absolute q) = .ok s) :
    (outcome (fetch q) b).1 = .ok (b.home.absolute q) ∧
      ∃ t, (outcome (fetch q) b).2.project.source? (b.home.absolute q) = some t := by
  rw [outcome_fetch]
  rcases sourceAt_cases (b.home.absolute q) b with ⟨t, -, hout⟩ | ⟨cause, -, herr, -⟩ |
    ⟨t, b', -, -, hout, -⟩
  · rw [hout]
    exact ⟨rfl, t, source?_of_sourceAt hout⟩
  · rw [h] at herr
    cases herr
  · rw [hout]
    exact ⟨rfl, t, source?_of_sourceAt hout⟩

/-- **An import leads to the first module, or nowhere, unless the search is stuck.**  Let all
TypeScript files be readable, and let the type configuration be one that was read.  If a candidate
without a name comes before any module, following the import fails.  Otherwise it does not: it leads
to the first module in the order of ranks, which is loaded then, or it leads nowhere if there is
none. -/
theorem target_first {b : Bench}
    (hconfig : ∀ config, b.project.config = some config →
      ∃ d here path, TypeConfig.read d here path = .ok config)
    (hlegible : b.disk.Legible) {importer : Path} (himporter : importer.root ≠ .relative)
    (specifier : String) :
    (b.project.Stuck b.disk importer specifier → ∃ c, c.parts = [] ∧
      (outcome (target importer specifier) b).1 = .error (.emptyName c)) ∧
    (¬b.project.Stuck b.disk importer specifier → ∃ found,
      (outcome (target importer specifier) b).1 = .ok found ∧
      (∀ place, found = some place ↔
        ∃ q, b.project.First b.disk importer specifier q ∧ place = b.home.absolute q) ∧
      ∀ place, found = some place →
        ∃ s, (outcome (target importer specifier) b).2.project.source? place = some s) := by
  obtain ⟨hstuck, hsearch⟩ := firstModule_candidates b.project b.disk importer specifier
  unfold target
  rw [outcome_get_bind]
  constructor
  · intro h
    obtain ⟨c, hparts, herr⟩ := hstuck h
    rw [herr]
    exact ⟨c, hparts, rfl⟩
  · intro h
    obtain ⟨found, hfound, hfirst⟩ := hsearch h
    rw [hfound]
    cases found with
    | none =>
      refine ⟨none, rfl, fun place => ⟨nofun, ?_⟩, nofun⟩
      rintro ⟨q, hq, -⟩
      cases (hfirst q).2 hq
    | some q =>
      have hq := (hfirst q).1 rfl
      obtain ⟨r, c, s, hc, hs, hmodule, -⟩ := hq
      have hroot : q.root ≠ .relative := hs.root ▸ hc.root hconfig himporter
      obtain ⟨t, ht⟩ := exists_readSource b.project.parse hlegible b.home hroot hmodule
      obtain ⟨hfetch, hthere⟩ := outcome_fetch_of_readSource ht
      dsimp only
      rw [outcome_map, hfetch]
      refine ⟨some (b.home.absolute q), rfl, fun place => ⟨?_, ?_⟩, ?_⟩
      · rintro ⟨⟩
        exact ⟨q, (hfirst q).1 rfl, rfl⟩
      · rintro ⟨q', hq', rfl⟩
        cases (hfirst q').2 hq'
        rfl
      · rintro place ⟨⟩
        exact hthere

/-! ### Imports by an alias and from the root directory -/

namespace Mapped

/-- A disk with a file that an alias leads to from another one:
```
/a.ts          import {X} from "~/x"
/src/lib/x.ts  export interface X{a:y}
``` -/
def disk : Disk :=
  ⟨[(["a.ts"], .file (bytesOfLines ["import \x7bX\x7d from \"~/x\""])),
    (["src"], .directory), (["src", "lib"], .directory),
    (["src", "lib", "x.ts"], .file (bytesOfLines ["export interface X\x7ba:y\x7d"]))]⟩

/-- A type configuration by which `~` stands for `/src/lib`. -/
def config : Option TypeConfig :=
  (TypeConfig.read TypeConfig.Bases.disk TypeConfig.Bases.root
    (TypeConfig.Bases.file "all.json")).toOption

/-- A project with this disk and this type configuration. -/
def bench : Bench where
  disk := disk
  home := TypeConfig.Bases.root
  log := []
  project := .empty Module.parse TypeConfig.Bases.root config

/-- The file that the alias leads to. -/
def found : Path := ⟨.slash, ["src", "lib", "x.ts"]⟩

set_option maxRecDepth 100000 in
theorem assumed : bench.disk.isLegible = true ∧
    ((bench.project.candidates (OnDisk.place "a.ts") "~/x").find? (endsSearch bench.disk)).map
      (fun c => c.parts) = some ["src", "lib", "x"] ∧
    (outcome (target (OnDisk.place "a.ts") "~/x") bench).1.toOption = some (some found) := by
  decide +kernel

theorem not_stuck : ¬bench.project.Stuck bench.disk (OnDisk.place "a.ts") "~/x" := by
  intro hstuck
  obtain ⟨c, hfound, hparts⟩ := stuck_iff.1 hstuck
  have hfirst := assumed.2.1
  rw [hfound, Option.map_some, hparts] at hfirst
  cases hfirst

theorem exists_read (c : TypeConfig) (h : bench.project.config = some c) :
    ∃ d here path, TypeConfig.read d here path = .ok c := by
  have hconfig : bench.project.config = config := by
    unfold bench Project.empty
    dsimp only
  rw [hconfig] at h
  unfold config at h
  exact ⟨_, _, _, except_ok_of_toOption h⟩

end Mapped

/-- An alias leads to a file whose suffix has been left out. -/
theorem target_first_mapped :
    (∀ config, Mapped.bench.project.config = some config →
      ∃ d here path, TypeConfig.read d here path = .ok config) ∧
    Mapped.bench.disk.Legible ∧ (OnDisk.place "a.ts").root ≠ .relative ∧
    ¬Mapped.bench.project.Stuck Mapped.bench.disk (OnDisk.place "a.ts") "~/x" ∧
    (outcome (target (OnDisk.place "a.ts") "~/x") Mapped.bench).1 = .ok (some Mapped.found) ∧
    (∃ q, Mapped.bench.project.First Mapped.bench.disk (OnDisk.place "a.ts") "~/x" q ∧
      Mapped.found = Mapped.bench.home.absolute q) ∧
    ∃ s, (outcome (target (OnDisk.place "a.ts") "~/x") Mapped.bench).2.project.source?
      Mapped.found = some s := by
  obtain ⟨hlegible, -, hfound⟩ := Mapped.assumed
  have hlegible := Disk.legible_of_isLegible hlegible
  have hroot : (OnDisk.place "a.ts").root ≠ .relative := nofun
  obtain ⟨found, htarget, hfirst, hloaded⟩ :=
    (target_first Mapped.exists_read hlegible hroot "~/x").2 Mapped.not_stuck
  have hout := except_ok_of_toOption hfound
  obtain rfl : found = some Mapped.found := Except.ok.inj (htarget.symm.trans hout)
  exact ⟨Mapped.exists_read, hlegible, hroot, Mapped.not_stuck, hout, (hfirst _).1 rfl, hloaded _ rfl⟩

set_option maxRecDepth 100000 in
/-- An import from the root directory fails, though all files can be read. -/
theorem target_root :
    (OnDisk.bench [("a.ts", bytesOfLines ["import \x7bX\x7d from \"/\""])]).disk.Legible ∧
    (outcome (target (OnDisk.place "a.ts") "/")
      (OnDisk.bench [("a.ts", bytesOfLines ["import \x7bX\x7d from \"/\""])])).1 =
        .error (.emptyName ⟨.slash, []⟩) :=
  ⟨Disk.legible_of_isLegible (by decide +kernel), by
    unfold target
    rw [outcome_get_bind, firstModule_eq]
    rfl⟩

end Project

end RouteLint
