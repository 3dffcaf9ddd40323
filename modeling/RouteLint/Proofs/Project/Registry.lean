import RouteLint.Proofs.Disk.Shape
import RouteLint.Proofs.Project.Growth

/-!
# What a project has loaded

Files come into a project in three ways: they are loaded, they are added as roots, or an import
leads to them.  However a file is reached, by whatever spelling of its path, it stands in the table
of the project under one path, and it is read from the disk once, by the first call that is
answered with that path.  The roots are the files that were added, each once and in the order in
which they were first added.  A call that fails changes nothing.

The disk may be changed by others between two calls, so every call comes with the disk that it
finds.

## Main definitions

* `Call`, `Call.perform` — a call that may bring a file into a project.
* `Record`, `Call.runAll` — calls one after the other, with what came of each.
* `Bench.Registered` — how the files of a project follow from the calls so far.

## Main results

* `Call.effect` — **all that a call can do.**
* `Bench.Registered.step` — a call and its record go together.
* `files_registered_once` — the files and the roots of a project after any calls.
-/

namespace RouteLint

open Project

/-! ### Calls -/

/-- A call that may bring a file into a project. -/
inductive Call where
  /-- Load a file. -/
  | load (path : Path)
  /-- Load a file and make it a root. -/
  | add (path : Path)
  /-- Load the file that an import leads to. -/
  | resolve (importer : Path) (specifier : String)

namespace Call

/-- Perform a call; the path of the file that it is answered with, if an import leads to one. -/
def perform : Call → Work (Option Path)
  | load path => some <$> fetch path
  | add path => some <$> Project.add path
  | resolve importer specifier => target importer specifier

/-- The path that a call asks for, as it is spelled. -/
def wanted (d : Disk) (p : Project) : Call → Except Project.Error (Option Path)
  | load path => .ok (some path)
  | add path => .ok (some path)
  | resolve importer specifier => firstModule d (p.candidates importer specifier)

/-- The roots after a call that is answered with a file. -/
def enroll (roots : List Path) (place : Path) : Call → List Path
  | add _ => putOnce roots place
  | _ => roots

end Call

/-- A bench with other roots. -/
def Bench.withRoots (b : Bench) (roots : List Path) : Bench :=
  { b with project := { b.project with roots } }

/-- A bench on another disk. -/
def Bench.onDisk (b : Bench) (disk : Disk) : Bench := { b with disk }

/-- A call that asks for a path loads it, and may make it a root. -/
theorem Call.outcome_perform (c : Call) (b : Bench) :
    outcome c.perform b =
      match c.wanted b.disk b.project with
      | .error e => (.error e, b)
      | .ok none => (.ok none, b)
      | .ok (some q) =>
        match outcome (sourceAt (b.home.absolute q)) b with
        | (.error e, b') => (.error e, b')
        | (.ok _, b') =>
          (.ok (some (b.home.absolute q)),
            b'.withRoots (c.enroll b'.project.roots (b.home.absolute q))) := by
  cases c with
  | load path =>
    rw [perform, outcome_map, outcome_fetch]
    dsimp only [wanted]
    rcases outcome (sourceAt (b.home.absolute path)) b with ⟨e | s, b'⟩ <;> rfl
  | add path =>
    rw [perform, outcome_map, outcome_add, outcome_fetch]
    dsimp only [wanted]
    rcases outcome (sourceAt (b.home.absolute path)) b with ⟨e | s, b'⟩ <;> rfl
  | resolve importer specifier =>
    unfold perform target
    rw [outcome_get_bind]
    dsimp only [wanted]
    cases firstModule b.disk (b.project.candidates importer specifier) with
    | error e => rfl
    | ok found =>
      cases found with
      | none => rfl
      | some q =>
        dsimp only
        rw [outcome_map, outcome_fetch]
        rcases outcome (sourceAt (b.home.absolute q)) b with ⟨e | s, b'⟩ <;> rfl

/-- What a call asks for is a matter of the disk and the type configuration. -/
theorem Call.wanted_congr {p p' : Project} (h : p.config = p'.config) (d : Disk) (c : Call) :
    c.wanted d p = c.wanted d p' := by
  cases c with
  | load path => rfl
  | add path => rfl
  | resolve importer specifier =>
    unfold wanted candidates
    rw [h]

/-- **All that a call can do.**  It fails, or leads nowhere, and then it changes nothing.  Or it is
answered with the absolute path of what it asks for; the source there is the one that was there, or
else it is read from the disk and put at the end of the table. -/
inductive Call.Effect (c : Call) (b : Bench) : Except Project.Error (Option Path) → Bench → Prop
  /-- The call fails. -/
  | failed (e : Project.Error) : Effect c b (.error e) b
  /-- An import leads nowhere. -/
  | nowhere : Effect c b (.ok none) b
  /-- The file has been loaded before. -/
  | there {q : Path} {s : Source} (hwanted : c.wanted b.disk b.project = .ok (some q))
      (hs : b.project.source? (b.home.absolute q) = some s) :
      Effect c b (.ok (some (b.home.absolute q)))
        (b.withRoots (c.enroll b.project.roots (b.home.absolute q)))
  /-- The file is loaded now. -/
  | loaded {q : Path} {s : Source} (told : List Event)
      (hwanted : c.wanted b.disk b.project = .ok (some q))
      (hnone : b.project.source? (b.home.absolute q) = none)
      (hread : readSource b.project.parse b.disk (b.home.absolute q) = .ok s) :
      Effect c b (.ok (some (b.home.absolute q)))
        (Bench.withRoots { b with project := b.project.putSource s, log := b.log ++ told }
          (c.enroll b.project.roots (b.home.absolute q)))

theorem Call.effect (c : Call) (b : Bench) :
    c.Effect b (outcome c.perform b).1 (outcome c.perform b).2 := by
  rw [outcome_perform]
  cases hwanted : c.wanted b.disk b.project with
  | error e => exact .failed e
  | ok found =>
    cases found with
    | none => exact .nowhere
    | some q =>
      dsimp only
      rw [outcome_sourceAt]
      cases hs : b.project.source? (b.home.absolute q) with
      | some s => exact .there hwanted hs
      | none =>
        cases hread : readSource b.project.parse b.disk (b.home.absolute q) with
        | error cause => exact .failed _
        | ok s => exact .loaded _ hwanted hs hread

/-- A source that is put in place by a call stands at the end of the table. -/
theorem Project.files_putSource {p : Project} {d : Disk} {place : Path} {s : Source}
    (hnone : p.source? place = none) (hread : readSource p.parse d place = .ok s) :
    (p.putSource s).files = p.files ++ [(place, s)] := by
  obtain rfl := readSource_path hread
  exact Table.set_eq_append hnone s

/-- Nothing is taken away by a call, or put before what is there. -/
theorem Call.Effect.grows {c : Call} {b b' : Bench} {reply : Except Project.Error (Option Path)}
    (h : c.Effect b reply b') :
    b.project.files <+: b'.project.files ∧ b.project.roots <+: b'.project.roots := by
  have henroll : ∀ place, b.project.roots <+: c.enroll b.project.roots place := by
    intro place
    cases c with
    | add path => exact prefix_foldl_putOnce [place] _
    | load path => exact List.prefix_refl _
    | resolve importer specifier => exact List.prefix_refl _
  cases h with
  | failed e => exact ⟨List.prefix_refl _, List.prefix_refl _⟩
  | nowhere => exact ⟨List.prefix_refl _, List.prefix_refl _⟩
  | there hwanted hs => exact ⟨List.prefix_refl _, henroll _⟩
  | loaded told hwanted hnone hread =>
    refine ⟨?_, henroll _⟩
    show b.project.files <+: (b.project.putSource _).files
    rw [Project.files_putSource hnone hread]
    exact List.prefix_append _ _

/-! ### Calls one after the other -/

/-- A call, the disk that it found, and what came of it. -/
structure Record where
  /-- The disk that the call found. -/
  disk : Disk
  /-- The call. -/
  call : Call
  /-- What came of it. -/
  reply : Except Project.Error (Option Path)

namespace Record

/-- The path of the file that a call was answered with. -/
def place? (r : Record) : Option Path :=
  match r.reply with
  | .ok found => found
  | .error _ => none

/-- The path of the file that a call has added. -/
def added? (r : Record) : Option Path :=
  match r.call with
  | .add _ => r.place?
  | _ => none

end Record

namespace Call

/-- A call on the disk that it finds: its record, and the bench it leaves. -/
def step (b : Bench) (d : Disk) (c : Call) : Record × Bench :=
  let (reply, b') := outcome c.perform (b.onDisk d)
  (⟨d, c, reply⟩, b')

/-- Calls one after the other, each on the disk that it finds; one that fails is given up. -/
def runAll (b : Bench) : List (Disk × Call) → List Record × Bench
  | [] => ([], b)
  | (d, c) :: calls =>
    let (r, b') := step b d c
    let (records, b'') := runAll b' calls
    (r :: records, b'')

end Call

/-- How the files and the roots of a project follow from the calls so far.  Paths are seen from
`here`, and sources are read by `parse`. -/
structure Bench.Registered (here : Path) (parse : Parser) (records : List Record) (b : Bench) :
    Prop where
  home : b.home = here
  parser : b.project.parse = parse
  /-- The files that calls were answered with, each once. -/
  keys : b.project.files.keys = once (records.filterMap Record.place?)
  /-- The files that have been added, each once. -/
  roots : b.project.roots = once (records.filterMap Record.added?)
  /-- A source was read by the first call that was answered with its path. -/
  first : ∀ {p s}, b.project.source? p = some s →
    ∃ r, records.find? (fun r => r.place? = some p) = some r ∧ readSource parse r.disk p = .ok s
  /-- Calls were answered with the absolute paths of what they ask for. -/
  asked : ∀ r ∈ records, ∀ p, r.place? = some p →
    ∃ q, r.call.wanted r.disk b.project = .ok (some q) ∧ p = here.absolute q

variable {here : Path} {parse : Parser} {records : List Record} {b b' : Bench}

theorem Bench.Registered.onDisk (h : b.Registered here parse records) (d : Disk) :
    (b.onDisk d).Registered here parse records :=
  ⟨h.home, h.parser, h.keys, h.roots, h.first, h.asked⟩

/-- What is a key has a source. -/
theorem Project.mem_keys {p : Project} {place : Path} :
    place ∈ p.files.keys ↔ ∃ s, p.source? place = some s := by
  rw [← Table.contains_iff_mem_keys, Table.contains, Option.isSome_iff_exists]
  rfl

/-- A call that is not answered with a file leaves everything as it is. -/
theorem Bench.Registered.skip (h : b.Registered here parse records) {r : Record}
    (hr : r.place? = none) : b.Registered here parse (records ++ [r]) where
  home := h.home
  parser := h.parser
  keys := by
    rw [List.filterMap_append, List.filterMap_cons_none hr, List.filterMap_nil, List.append_nil]
    exact h.keys
  roots := by
    have hadded : r.added? = none := by
      unfold Record.added?
      split
      · exact hr
      · rfl
    rw [List.filterMap_append, List.filterMap_cons_none hadded, List.filterMap_nil,
      List.append_nil]
    exact h.roots
  first := by
    intro p s hs
    obtain ⟨r', hfind, hread⟩ := h.first hs
    exact ⟨r', by rw [List.find?_append, hfind, Option.some_or], hread⟩
  asked := by
    intro r' hr' p hp
    rcases List.mem_append.1 hr' with hr' | hr'
    · exact h.asked r' hr' p hp
    · rw [List.mem_singleton.1 hr', hr] at hp
      cases hp

theorem once_added (records : List Record) (r : Record) {place : Path}
    (hr : r.place? = some place) :
    once ((records ++ [r]).filterMap Record.added?) =
      r.call.enroll (once (records.filterMap Record.added?)) place := by
  rw [List.filterMap_append]
  obtain ⟨d, c, reply⟩ := r
  cases c with
  | load path => exact congrArg once (List.append_nil _)
  | resolve importer specifier => exact congrArg once (List.append_nil _)
  | add path =>
    -- only a call that adds has anything to do with roots
    have hadded : Record.added? ⟨d, .add path, reply⟩ = some place := hr
    rw [List.filterMap_cons_some hadded, List.filterMap_nil, once_append_singleton]
    rfl

/-- A call that is answered with a file: its source is there, or it is read now. -/
theorem Bench.Registered.answer (h : b.Registered here parse records) {r : Record} {q : Path}
    (hr : r.place? = some (here.absolute q))
    (hwanted : r.call.wanted r.disk b.project = .ok (some q))
    (hhome : b'.home = b.home) (hparse : b'.project.parse = b.project.parse)
    (hconfig : b'.project.config = b.project.config)
    (hroots : b'.project.roots = r.call.enroll b.project.roots (here.absolute q))
    (hkeys : b'.project.files.keys = putOnce b.project.files.keys (here.absolute q))
    (hsource : ∀ {p s}, b'.project.source? p = some s → b.project.source? p = some s ∨
      b.project.source? p = none ∧ p = here.absolute q ∧ readSource parse r.disk p = .ok s) :
    b'.Registered here parse (records ++ [r]) where
  home := hhome.trans h.home
  parser := hparse.trans h.parser
  keys := by
    rw [List.filterMap_append, List.filterMap_cons_some hr, List.filterMap_nil,
      once_append_singleton, hkeys, h.keys]
  roots := by rw [once_added records r hr, hroots, h.roots]
  first := by
    intro p s hs
    rcases hsource hs with hs | ⟨hnone, rfl, hread⟩
    · obtain ⟨r', hfind, hread⟩ := h.first hs
      exact ⟨r', by rw [List.find?_append, hfind, Option.some_or], hread⟩
    · -- no earlier call was answered with this path, as it would be a key
      have hfind : records.find? (fun r => r.place? = some (here.absolute q)) = none := by
        rw [List.find?_eq_none]
        intro r' hr' hplace
        have hmem : here.absolute q ∈ b.project.files.keys := by
          rw [h.keys, mem_once, List.mem_filterMap]
          exact ⟨r', hr', of_decide_eq_true hplace⟩
        obtain ⟨t, ht⟩ := Project.mem_keys.1 hmem
        rw [hnone] at ht
        cases ht
      refine ⟨r, ?_, hread⟩
      rw [List.find?_append, hfind, Option.none_or, List.find?_singleton, if_pos (by simpa using hr)]
  asked := by
    intro r' hr' p hp
    rw [Call.wanted_congr hconfig]
    rcases List.mem_append.1 hr' with hr' | hr'
    · exact h.asked r' hr' p hp
    · rw [List.mem_singleton.1 hr'] at hp ⊢
      rw [hr] at hp
      cases hp
      exact ⟨q, hwanted, rfl⟩

/-- **A call and its record go together.** -/
theorem Bench.Registered.step (h : b.Registered here parse records) (d : Disk) (c : Call) :
    (c.step b d).2.Registered here parse (records ++ [(c.step b d).1]) := by
  have heffect := c.effect (b.onDisk d)
  unfold Call.step
  rcases hout : outcome c.perform (b.onDisk d) with ⟨reply, b'⟩
  rw [hout] at heffect
  dsimp only at heffect ⊢
  have hhome : (b.onDisk d).home = here := h.home
  cases heffect with
  | failed e => exact (h.onDisk d).skip rfl
  | nowhere => exact (h.onDisk d).skip rfl
  | @there q s hwanted hs =>
    rw [hhome] at hs ⊢
    refine h.answer rfl hwanted rfl rfl rfl rfl ?_ fun ht => .inl ht
    have hmem : here.absolute q ∈ b.project.files.keys := Project.mem_keys.2 ⟨s, hs⟩
    exact (if_pos (List.contains_iff_mem.2 hmem)).symm
  | @loaded q s told hwanted hnone hread =>
    rw [hhome] at hnone hread ⊢
    replace hnone : b.project.source? (here.absolute q) = none := hnone
    replace hread : readSource b.project.parse d (here.absolute q) = .ok s := hread
    refine h.answer rfl hwanted h.home.symm rfl rfl rfl ?_ ?_
    · -- the new key stands at the end, since it was not there
      have hmem : here.absolute q ∉ b.project.files.keys := by
        rw [Project.mem_keys, hnone]
        rintro ⟨t, ht⟩
        cases ht
      show (b.project.putSource s).files.keys = _
      rw [Project.files_putSource hnone hread, putOnce,
        if_neg fun hc => hmem (List.contains_iff_mem.1 hc)]
      exact List.map_append
    · intro p t ht
      replace ht : (b.project.putSource s).source? p = some t := ht
      rcases source?_putSource_cases ht with ⟨rfl, rfl⟩ | ⟨-, ht⟩
      · rw [readSource_path hread]
        exact .inr ⟨hnone, rfl, h.parser ▸ hread⟩
      · exact .inl ht

/-- What calls have been answered with and what they leave follow from each other after any further
calls. -/
theorem Bench.Registered.runAll (h : b.Registered here parse records)
    (calls : List (Disk × Call)) :
    (Call.runAll b calls).2.Registered here parse (records ++ (Call.runAll b calls).1) := by
  induction calls generalizing b records with
  | nil =>
    rw [Call.runAll, List.append_nil]
    exact h
  | cons call calls ih =>
    obtain ⟨d, c⟩ := call
    have hrest := ih (h.step d c)
    rw [List.append_assoc] at hrest
    exact hrest

/-- The sources of a bench stand at the paths that they are registered under. -/
theorem Bench.Registered.canonical (h : b.Registered here parse records) {p : Path} {s : Source}
    (hs : b.project.source? p = some s) : s.path = p ∧ here.absolute p = p := by
  obtain ⟨r, hfind, hread⟩ := h.first hs
  refine ⟨readSource_path hread, ?_⟩
  -- the path is absolute already, as the call that loaded it was answered with it
  obtain ⟨q, -, rfl⟩ := h.asked r (List.mem_of_find?_eq_some hfind) p
    (of_decide_eq_true (List.find?_some (p := fun r : Record => decide (r.place? = some p)) hfind))
  exact Path.absolute_of_plain (Path.absolute_plain here q) here

/-- The roots of a bench are loaded. -/
theorem Bench.Registered.rooted (h : b.Registered here parse records) {p : Path}
    (hp : p ∈ b.project.roots) : ∃ s, b.project.source? p = some s := by
  rw [h.roots, mem_once, List.mem_filterMap] at hp
  obtain ⟨r, hr, hadded⟩ := hp
  rw [← Project.mem_keys, h.keys, mem_once, List.mem_filterMap]
  refine ⟨r, hr, ?_⟩
  unfold Record.added? at hadded
  split at hadded
  · exact hadded
  · cases hadded

/-! ### The whole life of a project -/

theorem registered_empty (w : Workspace) (parse : Parser) (root : Path)
    (config : Option TypeConfig) :
    Bench.Registered w.home parse [] ⟨w, .empty parse root config⟩ :=
  ⟨rfl, rfl, rfl, rfl, nofun, nofun⟩

/-- **A file is registered once.**  After any calls to a project that starts without files, on
whatever disks, failing or not:

* the keys of its table are the paths that calls were answered with, each once; every key is the
  absolute path of the source under it, which was read from the disk by the first of these calls;
* calls are answered with the absolute path of what they ask for;
* its roots are the files that were added, each once and in order, and they are loaded.

A further call that fails changes nothing.  One that asks for a path which leads to a loaded file,
however it is spelled, is answered with that file and does not read it again.  No call takes away a
file or a root, or puts one before those that are there. -/
theorem files_registered_once (w : Workspace) (parse : Parser) (root : Path)
    (config : Option TypeConfig) (calls : List (Disk × Call)) :
    let (records, b) := Call.runAll ⟨w, .empty parse root config⟩ calls
    (b.project.files.keys = once (records.filterMap Record.place?) ∧
      (∀ p s, b.project.source? p = some s → s.path = p ∧ w.home.absolute p = p ∧
        ∃ r, records.find? (fun r => r.place? = some p) = some r ∧
          readSource parse r.disk p = .ok s) ∧
      (∀ r ∈ records, ∀ p, r.place? = some p →
        ∃ q, r.call.wanted r.disk b.project = .ok (some q) ∧ p = w.home.absolute q) ∧
      b.project.roots = once (records.filterMap Record.added?) ∧ b.project.roots.Nodup ∧
      ∀ p ∈ b.project.roots, ∃ s, b.project.source? p = some s) ∧
    ∀ (d : Disk) (c : Call), let now := b.onDisk d
      (∀ e b', outcome c.perform now = (.error e, b') → b' = now) ∧
      (∀ q s, c.wanted d b.project = .ok (some q) →
        b.project.source? (w.home.absolute q) = some s →
        outcome c.perform now = (.ok (some (w.home.absolute q)),
          now.withRoots (c.enroll b.project.roots (w.home.absolute q)))) ∧
      b.project.files <+: (outcome c.perform now).2.project.files ∧
      b.project.roots <+: (outcome c.perform now).2.project.roots := by
  have h := (registered_empty w parse root config).runAll calls
  rcases hrun : Call.runAll ⟨w, .empty parse root config⟩ calls with ⟨records, b⟩
  rw [hrun, List.nil_append] at h
  dsimp only at h ⊢
  refine ⟨⟨h.keys, ?_, h.asked, h.roots, ?_, fun p => h.rooted⟩, fun d c => ⟨?_, ?_, ?_⟩⟩
  · intro p s hs
    exact ⟨(h.canonical hs).1, (h.canonical hs).2, h.first hs⟩
  · rw [h.roots]
    exact nodup_once _
  · intro e b' hout
    have heffect := c.effect (b.onDisk d)
    rw [hout] at heffect
    cases heffect
    rfl
  · intro q s hwanted hs
    rw [Call.outcome_perform, show c.wanted (b.onDisk d).disk (b.onDisk d).project = _ from hwanted]
    dsimp only
    rw [outcome_sourceAt, show (b.onDisk d).home = w.home from h.home,
      show (b.onDisk d).project.source? (w.home.absolute q) = some s from hs]
    rfl
  · exact (c.effect (b.onDisk d)).grows

end RouteLint
