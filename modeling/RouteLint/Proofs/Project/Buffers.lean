import RouteLint.Proofs.Disk.Shape
import RouteLint.Proofs.Project.Growth

/-!
# Sources in step with the disk

A project holds files in memory, and edits them there until they are saved.  Whatever is done to it,
in any order and with any number of files, memory and disk stay in step: a source that is not marked
as modified is as it is on the disk, the module of a source is that of its bytes, and the edits that
are staged are apart from each other.  Saving writes the files to which edits have been applied
since the last time, each once, and nothing else.

Nobody else writes to the disk here.  Then writing never fails, since every source was read from a
file that is still there.

## Main definitions

* `Bench.Synced` — memory and disk are in step.
* `Bench.Dirty` — the sources that are marked as modified.
* `Action`, `Action.perform` — what can be done to a project.
* `Action.runFrom` — several actions, and the files that have been edited since the last saving.

## Main results

* `Bench.Synced.perform` — **every action keeps memory and disk in step.**
* `Bench.Synced.save` — what saving does.
* `buffers_and_disk` — both together, after any actions.
-/

namespace RouteLint

open Syntax Project

/-! ### Staging -/

/-- What staging an edit can do: it is put to the staged ones, or refused because it overlaps one of
them. -/
theorem stage_cases {b : Bench} {r : Path} {s : Source} (edit : Edit) (hs : b.project.source? r = some s) :
    ((edit ∉ s.staged → ∀ x ∈ s.staged, edit.overlaps x = false) ∧
      outcome (Project.stage r edit) b =
        (.ok (), { b with
          project := b.project.putSource { s with staged := putOnce s.staged edit } })) ∨
    ((edit ∉ s.staged ∧ ∃ x ∈ s.staged, edit.overlaps x = true) ∧
      ∃ err, outcome (Project.stage r edit) b = (.error err, b)) := by
  unfold Project.stage
  rw [outcome_get_bind, hs]
  dsimp only
  unfold Source.stage? putOnce
  by_cases hmem : s.staged.contains edit
  · rw [if_pos hmem, if_pos hmem]
    exact .inl ⟨fun hnot => absurd (List.contains_iff_mem.1 hmem) hnot, rfl⟩
  · rw [if_neg hmem, if_neg hmem]
    by_cases hany : s.staged.any edit.overlaps
    · rw [if_pos hany]
      exact .inr ⟨⟨fun hin => hmem (List.contains_iff_mem.2 hin), List.any_eq_true.1 hany⟩, _, rfl⟩
    · rw [if_neg hany]
      refine .inl ⟨fun _ x hx => ?_, rfl⟩
      exact Bool.eq_false_iff.2 fun hx' => hany (List.any_eq_true.2 ⟨x, hx, hx'⟩)

theorem outcome_apply {b : Bench} {path : Path} {s : Source}
    (hs : b.project.source? path = some s) :
    outcome (Project.apply path) b =
      (.ok s.staged.length,
        { b with project := b.project.putSource (s.apply b.project.parse) }) := by
  unfold Project.apply
  rw [outcome_get_bind]
  dsimp only
  rw [hs]
  rfl

theorem accepted_putOnce {es : List Edit} {edit : Edit}
    (h : es.Pairwise fun a b => a ≠ b ∧ b.overlaps a = false)
    (hedit : edit ∉ es → ∀ x ∈ es, edit.overlaps x = false) :
    (putOnce es edit).Pairwise fun a b => a ≠ b ∧ b.overlaps a = false := by
  unfold putOnce
  split
  · exact h
  · next hmem =>
    have hnot : edit ∉ es := fun hin => hmem (List.contains_iff_mem.2 hin)
    refine List.pairwise_append.2 ⟨h, List.pairwise_singleton _ _, fun x hx y hy => ?_⟩
    rw [List.mem_singleton] at hy
    subst hy
    exact ⟨fun hxy => hnot (hxy ▸ hx), hedit hnot x hx⟩

/-- Two edits replace no byte in common. -/
def Edit.Disjoint (a b : Edit) : Prop := a.stop ≤ b.start ∨ b.stop ≤ a.start

theorem Edit.disjoint_of_overlaps {a b : Edit} (h : b.overlaps a = false) : a.Disjoint b := by
  unfold overlaps at h
  unfold Disjoint
  by_contra hnot
  rw [not_or, Nat.not_le, Nat.not_le] at hnot
  simp [hnot.1, hnot.2] at h

/-! ### Benches in step with the disk -/

/-- The sources of a tidy bench stand at different paths. -/
theorem Bench.Tidy.nodup_paths {b : Bench} (h : b.Tidy) :
    (b.project.files.values.map Source.path).Nodup := by
  have hkeys : b.project.files.values.map Source.path = b.project.files.keys := by
    unfold Table.values Table.keys
    rw [List.map_map]
    refine List.map_congr_left fun entry hentry => ?_
    exact h.keyed (h.distinct.get?_of_mem hentry)
  rw [hkeys]
  exact h.distinct

/-- Putting a source where it stands changes nothing. -/
theorem Project.putSource_self {p : Project} {s : Source} (h : p.source? s.path = some s) :
    p.putSource s = p := by
  unfold putSource
  rw [Table.set_eq_self h]

/-- Memory and disk are in step. -/
structure Bench.Synced (parse : Parser) (b : Bench) : Prop where
  parser : b.project.parse = parse
  tidy : b.Tidy
  /-- The file of a source is there. -/
  there : ∀ {p s}, b.project.source? p = some s → p.Plain ∧ ∃ old, b.disk.read p = .ok old
  /-- A source that is not marked as modified is as it is on the disk. -/
  clean : ∀ {p s}, b.project.source? p = some s → s.modified = false →
    b.disk.read p = .ok s.content
  /-- The module of a source is that of its bytes. -/
  parsed : ∀ {p s}, b.project.source? p = some s → s.module = parse s.language s.content
  /-- Staged edits differ, as `stage_cases` leaves them. -/
  staged : ∀ {p s}, b.project.source? p = some s →
    s.staged.Pairwise fun a b => a ≠ b ∧ b.overlaps a = false

/-- A source is marked as modified. -/
def Bench.Dirty (b : Bench) (p : Path) : Prop :=
  ∃ s, b.project.source? p = some s ∧ s.modified = true

variable {parse : Parser} {b b' : Bench}

/-- Putting a source in place, with a disk that may have changed at its path. -/
theorem Bench.Synced.put (h : b.Synced parse) {s : Source}
    (hb : b'.project = b.project.putSource s)
    (hdisk : ∀ p : Path, p.Plain → p ≠ s.path → b'.disk.read p = b.disk.read p)
    (hthere : s.path.Plain ∧ ∃ old, b'.disk.read s.path = .ok old)
    (hclean : s.modified = false → b'.disk.read s.path = .ok s.content)
    (hparsed : s.module = parse s.language s.content)
    (hstaged : s.staged.Pairwise fun a b => a ≠ b ∧ b.overlaps a = false)
    (hold : ∀ old, b.project.source? s.path = some old →
      old.revision < s.revision ∨ old.revision = s.revision ∧ old.module = s.module) :
    b'.Synced parse := by
  have hsource : ∀ {p t}, b'.project.source? p = some t →
      (p = s.path ∧ t = s) ∨ (p ≠ s.path ∧ b.project.source? p = some t) := by
    intro p t ht
    rw [hb] at ht
    exact source?_putSource_cases ht
  refine ⟨by rw [hb]; exact h.parser, h.tidy.put hb hold, ?_, ?_, ?_, ?_⟩
  · intro p t ht
    obtain ⟨rfl, rfl⟩ | ⟨hp, ht⟩ := hsource ht
    · exact hthere
    · obtain ⟨hplain, hread⟩ := h.there ht
      rw [hdisk p hplain hp]
      exact ⟨hplain, hread⟩
  · intro p t ht hmodified
    obtain ⟨rfl, rfl⟩ | ⟨hp, ht⟩ := hsource ht
    · exact hclean hmodified
    · rw [hdisk p (h.there ht).1 hp]
      exact h.clean ht hmodified
  · intro p t ht
    obtain ⟨rfl, rfl⟩ | ⟨-, ht⟩ := hsource ht
    · exact hparsed
    · exact h.parsed ht
  · intro p t ht
    obtain ⟨rfl, rfl⟩ | ⟨-, ht⟩ := hsource ht
    · exact hstaged
    · exact h.staged ht

/-- Which sources are marked as modified after one has been put in place. -/
theorem Bench.dirty_put {s : Source} (hb : b'.project = b.project.putSource s) (p : Path) :
    b'.Dirty p ↔ (p = s.path ∧ s.modified = true) ∨ (p ≠ s.path ∧ b.Dirty p) := by
  unfold Bench.Dirty
  rw [hb]
  by_cases hp : p = s.path
  · subst hp
    simp [source?_putSource_self]
  · simp [source?_putSource_of_ne _ (Ne.symm hp), hp]

/-- Putting a source in place of one that is marked in the same way. -/
theorem Bench.dirty_put_of_eq {s old : Source} (hb : b'.project = b.project.putSource s)
    (hold : b.project.source? s.path = some old) (hmodified : s.modified = old.modified)
    (p : Path) : b'.Dirty p ↔ b.Dirty p := by
  rw [Bench.dirty_put hb]
  constructor
  · rintro (⟨rfl, hs⟩ | ⟨-, hp⟩)
    · exact ⟨old, hold, hmodified ▸ hs⟩
    · exact hp
  · rintro ⟨t, ht, hm⟩
    by_cases hp : p = s.path
    · subst hp
      rw [hold] at ht
      cases ht
      exact .inl ⟨rfl, hmodified.trans hm⟩
    · exact .inr ⟨hp, t, ht, hm⟩

/-! ### Loading -/

/-- Memory and disk stay in step, and the same sources are marked as modified. -/
structure Bench.Keeps (parse : Parser) (b b' : Bench) : Prop where
  synced : b'.Synced parse
  dirty : ∀ p, b'.Dirty p ↔ b.Dirty p

theorem Bench.Synced.keeps_self (h : b.Synced parse) : b.Keeps parse b := ⟨h, fun _ => Iff.rfl⟩

theorem Bench.Synced.sourceAt (h : b.Synced parse) {place : Path} (hplace : place.Plain) :
    b.Keeps parse (outcome (Project.sourceAt place) b).2 := by
  rcases sourceAt_cases place b with ⟨s, -, hout⟩ | ⟨cause, -, -, hout⟩ |
    ⟨s, b', hnone, hread, hout, hb, hdisk, -, -⟩
  · rw [hout]
    exact h.keeps_self
  · rw [hout]
    exact h.keeps_self
  · rw [hout]
    obtain ⟨language, content, -, hcontent, -, rfl⟩ := readSource_eq_ok.1 hread
    have hcontent' : b'.disk.read place = .ok content := by rw [hdisk, hcontent]
    constructor
    · refine h.put hb (fun p _ _ => by rw [hdisk]) ⟨hplace, content, hcontent'⟩
        (fun _ => hcontent') ?_ .nil ?_
      · rw [h.parser]
        rfl
      · intro old hold
        rw [show (Source.ofContent b.project.parse place language content).path = place from rfl,
          hnone] at hold
        cases hold
    · intro p
      rw [Bench.dirty_put hb]
      constructor
      · rintro (⟨-, hmodified⟩ | ⟨-, hp⟩)
        · cases hmodified
        · exact hp
      · intro hp
        refine .inr ⟨fun heq => ?_, hp⟩
        obtain ⟨t, ht, -⟩ := hp
        rw [show p = place from heq, hnone] at ht
        cases ht

theorem Bench.Synced.fetch (h : b.Synced parse) (path : Path) :
    b.Keeps parse (outcome (Project.fetch path) b).2 := by
  have hsource := h.sourceAt (Path.absolute_plain b.home path)
  rw [outcome_fetch]
  rcases hout : outcome (Project.sourceAt (b.home.absolute path)) b with ⟨_ | _, b'⟩ <;>
    (rw [hout] at hsource; exact hsource)

/-- Making a file a root changes no source. -/
theorem Bench.Keeps.withRoots (h : b.Keeps parse b') (roots : List Path) :
    b.Keeps parse { b' with project := { b'.project with roots } } :=
  ⟨⟨h.synced.parser, ⟨h.synced.tidy.keyed, h.synced.tidy.distinct, h.synced.tidy.cached⟩,
    h.synced.there, h.synced.clean, h.synced.parsed, h.synced.staged⟩, h.dirty⟩

theorem Bench.Synced.add (h : b.Synced parse) (path : Path) :
    b.Keeps parse (outcome (Project.add path) b).2 := by
  have hfetch := h.fetch path
  rw [outcome_add]
  rcases hout : outcome (Project.fetch path) b with ⟨e | place, b'⟩
  · rw [hout] at hfetch
    exact hfetch
  · rw [hout] at hfetch
    exact hfetch.withRoots _

theorem Bench.Synced.target (h : b.Synced parse) (importer : Path) (specifier : String) :
    b.Keeps parse (outcome (Project.target importer specifier) b).2 := by
  unfold Project.target
  rw [outcome_get_bind]
  cases firstModule b.disk (b.project.candidates importer specifier) with
  | error e => exact h.keeps_self
  | ok found =>
    cases found with
    | none => exact h.keeps_self
    | some p =>
      dsimp only
      rw [outcome_map]
      exact h.fetch p

/-! ### Staging and applying -/

theorem Bench.Synced.stage (h : b.Synced parse) (path : Path) (e : Edit) :
    b.Keeps parse (outcome (Project.stage path e) b).2 := by
  cases hs : b.project.source? path with
  | none =>
    unfold Project.stage
    rw [outcome_get_bind, hs]
    exact h.keeps_self
  | some s =>
    obtain rfl := h.tidy.keyed hs
    have hclean := h.clean hs
    have hparsed := h.parsed hs
    rcases stage_cases e hs with ⟨haccept, hout⟩ | ⟨-, err, hout⟩
    · rw [hout]
      refine ⟨?_, Bench.dirty_put_of_eq rfl hs rfl⟩
      refine h.put rfl (fun _ _ _ => rfl) (h.there hs) hclean hparsed
        (accepted_putOnce (h.staged hs) haccept) fun old hold => ?_
      rw [show b.project.source? s.path = some old from hold] at hs
      cases hs
      exact .inr ⟨rfl, rfl⟩
    · rw [hout]
      exact h.keeps_self

/-- Applying edits keeps memory and disk in step.  A source is marked as modified if there were
edits, and stays as it is otherwise. -/
theorem Bench.Synced.apply (h : b.Synced parse) (path : Path) :
    ∃ n b', outcome (Project.apply path) b = (.ok n, b') ∧ b'.Synced parse ∧
      ∀ p, b'.Dirty p ↔ (p = path ∧ n ≠ 0) ∨ b.Dirty p := by
  cases hs : b.project.source? path with
  | none =>
    refine ⟨0, b, ?_, h, fun p => by simp⟩
    unfold Project.apply
    rw [outcome_get_bind]
    dsimp only
    rw [hs]
    rfl
  | some s =>
    obtain rfl := h.tidy.keyed hs
    refine ⟨_, _, outcome_apply hs, ?_⟩
    by_cases hnil : s.staged = []
    · have happly : s.apply b.project.parse = s := by
        unfold Source.apply
        rw [hnil]
        rfl
      rw [happly, Project.putSource_self hs, hnil]
      exact ⟨h, fun p => by simp⟩
    · -- the bytes are read anew, and the source is marked
      have happly : s.apply b.project.parse =
          { s with
            content := Edit.applyAll s.staged s.content
            module := parse s.language (Edit.applyAll s.staged s.content)
            staged := []
            modified := true
            revision := s.revision + 1 } := by
        unfold Source.apply
        rw [if_neg (by simpa using hnil), h.parser]
      rw [happly]
      constructor
      · refine h.put rfl (fun _ _ _ => rfl) (h.there hs) (by simp) rfl .nil fun old hold => ?_
        rw [show b.project.source? s.path = some old from hold] at hs
        cases hs
        exact .inl (Nat.lt_succ_self _)
      · intro p
        rw [Bench.dirty_put rfl]
        by_cases hp : p = s.path
        · simp [hp, hnil]
        · simp [hp]

/-! ### Saving -/

theorem outcome_saveSource_eq {s : Source} {d : Disk}
    (h : b.disk.write s.path s.content = .ok d) :
    outcome (saveSource s) b =
      (.ok (), { b with
        disk := d
        project := b.project.putSource { s with modified := false }
        log := b.log ++ [.saved s.path] }) := by
  unfold saveSource
  rw [outcome_get_bind, h]
  rfl

/-- What saving sources does: nothing changes but the files, the marks and the log. -/
structure Bench.Saves (parse : Parser) (b : Bench) (ss : List Source) (b' : Bench) : Prop where
  synced : b'.Synced parse
  /-- The sources are no longer marked as modified. -/
  dirty : ∀ p, b'.Dirty p ↔ b.Dirty p ∧ p ∉ ss.map Source.path
  /-- Each of them is written once. -/
  log : b'.log = b.log ++ ss.map fun s => .saved s.path
  written : ∀ s ∈ ss, b'.disk.read s.path = .ok s.content
  /-- Nothing else is written. -/
  untouched : ∀ place, (∀ s ∈ ss, s.path.parts ≠ place) →
    b'.disk.entry? place = b.disk.entry? place
  shape : b'.disk.shape = b.disk.shape

theorem Bench.Synced.saveSource (h : b.Synced parse) {s : Source}
    (hs : b.project.source? s.path = some s) :
    ∃ b', outcome (Project.saveSource s) b = (.ok (), b') ∧ b.Saves parse [s] b' ∧
      b'.project = b.project.putSource { s with modified := false } := by
  obtain ⟨hplain, old, hold⟩ := h.there hs
  obtain ⟨d, hwrite, hshape, hentry⟩ := Disk.write_of_read hplain hold s.content
  have hread : d.read s.path = .ok s.content :=
    Disk.read_of_entry? hshape hplain hold (by rw [hentry, if_pos rfl])
  have hother : ∀ p : Path, p.Plain → p ≠ s.path → d.read p = b.disk.read p := by
    intro p hp hne
    refine Disk.read_congr hshape hp ?_
    rw [hentry, if_neg fun heq => hne (Path.eq_of_parts_eq hp hplain heq)]
  have hparsed := h.parsed hs
  have hstaged := h.staged hs
  refine ⟨_, outcome_saveSource_eq hwrite, ⟨?_, ?_, rfl, ?_, ?_, hshape⟩, rfl⟩
  · refine h.put rfl hother ⟨hplain, _, hread⟩ (fun _ => hread) hparsed hstaged
      fun t ht => ?_
    rw [show b.project.source? s.path = some t from ht] at hs
    cases hs
    exact .inr ⟨rfl, rfl⟩
  · intro p
    rw [Bench.dirty_put rfl]
    simp [and_comm]
  · intro t ht
    rw [List.mem_singleton.1 ht]
    exact hread
  · intro place hplace
    rw [hentry, if_neg (Ne.symm (hplace s (List.mem_singleton_self s)))]

/-- Saving sources at different paths, one after the other. -/
theorem Bench.Synced.saveAll (h : b.Synced parse) {ss : List Source}
    (hnodup : (ss.map Source.path).Nodup) (hss : ∀ s ∈ ss, b.project.source? s.path = some s) :
    ∃ b', outcome (ss.forM Project.saveSource) b = (.ok (), b') ∧ b.Saves parse ss b' := by
  induction ss generalizing b with
  | nil => exact ⟨b, rfl, h, by simp, by simp, by simp, fun _ _ => rfl, rfl⟩
  | cons s ss ih =>
    rw [List.map_cons, List.nodup_cons] at hnodup
    obtain ⟨b₁, hsave, hsaves, hproject⟩ := h.saveSource (hss s List.mem_cons_self)
    have hss₁ : ∀ t ∈ ss, b₁.project.source? t.path = some t := by
      intro t ht
      have hne : s.path ≠ t.path := fun heq => hnodup.1 (heq ▸ List.mem_map_of_mem ht)
      rw [hproject]
      rw [source?_putSource_of_ne (s := { s with modified := false }) _ hne]
      exact hss t (List.mem_cons_of_mem _ ht)
    obtain ⟨b', hrest, hsaves'⟩ := ih hsaves.synced hnodup.2 hss₁
    have hplain : ∀ t ∈ s :: ss, t.path.Plain := fun t ht => (h.there (hss t ht)).1
    refine ⟨b', (outcome_bind_ok hsave).trans hrest, hsaves'.synced, ?_, ?_, ?_, ?_, ?_⟩
    · intro p
      rw [hsaves'.dirty, hsaves.dirty, List.map_singleton, List.mem_singleton, List.map_cons,
        List.mem_cons, not_or, and_assoc]
    · rw [hsaves'.log, hsaves.log, List.append_assoc]
      rfl
    · intro t ht
      rcases List.mem_cons.1 ht with rfl | ht'
      · -- what is written first stays, since the others are written elsewhere
        rw [← hsaves.written t (List.mem_singleton_self t)]
        refine Disk.read_congr hsaves'.shape (hplain t ht) (hsaves'.untouched _ fun u hu heq => ?_)
        have hpath := Path.eq_of_parts_eq (hplain u (List.mem_cons_of_mem _ hu)) (hplain t ht) heq
        exact hnodup.1 (hpath ▸ List.mem_map_of_mem hu)
      · exact hsaves'.written t ht'
    · intro place hplace
      rw [hsaves'.untouched place fun t ht => hplace t (List.mem_cons_of_mem _ ht),
        hsaves.untouched place fun t ht => by
          rw [List.mem_singleton.1 ht]
          exact hplace s List.mem_cons_self]
    · rw [hsaves'.shape, hsaves.shape]

/-- The sources that are marked as modified, in the order in which they were loaded. -/
def Bench.dirtySources (b : Bench) : List Source := b.project.files.values.filter Source.modified

theorem Bench.Tidy.mem_dirtySources (h : b.Tidy) {s : Source} :
    s ∈ b.dirtySources ↔ b.project.source? s.path = some s ∧ s.modified = true := by
  rw [Bench.dirtySources, List.mem_filter, h.distinct.mem_values]
  constructor
  · rintro ⟨⟨p, hp⟩, hmodified⟩
    obtain rfl := h.keyed hp
    exact ⟨hp, hmodified⟩
  · rintro ⟨hs, hmodified⟩
    exact ⟨⟨s.path, hs⟩, hmodified⟩

theorem Bench.Tidy.dirty_iff (h : b.Tidy) (p : Path) :
    b.Dirty p ↔ p ∈ b.dirtySources.map Source.path := by
  rw [List.mem_map]
  constructor
  · rintro ⟨s, hs, hmodified⟩
    obtain rfl := h.keyed hs
    exact ⟨s, h.mem_dirtySources.2 ⟨hs, hmodified⟩, rfl⟩
  · rintro ⟨s, hs, rfl⟩
    exact ⟨s, h.mem_dirtySources.1 hs⟩

/-- Saving writes the sources that are marked as modified. -/
theorem Bench.Synced.save (h : b.Synced parse) :
    ∃ b', outcome Project.save b = (.ok (b.dirtySources.map Source.path), b') ∧
      b.Saves parse b.dirtySources b' := by
  have hnodup : (b.dirtySources.map Source.path).Nodup :=
    h.tidy.nodup_paths.sublist (List.filter_sublist.map _)
  obtain ⟨b', hout, hsaves⟩ := h.saveAll hnodup fun s hs => (h.tidy.mem_dirtySources.1 hs).1
  refine ⟨b', ?_, hsaves⟩
  unfold Project.save
  rw [outcome_get_bind]
  exact outcome_bind_ok hout

/-- Where nothing is marked as modified, nothing is saved. -/
theorem outcome_save_of_clean (h : ∀ s ∈ b.project.files.values, s.modified = false) :
    outcome Project.save b = (.ok [], b) := by
  have hnil : b.project.files.values.filter Source.modified = [] := by
    rw [List.filter_eq_nil_iff]
    intro s hs
    simp [h s hs]
  unfold Project.save
  rw [outcome_get_bind, hnil]
  rfl

/-! ### Actions -/

/-- What can be done to a project. -/
inductive Action where
  /-- Load a file. -/
  | load (path : Path)
  /-- Load a file and make it a root. -/
  | add (path : Path)
  /-- Find the file that an import leads to. -/
  | resolve (importer : Path) (specifier : String)
  /-- Stage an edit of a file. -/
  | stage (path : Path) (e : Edit)
  /-- Apply the staged edits of a file. -/
  | apply (path : Path)
  /-- Save all files. -/
  | save

/-- What comes of an action. -/
inductive Reply where
  /-- A file is loaded at a path. -/
  | loaded (place : Path)
  /-- An import leads to a file, or nowhere. -/
  | resolved (target : Option Path)
  /-- An edit is staged. -/
  | staged
  /-- Edits have been applied. -/
  | applied (count : Nat)
  /-- Files have been written. -/
  | saved (written : List Path)

namespace Action

/-- Perform an action. -/
def perform : Action → Work Reply
  | load path => .loaded <$> Project.fetch path
  | add path => .loaded <$> Project.add path
  | resolve importer specifier => .resolved <$> Project.target importer specifier
  | stage path e => (fun _ => .staged) <$> Project.stage path e
  | apply path => .applied <$> Project.apply path
  | save => .saved <$> Project.save

/-- The files to which edits have been applied since the last saving, after one more action. -/
def touch (edited : List Path) : Action → Except Project.Error Reply → List Path
  | apply path, .ok (.applied (_ + 1)) => path :: edited
  | save, .ok _ => []
  | _, _ => edited

/-- Perform actions one after the other; one that fails is given up.  The files to which edits have
been applied since the last saving, and the bench. -/
def runFrom (edited : List Path) (b : Bench) : List Action → List Path × Bench
  | [] => (edited, b)
  | a :: actions =>
    runFrom (a.touch edited (outcome a.perform b).1) (outcome a.perform b).2 actions

end Action

/-- Every action keeps memory and disk in step, and the sources that are marked as modified are
those to which edits have been applied since the last saving. -/
theorem Bench.Synced.perform (h : b.Synced parse) {edited : List Path}
    (hedited : ∀ p, p ∈ edited ↔ b.Dirty p) (a : Action) :
    (outcome a.perform b).2.Synced parse ∧
      ∀ p, p ∈ a.touch edited (outcome a.perform b).1 ↔ (outcome a.perform b).2.Dirty p := by
  -- what only loads or stages leaves the marks alone
  have keeps : ∀ {b'}, b.Keeps parse b' → b'.Synced parse ∧ ∀ p, p ∈ edited ↔ b'.Dirty p :=
    fun hk => ⟨hk.synced, fun p => (hedited p).trans (hk.dirty p).symm⟩
  cases a with
  | load path =>
    rw [Action.perform, outcome_map]
    exact keeps (h.fetch path)
  | add path =>
    rw [Action.perform, outcome_map]
    exact keeps (h.add path)
  | resolve importer specifier =>
    rw [Action.perform, outcome_map]
    exact keeps (h.target importer specifier)
  | stage path e =>
    rw [Action.perform, outcome_map]
    exact keeps (h.stage path e)
  | apply path =>
    obtain ⟨n, b', hout, hsynced, hdirty⟩ := h.apply path
    rw [Action.perform, outcome_map, hout]
    refine ⟨hsynced, fun p => ?_⟩
    rw [hdirty, ← hedited]
    cases n with
    | zero => simp [Except.map, Action.touch]
    | succ n => simp [Except.map, Action.touch]
  | save =>
    obtain ⟨b', hout, hsaves⟩ := h.save
    rw [Action.perform, outcome_map, hout]
    refine ⟨hsaves.synced, fun p => ?_⟩
    rw [hsaves.dirty, ← h.tidy.dirty_iff]
    simp [Except.map, Action.touch]

/-- Memory and disk are in step after any actions. -/
theorem Bench.Synced.runFrom (h : b.Synced parse) {edited : List Path}
    (hedited : ∀ p, p ∈ edited ↔ b.Dirty p) (actions : List Action) :
    (Action.runFrom edited b actions).2.Synced parse ∧
      ∀ p, p ∈ (Action.runFrom edited b actions).1 ↔ (Action.runFrom edited b actions).2.Dirty p := by
  induction actions generalizing edited b with
  | nil => exact ⟨h, hedited⟩
  | cons a actions ih =>
    obtain ⟨hsynced, hdirty⟩ := h.perform hedited a
    exact ih hsynced hdirty

/-! ### The whole life of a project -/

theorem synced_empty (w : Workspace) (parse : Parser) (root : Path) (config : Option TypeConfig) :
    Bench.Synced parse ⟨w, .empty parse root config⟩ := by
  refine ⟨rfl, ⟨?_, Table.distinct_nil, ?_⟩, ?_, ?_, ?_, ?_⟩ <;>
    (intros; contradiction)

/-- **Memory and disk stay in step.**  Whatever is done to a project that starts without files: a
source that is not marked as modified is as it is on the disk, the module of a source is that of its
bytes, and its staged edits differ and replace no byte in common.  Saving succeeds.  It writes the
files to which edits have been applied since the last saving, each once, and nothing else; then no
source is marked as modified, and saving again does nothing. -/
theorem buffers_and_disk (w : Workspace) (parse : Parser) (root : Path)
    (config : Option TypeConfig) (actions : List Action) :
    let (edited, b) := Action.runFrom [] ⟨w, .empty parse root config⟩ actions
    (∀ p s, b.project.source? p = some s →
      (s.modified = false → b.disk.read p = .ok s.content) ∧
      s.module = parse s.language s.content ∧
      s.staged.Pairwise fun a c => a ≠ c ∧ a.Disjoint c) ∧
    ∃ written b', outcome Project.save b = (.ok written, b') ∧
      written.Nodup ∧ (∀ p, p ∈ written ↔ p ∈ edited) ∧
      b'.log = b.log ++ written.map .saved ∧
      (∀ p ∈ written, ∃ s, b.project.source? p = some s ∧ b'.disk.read p = .ok s.content) ∧
      (∀ place, (∀ p ∈ written, p.parts ≠ place) →
        b'.disk.entry? place = b.disk.entry? place) ∧
      (∀ p s, b'.project.source? p = some s → s.modified = false) ∧
      outcome Project.save b' = (.ok [], b') := by
  have hempty : ∀ p, p ∈ ([] : List Path) ↔
      Bench.Dirty ⟨w, .empty parse root config⟩ p := by
    intro p
    simp only [List.not_mem_nil, false_iff]
    rintro ⟨s, hs, -⟩
    cases hs
  obtain ⟨h, hdirty⟩ := (synced_empty w parse root config).runFrom hempty actions
  rcases hrun : Action.runFrom [] ⟨w, .empty parse root config⟩ actions with ⟨edited, b⟩
  rw [hrun] at h hdirty
  dsimp only at h hdirty ⊢
  constructor
  · intro p s hs
    refine ⟨h.clean hs, h.parsed hs, (h.staged hs).imp fun {a c} hac => ?_⟩
    exact ⟨hac.1, Edit.disjoint_of_overlaps hac.2⟩
  · obtain ⟨b', hout, hsaves⟩ := h.save
    -- nothing is marked as modified any more
    have hclean : ∀ p, ¬b'.Dirty p := by
      intro p hp
      obtain ⟨hp, hnot⟩ := (hsaves.dirty p).1 hp
      exact hnot ((h.tidy.dirty_iff p).1 hp)
    have hunmarked : ∀ p s, b'.project.source? p = some s → s.modified = false :=
      fun p s hs => Bool.eq_false_iff.2 fun hm => hclean p ⟨s, hs, hm⟩
    refine ⟨_, b', hout, ?_, ?_, ?_, ?_, ?_, hunmarked, ?_⟩
    · exact h.tidy.nodup_paths.sublist (List.filter_sublist.map _)
    · intro p
      rw [hdirty, h.tidy.dirty_iff]
    · rw [hsaves.log, List.map_map]
      rfl
    · intro p hp
      obtain ⟨s, hs, rfl⟩ := List.mem_map.1 hp
      exact ⟨s, (h.tidy.mem_dirtySources.1 hs).1, hsaves.written s hs⟩
    · intro place hplace
      exact hsaves.untouched place fun s hs => hplace _ (List.mem_map_of_mem hs)
    · refine outcome_save_of_clean fun s hs => ?_
      obtain ⟨p, hp⟩ := hsaves.synced.tidy.distinct.mem_values.1 hs
      exact hunmarked p s hp

end RouteLint
