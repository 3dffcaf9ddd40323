import RouteLint.Proofs.Routes.PlainRun

/-!
# Runs with repairs

A run with repairs ends with a list of verdicts, one for each handler of its sources.  The sources
with planned edits are written with these edits applied, everything else on the disk stays as it
is, and the violations that cannot be repaired are reported.

Where edited sources are read as expected, the verdicts are those at the site, so a run with repairs
reports what a run without them does, less what it repairs.

## Main definitions

* `CheckRequest.Repairs` — what a run with repairs leaves behind, by its verdicts.

## Main results

* `repairRun` — **what a run with repairs does, for any parser.**
* `verdicts_of_repairRun` — its verdicts are those at the site.
-/

namespace RouteLint

open Syntax Project

/-! ### Saving -/

theorem outcome_saveSource {s : Source} {b : Bench} {d : Disk}
    (h : b.disk.write s.path s.content = .ok d) :
    ∃ b', outcome (saveSource s) b = (.ok (), b') ∧ b'.disk = d ∧ b'.home = b.home ∧
      b'.log.filter Event.isFixed = b.log.filter Event.isFixed := by
  unfold saveSource
  rw [outcome_get_bind, h]
  refine ⟨_, rfl, rfl, rfl, ?_⟩
  show (b.log ++ [Event.saved s.path]).filter Event.isFixed = _
  rw [List.filter_append]
  exact List.append_nil _

/-- Saving files that are there writes their contents and nothing else. -/
theorem saveAll {ss : List Source} {b : Bench} (hnodup : (ss.map Source.path).Nodup)
    (hread : ∀ s ∈ ss, s.path.Plain ∧ ∃ old, b.disk.read s.path = .ok old) :
    ∃ b', outcome (ss.forM saveSource) b = (.ok (), b') ∧ b'.home = b.home ∧
      b'.log.filter Event.isFixed = b.log.filter Event.isFixed ∧
      b'.disk.shape = b.disk.shape ∧
      (∀ s ∈ ss, b'.disk.entry? s.path.parts = some (.file s.content)) ∧
      ∀ place, (∀ s ∈ ss, s.path.parts ≠ place) →
        b'.disk.entry? place = b.disk.entry? place := by
  induction ss generalizing b with
  | nil =>
    exact ⟨b, rfl, rfl, rfl, rfl, fun s hs => absurd hs List.not_mem_nil, fun _ _ => rfl⟩
  | cons s ss ih =>
    rw [List.map_cons, List.nodup_cons] at hnodup
    obtain ⟨hplain, old, hold⟩ := hread s List.mem_cons_self
    obtain ⟨d, hwrite, hshape, hentry⟩ := Disk.write_of_read hplain hold s.content
    obtain ⟨b₁, hsave, hdisk, hhome, hlog⟩ := outcome_saveSource hwrite
    -- the others are still there
    have hread₁ : ∀ s' ∈ ss, s'.path.Plain ∧ ∃ old, b₁.disk.read s'.path = .ok old := by
      intro s' hs'
      obtain ⟨hplain', old', hold'⟩ := hread s' (List.mem_cons_of_mem _ hs')
      refine ⟨hplain', Disk.read_of_shape ?_ hplain' hold'⟩
      rw [hdisk, hshape]
    have hother : ∀ s' ∈ ss, s'.path.parts ≠ s.path.parts := by
      intro s' hs' heq
      have hpath := Path.eq_of_parts_eq (hread₁ s' hs').1 hplain heq
      exact hnodup.1 (hpath ▸ List.mem_map_of_mem hs')
    obtain ⟨b', hrest, hhome', hlog', hshape', hwritten, huntouched⟩ := ih hnodup.2 hread₁
    have hcons : outcome ((s :: ss).forM saveSource) b = outcome (ss.forM saveSource) b₁ :=
      outcome_bind_ok hsave
    refine ⟨b', hcons.trans hrest, hhome'.trans hhome, hlog'.trans hlog, ?_, ?_, ?_⟩
    · rw [hshape', hdisk, hshape]
    · intro s' hs'
      rcases List.mem_cons.1 hs' with rfl | hs'
      · rw [huntouched _ hother, hdisk, hentry, if_pos rfl]
      · exact hwritten s' hs'
    · intro place hplace
      rw [huntouched place fun s' hs' => hplace s' (List.mem_cons_of_mem _ hs'), hdisk, hentry,
        if_neg fun heq => hplace s List.mem_cons_self heq.symm]

/-! ### The run -/

/-- What a run with repairs leaves behind, by its verdicts. -/
structure CheckRequest.Repairs (q : CheckRequest) (parse : Parser) (w : Workspace)
    (vs : List Verdict) (w' : Workspace) : Prop where
  /-- There is a verdict for each handler, in order. -/
  trials : vs.map (fun v => (v.source, v.handler)) = (q.sources w parse).flatMap Source.trials
  home : w'.home = w.home
  /-- It is told which handlers have been repaired. -/
  log : w'.log.filter Event.isFixed =
    w.log.filter Event.isFixed ++ (vs.filter Verdict.isRepairable).map Verdict.event
  shape : w'.disk.shape = w.disk.shape
  plans : ∀ s ∈ q.sources w parse, s.Plans (planned vs s.path)
  /-- Sources with planned edits are written. -/
  written : ∀ s ∈ q.sources w parse, planned vs s.path ≠ [] →
    w'.disk.entry? s.path.parts =
      some (.file (Edit.applyAll (planned vs s.path) s.content))
  /-- Nothing else is. -/
  untouched : ∀ place, (∀ s ∈ q.sources w parse, planned vs s.path ≠ [] → s.path.parts ≠ place) →
    w'.disk.entry? place = w.disk.entry? place

theorem CheckRequest.plain_of_mem {q : CheckRequest} {w : Workspace} {parse : Parser} {s : Source}
    (hs : s ∈ q.sources w parse) : s.path.Plain := by
  obtain ⟨f, -, hf⟩ := List.mem_map.1 (mem_once.1 ((q.mem_sources w).1 hs).1)
  rw [← hf]
  exact Path.absolute_plain _ _

/-- The verdicts of a run are about handlers of its sources. -/
theorem CheckRequest.Repairs.mem {q : CheckRequest} {parse : Parser} {w w' : Workspace}
    {vs : List Verdict} (h : q.Repairs parse w vs w') {v : Verdict} (hv : v ∈ vs) :
    v.source ∈ q.sources w parse ∧ v.handler ∈ v.source.handlers := by
  have hmem := List.mem_map_of_mem (f := fun v : Verdict => (v.source, v.handler)) hv
  rw [h.trials] at hmem
  obtain ⟨s, hs, htrial⟩ := List.mem_flatMap.1 hmem
  obtain ⟨x, hx, heq⟩ := List.mem_map.1 htrial
  cases heq
  exact ⟨hs, hx⟩

/-- Every source of a run is found on the disk with its planned edits applied. -/
theorem CheckRequest.Repairs.entry {q : CheckRequest} {parse : Parser} {w w' : Workspace}
    {vs : List Verdict} (h : q.Repairs parse w vs w') {s : Source} (hs : s ∈ q.sources w parse) :
    w'.disk.entry? s.path.parts =
      some (.file (Edit.applyAll (planned vs s.path) s.content)) := by
  by_cases hnil : planned vs s.path = []
  · obtain ⟨language, content, -, hread, -, heq⟩ :=
      readSource_eq_ok.1 ((q.mem_sources w).1 hs).2
    have hplain := plain_of_mem hs
    have hother : ∀ t ∈ q.sources w parse,
        planned vs t.path ≠ [] → t.path.parts ≠ s.path.parts := by
      intro t ht hne hparts
      rw [Path.eq_of_parts_eq (plain_of_mem ht) hplain hparts] at hne
      exact hne hnil
    rw [h.untouched _ hother, (Disk.entry?_of_read hplain hread).2, hnil, heq,
      Edit.applyAll_nil]
    rfl
  · exact h.written s hs hnil

namespace Site

variable {e : Site} {roots : List Path} {before : List Event} {vs : List Verdict} {b : Bench}

theorem source_read {p : Path} {t : Source} (h : e.source p = .ok t) :
    e.disk.read p = .ok t.content ∧ t.modified = false := by
  obtain ⟨language, content, -, hread, -, rfl⟩ := readSource_eq_ok.1 (source_eq_ok.1 h)
  exact ⟨hread, rfl⟩

/-- The sources that a run has edited are those with planned edits. -/
theorem Reached.mem_edited (h : e.Reached roots before none vs b) {s : Source} :
    s ∈ b.project.files.values.filter Source.modified ↔
      ∃ t, e.source s.path = .ok t ∧ planned vs s.path ≠ [] ∧
        s = t.edited e.parse (planned vs s.path) := by
  have hcurrent : ∀ (es : List Edit) (t : Source), e.current none es t = t.edited e.parse es :=
    fun es t => if_neg (by simp)
  rw [List.mem_filter, h.tidy.distinct.mem_values]
  constructor
  · rintro ⟨⟨p, hp⟩, hmodified⟩
    have hpath : s.path = p := h.tidy.keyed hp
    subst hpath
    obtain ⟨t, ht, hs⟩ := h.sources hp
    rw [hcurrent] at hs
    refine ⟨t, ht, fun hnil => ?_, hs⟩
    rw [hnil, Source.edited_nil _ (source_staged ht)] at hs
    rw [hs, (source_read ht).2] at hmodified
    cases hmodified
  · rintro ⟨t, ht, hne, hs⟩
    have hroot := h.source?_root (h.mem_roots hne) ht
    rw [hcurrent, ← hs] at hroot
    refine ⟨⟨s.path, hroot⟩, ?_⟩
    rw [hs, Source.edited_of_ne_nil _ hne]

/-- Saving at the end of a run. -/
theorem Reached.save (h : e.Reached roots before none vs b) :
    ∃ written b', outcome Project.save b = (.ok written, b') ∧ b'.home = e.home ∧
      b'.log.filter Event.isFixed = b.log.filter Event.isFixed ∧
      b'.disk.shape = e.disk.shape ∧
      (∀ t, e.source t.path = .ok t → planned vs t.path ≠ [] →
        b'.disk.entry? t.path.parts =
          some (.file (Edit.applyAll (planned vs t.path) t.content))) ∧
      ∀ place, (∀ t, e.source t.path = .ok t → planned vs t.path ≠ [] → t.path.parts ≠ place) →
        b'.disk.entry? place = e.disk.entry? place := by
  have hnodup : ((b.project.files.values.filter Source.modified).map Source.path).Nodup :=
    h.tidy.nodup_paths.sublist (List.filter_sublist.map _)
  have hread : ∀ s ∈ b.project.files.values.filter Source.modified,
      s.path.Plain ∧ ∃ old, b.disk.read s.path = .ok old := by
    intro s hs
    obtain ⟨t, ht, hne, -⟩ := h.mem_edited.1 hs
    rw [h.disk]
    exact ⟨(h.loaded _ (h.mem_roots hne)).1, t.content, (source_read ht).1⟩
  obtain ⟨b', hout, hhome, hlog, hshape, hwritten, huntouched⟩ := saveAll hnodup hread
  refine ⟨(b.project.files.values.filter Source.modified).map Source.path, b', ?_,
    hhome.trans h.home, hlog, by rw [hshape, h.disk], ?_, ?_⟩
  · unfold Project.save
    rw [outcome_get_bind]
    dsimp only
    rw [outcome_bind_ok hout]
    rfl
  · intro t ht hne
    have hmem : t.edited e.parse (planned vs t.path) ∈
        b.project.files.values.filter Source.modified := by
      refine h.mem_edited.2 ?_
      rw [Source.edited_path]
      exact ⟨t, ht, hne, rfl⟩
    have hentry := hwritten _ hmem
    rw [Source.edited_path, Source.edited_of_ne_nil _ hne] at hentry
    exact hentry
  · intro place hplace
    rw [huntouched place ?_, h.disk]
    intro s hs
    obtain ⟨t, ht, hne, -⟩ := h.mem_edited.1 hs
    have hpath := source_path ht
    rw [← hpath] at ht hne ⊢
    exact hplace t ht hne

end Site

/-- The result of a run with repairs has what was found, whatever was written. -/
theorem outcome_saveFound {written : List Path} {b b' : Bench} (files : Nat)
    (h : outcome Project.save b = (.ok written, b')) (found : List Violation) :
    ∃ result, outcome (do
        if true then
          let written ← Project.save
          if !written.isEmpty then return repairedResult found written.length
        return plainResult found files : Work RunResult) b = (.ok result, b') ∧
      result.violations = found := by
  rw [if_pos rfl, outcome_bind_ok h]
  cases written with
  | nil => exact ⟨_, rfl, violations_plainResult _ _⟩
  | cons p ps => exact ⟨_, rfl, rfl⟩

/-- **What a run with repairs does, for any parser.** -/
theorem repairRun {parse : Parser} {q : CheckRequest} {w : Workspace}
    (h : (checkRoutes parse { q with fix := true } w).1.isError = false) :
    ∃ vs, q.Repairs parse w vs (checkRoutes parse { q with fix := true } w).2 ∧
      (checkRoutes parse { q with fix := true } w).1.violations =
        vs.filterMap Verdict.remaining? ∧
      ((q.files w).isEmpty = false → ∃ e, q.site w parse = .ok e ∧
        (∀ r ∈ q.roots w, ∃ t, e.source r = .ok t) ∧
        ∀ v ∈ vs, e.Judged (q.roots w) (w.log.filter Event.isFixed) v) := by
  cases hfiles : (q.files w).isEmpty with
  | true =>
    have hsources : q.sources w parse = [] := CheckRequest.sources_of_no_files hfiles
    rw [checkRoutes_of_no_files hfiles]
    refine ⟨[], ⟨?_, rfl, (List.append_nil _).symm, rfl, ?_, ?_, fun _ _ => rfl⟩, rfl,
      fun hne => ?_⟩
    · rw [hsources]
      rfl
    · rw [hsources]
      exact fun s hs => absurd hs List.not_mem_nil
    · rw [hsources]
      exact fun s hs => absurd hs List.not_mem_nil
    · cases hne
  | false =>
    rw [checkRoutes_eq hfiles] at h ⊢
    rcases load_cases parse q w with
      ⟨e, b, hsite, hall, hload, hreached, -⟩ | ⟨err, b, hload, -⟩
    · have hpaths := (CheckRequest.sources_of_loaded hsite hall).1
      have hts : ∀ t ∈ q.sources w parse, e.source t.path = .ok t ∧ t.path ∈ q.roots w :=
        fun t ht => CheckRequest.source_of_mem hsite ht
      have hout := outcome_checkFiles hload true
      rw [hreached.roots_eq] at hout
      cases hrun : outcome ((q.roots w).mapM fun p => checkSource p true) b with
      | mk r b₁ =>
        cases r with
        | error err =>
          rw [outcome_bind_error hrun] at hout
          rw [hout] at h
          cases (isError_failedResult _).symm.trans h
        | ok yss =>
          rw [outcome_bind_ok hrun] at hout
          rw [← hpaths] at hrun
          obtain ⟨vs, htrials, hjudged, hflat, hreached'⟩ := hreached.checkSources hts
            (hpaths ▸ nodup_once _) (fun _ _ => rfl) hrun
          rw [List.nil_append] at hreached'
          obtain ⟨written, b₂, hsave, hhome, hlog, hshape, hwritten, huntouched⟩ :=
            hreached'.save
          obtain ⟨hdisk, hhome'⟩ := CheckRequest.site_disk_home hsite
          obtain ⟨result, hresult, hviolations⟩ :=
            outcome_saveFound (q.files w).length hsave yss.flatten
          rw [hout.trans hresult]
          refine ⟨vs, ⟨htrials, ?_, ?_, ?_, ?_, ?_, ?_⟩, hviolations.trans hflat,
            fun _ => ⟨e, hsite, hall, hjudged⟩⟩
          · rw [hhome, hhome']
          · rw [hlog, hreached'.log]
          · rw [hshape, hdisk]
          · exact fun s hs => hreached'.plans (hts s hs).1
          · exact fun s hs hne => hwritten s (hts s hs).1 hne
          · intro place hplace
            rw [huntouched place fun t ht hne => ?_, hdisk]
            exact hplace t (CheckRequest.mem_sources_of_root hsite ht (hreached'.mem_roots hne))
              hne
    · have hout : outcome (checkFiles parse { q with fix := true } (q.files w)) w.bench =
          (.error err, b) := outcome_bind_error hload
      rw [hout] at h
      cases (isError_failedResult _).symm.trans h

/-- A verdict of a run is the one at the site, if edited sources are read as expected. -/
theorem Site.Judged.verdict_eq {q : CheckRequest} {w : Workspace} {parse : Parser} {e : Site}
    {before : List Event} {v : Verdict} (h : e.Judged (q.roots w) before v)
    (he : q.site w parse = .ok e) (hparse : ∀ s ∈ q.sources w parse, s.Rewraps parse) :
    verdict e.graph v.source v.handler = .ok v := by
  obtain ⟨staging, vs, b, hreached, hv⟩ := h
  have hagrees : e.Agrees b := by
    refine hreached.agrees fun p hne t ht => ?_
    have hpath := source_path ht
    subst hpath
    have hmem := CheckRequest.mem_sources_of_root he ht (hreached.mem_roots hne)
    obtain ⟨-, config, -, rfl⟩ := CheckRequest.site_eq_ok he
    exact hparse t hmem
  rw [← verdict_of_agrees hagrees, hv]

/-- The verdicts of a run with repairs are those at the site. -/
theorem verdicts_of_repairRun {parse : Parser} {q : CheckRequest} {w : Workspace}
    (hparse : ∀ s ∈ q.sources w parse, s.Rewraps parse)
    (h : (checkRoutes parse { q with fix := true } w).1.isError = false) :
    ∃ vs, q.verdicts w parse = .ok vs ∧
      q.Repairs parse w vs (checkRoutes parse { q with fix := true } w).2 ∧
      (checkRoutes parse { q with fix := true } w).1.violations =
        vs.filterMap Verdict.remaining? := by
  obtain ⟨vs, hrepairs, hviolations, hjudged⟩ := repairRun h
  refine ⟨vs, ?_, hrepairs, hviolations⟩
  cases hfiles : (q.files w).isEmpty with
  | true =>
    have hverdicts : q.verdicts w parse = .ok [] := if_pos hfiles
    have htrials := hrepairs.trials
    rw [CheckRequest.sources_of_no_files hfiles] at htrials
    rw [hverdicts, List.map_eq_nil_iff.1 htrials]
  | false =>
    obtain ⟨e, hsite, hall, hjudged⟩ := hjudged hfiles
    rw [CheckRequest.verdicts_eq hsite hfiles hall, ← hrepairs.trials]
    exact mapM_map_eq_ok fun v hv => (hjudged v hv).verdict_eq hsite hparse

end RouteLint
