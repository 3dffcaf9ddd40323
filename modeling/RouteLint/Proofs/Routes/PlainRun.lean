import RouteLint.Proofs.Data.Attempts
import RouteLint.Proofs.Routes.Loading

/-!
# Runs without repairs

A run without repairs changes nothing, so all its verdicts are those at the site: it reports the
violations among the verdicts of the check, in their order, and it comes to an error exactly if one
of them cannot be given.

## Main results

* `checkRoutes_plain` — **a run without repairs reports the verdicts of the check.**
* `isError_checkRoutes_plain` — it comes to an end if all verdicts can be given.
* `checkRoutes_plain_quiet` — it leaves the disk as it is.
-/

namespace RouteLint

open Syntax Project

/-! ### Sources of a check -/

namespace CheckRequest

variable {q : CheckRequest} {w : Workspace} {parse : Parser} {e : Site}

/-- The sources of a check, if all of them can be read. -/
theorem sources_of_loaded (he : q.site w parse = .ok e)
    (h : ∀ r ∈ q.roots w, ∃ t, e.source r = .ok t) :
    (q.sources w parse).map Source.path = q.roots w ∧
      (q.roots w).mapM e.source = .ok (q.sources w parse) := by
  have hsources : q.sources w parse = (q.roots w).filterMap fun p => (e.source p).toOption := by
    obtain ⟨-, config, -, rfl⟩ := site_eq_ok he
    refine List.filterMap_congr fun p _ => ?_
    rw [Site.source]
    cases readSource parse w.disk p <;> rfl
  rw [hsources]
  refine ⟨map_filterMap_toOption fun r hr => ?_, mapM_eq_ok h⟩
  obtain ⟨t, ht⟩ := h r hr
  exact ⟨t, ht, Site.source_path ht⟩

theorem sources_of_no_files (h : (q.files w).isEmpty = true) : q.sources w parse = [] := by
  unfold sources roots
  rw [List.isEmpty_iff.1 h]
  rfl

theorem source_of_mem (he : q.site w parse = .ok e) {t : Source} (ht : t ∈ q.sources w parse) :
    e.source t.path = .ok t ∧ t.path ∈ q.roots w := by
  obtain ⟨-, config, -, rfl⟩ := site_eq_ok he
  obtain ⟨hr, hread⟩ := (q.mem_sources w).1 ht
  exact ⟨Site.source_eq_ok.2 hread, hr⟩

theorem mem_sources_of_root (he : q.site w parse = .ok e) {t : Source}
    (ht : e.source t.path = .ok t) (hr : t.path ∈ q.roots w) : t ∈ q.sources w parse := by
  obtain ⟨-, config, -, rfl⟩ := site_eq_ok he
  have hread := Site.source_eq_ok.1 ht
  exact (q.mem_sources w).2 ⟨hr, hread⟩

theorem site_disk_home (he : q.site w parse = .ok e) : e.disk = w.disk ∧ e.home = w.home := by
  obtain ⟨-, config, -, rfl⟩ := site_eq_ok he
  exact ⟨rfl, rfl⟩

theorem verdicts_eq (he : q.site w parse = .ok e) (hfiles : (q.files w).isEmpty = false)
    (h : ∀ r ∈ q.roots w, ∃ t, e.source r = .ok t) :
    q.verdicts w parse =
      ((q.sources w parse).flatMap Source.trials).mapM fun t => verdict e.graph t.1 t.2 := by
  unfold verdicts
  rw [hfiles, if_neg Bool.false_ne_true, except_bind_of_ok he,
    except_bind_of_ok (sources_of_loaded he h).2]

/-- There are no verdicts if a file cannot be read. -/
theorem verdicts_eq_error (hfiles : (q.files w).isEmpty = false)
    (h : ∀ e, q.site w parse = .ok e → ∃ r ∈ q.roots w, ∃ err, e.source r = .error err) :
    ∃ err, q.verdicts w parse = .error err := by
  unfold verdicts
  rw [hfiles, if_neg Bool.false_ne_true]
  cases hsite : q.site w parse with
  | error err => exact ⟨err, rfl⟩
  | ok e =>
    obtain ⟨r, hr, err, herr⟩ := h e hsite
    obtain ⟨err', hmapM⟩ := mapM_eq_error hr herr
    refine ⟨err', ?_⟩
    rw [except_bind_of_ok rfl]
    exact except_bind_of_error hmapM _

/-- Verdicts are given at a site, from which all files can be read. -/
theorem site_of_verdicts (hfiles : (q.files w).isEmpty = false) {vs : List Verdict}
    (h : q.verdicts w parse = .ok vs) :
    ∃ e, q.site w parse = .ok e ∧ (∀ r ∈ q.roots w, ∃ t, e.source r = .ok t) ∧
      ∀ v ∈ vs, verdict e.graph v.source v.handler = .ok v := by
  by_cases hbad : ∀ e, q.site w parse = .ok e → ∃ r ∈ q.roots w, ∃ err, e.source r = .error err
  · obtain ⟨err, herr⟩ := verdicts_eq_error hfiles hbad
    rw [h] at herr
    cases herr
  · push Not at hbad
    obtain ⟨e, he, hgood⟩ := hbad
    have hall : ∀ r ∈ q.roots w, ∃ t, e.source r = .ok t := by
      intro r hr
      cases hsource : e.source r with
      | error err => exact absurd hsource (hgood r hr err)
      | ok t => exact ⟨t, rfl⟩
    rw [verdicts_eq he hfiles hall] at h
    exact ⟨e, he, hall, (trials_of_mapM h).2⟩

/-- The verdicts of a check are those on its handlers, one by one. -/
theorem trials_of_verdicts {vs : List Verdict} (h : q.verdicts w parse = .ok vs) :
    vs.map (fun v => (v.source, v.handler)) = (q.sources w parse).flatMap Source.trials := by
  cases hfiles : (q.files w).isEmpty with
  | true =>
    have hempty : q.verdicts w parse = .ok [] := if_pos hfiles
    cases hempty.symm.trans h
    rw [sources_of_no_files hfiles]
    rfl
  | false =>
    obtain ⟨e, he, hall, -⟩ := site_of_verdicts hfiles h
    rw [verdicts_eq he hfiles hall] at h
    exact (trials_of_mapM h).1

end CheckRequest

/-! ### Checking without repairs -/

namespace Site

variable {e : Site} {roots : List Path} {before : List Event} {t : Source}

/-- Work of a run that has settled nothing, beside computations at the site. -/
def plainly (e : Site) (roots : List Path) (before : List Event) :
    Coupling Work (Except Project.Error) :=
  agreement (fun b => e.Reached roots before none [] b) fun h hb => h.grows hb

/-- Checking a handler gives the violation of its verdict. -/
theorem checkHandler_plain (ht : e.source t.path = .ok t) (hr : t.path ∈ roots) (x : Handler) :
    (e.plainly roots before).Maps id (checkHandler t.path false x)
      ((verdict e.graph t x).map Verdict.violation?) := by
  intro b h
  have hverdict := verdict_of_agrees h.agrees_of_nil t x
  have hgrows := verdict_grows t x b
  rw [checkHandler_eq, outcome_bind]
  cases hout : outcome (verdict Project.graph t x) b with
  | mk r b₁ =>
    rw [hout] at hverdict hgrows
    rw [← hverdict]
    cases r with
    | error err => exact ⟨rfl, hgrows⟩
    | ok v =>
      have hv : (outcome (verdict Project.graph t x) b).1 = .ok v := by rw [hout]
      obtain ⟨rfl, rfl⟩ := verdict_handler hv
      have hsettle : settle false v = v.report := by
        unfold settle
        cases v.repair? <;> rfl
      dsimp only
      rw [hsettle, (h.grows hgrows).report ht hr (.inr rfl)]
      exact ⟨rfl, hgrows⟩

/-- Nothing is staged, so nothing is applied. -/
theorem apply_plain (ht : e.source t.path = .ok t) (hr : t.path ∈ roots) :
    (e.plainly roots before).Maps id (discard (Project.apply t.path)) (pure ⟨⟩) := by
  intro b h
  have hs := h.source?_root hr ht
  have hnil : planned [] t.path = [] := rfl
  rw [hnil, current_nil ht] at hs
  have hstaged := source_staged ht
  -- the source is put back as it is
  have hput : b.project.putSource (t.apply b.project.parse) = b.project := by
    unfold Source.apply putSource
    rw [hstaged]
    show { b.project with files := b.project.files.set t.path t } = b.project
    rw [Table.set_eq_self hs]
  have hout : outcome (Project.apply t.path) b = (.ok 0, b) := by
    rw [outcome_apply hs, hput, hstaged]
    rfl
  rw [outcome_discard, hout]
  exact ⟨rfl, .refl b⟩

/-- Checking handlers gives the violations among their verdicts. -/
theorem checkHandlers_plain (ht : e.source t.path = .ok t) (hr : t.path ∈ roots)
    (xs : List Handler) :
    (e.plainly roots before).Maps (List.filterMap id) (xs.mapM (checkHandler t.path false))
      ((xs.mapM (verdict e.graph t)).map (List.filterMap Verdict.violation?)) := by
  intro b h
  have hall := (e.plainly roots before).mapM_same xs (fun x _ => checkHandler_plain ht hr x) b h
  rw [List.map_id_fun, Except.map_id, id_eq, mapM_map_except] at hall
  refine ⟨?_, hall.2⟩
  rw [← hall.1]
  cases xs.mapM (verdict e.graph t) with
  | error err => rfl
  | ok vs =>
    refine congrArg Except.ok ?_
    rw [List.filterMap_map]
    rfl

/-- Checking a source gives the violations among its verdicts. -/
theorem checkSource_plain (ht : e.source t.path = .ok t) (hr : t.path ∈ roots) :
    (e.plainly roots before).Maps id (checkSource t.path false)
      ((t.trials.mapM fun t => verdict e.graph t.1 t.2).map
        (List.filterMap Verdict.violation?)) := by
  rw [Source.trials, List.mapM_map]
  intro b h
  have hscope := h.scopeOf ht hr rfl
  have hgrows := scopeOf_grows t.path b
  cases hout : outcome (scopeOf t.path) b with
  | mk r b₁ =>
    rw [hout] at hscope hgrows
    cases hscope
    have hrest : (e.plainly roots before).Maps id
        (do
          let violations ← t.handlers.mapM (checkHandler t.path false)
          discard <| Project.apply t.path
          return violations.filterMap id)
        ((t.handlers.mapM (verdict e.graph t)).map (List.filterMap Verdict.violation?) >>=
          fun violations => pure PUnit.unit >>= fun _ => pure violations) := by
      refine Coupling.bind _ (checkHandlers_plain ht hr t.handlers) fun xs => ?_
      exact Coupling.bind _ (apply_plain ht hr) fun _ => Coupling.pure' _ rfl
    simp only [pure_bind, bind_pure] at hrest
    obtain ⟨hresult, hgrows'⟩ := hrest b₁ (h.grows hgrows)
    unfold checkSource
    rw [outcome_bind_ok hout]
    exact ⟨hresult, hgrows.trans hgrows'⟩

/-- Checking sources gives the violations among all their verdicts. -/
theorem checkSources_plain {ts : List Source}
    (hts : ∀ t ∈ ts, e.source t.path = .ok t ∧ t.path ∈ roots) :
    (e.plainly roots before).Maps List.flatten
      ((ts.map Source.path).mapM fun p => checkSource p false)
      (((ts.flatMap Source.trials).mapM fun t => verdict e.graph t.1 t.2).map
        (List.filterMap Verdict.violation?)) := by
  intro b h
  have hall := (e.plainly roots before).mapM_same ts
    (fun t ht => checkSource_plain (hts t ht).1 (hts t ht).2) b h
  rw [List.map_id_fun, Except.map_id, id_eq] at hall
  rw [List.mapM_map, ← mapM_flatMap_except, hall.1]
  exact ⟨rfl, hall.2⟩

end Site

/-! ### Runs -/

/-- What a check does if files are selected. -/
theorem checkRoutes_eq {q : CheckRequest} {w : Workspace} (hfiles : (q.files w).isEmpty = false)
    (parse : Parser) (fix : Bool) :
    checkRoutes parse { q with fix } w =
      match outcome (checkFiles parse { q with fix } (q.files w)) w.bench with
      | (.ok result, b) => (result, b.toWorkspace)
      | (.error e, b) => (failedResult e.message, b.toWorkspace) := by
  have hrun : w.runWork (checkFiles parse { q with fix } (q.files w)) =
      ((outcome (checkFiles parse { q with fix } (q.files w)) w.bench).1,
        (outcome (checkFiles parse { q with fix } (q.files w)) w.bench).2.toWorkspace) := rfl
  have hselected : Glob.select w.disk (w.home.absolute q.directory) q.pattern = q.files w := rfl
  refine (if_neg fun hempty => Bool.false_ne_true (hfiles.symm.trans hempty)).trans ?_
  dsimp only
  rw [hselected, hrun]
  cases outcome (checkFiles parse { q with fix } (q.files w)) w.bench with
  | mk r b => cases r <;> rfl

/-- A check for which no file is selected does nothing. -/
theorem checkRoutes_of_no_files {q : CheckRequest} {w : Workspace}
    (hfiles : (q.files w).isEmpty = true) (parse : Parser) (fix : Bool) :
    checkRoutes parse { q with fix } w =
      ({ success := true, message := "No files found matching pattern: " ++ q.pattern }, w) :=
  if_pos hfiles

theorem isError_no_files (pattern : String) :
    RunResult.isError
      { success := true, message := "No files found matching pattern: " ++ pattern } = false := by
  refine isError_of_head 'N' (by decide) ?_
  dsimp only
  rw [String.toList_append]
  rfl

/-- What a check does after loading. -/
theorem outcome_checkFiles {parse : Parser} {q : CheckRequest} {w : Workspace} {b : Bench}
    {files : List Path} (h : outcome (Project.load parse q.directory q.config files) w.bench =
      (.ok (), b)) (fix : Bool) :
    outcome (checkFiles parse { q with fix } files) w.bench =
      outcome (do
        let violations ← b.project.roots.mapM fun file => checkSource file fix
        let found := violations.flatten
        if fix then
          let written ← Project.save
          if !written.isEmpty then return repairedResult found written.length
        return plainResult found files.length) b := by
  unfold checkFiles
  rw [outcome_bind_ok h, outcome_get_bind]

/-- What a run without repairs leaves and reports. -/
theorem plainRun_cases (parse : Parser) (q : CheckRequest) (w : Workspace) :
    ∃ result b, checkRoutes parse { q with fix := false } w = (result, b.toWorkspace) ∧
      w.bench.Quiet b ∧
      ((∃ vs, q.verdicts w parse = .ok vs ∧ result.violations = vs.filterMap Verdict.violation? ∧
          result.isError = false) ∨
        ((∃ err, q.verdicts w parse = .error err) ∧ result.isError = true)) := by
  cases hfiles : (q.files w).isEmpty with
  | true =>
    exact ⟨_, w.bench, checkRoutes_of_no_files hfiles parse false, .refl _,
      .inl ⟨[], if_pos hfiles, rfl, isError_no_files q.pattern⟩⟩
  | false =>
    rw [checkRoutes_eq hfiles]
    rcases load_cases parse q w with
      ⟨e, b, hsite, hall, hload, hreached, hquiet⟩ | ⟨err, b, hload, hquiet, hbad⟩
    · have hts : ∀ t ∈ q.sources w parse, e.source t.path = .ok t ∧ t.path ∈ q.roots w :=
        fun t ht => CheckRequest.source_of_mem hsite ht
      obtain ⟨hresult, hgrows⟩ := Site.checkSources_plain hts b hreached
      rw [(CheckRequest.sources_of_loaded hsite hall).1] at hresult hgrows
      have hout := outcome_checkFiles hload false
      rw [hreached.roots_eq] at hout
      rw [CheckRequest.verdicts_eq hsite hfiles hall]
      cases hrun : outcome ((q.roots w).mapM fun p => checkSource p false) b with
      | mk r b' =>
        rw [hrun] at hresult hgrows
        have hquiet' := hquiet.trans hgrows.quiet
        cases r with
        | error err =>
          rw [outcome_bind_error hrun] at hout
          rw [hout]
          refine ⟨_, b', rfl, hquiet', .inr ⟨?_, isError_failedResult _⟩⟩
          exact except_error_of_map hresult
        | ok yss =>
          rw [outcome_bind_ok hrun] at hout
          have hout' : outcome (checkFiles parse { q with fix := false } (q.files w)) w.bench =
              (.ok (plainResult yss.flatten (q.files w).length), b') := hout
          rw [hout']
          obtain ⟨vs, hvs, hflat⟩ := except_ok_of_map hresult
          refine ⟨_, b', rfl, hquiet', .inl ⟨vs, hvs, ?_, isError_plainResult _ _⟩⟩
          rw [violations_plainResult, hflat]
    · have hout : outcome (checkFiles parse { q with fix := false } (q.files w)) w.bench =
          (.error err, b) := outcome_bind_error hload
      rw [hout]
      exact ⟨_, b, rfl, hquiet, .inr ⟨CheckRequest.verdicts_eq_error hfiles hbad,
        isError_failedResult _⟩⟩

/-- **A run without repairs reports the verdicts of the check.** -/
theorem checkRoutes_plain {parse : Parser} {q : CheckRequest} {w : Workspace}
    (h : (checkRoutes parse { q with fix := false } w).1.isError = false) :
    ∃ vs, q.verdicts w parse = .ok vs ∧
      (checkRoutes parse { q with fix := false } w).1.violations =
        vs.filterMap Verdict.violation? := by
  obtain ⟨result, b, hrun, -, ⟨vs, hvs, hresult, -⟩ | ⟨-, herror⟩⟩ := plainRun_cases parse q w
  · rw [hrun]
    exact ⟨vs, hvs, hresult⟩
  · rw [hrun] at h
    rw [herror] at h
    cases h

/-- It comes to an end if all verdicts can be given. -/
theorem isError_checkRoutes_plain {parse : Parser} {q : CheckRequest} {w : Workspace}
    {vs : List Verdict} (h : q.verdicts w parse = .ok vs) :
    (checkRoutes parse { q with fix := false } w).1.isError = false := by
  obtain ⟨result, b, hrun, -, ⟨-, -, -, hok⟩ | ⟨⟨err, herr⟩, -⟩⟩ := plainRun_cases parse q w
  · rw [hrun]
    exact hok
  · rw [h] at herr
    cases herr

/-- It comes to an error exactly if a verdict cannot be given. -/
theorem isError_plain_eq (parse : Parser) (q : CheckRequest) (w : Workspace) :
    (checkRoutes parse { q with fix := false } w).1.isError = !(q.verdicts w parse).isOk := by
  obtain ⟨result, b, hrun, -, ⟨vs, hvs, -, hok⟩ | ⟨⟨err, herr⟩, herror⟩⟩ := plainRun_cases parse q w
  · rw [hrun, hok, hvs]
    rfl
  · rw [hrun, herror, herr]
    rfl

/-- It leaves the disk as it is. -/
theorem checkRoutes_plain_quiet (parse : Parser) (q : CheckRequest) (w : Workspace) :
    (checkRoutes parse { q with fix := false } w).2.disk = w.disk ∧
      ∃ told : List Path, (checkRoutes parse { q with fix := false } w).2.log =
        w.log ++ told.map .malformed := by
  obtain ⟨result, b, hrun, hquiet, -⟩ := plainRun_cases parse q w
  rw [hrun]
  exact ⟨hquiet.disk, hquiet.log⟩

end RouteLint
