import RouteLint.Proofs.Routes.Aftermath
import RouteLint.Proofs.Routes.Rejudging
import RouteLint.Proofs.Routes.Saving

/-!
# Checking after repairs

A check that follows a run with repairs judges the handlers that were not repaired as before.  A
handler that was repaired no longer violates the rule if the member that was wrapped is the one that
counts, and no alias hides the wrapper.

What such a check needs beyond what the run with repairs has read is the name of the wrapper: where
it cannot be looked up in a repaired file, the check comes to an error.  Apart from that, it has to
find the same type configuration.

## Main definitions

* `CheckRequest.Rechecks` — how the verdict on a handler changes.

## Main results

* `CheckRequest.Repairs.repaired_eq_self` — only what violates the rule is repaired.
* `CheckRequest.Repairs.verdict_after` — the verdict on one handler.
* `recheck_after_repair` — **a check after repairs.**
* `recheck_after_repair_differs` — what it depends on.
-/

namespace RouteLint

open Syntax Project

namespace CheckRequest

variable {q : CheckRequest} {parse : Parser} {w w' : Workspace} {vs : List Verdict} {e : Site}

theorem eq_of_path_eq {s t : Source} (hs : s ∈ q.sources w parse) (ht : t ∈ q.sources w parse)
    (h : s.path = t.path) : s = t := by
  have hread := ((q.mem_sources w).1 hs).2
  rw [h, ((q.mem_sources w).1 ht).2] at hread
  exact (Except.ok.inj hread).symm

/-- How the verdict on a handler changes when repairs have been made. -/
structure Rechecks (q : CheckRequest) (parse : Parser) (w : Workspace) (v v' : Verdict) : Prop where
  path : v'.source.path = v.source.path
  name : v'.handler.name = v.handler.name
  /-- A handler that was not repaired is judged as before. -/
  kept : v.isRepairable = false → v'.found = v.found
  /-- A handler that was repaired no longer violates the rule. -/
  repaired : v.isRepairable = true →
    (∀ p, v.handler.context? = some p → p.HasOneRouteMember) →
    (∀ e, q.site w parse = .ok e → WrapperFree e.graph v.source.path) → v'.violation? = none

namespace Repairs

/-- The files of a run can be read after it. -/
theorem readable (h : q.Repairs parse w vs w') (hcharted : ∀ s ∈ q.sources w parse, s.Charted) :
    ∀ s ∈ q.sources w parse, ∃ s', readSource parse w'.disk s.path = .ok s' := by
  intro s hs
  obtain ⟨language, content, hlanguage, hread, hvalid, heq⟩ :=
    readSource_eq_ok.1 ((q.mem_sources w).1 hs).2
  have hcontent : s.content = content := by rw [heq]; rfl
  rw [← hcontent] at hread hvalid
  have hread' := Disk.read_of_entry? h.shape (plain_of_mem hs) hread (h.entry hs)
  refine ⟨_, readSource_eq_ok.2 ⟨language, _, hlanguage, hread', ?_, rfl⟩⟩
  rw [(hcharted s hs).applyAll_eq (h.plans s hs)]
  exact (hcharted s hs).decodeChars_insertAround (h.plans s hs) hvalid

/-- Only what violates the rule is repaired. -/
theorem repaired_eq_self (h : q.Repairs parse w vs w')
    (hcharted : ∀ s ∈ q.sources w parse, s.Charted)
    (hvs : ∀ v ∈ vs, verdict e.graph v.source v.handler = .ok v) {v : Verdict} (hv : v ∈ vs)
    (hno : v.isRepairable = false) {p : Parameter} (hp : v.handler.context? = some p) :
    p.repaired (planned vs v.source.path) = p := by
  refine repaired_of_not_mem fun edit hplan hmem => ?_
  obtain ⟨u, hu, hpath, hrepair⟩ := mem_planned.1 hmem
  obtain ⟨p', found, hp', hfound, hplan'⟩ := Verdict.repair?_eq_some.1 hrepair
  obtain ⟨hs, hx⟩ := h.mem hv
  obtain ⟨hs', hx'⟩ := h.mem hu
  have hsource := eq_of_path_eq hs' hs hpath
  rw [hsource] at hx'
  -- both handlers have one parameter, so they are judged alike
  have hsame : p' = p := (hcharted _ hs).eq_of_planRepair (Source.mem_contexts hx' hp')
    (Source.mem_contexts hx hp) hplan' hplan
  subst hsame
  have hjudge := (verdict_eq_ok.1 (hvs v hv)).2.2.2 p' hp
  have hjudge' := (verdict_eq_ok.1 (hvs u hu)).2.2.2 p' hp'
  rw [hsource, hjudge, hfound] at hjudge'
  have hyes : v.repair? = some edit :=
    Verdict.repair?_eq_some.2 ⟨p', found, hp, Except.ok.inj hjudge', hplan⟩
  rw [Verdict.isRepairable, hyes] at hno
  cases hno

/-- The verdict on one handler after repairs. -/
theorem verdict_after (h : q.Repairs parse w vs w') (he : q.site w parse = .ok e)
    (hparse : ∀ s ∈ q.sources w parse, s.Rewraps parse)
    (hcharted : ∀ s ∈ q.sources w parse, s.Charted)
    (hvs : ∀ v ∈ vs, verdict e.graph v.source v.handler = .ok v) {v : Verdict} (hv : v ∈ vs)
    {s' : Source} (hs' : readSource parse w'.disk v.source.path = .ok s') {x' : Handler}
    (hx' : x'.bare = (v.handler.repaired (planned vs v.source.path)).bare)
    (hfree : v.isRepairable = true → WrapperFree e.graph v.source.path) :
    ∃ v', verdict (Site.graph { e with disk := w'.disk }) s' x' = .ok v' ∧
      (v.isRepairable = false → v'.found = v.found) ∧
      (v.isRepairable = true → (∀ p, v.handler.context? = some p → p.HasOneRouteMember) →
        v'.found = none) := by
  obtain ⟨-, -, hnone, hjudge⟩ := verdict_eq_ok.1 (hvs v hv)
  cases hp : v.handler.context? with
  | none =>
    have hp' : x'.context? = none := by
      have hcontext := map_bare_context? hx'
      rw [hp] at hcontext
      exact Option.map_eq_none_iff.1 hcontext
    refine ⟨⟨s', x', none⟩, verdict_eq_ok.2 ⟨rfl, rfl, fun _ => rfl, fun p' hsome => ?_⟩,
      fun _ => (hnone hp).symm, fun _ _ => rfl⟩
    rw [hp'] at hsome
    cases hsome
  | some p =>
    obtain ⟨p', hp', hbare⟩ := context?_repaired_of hx' hp
    -- what is judged after repairs is the repaired parameter
    have hafter : ∀ found,
        judge e.graph v.source.path (p.repaired (planned vs v.source.path)) = .ok found →
        verdict (Site.graph { e with disk := w'.disk }) s' x' = .ok ⟨s', x', found⟩ := by
      intro found hfound
      refine verdict_eq_ok.2 ⟨rfl, rfl, fun hcontra => ?_, fun p'' hp'' => ?_⟩
      · rw [hp'] at hcontra
        cases hcontra
      · rw [hp'] at hp''
        cases hp''
        rw [readSource_path hs', h.judge_eq he hparse (h.readable hcharted) _ hbare, hfound]
    cases hrepair : v.repair? with
    | none =>
      have hno : v.isRepairable = false := Verdict.isRepairable_of_none hrepair
      refine ⟨_, hafter v.found ?_, fun _ => rfl, fun hyes => ?_⟩
      · rw [h.repaired_eq_self hcharted hvs hv hno hp]
        exact hjudge p hp
      · rw [hno] at hyes
        cases hyes
    | some edit =>
      have hyes : v.isRepairable = true := Verdict.isRepairable_of_some hrepair
      obtain ⟨p₀, found, hp₀, -, hplan⟩ := Verdict.repair?_eq_some.1 hrepair
      rw [hp] at hp₀
      cases hp₀
      have hmem : edit ∈ planned vs v.source.path := mem_planned.2 ⟨v, hv, rfl, hrepair⟩
      obtain ⟨found', hfound', hone⟩ := judge_repaired (hfree hyes) hplan hmem (hjudge p hp)
      refine ⟨_, hafter found' hfound', fun hno => ?_, fun _ hmembers => hone (hmembers p rfl)⟩
      rw [hyes] at hno
      cases hno

/-! ### All handlers -/

/-- The sources of a later check. -/
theorem sources_after (h : q.Repairs parse w vs w') (he : q.site w parse = .ok e)
    (hall : ∀ r ∈ q.roots w, ∃ t, e.source r = .ok t)
    (hread : ∀ s ∈ q.sources w parse, ∃ s', readSource parse w'.disk s.path = .ok s') :
    List.Forall₂ (fun s s' => readSource parse w'.disk s.path = .ok s') (q.sources w parse)
      (q.sources w' parse) := by
  have hsources : q.sources w' parse =
      (q.sources w parse).filterMap fun s => (readSource parse w'.disk s.path).toOption := by
    rw [sources, h.roots_eq, ← (sources_of_loaded he hall).1, List.filterMap_map,
      Function.comp_def]
  rw [hsources]
  exact forall₂_of_mapM_eq_ok (mapM_eq_ok hread)

/-- The handlers of a later check are those of the run, in their order. -/
theorem trials_after (h : q.Repairs parse w vs w') (he : q.site w parse = .ok e)
    (hparse : ∀ s ∈ q.sources w parse, s.Rewraps parse)
    (hall : ∀ r ∈ q.roots w, ∃ t, e.source r = .ok t)
    (hread : ∀ s ∈ q.sources w parse, ∃ s', readSource parse w'.disk s.path = .ok s') :
    List.Forall₂ (fun v t => readSource parse w'.disk v.source.path = .ok t.1 ∧
        t.2.bare = (v.handler.repaired (planned vs v.source.path)).bare)
      vs ((q.sources w' parse).flatMap Source.trials) := by
  have htrials : List.Forall₂ (fun t t' : Source × Handler =>
        readSource parse w'.disk t.1.path = .ok t'.1 ∧
          t'.2.bare = (t.2.repaired (planned vs t.1.path)).bare)
      ((q.sources w parse).flatMap Source.trials) ((q.sources w' parse).flatMap Source.trials) := by
    refine List.rel_flatMap (forall₂_mem (h.sources_after he hall hread)) fun s s' hss' => ?_
    obtain ⟨hs, -, hs'⟩ := hss'
    unfold Source.trials
    rw [List.forall₂_map_left_iff, List.forall₂_map_right_iff]
    exact (h.handlers_after hs (hparse s hs) hs').imp fun x x' hx => ⟨hs', hx⟩
  rw [← h.trials, List.forall₂_map_left_iff] at htrials
  exact htrials

/-- How the verdict on a handler changes, if it can be given. -/
theorem rechecks (h : q.Repairs parse w vs w') (he : q.site w parse = .ok e)
    (hparse : ∀ s ∈ q.sources w parse, s.Rewraps parse)
    (hcharted : ∀ s ∈ q.sources w parse, s.Charted)
    (hvs : ∀ v ∈ vs, verdict e.graph v.source v.handler = .ok v) {v v' : Verdict} (hv : v ∈ vs)
    (hs' : readSource parse w'.disk v.source.path = .ok v'.source)
    (hx' : v'.handler.bare = (v.handler.repaired (planned vs v.source.path)).bare)
    (hv' : verdict (Site.graph { e with disk := w'.disk }) v'.source v'.handler = .ok v') :
    q.Rechecks parse w v v' where
  path := readSource_path hs'
  name := by
    have hname := congrArg Handler.name hx'
    exact hname
  kept hno := by
    obtain ⟨u, hu, hkept, -⟩ := h.verdict_after he hparse hcharted hvs hv hs' hx' fun hyes => by
      rw [hno] at hyes
      cases hyes
    rw [hv'] at hu
    cases hu
    exact hkept hno
  repaired hyes hone hfree := by
    obtain ⟨u, hu, -, hrepaired⟩ := h.verdict_after he hparse hcharted hvs hv hs' hx'
      fun _ => hfree e he
    rw [hv'] at hu
    cases hu
    exact Verdict.violation?_of_found (hrepaired hyes hone)

/-- All files can be read in a later check. -/
theorem roots_after (h : q.Repairs parse w vs w') (he : q.site w parse = .ok e)
    (hall : ∀ r ∈ q.roots w, ∃ t, e.source r = .ok t)
    (hcharted : ∀ s ∈ q.sources w parse, s.Charted) :
    ∀ r ∈ q.roots w', ∃ t, Site.source { e with disk := w'.disk } r = .ok t := by
  intro r hr
  rw [h.roots_eq] at hr
  obtain ⟨s, hs⟩ := hall r hr
  have hpath := Site.source_path hs
  subst hpath
  obtain ⟨s', hs'⟩ := h.readable hcharted s (mem_sources_of_root he hs hr)
  obtain ⟨-, config, -, rfl⟩ := site_eq_ok he
  have hnew : Site.source ⟨parse, w'.disk, w.home, config⟩ s.path = .ok s' :=
    Site.source_eq_ok.2 hs'
  exact ⟨s', hnew⟩

/-- A later check comes to verdicts if no alias hides the wrapper in a repaired file. -/
theorem verdicts_after (h : q.Repairs parse w vs w')
    (hparse : ∀ s ∈ q.sources w parse, s.Rewraps parse)
    (hcharted : ∀ s ∈ q.sources w parse, s.Charted) (hvs : q.verdicts w parse = .ok vs)
    (hconfig : q.SameConfig w w')
    (hfree : ∀ e, q.site w parse = .ok e → ∀ v ∈ vs, v.isRepairable = true →
      WrapperFree e.graph v.source.path) :
    ∃ after, q.verdicts w' parse = .ok after := by
  cases hfiles : (q.files w).isEmpty with
  | true =>
    rw [← h.files_eq] at hfiles
    exact ⟨[], if_pos hfiles⟩
  | false =>
    obtain ⟨e, he, hall, hverdicts⟩ := site_of_verdicts hfiles hvs
    rw [← h.files_eq] at hfiles
    rw [verdicts_eq (h.site_eq hconfig he) hfiles (h.roots_after he hall hcharted)]
    refine ⟨_, mapM_eq_ok fun t ht => ?_⟩
    obtain ⟨v, hv, hs', hx'⟩ := exists_left_of_forall₂
      (h.trials_after he hparse hall (h.readable hcharted)) ht
    obtain ⟨v', hv', -⟩ :=
      h.verdict_after he hparse hcharted hverdicts hv hs' hx' (hfree e he v hv)
    exact ⟨v', hv'⟩

/-- The verdicts of a later check, handler by handler. -/
theorem forall₂_rechecks (h : q.Repairs parse w vs w')
    (hparse : ∀ s ∈ q.sources w parse, s.Rewraps parse)
    (hcharted : ∀ s ∈ q.sources w parse, s.Charted) (hvs : q.verdicts w parse = .ok vs)
    (hconfig : q.SameConfig w w') {after : List Verdict}
    (hafter : q.verdicts w' parse = .ok after) : List.Forall₂ (q.Rechecks parse w) vs after := by
  cases hfiles : (q.files w).isEmpty with
  | true =>
    have hempty : q.verdicts w parse = .ok [] := if_pos hfiles
    rw [hempty] at hvs
    rw [← h.files_eq] at hfiles
    have hempty' : q.verdicts w' parse = .ok [] := if_pos hfiles
    rw [hempty'] at hafter
    cases hvs
    cases hafter
    exact .nil
  | false =>
    obtain ⟨e, he, hall, hverdicts⟩ := site_of_verdicts hfiles hvs
    rw [← h.files_eq] at hfiles
    rw [verdicts_eq (h.site_eq hconfig he) hfiles (h.roots_after he hall hcharted)] at hafter
    have htrials := h.trials_after he hparse hall (h.readable hcharted)
    obtain ⟨hmap, hgiven⟩ := trials_of_mapM hafter
    rw [← hmap, List.forall₂_map_right_iff] at htrials
    refine (forall₂_mem htrials).imp fun v v' hR => ?_
    obtain ⟨hv, hv', hs', hx'⟩ := hR
    exact h.rechecks he hparse hcharted hverdicts hv hs' hx' (hgiven v' hv')

end Repairs

end CheckRequest

/-- **A check after repairs.**  It comes to an end if the name of the wrapper can be looked up in
every repaired file, and stands for no alias there.  If it comes to an end, handlers that were not
repaired are judged as before, and those that were do not violate the rule any more. -/
theorem recheck_after_repair {parse : Parser} {q : CheckRequest} {w : Workspace}
    (hparse : ∀ s ∈ q.sources w parse, s.Rewraps parse)
    (hcharted : ∀ s ∈ q.sources w parse, s.Charted)
    (h : (checkRoutes parse { q with fix := true } w).1.isError = false)
    (hconfig : q.SameConfig w (checkRoutes parse { q with fix := true } w).2) :
    ∃ before, q.verdicts w parse = .ok before ∧
      (checkRoutes parse { q with fix := true } w).1.violations =
        before.filterMap Verdict.remaining? ∧
      (checkRoutes parse { q with fix := true } w).2.log.filter Event.isFixed =
        w.log.filter Event.isFixed ++ (before.filter Verdict.isRepairable).map Verdict.event ∧
      ((∀ e, q.site w parse = .ok e → ∀ v ∈ before, v.isRepairable = true →
          WrapperFree e.graph v.source.path) →
        (checkRoutes parse { q with fix := false }
          (checkRoutes parse { q with fix := true } w).2).1.isError = false) ∧
      ((checkRoutes parse { q with fix := false }
          (checkRoutes parse { q with fix := true } w).2).1.isError = false →
        ∃ after, q.verdicts (checkRoutes parse { q with fix := true } w).2 parse = .ok after ∧
          (checkRoutes parse { q with fix := false }
            (checkRoutes parse { q with fix := true } w).2).1.violations =
              after.filterMap Verdict.violation? ∧
          List.Forall₂ (q.Rechecks parse w) before after) := by
  obtain ⟨before, hbefore, hrepairs, hviolations⟩ := verdicts_of_repairRun hparse h
  refine ⟨before, hbefore, hviolations, hrepairs.log, ?_, ?_⟩
  · exact fun hfree => isError_checkRoutes_plain
      (hrepairs.verdicts_after hparse hcharted hbefore hconfig hfree).choose_spec
  · intro hplain
    obtain ⟨after, hafter, hreport⟩ := checkRoutes_plain hplain
    exact ⟨after, hafter, hreport, hrepairs.forall₂_rechecks hparse hcharted hbefore hconfig hafter⟩

/-! ### Where the wrapper cannot be looked up -/

namespace Unreadable

/-- A file in which the name of the wrapper is imported, with a handler that can be repaired and one
that cannot:
```
| import {Promise} from "./x"
| export function GET(a,b:{params:c}){}
| export function PUT(a,b:{params():c}){}
``` -/
def route : Bytes := bytesOfLines
  ["import \x7bPromise\x7d from \"./x\"", "export function GET(a,b:\x7bparams:c\x7d)\x7b\x7d",
    "export function PUT(a,b:\x7bparams():c\x7d)\x7b\x7d"]

/-- The file on a disk, and the file that the name is imported from, which is no text. -/
def workspace : Workspace where
  disk := ⟨[(["app"], .directory), (["app", "api"], .directory),
    (["app", "api", "a"], .directory), (["app", "api", "a", "route.ts"], .file route),
    (["app", "api", "a", "x.ts"], .file [255])]⟩
  home := ⟨.slash, []⟩
  log := []

/-- The check of the file. -/
def request : CheckRequest := { directory := ⟨.slash, []⟩ }

end Unreadable

/-- The small project is checked after its repair. -/
theorem recheck_after_repair_sample :
    (∀ s ∈ Sample.request.sources Sample.workspace Module.parse, s.Rewraps Module.parse) ∧
      (∀ s ∈ Sample.request.sources Sample.workspace Module.parse, s.Charted) ∧
      (checkRoutes Module.parse { Sample.request with fix := true } Sample.workspace).1.isError =
        false ∧
      Sample.request.SameConfig Sample.workspace
        (checkRoutes Module.parse { Sample.request with fix := true } Sample.workspace).2 ∧
      ∃ before after, Sample.request.verdicts Sample.workspace Module.parse = .ok before ∧
        Sample.request.verdicts
          (checkRoutes Module.parse { Sample.request with fix := true } Sample.workspace).2
          Module.parse = .ok after ∧
        List.Forall₂ (Sample.request.Rechecks Module.parse Sample.workspace) before after := by
  have hplain := Sample.isError_recheck
  dsimp only at hplain ⊢
  obtain ⟨vs, hrepairs, -⟩ := repairRun Sample.isError_repair
  have hconfig := hrepairs.sameConfig_of_absent rfl (by decide +kernel)
  obtain ⟨before, hbefore, -, -, -, hafter⟩ :=
    recheck_after_repair Sample.rewraps Sample.charted Sample.isError_repair hconfig
  obtain ⟨after, hafter, -, hrechecks⟩ := hafter hplain
  exact ⟨Sample.rewraps, Sample.charted, Sample.isError_repair, hconfig, before, after, hbefore,
    hafter, hrechecks⟩

set_option maxRecDepth 100000 in
/-- What a check after repairs depends on.  Where the name of the wrapper cannot be looked up in a
repaired file it comes to an error, and the violation that remained is not reported.  Where the type
configuration has been repaired, a handler that was not repaired is judged in another way. -/
theorem recheck_after_repair_differs :
    ((∀ s ∈ Unreadable.request.sources Unreadable.workspace Module.parse,
        s.Rewraps Module.parse ∧ s.Charted) ∧
      (checkRoutes Module.parse { Unreadable.request with fix := true }
        Unreadable.workspace).1.isError = false ∧
      (checkRoutes Module.parse { Unreadable.request with fix := true }
        Unreadable.workspace).1.violations.map Violation.line = [3] ∧
      (checkRoutes Module.parse { Unreadable.request with fix := false }
        (checkRoutes Module.parse { Unreadable.request with fix := true }
          Unreadable.workspace).2).1.violations.map Violation.line = []) ∧
    ((∀ s ∈ Tangled.request.sources Tangled.workspace Module.parse,
        s.Rewraps Module.parse ∧ s.Charted) ∧
      (checkRoutes Module.parse { Tangled.request with fix := true }
        Tangled.workspace).1.isError = false ∧
      (checkRoutes Module.parse { Tangled.request with fix := false }
        Tangled.workspace).1.violations.map Violation.filePath = ["/app/api/a/route.ts"] ∧
      (checkRoutes Module.parse { Tangled.request with fix := false }
        (checkRoutes Module.parse { Tangled.request with fix := true }
          Tangled.workspace).2).1.violations.map Violation.filePath = ["/app/api/b/route.ts"]) := by
  have hchecked := Tangled.checked
  dsimp only at hchecked ⊢
  obtain ⟨hassumed, hrepair, hbefore, hafter, -⟩ := hchecked
  refine ⟨?_, hassumed, hrepair, hbefore, hafter⟩
  rw [← eagerParse_eq]
  decide +kernel

end RouteLint
