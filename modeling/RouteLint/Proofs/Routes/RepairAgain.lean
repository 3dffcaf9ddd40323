import RouteLint.Proofs.Routes.Aftermath
import RouteLint.Proofs.Routes.CalmRun
import RouteLint.Proofs.Routes.Deciding

/-!
# Repairing twice

What has been repaired is not repaired again, and what was not repaired is judged as it was before.
So the first run with repairs leaves nothing to repair for the next one, provided that the next one
finds the same type configuration.

## Main results

* `CheckRequest.Repairs.calm` — **after repairs there is nothing left to repair.**
* `repair_again` — **a second run with repairs stages and writes nothing.**
* `repair_again_tangled` — unless it finds another type configuration.
-/

namespace RouteLint

open Syntax Project

/-- A parameter that can be repaired after edits is one that the edits left alone. -/
theorem planRepair_of_repaired {es : List Edit} {p p' : Parameter} {edit' : Edit}
    (hp : p'.bare = (p.repaired es).bare) (hplan' : planRepair p' = .ok edit') :
    p.repaired es = p ∧ ∃ edit, planRepair p = .ok edit ∧ edit ∉ es := by
  have hok : (planRepair (p.repaired es)).isOk = true := by
    rw [← isOk_planRepair_bare, ← hp, isOk_planRepair_bare, hplan']
    rfl
  obtain ⟨edit, hplan⟩ : ∃ edit, planRepair (p.repaired es) = .ok edit := by
    cases hrepaired : planRepair (p.repaired es) with
    | error decline =>
      rw [hrepaired] at hok
      cases hok
    | ok edit => exact ⟨edit, rfl⟩
  have hnot : ∀ e, planRepair p = .ok e → e ∉ es :=
    fun e he hmem => planRepair_repaired he hmem edit hplan
  have hsame := repaired_of_not_mem hnot
  rw [hsame] at hplan
  exact ⟨hsame, edit, hplan, hnot edit hplan⟩

namespace CheckRequest.Repairs

variable {q : CheckRequest} {parse : Parser} {w w' : Workspace} {vs : List Verdict} {e : Site}

/-- **After repairs there is nothing left to repair.** -/
theorem calm (h : q.Repairs parse w vs w') (he : q.site w parse = .ok e)
    (hparse : ∀ s ∈ q.sources w parse, s.Rewraps parse)
    (hvs : ∀ v ∈ vs, verdict e.graph v.source v.handler = .ok v)
    (hall : ∀ s ∈ q.sources w parse, ∃ s', readSource parse w'.disk s.path = .ok s')
    {s s' : Source} (hs : s ∈ q.sources w parse)
    (hs' : readSource parse w'.disk s.path = .ok s') :
    Site.Calm { e with disk := w'.disk } s' := by
  intro x' hx' v' hv'
  obtain ⟨x, hx, hbare⟩ := exists_left_of_forall₂ (h.handlers_after hs (hparse s hs) hs') hx'
  obtain ⟨-, rfl, -, hjudge'⟩ := verdict_eq_ok.1 hv'
  rw [Verdict.isRepairable, Option.isSome_eq_false_iff, Option.isNone_iff_eq_none]
  refine Option.eq_none_iff_forall_ne_some.2 fun edit' hrepair' => ?_
  obtain ⟨p', found, hp', hfound, hplan'⟩ := Verdict.repair?_eq_some.1 hrepair'
  obtain ⟨p, hp, hpbare⟩ := context?_of_repaired hbare hp'
  obtain ⟨hsame, edit, hplan, hnot⟩ := planRepair_of_repaired hpbare hplan'
  rw [hsame] at hpbare
  -- the parameter was judged in the same way before, so its repair was planned
  have hjudge := hjudge' p' hp'
  rw [readSource_path hs', h.judge_eq he hparse hall s.path hpbare, hfound] at hjudge
  obtain ⟨v, hv, rfl, rfl⟩ := h.exists_verdict hs hx
  obtain ⟨-, -, -, hold⟩ := verdict_eq_ok.1 (hvs v hv)
  have hfound' := (hold p hp).symm.trans hjudge
  refine hnot (mem_planned.2 ⟨v, hv, rfl, Verdict.repair?_eq_some.2 ?_⟩)
  exact ⟨p, found, hp, Except.ok.inj hfound', hplan⟩

/-- The same, for all sources of a later check. -/
theorem all_calm (h : q.Repairs parse w vs w')
    (hparse : ∀ s ∈ q.sources w parse, s.Rewraps parse) (hvs : q.verdicts w parse = .ok vs)
    (hconfig : q.SameConfig w w') :
    ∀ e', q.site w' parse = .ok e' → (∀ r ∈ q.roots w', ∃ t, e'.source r = .ok t) →
      ∀ t ∈ q.sources w' parse, e'.Calm t := by
  intro e' he' hloads t ht
  have hfiles : (q.files w).isEmpty = false := by
    cases hempty : (q.files w).isEmpty with
    | false => rfl
    | true =>
      rw [← h.files_eq] at hempty
      rw [sources_of_no_files hempty] at ht
      exact absurd ht List.not_mem_nil
  obtain ⟨e, he, hall, hverdicts⟩ := site_of_verdicts hfiles hvs
  rw [h.site_eq hconfig he] at he'
  cases he'
  obtain ⟨-, config, -, rfl⟩ := site_eq_ok he
  have hread : ∀ s ∈ q.sources w parse, ∃ s', readSource parse w'.disk s.path = .ok s' := by
    intro s hs
    obtain ⟨s', hs'⟩ := hloads s.path (by rw [h.roots_eq]; exact ((q.mem_sources w).1 hs).1)
    have hnew := Site.source_eq_ok.1 hs'
    exact ⟨s', hnew⟩
  obtain ⟨hroot, ht'⟩ := (q.mem_sources w').1 ht
  rw [h.roots_eq] at hroot
  obtain ⟨s, hs⟩ := hall t.path hroot
  have hpath := Site.source_path hs
  rw [← hpath] at hs ht' hroot
  exact h.calm he hparse hverdicts hread (mem_sources_of_root he hs hroot) ht'

end CheckRequest.Repairs

/-- **A second run with repairs stages and writes nothing**: it does what a run without repairs
does, leaves the disk as it is, and tells of nothing but malformed files. -/
theorem repair_again {parse : Parser} {q : CheckRequest} {w : Workspace}
    (hparse : ∀ s ∈ q.sources w parse, s.Rewraps parse)
    (h : (checkRoutes parse { q with fix := true } w).1.isError = false)
    (hconfig : q.SameConfig w (checkRoutes parse { q with fix := true } w).2) :
    checkRoutes parse { q with fix := true } (checkRoutes parse { q with fix := true } w).2 =
        checkRoutes parse { q with fix := false } (checkRoutes parse { q with fix := true } w).2 ∧
      (checkRoutes parse { q with fix := true }
          (checkRoutes parse { q with fix := true } w).2).2.disk =
        (checkRoutes parse { q with fix := true } w).2.disk ∧
      ∃ told : List Path,
        (checkRoutes parse { q with fix := true }
            (checkRoutes parse { q with fix := true } w).2).2.log =
          (checkRoutes parse { q with fix := true } w).2.log ++ told.map .malformed := by
  obtain ⟨vs, hvs, hrepairs, -⟩ := verdicts_of_repairRun hparse h
  generalize (checkRoutes parse { q with fix := true } w).2 = w' at hconfig hrepairs ⊢
  have hcalm := checkRoutes_calm (hrepairs.all_calm hparse hvs hconfig)
  rw [hcalm]
  exact ⟨rfl, checkRoutes_plain_quiet parse q w'⟩

/-- The small project is repaired once. -/
theorem repair_again_sample :
    (∀ s ∈ Sample.request.sources Sample.workspace Module.parse, s.Rewraps Module.parse) ∧
      (checkRoutes Module.parse { Sample.request with fix := true } Sample.workspace).1.isError =
        false ∧
      Sample.request.SameConfig Sample.workspace
        (checkRoutes Module.parse { Sample.request with fix := true } Sample.workspace).2 ∧
      (checkRoutes Module.parse { Sample.request with fix := true }
          (checkRoutes Module.parse { Sample.request with fix := true }
            Sample.workspace).2).2.disk =
        (checkRoutes Module.parse { Sample.request with fix := true } Sample.workspace).2.disk := by
  dsimp only
  obtain ⟨vs, hrepairs, -⟩ := repairRun Sample.isError_repair
  have hconfig := hrepairs.sameConfig_of_absent rfl (by decide)
  exact ⟨Sample.rewraps, Sample.isError_repair, hconfig,
    (repair_again Sample.rewraps Sample.isError_repair hconfig).2.1⟩

/-- Repairing a type configuration that has a handler makes another file one that can be repaired:
the second run writes to it. -/
theorem repair_again_tangled :
    (∀ s ∈ Tangled.request.sources Tangled.workspace Module.parse, s.Rewraps Module.parse) ∧
      (checkRoutes Module.parse { Tangled.request with fix := true } Tangled.workspace).1.isError =
        false ∧
      (checkRoutes Module.parse { Tangled.request with fix := true }
          (checkRoutes Module.parse { Tangled.request with fix := true }
            Tangled.workspace).2).2.disk.entry? ["app", "api", "b", "route.ts"] ≠
        (checkRoutes Module.parse { Tangled.request with fix := true }
          Tangled.workspace).2.disk.entry? ["app", "api", "b", "route.ts"] := by
  have hchecked := Tangled.checked
  dsimp only at hchecked ⊢
  obtain ⟨hassumed, hrepair, -, -, hagain⟩ := hchecked
  exact ⟨fun s hs => (hassumed s hs).1, hrepair, hagain⟩

end RouteLint
