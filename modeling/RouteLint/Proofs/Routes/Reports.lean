import RouteLint.Proofs.Routes.Deciding
import RouteLint.Proofs.Routes.RepairRun

/-!
# What runs report

A run with repairs changes sources while it goes, and handlers that come later are judged with the
changed sources around them.  This does not show in what it reports: both kinds of runs report
violations among the same verdicts, and a run with repairs leaves out those that it repairs.

## Main results

* `violations_repair_eq` — **a run with repairs reports what a run without them does, less what it
  repairs.**
-/

namespace RouteLint

open Syntax

/-- **A run with repairs reports what a run without them does, less what it repairs**: the
violations of the same verdicts, in the same order, without those that can be repaired. -/
theorem violations_repair_eq {parse : Parser} {q : CheckRequest} {w : Workspace}
    (hparse : ∀ s ∈ q.sources w parse, s.Rewraps parse)
    (h : (checkRoutes parse { q with fix := true } w).1.isError = false) :
    (checkRoutes parse { q with fix := false } w).1.isError = false ∧
      ∃ vs, q.verdicts w parse = .ok vs ∧
        (checkRoutes parse { q with fix := false } w).1.violations =
          vs.filterMap Verdict.violation? ∧
        (checkRoutes parse { q with fix := true } w).1.violations =
          (vs.filter fun v => !v.isRepairable).filterMap Verdict.violation? := by
  obtain ⟨vs, hvs, -, hrepair⟩ := verdicts_of_repairRun hparse h
  have hplain := isError_checkRoutes_plain hvs
  obtain ⟨vs', hvs', hreport⟩ := checkRoutes_plain hplain
  rw [hvs] at hvs'
  cases hvs'
  refine ⟨hplain, vs, hvs, hreport, ?_⟩
  rw [hrepair, Verdict.filterMap_remaining?]

/-- Both files of the small project are repaired, the second one after a type was looked up in the
first one, and one violation is left. -/
theorem violations_repair_sample :
    (∀ s ∈ Sample.request.sources Sample.workspace Module.parse, s.Rewraps Module.parse) ∧
      (checkRoutes Module.parse { Sample.request with fix := true } Sample.workspace).1.isError =
        false ∧
      ∃ vs, Sample.request.verdicts Sample.workspace Module.parse = .ok vs ∧
        (checkRoutes Module.parse { Sample.request with fix := false }
          Sample.workspace).1.violations = vs.filterMap Verdict.violation? ∧
        (checkRoutes Module.parse { Sample.request with fix := true }
          Sample.workspace).1.violations =
          (vs.filter fun v => !v.isRepairable).filterMap Verdict.violation? := by
  dsimp only
  exact ⟨Sample.rewraps, Sample.isError_repair,
    (violations_repair_eq Sample.rewraps Sample.isError_repair).2⟩

end RouteLint
