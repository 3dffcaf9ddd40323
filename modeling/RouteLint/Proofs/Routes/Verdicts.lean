import RouteLint.Proofs.Data.Attempts
import RouteLint.Proofs.Data.Once
import RouteLint.Proofs.Project.Site
import RouteLint.Proofs.Routes.Rewrapping

/-!
# Verdicts on handlers

A check judges the handlers of its files one after the other.  Without a project, and without
anything that changes on the way, the verdicts are those at the site of the check: the disk as it
is, and the type configuration found there.  This is what runs are compared with.

## Main definitions

* `Verdict`, `verdict` — what is found about a handler.
* `CheckRequest.roots`, `CheckRequest.sources` — the files that a check looks at.
* `CheckRequest.site`, `CheckRequest.verdicts` — the verdicts of a check, read off the disk.
* `settle` — what a check does about a verdict.

## Main results

* `checkHandler_eq` — checking a handler is judging it and settling the verdict.
* `verdict_of_agrees` — a verdict at a bench is the verdict at the site.
-/

namespace RouteLint

open Syntax Project

/-- What is found about a handler: the type of its parameters if it violates the rule. -/
structure Verdict where
  /-- The source it is declared in. -/
  source : Source
  /-- The handler. -/
  handler : Handler
  /-- The type of its parameters if it violates the rule. -/
  found : Option String

namespace Verdict

/-- The violation, if there is one. -/
def violation? (v : Verdict) : Option Violation :=
  match v.handler.context?, v.found with
  | some p, some text => some (violationOf v.source v.handler p text)
  | _, _ => none

theorem violation?_of_found {v : Verdict} (h : v.found = none) : v.violation? = none := by
  unfold violation?
  rw [h]
  cases v.handler.context? <;> rfl

/-- The repair of a violation, if it can be repaired. -/
def repair? (v : Verdict) : Option Edit :=
  match v.handler.context?, v.found with
  | some p, some _ => (planRepair p).toOption
  | _, _ => none

/-- Whether there is a violation that can be repaired. -/
def isRepairable (v : Verdict) : Bool := v.repair?.isSome

theorem isRepairable_of_none {v : Verdict} (h : v.repair? = none) : v.isRepairable = false := by
  rw [isRepairable, h]
  rfl

theorem isRepairable_of_some {v : Verdict} {edit : Edit} (h : v.repair? = some edit) :
    v.isRepairable = true := by
  rw [isRepairable, h]
  rfl

/-- The violation that remains when repairs are made. -/
def remaining? (v : Verdict) : Option Violation := if v.isRepairable then none else v.violation?

theorem filterMap_remaining? (vs : List Verdict) : vs.filterMap remaining? =
    (vs.filter fun v => !v.isRepairable).filterMap violation? := by
  rw [List.filterMap_filter]
  refine List.filterMap_congr fun v _ => ?_
  unfold remaining?
  cases v.isRepairable <;> rfl

/-- What a repair is told as. -/
def event (v : Verdict) : Event := .fixed v.handler.name v.source.path

theorem repair?_eq_some {v : Verdict} {e : Edit} : v.repair? = some e ↔
    ∃ p found, v.handler.context? = some p ∧ v.found = some found ∧ planRepair p = .ok e := by
  unfold repair?
  cases v.handler.context? with
  | none => simp
  | some p =>
    cases v.found with
    | none => simp
    | some found =>
      dsimp only
      cases hplan : planRepair p <;> simp [hplan, Except.toOption]

end Verdict

/-- The verdict on a handler of a source. -/
def verdict {m : Type → Type} [Monad m] (g : ModuleGraph m) (s : Source) (h : Handler) :
    m Verdict :=
  match h.context? with
  | none => pure ⟨s, h, none⟩
  | some p => (fun found => ⟨s, h, found⟩) <$> judge g s.path p

/-- What a verdict says. -/
theorem verdict_eq_ok {ε : Type} {g : ModuleGraph (Except ε)} {s : Source} {h : Handler}
    {v : Verdict} : verdict g s h = .ok v ↔ v.source = s ∧ v.handler = h ∧
      (h.context? = none → v.found = none) ∧
      ∀ p, h.context? = some p → judge g s.path p = .ok v.found := by
  obtain ⟨s', h', found⟩ := v
  unfold verdict
  cases h.context? with
  | none =>
    show Except.ok (Verdict.mk s h none) = _ ↔ _
    simp only [Except.ok.injEq, Verdict.mk.injEq]
    grind
  | some p =>
    simp only [Option.some.injEq, forall_eq', reduceCtorEq, false_implies, true_and]
    cases judge g s.path p with
    | error err =>
      show Except.error err = _ ↔ _
      simp
    | ok found' =>
      show Except.ok (Verdict.mk s h found') = _ ↔ _
      simp only [Except.ok.injEq, Verdict.mk.injEq]
      grind

/-- Verdicts on handlers, one after the other. -/
theorem trials_of_mapM {ε : Type} {g : ModuleGraph (Except ε)} {ts : List (Source × Handler)}
    {vs : List Verdict} (h : (ts.mapM fun t => verdict g t.1 t.2) = .ok vs) :
    vs.map (fun v => (v.source, v.handler)) = ts ∧
      ∀ v ∈ vs, verdict g v.source v.handler = .ok v := by
  have hall := forall₂_of_mapM_eq_ok h
  clear h
  induction hall with
  | nil => exact ⟨rfl, fun v hv => absurd hv List.not_mem_nil⟩
  | cons hv _ ih =>
    obtain ⟨hsource, hhandler, -⟩ := verdict_eq_ok.1 hv
    refine ⟨by rw [List.map_cons, ih.1, hsource, hhandler], fun u hu => ?_⟩
    rcases List.mem_cons.1 hu with rfl | hu
    · rw [hsource, hhandler]
      exact hv
    · exact ih.2 u hu

/-! ### Settling verdicts -/

/-- Report a verdict. -/
def Verdict.report (v : Verdict) : Work (Option Violation) :=
  match v.handler.context?, v.found with
  | some p, some text => do
    return (← get).project.source? v.source.path |>.map fun s => violationOf s v.handler p text
  | _, _ => return none

/-- Do something about a verdict: stage its repair, or report it. -/
def settle (fix : Bool) (v : Verdict) : Work (Option Violation) :=
  match v.repair?, fix with
  | some edit, true => do
    Project.stage v.source.path edit
    tell (.fixed v.handler.name v.source.path)
    return none
  | _, _ => v.report

/-- Checking a handler is judging it and settling the verdict. -/
theorem checkHandler_eq (s : Source) (fix : Bool) (h : Handler) :
    checkHandler s.path fix h = verdict Project.graph s h >>= settle fix := by
  unfold checkHandler verdict
  cases hp : h.context? with
  | none => simp [settle, Verdict.report, Verdict.repair?, hp]
  | some p =>
    dsimp only
    rw [bind_map_left]
    refine congrArg _ (funext fun found => ?_)
    cases found with
    | none => simp [settle, Verdict.report, Verdict.repair?, hp]
    | some text =>
      simp only [settle, Verdict.report, Verdict.repair?, hp]
      cases planRepair p <;> cases fix <;> rfl

theorem verdict_grows (s : Source) (h : Handler) (b : Bench) :
    b.Grows (outcome (verdict Project.graph s h) b).2 := by
  unfold verdict
  cases h.context? with
  | none => exact .refl b
  | some p =>
    dsimp only
    rw [outcome_map]
    exact judge_grows s.path p b

/-- The verdict that judging gives is about the handler that was judged. -/
theorem verdict_handler {s : Source} {h : Handler} {b : Bench} {v : Verdict}
    (hv : (outcome (verdict Project.graph s h) b).1 = .ok v) : v.source = s ∧ v.handler = h := by
  unfold verdict at hv
  cases hp : h.context? with
  | none =>
    rw [hp] at hv
    cases hv
    exact ⟨rfl, rfl⟩
  | some p =>
    rw [hp] at hv
    dsimp only at hv
    rw [outcome_map] at hv
    cases hj : (outcome (judge Project.graph s.path p) b).1 with
    | error err =>
      rw [hj] at hv
      cases hv
    | ok found =>
      rw [hj] at hv
      cases hv
      exact ⟨rfl, rfl⟩

/-- A verdict at a bench is the verdict at the site. -/
theorem verdict_of_agrees {e : Site} {b : Bench} (h : e.Agrees b) (s : Source) (x : Handler) :
    (outcome (verdict Project.graph s x) b).1 = verdict e.graph s x := by
  unfold verdict
  cases x.context? with
  | none => rfl
  | some p =>
    dsimp only
    rw [outcome_map, Site.judge_of_agrees h]
    rfl

/-! ### What a check looks at -/

/-- The handlers of a source, each with the source. -/
def Source.trials (s : Source) : List (Source × Handler) := s.handlers.map fun h => (s, h)

namespace CheckRequest

variable (q : CheckRequest) (w : Workspace)

/-- The files that the pattern selects. -/
def files : List Path := Glob.select w.disk (w.home.absolute q.directory) q.pattern

/-- The files to be checked, by their absolute paths. -/
def roots : List Path := once ((q.files w).map fun p => w.home.absolute p)

/-- The sources to be checked, as far as they can be read. -/
def sources (parse : Parser) : List Source :=
  (q.roots w).filterMap fun p => (readSource parse w.disk p).toOption

/-- What the lookups of the check depend on. -/
def site (parse : Parser) : Except Project.Error Site :=
  let root := w.home.absolute q.directory
  if w.disk.isDirectory root then
    match findConfig w.disk root q.config with
    | .error e => .error (.config e)
    | .ok config => .ok ⟨parse, w.disk, w.home, config⟩
  else .error (.noDirectory root)

/-- The verdicts on all handlers, in the order in which they are reached.  Nothing is looked up
if no file is selected. -/
def verdicts (parse : Parser) : Except Project.Error (List Verdict) :=
  if (q.files w).isEmpty then .ok []
  else do
    let e ← q.site w parse
    let sources ← (q.roots w).mapM e.source
    (sources.flatMap Source.trials).mapM fun t => verdict e.graph t.1 t.2

theorem mem_sources {parse : Parser} {s : Source} :
    s ∈ q.sources w parse ↔ s.path ∈ q.roots w ∧ readSource parse w.disk s.path = .ok s := by
  unfold sources
  rw [List.mem_filterMap]
  constructor
  · rintro ⟨p, hp, hs⟩
    cases hr : readSource parse w.disk p with
    | error cause =>
      rw [hr] at hs
      cases hs
    | ok t =>
      rw [hr] at hs
      cases hs
      have hpath := readSource_path hr
      subst hpath
      exact ⟨hp, hr⟩
  · rintro ⟨hp, hr⟩
    exact ⟨s.path, hp, by rw [hr]; rfl⟩

end CheckRequest

/-! ### Errors -/

/-- Whether a result says that the run came to an error. -/
def RunResult.isError (r : RunResult) : Bool := "Error:".toList.isPrefixOf r.message.toList

theorem isError_failedResult (message : String) : (failedResult message).isError = true := by
  unfold RunResult.isError failedResult
  rw [List.isPrefixOf_iff_prefix, String.toList_append]
  exact ⟨' ' :: message.toList, rfl⟩

theorem isError_of_head {r : RunResult} (c : Char) (hc : c ≠ 'E')
    (h : r.message.toList.head? = some c) : r.isError = false := by
  unfold RunResult.isError
  refine Bool.eq_false_iff.2 fun hprefix => hc ?_
  obtain ⟨rest, hrest⟩ := List.isPrefixOf_iff_prefix.1 hprefix
  rw [← hrest] at h
  exact (Option.some.inj h).symm

theorem isError_plainResult (violations : List Violation) (files : Nat) :
    (plainResult violations files).isError = false := by
  unfold plainResult
  split
  · refine isError_of_head 'A' (by decide) ?_
    dsimp only
    rw [String.toList_append]
    rfl
  · refine isError_of_head 'F' (by decide) ?_
    dsimp only
    rw [String.append_assoc, String.toList_append]
    rfl

theorem violations_plainResult (violations : List Violation) (files : Nat) :
    (plainResult violations files).violations = violations := by
  unfold plainResult
  split
  · next h => exact (List.isEmpty_iff.1 h).symm
  · rfl

theorem isError_repairedResult (violations : List Violation) (written : Nat) :
    (repairedResult violations written).isError = false := by
  refine isError_of_head 'F' (by decide) ?_
  unfold repairedResult
  dsimp only
  rw [String.append_assoc, String.toList_append]
  rfl

end RouteLint
