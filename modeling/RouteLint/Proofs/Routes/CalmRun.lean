import RouteLint.Proofs.Routes.RepairRun

/-!
# Runs that find nothing to repair

Where no handler can be repaired it makes no difference whether repairs are turned on: nothing is
staged, so nothing is applied and nothing is written, and the run goes from bench to bench just as
it does without repairs.

## Main definitions

* `Site.Calm` — sources of which no handler can be repaired.

## Main results

* `checkRoutes_calm` — **a run that finds nothing to repair is a run without repairs.**
-/

namespace RouteLint

open Syntax Project

/-- Work that starts with work that comes out the same. -/
theorem outcome_bind_congr {α β : Type} {x y : Work α} {b : Bench}
    (h : outcome x b = outcome y b) (f : α → Work β) :
    outcome (x >>= f) b = outcome (y >>= f) b := by
  rw [outcome_bind, outcome_bind, h]

/-- Work for the elements of a list that comes out the same for each element, as long as a property
of benches is kept. -/
theorem outcome_mapM_congr {α ι : Type} {P : Bench → Prop} {f g : ι → Work α} {l : List ι}
    (hsame : ∀ i ∈ l, ∀ b, P b → outcome (f i) b = outcome (g i) b)
    (hkept : ∀ i ∈ l, ∀ b, P b → P (outcome (g i) b).2) {b : Bench} (hb : P b) :
    outcome (l.mapM f) b = outcome (l.mapM g) b := by
  induction l generalizing b with
  | nil => rfl
  | cons i l ih =>
    rw [List.mapM_cons, List.mapM_cons, outcome_bind_congr (hsame i List.mem_cons_self b hb)]
    have hkept' := hkept i List.mem_cons_self b hb
    cases hout : outcome (g i) b with
    | mk r b₁ =>
      rw [hout] at hkept'
      cases r with
      | error err => rw [outcome_bind_error hout, outcome_bind_error hout]
      | ok a =>
        rw [outcome_bind_ok hout, outcome_bind_ok hout]
        refine outcome_bind_congr (ih ?_ ?_ hkept') _
        · exact fun j hj => hsame j (List.mem_cons_of_mem _ hj)
        · exact fun j hj => hkept j (List.mem_cons_of_mem _ hj)

namespace Site

variable {e : Site} {roots : List Path} {before : List Event} {t : Source} {b : Bench}

/-- No handler of a source can be repaired. -/
def Calm (e : Site) (t : Source) : Prop :=
  ∀ x ∈ t.handlers, ∀ v, verdict e.graph t x = .ok v → v.isRepairable = false

/-- Checking a handler that cannot be repaired. -/
theorem checkHandler_calm (hcalm : e.Calm t) {x : Handler} (hx : x ∈ t.handlers)
    (h : e.Reached roots before none [] b) :
    outcome (checkHandler t.path true x) b = outcome (checkHandler t.path false x) b := by
  have hverdict := verdict_of_agrees h.agrees_of_nil t x
  rw [checkHandler_eq, checkHandler_eq, outcome_bind, outcome_bind]
  cases hout : outcome (verdict Project.graph t x) b with
  | mk r b₁ =>
    cases r with
    | error err => rfl
    | ok v =>
      rw [hout] at hverdict
      have hnone : v.repair? = none := by
        have hno := hcalm x hx v hverdict.symm
        rwa [Verdict.isRepairable, Option.isSome_eq_false_iff, Option.isNone_iff_eq_none] at hno
      have hsettle : settle true v = settle false v := by
        unfold settle
        rw [hnone]
      dsimp only
      rw [hsettle]

/-- Checking a source of which no handler can be repaired. -/
theorem checkSource_calm (hcalm : e.Calm t) (ht : e.source t.path = .ok t) (hr : t.path ∈ roots)
    (h : e.Reached roots before none [] b) :
    outcome (checkSource t.path true) b = outcome (checkSource t.path false) b := by
  have hscope := h.scopeOf ht hr rfl
  have hgrows := scopeOf_grows t.path b
  unfold checkSource
  cases hout : outcome (scopeOf t.path) b with
  | mk r b₁ =>
    rw [hout] at hscope hgrows
    cases hscope
    rw [outcome_bind_ok hout, outcome_bind_ok hout]
    refine outcome_bind_congr ?_ _
    refine outcome_mapM_congr (P := fun b => e.Reached roots before none [] b) ?_ ?_
      (h.grows hgrows)
    · exact fun x hx b hb => checkHandler_calm hcalm hx hb
    · exact fun x _ b hb => hb.grows (checkHandler_plain ht hr x b hb).2

/-- Checking sources of which no handler can be repaired. -/
theorem checkSources_calm {ts : List Source}
    (hts : ∀ t ∈ ts, e.Calm t ∧ e.source t.path = .ok t ∧ t.path ∈ roots)
    (h : e.Reached roots before none [] b) :
    outcome ((ts.map Source.path).mapM fun p => checkSource p true) b =
      outcome ((ts.map Source.path).mapM fun p => checkSource p false) b := by
  rw [List.mapM_map, List.mapM_map]
  refine outcome_mapM_congr (P := fun b => e.Reached roots before none [] b) ?_ ?_ h
  · intro t ht b hb
    obtain ⟨hcalm, hsource, hroot⟩ := hts t ht
    exact checkSource_calm hcalm hsource hroot hb
  · intro t ht b hb
    obtain ⟨-, hsource, hroot⟩ := hts t ht
    exact hb.grows (checkSource_plain hsource hroot b hb).2

/-- Nothing is written. -/
theorem save_calm (h : e.Reached roots before none [] b) :
    outcome Project.save b = (.ok [], b) := by
  have hnone : b.project.files.values.filter Source.modified = [] := by
    refine List.eq_nil_iff_forall_not_mem.2 fun s hs => ?_
    obtain ⟨t, -, hne, -⟩ := h.mem_edited.1 hs
    exact hne rfl
  unfold Project.save
  rw [outcome_get_bind]
  dsimp only
  rw [hnone]
  rfl

end Site

/-- **A run that finds nothing to repair is a run without repairs.** -/
theorem checkRoutes_calm {parse : Parser} {q : CheckRequest} {w : Workspace}
    (hcalm : ∀ e, q.site w parse = .ok e → (∀ r ∈ q.roots w, ∃ t, e.source r = .ok t) →
      ∀ t ∈ q.sources w parse, e.Calm t) :
    checkRoutes parse { q with fix := true } w = checkRoutes parse { q with fix := false } w := by
  cases hfiles : (q.files w).isEmpty with
  | true => rw [checkRoutes_of_no_files hfiles, checkRoutes_of_no_files hfiles]
  | false =>
    rw [checkRoutes_eq hfiles, checkRoutes_eq hfiles]
    rcases load_cases parse q w with
      ⟨e, b, hsite, hall, hload, hreached, -⟩ | ⟨err, b, hload, -⟩
    · have hts : ∀ t ∈ q.sources w parse, e.source t.path = .ok t ∧ t.path ∈ q.roots w :=
        fun t ht => CheckRequest.source_of_mem hsite ht
      have hpaths := (CheckRequest.sources_of_loaded hsite hall).1
      have hsame := Site.checkSources_calm
        (fun t ht => ⟨hcalm e hsite hall t ht, hts t ht⟩) hreached
      have hgrows := (Site.checkSources_plain hts b hreached).2
      rw [hpaths] at hsame hgrows
      rw [outcome_checkFiles hload true, outcome_checkFiles hload false, hreached.roots_eq,
        outcome_bind_congr hsame]
      cases hrun : outcome ((q.roots w).mapM fun p => checkSource p false) b with
      | mk r b' =>
        rw [hrun] at hgrows
        cases r with
        | error err => rw [outcome_bind_error hrun, outcome_bind_error hrun]
        | ok yss =>
          rw [outcome_bind_ok hrun, outcome_bind_ok hrun]
          dsimp only
          rw [if_pos rfl, outcome_bind_ok (Site.save_calm (hreached.grows hgrows))]
          rfl
    · have hout : ∀ fix, outcome (checkFiles parse { q with fix } (q.files w)) w.bench =
          (.error err, b) := fun fix => outcome_bind_error hload
      rw [hout, hout]

end RouteLint
