import Mathlib.Data.List.Perm.Subperm
import RouteLint.Proofs.Routes.Deciding
import RouteLint.Proofs.Routes.PlainRun

/-!
# Roots in any order

Sources are checked one after the other at one bench, and what is found about one of them is read
off the others as they are by then, repaired or not.  Still the order does not matter.  A parser
is only expected to keep an edit inside of the function it is made in: then typing, which looks at
everything else, sees the modules of the disk at every bench of a run.  What checking a source
comes to is therefore said at the site, by its verdicts and the edits that follow from them, and
nothing of it depends on the sources that were checked before.

## Main definitions

* `Module.outline` — a module with nothing left inside of its functions.
* `Source.Confines` — **what is assumed of a parser: edits of handlers change functions only.**
* `Site.Settles` — what checking a source comes to, said at the site.

## Main results

* `Site.Reached.settles`, `Site.Reached.checkSource_of_settles` — a source is checked without an
  error exactly if it settles.
* `Site.Reached.checkSources_of_settles` — sources that settle are checked in any order.
* `checkSources_any_order` — **every root has violations and bytes of its own, whatever the
  order.**
-/

namespace RouteLint

open Syntax Project

/-! ### Edits inside of functions -/

namespace Syntax

/-- One renewal after another. -/
def Renewal.andThen (a b : Renewal) : Renewal where
  type d := b.type (a.type d)
  function f := b.function (a.function f)
  value v := b.value (a.value v)
  type_name d := (b.type_name _).trans (a.type_name d)
  function_name f := (b.function_name _).trans (a.function_name f)
  value_name v := (b.value_name _).trans (a.value_name v)

theorem Module.renew_renew (a b : Renewal) (m : Module) :
    (m.renew a).renew b = m.renew (a.andThen b) := by
  have hdeclaration : ∀ x : Declaration, (x.renew a).renew b = x.renew (a.andThen b) := by
    intro x
    cases x <;> rfl
  unfold renew
  dsimp only
  rw [List.map_map]
  congr 1
  refine List.map_congr_left fun t _ => ?_
  cases t with
  | declares exporting ds =>
    refine congrArg (Statement.declares exporting) ?_
    rw [List.map_map]
    exact List.map_congr_left fun x _ => hdeclaration x
  | imports | exports | exportsAll | other => rfl

/-- Leaving out what stands inside of functions. -/
def Renewal.hollow : Renewal where
  type := id
  function f := { (default : FunctionDeclaration) with name := f.name }
  value := id
  type_name _ := rfl
  function_name _ := rfl
  value_name _ := rfl

/-- A module without places, and with nothing left inside of its functions. -/
def Module.outline (m : Module) : Module := m.bare.renew .hollow

/-- Repairs stay inside of functions. -/
theorem Module.outline_repaired (es : List Edit) (m : Module) :
    (m.repaired es).outline = m.outline := by
  unfold outline bare repaired
  rw [renew_renew, renew_renew, renew_renew]
  rfl

end Syntax

/-- Typing sees nothing but outlines. -/
theorem Scope.view_eq_of_outline_eq {m m' : Module}
    (h : m.outline.statements = m'.outline.statements) :
    (ofModule m).view = (ofModule m').view := by
  have hview : ∀ m : Module,
      (ofModule m).view = { ofModule m.outline with functions := [], values := [] } := by
    intro m
    rw [Module.outline, Module.bare, Module.renew_renew, ofModule_renew]
    rfl
  rw [hview, hview, ofModule, ofModule, h]

/-- The edits of a source's handlers change nothing but functions: when the edited bytes are read,
all statements are as before, up to what stands inside of functions and up to places. -/
def Source.Confines (parse : Parser) (s : Source) : Prop :=
  ∀ es, s.Plans es →
    (parse s.language (Edit.applyAll es s.content)).outline.statements =
      s.module.outline.statements

/-- A parser that makes a repaired tree of edited bytes keeps edits inside of functions. -/
theorem Source.Rewraps.confines {parse : Parser} {s : Source} (h : s.Rewraps parse) :
    s.Confines parse := by
  intro es hes
  rw [Module.outline, h es hes, ← Module.outline, Module.outline_repaired]

/-! ### Planned edits -/

theorem planned_prefix (vs ws : List Verdict) (p : Path) :
    planned vs p <+: planned (vs ++ ws) p := by
  unfold planned
  rw [List.filter_append, List.filterMap_append, once_append]
  exact prefix_foldl_putOnce _ _

/-- Verdicts from which no edit of a source follows do not count. -/
theorem planned_append_of_nil {vs : List Verdict} {p : Path} (h : planned vs p = [])
    (ws : List Verdict) : planned (vs ++ ws) p = planned ws p := by
  unfold planned at h ⊢
  rw [List.filter_append, List.filterMap_append, once_eq_nil.1 h, List.nil_append]

theorem planned_eq_nil {vs : List Verdict} {p : Path} (h : ∀ v ∈ vs, v.source.path ≠ p) :
    planned vs p = [] := by
  have hnone : planned ([] ++ vs) p = planned [] p := planned_append_of_ne h
  exact hnone

/-- The edits of a source follow from its own verdicts. -/
theorem planned_flatMap {f : Source → List Verdict} {ts : List Source}
    (hf : ∀ t ∈ ts, ∀ v ∈ f t, v.source = t) (hnodup : (ts.map Source.path).Nodup) {t : Source}
    (ht : t ∈ ts) : planned (ts.flatMap f) t.path = planned (f t) t.path := by
  induction ts with
  | nil => exact absurd ht List.not_mem_nil
  | cons s ts ih =>
    rw [List.map_cons, List.nodup_cons] at hnodup
    rw [List.flatMap_cons]
    rcases List.mem_cons.1 ht with rfl | ht
    · refine planned_append_of_ne fun v hv heq => ?_
      obtain ⟨s, hs, hv⟩ := List.mem_flatMap.1 hv
      rw [hf s (List.mem_cons_of_mem _ hs) v hv] at heq
      exact hnodup.1 (heq ▸ List.mem_map_of_mem hs)
    · rw [planned_append_of_nil (planned_eq_nil fun v hv heq => ?_)]
      · exact ih (fun t' ht' => hf t' (List.mem_cons_of_mem _ ht')) hnodup.2 ht
      · rw [hf s List.mem_cons_self v hv] at heq
        exact hnodup.1 (heq ▸ List.mem_map_of_mem ht)

/-! ### What checking a source comes to -/

namespace Site

variable {e : Site} {roots : List Path} {before : List Event} {staging : Option Path}
variable {vs : List Verdict} {b b' : Bench} {t : Source}

/-- The sources of a site among some roots are read as expected when edited. -/
def Confines (e : Site) (roots : List Path) : Prop :=
  ∀ t : Source, t.path ∈ roots → e.source t.path = .ok t → t.Confines e.parse

/-- At every bench of a run typing sees the modules of the disk. -/
theorem Reached.agrees_of_confines (h : e.Reached roots before staging vs b)
    (hparse : e.Confines roots) : e.Agrees b := by
  refine h.agrees_of_view fun p hne t ht => ?_
  have hpath := source_path ht
  subst hpath
  exact Scope.view_eq_of_outline_eq (hparse t (h.mem_roots hne) ht _ (h.plans ht))

theorem Judged.verdict_of_confines {v : Verdict} (h : e.Judged roots before v)
    (hparse : e.Confines roots) : verdict e.graph v.source v.handler = .ok v := by
  obtain ⟨staging, vs, b, hreached, hv⟩ := h
  rw [← verdict_of_agrees (hreached.agrees_of_confines hparse), hv]

/-- The verdicts that a source comes to at the site.  With repairs, no edit that follows from them
overlaps another. -/
structure Settles (e : Site) (t : Source) (ws : List Verdict) : Prop where
  verdicts : (t.trials.mapM fun x => verdict e.graph x.1 x.2) = .ok ws
  accepted : (planned ws t.path).Pairwise fun a b => a ≠ b ∧ b.overlaps a = false

theorem Settles.source_eq {ws : List Verdict} (h : e.Settles t ws) : ∀ v ∈ ws, v.source = t := by
  intro v hv
  have hmem := List.mem_map_of_mem (f := fun v : Verdict => (v.source, v.handler)) hv
  rw [(trials_of_mapM h.verdicts).1] at hmem
  obtain ⟨x, -, hx⟩ := List.mem_map.1 hmem
  exact (congrArg Prod.fst hx).symm

/-- A source that has been checked settles. -/
theorem Reached.settles (h : e.Reached roots before none [] b) (hparse : e.Confines roots)
    (ht : e.source t.path = .ok t) (hr : t.path ∈ roots) {ys : List Violation}
    (hout : outcome (RouteLint.checkSource t.path true) b = (.ok ys, b')) :
    ∃ ws, e.Settles t ws := by
  obtain ⟨ws, htrials, hjudged, -, hreached⟩ := h.checkSource ht hr rfl hout
  refine ⟨ws, ?_, hreached.accepted _⟩
  rw [← htrials]
  exact mapM_map_eq_ok fun v hv => (hjudged v hv).verdict_of_confines hparse

/-- Settling a verdict comes to an end if its edit overlaps no other. -/
theorem Reached.settle_of_accepted {v : Verdict}
    (h : e.Reached roots before (some v.source.path) vs b)
    (hv : e.source v.source.path = .ok v.source) (hr : v.source.path ∈ roots)
    (haccepted : (planned (vs ++ [v]) v.source.path).Pairwise
      fun a b => a ≠ b ∧ b.overlaps a = false) :
    ∃ x b', outcome (RouteLint.settle true v) b = (.ok x, b') := by
  unfold RouteLint.settle
  cases hrepair : v.repair? with
  | none => exact ⟨_, b, h.report hv hr (.inl rfl)⟩
  | some edit =>
    have hs := h.source?_root hr hv
    rw [current, if_pos rfl] at hs
    rw [planned_append_some hrepair] at haccepted
    dsimp only
    rcases stage_cases edit hs with ⟨-, hstage⟩ | ⟨⟨hnot, x, hx, hoverlaps⟩, -⟩
    · rw [outcome_bind_ok hstage, outcome_tell_bind]
      exact ⟨_, _, rfl⟩
    · -- a refused edit would overlap one before it
      have hput : putOnce (planned vs v.source.path) edit = planned vs v.source.path ++ [edit] :=
        if_neg fun hin => hnot (List.contains_iff_mem.1 hin)
      rw [hput] at haccepted
      have hapart := (List.pairwise_append.1 haccepted).2.2 x hx edit List.mem_cons_self
      rw [hoverlaps] at hapart
      cases hapart.2

/-- Checking handlers of the source at hand comes to an end if their edits overlap no others. -/
theorem Reached.checkHandlers_of_accepted (hparse : e.Confines roots)
    (ht : e.source t.path = .ok t) (hr : t.path ∈ roots) {xs : List Handler}
    (hxs : ∀ x ∈ xs, x ∈ t.handlers) {ws : List Verdict}
    (hws : xs.mapM (verdict e.graph t) = .ok ws) (h : e.Reached roots before (some t.path) vs b)
    (haccepted : (planned (vs ++ ws) t.path).Pairwise fun a b => a ≠ b ∧ b.overlaps a = false) :
    ∃ b', outcome (xs.mapM (RouteLint.checkHandler t.path true)) b =
        (.ok (ws.map Verdict.remaining?), b') ∧
      e.Reached roots before (some t.path) (vs ++ ws) b' := by
  induction xs generalizing vs b ws with
  | nil =>
    rw [List.mapM_nil] at hws
    cases hws
    exact ⟨b, rfl, by rwa [List.append_nil]⟩
  | cons x xs ih =>
    rw [List.mapM_cons] at hws
    obtain ⟨v, hv, hws⟩ := except_bind_eq_ok hws
    obtain ⟨ws', hws', hreturn⟩ := except_bind_eq_ok hws
    cases hreturn
    obtain ⟨rfl, rfl, -⟩ := verdict_eq_ok.1 hv
    -- the verdict at the bench is the one at the site, and it can be settled
    have hverdict := verdict_of_agrees (h.agrees_of_confines hparse) v.source v.handler
    have hgrows := verdict_grows v.source v.handler b
    rw [hv] at hverdict
    have hfirst : ∃ x b', outcome (RouteLint.checkHandler v.source.path true v.handler) b =
        (.ok x, b') := by
      rw [checkHandler_eq, outcome_bind]
      cases hout : outcome (verdict Project.graph v.source v.handler) b with
      | mk r b₁ =>
        rw [hout] at hverdict hgrows
        cases hverdict
        refine (h.grows hgrows).settle_of_accepted ht hr (haccepted.sublist ?_)
        have hprefix := planned_prefix (vs ++ [v]) ws' v.source.path
        rw [List.append_assoc] at hprefix
        exact hprefix.sublist
    obtain ⟨y, b₁, hy⟩ := hfirst
    obtain ⟨v', hsource, hhandler, hjudged, rfl, hreached⟩ :=
      h.checkHandler ht hr (hxs _ List.mem_cons_self) hy
    have hsame : v' = v := by
      have hv' := hjudged.verdict_of_confines hparse
      rw [hsource, hhandler, hv] at hv'
      exact (Except.ok.inj hv').symm
    subst hsame
    obtain ⟨b', hrest, hreached'⟩ := ih (fun x' hx' => hxs x' (List.mem_cons_of_mem _ hx')) hws'
      hreached (by rwa [List.append_assoc])
    refine ⟨b', ?_, by rwa [List.append_assoc] at hreached'⟩
    rw [List.mapM_cons, outcome_bind_ok hy, outcome_bind_ok hrest]
    rfl

/-- **A source that settles is checked without an error**, whatever has been checked before. -/
theorem Reached.checkSource_of_settles (h : e.Reached roots before none vs b)
    (hparse : e.Confines roots) (ht : e.source t.path = .ok t) (hr : t.path ∈ roots)
    (hnil : planned vs t.path = []) {ws : List Verdict} (hws : e.Settles t ws) :
    ∃ b', outcome (RouteLint.checkSource t.path true) b =
        (.ok (ws.filterMap Verdict.remaining?), b') ∧
      e.Reached roots before none (vs ++ ws) b' := by
  have hscope := h.scopeOf ht hr hnil
  have hgrows := scopeOf_grows t.path b
  cases hout : outcome (Project.scopeOf t.path) b with
  | mk r b₁ =>
    rw [hout] at hscope hgrows
    cases hscope
    have hverdicts : t.handlers.mapM (verdict e.graph t) = .ok ws := by
      have hmapM := hws.verdicts
      rw [Source.trials, List.mapM_map] at hmapM
      exact hmapM
    obtain ⟨b₂, hhandlers, hreached⟩ := Reached.checkHandlers_of_accepted hparse ht hr
      (fun _ hx => hx) hverdicts ((h.grows hgrows).start hnil)
      (by rw [planned_append_of_nil hnil]; exact hws.accepted)
    obtain ⟨n, b₃, happly, hreached'⟩ := hreached.apply ht hr
    refine ⟨b₃, ?_, hreached'⟩
    unfold RouteLint.checkSource
    rw [outcome_bind_ok hout]
    have hhandlers' : outcome
        ((RouteLint.handlers (Scope.ofModule t.module)).mapM (RouteLint.checkHandler t.path true))
        b₁ = (.ok (ws.map Verdict.remaining?), b₂) := hhandlers
    have hdiscard : outcome (discard (Project.apply t.path)) b₂ = (.ok PUnit.unit, b₃) := by
      rw [outcome_discard, happly]
      rfl
    rw [outcome_bind_ok hhandlers', outcome_bind_ok hdiscard, outcome_pure, List.filterMap_map]
    rfl

/-- **Sources that settle are checked in any order.** -/
theorem Reached.checkSources_of_settles (hparse : e.Confines roots) {ts : List Source}
    (hts : ∀ t ∈ ts, e.source t.path = .ok t ∧ t.path ∈ roots)
    (hnodup : (ts.map Source.path).Nodup) {f : Source → List Verdict}
    (hf : ∀ t ∈ ts, e.Settles t (f t)) (h : e.Reached roots before none vs b)
    (hnil : ∀ t ∈ ts, planned vs t.path = []) :
    ∃ b', outcome ((ts.map Source.path).mapM fun p => RouteLint.checkSource p true) b =
        (.ok (ts.map fun t => (f t).filterMap Verdict.remaining?), b') ∧
      e.Reached roots before none (vs ++ ts.flatMap f) b' := by
  induction ts generalizing vs b with
  | nil => exact ⟨b, rfl, by rwa [List.flatMap_nil, List.append_nil]⟩
  | cons t ts ih =>
    rw [List.map_cons, List.nodup_cons] at hnodup
    obtain ⟨ht, hr⟩ := hts t List.mem_cons_self
    have hsettles := hf t List.mem_cons_self
    obtain ⟨b₁, hfirst, hreached⟩ :=
      h.checkSource_of_settles hparse ht hr (hnil t List.mem_cons_self) hsettles
    -- what was planned just now is planned for another source
    have hnil' : ∀ t' ∈ ts, planned (vs ++ f t) t'.path = [] := by
      intro t' ht'
      rw [planned_append_of_ne fun v hv heq => ?_]
      · exact hnil t' (List.mem_cons_of_mem _ ht')
      · rw [hsettles.source_eq v hv] at heq
        exact hnodup.1 (heq ▸ List.mem_map_of_mem ht')
    obtain ⟨b', hrest, hreached'⟩ := ih (fun t' ht' => hts t' (List.mem_cons_of_mem _ ht'))
      hnodup.2 (fun t' ht' => hf t' (List.mem_cons_of_mem _ ht')) hreached hnil'
    refine ⟨b', ?_, ?_⟩
    · rw [List.map_cons, List.mapM_cons, outcome_bind_ok hfirst, outcome_bind_ok hrest]
      rfl
    · rwa [List.flatMap_cons, ← List.append_assoc]

/-! ### Any order -/

/-- The source at a root of a run that has settled nothing. -/
theorem Reached.source_root (h : e.Reached roots before none [] b) {p : Path} (hp : p ∈ roots) :
    ∃ t, e.source p = .ok t ∧ b.project.source? p = some t := by
  obtain ⟨-, s, hs⟩ := h.loaded p hp
  obtain ⟨t, ht, rfl⟩ := h.sources hs
  have hnil : planned [] p = [] := rfl
  rw [hnil, current_nil ht] at hs
  exact ⟨t, ht, hs⟩

/-- Some of the roots are the paths of some of the sources. -/
theorem Reached.exists_sources (h : e.Reached roots before none [] b) {ps : List Path}
    (hps : ∀ p ∈ ps, p ∈ roots) :
    ∃ ts : List Source, ts.map Source.path = ps ∧
      ∀ t ∈ ts, e.source t.path = .ok t ∧ t.path ∈ roots := by
  induction ps with
  | nil => exact ⟨[], rfl, fun t ht => absurd ht List.not_mem_nil⟩
  | cons p ps ih =>
    obtain ⟨ts, hpaths, hts⟩ := ih fun q hq => hps q (List.mem_cons_of_mem _ hq)
    obtain ⟨t, ht, -⟩ := h.source_root (hps p List.mem_cons_self)
    have hpath := source_path ht
    refine ⟨t :: ts, by rw [List.map_cons, hpath, hpaths], fun t' ht' => ?_⟩
    rcases List.mem_cons.1 ht' with rfl | ht'
    · rw [hpath]
      exact ⟨ht, hps p List.mem_cons_self⟩
    · exact hts t' ht'

/-- With repairs, every root has violations and bytes of its own. -/
theorem Reached.any_order_repairing (h : e.Reached roots before none [] b)
    (hparse : e.Confines roots) (hnodup : roots.Nodup)
    (hok : ∀ p ∈ roots, (outcome (RouteLint.checkSource p true) b).1.isOk = true) :
    ∃ (found : Path → List Violation) (bytes : Path → Bytes), ∀ ps : List Path, ps.Subperm roots →
      ∃ b', outcome (ps.mapM fun p => RouteLint.checkSource p true) b =
          (.ok (ps.map found), b') ∧
        ∀ p ∈ ps, ∃ s, b'.project.source? p = some s ∧ s.content = bytes p := by
  have hsettles : ∀ p, ∃ t ws, p ∈ roots → e.source p = .ok t ∧ e.Settles t ws := by
    intro p
    by_cases hp : p ∈ roots
    · obtain ⟨t, ht, -⟩ := h.source_root hp
      have hpath := source_path ht
      subst hpath
      have hokp := hok _ hp
      cases hout : outcome (RouteLint.checkSource t.path true) b with
      | mk r b' =>
        rw [hout] at hokp
        cases r with
        | error err => cases hokp
        | ok ys =>
          obtain ⟨ws, hws⟩ := h.settles hparse ht hp hout
          exact ⟨t, ws, fun _ => ⟨ht, hws⟩⟩
    · exact ⟨default, [], fun hp' => absurd hp' hp⟩
  choose source verdicts hspec using hsettles
  refine ⟨fun p => (verdicts p).filterMap Verdict.remaining?,
    fun p => ((source p).edited e.parse (planned (verdicts p) p)).content, fun ps hps => ?_⟩
  have hsubset := hps.subset
  obtain ⟨ts, hpaths, hts⟩ := h.exists_sources fun p hp => hsubset hp
  have hnodup' : (ts.map Source.path).Nodup := by
    rw [hpaths]
    obtain ⟨l, hperm, hsub⟩ := hps
    exact hperm.nodup_iff.1 (hnodup.sublist hsub)
  -- the sources of the paths are those that were chosen
  have hsource : ∀ t ∈ ts, source t.path = t ∧ e.Settles t (verdicts t.path) := by
    intro t ht
    obtain ⟨hread, hr⟩ := hts t ht
    obtain ⟨hread', hws⟩ := hspec t.path hr
    rw [hread] at hread'
    have heq := Except.ok.inj hread'
    rw [← heq] at hws
    exact ⟨heq.symm, hws⟩
  obtain ⟨b', hout, hreached⟩ := Reached.checkSources_of_settles hparse hts hnodup'
    (f := fun t => verdicts t.path) (fun t ht => (hsource t ht).2) h (fun _ _ => rfl)
  rw [List.nil_append] at hreached
  refine ⟨b', ?_, fun p hp => ?_⟩
  · rw [← hpaths, hout, List.map_map]
    rfl
  · rw [← hpaths] at hp
    obtain ⟨t, ht, rfl⟩ := List.mem_map.1 hp
    obtain ⟨hread, hr⟩ := hts t ht
    refine ⟨_, hreached.source?_root hr hread, ?_⟩
    dsimp only
    rw [planned_flatMap (fun t' ht' => (hsource t' ht').2.source_eq) hnodup' ht, (hsource t ht).1,
      current, if_neg (by simp)]

/-- Without repairs, every root has violations and bytes of its own. -/
theorem Reached.any_order_plain (h : e.Reached roots before none [] b)
    (hok : ∀ p ∈ roots, (outcome (RouteLint.checkSource p false) b).1.isOk = true) :
    ∃ (found : Path → List Violation) (bytes : Path → Bytes), ∀ ps : List Path, ps.Subperm roots →
      ∃ b', outcome (ps.mapM fun p => RouteLint.checkSource p false) b =
          (.ok (ps.map found), b') ∧
        ∀ p ∈ ps, ∃ s, b'.project.source? p = some s ∧ s.content = bytes p := by
  have hfound : ∀ p, ∃ t ys, p ∈ roots → e.source p = .ok t ∧
      (outcome (RouteLint.checkSource p false) b).1 = .ok ys := by
    intro p
    by_cases hp : p ∈ roots
    · obtain ⟨t, ht, -⟩ := h.source_root hp
      have hokp := hok _ hp
      cases hr : (outcome (RouteLint.checkSource p false) b).1 with
      | error err =>
        rw [hr] at hokp
        cases hokp
      | ok ys => exact ⟨t, ys, fun _ => ⟨ht, rfl⟩⟩
    · exact ⟨default, [], fun hp' => absurd hp' hp⟩
  choose source found hspec using hfound
  refine ⟨found, fun p => (source p).content, fun ps hps => ?_⟩
  have hsubset := hps.subset
  obtain ⟨ts, hpaths, hts⟩ := h.exists_sources fun p hp => hsubset hp
  -- what is found in a source is said at the site
  have hsite : ∀ t ∈ ts, ((t.trials.mapM fun x => verdict e.graph x.1 x.2).map
      (List.filterMap Verdict.violation?)) = .ok (found t.path) := by
    intro t ht
    obtain ⟨hread, hr⟩ := hts t ht
    rw [(checkSource_plain hread hr b h).1, (hspec t.path hr).2]
    rfl
  have hall := (e.plainly roots before).mapM_same ts
    (fun t ht => checkSource_plain (hts t ht).1 (hts t ht).2) b h
  rw [List.map_id_fun, Except.map_id, id_eq, mapM_eq_map_of_ok hsite] at hall
  subst hpaths
  rw [List.mapM_map, List.map_map]
  cases hout : outcome (ts.mapM fun t => RouteLint.checkSource t.path false) b with
  | mk r b' =>
    rw [hout] at hall
    obtain ⟨rfl, hgrows⟩ := hall
    refine ⟨b', hout, fun p hp => ?_⟩
    obtain ⟨t, ht, rfl⟩ := List.mem_map.1 hp
    obtain ⟨hread, hr⟩ := hts t ht
    obtain ⟨t', hread', hs⟩ := (h.grows hgrows).source_root hr
    have hspec' := (hspec t.path hr).1
    rw [hread'] at hspec'
    exact ⟨t', hs, congrArg Source.content (Except.ok.inj hspec')⟩

end Site

/-- What loading leaves, if it comes to an end. -/
theorem reached_of_load {parse : Parser} {directory : Path} {config : Option String}
    {files : List Path} {w : Workspace} {b : Bench}
    (h : outcome (Project.load parse directory config files) w.bench = (.ok (), b)) :
    ∃ e : Site, e.parse = parse ∧ b.project.roots.Nodup ∧
      e.Reached b.project.roots (w.log.filter Event.isFixed) none [] b := by
  obtain ⟨q, rfl, rfl⟩ : ∃ q : CheckRequest, q.directory = directory ∧ q.config = config :=
    ⟨⟨directory, config, "", false⟩, rfl, rfl⟩
  cases hsite : q.site w parse with
  | error err =>
    rw [outcome_load_of_error hsite] at h
    cases h
  | ok e =>
    obtain ⟨hdirectory, found, hconfig, rfl⟩ := CheckRequest.site_eq_ok hsite
    rw [outcome_load hdirectory hconfig] at h
    have hempty := Site.reached_empty ⟨parse, w.disk, w.home, found⟩
      { w.bench with project := .empty parse (w.home.absolute q.directory) found } rfl rfl _ rfl
    rcases hempty.addAll files with ⟨b', -, hout, hreached, -⟩ | ⟨err, b', -, hout, -⟩
    · rw [h] at hout
      cases hout
      have hroots := hreached.roots_eq
      refine ⟨_, rfl, ?_, hroots ▸ hreached⟩
      rw [hroots]
      exact nodup_once _
    · rw [h] at hout
      cases hout

/-- **Every root has violations and bytes of its own, whatever the order.**  Let a project be
loaded from which each root can be checked.  Then checking some of the roots or all of them, in any
order, gives each of them the violations and leaves it with the bytes that it always has. -/
theorem checkSources_any_order {parse : Parser} {directory : Path} {config : Option String}
    {files : List Path} {w : Workspace} {b : Bench} (fix : Bool)
    (hload : outcome (Project.load parse directory config files) w.bench = (.ok (), b))
    (hparse : ∀ p ∈ b.project.roots, ∀ s, b.project.source? p = some s → s.Confines parse)
    (hok : ∀ p ∈ b.project.roots, (outcome (checkSource p fix) b).1.isOk = true) :
    ∃ (found : Path → List Violation) (bytes : Path → Bytes),
      ∀ ps : List Path, ps.Subperm b.project.roots →
        ∃ b', outcome (ps.mapM fun p => checkSource p fix) b = (.ok (ps.map found), b') ∧
          ∀ p ∈ ps, ∃ s, b'.project.source? p = some s ∧ s.content = bytes p := by
  obtain ⟨e, rfl, hnodup, hreached⟩ := reached_of_load hload
  have hconfines : e.Confines b.project.roots := by
    intro t hr ht
    obtain ⟨t', ht', hs⟩ := hreached.source_root hr
    rw [ht] at ht'
    cases ht'
    exact hparse _ hr _ hs
  cases fix with
  | true => exact hreached.any_order_repairing hconfines hnodup hok
  | false => exact hreached.any_order_plain hok

/-! ### Two roots -/

theorem outcome_of_isOk {x : Work Unit} {b : Bench} (h : (outcome x b).1.isOk = true) :
    outcome x b = (.ok (), (outcome x b).2) := by
  cases hout : outcome x b with
  | mk r b' =>
    rw [hout] at h
    cases r with
    | error err => cases h
    | ok u => rfl

namespace Sample

/-- Both files loaded. -/
def bench : Bench :=
  (outcome (Project.load Module.parse request.directory request.config (request.files workspace))
    workspace.bench).2

/-- Both files loaded with a parser. -/
def loaded (parse : Parser) : Bench :=
  (outcome (Project.load parse request.directory request.config (request.files workspace))
    workspace.bench).2

theorem bench_eq : bench = loaded eagerParse := by
  rw [eagerParse_eq]
  rfl

theorem load_loaded {parse : Parser}
    (h : (outcome (Project.load parse request.directory request.config (request.files workspace))
      workspace.bench).1.isOk = true) :
    outcome (Project.load parse request.directory request.config (request.files workspace))
      workspace.bench = (.ok (), loaded parse) :=
  outcome_of_isOk h

set_option maxRecDepth 100000 in
theorem loaded_checked :
    (outcome (Project.load Module.parse request.directory request.config
      (request.files workspace)) workspace.bench).1.isOk = true ∧
    bench.project.roots.length = 2 ∧
      ∀ p ∈ bench.project.roots, (outcome (checkSource p true) bench).1.isOk = true := by
  rw [bench_eq, ← eagerParse_eq]
  decide +kernel

theorem load_bench : outcome (Project.load Module.parse request.directory request.config
    (request.files workspace)) workspace.bench = (.ok (), bench) :=
  load_loaded loaded_checked.1

theorem checked_bench : bench.project.roots.length = 2 ∧
    ∀ p ∈ bench.project.roots, (outcome (checkSource p true) bench).1.isOk = true :=
  loaded_checked.2

theorem confines_bench : ∀ p ∈ bench.project.roots, ∀ s, bench.project.source? p = some s →
    s.Confines Module.parse := by
  intro p hp s hs
  rcases load_cases Module.parse request workspace with
    ⟨e, b, hsite, -, hload, hreached, -⟩ | ⟨err, b, hload, -⟩
  · have hb : bench = b := (Prod.mk.inj (load_bench.symm.trans hload)).2
    rw [hb] at hp hs
    rw [hreached.roots_eq] at hp
    obtain ⟨t, ht, ht'⟩ := hreached.source_root hp
    have heq : t = s := Option.some.inj (ht'.symm.trans hs)
    have hpath := Site.source_path ht
    rw [← hpath] at ht hp
    rw [← heq]
    exact (rewraps t (CheckRequest.mem_sources_of_root hsite ht hp)).confines
  · cases (Prod.mk.inj (load_bench.symm.trans hload)).1

end Sample

/-- Both files of the small project are repaired, the first one before or after a type was looked
up in it. -/
theorem checkSources_any_order_sample :
    Sample.bench.project.roots.length = 2 ∧
    ∃ (found : Path → List Violation) (bytes : Path → Bytes),
      ∀ ps : List Path, ps.Subperm Sample.bench.project.roots →
        ∃ b', outcome (ps.mapM fun p => checkSource p true) Sample.bench =
            (.ok (ps.map found), b') ∧
          ∀ p ∈ ps, ∃ s, b'.project.source? p = some s ∧ s.content = bytes p := by
  obtain ⟨hlength, hchecked⟩ := Sample.checked_bench
  exact ⟨hlength,
    checkSources_any_order true Sample.load_bench Sample.confines_bench hchecked⟩

end RouteLint
