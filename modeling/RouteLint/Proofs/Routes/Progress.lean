import Mathlib.Data.List.Basic
import RouteLint.Proofs.Project.Buffers
import RouteLint.Proofs.Routes.Verdicts

/-!
# How far a run has come

While a run goes from handler to handler, all that sets its bench apart from the disk are the
repairs that follow from the verdicts so far: staged ones in the source that is being checked, and
applied ones in the sources that have been.  This is the invariant of a run.  Each step keeps it:
looking something up, starting with a source, staging the repair of a verdict and applying what has
been staged.

## Main definitions

* `planned` — the edits of a source that follow from verdicts.
* `Site.Reached` — **the invariant of a run, by the verdicts so far.**
* `Site.Judged` — verdicts that come from a bench of the run.

## Main results

* `Site.Reached.grows` — lookups keep the invariant.
* `Site.Reached.settle` — settling a verdict adds it to the verdicts so far.
* `Site.Reached.checkSource` — **a source is checked handler by handler.**
* `Site.Reached.agrees` — typing sees no difference between the bench and the disk.
-/

namespace RouteLint

open Syntax Project

/-- Whether something told is that a handler was repaired. -/
def Event.isFixed : Event → Bool
  | .fixed _ _ => true
  | _ => false

/-- A source after edits. -/
def Source.edited (parse : Parser) (es : List Edit) (s : Source) : Source :=
  Source.apply parse { s with staged := es }

theorem Source.staged_nil {s : Source} (h : s.staged = []) : { s with staged := [] } = s := by
  cases s
  cases h
  rfl

theorem Source.edited_nil (parse : Parser) {s : Source} (h : s.staged = []) :
    s.edited parse [] = s := staged_nil h

theorem Source.edited_of_ne_nil (parse : Parser) {es : List Edit} (h : es ≠ []) (s : Source) :
    s.edited parse es =
      { s with
        content := Edit.applyAll es s.content
        module := parse s.language (Edit.applyAll es s.content)
        staged := []
        modified := true
        revision := s.revision + 1 } := by
  unfold edited apply
  rw [if_neg (by simpa using h)]

@[simp] theorem Source.edited_path (parse : Parser) (es : List Edit) (s : Source) :
    (s.edited parse es).path = s.path := by
  unfold edited apply
  split <;> rfl

/-! ### Planned edits -/

/-- The edits of the source at a path that follow from verdicts. -/
def planned (vs : List Verdict) (p : Path) : List Edit :=
  once ((vs.filter fun v => v.source.path = p).filterMap Verdict.repair?)

theorem mem_planned {vs : List Verdict} {p : Path} {edit : Edit} :
    edit ∈ planned vs p ↔ ∃ v ∈ vs, v.source.path = p ∧ v.repair? = some edit := by
  rw [planned, mem_once, List.mem_filterMap]
  simp only [List.mem_filter, decide_eq_true_eq, and_assoc]

theorem planned_append_of_ne {vs ws : List Verdict} {p : Path}
    (h : ∀ v ∈ ws, v.source.path ≠ p) : planned (vs ++ ws) p = planned vs p := by
  have hnone : (ws.filter fun v => v.source.path = p) = [] :=
    List.filter_eq_nil_iff.2 fun v hv hp => h v hv (of_decide_eq_true hp)
  rw [planned, List.filter_append, hnone, List.append_nil]
  rfl

theorem planned_append_none {vs : List Verdict} {v : Verdict} (h : v.repair? = none) (p : Path) :
    planned (vs ++ [v]) p = planned vs p := by
  by_cases hp : v.source.path = p
  · simp only [planned, List.filter_append, List.filter_cons, List.filter_nil, hp, decide_true,
      if_true, List.filterMap_append, List.filterMap_cons, h, List.filterMap_nil, List.append_nil]
  · exact planned_append_of_ne fun x hx => List.mem_singleton.1 hx ▸ hp

theorem planned_append_some {vs : List Verdict} {v : Verdict} {edit : Edit}
    (h : v.repair? = some edit) :
    planned (vs ++ [v]) v.source.path = putOnce (planned vs v.source.path) edit := by
  simp only [planned, List.filter_append, List.filter_cons, List.filter_nil, decide_true, if_true,
    List.filterMap_append, List.filterMap_cons, h, List.filterMap_nil]
  exact once_append_singleton _ _

/-! ### The invariant -/

/-- The source at a path as a run has it, made from the source on the disk: with its planned edits
staged, or with its planned edits applied. -/
def Site.current (e : Site) (staging : Option Path) (es : List Edit) (t : Source) : Source :=
  if staging = some t.path then { t with staged := es } else t.edited e.parse es

/-- The bench of a run with repairs when verdicts have been settled, and while the source at some
path is being checked. -/
structure Site.Reached (e : Site) (roots : List Path) (before : List Event) (staging : Option Path)
    (vs : List Verdict) (b : Bench) : Prop where
  disk : b.disk = e.disk
  home : b.home = e.home
  parse : b.project.parse = e.parse
  config : b.project.config = e.config
  roots_eq : b.project.roots = roots
  tidy : b.Tidy
  /-- The repairs that have been told are those of the verdicts. -/
  log : b.log.filter Event.isFixed = before ++ (vs.filter Verdict.isRepairable).map Verdict.event
  /-- Roots are plain paths, and loaded. -/
  loaded : ∀ p ∈ roots, p.Plain ∧ ∃ s, b.project.source? p = some s
  /-- Sources are those on the disk, with their planned edits. -/
  sources : ∀ {p s}, b.project.source? p = some s →
    ∃ t, e.source p = .ok t ∧ s = e.current staging (planned vs p) t
  /-- The verdicts are about handlers of the roots. -/
  about : ∀ v ∈ vs, v.source.path ∈ roots ∧ e.source v.source.path = .ok v.source ∧
    v.handler ∈ v.source.handlers
  /-- No planned edit overlaps another. -/
  accepted : ∀ p, (planned vs p).Pairwise fun a b => a ≠ b ∧ b.overlaps a = false

namespace Site

variable {e : Site} {roots : List Path} {before : List Event} {staging : Option Path}
variable {vs : List Verdict} {b b' : Bench}

theorem source_path {p : Path} {t : Source} (h : e.source p = .ok t) : t.path = p :=
  readSource_path (source_eq_ok.1 h)

theorem source_staged {p : Path} {t : Source} (h : e.source p = .ok t) : t.staged = [] := by
  obtain ⟨language, content, -, -, -, rfl⟩ := readSource_eq_ok.1 (source_eq_ok.1 h)
  rfl

theorem current_nil {p : Path} {t : Source} (h : e.source p = .ok t) (staging : Option Path) :
    e.current staging [] t = t := by
  unfold current
  split
  · exact Source.staged_nil (source_staged h)
  · exact Source.edited_nil _ (source_staged h)

/-- Planned edits come from the handlers of their source. -/
theorem Reached.plans (h : e.Reached roots before staging vs b) {p : Path} {t : Source}
    (ht : e.source p = .ok t) : t.Plans (planned vs p) where
  planned := by
    intro edit hedit
    obtain ⟨v, hv, rfl, hrepair⟩ := mem_planned.1 hedit
    obtain ⟨context, found, hcontext, -, hplan⟩ := Verdict.repair?_eq_some.1 hrepair
    obtain ⟨-, hsource, hhandler⟩ := h.about v hv
    rw [ht] at hsource
    cases hsource
    exact ⟨context, Source.mem_contexts hhandler hcontext, hplan⟩
  accepted := h.accepted p

theorem Reached.mem_roots (h : e.Reached roots before staging vs b) {p : Path}
    (hp : planned vs p ≠ []) : p ∈ roots := by
  obtain ⟨edit, hedit⟩ := List.exists_mem_of_ne_nil _ hp
  obtain ⟨v, hv, rfl, -⟩ := mem_planned.1 hedit
  exact (h.about v hv).1

/-- The source at a root. -/
theorem Reached.source?_root (h : e.Reached roots before staging vs b) {p : Path} (hp : p ∈ roots)
    {t : Source} (ht : e.source p = .ok t) :
    b.project.source? p = some (e.current staging (planned vs p) t) := by
  obtain ⟨-, s, hs⟩ := h.loaded p hp
  obtain ⟨t', ht', rfl⟩ := h.sources hs
  rw [ht] at ht'
  cases ht'
  exact hs

/-- **Lookups keep the invariant.** -/
theorem Reached.grows (h : e.Reached roots before staging vs b) (hb : b.Grows b') :
    e.Reached roots before staging vs b' where
  disk := hb.disk.trans h.disk
  home := hb.home.trans h.home
  parse := hb.parse.trans h.parse
  config := hb.config.trans h.config
  roots_eq := hb.roots.trans h.roots_eq
  tidy := hb.tidy h.tidy
  log := by
    obtain ⟨told, htold⟩ := hb.log
    have hnone : (told.map Event.malformed).filter Event.isFixed = [] := by
      refine List.filter_eq_nil_iff.2 fun x hx => ?_
      obtain ⟨path, -, rfl⟩ := List.mem_map.1 hx
      exact Bool.false_ne_true
    rw [htold, List.filter_append, hnone, List.append_nil]
    exact h.log
  loaded p hp := by
    obtain ⟨hplain, s, hs⟩ := h.loaded p hp
    exact ⟨hplain, s, hb.kept hs⟩
  sources {p s} hs := by
    cases hold : b.project.source? p with
    | some old =>
      have hkept := hb.kept hold
      rw [hs] at hkept
      cases hkept
      exact h.sources hold
    | none =>
      -- a new source is as on the disk, and no edits are planned for it
      rcases hb.fresh hs with hs' | hs'
      · rw [hold] at hs'
        cases hs'
      · rw [h.parse, h.disk] at hs'
        have hsource := source_eq_ok.2 hs'
        have hnil : planned vs p = [] := by
          by_contra hne
          obtain ⟨-, old, hold'⟩ := h.loaded p (h.mem_roots hne)
          rw [hold] at hold'
          cases hold'
        exact ⟨s, hsource, by rw [hnil, current_nil hsource]⟩
  about := h.about
  accepted := h.accepted

/-- Typing sees no difference between the bench of a run and the disk, if it sees none between a
source and what becomes of it by edits. -/
theorem Reached.agrees_of_view (h : e.Reached roots before staging vs b)
    (hview : ∀ p, planned vs p ≠ [] → ∀ t, e.source p = .ok t →
      (Scope.ofModule (e.parse t.language (Edit.applyAll (planned vs p) t.content))).view =
        (Scope.ofModule t.module).view) :
    e.Agrees b where
  disk := h.disk
  home := h.home
  parse := h.parse
  config := h.config
  tidy := h.tidy
  views {p s} hs := by
    obtain ⟨t, ht, rfl⟩ := h.sources hs
    refine ⟨t, ht, ?_⟩
    by_cases hnil : planned vs p = []
    · rw [hnil, current_nil ht]
    · unfold current
      split
      · rfl
      · rw [Source.edited_of_ne_nil _ hnil]
        exact hview p hnil t ht

/-- Typing sees no difference between the bench of a run and the disk, if edited sources are read
as expected. -/
theorem Reached.agrees (h : e.Reached roots before staging vs b)
    (hparse : ∀ p, planned vs p ≠ [] → ∀ t, e.source p = .ok t → t.Rewraps e.parse) :
    e.Agrees b :=
  h.agrees_of_view fun p hne t ht => (hparse p hne t ht).view (h.plans ht) rfl

/-- The bench of a run that has settled nothing. -/
theorem Reached.agrees_of_nil (h : e.Reached roots before staging [] b) : e.Agrees b :=
  h.agrees fun _ hne => absurd rfl hne

/-! ### Steps -/

theorem current_path (e : Site) (staging : Option Path) (es : List Edit) (t : Source) :
    (e.current staging es t).path = t.path := by
  unfold current
  split
  · rfl
  · exact Source.edited_path _ _ _

/-- Putting a source of a run in place of another. -/
theorem Reached.put (h : e.Reached roots before staging vs b) {t : Source}
    (ht : e.source t.path = .ok t) {staging' : Option Path} {vs' : List Verdict}
    (hproject : b'.project =
      b.project.putSource (e.current staging' (planned vs' t.path) t))
    (hdisk : b'.disk = b.disk) (hhome : b'.home = b.home)
    (hlog : b'.log.filter Event.isFixed =
      before ++ (vs'.filter Verdict.isRepairable).map Verdict.event)
    (hother : ∀ p, p ≠ t.path → planned vs' p = planned vs p ∧
      (staging' = some p ↔ staging = some p))
    (habout : ∀ v ∈ vs', v.source.path ∈ roots ∧ e.source v.source.path = .ok v.source ∧
      v.handler ∈ v.source.handlers)
    (haccepted : (planned vs' t.path).Pairwise
      fun a b => a ≠ b ∧ b.overlaps a = false)
    (hnewer : ∀ old, b.project.source? t.path = some old →
      old.revision < (e.current staging' (planned vs' t.path) t).revision ∨
      old.revision = (e.current staging' (planned vs' t.path) t).revision ∧
      old.module = (e.current staging' (planned vs' t.path) t).module) :
    e.Reached roots before staging' vs' b' := by
  have hpath := current_path e staging' (planned vs' t.path) t
  have hself : b'.project.source? t.path =
      some (e.current staging' (planned vs' t.path) t) := by
    have hput := source?_putSource_self b.project
      (e.current staging' (planned vs' t.path) t)
    rw [hpath] at hput
    rw [hproject, hput]
  have hne : ∀ {p}, p ≠ t.path → b'.project.source? p = b.project.source? p := by
    intro p hp
    rw [hproject]
    exact source?_putSource_of_ne _ (by rw [hpath]; exact fun hp' => hp hp'.symm)
  refine ⟨hdisk.trans h.disk, hhome.trans h.home, ?_, ?_, ?_, ?_, hlog, ?_, ?_, habout, ?_⟩
  · rw [hproject]
    exact h.parse
  · rw [hproject]
    exact h.config
  · rw [hproject]
    exact h.roots_eq
  · refine h.tidy.put hproject fun old hold => ?_
    rw [hpath] at hold
    exact hnewer old hold
  · intro p hp
    obtain ⟨hplain, s, hs⟩ := h.loaded p hp
    by_cases hpt : p = t.path
    · subst hpt
      exact ⟨hplain, _, hself⟩
    · exact ⟨hplain, s, by rw [hne hpt, hs]⟩
  · intro p s hs
    by_cases hpt : p = t.path
    · subst hpt
      rw [hself] at hs
      cases hs
      exact ⟨t, ht, rfl⟩
    · rw [hne hpt] at hs
      obtain ⟨t', ht', rfl⟩ := h.sources hs
      refine ⟨t', ht', ?_⟩
      have hpath' := source_path ht'
      unfold current
      rw [hpath', (hother p hpt).1]
      simp only [(hother p hpt).2]
  · intro p
    by_cases hpt : p = t.path
    · subst hpt
      exact haccepted
    · rw [(hother p hpt).1]
      exact h.accepted p

/-- A source for which nothing is planned can be started with. -/
theorem Reached.start (h : e.Reached roots before none vs b) {r : Path}
    (hr : planned vs r = []) : e.Reached roots before (some r) vs b :=
  { h with
    sources := by
      intro p s hs
      obtain ⟨t, ht, rfl⟩ := h.sources hs
      refine ⟨t, ht, ?_⟩
      have hpath := source_path ht
      by_cases hp : r = p
      · subst hp
        rw [hr, current_nil ht, current_nil ht]
      · unfold current
        rw [if_neg (by simp), if_neg (by simpa [hpath] using hp)] }

/-- Applying what has been staged for a source. -/
theorem Reached.apply {t : Source} (h : e.Reached roots before (some t.path) vs b)
    (ht : e.source t.path = .ok t) (hr : t.path ∈ roots) :
    ∃ n b', outcome (Project.apply t.path) b = (.ok n, b') ∧ e.Reached roots before none vs b' := by
  have hs := h.source?_root hr ht
  rw [current, if_pos rfl] at hs
  have hcurrent : e.current none (planned vs t.path) t =
      t.edited e.parse (planned vs t.path) := if_neg (by simp)
  refine ⟨_, _, outcome_apply hs, h.put ht ?_ rfl rfl h.log ?_ h.about (h.accepted _) ?_⟩
  · rw [hcurrent, ← h.parse]
    rfl
  · intro p hp
    exact ⟨rfl, by simpa using fun heq : t.path = p => hp heq.symm⟩
  · intro old hold
    rw [hs] at hold
    cases hold
    rw [hcurrent]
    by_cases hnil : planned vs t.path = []
    · rw [hnil, Source.edited_nil _ (source_staged ht)]
      exact .inr ⟨rfl, rfl⟩
    · rw [Source.edited_of_ne_nil _ hnil]
      exact .inl (Nat.lt_succ_self _)

/-- A verdict on a handler of a root, put to those so far. -/
theorem Reached.about_append (h : e.Reached roots before staging vs b) {v : Verdict}
    (hr : v.source.path ∈ roots) (hv : e.source v.source.path = .ok v.source)
    (hh : v.handler ∈ v.source.handlers) :
    ∀ x ∈ vs ++ [v], x.source.path ∈ roots ∧ e.source x.source.path = .ok x.source ∧
      x.handler ∈ x.source.handlers := by
  intro x hx
  rcases List.mem_append.1 hx with hx | hx
  · exact h.about x hx
  · rw [List.mem_singleton.1 hx]
    exact ⟨hr, hv, hh⟩

/-- Reporting a verdict. -/
theorem Reached.report {v : Verdict} (h : e.Reached roots before staging vs b)
    (hv : e.source v.source.path = .ok v.source) (hr : v.source.path ∈ roots)
    (hstaging : staging = some v.source.path ∨ planned vs v.source.path = []) :
    outcome v.report b = (.ok v.violation?, b) := by
  have hs := h.source?_root hr hv
  -- a source that is being checked differs from the one on the disk in what is staged only
  have hsame : ∀ p text, violationOf (e.current staging (planned vs v.source.path) v.source)
      v.handler p text = violationOf v.source v.handler p text := by
    intro p text
    rcases hstaging with hstaging | hnil
    · rw [current, if_pos hstaging]
      rfl
    · rw [hnil, current_nil hv]
  unfold Verdict.report Verdict.violation?
  cases v.handler.context? with
  | none => rfl
  | some p =>
    cases v.found with
    | none => rfl
    | some text =>
      dsimp only
      rw [outcome_get_bind, hs, Option.map_some, hsame]
      rfl

/-- **Settling a verdict adds it to the verdicts so far.** -/
theorem Reached.settle {v : Verdict} (h : e.Reached roots before (some v.source.path) vs b)
    (hv : e.source v.source.path = .ok v.source) (hr : v.source.path ∈ roots)
    (hh : v.handler ∈ v.source.handlers) {x : Option Violation}
    (hout : outcome (settle true v) b = (.ok x, b')) :
    x = v.remaining? ∧ e.Reached roots before (some v.source.path) (vs ++ [v]) b' := by
  have habout := h.about_append hr hv hh
  cases hrepair : v.repair? with
  | none =>
    have hno := Verdict.isRepairable_of_none hrepair
    have hplanned : ∀ p, planned (vs ++ [v]) p = planned vs p := planned_append_none hrepair
    unfold RouteLint.settle at hout
    rw [hrepair, h.report hv hr (.inl rfl)] at hout
    cases hout
    refine ⟨by rw [Verdict.remaining?, hno]; rfl, ?_⟩
    refine { h with log := ?_, sources := ?_, about := habout, accepted := ?_ }
    · rw [List.filter_append, List.filter_cons, hno]
      simpa using h.log
    · intro p s hs
      rw [hplanned]
      exact h.sources hs
    · intro p
      rw [hplanned]
      exact h.accepted p
  | some edit =>
    have hyes := Verdict.isRepairable_of_some hrepair
    have hs := h.source?_root hr hv
    rw [current, if_pos rfl] at hs
    have hout' : outcome (do
        Project.stage v.source.path edit
        tell v.event
        return none : Work (Option Violation)) b = (.ok x, b') := by
      unfold RouteLint.settle at hout
      rw [hrepair] at hout
      exact hout
    rcases stage_cases edit hs with ⟨haccept, hstage⟩ | ⟨-, err, hstage⟩
    · rw [outcome_bind_ok hstage, outcome_tell_bind] at hout'
      cases hout'
      refine ⟨by rw [Verdict.remaining?, hyes]; rfl, ?_⟩
      refine h.put hv ?_ rfl rfl ?_ ?_ habout ?_ ?_
      · rw [current, if_pos rfl, planned_append_some hrepair]
      · show (b.log ++ [v.event]).filter Event.isFixed = _
        rw [List.filter_append, h.log, List.filter_append vs, List.map_append, List.append_assoc,
          List.filter_cons_of_pos hyes]
        rfl
      · intro p hp
        refine ⟨planned_append_of_ne fun x hx => ?_, Iff.rfl⟩
        rw [List.mem_singleton.1 hx]
        exact fun heq => hp heq.symm
      · rw [planned_append_some hrepair]
        exact accepted_putOnce (h.accepted _) haccept
      · intro old hold
        rw [hs] at hold
        cases hold
        rw [current, if_pos rfl]
        exact .inr ⟨rfl, rfl⟩
    · rw [outcome_bind_error hstage] at hout'
      cases hout'

/-! ### Loops -/

/-- A verdict that was given at some bench of the run. -/
def Judged (e : Site) (roots : List Path) (before : List Event) (v : Verdict) : Prop :=
  ∃ staging vs b, e.Reached roots before staging vs b ∧
    (outcome (verdict Project.graph v.source v.handler) b).1 = .ok v

/-- Checking a handler of the source at hand. -/
theorem Reached.checkHandler {t : Source} (h : e.Reached roots before (some t.path) vs b)
    (ht : e.source t.path = .ok t) (hr : t.path ∈ roots) {x : Handler} (hx : x ∈ t.handlers)
    {y : Option Violation} (hout : outcome (checkHandler t.path true x) b = (.ok y, b')) :
    ∃ v, v.source = t ∧ v.handler = x ∧ e.Judged roots before v ∧ y = v.remaining? ∧
      e.Reached roots before (some t.path) (vs ++ [v]) b' := by
  rw [checkHandler_eq] at hout
  obtain ⟨v, b₁, hverdict, hsettle⟩ := outcome_bind_eq_ok hout
  have hv : (outcome (verdict Project.graph t x) b).1 = .ok v := by rw [hverdict]
  have hgrows := verdict_grows t x b
  rw [hverdict] at hgrows
  obtain ⟨rfl, rfl⟩ := verdict_handler hv
  obtain ⟨hy, hreached⟩ := (h.grows hgrows).settle ht hr hx hsettle
  exact ⟨v, rfl, rfl, ⟨_, _, b, h, hv⟩, hy, hreached⟩

/-- Checking handlers of the source at hand, one after the other. -/
theorem Reached.checkHandlers {t : Source} (ht : e.source t.path = .ok t) (hr : t.path ∈ roots)
    {xs : List Handler} (hxs : ∀ x ∈ xs, x ∈ t.handlers) {ys : List (Option Violation)}
    (h : e.Reached roots before (some t.path) vs b)
    (hout : outcome (xs.mapM (RouteLint.checkHandler t.path true)) b = (.ok ys, b')) :
    ∃ ws : List Verdict, ws.map (fun v => (v.source, v.handler)) = xs.map (fun x => (t, x)) ∧
      (∀ v ∈ ws, e.Judged roots before v) ∧ ys = ws.map Verdict.remaining? ∧
      e.Reached roots before (some t.path) (vs ++ ws) b' := by
  induction xs generalizing vs b ys with
  | nil =>
    cases hout
    exact ⟨[], rfl, fun v hv => absurd hv List.not_mem_nil, rfl, by rwa [List.append_nil]⟩
  | cons x xs ih =>
    rw [List.mapM_cons] at hout
    obtain ⟨y, b₁, hfirst, hrest⟩ := outcome_bind_eq_ok hout
    obtain ⟨ys', b₂, hothers, hreturn⟩ := outcome_bind_eq_ok hrest
    cases hreturn
    obtain ⟨v, hsource, hhandler, hjudged, rfl, hreached⟩ :=
      h.checkHandler ht hr (hxs x List.mem_cons_self) hfirst
    obtain ⟨ws, hws, hall, rfl, hreached'⟩ :=
      ih (fun x' hx' => hxs x' (List.mem_cons_of_mem _ hx')) hreached hothers
    refine ⟨v :: ws, ?_, ?_, rfl, ?_⟩
    · rw [List.map_cons, List.map_cons, hws, hsource, hhandler]
    · intro v' hv'
      rcases List.mem_cons.1 hv' with rfl | hv'
      · exact hjudged
      · exact hall v' hv'
    · rwa [List.append_assoc] at hreached'

/-- The scope of a root for which nothing is planned. -/
theorem Reached.scopeOf {t : Source} (h : e.Reached roots before staging vs b)
    (ht : e.source t.path = .ok t) (hr : t.path ∈ roots) (hnil : planned vs t.path = []) :
    (outcome (scopeOf t.path) b).1 = .ok (Scope.ofModule t.module) := by
  have hs := h.source?_root hr ht
  rw [hnil, current_nil ht] at hs
  rw [scopeOf_result h.tidy, Path.absolute_of_plain (h.loaded _ hr).1, outcome_sourceAt, hs]
  rfl

/-- **A source is checked handler by handler.** -/
theorem Reached.checkSource {t : Source} (h : e.Reached roots before none vs b)
    (ht : e.source t.path = .ok t) (hr : t.path ∈ roots) (hnil : planned vs t.path = [])
    {ys : List Violation} (hout : outcome (checkSource t.path true) b = (.ok ys, b')) :
    ∃ ws : List Verdict, ws.map (fun v => (v.source, v.handler)) = t.trials ∧
      (∀ v ∈ ws, e.Judged roots before v) ∧ ys = ws.filterMap Verdict.remaining? ∧
      e.Reached roots before none (vs ++ ws) b' := by
  obtain ⟨scope, b₁, hscope, hrest⟩ := outcome_bind_eq_ok hout
  obtain ⟨xs, b₂, hhandlers, hrest'⟩ := outcome_bind_eq_ok hrest
  obtain ⟨n, b₃, happly, hreturn⟩ := outcome_bind_eq_ok hrest'
  cases hreturn
  have hscope' := h.scopeOf ht hr hnil
  have hgrows := scopeOf_grows t.path b
  rw [hscope] at hscope' hgrows
  cases hscope'
  obtain ⟨ws, hws, hall, rfl, hreached⟩ :=
    ((h.grows hgrows).start hnil).checkHandlers ht hr (fun _ hx => hx) hhandlers
  obtain ⟨n', b₃', happly', hreached'⟩ := hreached.apply ht hr
  rw [outcome_discard, happly'] at happly
  cases happly
  refine ⟨ws, hws, hall, ?_, hreached'⟩
  rw [List.filterMap_map]
  rfl

/-- **Sources are checked one after the other.** -/
theorem Reached.checkSources {ts : List Source} (h : e.Reached roots before none vs b)
    (hts : ∀ t ∈ ts, e.source t.path = .ok t ∧ t.path ∈ roots)
    (hnodup : (ts.map Source.path).Nodup) (hnil : ∀ t ∈ ts, planned vs t.path = [])
    {yss : List (List Violation)}
    (hout : outcome ((ts.map Source.path).mapM fun p => RouteLint.checkSource p true) b =
      (.ok yss, b')) :
    ∃ ws : List Verdict, ws.map (fun v => (v.source, v.handler)) = ts.flatMap Source.trials ∧
      (∀ v ∈ ws, e.Judged roots before v) ∧ yss.flatten = ws.filterMap Verdict.remaining? ∧
      e.Reached roots before none (vs ++ ws) b' := by
  induction ts generalizing vs b yss with
  | nil =>
    cases hout
    exact ⟨[], rfl, fun v hv => absurd hv List.not_mem_nil, rfl, by rwa [List.append_nil]⟩
  | cons t ts ih =>
    rw [List.map_cons, List.mapM_cons] at hout
    obtain ⟨ys, b₁, hfirst, hrest⟩ := outcome_bind_eq_ok hout
    obtain ⟨yss', b₂, hothers, hreturn⟩ := outcome_bind_eq_ok hrest
    cases hreturn
    rw [List.map_cons, List.nodup_cons] at hnodup
    obtain ⟨ht, hr⟩ := hts t List.mem_cons_self
    obtain ⟨ws, hws, hall, rfl, hreached⟩ :=
      h.checkSource ht hr (hnil t List.mem_cons_self) hfirst
    -- what was planned just now is planned for another source
    have hsource : ∀ v ∈ ws, v.source = t := by
      intro v hv
      have hmem := List.mem_map_of_mem (f := fun v : Verdict => (v.source, v.handler)) hv
      rw [hws] at hmem
      obtain ⟨x, -, hx⟩ := List.mem_map.1 hmem
      exact (congrArg Prod.fst hx).symm
    have hnil' : ∀ t' ∈ ts, planned (vs ++ ws) t'.path = [] := by
      intro t' ht'
      rw [planned_append_of_ne fun v hv => ?_]
      · exact hnil t' (List.mem_cons_of_mem _ ht')
      · rw [hsource v hv]
        exact fun heq => hnodup.1 (heq ▸ List.mem_map_of_mem ht')
    obtain ⟨ws', hws', hall', hflat, hreached'⟩ :=
      ih hreached (fun t' ht' => hts t' (List.mem_cons_of_mem _ ht')) hnodup.2 hnil' hothers
    refine ⟨ws ++ ws', ?_, ?_, ?_, ?_⟩
    · rw [List.map_append, hws, hws', List.flatMap_cons]
    · intro v hv
      rcases List.mem_append.1 hv with hv | hv
      · exact hall v hv
      · exact hall' v hv
    · rw [List.flatten_cons, hflat, List.filterMap_append]
    · rwa [List.append_assoc] at hreached'

end Site

end RouteLint
