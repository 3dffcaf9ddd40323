import RouteLint.Proofs.Project.Growth

/-!
# What lookups answer is on the disk

A site is all that a lookup depends on: how files are read, the disk, the current directory and the
type configuration.  It answers what typing asks without a project that changes: the scope of a
file is that of the file on the disk.  A bench agrees with a site as long as typing cannot tell its
sources from those on the disk, be they edited or not; then judging a handler at the bench comes
out as it does at the site.

## Main definitions

* `Site`, `Site.graph` — the modules of a disk, as typing sees them.
* `Site.Agrees` — benches that typing cannot tell from the site.
* `Site.agreement` — work whose result is that of a computation at the site.

## Main results

* `Site.judge_of_agrees` — **a verdict at a bench is the verdict at the site.**
-/

namespace RouteLint

open Syntax Project

/-- What lookups depend on. -/
structure Site where
  /-- How files are read. -/
  parse : Parser
  /-- The disk. -/
  disk : Disk
  /-- The current directory. -/
  home : Path
  /-- The type configuration. -/
  config : Option TypeConfig

namespace Site

variable (e : Site)

/-- The source at an absolute path. -/
def source (p : Path) : Except Project.Error Source :=
  (readSource e.parse e.disk p).mapError (.unloadable p)

/-- The file an import leads to. -/
def target (importer : Path) (specifier : String) : Except Project.Error (Option Path) :=
  match firstModule e.disk
    ((Project.empty e.parse e.home e.config).candidates importer specifier) with
  | .error err => .error err
  | .ok none => .ok none
  | .ok (some p) => (e.source (e.home.absolute p)).map fun _ => some (e.home.absolute p)

/-- The modules of the disk, as typing sees them. -/
def graph : ModuleGraph (Except Project.Error) where
  scope p := (e.source (e.home.absolute p)).map fun s => Scope.ofModule s.module
  target := e.target

/-- The same modules, with no more of their scopes than typing looks at. -/
def viewGraph : ModuleGraph (Except Project.Error) where
  scope p := (e.source (e.home.absolute p)).map fun s => (Scope.ofModule s.module).view
  target := e.target

variable {e}

theorem source_eq_ok {p : Path} {s : Source} :
    e.source p = .ok s ↔ readSource e.parse e.disk p = .ok s := by
  unfold source
  cases readSource e.parse e.disk p <;> simp [Except.mapError]

theorem source_eq_error {p : Path} {cause : LoadCause}
    (h : readSource e.parse e.disk p = .error cause) :
    e.source p = .error (.unloadable p cause) := by
  unfold source
  rw [h]
  rfl

variable (e)

/-! ### Agreement -/

/-- A bench whose sources typing cannot tell from those on the disk of the site. -/
structure Agrees (b : Bench) : Prop where
  disk : b.disk = e.disk
  home : b.home = e.home
  parse : b.project.parse = e.parse
  config : b.project.config = e.config
  tidy : b.Tidy
  /-- Typing sees what it sees on the disk. -/
  views : ∀ {p s}, b.project.source? p = some s → ∃ t, e.source p = .ok t ∧
    (Scope.ofModule s.module).view = (Scope.ofModule t.module).view

variable {e}

theorem Agrees.grows {b b' : Bench} (h : e.Agrees b) (hb : b.Grows b') : e.Agrees b' where
  disk := hb.disk.trans h.disk
  home := hb.home.trans h.home
  parse := hb.parse.trans h.parse
  config := hb.config.trans h.config
  tidy := hb.tidy h.tidy
  views hs := by
    rcases hb.fresh hs with hs | hs
    · exact h.views hs
    · rw [h.parse, h.disk] at hs
      exact ⟨_, source_eq_ok.2 hs, rfl⟩

/-- Work that lets benches with a property grow and whose result there, up to a map, is that of a
computation at a site. -/
def agreement (P : Bench → Prop) (hP : ∀ {b b'}, P b → b.Grows b' → P b') :
    Coupling Work (Except Project.Error) where
  Maps ψ x y := ∀ b, P b → y = (outcome x b).1.map ψ ∧ b.Grows (outcome x b).2
  pure ψ a b _ := ⟨rfl, .refl b⟩
  bind := by
    intro α β γ δ ψ χ x y f g hx hf b hb
    obtain ⟨hy, hgrows⟩ := hx b hb
    rw [outcome_bind]
    cases h : outcome x b with
    | mk r b' =>
      rw [h] at hy hgrows
      cases r with
      | error err => exact ⟨by rw [hy]; rfl, hgrows⟩
      | ok a =>
        obtain ⟨hg, hgrows'⟩ := hf a b' (hP hb hgrows)
        refine ⟨?_, hgrows.trans hgrows'⟩
        rw [hy]
        exact hg

/-- Computations that may fail, with results that a map makes from each other. -/
def mapped (ε : Type) : Coupling (Except ε) (Except ε) where
  Maps ψ x y := y = x.map ψ
  pure _ _ := rfl
  bind := by
    intro α β γ δ ψ χ x y f g hx hf
    rw [hx]
    cases x with
    | error err => rfl
    | ok a => exact hf a

/-- Loading a source at a bench that agrees with a site fails as it does at the site, and gives a
source that typing cannot tell from the one there. -/
theorem Agrees.sourceAt {b : Bench} (h : e.Agrees b) (p : Path) :
    (∃ s t b', outcome (sourceAt p) b = (.ok s, b') ∧ e.source p = .ok t ∧
      (Scope.ofModule s.module).view = (Scope.ofModule t.module).view) ∨
    (∃ err b', outcome (sourceAt p) b = (.error err, b') ∧ e.source p = .error err) := by
  rcases sourceAt_cases p b with ⟨s, hs, hout⟩ | ⟨cause, -, hr, hout⟩ | ⟨s, b', -, hr, hout, -⟩
  · obtain ⟨t, ht, hview⟩ := h.views hs
    exact .inl ⟨s, t, b, hout, ht, hview⟩
  · rw [h.parse, h.disk] at hr
    exact .inr ⟨_, b, hout, source_eq_error hr⟩
  · rw [h.parse, h.disk] at hr
    exact .inl ⟨s, s, b', hout, source_eq_ok.2 hr, rfl⟩

theorem Agrees.scopeOf {b : Bench} (h : e.Agrees b) (p : Path) :
    e.viewGraph.scope p = (outcome (scopeOf p) b).1.map Scope.view := by
  rw [scopeOf_result h.tidy, h.home]
  rcases h.sourceAt (e.home.absolute p) with ⟨s, t, b', hout, ht, hview⟩ | ⟨err, b', hout, herr⟩
  · rw [hout, viewGraph]
    dsimp only
    rw [ht]
    exact congrArg Except.ok hview.symm
  · rw [hout, viewGraph]
    dsimp only
    rw [herr]
    rfl

theorem candidates_eq {p q : Project} (h : p.config = q.config) (importer : Path)
    (specifier : String) : p.candidates importer specifier = q.candidates importer specifier := by
  unfold candidates
  rw [h]

theorem Agrees.target {b : Bench} (h : e.Agrees b) (importer : Path) (specifier : String) :
    e.target importer specifier = (outcome (Project.target importer specifier) b).1 := by
  unfold Site.target Project.target
  rw [outcome_get_bind, h.disk,
    candidates_eq (q := .empty e.parse e.home e.config) h.config importer specifier]
  cases firstModule e.disk
    ((Project.empty e.parse e.home e.config).candidates importer specifier) with
  | error err => rfl
  | ok found =>
    cases found with
    | none => rfl
    | some q =>
      dsimp only
      rw [outcome_map, outcome_fetch, h.home]
      rcases h.sourceAt (e.home.absolute q) with ⟨s, t, b', hout, ht, -⟩ | ⟨err, b', hout, herr⟩
      · rw [hout, ht]
        rfl
      · rw [hout, herr]
        rfl

/-- The modules of a project and those of its site answer alike at benches that agree. -/
theorem agreement_answers {P : Bench → Prop} (hP : ∀ {b b'}, P b → b.Grows b' → P b')
    (h : ∀ {b}, P b → e.Agrees b) : (agreement P hP).Answers Project.graph e.viewGraph where
  scope p b hb := ⟨(h hb).scopeOf p, scopeOf_grows p b⟩
  target importer specifier b hb :=
    ⟨((h hb).target importer specifier).trans (congrFun Except.map_id _).symm,
      target_grows importer specifier b⟩

theorem graph_answers : (mapped Project.Error).Answers e.graph e.viewGraph where
  scope p := by
    show e.viewGraph.scope p = (e.graph.scope p).map Scope.view
    unfold viewGraph graph
    dsimp only
    cases e.source (e.home.absolute p) <;> rfl
  target importer specifier := by
    show e.target importer specifier = (e.target importer specifier).map id
    cases e.target importer specifier <;> rfl

/-- Judging a parameter, seen through views. -/
theorem judge_viewGraph (e : Site) (file : Path) (p : Parameter) :
    judge e.viewGraph file p.bare = judge e.graph file p := by
  have hview : judge e.viewGraph file p.bare = (judge e.graph file p).map id :=
    (graph_answers (e := e)).judge file p
  rw [hview, Except.map_id, id_eq]

/-- A verdict at a bench is the verdict at the site. -/
theorem judge_of_agrees {b : Bench} (h : e.Agrees b) (file : Path) (p : Parameter) :
    (outcome (judge Project.graph file p) b).1 = judge e.graph file p := by
  have hbench := ((agreement_answers Agrees.grows id).judge file p b h).1
  rw [judge_viewGraph, Except.map_id, id_eq] at hbench
  exact hbench.symm

end Site

end RouteLint
