import RouteLint.Proofs.Data.Attempts
import RouteLint.Proofs.Project.Site
import RouteLint.Proofs.Project.Steadiness

/-!
# Lookups do not look at staged edits

While edits are staged for a source, its bytes and its module stay as they are.  So two benches that
differ in the edits that are staged for one source, and in what has been told, answer alike, and
they go on differing in nothing else.  Together with the steadiness of lookups this means that a
handler is judged in the same way before and after other handlers have been dealt with.

Lookups never complain about edits either: whatever makes them fail, it is not an overlap.

## Main definitions

* `Bench.Shadows` — benches that differ in the edits staged for one source.
* `shadowing`, `editsApart` — work that does not look at them, and work that does not complain.

## Main results

* `Bench.Shadows.judge` — **a verdict does not depend on staged edits.**
* `judge_ne_overlap` — judging a handler never fails because of an overlap.
-/

namespace RouteLint

open Syntax Project

variable {s : Source} {es : List Edit} {b b' : Bench}

/-! ### Two benches side by side -/

/-- A bench at which some edits are staged for a source, beside one at which the source stands by
itself. -/
structure Bench.Shadows (s : Source) (es : List Edit) (b b' : Bench) : Prop where
  disk : b'.disk = b.disk
  home : b'.home = b.home
  parse : b'.project.parse = b.project.parse
  config : b'.project.config = b.project.config
  scopes : b'.project.scopes = b.project.scopes
  /-- The source by itself. -/
  source : b.project.source? s.path = some s
  /-- The source with edits. -/
  staged : b'.project.source? s.path = some { s with staged := es }
  others : ∀ p, p ≠ s.path → b'.project.source? p = b.project.source? p

theorem Bench.Shadows.refl (hs : b.project.source? s.path = some s) (hnone : s.staged = []) :
    b.Shadows s [] b :=
  ⟨rfl, rfl, rfl, rfl, rfl, hs, hs.trans (congrArg some (by rw [← hnone])), fun _ _ => rfl⟩

/-- Other edits may be staged instead, and anything may be told. -/
theorem Bench.Shadows.restage (h : b.Shadows s es b') {b₁ : Bench} {es' : List Edit}
    (hdisk : b₁.disk = b'.disk) (hhome : b₁.home = b'.home)
    (hproject : b₁.project = b'.project.putSource { s with staged := es' }) :
    b.Shadows s es' b₁ where
  disk := hdisk.trans h.disk
  home := hhome.trans h.home
  parse := by rw [hproject]; exact h.parse
  config := by rw [hproject]; exact h.config
  scopes := by rw [hproject]; exact h.scopes
  source := h.source
  staged := by rw [hproject]; exact source?_putSource_self _ _
  others p hp := by
    rw [hproject, ← h.others p hp]
    exact source?_putSource_of_ne _ fun heq => hp heq.symm

/-- Work that does not look at the edits staged for a source, beside computations that say nothing:
it has the same result at both of two benches, and leaves them side by side. -/
def shadowing (s : Source) (es : List Edit) : Coupling Work Mute where
  Maps _ x _ := ∀ b b' : Bench, b.Shadows s es b' →
    (outcome x b').1 = (outcome x b).1 ∧ (outcome x b).2.Shadows s es (outcome x b').2
  pure _ _ b b' h := ⟨rfl, h⟩
  bind := by
    intro α β γ δ ψ χ x y f g hx hf b b' h
    obtain ⟨hresult, hshadows⟩ := hx b b' h
    rw [outcome_bind, outcome_bind]
    revert hresult hshadows
    generalize outcome x b = o
    generalize outcome x b' = o'
    obtain ⟨r, c⟩ := o
    obtain ⟨r', c'⟩ := o'
    rintro rfl hshadows
    cases r' with
    | error err => exact ⟨rfl, hshadows⟩
    | ok a => exact hf a c c' hshadows

/-- Loading a source side by side: what is loaded differs at most in what is staged for it. -/
theorem Bench.Shadows.sourceAt (h : b.Shadows s es b') (p : Path) :
    (outcome (Project.sourceAt p) b).2.Shadows s es (outcome (Project.sourceAt p) b').2 ∧
    ((∃ err, (outcome (Project.sourceAt p) b).1 = .error err ∧
      (outcome (Project.sourceAt p) b').1 = .error err) ∨
    ∃ t t', (outcome (Project.sourceAt p) b).1 = .ok t ∧
      (outcome (Project.sourceAt p) b').1 = .ok t' ∧ t'.module = t.module ∧
      t'.revision = t.revision) := by
  have hdisk : readSource b'.project.parse b'.disk p = readSource b.project.parse b.disk p := by
    rw [h.parse, h.disk]
  rw [outcome_sourceAt, outcome_sourceAt, hdisk]
  by_cases hp : p = s.path
  · -- the source itself is there on both sides
    subst hp
    rw [h.source, h.staged]
    exact ⟨h, .inr ⟨_, _, rfl, rfl, rfl, rfl⟩⟩
  · rw [h.others p hp]
    cases b.project.source? p with
    | some t => exact ⟨h, .inr ⟨_, _, rfl, rfl, rfl, rfl⟩⟩
    | none =>
      dsimp only
      cases hread : readSource b.project.parse b.disk p with
      | error cause => exact ⟨h, .inl ⟨_, rfl, rfl⟩⟩
      | ok t =>
        have hne : t.path ≠ s.path := fun heq => hp ((readSource_path hread).symm.trans heq)
        refine ⟨⟨h.disk, h.home, h.parse, h.config, h.scopes, ?_, ?_, fun q hq => ?_⟩,
          .inr ⟨_, _, rfl, rfl, rfl, rfl⟩⟩
        · exact (source?_putSource_of_ne _ hne).trans h.source
        · exact (source?_putSource_of_ne _ hne).trans h.staged
        · show (b'.project.putSource t).source? q = (b.project.putSource t).source? q
          by_cases hq' : t.path = q
          · rw [← hq', source?_putSource_self, source?_putSource_self]
          · rw [source?_putSource_of_ne _ hq', source?_putSource_of_ne _ hq']
            exact h.others q hq

/-- Keeping a scope on both sides. -/
theorem Bench.Shadows.make (h : b.Shadows s es b') {t t' : Source} (hmodule : t'.module = t.module)
    (hrevision : t'.revision = t.revision) (p : Path) :
    (outcome (scopeOf.make p t') b').1 = (outcome (scopeOf.make p t) b).1 ∧
      (outcome (scopeOf.make p t) b).2.Shadows s es (outcome (scopeOf.make p t') b').2 := by
  have hscope : Scope.ofModule t'.module = Scope.ofModule t.module := by rw [hmodule]
  refine ⟨congrArg Except.ok hscope, { h with scopes := ?_ }⟩
  show b'.project.scopes.set p (t'.revision, Scope.ofModule t'.module) = _
  rw [h.scopes, hrevision, hscope]
  rfl

theorem shadowing_scopeOf (p : Path) :
    (shadowing s es).Maps Scope.view (scopeOf p) (() : Mute Scope) := by
  intro b b' h
  unfold scopeOf
  rw [outcome_get_bind, outcome_get_bind]
  dsimp only
  rw [h.home]
  generalize b.home.absolute p = place
  obtain ⟨hshadows, hresult⟩ := h.sourceAt place
  rw [outcome_bind, outcome_bind]
  revert hshadows hresult
  generalize outcome (Project.sourceAt place) b = o
  generalize outcome (Project.sourceAt place) b' = o'
  obtain ⟨r, c⟩ := o
  obtain ⟨r', c'⟩ := o'
  rintro hshadows (⟨err, rfl, rfl⟩ | ⟨t, t', rfl, rfl, hmodule, hrevision⟩)
  · exact ⟨rfl, hshadows⟩
  · dsimp only
    rw [outcome_get_bind, outcome_get_bind, hshadows.scopes]
    cases c.project.scopes.get? place with
    | none => exact hshadows.make hmodule hrevision place
    | some kept =>
      obtain ⟨revision, scope⟩ := kept
      dsimp only
      rw [hrevision]
      split
      · exact ⟨rfl, hshadows⟩
      · exact hshadows.make hmodule hrevision place

theorem shadowing_target (importer : Path) (specifier : String) :
    (shadowing s es).Maps id (target importer specifier) (() : Mute (Option Path)) := by
  intro b b' h
  unfold target
  rw [outcome_get_bind, outcome_get_bind, h.disk, Site.candidates_eq h.config]
  cases firstModule b.disk (b.project.candidates importer specifier) with
  | error err => exact ⟨rfl, h⟩
  | ok found =>
    cases found with
    | none => exact ⟨rfl, h⟩
    | some p =>
      dsimp only
      rw [outcome_map, outcome_map, outcome_fetch, outcome_fetch, h.home]
      obtain ⟨hshadows, hresult⟩ := h.sourceAt (b.home.absolute p)
      revert hshadows hresult
      generalize outcome (Project.sourceAt (b.home.absolute p)) b = o
      generalize outcome (Project.sourceAt (b.home.absolute p)) b' = o'
      obtain ⟨r, c⟩ := o
      obtain ⟨r', c'⟩ := o'
      rintro hshadows (⟨err, rfl, rfl⟩ | ⟨t, t', rfl, rfl, -⟩)
      · exact ⟨rfl, hshadows⟩
      · exact ⟨rfl, hshadows⟩

theorem shadowing_answers :
    (shadowing s es).Answers Project.graph ⟨fun _ => (), fun _ _ => ()⟩ :=
  ⟨shadowing_scopeOf, shadowing_target⟩

/-- **A verdict does not depend on staged edits.** -/
theorem Bench.Shadows.judge (h : b.Shadows s es b') (file : Path) (p : Parameter) :
    (outcome (judge Project.graph file p) b').1 = (outcome (judge Project.graph file p) b).1 ∧
      (outcome (judge Project.graph file p) b).2.Shadows s es
        (outcome (judge Project.graph file p) b').2 :=
  shadowing_answers.judge file p b b' h

/-- Nor does it depend on what has been looked up before. -/
theorem Bench.Tidy.yields_judge (hb : b.Tidy) (file : Path) (p : Parameter) :
    b.Yields (judge Project.graph file p) (outcome (judge Project.graph file p) b).1 :=
  .of_ensures (hb.shows.answers.judge file p)

/-! ### Failures -/

/-- Work that does not fail because of edits that overlap, beside computations that say nothing. -/
def editsApart : Coupling Work Mute where
  Maps _ x _ := ∀ b p, (outcome x b).1 ≠ .error (.overlap p)
  pure _ _ _ _ := nofun
  bind := by
    intro α β γ δ ψ χ x y f g hx hf b p
    have hxb := hx b p
    rw [outcome_bind]
    revert hxb
    generalize outcome x b = o
    obtain ⟨r, c⟩ := o
    intro hxb
    cases r with
    | error err =>
      intro h
      cases h
      exact hxb rfl
    | ok a => exact hf a c p

theorem sourceAt_ne_overlap (place : Path) (b : Bench) (p : Path) :
    (outcome (Project.sourceAt place) b).1 ≠ .error (.overlap p) := by
  rcases sourceAt_cases place b with ⟨t, -, hout⟩ | ⟨cause, -, -, hout⟩ | ⟨t, c, -, -, hout, -⟩ <;>
    (rw [hout]; nofun)

theorem withEndings_ne_overlap (q : Path) (endings : List String) (p : Path) :
    withEndings q endings ≠ .error (.overlap p) := by
  unfold withEndings
  split <;> nofun

theorem firstModule_ne_overlap (d : Disk) (qs : List Path) (p : Path) :
    firstModule d qs ≠ .error (.overlap p) := by
  induction qs with
  | nil => nofun
  | cons q qs ih =>
    have hexpansions : expansions q ≠ .error (.overlap p) := by
      unfold expansions
      have hrest : ∀ sources : List Path, (do
          let files ← withEndings q Language.moduleSuffixes
          return q :: sources ++ files ++ Language.indexFiles.map q.child) ≠
            .error (.overlap p) := fun sources =>
        except_bind_ne_error (withEndings_ne_overlap _ _ p) nofun
      dsimp only
      split
      · exact except_bind_ne_error (withEndings_ne_overlap _ _ p) hrest
      · exact hrest []
    rw [firstModule]
    refine except_bind_ne_error hexpansions fun paths => ?_
    split
    · nofun
    · exact ih

theorem editsApart_answers :
    editsApart.Answers Project.graph ⟨fun _ => (), fun _ _ => ()⟩ where
  scope path b p := by
    show (outcome (scopeOf path) b).1 ≠ _
    unfold scopeOf
    rw [outcome_get_bind]
    dsimp only
    generalize b.home.absolute path = place
    have hsource := sourceAt_ne_overlap place b p
    rw [outcome_bind]
    revert hsource
    generalize outcome (Project.sourceAt place) b = o
    obtain ⟨r, c⟩ := o
    intro hsource
    cases r with
    | error err =>
      intro h
      cases h
      exact hsource rfl
    | ok t =>
      dsimp only
      rw [outcome_get_bind]
      cases c.project.scopes.get? place with
      | none => nofun
      | some kept =>
        dsimp only
        split <;> nofun
  target importer specifier b p := by
    show (outcome (target importer specifier) b).1 ≠ _
    unfold target
    rw [outcome_get_bind]
    have hfirst := firstModule_ne_overlap b.disk (b.project.candidates importer specifier) p
    cases hmodule : firstModule b.disk (b.project.candidates importer specifier) with
    | error err =>
      rw [hmodule] at hfirst
      exact fun h => hfirst h
    | ok found =>
      cases found with
      | none => nofun
      | some q =>
        have hsource := sourceAt_ne_overlap (b.home.absolute q) b p
        dsimp only
        rw [outcome_map, fetch_result]
        intro h
        cases hresult : (outcome (Project.sourceAt (b.home.absolute q)) b).1 with
        | error err =>
          rw [hresult] at hsource h
          cases h
          exact hsource rfl
        | ok t =>
          rw [hresult] at h
          cases h

/-- Judging a handler never fails because of an overlap. -/
theorem judge_ne_overlap (file : Path) (context : Parameter) (b : Bench) (p : Path) :
    (outcome (judge Project.graph file context) b).1 ≠ .error (.overlap p) :=
  editsApart_answers.judge file context b p

end RouteLint
