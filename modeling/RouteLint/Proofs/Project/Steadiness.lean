import RouteLint.Proofs.Project.Growth
import RouteLint.Proofs.Typing.PropertyTables

/-!
# Lookups are steady

What is looked up in a project does not change by other lookups: however much a bench has grown, the
same files are loaded, the same scopes are made of them, and imports lead to the same targets.  So
whatever is worked out from lookups has one result, at a bench and at all benches that grow from it,
and it can be said once and for all what names stand for.

## Main definitions

* `Bench.Yields` — the result of work at a bench and at all benches that grow from it.
* `Bench.steady` — having one such result, and what is known about it.
* `Bench.Sees` — what a name in a file stands for.

## Main results

* `Bench.Tidy.shows` — **lookups show what names stand for.**
-/

namespace RouteLint

open Syntax Project

variable {α β : Type} {b b' : Bench}

/-! ### Work with one result -/

/-- Work has a result at a bench and at all benches that grow from it, and lets them grow further. -/
def Bench.Yields (b : Bench) (x : Work α) (r : Except Project.Error α) : Prop :=
  ∀ b' : Bench, b.Grows b' → (outcome x b').1 = r ∧ b'.Grows (outcome x b').2

namespace Bench.Yields

variable {x : Work α} {f : α → Work β}

theorem pure (a : α) : b.Yields (pure a : Work α) (.ok a) := fun b' _ => ⟨rfl, .refl b'⟩

theorem bind {a : α} {r : Except Project.Error β} (hx : b.Yields x (.ok a))
    (hf : b.Yields (f a) r) : b.Yields (x >>= f) r := by
  intro b' hb
  obtain ⟨hok, hgrows⟩ := hx b' hb
  rw [outcome_bind_ok (Prod.ext hok rfl)]
  obtain ⟨hr, hgrows'⟩ := hf _ (hb.trans hgrows)
  exact ⟨hr, hgrows.trans hgrows'⟩

theorem bind_error {e : Project.Error} (hx : b.Yields x (.error e)) :
    b.Yields (x >>= f) (.error e) := by
  intro b' hb
  obtain ⟨herror, hgrows⟩ := hx b' hb
  rw [outcome_bind_error (Prod.ext herror rfl)]
  exact ⟨rfl, hgrows⟩

/-- The result is the one at the bench itself. -/
theorem eq {r : Except Project.Error α} (h : b.Yields x r) : r = (outcome x b).1 :=
  (h b (.refl b)).1.symm

/-- Work that follows other work, with the results of both. -/
theorem andThen {r : Except Project.Error α} {s : α → Except Project.Error β} (hx : b.Yields x r)
    (hf : ∀ a, b.Yields (f a) (s a)) : b.Yields (x >>= f) (r >>= s) := by
  cases r with
  | error err => exact hx.bind_error
  | ok a => exact hx.bind (hf a)

theorem mapM {ι : Type} {f : ι → Work α} {g : ι → Except Project.Error α}
    (h : ∀ i, b.Yields (f i) (g i)) (l : List ι) : b.Yields (l.mapM f) (l.mapM g) := by
  induction l with
  | nil =>
    rw [List.mapM_nil, List.mapM_nil]
    exact .pure []
  | cons i l ih =>
    rw [List.mapM_cons, List.mapM_cons]
    exact (h i).andThen fun a => ih.andThen fun as => .pure (a :: as)

end Bench.Yields

/-- Having one result at a bench and all benches that grow from it, with a property that it has
unless it is an error. -/
def Bench.steady (b : Bench) : Assurance Work where
  Ensures x P := ∃ r, b.Yields x r ∧ ∀ a, r = .ok a → P a
  pure {_ _ a} ha := ⟨.ok a, .pure a, fun _ h => by cases h; exact ha⟩
  bind hx hf := by
    obtain ⟨r, hr, hP⟩ := hx
    cases r with
    | error e => exact ⟨.error e, hr.bind_error, nofun⟩
    | ok a =>
      obtain ⟨s, hs, hQ⟩ := hf a (hP a rfl)
      exact ⟨s, hr.bind hs, hQ⟩

/-- Work that is certain to have a property has one result. -/
theorem Bench.Yields.of_ensures {P : α → Prop} {x : Work α} (h : b.steady.Ensures x P) :
    b.Yields x (outcome x b).1 := by
  obtain ⟨r, hr, -⟩ := h
  exact hr.eq ▸ hr

/-! ### Lookups -/

theorem sourceAt_result (place : Path) (b : Bench) :
    (outcome (sourceAt place) b).1 =
      match b.project.source? place with
      | some s => .ok s
      | none => (readSource b.project.parse b.disk place).mapError (.unloadable place) := by
  rw [outcome_sourceAt]
  cases b.project.source? place with
  | some s => rfl
  | none => cases readSource b.project.parse b.disk place <;> rfl

/-- A source that is loaded later is the one that would be loaded now. -/
theorem Bench.Grows.sourceAt_eq (hb : b.Grows b') (place : Path) :
    (outcome (sourceAt place) b').1 = (outcome (sourceAt place) b).1 := by
  rw [sourceAt_result, sourceAt_result, hb.parse, hb.disk]
  cases hs : b.project.source? place with
  | some s => rw [hb.kept hs]
  | none =>
    cases hs' : b'.project.source? place with
    | none => rfl
    | some s =>
      -- it has been loaded in between, from the disk as it is now
      rcases hb.fresh hs' with hold | hread
      · rw [hs] at hold
        cases hold
      · rw [hread]
        rfl

theorem Bench.Tidy.scopeOf (h : b.Tidy) (file : Path) :
    b.Yields (scopeOf file) (outcome (scopeOf file) b).1 := by
  intro b' hb
  rw [scopeOf_result (hb.tidy h), scopeOf_result h, hb.home, hb.sourceAt_eq]
  exact ⟨rfl, scopeOf_grows file b'⟩

/-- The scope of a file that can be loaded. -/
theorem Bench.Tidy.yields_scope (h : b.Tidy) {file : Path} {s : Source}
    (hs : (outcome (sourceAt (b.home.absolute file)) b).1 = .ok s) :
    b.Yields (Project.graph.scope file) (.ok (Scope.ofModule s.module)) := by
  have hscope := h.scopeOf file
  rwa [scopeOf_result h, hs] at hscope

theorem fetch_result (path : Path) (b : Bench) :
    (outcome (fetch path) b).1 =
      (outcome (sourceAt (b.home.absolute path)) b).1.map fun _ => b.home.absolute path := by
  rw [outcome_fetch]
  cases outcome (sourceAt (b.home.absolute path)) b with
  | mk r b' => cases r <;> rfl

theorem Bench.yields_target (importer : Path) (specifier : String) :
    b.Yields (target importer specifier) (outcome (target importer specifier) b).1 := by
  intro b' hb
  refine ⟨?_, target_grows importer specifier b'⟩
  have hcandidates : b'.project.candidates importer specifier =
      b.project.candidates importer specifier := by
    unfold candidates
    rw [hb.config]
  unfold target
  rw [outcome_get_bind, outcome_get_bind, hb.disk, hcandidates]
  cases firstModule b.disk (b.project.candidates importer specifier) with
  | error e => rfl
  | ok found =>
    cases found with
    | none => rfl
    | some p =>
      dsimp only
      rw [outcome_map, outcome_map, fetch_result, fetch_result, hb.home, hb.sourceAt_eq]

/-! ### What names stand for -/

/-- What a name in a file stands for, as far as a bench can see. -/
def Bench.Sees (b : Bench) : Visibility := fun file name ds =>
  (outcome (visibleTypes Project.graph file name) b).1 = .ok ds

theorem Bench.definite_sees (b : Bench) : b.Sees.Definite := by
  intro file name ds es hds hes
  exact Except.ok.inj (hds.symm.trans hes)

/-- **Lookups show what names stand for.** -/
theorem Bench.Tidy.shows (h : b.Tidy) : b.steady.Shows Project.graph b.Sees := by
  have hscope : ∀ file, b.steady.Ensures (Project.graph.scope file) fun _ => True :=
    fun file => ⟨_, h.scopeOf file, fun _ _ => trivial⟩
  have htarget : ∀ file specifier,
      b.steady.Ensures (Project.graph.target file specifier) fun _ => True :=
    fun file specifier => ⟨_, b.yields_target file specifier, fun _ _ => trivial⟩
  have hanswers : b.steady.mute.Answers Project.graph ⟨fun _ => (), fun _ _ => ()⟩ :=
    ⟨hscope, htarget⟩
  refine ⟨hscope, htarget, fun file name => ?_, b.definite_sees⟩
  obtain ⟨r, hr, -⟩ := hanswers.visibleTypes file name
  exact ⟨r, hr, fun ds hds => hr.eq.symm.trans hds⟩

end RouteLint
