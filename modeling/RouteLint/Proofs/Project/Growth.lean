import RouteLint.Proofs.Data.Table
import RouteLint.Proofs.Typing.Resolving

/-!
# Lookups only load

Work on a project that asks for scopes and for the targets of imports changes little: sources that
are there stay as they are, files that are loaded come as they are on the disk, and scopes are kept.
A bench grows when no more than that happens to it.

## Main definitions

* `outcome` — the result of work, and the bench it leaves.
* `Bench.Tidy` — sources stand at their paths, and kept scopes are those of their sources.
* `Bench.Grows` — what lookups may do to a bench.

## Main results

* `sourceAt_cases` — what loading a source can do.
* `judge_grows` — judging a handler only loads.
-/

namespace RouteLint

open Syntax Project

variable {α β : Type}

/-! ### Outcomes of work -/

/-- The outcome of work that starts at a bench: its result, and the bench it leaves. -/
def outcome (x : Work α) (b : Bench) : Except Project.Error α × Bench := (x.run).run b

@[simp] theorem outcome_pure (a : α) (b : Bench) : outcome (pure a) b = (.ok a, b) := rfl

@[simp] theorem outcome_throw (e : Project.Error) (b : Bench) :
    outcome (throw e : Work α) b = (.error e, b) := rfl

@[simp] theorem outcome_get (b : Bench) : outcome (get : Work Bench) b = (.ok b, b) := rfl

@[simp] theorem outcome_tell (e : Event) (b : Bench) :
    outcome (tell e) b = (.ok (), { b with log := b.log ++ [e] }) := rfl

@[simp] theorem outcome_modifyProject (f : Project → Project) (b : Bench) :
    outcome (modifyProject f) b = (.ok (), { b with project := f b.project }) := rfl

theorem outcome_bind (x : Work α) (f : α → Work β) (b : Bench) :
    outcome (x >>= f) b =
      match outcome x b with
      | (.ok a, b') => outcome (f a) b'
      | (.error e, b') => (.error e, b') := by
  cases h : outcome x b with
  | mk r b' =>
    have hrun : (x.run).run b = (r, b') := h
    cases r <;> simp only [outcome, ExceptT.run_bind, StateT.run_bind, hrun] <;> rfl

theorem outcome_bind_ok {x : Work α} {f : α → Work β} {b b' : Bench} {a : α}
    (h : outcome x b = (.ok a, b')) : outcome (x >>= f) b = outcome (f a) b' := by
  rw [outcome_bind, h]

theorem outcome_bind_error {x : Work α} {f : α → Work β} {b b' : Bench} {e : Project.Error}
    (h : outcome x b = (.error e, b')) : outcome (x >>= f) b = (.error e, b') := by
  rw [outcome_bind, h]

/-- Work that has come to a result went through a result of its first part. -/
theorem outcome_bind_eq_ok {x : Work α} {f : α → Work β} {b b' : Bench} {r : β}
    (h : outcome (x >>= f) b = (.ok r, b')) :
    ∃ a b₁, outcome x b = (.ok a, b₁) ∧ outcome (f a) b₁ = (.ok r, b') := by
  rw [outcome_bind] at h
  split at h
  · next a b₁ hx => exact ⟨a, b₁, hx, h⟩
  · cases h

@[simp] theorem outcome_get_bind (f : Bench → Work β) (b : Bench) :
    outcome (get >>= f) b = outcome (f b) b := outcome_bind_ok (outcome_get b)

@[simp] theorem outcome_tell_bind (e : Event) (f : Unit → Work β) (b : Bench) :
    outcome (tell e >>= f) b = outcome (f ()) { b with log := b.log ++ [e] } :=
  outcome_bind_ok (outcome_tell e b)

@[simp] theorem outcome_modifyProject_bind (g : Project → Project) (f : Unit → Work β)
    (b : Bench) :
    outcome (modifyProject g >>= f) b = outcome (f ()) { b with project := g b.project } :=
  outcome_bind_ok (outcome_modifyProject g b)

theorem outcome_map (f : α → β) (x : Work α) (b : Bench) :
    outcome (f <$> x) b = ((outcome x b).1.map f, (outcome x b).2) := by
  rw [map_eq_pure_bind, outcome_bind]
  cases outcome x b with
  | mk r b' => cases r <;> rfl

theorem outcome_discard (x : Work α) (b : Bench) :
    outcome (discard x) b = ((outcome x b).1.map fun _ => PUnit.unit, (outcome x b).2) :=
  outcome_map (fun _ => PUnit.unit) x b

/-! ### Sources as they are on the disk -/

theorem readSource_eq (parse : Parser) (d : Disk) (p : Path) :
    readSource parse d p =
      match Language.ofPath p, d.read p with
      | .error e, _ => .error (.language e)
      | .ok _, .error f => .error (.disk f)
      | .ok language, .ok content =>
        match Utf8.decodeChars content with
        | .error f => .error (.encoding f)
        | .ok _ => .ok (.ofContent parse p language content) := by
  unfold readSource
  cases Language.ofPath p with
  | error e => rfl
  | ok language =>
    cases d.read p with
    | error f => rfl
    | ok content =>
      show (do
        discard <| (Utf8.decodeChars content).mapError .encoding
        return .ofContent parse p language content : Except LoadCause Source) = _
      dsimp only
      cases Utf8.decodeChars content <;> rfl

theorem readSource_eq_ok {parse : Parser} {d : Disk} {p : Path} {s : Source} :
    readSource parse d p = .ok s ↔ ∃ language content, Language.ofPath p = .ok language ∧
      d.read p = .ok content ∧ (∃ cs, Utf8.decodeChars content = .ok cs) ∧
      s = .ofContent parse p language content := by
  rw [readSource_eq]
  cases Language.ofPath p with
  | error e => simp
  | ok language =>
    cases d.read p with
    | error f => simp
    | ok content =>
      cases hc : Utf8.decodeChars content with
      | error f => simp [hc]
      | ok cs => simp [hc, eq_comm]

theorem readSource_path {parse : Parser} {d : Disk} {p : Path} {s : Source}
    (h : readSource parse d p = .ok s) : s.path = p := by
  obtain ⟨language, content, -, -, -, rfl⟩ := readSource_eq_ok.1 h
  rfl

/-! ### Tidy benches -/

@[simp] theorem source?_putSource_self (p : Project) (s : Source) :
    (p.putSource s).source? s.path = some s := Table.get?_set_self _ _ _

theorem source?_putSource_of_ne (p : Project) {s : Source} {q : Path} (h : s.path ≠ q) :
    (p.putSource s).source? q = p.source? q := Table.get?_set_of_ne _ _ h

/-- A source after one has been put in place is that one, or stands elsewhere and was there. -/
theorem source?_putSource_cases {p : Project} {s t : Source} {q : Path}
    (h : (p.putSource s).source? q = some t) :
    (q = s.path ∧ t = s) ∨ (q ≠ s.path ∧ p.source? q = some t) := by
  by_cases hq : s.path = q
  · subst hq
    rw [source?_putSource_self] at h
    cases h
    exact .inl ⟨rfl, rfl⟩
  · rw [source?_putSource_of_ne _ hq] at h
    exact .inr ⟨Ne.symm hq, h⟩

/-- Sources stand at their paths and only once, and a kept scope is that of the source it was made
from. -/
structure Bench.Tidy (b : Bench) : Prop where
  /-- Every source stands at its path. -/
  keyed : ∀ {p s}, b.project.source? p = some s → s.path = p
  /-- No path stands twice. -/
  distinct : b.project.files.Distinct
  /-- Kept scopes are not newer than their source, and if they are as new they are its scope. -/
  cached : ∀ {p revision scope}, b.project.scopes.get? p = some (revision, scope) →
    ∃ s, b.project.source? p = some s ∧ revision ≤ s.revision ∧
      (revision = s.revision → scope = Scope.ofModule s.module)

/-- Putting a source that is not older than the one it replaces, and not changed if it is as
old. -/
theorem Bench.Tidy.put {b b' : Bench} (h : b.Tidy) {s : Source}
    (hb : b'.project = b.project.putSource s)
    (hs : ∀ old, b.project.source? s.path = some old →
      old.revision < s.revision ∨ old.revision = s.revision ∧ old.module = s.module) :
    b'.Tidy where
  keyed := by
    intro p t ht
    rw [hb] at ht
    rcases source?_putSource_cases ht with ⟨rfl, rfl⟩ | ⟨-, ht⟩
    · rfl
    · exact h.keyed ht
  distinct := by
    rw [hb]
    exact h.distinct.set s.path s
  cached := by
    intro p revision scope hc
    rw [hb] at hc ⊢
    obtain ⟨old, hold, hle, heq⟩ := h.cached hc
    by_cases hp : s.path = p
    · subst hp
      refine ⟨s, source?_putSource_self _ _, ?_⟩
      rcases hs old hold with hlt | ⟨hrev, hmod⟩
      · exact ⟨by omega, fun hr => by omega⟩
      · rw [← hrev, ← hmod]
        exact ⟨hle, heq⟩
    · exact ⟨old, by rw [source?_putSource_of_ne _ hp, hold], hle, heq⟩

/-! ### Growth -/

/-- What lookups may do to a bench: load files as they are on the disk, and keep scopes. -/
structure Bench.Grows (b b' : Bench) : Prop where
  disk : b'.disk = b.disk
  home : b'.home = b.home
  parse : b'.project.parse = b.project.parse
  config : b'.project.config = b.project.config
  roots : b'.project.roots = b.project.roots
  /-- All that is told is that files are malformed. -/
  log : ∃ told : List Path, b'.log = b.log ++ told.map .malformed
  /-- Sources stay as they are. -/
  kept : ∀ {p s}, b.project.source? p = some s → b'.project.source? p = some s
  /-- New sources are as they are on the disk. -/
  fresh : ∀ {p s}, b'.project.source? p = some s →
    b.project.source? p = some s ∨ readSource b.project.parse b.disk p = .ok s
  tidy : b.Tidy → b'.Tidy

namespace Bench.Grows

theorem refl (b : Bench) : b.Grows b where
  disk := rfl
  home := rfl
  parse := rfl
  config := rfl
  roots := rfl
  log := ⟨[], (List.append_nil _).symm⟩
  kept h := h
  fresh h := .inl h
  tidy h := h

theorem trans {a b c : Bench} (h : a.Grows b) (h' : b.Grows c) : a.Grows c where
  disk := h'.disk.trans h.disk
  home := h'.home.trans h.home
  parse := h'.parse.trans h.parse
  config := h'.config.trans h.config
  roots := h'.roots.trans h.roots
  log := by
    obtain ⟨told, ht⟩ := h.log
    obtain ⟨told', ht'⟩ := h'.log
    exact ⟨told ++ told', by rw [ht', ht, List.map_append, List.append_assoc]⟩
  kept hs := h'.kept (h.kept hs)
  fresh hs := by
    rcases h'.fresh hs with hs | hs
    · exact h.fresh hs
    · rw [h.parse, h.disk] at hs
      exact .inr hs
  tidy ht := h'.tidy (h.tidy ht)

end Bench.Grows

/-- Nothing happens but that files are told to be malformed. -/
structure Bench.Quiet (b b' : Bench) : Prop where
  disk : b'.disk = b.disk
  log : ∃ told : List Path, b'.log = b.log ++ told.map .malformed

theorem Bench.Quiet.refl (b : Bench) : b.Quiet b := ⟨rfl, [], (List.append_nil _).symm⟩

theorem Bench.Quiet.trans {a b c : Bench} (h : a.Quiet b) (h' : b.Quiet c) : a.Quiet c where
  disk := h'.disk.trans h.disk
  log := by
    obtain ⟨told, ht⟩ := h.log
    obtain ⟨told', ht'⟩ := h'.log
    exact ⟨told ++ told', by rw [ht', ht, List.map_append, List.append_assoc]⟩

theorem Bench.Grows.quiet {b b' : Bench} (h : b.Grows b') : b.Quiet b' := ⟨h.disk, h.log⟩

/-- What loading a source does. -/
theorem outcome_sourceAt (place : Path) (b : Bench) :
    outcome (sourceAt place) b =
      match b.project.source? place with
      | some s => (.ok s, b)
      | none =>
        match readSource b.project.parse b.disk place with
        | .error cause => (.error (.unloadable place cause), b)
        | .ok s =>
          (.ok s, { b with
            project := b.project.putSource s
            log := b.log ++ if s.module.malformed then [.malformed place] else [] }) := by
  unfold sourceAt
  rw [outcome_get_bind]
  cases b.project.source? place with
  | some s => rfl
  | none =>
    cases readSource b.project.parse b.disk place with
    | error cause => rfl
    | ok s =>
      dsimp only
      cases s.module.malformed with
      | true => rfl
      | false =>
        simp only [Bool.false_eq_true, if_false, List.append_nil]
        rfl

/-- **What loading a source can do**: it is there, or it cannot be read, or it is put in place as
it is on the disk. -/
theorem sourceAt_cases (place : Path) (b : Bench) :
    (∃ s, b.project.source? place = some s ∧ outcome (sourceAt place) b = (.ok s, b)) ∨
    (∃ cause, b.project.source? place = none ∧
      readSource b.project.parse b.disk place = .error cause ∧
      outcome (sourceAt place) b = (.error (.unloadable place cause), b)) ∨
    (∃ s b', b.project.source? place = none ∧
      readSource b.project.parse b.disk place = .ok s ∧
      outcome (sourceAt place) b = (.ok s, b') ∧ b'.project = b.project.putSource s ∧
      b'.disk = b.disk ∧ b'.home = b.home ∧
      ∃ told : List Path, b'.log = b.log ++ told.map .malformed) := by
  rw [outcome_sourceAt]
  cases hs : b.project.source? place with
  | some s => exact .inl ⟨s, rfl, rfl⟩
  | none =>
    cases hr : readSource b.project.parse b.disk place with
    | error cause => exact .inr (.inl ⟨cause, rfl, rfl, rfl⟩)
    | ok s =>
      refine .inr (.inr ⟨s, _, rfl, rfl, rfl, rfl, rfl, rfl, ?_⟩)
      dsimp only
      split
      · exact ⟨[place], rfl⟩
      · exact ⟨[], rfl⟩

theorem sourceAt_grows (place : Path) (b : Bench) : b.Grows (outcome (sourceAt place) b).2 := by
  rcases sourceAt_cases place b with ⟨s, -, h⟩ | ⟨cause, -, -, h⟩ |
    ⟨s, b', hnone, hr, h, hb, hd, hh, hlog⟩
  · rw [h]
    exact .refl b
  · rw [h]
    exact .refl b
  · rw [h]
    have hpath := readSource_path hr
    refine ⟨hd, hh, by rw [hb]; rfl, by rw [hb]; rfl, by rw [hb]; rfl, hlog, ?_, ?_, ?_⟩
    · intro p t ht
      have hne : s.path ≠ p := by
        intro hp
        rw [← hp, hpath, hnone] at ht
        cases ht
      rw [hb, source?_putSource_of_ne _ hne]
      exact ht
    · intro p t ht
      rw [hb] at ht
      rcases source?_putSource_cases ht with ⟨rfl, rfl⟩ | ⟨-, ht⟩
      · exact .inr (hpath ▸ hr)
      · exact .inl ht
    · intro htidy
      refine htidy.put hb fun old hold => ?_
      rw [hpath, hnone] at hold
      cases hold

/-- A source that has been asked for is there. -/
theorem source?_of_sourceAt {place : Path} {b b' : Bench} {s : Source}
    (h : outcome (sourceAt place) b = (.ok s, b')) : b'.project.source? place = some s := by
  rcases sourceAt_cases place b with ⟨t, ht, hout⟩ | ⟨cause, -, -, hout⟩ |
    ⟨t, c, -, hr, hout, hc, -, -⟩
  · rw [hout] at h
    cases h
    exact ht
  · rw [hout] at h
    cases h
  · rw [hout] at h
    cases h
    rw [hc]
    have hput := source?_putSource_self b.project s
    rw [readSource_path hr] at hput
    exact hput

/-- Growth goes through work that follows work. -/
theorem grows_bind {x : Work α} {f : α → Work β} (hx : ∀ b : Bench, b.Grows (outcome x b).2)
    (hf : ∀ a, ∀ b : Bench, b.Grows (outcome (f a) b).2) (b : Bench) :
    b.Grows (outcome (x >>= f) b).2 := by
  have hxb := hx b
  rw [outcome_bind]
  cases h : outcome x b with
  | mk r b' =>
    rw [h] at hxb
    cases r with
    | error e => exact hxb
    | ok a => exact hxb.trans (hf a b')

/-! ### Lookups -/

theorem scopeOf_grows (path : Path) (b : Bench) : b.Grows (outcome (scopeOf path) b).2 := by
  unfold scopeOf
  rw [outcome_get_bind]
  dsimp only
  generalize b.home.absolute path = place
  rw [outcome_bind]
  have hsource := sourceAt_grows place b
  cases h : outcome (sourceAt place) b with
  | mk r b' =>
    rw [h] at hsource
    cases r with
    | error e => exact hsource
    | ok s =>
      refine hsource.trans ?_
      have hs : b'.project.source? place = some s := source?_of_sourceAt h
      -- keeping the scope of the source that stands there
      have hmake : b'.Grows (outcome (scopeOf.make place s) b').2 := by
        refine ⟨rfl, rfl, rfl, rfl, rfl, ⟨[], (List.append_nil _).symm⟩, fun h => h,
          fun h => .inl h, fun htidy => ?_⟩
        refine ⟨htidy.keyed, htidy.distinct, ?_⟩
        intro p revision scope hc
        by_cases hp : place = p
        · subst hp
          rw [show (outcome (scopeOf.make place s) b').2.project.scopes.get? place =
            some (s.revision, Scope.ofModule s.module) from Table.get?_set_self _ _ _] at hc
          cases hc
          exact ⟨s, hs, Nat.le_refl _, fun _ => rfl⟩
        · rw [show (outcome (scopeOf.make place s) b').2.project.scopes.get? p =
            b'.project.scopes.get? p from Table.get?_set_of_ne _ _ hp] at hc
          exact htidy.cached hc
      dsimp only
      rw [outcome_get_bind]
      cases b'.project.scopes.get? place with
      | none => exact hmake
      | some kept =>
        obtain ⟨revision, scope⟩ := kept
        dsimp only
        split
        · exact .refl b'
        · exact hmake

/-- The scope of a source, kept or made. -/
theorem scopeOf_result {b : Bench} (h : b.Tidy) (path : Path) :
    (outcome (scopeOf path) b).1 =
      (outcome (sourceAt (b.home.absolute path)) b).1.map fun s => Scope.ofModule s.module := by
  unfold scopeOf
  rw [outcome_get_bind]
  dsimp only
  generalize b.home.absolute path = place
  rw [outcome_bind]
  have htidy := (sourceAt_grows place b).tidy h
  cases hs : outcome (sourceAt place) b with
  | mk r b' =>
    rw [hs] at htidy
    cases r with
    | error e => rfl
    | ok s =>
      have hthere : b'.project.source? place = some s := source?_of_sourceAt hs
      dsimp only
      rw [outcome_get_bind]
      cases hc : b'.project.scopes.get? place with
      | none => rfl
      | some kept =>
        obtain ⟨revision, scope⟩ := kept
        dsimp only
        split
        · next hrev =>
          obtain ⟨t, ht, -, hscope⟩ := htidy.cached hc
          rw [hthere] at ht
          cases ht
          rw [hscope hrev]
          rfl
        · rfl

theorem outcome_fetch (path : Path) (b : Bench) :
    outcome (fetch path) b =
      match outcome (sourceAt (b.home.absolute path)) b with
      | (.ok _, b') => (.ok (b.home.absolute path), b')
      | (.error e, b') => (.error e, b') := by
  unfold fetch
  rw [outcome_get_bind]
  show outcome (discard (sourceAt (b.home.absolute path)) >>= fun _ =>
    pure (b.home.absolute path)) b = _
  rw [outcome_bind, outcome_discard]
  cases outcome (sourceAt (b.home.absolute path)) b with
  | mk r b' => cases r <;> rfl

/-- Adding a file makes it a root if it can be loaded. -/
theorem outcome_add (path : Path) (b : Bench) :
    outcome (Project.add path) b =
      match outcome (fetch path) b with
      | (.ok place, b') =>
        (.ok place, { b' with
          project := { b'.project with roots := putOnce b'.project.roots place } })
      | (.error e, b') => (.error e, b') := by
  unfold Project.add
  rw [outcome_bind]
  cases outcome (fetch path) b with
  | mk r b' =>
    cases r with
    | error e => rfl
    | ok place =>
      dsimp only
      rw [outcome_modifyProject_bind]
      unfold putOnce
      cases b'.project.roots.contains place <;> rfl

theorem fetch_grows (path : Path) (b : Bench) : b.Grows (outcome (fetch path) b).2 := by
  have hsource := sourceAt_grows (b.home.absolute path) b
  rw [outcome_fetch]
  cases h : outcome (sourceAt (b.home.absolute path)) b with
  | mk r b' =>
    rw [h] at hsource
    cases r <;> exact hsource

theorem target_grows (importer : Path) (specifier : String) (b : Bench) :
    b.Grows (outcome (target importer specifier) b).2 := by
  unfold target
  rw [outcome_get_bind]
  cases firstModule b.disk (b.project.candidates importer specifier) with
  | error e => exact .refl b
  | ok found =>
    cases found with
    | none => exact .refl b
    | some p =>
      dsimp only
      rw [outcome_map]
      exact fetch_grows p b

/-- Work under which every bench grows, beside computations that say nothing. -/
def growth : Coupling Work Mute where
  Maps _ x _ := ∀ b : Bench, b.Grows (outcome x b).2
  pure _ _ b := .refl b
  bind hx hf b := grows_bind hx hf b

theorem growth_answers : growth.Answers Project.graph ⟨fun _ => (), fun _ _ => ()⟩ where
  scope := scopeOf_grows
  target := target_grows

/-- **Judging a handler only loads.** -/
theorem judge_grows (file : Path) (p : Parameter) (b : Bench) :
    b.Grows (outcome (judge Project.graph file p) b).2 :=
  growth_answers.judge file p b

end RouteLint
