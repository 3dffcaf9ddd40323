import RouteLint.Proofs.Project.Buffers

/-!
# Kept scopes

A project keeps the scope of a source once it has been made, together with the revision it was made
from, and makes it anew after the source has been edited.  That scopes are kept cannot be noticed.
Whatever is done to a project and looked up in it, in any order, comes out as if the scope of a
source were made from its module every time it is asked for; the benches differ in the scopes that
are kept and in nothing else.

This does not depend on the disk, which may be changed by others at any time.

## Main definitions

* `Project.freshGraph` — the modules of a project, with scopes that are made anew every time.
* `Bench.forget` — a bench without the scopes that it keeps.
* `Bench.Current` — sources have the modules of their bytes, and kept scopes are theirs.
* `forgetting` — work that comes out alike if no scopes are kept.
* `Query`, `Query.runAll` — what can be done to a project and asked of it.

## Main results

* `Query.forgetting` — **a query comes out alike if no scopes are kept.**
* `kept_scopes` — so do all queries of a project, one after the other.
-/

namespace RouteLint

open Syntax Project

/-! ### Doing without kept scopes -/

namespace Project

/-- The scope of a source, made anew every time. -/
def freshScope (path : Path) : Work Scope := do
  let s ← sourceAt ((← get).home.absolute path)
  return Scope.ofModule s.module

/-- The modules of a project, with scopes that are made anew every time. -/
def freshGraph : ModuleGraph Work := ⟨freshScope, target⟩

/-- The same modules, with no more of their scopes than typing looks at. -/
def freshViewGraph : ModuleGraph Work := ⟨fun path => Scope.view <$> freshScope path, target⟩

end Project

/-- A bench without the scopes that it keeps. -/
def Bench.forget (b : Bench) : Bench := { b with project := { b.project with scopes := [] } }

/-- Sources have the modules that their bytes write, and kept scopes are those of their sources. -/
structure Bench.Current (parse : Parser) (b : Bench) : Prop where
  parser : b.project.parse = parse
  tidy : b.Tidy
  parsed : ∀ {p s}, b.project.source? p = some s → s.module = parse s.language s.content

variable {parse : Parser} {b b' : Bench}

/-- Lookups load sources with the modules of their bytes. -/
theorem Bench.Current.grows (h : b.Current parse) (hb : b.Grows b') : b'.Current parse where
  parser := hb.parse.trans h.parser
  tidy := hb.tidy h.tidy
  parsed := by
    intro p s hs
    rcases hb.fresh hs with hs | hread
    · exact h.parsed hs
    · obtain ⟨language, content, -, -, -, rfl⟩ := readSource_eq_ok.1 hread
      rw [h.parser]
      rfl

theorem Bench.Current.put (h : b.Current parse) {s : Source}
    (hb : b'.project = b.project.putSource s) (hparsed : s.module = parse s.language s.content)
    (hold : ∀ old, b.project.source? s.path = some old →
      old.revision < s.revision ∨ old.revision = s.revision ∧ old.module = s.module) :
    b'.Current parse where
  parser := by rw [hb]; exact h.parser
  tidy := h.tidy.put hb hold
  parsed := by
    intro p t ht
    rw [hb] at ht
    rcases source?_putSource_cases ht with ⟨rfl, rfl⟩ | ⟨-, ht⟩
    · exact hparsed
    · exact h.parsed ht

/-- Putting a source in place of itself, changed in neither its bytes nor its module. -/
theorem Bench.Current.put_same (h : b.Current parse) {s old : Source}
    (hb : b'.project = b.project.putSource s) (hold : b.project.source? s.path = some old)
    (hmodule : old.module = s.module) (hrevision : old.revision = s.revision)
    (hlanguage : old.language = s.language) (hcontent : old.content = s.content) :
    b'.Current parse := by
  refine h.put hb ?_ fun t ht => ?_
  · rw [← hmodule, ← hlanguage, ← hcontent]
    exact h.parsed hold
  · rw [hold] at ht
    cases ht
    exact .inr ⟨hrevision, hmodule⟩

/-- Work beside work that is done without kept scopes: from a bench that keeps none it comes to the
same result, up to a map, and to a bench that differs from the other in the kept scopes only. -/
def forgetting (parse : Parser) : Coupling Work Work where
  Maps ψ x y := ∀ b : Bench, b.Current parse →
    outcome y b.forget = ((outcome x b).1.map ψ, (outcome x b).2.forget) ∧
      (outcome x b).2.Current parse
  pure _ _ _ h := ⟨rfl, h⟩
  bind := by
    intro α β γ δ ψ χ x y f g hx hf b h
    obtain ⟨hy, hcurrent⟩ := hx b h
    rw [outcome_bind, outcome_bind, hy]
    cases hout : outcome x b with
    | mk r b' =>
      rw [hout] at hcurrent
      cases r with
      | error err => exact ⟨rfl, hcurrent⟩
      | ok a => exact hf a b' hcurrent

/-! ### Loading and looking up -/

theorem forgetting_get : (forgetting parse).Maps Bench.forget get get := fun _ h => ⟨rfl, h⟩

theorem forgetting_throw {α : Type} (e : Project.Error) :
    (forgetting parse).Maps id (throw e : Work α) (throw e) := fun _ h => ⟨rfl, h⟩

theorem forgetting_sourceAt (place : Path) :
    (forgetting parse).Maps id (sourceAt place) (sourceAt place) := by
  intro b h
  refine ⟨?_, h.grows (sourceAt_grows place b)⟩
  have hsource : b.forget.project.source? place = b.project.source? place := rfl
  have hread : readSource b.forget.project.parse b.forget.disk place =
    readSource b.project.parse b.disk place := rfl
  rw [outcome_sourceAt, outcome_sourceAt, hsource, hread]
  cases b.project.source? place with
  | some s => rfl
  | none => cases readSource b.project.parse b.disk place <;> rfl

/-- Asking for a scope leaves the bench that loading its source leaves, with other kept scopes. -/
theorem forget_scopeOf (path : Path) (b : Bench) :
    (outcome (scopeOf path) b).2.forget =
      (outcome (sourceAt (b.home.absolute path)) b).2.forget := by
  unfold scopeOf
  rw [outcome_get_bind]
  dsimp only
  rw [outcome_bind]
  cases outcome (sourceAt (b.home.absolute path)) b with
  | mk r b' =>
    cases r with
    | error e => rfl
    | ok s =>
      dsimp only
      rw [outcome_get_bind]
      cases b'.project.scopes.get? (b.home.absolute path) with
      | none => rfl
      | some kept =>
        dsimp only
        split <;> rfl

/-- **The scope of a source is the one that is made anew.** -/
theorem forgetting_scopeOf (path : Path) :
    (forgetting parse).Maps id (scopeOf path) (freshScope path) := by
  intro b h
  refine ⟨?_, h.grows (scopeOf_grows path b)⟩
  have hsource := (forgetting_sourceAt (b.home.absolute path) b h).1
  rw [scopeOf_result h.tidy, forget_scopeOf]
  unfold freshScope
  rw [outcome_get_bind, outcome_bind, show b.forget.home = b.home from rfl, hsource]
  cases (outcome (sourceAt (b.home.absolute path)) b).1 <;> rfl

theorem forgetting_fetch (path : Path) :
    (forgetting parse).Maps id (fetch path) (fetch path) := by
  refine (forgetting parse).bind forgetting_get fun b => ?_
  refine (forgetting parse).bind (ψ := id) ?_ fun _ => (forgetting parse).pure' rfl
  exact (forgetting parse).map (forgetting_sourceAt _) fun _ => rfl

theorem forgetting_target (importer : Path) (specifier : String) :
    (forgetting parse).Maps id (target importer specifier) (target importer specifier) := by
  refine (forgetting parse).bind forgetting_get fun b => ?_
  have hfirst : firstModule b.forget.disk (b.forget.project.candidates importer specifier) =
    firstModule b.disk (b.project.candidates importer specifier) := rfl
  rw [hfirst]
  cases firstModule b.disk (b.project.candidates importer specifier) with
  | error e => exact forgetting_throw e
  | ok found =>
    cases found with
    | none => exact (forgetting parse).pure' rfl
    | some p => exact (forgetting parse).map (forgetting_fetch p) fun _ => rfl

/-- Looking up a name finds the same types. -/
theorem forgetting_visibleTypes (file : Path) (name : String) :
    (forgetting parse).Maps id (visibleTypes Project.graph file name)
      (visibleTypes freshGraph file name) := by
  refine Coupling.visibleTypes_same ?_ ?_ file name
  · exact forgetting_scopeOf
  · exact forgetting_target

theorem freshGraph_answers : (Coupling.image Work).Answers freshGraph freshViewGraph where
  scope _ := rfl
  target _ _ := (id_map _).symm

theorem forgetting_answers : (forgetting parse).Answers Project.graph freshViewGraph where
  scope path := by
    have h := (forgetting parse).map (χ := Scope.view) (f := id) (g := Scope.view)
      (forgetting_scopeOf path) fun _ => rfl
    rwa [id_map] at h
  target := forgetting_target

/-- A handler is judged alike. -/
theorem forgetting_judge (file : Path) (p : Parameter) :
    (forgetting parse).Maps id (judge Project.graph file p) (judge freshGraph file p) := by
  -- judging goes through what typing sees of a scope, on either side
  have hview : judge freshViewGraph file p.bare = id <$> judge freshGraph file p :=
    freshGraph_answers.judge file p
  rw [id_map] at hview
  rw [← hview]
  exact forgetting_answers.judge file p

/-! ### Adding, editing and saving -/

theorem forgetting_add (path : Path) :
    (forgetting parse).Maps id (Project.add path) (Project.add path) := by
  intro b h
  obtain ⟨hfetch, hcurrent⟩ := forgetting_fetch path b h
  rw [outcome_add, outcome_add, hfetch]
  rcases hout : outcome (fetch path) b with ⟨e | place, b'⟩
  · rw [hout] at hcurrent
    exact ⟨rfl, hcurrent⟩
  · rw [hout] at hcurrent
    exact ⟨rfl, hcurrent.parser,
      ⟨hcurrent.tidy.keyed, hcurrent.tidy.distinct, hcurrent.tidy.cached⟩, hcurrent.parsed⟩

theorem forgetting_stage (path : Path) (e : Edit) :
    (forgetting parse).Maps id (Project.stage path e) (Project.stage path e) := by
  intro b h
  unfold Project.stage
  rw [outcome_get_bind, outcome_get_bind, show b.forget.project.source? path =
    b.project.source? path from rfl]
  cases hs : b.project.source? path with
  | none => exact ⟨rfl, h⟩
  | some s =>
    dsimp only
    cases hstage : s.stage? e with
    | none => exact ⟨rfl, h⟩
    | some t =>
      refine ⟨rfl, ?_⟩
      obtain ⟨staged, rfl⟩ : ∃ staged, t = { s with staged } := by
        unfold Source.stage? at hstage
        split at hstage
        · exact ⟨s.staged, (Option.some.inj hstage).symm⟩
        · split at hstage
          · cases hstage
          · exact ⟨_, (Option.some.inj hstage).symm⟩
      obtain rfl := h.tidy.keyed hs
      exact h.put_same rfl hs rfl rfl rfl rfl

theorem forgetting_apply (path : Path) :
    (forgetting parse).Maps id (Project.apply path) (Project.apply path) := by
  intro b h
  have hsource : b.forget.project.source? path = b.project.source? path := rfl
  cases hs : b.project.source? path with
  | none =>
    unfold Project.apply
    rw [outcome_get_bind, outcome_get_bind]
    dsimp only
    rw [hsource, hs]
    exact ⟨rfl, h⟩
  | some s =>
    rw [outcome_apply hs, outcome_apply (hsource.trans hs)]
    refine ⟨rfl, ?_⟩
    obtain rfl := h.tidy.keyed hs
    unfold Source.apply
    split
    · exact h.put_same rfl hs rfl rfl rfl rfl
    · -- the bytes are read anew, and the source is newer than any scope that is kept
      refine h.put rfl ?_ fun old hold => ?_
      · rw [h.parser]
      · rw [show b.project.source? s.path = some old from hold] at hs
        cases hs
        exact .inl (Nat.lt_succ_self _)

theorem forgetting_saveSource {s : Source} (h : b.Current parse)
    (hs : b.project.source? s.path = some s) :
    outcome (saveSource s) b.forget =
        ((outcome (saveSource s) b).1, (outcome (saveSource s) b).2.forget) ∧
      (outcome (saveSource s) b).2.Current parse ∧
      ∀ p, p ≠ s.path →
        (outcome (saveSource s) b).2.project.source? p = b.project.source? p := by
  unfold saveSource
  rw [outcome_get_bind, outcome_get_bind, show b.forget.disk = b.disk from rfl]
  cases b.disk.write s.path s.content with
  | error f => exact ⟨rfl, h, fun _ _ => rfl⟩
  | ok disk =>
    refine ⟨rfl, ?_, fun p hp => ?_⟩
    · exact h.put_same (s := { s with modified := false }) rfl hs rfl rfl rfl rfl
    · exact source?_putSource_of_ne (s := { s with modified := false }) _ fun heq => hp heq.symm

/-- Saving sources that stand at different paths, until one of them cannot be written. -/
theorem forgetting_saveAll {ss : List Source} (h : b.Current parse)
    (hnodup : (ss.map Source.path).Nodup) (hss : ∀ s ∈ ss, b.project.source? s.path = some s) :
    outcome (ss.forM saveSource) b.forget =
        ((outcome (ss.forM saveSource) b).1, (outcome (ss.forM saveSource) b).2.forget) ∧
      (outcome (ss.forM saveSource) b).2.Current parse := by
  induction ss generalizing b with
  | nil => exact ⟨rfl, h⟩
  | cons s ss ih =>
    rw [List.map_cons, List.nodup_cons] at hnodup
    obtain ⟨hforget, hcurrent, hother⟩ := forgetting_saveSource h (hss s List.mem_cons_self)
    have hcons : (s :: ss).forM saveSource = saveSource s >>= fun _ => ss.forM saveSource := rfl
    rw [hcons, outcome_bind, outcome_bind, hforget]
    cases hout : outcome (saveSource s) b with
    | mk r b₁ =>
      rw [hout] at hcurrent hother
      cases r with
      | error e => exact ⟨rfl, hcurrent⟩
      | ok _ =>
        refine ih hcurrent hnodup.2 fun t ht => ?_
        have hne : t.path ≠ s.path := fun heq => hnodup.1 (heq ▸ List.mem_map_of_mem ht)
        rw [hother t.path hne]
        exact hss t (List.mem_cons_of_mem _ ht)

theorem forgetting_save : (forgetting parse).Maps id Project.save Project.save := by
  intro b h
  have hnodup : (b.dirtySources.map Source.path).Nodup :=
    h.tidy.nodup_paths.sublist (List.filter_sublist.map _)
  obtain ⟨hforget, hcurrent⟩ := forgetting_saveAll h hnodup fun s hs =>
    (h.tidy.mem_dirtySources.1 hs).1
  have hsave : ∀ c : Bench, outcome Project.save c =
      outcome (c.dirtySources.forM saveSource >>= fun _ =>
        pure (c.dirtySources.map Source.path)) c := fun c => outcome_get_bind _ c
  rw [hsave, hsave, show b.forget.dirtySources = b.dirtySources from rfl, outcome_bind,
    outcome_bind, hforget]
  rcases hout : outcome (b.dirtySources.forM saveSource) b with ⟨e | _, b'⟩ <;>
    (rw [hout] at hcurrent; exact ⟨rfl, hcurrent⟩)

/-- **Actions come out alike.** -/
theorem forgetting_perform (a : Action) : (forgetting parse).Maps id a.perform a.perform := by
  have hmap : ∀ {α : Type} (f : α → Reply) {x : Work α}, (forgetting parse).Maps id x x →
      (forgetting parse).Maps id (f <$> x) (f <$> x) :=
    fun f _ hx => (forgetting parse).map hx fun _ => rfl
  cases a with
  | load path => exact hmap _ (forgetting_fetch path)
  | add path => exact hmap _ (forgetting_add path)
  | resolve importer specifier => exact hmap _ (forgetting_target importer specifier)
  | stage path e => exact hmap _ (forgetting_stage path e)
  | apply path => exact hmap _ (forgetting_apply path)
  | save => exact hmap _ forgetting_save

/-! ### Queries -/

/-- What can be done to a project and asked of it. -/
inductive Query where
  /-- Do something to it. -/
  | act (a : Action)
  /-- Ask for the scope of a file. -/
  | scope (path : Path)
  /-- Look up a name in a file. -/
  | lookup (file : Path) (name : String)
  /-- Judge the second parameter of a handler. -/
  | judge (file : Path) (context : Parameter)
  /-- Others change the disk. -/
  | change (disk : Disk)

/-- What comes of a query. -/
inductive Answer where
  /-- Something has been done. -/
  | acted (reply : Reply)
  /-- The scope of a file. -/
  | scope (s : Scope)
  /-- What a name stands for. -/
  | found (types : List DeclaredType)
  /-- The type of the parameters of a route, if it violates the rule. -/
  | judged (found : Option String)
  /-- The disk has been changed. -/
  | changed

namespace Query

/-- Work on a query, with scopes and targets as a graph gives them. -/
def perform (g : ModuleGraph Work) : Query → Work Answer
  | act a => .acted <$> a.perform
  | scope path => .scope <$> g.scope path
  | lookup file name => .found <$> visibleTypes g file name
  | judge file context => .judged <$> RouteLint.judge g file context
  | change disk => do
    modify fun b => { b with disk }
    return .changed

/-- Work on queries one after the other; one that fails is given up.  The answers and the bench. -/
def runAll (g : ModuleGraph Work) (b : Bench) :
    List Query → List (Except Project.Error Answer) × Bench
  | [] => ([], b)
  | q :: queries =>
    let (answers, b') := runAll g (outcome (q.perform g) b).2 queries
    ((outcome (q.perform g) b).1 :: answers, b')

/-- **A query comes out alike if no scopes are kept.** -/
theorem forgetting (q : Query) :
    (RouteLint.forgetting parse).Maps id (q.perform Project.graph) (q.perform freshGraph) := by
  have hmap : ∀ {α : Type} (f : α → Answer) {x y : Work α},
      (RouteLint.forgetting parse).Maps id x y →
        (RouteLint.forgetting parse).Maps id (f <$> x) (f <$> y) :=
    fun f _ _ hx => (RouteLint.forgetting parse).map hx fun _ => rfl
  cases q with
  | act a => exact hmap _ (forgetting_perform a)
  | scope path => exact hmap _ (forgetting_scopeOf path)
  | lookup file name => exact hmap _ (forgetting_visibleTypes file name)
  | judge file context => exact hmap _ (forgetting_judge file context)
  | change disk =>
    -- neither kept scopes nor sources are a matter of the disk
    intro b h
    exact ⟨rfl, h.parser, ⟨h.tidy.keyed, h.tidy.distinct, h.tidy.cached⟩, h.parsed⟩

/-- All queries come out alike, whatever came before them. -/
theorem forgetting_runAll (h : b.Current parse) (queries : List Query) :
    runAll freshGraph b.forget queries =
        ((runAll Project.graph b queries).1, (runAll Project.graph b queries).2.forget) ∧
      (runAll Project.graph b queries).2.Current parse := by
  induction queries generalizing b with
  | nil => exact ⟨rfl, h⟩
  | cons q queries ih =>
    obtain ⟨hq, hcurrent⟩ := q.forgetting b h
    obtain ⟨hrest, hcurrent'⟩ := ih hcurrent
    refine ⟨?_, hcurrent'⟩
    rw [runAll, hq]
    dsimp only
    rw [hrest, Except.map_id]
    rfl

end Query

/-! ### The whole life of a project -/

theorem current_empty (w : Workspace) (parse : Parser) (root : Path)
    (config : Option TypeConfig) : Bench.Current parse ⟨w, .empty parse root config⟩ :=
  ⟨rfl, (synced_empty w parse root config).tidy, nofun⟩

/-- **Kept scopes are current.**  Whatever is done to a project that starts without files, and
whatever is asked of it: all answers are those that are given if scopes are made anew every time,
and the benches differ in the kept scopes only.  At any time the scope of a source is that of its
module, which is the module that its bytes write. -/
theorem kept_scopes (w : Workspace) (parse : Parser) (root : Path) (config : Option TypeConfig)
    (queries : List Query) :
    let start : Bench := ⟨w, .empty parse root config⟩
    let (answers, b) := Query.runAll Project.graph start queries
    Query.runAll freshGraph start queries = (answers, b.forget) ∧
      ∀ path s, b.project.source? (b.home.absolute path) = some s →
        s.module = parse s.language s.content ∧
          (outcome (scopeOf path) b).1 = .ok (Scope.ofModule s.module) := by
  obtain ⟨hall, hcurrent⟩ := Query.forgetting_runAll (current_empty w parse root config) queries
  rcases hrun : Query.runAll Project.graph ⟨w, .empty parse root config⟩ queries with ⟨answers, b⟩
  rw [hrun] at hall hcurrent
  dsimp only
  rw [hrun]
  refine ⟨hall, fun path s hs => ⟨hcurrent.parsed hs, ?_⟩⟩
  rw [scopeOf_result hcurrent.tidy, outcome_sourceAt, hs]
  rfl

end RouteLint
