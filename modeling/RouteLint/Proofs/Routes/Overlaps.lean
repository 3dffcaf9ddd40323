import Mathlib.Data.Set.Card
import RouteLint.Proofs.Project.Edits
import RouteLint.Proofs.Project.Shadows
import RouteLint.Proofs.Routes.ExactlyOnce
import RouteLint.Proofs.Scope.Tables

/-!
# The repairs of a check never overlap

Handlers are found through the names that they are exported under, so that one function may be
checked several times, and several functions of one name as well.  A repair always stands inside the
function that it belongs to, though, and functions stand apart from each other.  So the repairs of
two functions never overlap, and that of one function is the same each time: staging never fails, and
as many edits are applied as there are functions with a repair.

All that is asked of the tree is that constructs stand inside those that they are part of, that
functions stand apart, and that the parameters of a function come after the word that it starts with.

## Main definitions

* `Module.Nested` — trees whose constructs stand as they should.
* `Bench.Plans` — the repair of a function.
* `Bench.Staged` — benches at which repairs of a source have been staged.

## Main results

* `Bench.Staged.checkHandler` — **what checking one handler does.**
* `checkSource_edits` — **a check never fails because of overlapping edits, and applies one for each
  function with a repair.**
-/

namespace RouteLint

open Syntax Project

/-! ### Where constructs stand -/

namespace Syntax

/-- A construct stands inside another one. -/
def Extent.Inside (a b : Extent) : Prop := b.start ≤ a.start ∧ a.start ≤ a.stop ∧ a.stop ≤ b.stop

/-- Two constructs have no byte in common. -/
def Extent.Apart (a b : Extent) : Prop := a.stop ≤ b.start ∨ b.stop ≤ a.start

instance (a b : Extent) : Decidable (a.Inside b) := inferInstanceAs (Decidable (_ ∧ _ ∧ _))

instance (a b : Extent) : Decidable (a.Apart b) := inferInstanceAs (Decidable (_ ∨ _))

instance : Std.Symm fun f f' : FunctionDeclaration => f.extent.Apart f'.extent :=
  ⟨fun _ _ => Or.symm⟩

/-- The types of the properties of an object type. -/
def TypeExpr.memberTypes : TypeExpr → List TypeExpr
  | .object _ ms => ms.filterMap fun
    | .property _ type => type
    | _ => none
  | _ => []

/-- The parameters of a function stand inside it, after the word that it starts with; their types
stand inside them, and the types of members inside those. -/
def FunctionDeclaration.Nested (f : FunctionDeclaration) : Prop :=
  ∀ p ∈ f.parameters, (f.extent.start < p.extent.start ∧ p.extent.Inside f.extent) ∧
    ∀ t ∈ p.type, t.extent.Inside p.extent ∧ ∀ u ∈ t.memberTypes, u.extent.Inside t.extent

instance (f : FunctionDeclaration) : Decidable f.Nested :=
  inferInstanceAs (Decidable (∀ p ∈ f.parameters, _))

/-- The functions of a module stand apart, and their parts stand inside them. -/
structure Module.Nested (m : Module) : Prop where
  functions : ∀ f ∈ m.functions, f.Nested
  apart : m.functions.Pairwise fun f f' => f.extent.Apart f'.extent

end Syntax

/-! ### Repairs of functions -/

/-- The repair of a function in a source: its second parameter violates the rule and can be
repaired. -/
def Bench.Plans (b : Bench) (s : Source) (f : FunctionDeclaration) (e : Edit) : Prop :=
  ∃ p found, f.parameters[1]? = some p ∧
    (outcome (judge Project.graph s.path p) b).1 = .ok (some found) ∧ planRepair p = .ok e

/-- The functions of a source that are handlers and have a repair. -/
def Bench.repairable (b : Bench) (s : Source) : Set FunctionDeclaration :=
  {f | (∃ x ∈ s.handlers, x.declaration = f) ∧ ∃ e, b.Plans s f e}

variable {b b' : Bench} {s : Source} {es : List Edit} {f f' : FunctionDeclaration} {e e' : Edit}

/-- Handlers are functions of the module. -/
theorem Source.declaration_mem (s : Source) {x : Handler} (hx : x ∈ s.handlers) :
    x.declaration ∈ s.module.functions := by
  unfold Source.handlers at hx
  rw [handlers_ofModule] at hx
  obtain ⟨n, -, hx⟩ := List.mem_flatMap.1 hx
  split at hx
  · obtain ⟨f, hf, rfl⟩ := List.mem_map.1 hx
    exact List.mem_of_mem_filter hf
  · cases hx

/-- A function has one repair. -/
theorem Bench.Plans.unique (h : b.Plans s f e) (h' : b.Plans s f e') : e = e' := by
  obtain ⟨p, -, hp, -, he⟩ := h
  obtain ⟨p', -, hp', -, he'⟩ := h'
  rw [hp] at hp'
  cases hp'
  exact Except.ok.inj (he.symm.trans he')

/-- A repair stands inside its function. -/
theorem Bench.Plans.inside (h : b.Plans s f e) (hf : f.Nested) :
    f.extent.start < e.start ∧ e.start ≤ e.stop ∧ e.stop ≤ f.extent.stop := by
  obtain ⟨p, -, hp, -, he⟩ := h
  obtain ⟨⟨hlt, hparameter⟩, htypes⟩ := hf p (List.mem_of_getElem? hp)
  obtain ⟨piece, ms, t, htype, hfind, -, rfl⟩ := planRepair_eq_ok.1 he
  obtain ⟨htype', hmembers⟩ := htypes _ htype
  obtain ⟨m, hm, hnamed⟩ := List.exists_of_findSome?_eq_some hfind
  -- the type that is wrapped is that of a property
  have ht : t ∈ (TypeExpr.object piece ms).memberTypes := by
    refine List.mem_filterMap.2 ⟨m, hm, ?_⟩
    cases m with
    | property name type =>
      rw [propertyNamed] at hnamed
      split at hnamed
      · exact Option.some.inj hnamed
      · cases hnamed
    | method | signature => cases hnamed
  obtain ⟨hstart, hle, hstop⟩ := hmembers t ht
  unfold Extent.Inside at hparameter htype'
  simp only [wrapEdit]
  omega

/-- The repairs of two functions stand apart, and are not the same. -/
theorem Bench.Plans.apart (h : b.Plans s f e) (h' : b.Plans s f' e') (hs : s.module.Nested)
    (hf : f ∈ s.module.functions) (hf' : f' ∈ s.module.functions) (hne : f ≠ f') :
    e ≠ e' ∧ e.overlaps e' = false := by
  have hin := h.inside (hs.functions f hf)
  have hin' := h'.inside (hs.functions f' hf')
  have hapart : f.extent.Apart f'.extent := hs.apart.forall hf hf' hne
  unfold Extent.Apart at hapart
  refine ⟨fun heq => ?_, ?_⟩
  · -- both would have to start at one byte
    rw [heq] at hin
    omega
  · rw [Edit.overlaps, Bool.and_eq_false_iff, decide_eq_false_iff_not, decide_eq_false_iff_not]
    omega

/-! ### Checking one handler after another -/

/-- A bench that has grown from another one while repairs were staged for a source. -/
structure Bench.Staged (b : Bench) (s : Source) (es : List Edit) (b' : Bench) : Prop where
  grown : ∃ c, b.Grows c ∧ c.Shadows s es b'
  nodup : es.Nodup
  /-- What is staged is the repair of a function. -/
  planned : ∀ e ∈ es, ∃ f ∈ s.module.functions, b.Plans s f e

namespace Bench.Staged

/-- Judging a handler: the verdict is that at the start, and nothing is staged. -/
theorem judge (h : b.Staged s es b') (hb : b.Tidy) (p : Parameter) :
    (outcome (RouteLint.judge Project.graph s.path p) b').1 =
        (outcome (RouteLint.judge Project.graph s.path p) b).1 ∧
      b.Staged s es (outcome (RouteLint.judge Project.graph s.path p) b').2 := by
  obtain ⟨c, hgrows, hshadows⟩ := h.grown
  obtain ⟨hsame, hshadows'⟩ := hshadows.judge s.path p
  obtain ⟨hresult, hgrows'⟩ := hb.yields_judge s.path p c hgrows
  exact ⟨hsame.trans hresult, ⟨_, hgrows.trans hgrows', hshadows'⟩, h.nodup, h.planned⟩

/-- Staging the repair of a function never fails. -/
theorem stage (h : b.Staged s es b') (hs : s.module.Nested) (hf : f ∈ s.module.functions)
    (hplans : b.Plans s f e) (event : Event) :
    ∃ b'', outcome (do Project.stage s.path e; tell event : Work Unit) b' = (.ok (), b'') ∧
      b.Staged s (putOnce es e) b'' := by
  obtain ⟨c, hgrows, hshadows⟩ := h.grown
  rcases stage_cases e hshadows.staged with ⟨-, hout⟩ | ⟨⟨hnot, x, hx, hoverlaps⟩, -⟩
  · refine ⟨_, outcome_bind_ok hout, ⟨c, hgrows, hshadows.restage rfl rfl rfl⟩,
      nodup_putOnce h.nodup e, fun x hx => ?_⟩
    rcases mem_putOnce.1 hx with hx | rfl
    · exact h.planned x hx
    · exact ⟨f, hf, hplans⟩
  · -- what it overlaps is either itself or the repair of another function
    obtain ⟨f', hf', hplans'⟩ := h.planned x hx
    by_cases hff' : f = f'
    · subst hff'
      exact absurd (hplans.unique hplans' ▸ hx) hnot
    · rw [(hplans.apart hplans' hs hf hf' hff').2] at hoverlaps
      cases hoverlaps

/-- **What checking one handler does**: it fails if its verdict fails, and never because of an
overlap; otherwise the repair of its function is staged, if there is one. -/
theorem checkHandler (h : b.Staged s es b') (hb : b.Tidy) (hs : s.module.Nested) {x : Handler}
    (hx : x.declaration ∈ s.module.functions) :
    (∃ err b'', outcome (checkHandler s.path true x) b' = (.error err, b'') ∧
      (∀ p, err ≠ .overlap p) ∧ ∃ p, x.context? = some p ∧
        (outcome (RouteLint.judge Project.graph s.path p) b).1 = .error err) ∨
    ∃ y b'' es', outcome (RouteLint.checkHandler s.path true x) b' = (.ok y, b'') ∧
      b.Staged s es' b'' ∧ ∀ e, e ∈ es' ↔ e ∈ es ∨ b.Plans s x.declaration e := by
  unfold RouteLint.checkHandler
  cases hcontext : x.context? with
  | none =>
    refine .inr ⟨none, b', es, rfl, h, fun e => (or_iff_left ?_).symm⟩
    rintro ⟨p, -, hp, -⟩
    rw [show x.declaration.parameters[1]? = none from hcontext] at hp
    cases hp
  | some p =>
    have hp : x.declaration.parameters[1]? = some p := hcontext
    obtain ⟨hsame, hjudged⟩ := h.judge hb p
    -- a repair is planned exactly if this verdict is a violation that can be repaired
    have hplans : ∀ {e}, b.Plans s x.declaration e ↔ ∃ found,
        (outcome (RouteLint.judge Project.graph s.path p) b).1 = .ok (some found) ∧
          planRepair p = .ok e := by
      intro e
      constructor
      · rintro ⟨p', found, hp', hfound, he⟩
        rw [hp] at hp'
        cases hp'
        exact ⟨found, hfound, he⟩
      · rintro ⟨found, hfound, he⟩
        exact ⟨p, found, hp, hfound, he⟩
    dsimp only
    cases hout : outcome (RouteLint.judge Project.graph s.path p) b' with
    | mk r b'' =>
      rw [hout] at hsame hjudged
      cases r with
      | error err =>
        refine .inl ⟨err, b'', outcome_bind_error hout, fun q hq => ?_, p, rfl, hsame.symm⟩
        exact judge_ne_overlap s.path p b q (hsame.symm.trans (congrArg Except.error hq))
      | ok verdict =>
        rw [outcome_bind_ok hout]
        cases verdict with
        | none =>
          refine .inr ⟨none, b'', es, rfl, hjudged, fun e => (or_iff_left ?_).symm⟩
          rw [hplans, ← hsame]
          rintro ⟨found, hfound, -⟩
          cases hfound
        | some found =>
          dsimp only
          cases hplan : planRepair p with
          | error decline =>
            refine .inr ⟨_, b'', es, rfl, hjudged, fun e => (or_iff_left ?_).symm⟩
            rw [hplans, hplan]
            rintro ⟨-, -, he⟩
            cases he
          | ok edit =>
            have hedit : b.Plans s x.declaration edit := hplans.2 ⟨found, hsame.symm, hplan⟩
            obtain ⟨c, hstage, hstaged⟩ := hjudged.stage hs hx hedit (.fixed x.name s.path)
            refine .inr ⟨none, c, _, ?_, hstaged, fun e => ?_⟩
            · have hrest := outcome_bind_ok (f := fun _ => (return none : Work (Option Violation)))
                hstage
              rw [bind_assoc] at hrest
              exact hrest
            · rw [mem_putOnce]
              exact or_congr_right ⟨fun he => he ▸ hedit, fun he => he.unique hedit⟩

/-- Checking handlers, one after the other. -/
theorem checkHandlers (hb : b.Tidy) (hs : s.module.Nested) {xs : List Handler}
    (hxs : ∀ x ∈ xs, x.declaration ∈ s.module.functions) (h : b.Staged s es b') :
    (∃ err b'', outcome (xs.mapM (RouteLint.checkHandler s.path true)) b' = (.error err, b'') ∧
      (∀ p, err ≠ .overlap p) ∧ ∃ x ∈ xs, ∃ p, x.context? = some p ∧
        (outcome (RouteLint.judge Project.graph s.path p) b).1 = .error err) ∨
    ∃ ys b'' es', outcome (xs.mapM (RouteLint.checkHandler s.path true)) b' = (.ok ys, b'') ∧
      b.Staged s es' b'' ∧
        ∀ e, e ∈ es' ↔ e ∈ es ∨ ∃ x ∈ xs, b.Plans s x.declaration e := by
  induction xs generalizing b' es with
  | nil => exact .inr ⟨[], b', es, rfl, h, by simp⟩
  | cons x xs ih =>
    rw [List.mapM_cons]
    rcases h.checkHandler hb hs (hxs x List.mem_cons_self) with
      ⟨err, b₁, hout, hoverlap, hjudge⟩ | ⟨y, b₁, es₁, hout, hstaged, hes₁⟩
    · exact .inl ⟨err, b₁, outcome_bind_error hout, hoverlap, x, List.mem_cons_self, hjudge⟩
    · rw [outcome_bind_ok hout]
      rcases ih (fun x' hx' => hxs x' (List.mem_cons_of_mem _ hx')) hstaged with
        ⟨err, b₂, hrest, hoverlap, x', hx', hjudge⟩ | ⟨ys, b₂, es₂, hrest, hstaged', hes₂⟩
      · exact .inl ⟨err, b₂, outcome_bind_error hrest, hoverlap, x', List.mem_cons_of_mem _ hx',
          hjudge⟩
      · refine .inr ⟨y :: ys, b₂, es₂, outcome_bind_ok hrest, hstaged', fun e => ?_⟩
        rw [hes₂, hes₁, or_assoc, List.exists_mem_cons_iff]

/-- Once all handlers have been checked, there are as many staged edits as functions with a
repair. -/
theorem length_eq (h : b.Staged s es b') (hs : s.module.Nested)
    (hes : ∀ e, e ∈ es ↔ ∃ x ∈ s.handlers, b.Plans s x.declaration e) :
    es.length = (b.repairable s).ncard := by
  have hlist : es.length = (es.toFinset : Set Edit).ncard := by
    rw [Set.ncard_coe_finset, List.toFinset_card_of_nodup h.nodup]
  rw [hlist, eq_comm]
  -- each function is matched with its repair
  refine Set.ncard_congr (fun f hf => hf.2.choose) ?_ ?_ ?_
  · rintro f ⟨⟨x, hx, rfl⟩, he⟩
    exact List.mem_toFinset.2 ((hes _).2 ⟨x, hx, he.choose_spec⟩)
  · rintro f f' ⟨⟨x, hx, rfl⟩, he⟩ ⟨⟨x', hx', rfl⟩, he'⟩ heq
    by_contra hne
    exact (he.choose_spec.apart he'.choose_spec hs (s.declaration_mem hx) (s.declaration_mem hx')
      hne).1 heq
  · intro e he
    obtain ⟨x, hx, hplans⟩ := (hes e).1 (List.mem_toFinset.1 he)
    exact ⟨x.declaration, ⟨⟨x, hx, rfl⟩, e, hplans⟩,
      Bench.Plans.unique (Exists.choose_spec _) hplans⟩

end Bench.Staged

/-! ### A whole check -/

/-- Handlers are looked for before anything is staged. -/
theorem Bench.Tidy.scopeOf_unstaged (hb : b.Tidy) (hs : b.project.source? s.path = some s)
    (hplain : s.path.Plain) (hnone : s.staged = []) :
    ∃ b', outcome (Project.scopeOf s.path) b = (.ok (Scope.ofModule s.module), b') ∧
      b.Staged s [] b' := by
  have hgrows := scopeOf_grows s.path b
  refine ⟨_, Prod.ext ?_ rfl, ⟨_, hgrows, .refl (hgrows.kept hs) hnone⟩, .nil, nofun⟩
  rw [scopeOf_result hb, Path.absolute_of_plain hplain]
  unfold Project.sourceAt
  rw [outcome_get_bind, hs]
  rfl

/-- **A check never fails because of overlapping edits, and applies one for each function with a
repair.**  A source that stands at a resolved path, with nothing staged yet, is checked with repairs.
If that fails, then because a handler cannot be judged; otherwise all edits that were staged while
its handlers were gone through are applied, one for each function. -/
theorem checkSource_edits (hb : b.Tidy) (hs : b.project.source? s.path = some s)
    (hplain : s.path.Plain) (hnone : s.staged = []) (hnested : s.module.Nested) :
    (∃ err b', outcome (checkSource s.path true) b = (.error err, b') ∧
      (∀ p, err ≠ .overlap p) ∧ ∃ x ∈ s.handlers, ∃ p, x.context? = some p ∧
        (outcome (judge Project.graph s.path p) b).1 = .error err) ∨
    ∃ xs b₁ b',
      outcome (do
        let scope ← Project.scopeOf s.path
        (handlers scope).mapM (checkHandler s.path true)) b = (.ok xs, b₁) ∧
      outcome (Project.apply s.path) b₁ = (.ok (b.repairable s).ncard, b') ∧
      outcome (checkSource s.path true) b = (.ok (xs.filterMap id), b') := by
  obtain ⟨b₁, hscope, hstaged⟩ := hb.scopeOf_unstaged hs hplain hnone
  unfold checkSource
  rw [outcome_bind_ok hscope, outcome_bind_ok hscope]
  rcases hstaged.checkHandlers hb hnested fun x => s.declaration_mem with
    ⟨err, b₂, hout, hoverlap, hjudge⟩ | ⟨xs, b₂, es, hout, hstaged', hes⟩
  · exact .inl ⟨err, b₂, outcome_bind_error hout, hoverlap, hjudge⟩
  · obtain ⟨c, -, hshadows⟩ := hstaged'.grown
    have happly := outcome_apply hshadows.staged
    have hlength : es.length = (b.repairable s).ncard := hstaged'.length_eq hnested fun e => by
      rw [hes, or_iff_right List.not_mem_nil]
    refine .inr ⟨xs, b₂, _, hout, hlength ▸ happly, ?_⟩
    refine (outcome_bind_ok hout).trans (outcome_bind_ok (a := ()) ?_)
    rw [outcome_discard, happly]
    rfl

namespace Shared

/-- A function that is exported under two methods, and two functions that are exported under
one:
```
| export function GET(a,b:{params:x}){}
| export {GET as PUT}
| function h(a,b:{params:y}){}
| function h(a,b:{params:z}){}
| export {h as DELETE}
``` -/
def text : String :=
  "export function GET(a,b:\x7bparams:x\x7d)\x7b\x7d\nexport \x7bGET as PUT\x7d\n" ++
  "function h(a,b:\x7bparams:y\x7d)\x7b\x7d\nfunction h(a,b:\x7bparams:z\x7d)\x7b\x7d\n" ++
  "export \x7bh as DELETE\x7d\n"

/-- The file as a source. -/
def source : Source := .ofContent Module.parse Sole.path .typescript (Utf8.encode text)

/-- The functions stand apart, there are four handlers, the check goes through, and what is applied
are three edits. -/
theorem runs : ((∀ f ∈ source.module.functions, f.Nested) ∧
      source.module.functions.Pairwise fun f f' => f.extent.Apart f'.extent) ∧
    source.handlers.map Handler.name = ["GET", "PUT", "DELETE", "DELETE"] ∧
    (outcome (checkSource source.path true) (Sole.bench text)).1.toOption.isSome = true ∧
    (outcome (do
      let scope ← Project.scopeOf source.path
      let _ ← (handlers scope).mapM (checkHandler source.path true)
      Project.apply source.path) (Sole.bench text)).1.toOption = some 3 := by
  simp only [source, Sole.bench_eq, ← eagerParse_eq]
  decide +kernel

end Shared

open Shared in
/-- The function under two methods is repaired once, and the two under one name are both
repaired. -/
theorem checkSource_edits_shared :
    (Sole.bench text).Tidy ∧ (Sole.bench text).project.source? source.path = some source ∧
    source.path.Plain ∧ source.staged = [] ∧ source.module.Nested ∧
    source.handlers.map Handler.name = ["GET", "PUT", "DELETE", "DELETE"] ∧
    ((Sole.bench text).repairable source).ncard = 3 ∧
    ∃ ys b', outcome (checkSource source.path true) (Sole.bench text) = (.ok ys, b') := by
  have hs : (Sole.bench text).project.source? source.path = some source :=
    source?_putSource_self _ _
  have hplain : source.path.Plain := ⟨rfl, by decide⟩
  obtain ⟨⟨hfunctions, hapart⟩, hhandlers, hruns, happlies⟩ := runs
  have hnested : source.module.Nested := ⟨hfunctions, hapart⟩
  refine ⟨Sole.tidy text, hs, hplain, rfl, hnested, hhandlers, ?_⟩
  rcases checkSource_edits (Sole.tidy text) hs hplain rfl hnested with
    ⟨err, b', hout, -⟩ | ⟨xs, b₁, b', hchecked, happly, hout⟩
  · rw [hout] at hruns
    cases hruns
  · rw [← bind_assoc, outcome_bind_ok hchecked, happly] at happlies
    exact ⟨Option.some.inj happlies, _, _, hout⟩

end RouteLint
