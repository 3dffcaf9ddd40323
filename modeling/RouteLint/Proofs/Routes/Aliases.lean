import RouteLint.Proofs.Routes.Comments
import RouteLint.Proofs.Typing.Unfolding

/-!
# Checks under aliases

Let the parameters of a route have a type, in a handler of one workspace, and the same type with
names written out, in a handler of another or of the same.  Both workspaces declare alike the names
that the type leads to.  If the type is shown within the limit of steps, then a check reports both
handlers or none of them.

A name is written out under the conditions of `Unfolds`: a definition that is put in parentheses,
in the place of a name that is looked up, says itself whether it is a promise; and a name that is
not looked up mentions a promise exactly if its definition does.  Names inside unions,
intersections, arrays, parentheses and other types are not looked up: such a type is judged by its
text alone, so that an alias for a promise does not count as one there.

## Main definitions

* `RouteType` — the type that the parameters of a route are written out with.

## Main results

* `judge_of_not_named` — **in a type without a name of its own, no names are looked up.**
* `checkRoutes_unfolding` — **writing out names does not change which handlers are reported.**
* `checkRoutes_union_alias` — writing out an alias for a promise in a union does.
-/

namespace RouteLint

open Syntax Project

/-! ### Types of the parameters of a route -/

/-- The type that a property is written out with, by itself or as one of the keys of a record. -/
def Property.type? (x : Property) : Option TypeRef :=
  match x.origin with
  | .property t => t
  | .keyed t => some t
  | .method _ => none
  | .derived _ => none

/-- A parameter has a property for the parameters of a route, which is written out with a type. -/
def RouteType {ε : Type} (g : ModuleGraph (Except ε)) (file : Path) (p : Parameter) (r : TypeRef) :
    Prop :=
  ∃ owner x, parameterType g file p = .ok (some owner) ∧
    owner.properties.get? routeMember = some x ∧ x.type? = some r

/-- An object type that a parameter is annotated with. -/
theorem routeType_of_object {ε : Type} (g : ModuleGraph (Except ε)) {file : Path} {p : Parameter}
    {piece : Piece} {ms : List Member} (hp : p.type = some (.object piece ms)) {x : Property}
    (hget : (membersOf ⟨.object piece ms, file, []⟩ ms).get? routeMember = some x) {r : TypeRef}
    (hx : x.type? = some r) : RouteType g file p r := by
  refine ⟨⟨TypeRef.text ⟨.object piece ms, file, []⟩, membersOf ⟨.object piece ms, file, []⟩ ms⟩,
    x, ?_, hget, hx⟩
  unfold parameterType
  rw [hp]
  rfl

theorem Property.typeText_of_type? {ε : Type} (g : ModuleGraph (Except ε)) {x : Property}
    {r : TypeRef} (h : x.type? = some r) : x.typeText g = render g r := by
  obtain ⟨name, origin⟩ := x
  cases origin with
  | property t =>
    cases h
    rfl
  | keyed t =>
    cases h
    rfl
  | method | derived => cases h

/-- What a check makes of the text of a type. -/
def judged (text : String) : Option String := (nonempty text).filter fun t => !mentionsWrapper t

theorem isSome_judged_of_alike {a b : String} (h : Text.Alike a b) :
    (judged a).isSome = (judged b).isSome := by
  unfold judged nonempty
  rw [h.isEmpty]
  split
  · rfl
  · rw [Option.filter_some, Option.filter_some, h.mentions]
    cases mentionsWrapper b <;> rfl

namespace Site

variable {e : Site} {file : Path} {p : Parameter} {r : TypeRef}

/-- Nothing is changed by no comments. -/
theorem graph_commented_self (e : Site) : e.graph.Commented e.graph where
  scope file := by
    unfold graph
    dsimp only
    cases e.source (e.home.absolute file) with
    | error err => exact .error err
    | ok s => exact .ok (Scope.ofModule_commented s.module.commented_refl)
  target _ _ := rfl

/-- Properties are kept under their names. -/
theorem property_name {owner : ResolvedType} (h : parameterType e.graph file p = .ok (some owner))
    {name : String} {x : Property} (hx : owner.properties.get? name = some x) : x.name = name := by
  have hself := e.graph_commented_self.parameterType file
    (optionRel_refl (TypeExpr.commented_refl false) p.type) rfl
  rw [h] at hself
  cases hself with
  | ok hself =>
    cases hself with
    | some hself =>
      rcases optionRel_cases (Table.Related.get? hself name) with
        ⟨hnone, -⟩ | ⟨y, y', hy, -, hproperty⟩
      · rw [hnone] at hx
        cases hx
      · rw [hy] at hx
        cases hx
        exact hproperty.left

theorem viewGraph_scope {s : Source} (h : e.source (e.home.absolute file) = .ok s) :
    e.viewGraph.scope file = .ok (Scope.ofModule s.module).view := by
  unfold viewGraph
  dsimp only
  rw [h]
  rfl

/-- Rendering a type, seen through views. -/
theorem render_viewGraph (e : Site) (r : TypeRef) :
    render e.viewGraph r.bare = render e.graph r := by
  have hview : render e.viewGraph r.bare = (render e.graph r).map id :=
    (graph_answers (e := e)).render r
  rw [hview, Except.map_id, id_eq]

/-- A parameter is judged by the text of the type that the parameters of a route have. -/
theorem judge_of_routeType (h : RouteType e.graph file p r) :
    judge e.graph file p = judged <$> render e.graph r := by
  obtain ⟨owner, x, howner, hx, hr⟩ := h
  have hname := property_name howner hx
  have hkept : owner.properties.get? x.name = some x := by rw [hname, hx]
  unfold judge routeParams
  rw [bind_assoc, except_bind_of_ok howner]
  dsimp only
  rw [hx]
  dsimp only
  rw [propertyType_eq hkept, Property.typeText_of_type? _ hr, bind_map_left, map_eq_pure_bind]
  rfl

/-- It is judged by what a glossary shows for the type, if the limit of steps is not reached. -/
theorem judge_of_show? {k : Glossary} (hk : k.HoldsIn e.viewGraph)
    (h : RouteType e.graph file p r) {s : String}
    (hs : k.show? (maxDepth + 1) r.bare = some s) : judge e.graph file p = .ok (judged s) := by
  have hrender : render e.graph r = .ok s := by
    rw [← render_viewGraph]
    exact hk.renderFrom hs
  rw [judge_of_routeType h, hrender]
  rfl

/-- **In a type without a name of its own, no names are looked up**: whatever the names in it stand
for, the type is judged by its text. -/
theorem judge_of_not_named (h : RouteType e.graph file p r) (hr : r.type.isNamed = false) :
    judge e.graph file p = .ok (judged r.text) := by
  have hrender : render e.graph r = .ok r.text := by
    unfold render
    rw [renderFrom]
    revert hr
    cases r.type with
    | name | generic => exact fun hr => Bool.noConfusion hr
    | object | union | intersection | parenthesized | literal | comment | other =>
      exact fun _ => rfl
  rw [judge_of_routeType h, hrender]
  rfl

end Site

/-! ### Runs -/

/-- The parameters of a route have a type in the handler that a verdict is on. -/
def Verdict.RouteType (v : Verdict) (e : Site) (r : TypeRef) : Prop :=
  ∃ p, v.handler.context? = some p ∧ RouteLint.RouteType e.graph v.source.path p r

/-- Whether a verdict is a violation, by what a glossary shows. -/
theorem Verdict.violation?_of_show? {e : Site} {v : Verdict}
    (hv : verdict e.graph v.source v.handler = .ok v) {r : TypeRef} (hr : v.RouteType e r)
    {k : Glossary} (hk : k.HoldsIn e.viewGraph) {s : String}
    (hs : k.show? (maxDepth + 1) r.bare = some s) :
    v.violation?.isSome = (judged s).isSome := by
  obtain ⟨p, hp, hroute⟩ := hr
  obtain ⟨-, -, -, hfound⟩ := verdict_eq_ok.1 hv
  have hjudge := hfound p hp
  rw [Site.judge_of_show? hk hroute hs] at hjudge
  unfold Verdict.violation?
  rw [hp, ← Except.ok.inj hjudge]
  cases judged s <;> rfl

/-- Verdicts are given at the site of the check. -/
theorem CheckRequest.verdict_of_mem {q : CheckRequest} {parse : Parser} {w : Workspace} {e : Site}
    (he : q.site w parse = .ok e) {vs : List Verdict} (hvs : q.verdicts w parse = .ok vs)
    {v : Verdict} (hv : v ∈ vs) : verdict e.graph v.source v.handler = .ok v := by
  cases hfiles : (q.files w).isEmpty with
  | true =>
    have hempty : q.verdicts w parse = .ok [] := if_pos hfiles
    cases hempty.symm.trans hvs
    exact absurd hv List.not_mem_nil
  | false =>
    obtain ⟨e', he', -, hall⟩ := site_of_verdicts hfiles hvs
    cases he'.symm.trans he
    exact hall v hv

/-- **Writing out names does not change which handlers are reported.**  Let two checks come to no
error, and let a glossary hold for both.  Then a handler of the first whose parameters have a type
that is shown within the limit of steps is reported exactly if a handler of the second is whose
parameters have the same type with names written out. -/
theorem checkRoutes_unfolding {parse : Parser} {q : CheckRequest} {w w' : Workspace} {e e' : Site}
    (he : q.site w parse = .ok e) (he' : q.site w' parse = .ok e') {k : Glossary}
    (hk : k.HoldsIn e.viewGraph) (hk' : k.HoldsIn e'.viewGraph)
    (hok : (checkRoutes parse { q with fix := false } w).1.isError = false)
    (hok' : (checkRoutes parse { q with fix := false } w').1.isError = false) :
    ∃ vs vs' : List Verdict,
      vs.map (fun v => (v.source, v.handler)) = (q.sources w parse).flatMap Source.trials ∧
      vs'.map (fun v => (v.source, v.handler)) = (q.sources w' parse).flatMap Source.trials ∧
      (checkRoutes parse { q with fix := false } w).1.violations =
        vs.filterMap Verdict.violation? ∧
      (checkRoutes parse { q with fix := false } w').1.violations =
        vs'.filterMap Verdict.violation? ∧
      ∀ v ∈ vs, ∀ v' ∈ vs', ∀ r r' : TypeRef, v.RouteType e r → v'.RouteType e' r' →
        (k.show? (maxDepth + 1) r.bare).isSome = true → Unfolds k r.bare r'.bare →
        v.violation?.isSome = v'.violation?.isSome := by
  obtain ⟨vs, hvs, hviolations⟩ := checkRoutes_plain hok
  obtain ⟨vs', hvs', hviolations'⟩ := checkRoutes_plain hok'
  refine ⟨vs, vs', CheckRequest.trials_of_verdicts hvs, CheckRequest.trials_of_verdicts hvs',
    hviolations, hviolations', ?_⟩
  intro v hv v' hv' r r' hr hr' hshown hunfolds
  obtain ⟨s, hs⟩ := Option.isSome_iff_exists.1 hshown
  obtain ⟨s', hs', halike⟩ := hunfolds.show? hs
  rw [Verdict.violation?_of_show? (CheckRequest.verdict_of_mem he hvs hv) hr hk hs,
    Verdict.violation?_of_show? (CheckRequest.verdict_of_mem he' hvs' hv') hr' hk' hs']
  exact isSome_judged_of_alike halike

/-! ### One file -/

namespace Aliases

/-- A file with two aliases and a handler, whose parameters have a type:
```
| type A=Promise<x>
| type B=z
| export function GET(a,b:{params:…}){}
``` -/
def file (type : String) : Bytes := bytesOfLines
  ["type A=Promise<x>", "type B=z",
    "export function GET(a,b:\x7bparams:" ++ type ++ "\x7d)\x7b\x7d"]

/-- The alias for a promise. -/
def promise : TypeAlias where
  extent := ⟨0, 17, 0, 0⟩
  name := "A"
  parameters := []
  value := .generic ⟨⟨7, 17, 0, 7⟩, "Promise<x>"⟩ ⟨"Promise", true⟩ [.name ⟨⟨15, 16, 0, 15⟩, "x"⟩]

/-- The other alias. -/
def plain : TypeAlias where
  extent := ⟨18, 26, 1, 0⟩
  name := "B"
  parameters := []
  value := .name ⟨⟨25, 26, 1, 7⟩, "z"⟩

/-- The second parameter of the handler. -/
def context (t : TypeExpr) : Parameter where
  extent := ⟨49, 60 + t.text.length, 2, 22⟩
  optional := false
  type := some (.object ⟨⟨51, 60 + t.text.length, 2, 24⟩, "\x7bparams:" ++ t.text ++ "\x7d"⟩
    [.property (.identifier "params") (some t)])
  value := none

/-- The handler. -/
def handler (t : TypeExpr) : FunctionDeclaration where
  extent := ⟨34, 63 + t.text.length, 2, 7⟩
  name := "GET"
  generator := false
  parameters := [⟨⟨47, 48, 2, 20⟩, false, none, none⟩, context t]

/-- The tree of the file. -/
def tree (t : TypeExpr) : Module where
  statements := [.declares .none [.type (.alias promise)], .declares .none [.type (.alias plain)],
    .declares .named [.function (handler t)]]
  malformed := false

/-- A type with both aliases: one is an argument, the other is part of a union. -/
def folded : TypeExpr :=
  .generic ⟨⟨59, 67, 2, 32⟩, "F<A,B|y>"⟩ ⟨"F", true⟩
    [.name ⟨⟨61, 62, 2, 34⟩, "A"⟩,
      .union ⟨⟨63, 66, 2, 36⟩, "B|y"⟩
        [.name ⟨⟨63, 64, 2, 36⟩, "B"⟩, .name ⟨⟨65, 66, 2, 38⟩, "y"⟩]]

/-- The same type with both of them written out. -/
def unfolded : TypeExpr :=
  .generic ⟨⟨59, 80, 2, 32⟩, "F<(Promise<x>),(z)|y>"⟩ ⟨"F", true⟩
    [.parenthesized ⟨⟨61, 73, 2, 34⟩, "(Promise<x>)"⟩
        (.generic ⟨⟨62, 72, 2, 35⟩, "Promise<x>"⟩ ⟨"Promise", true⟩
          [.name ⟨⟨70, 71, 2, 43⟩, "x"⟩]),
      .union ⟨⟨74, 79, 2, 47⟩, "(z)|y"⟩
        [.parenthesized ⟨⟨74, 77, 2, 47⟩, "(z)"⟩ (.name ⟨⟨75, 76, 2, 48⟩, "z"⟩),
          .name ⟨⟨78, 79, 2, 51⟩, "y"⟩]]

/-- The site of a check of the file. -/
def site (t : TypeExpr) : Site where
  parse := Module.parse
  disk := (Clauses.workspace (file t.text)).disk
  home := (Clauses.workspace (file t.text)).home
  config := none

theorem site_eq (t : TypeExpr) :
    Sample.request.site (Clauses.workspace (file t.text)) Module.parse = .ok (site t) := rfl

/-- What the file tells about names. -/
def known : Glossary := (Scope.ofModule (tree folded)).view.glossary Comments.path

/-- The source that is read from the file. -/
def source (t : TypeExpr) : Source :=
  .ofContent Module.parse Comments.path .typescript (file t.text)

theorem readSource_file (t : TypeExpr) :
    readSource Module.parse (Clauses.workspace (file t.text)).disk Comments.path =
      .ok (source t) :=
  Comments.readSource_workspace (isOk_decodeChars_bytesOfLines _)

set_option maxRecDepth 100000 in
/-- The file with either of the two types is read as the tree, and is checked without an error.  With
a union in their place it is reported, or it is not. -/
theorem checked :
    (∀ t ∈ [folded, unfolded],
      (source t).module = tree t ∧
        Sample.request.roots (Clauses.workspace (file t.text)) = [Comments.path] ∧
        (checkRoutes Module.parse { Sample.request with fix := false }
          (Clauses.workspace (file t.text))).1.isError = false) ∧
      (checkRoutes Module.parse { Sample.request with fix := false }
        (Clauses.workspace (file "A|y"))).1.violations.length = 1 ∧
      (checkRoutes Module.parse { Sample.request with fix := false }
        (Clauses.workspace (file "(Promise<x>)|y"))).1.isError = false ∧
      (checkRoutes Module.parse { Sample.request with fix := false }
        (Clauses.workspace (file "(Promise<x>)|y"))).1.violations.isEmpty = true := by
  simp only [source, ← eagerParse_eq]
  decide +kernel

theorem known_holds {t : TypeExpr} (ht : t ∈ [folded, unfolded]) :
    known.HoldsIn (site t).viewGraph := by
  obtain ⟨hmodule, -⟩ := checked.1 t ht
  have hhome : (site t).home.absolute Comments.path = Comments.path := rfl
  have hsource : (site t).source ((site t).home.absolute Comments.path) = .ok (source t) := by
    rw [hhome]
    exact Site.source_eq_ok.2 (readSource_file t)
  have hscope := Site.viewGraph_scope hsource
  -- typing sees nothing of the handler
  have hview : (Scope.ofModule (tree t)).view = (Scope.ofModule (tree folded)).view := rfl
  rw [hmodule, hview] at hscope
  exact Scope.holdsIn_glossary hscope

theorem trials_eq {t : TypeExpr} (ht : t ∈ [folded, unfolded]) :
    (Sample.request.sources (Clauses.workspace (file t.text)) Module.parse).flatMap
        Source.trials = [(source t, ⟨"GET", handler t⟩)] := by
  obtain ⟨hmodule, hroots, -⟩ := checked.1 t ht
  have hsources : Sample.request.sources (Clauses.workspace (file t.text)) Module.parse =
      [source t] := by
    unfold CheckRequest.sources
    rw [hroots, List.filterMap_cons, readSource_file]
    rfl
  have hhandlers : handlers (Scope.ofModule (tree t)) = [⟨"GET", handler t⟩] := rfl
  rw [hsources, List.flatMap_singleton, Source.trials, Source.handlers, hmodule, hhandlers,
    List.map_singleton]

/-- The type of the parameters in the file. -/
def route (t : TypeExpr) : TypeRef := ⟨t, Comments.path, []⟩

theorem routeType_context (e : Site) (t : TypeExpr) :
    RouteType e.graph Comments.path (context t) (route t) :=
  routeType_of_object e.graph rfl rfl rfl

theorem shown_folded : (known.show? (maxDepth + 1) (route folded).bare).isSome = true := rfl

theorem text_unfolded {r : TypeRef} (h : known.Echoes r "B" "z") :
    Text.Unfolded (known.Echoes r) "B|y".toList "(z)|y".toList := by
  have haround : Text.Around [] "|y".toList := by
    refine ⟨(fun c hc => nomatch hc), fun c hc => ?_⟩
    cases hc
    decide
  exact .name .refl haround h

theorem route_unfolds : Unfolds known (route folded).bare (route unfolded).bare := by
  have hpromise : Candid known (route promise.value).bare :=
    .promise rfl rfl (by decide) (by decide)
  refine .generic rfl rfl rfl (.cons (.parenthesized rfl rfl rfl rfl hpromise) (.cons ?_ .nil))
  exact .written rfl rfl (text_unfolded ⟨⟨_, rfl, rfl⟩, by decide, by decide⟩)

/-- The one verdict of a check of the file. -/
theorem exists_verdict {t : TypeExpr} {vs : List Verdict}
    (h : vs.map (fun v => (v.source, v.handler)) = [(source t, ⟨"GET", handler t⟩)]) :
    ∃ v, vs = [v] ∧ v.handler.name = "GET" ∧ v.RouteType (site t) (route t) := by
  obtain ⟨v, rfl, hv⟩ := List.map_eq_singleton_iff.1 h
  obtain ⟨hsource, hhandler⟩ := Prod.mk.inj hv
  refine ⟨v, rfl, by rw [hhandler], context t, by rw [hhandler]; rfl, ?_⟩
  rw [hsource]
  exact routeType_context (site t) t

end Aliases

/-- Two aliases that are written out, one as an argument and one in a union. -/
theorem checkRoutes_unfolding_arguments :
    ∃ v v' : Verdict, v.handler.name = "GET" ∧ v'.handler.name = "GET" ∧
      (checkRoutes Module.parse { Sample.request with fix := false }
        (Clauses.workspace (Aliases.file "F<A,B|y>"))).1.violations =
          [v].filterMap Verdict.violation? ∧
      (checkRoutes Module.parse { Sample.request with fix := false }
        (Clauses.workspace (Aliases.file "F<(Promise<x>),(z)|y>"))).1.violations =
          [v'].filterMap Verdict.violation? ∧
      v.violation?.isSome = v'.violation?.isSome := by
  have hfolded : Aliases.folded ∈ [Aliases.folded, Aliases.unfolded] := List.mem_cons_self
  have hunfolded : Aliases.unfolded ∈ [Aliases.folded, Aliases.unfolded] :=
    List.mem_cons_of_mem _ List.mem_cons_self
  have hchecked := Aliases.checked.1
  dsimp only at hchecked ⊢
  obtain ⟨vs, vs', htrials, htrials', hviolations, hviolations', halike⟩ :=
    checkRoutes_unfolding (Aliases.site_eq Aliases.folded) (Aliases.site_eq Aliases.unfolded)
      (Aliases.known_holds hfolded) (Aliases.known_holds hunfolded)
      (hchecked _ hfolded).2.2 (hchecked _ hunfolded).2.2
  rw [Aliases.trials_eq hfolded] at htrials
  rw [Aliases.trials_eq hunfolded] at htrials'
  obtain ⟨v, rfl, hname, hroute⟩ := Aliases.exists_verdict htrials
  obtain ⟨v', rfl, hname', hroute'⟩ := Aliases.exists_verdict htrials'
  have htext : Aliases.folded.text = "F<A,B|y>" := rfl
  have htext' : Aliases.unfolded.text = "F<(Promise<x>),(z)|y>" := rfl
  rw [htext] at hviolations
  rw [htext'] at hviolations'
  exact ⟨v, v', hname, hname', hviolations, hviolations',
    halike v List.mem_cons_self v' List.mem_cons_self _ _ hroute hroute' Aliases.shown_folded
      Aliases.route_unfolds⟩

/-- In a union, writing out an alias for a promise takes the violation away. -/
theorem checkRoutes_union_alias :
    (checkRoutes Module.parse { Sample.request with fix := false }
      (Clauses.workspace (Aliases.file "A|y"))).1.violations.length = 1 ∧
    (checkRoutes Module.parse { Sample.request with fix := false }
      (Clauses.workspace (Aliases.file "(Promise<x>)|y"))).1.isError = false ∧
    (checkRoutes Module.parse { Sample.request with fix := false }
      (Clauses.workspace (Aliases.file "(Promise<x>)|y"))).1.violations = [] := by
  have hchecked := Aliases.checked.2
  dsimp only at hchecked ⊢
  obtain ⟨hlength, hok, hempty⟩ := hchecked
  exact ⟨hlength, hok, List.isEmpty_iff.1 hempty⟩

end RouteLint
