import RouteLint.Proofs.Routes.Aftermath
import RouteLint.Proofs.Routes.ExactlyOnce
import RouteLint.Proofs.Typing.Comments.Parameters

/-!
# Checks under comments

Let comments be put into the types of parameters and into declared types, wherever the files of a
workspace have some, and none of them among the parts of a union, except inside the type of a
member.  Then a check comes to the same end: it judges the same handlers in the same order, and it
reports and repairs those that it did before.

Among the parts of a union a comment is seen: it counts as a part without properties, so the union
has none, and a handler whose parameter is annotated with such a union is never reported.

## Main definitions

* `CheckRequest.Commented` — workspaces that differ by comments, as far as a check reads them.
* `Verdict.Commented` — verdicts on one handler, without and with comments.

## Main results

* `CheckRequest.Commented.verdicts` — the verdicts of both checks.
* `checkRoutes_comments` — **comments do not change which handlers are reported.**
* `checkRoutes_union_comment` — a comment among the parts of a union does.
-/

namespace RouteLint

open Syntax Project

/-! ### Workspaces -/

/-- A workspace in which comments were put into types: every file is read as before, or with
comments in its types. -/
structure CheckRequest.Commented (q : CheckRequest) (parse : Parser) (w w' : Workspace) : Prop where
  home : w'.home = w.home
  shape : w'.disk.shape = w.disk.shape
  config : q.SameConfig w w'
  sources : ∀ p : Path, p.Plain → readSource parse w'.disk p = readSource parse w.disk p ∨
    ∃ s s', readSource parse w.disk p = .ok s ∧ readSource parse w'.disk p = .ok s' ∧
      s.module.Commented s'.module

/-- A source with comments put into types. -/
structure Source.Commented (s s' : Source) : Prop where
  path : s.path = s'.path
  module : s.module.Commented s'.module

theorem Source.commented_refl (s : Source) : s.Commented s := ⟨rfl, s.module.commented_refl⟩

/-- A handler with comments put into the types of its parameters. -/
structure Handler.Commented (x x' : Handler) : Prop where
  name : x.name = x'.name
  declaration : x.declaration.Commented x'.declaration

theorem Handler.Commented.context? {x x' : Handler} (h : x.Commented x') :
    Option.Rel Parameter.Commented x.context? x'.context? := by
  have hparameters := h.declaration.parameters
  unfold Handler.context?
  revert hparameters
  generalize x.declaration.parameters = ps
  generalize x'.declaration.parameters = ps'
  intro hparameters
  cases hparameters with
  | nil => exact .none
  | cons _ hrest =>
    cases hrest with
    | nil => exact .none
    | cons hp _ => exact .some hp

theorem Source.Commented.trials {s s' : Source} (h : s.Commented s') :
    List.Forall₂ (fun t t' => t.1.Commented t'.1 ∧ t.2.Commented t'.2) s.trials s'.trials := by
  unfold Source.trials
  rw [List.forall₂_map_left_iff, List.forall₂_map_right_iff]
  exact (handlers_commented (Scope.ofModule_commented h.module)).imp fun _ _ hx => ⟨h, hx.1, hx.2⟩

/-! ### Verdicts -/

/-- What is reported about a verdict, with or without repairs. -/
def Verdict.reported? (fix : Bool) (v : Verdict) : Option Violation :=
  if fix then v.remaining? else v.violation?

/-- Verdicts on one handler, without and with comments. -/
structure Verdict.Commented (v v' : Verdict) : Prop where
  source : v.source.Commented v'.source
  handler : v.handler.Commented v'.handler
  violation : v.violation?.isSome = v'.violation?.isSome
  repairable : v.isRepairable = v'.isRepairable

theorem Verdict.Commented.reported {v v' : Verdict} (h : v.Commented v') (fix : Bool) :
    (v.reported? fix).isSome = (v'.reported? fix).isSome := by
  unfold Verdict.reported? Verdict.remaining?
  rw [← h.repairable]
  split
  · split
    · rfl
    · exact h.violation
  · exact h.violation

namespace CheckRequest.Commented

variable {q : CheckRequest} {parse : Parser} {w w' : Workspace} {e : Site}

theorem source_related (h : q.Commented parse w w') (he : q.site w parse = .ok e) {p : Path}
    (hp : p.Plain) :
    Related Source.Commented (e.source p) (Site.source { e with disk := w'.disk } p) := by
  obtain ⟨-, config, -, rfl⟩ := site_eq_ok he
  rcases h.sources p hp with hsame | ⟨s, s', hs, hs', hmodule⟩
  · unfold Site.source
    dsimp only
    rw [hsame]
    cases readSource parse w.disk p with
    | error cause => exact .error _
    | ok s => exact .ok s.commented_refl
  · have hold : Site.source ⟨parse, w.disk, w.home, config⟩ p = .ok s := Site.source_eq_ok.2 hs
    have hnew : Site.source ⟨parse, w'.disk, w.home, config⟩ p = .ok s' := Site.source_eq_ok.2 hs'
    rw [hold, hnew]
    exact .ok ⟨(readSource_path hs).trans (readSource_path hs').symm, hmodule⟩

/-- Typing sees modules with comments. -/
theorem graph_commented (h : q.Commented parse w w') (he : q.site w parse = .ok e) :
    e.graph.Commented (Site.graph { e with disk := w'.disk }) where
  scope file := by
    have hsource := h.source_related he (Path.absolute_plain e.home file)
    unfold Site.graph
    dsimp only
    exact hsource.map fun _ _ hs => Scope.ofModule_commented hs.module
  target file specifier := by
    have hshape : w'.disk.shape = e.disk.shape := by rw [(site_disk_home he).1, h.shape]
    have hread : ∀ p, (Site.source { e with disk := w'.disk } (e.home.absolute p)).map
        (fun _ => ()) = (e.source (e.home.absolute p)).map fun _ => () :=
      fun p => ((h.source_related he (Path.absolute_plain e.home p)).map_const ()).symm
    exact (congrFun (congrFun (Site.target_of_shape hshape hread) file) specifier).symm

/-- Parameters are judged alike, also by their default values. -/
theorem judge_related (h : q.Commented parse w w') (he : q.site w parse = .ok e) (file : Path)
    {p p' : Parameter} (hp : p.Commented p') :
    Related (fun found found' => found.isSome = found'.isSome) (judge e.graph file p)
      (judge (Site.graph { e with disk := w'.disk }) file p') := by
  -- a default value can be looked at in the place where it stood before
  have hplace : judge (Site.graph { e with disk := w'.disk }) file p' =
      judge (Site.graph { e with disk := w'.disk }) file { p' with value := p.value } := by
    rw [← Site.judge_viewGraph, ← Site.judge_viewGraph]
    refine congrArg _ ?_
    unfold Parameter.bare
    dsimp only
    rw [hp.value]
  rw [hplace]
  exact (h.graph_commented he).judge file hp.type rfl

theorem verdict_related (h : q.Commented parse w w') (he : q.site w parse = .ok e)
    {s s' : Source} (hs : s.Commented s') {x x' : Handler} (hx : x.Commented x') :
    Related Verdict.Commented (verdict e.graph s x)
      (verdict (Site.graph { e with disk := w'.disk }) s' x') := by
  have hcontext := hx.context?
  unfold verdict
  cases hc : x.context? <;> cases hc' : x'.context? <;> rw [hc, hc'] at hcontext <;> cases hcontext
  · refine .ok ⟨hs, hx, ?_, ?_⟩
    · rw [Verdict.violation?_of_found rfl, Verdict.violation?_of_found rfl]
    · unfold Verdict.isRepairable Verdict.repair?
      dsimp only
      rw [hc, hc']
  · next p p' hp =>
    dsimp only
    rw [← hs.path]
    refine (h.judge_related he s.path hp).map fun found found' hfound => ⟨hs, hx, ?_, ?_⟩
    · unfold Verdict.violation?
      dsimp only
      rw [hc, hc']
      cases found <;> cases found' <;> cases hfound <;> rfl
    · unfold Verdict.isRepairable Verdict.repair?
      dsimp only
      rw [hc, hc']
      have hrepair := isOk_planRepair_commented hp.type
      cases found <;> cases found' <;> cases hfound
      · rfl
      · dsimp only
        revert hrepair
        cases planRepair p <;> cases planRepair p' <;> intro hrepair <;> cases hrepair <;> rfl

/-- **The verdicts of both checks.** -/
theorem verdicts (h : q.Commented parse w w') :
    Related (List.Forall₂ Verdict.Commented) (q.verdicts w parse) (q.verdicts w' parse) := by
  unfold CheckRequest.verdicts
  rw [files_of_shape h.home h.shape, roots_of_shape h.home h.shape,
    site_of_shape h.home h.shape h.config]
  split
  · exact .ok .nil
  · cases he : q.site w parse with
    | error err => exact .error err
    | ok e =>
      have hroots : List.Forall₂ (fun p p' => p = p' ∧ p.Plain) (q.roots w) (q.roots w) := by
        refine List.forall₂_same.2 fun p hp => ⟨rfl, ?_⟩
        obtain ⟨file, -, rfl⟩ := List.mem_map.1 (mem_once.1 hp)
        exact Path.absolute_plain _ _
      have hsources : Related (List.Forall₂ Source.Commented) ((q.roots w).mapM e.source)
          ((q.roots w).mapM (Site.source { e with disk := w'.disk })) := by
        refine Related.mapM hroots fun p p' hp => ?_
        rw [← hp.1]
        exact h.source_related he hp.2
      rw [Except.map, except_bind_of_ok rfl, except_bind_of_ok rfl]
      refine hsources.bind fun ss ss' hss => ?_
      have htrials : List.Forall₂ (fun t t' => t.1.Commented t'.1 ∧ t.2.Commented t'.2)
          (ss.flatMap Source.trials) (ss'.flatMap Source.trials) :=
        List.rel_flatMap hss fun _ _ hs => hs.trials
      exact Related.mapM htrials fun t t' ht => h.verdict_related he ht.1 ht.2

end CheckRequest.Commented

/-! ### Runs -/

/-- What a run reports that does not come to an error. -/
theorem checkRoutes_reported {parse : Parser} {q : CheckRequest} {w : Workspace} {fix : Bool}
    (hparse : fix = true → ∀ s ∈ q.sources w parse, s.Rewraps parse)
    (h : (checkRoutes parse { q with fix } w).1.isError = false) :
    ∃ vs, q.verdicts w parse = .ok vs ∧
      (checkRoutes parse { q with fix } w).1.violations = vs.filterMap (Verdict.reported? fix) := by
  cases fix with
  | false => exact checkRoutes_plain h
  | true =>
    obtain ⟨vs, hvs, -, hviolations⟩ := verdicts_of_repairRun (hparse rfl) h
    exact ⟨vs, hvs, hviolations⟩

/-- **Comments do not change which handlers are reported.**  A check without repairs comes to an
error with them exactly if it does without them.  Runs that come to no error, with repairs or
without, judge the same handlers in the same order, and report the same ones. -/
theorem checkRoutes_comments {parse : Parser} {q : CheckRequest} {w w' : Workspace}
    (h : q.Commented parse w w') :
    (checkRoutes parse { q with fix := false } w').1.isError =
        (checkRoutes parse { q with fix := false } w).1.isError ∧
      ∀ fix : Bool,
        (fix = true → (∀ s ∈ q.sources w parse, s.Rewraps parse) ∧
          ∀ s ∈ q.sources w' parse, s.Rewraps parse) →
        (checkRoutes parse { q with fix } w).1.isError = false →
        (checkRoutes parse { q with fix } w').1.isError = false →
        ∃ vs vs' : List Verdict,
          List.Forall₂ (fun v v' => v.source.path = v'.source.path ∧
            v.handler.name = v'.handler.name ∧
            (v.reported? fix).isSome = (v'.reported? fix).isSome) vs vs' ∧
          vs.map (fun v => (v.source, v.handler)) = (q.sources w parse).flatMap Source.trials ∧
          vs'.map (fun v => (v.source, v.handler)) = (q.sources w' parse).flatMap Source.trials ∧
          (checkRoutes parse { q with fix } w).1.violations =
            vs.filterMap (Verdict.reported? fix) ∧
          (checkRoutes parse { q with fix } w').1.violations =
            vs'.filterMap (Verdict.reported? fix) := by
  have hverdicts := h.verdicts
  constructor
  · rw [isError_plain_eq, isError_plain_eq, hverdicts.isOk_eq]
  · intro fix hparse hok hok'
    obtain ⟨vs, hvs, hviolations⟩ := checkRoutes_reported (fun hfix => (hparse hfix).1) hok
    obtain ⟨vs', hvs', hviolations'⟩ := checkRoutes_reported (fun hfix => (hparse hfix).2) hok'
    obtain ⟨us, hus, hpairs⟩ := hverdicts.exists_ok hvs
    have heq : us = vs' := Except.ok.inj (hus.symm.trans hvs')
    subst heq
    refine ⟨vs, us, ?_, CheckRequest.trials_of_verdicts hvs, CheckRequest.trials_of_verdicts hvs',
      hviolations, hviolations'⟩
    exact hpairs.imp fun v v' hv => ⟨hv.source.path, hv.handler.name, hv.reported fix⟩

/-! ### One file -/

namespace Comments

/-- A file whose handler has a declared type:
```
| type C={params:x}&{q:y}
| export function GET(a,b:C){}
``` -/
def file : Bytes := bytesOfLines
  ["type C=\x7bparams:x\x7d&\x7bq:y\x7d", "export function GET(a,b:C)\x7b\x7d"]

/-- The same file with a comment in the declaration:
```
| type C={params:x}&/*c*/{q:y}
| export function GET(a,b:C){}
``` -/
def fileCommented : Bytes := bytesOfLines
  ["type C=\x7bparams:x\x7d&/*c*/\x7bq:y\x7d", "export function GET(a,b:C)\x7b\x7d"]

/-- The declaration of the type, with what was put between its parts and how long that is. -/
def declaration (k : Nat) (text : String) (between : List TypeExpr) : TypeAlias where
  extent := ⟨0, 23 + k, 0, 0⟩
  name := "C"
  parameters := []
  value := .intersection ⟨⟨7, 23 + k, 0, 7⟩, text⟩
    (.object ⟨⟨7, 17, 0, 7⟩, "\x7bparams:x\x7d"⟩
        [.property (.identifier "params") (some (.name ⟨⟨15, 16, 0, 15⟩, "x"⟩))] ::
      (between ++ [.object ⟨⟨18 + k, 23 + k, 0, 18 + k⟩, "\x7bq:y\x7d"⟩
        [.property (.identifier "q") (some (.name ⟨⟨21 + k, 22 + k, 0, 21 + k⟩, "y"⟩))]]))

/-- The handler, which stands after it. -/
def handler (k : Nat) : FunctionDeclaration where
  extent := ⟨31 + k, 52 + k, 1, 7⟩
  name := "GET"
  generator := false
  parameters := [⟨⟨44 + k, 45 + k, 1, 20⟩, false, none, none⟩,
    ⟨⟨46 + k, 49 + k, 1, 22⟩, false, some (.name ⟨⟨48 + k, 49 + k, 1, 24⟩, "C"⟩), none⟩]

/-- The tree of the file. -/
def tree (k : Nat) (text : String) (between : List TypeExpr) : Module where
  statements := [.declares .none [.type (.alias (declaration k text between))],
    .declares .named [.function (handler k)]]
  malformed := false

set_option maxRecDepth 100000 in
/-- The trees of the two files, and what is computed in checks of them. -/
theorem checked_files :
    (Module.parse .typescript file = tree 0 "\x7bparams:x\x7d&\x7bq:y\x7d" [] ∧
      Module.parse .typescript fileCommented =
        tree 5 "\x7bparams:x\x7d&/*c*/\x7bq:y\x7d" [.comment ⟨⟨18, 23, 0, 18⟩, "/*c*/"⟩]) ∧
    (∀ fix : Bool,
      (checkRoutes Module.parse { Sample.request with fix } (Clauses.workspace file)).1.isError =
          false ∧
        (checkRoutes Module.parse { Sample.request with fix }
          (Clauses.workspace file)).1.violations.length = 1 ∧
        (checkRoutes Module.parse { Sample.request with fix }
          (Clauses.workspace fileCommented)).1.isError = false) ∧
      (∀ s ∈ Sample.request.sources (Clauses.workspace file) Module.parse,
        s.Rewraps Module.parse) ∧
      ∀ s ∈ Sample.request.sources (Clauses.workspace fileCommented) Module.parse,
        s.Rewraps Module.parse := by
  rw [← eagerParse_eq]
  decide +kernel

theorem text_commented : Text.Commented "\x7bparams:x\x7d&\x7bq:y\x7d".toList
    "\x7bparams:x\x7d&/*c*/\x7bq:y\x7d".toList := by
  have hbetween : Text.Between "\x7bparams:x\x7d&".toList "\x7bq:y\x7d".toList := by
    refine ⟨⟨'p', by decide⟩, ⟨'q', by decide⟩, fun c d hc _ => .inl ?_⟩
    cases hc
    decide
  exact .insert .refl hbetween (.block ['c'] _) (by decide)

theorem module_commented :
    (Module.parse .typescript file).Commented (Module.parse .typescript fileCommented) := by
  obtain ⟨⟨hfile, hcommented⟩, -⟩ := checked_files
  rw [hfile, hcommented]
  -- the second part of the intersection stands after the comment, and so does the handler
  have hobject : ∀ {p p' n n' : Piece} (name : PropertyName), p.text = p'.text → n.text = n'.text →
      TypeExpr.Commented false (.object p [.property name (some (.name n))])
        (.object p' [.property name (some (.name n'))]) := by
    intro p p' n n' name hp hn
    exact .object (Text.Commented.of_eq (congrArg String.toList hp))
      (.cons (.property name (.name hn)) .nil)
  have hvalue : TypeExpr.Commented false (declaration 0 "\x7bparams:x\x7d&\x7bq:y\x7d" []).value
      (declaration 5 "\x7bparams:x\x7d&/*c*/\x7bq:y\x7d"
        [.comment ⟨⟨18, 23, 0, 18⟩, "/*c*/"⟩]).value :=
    .intersection text_commented
      (.cons (hobject _ rfl rfl) (.comment _ (.cons (hobject _ rfl rfl) .nil)))
  have hhandler : (handler 0).Commented (handler 5) :=
    ⟨rfl, .cons ⟨.none, rfl⟩ (.cons ⟨.some (.name rfl), rfl⟩ .nil)⟩
  exact .cons (.declares .none (.cons (.type (.alias ⟨rfl, .nil, hvalue⟩)) .nil))
    (.cons (.declares .named (.cons (.function hhandler) .nil)) .nil)

/-- Where the file stands. -/
def path : Path := ⟨.slash, ["app", "api", "a", "route.ts"]⟩

theorem readSource_workspace {content : Bytes} (h : (Utf8.decodeChars content).isOk = true) :
    readSource Module.parse (Clauses.workspace content).disk path =
      .ok (.ofContent Module.parse path .typescript content) := by
  refine readSource_eq_ok.2 ⟨.typescript, content, rfl, rfl, ?_, rfl⟩
  cases hdecode : Utf8.decodeChars content with
  | error err =>
    rw [hdecode] at h
    cases h
  | ok cs => exact ⟨cs, rfl⟩

/-- Two workspaces with one file each, the second with comments. -/
theorem commented_workspace {content content' : Bytes}
    (hdecode : (Utf8.decodeChars content).isOk = true)
    (hdecode' : (Utf8.decodeChars content').isOk = true)
    (h : (Module.parse .typescript content).Commented (Module.parse .typescript content')) :
    Sample.request.Commented Module.parse (Clauses.workspace content)
      (Clauses.workspace content') where
  home := rfl
  shape := rfl
  config := CheckRequest.sameConfig_of_shape rfl rfl rfl rfl
  sources p hp := by
    by_cases hpath : p.parts = path.parts
    · have heq : p = path := Path.eq_of_parts_eq hp ⟨rfl, by decide⟩ hpath
      subst heq
      exact .inr ⟨_, _, readSource_workspace hdecode, readSource_workspace hdecode', h⟩
    · have hshape : (Clauses.workspace content').disk.shape =
          (Clauses.workspace content).disk.shape := rfl
      have hne : ¬["app", "api", "a", "route.ts"] = p.parts := fun heq => hpath heq.symm
      have hentry : (Clauses.workspace content').disk.entry? p.parts =
          (Clauses.workspace content).disk.entry? p.parts := by
        unfold Disk.entry? Clauses.workspace
        dsimp only
        simp only [Table.get?_cons, if_neg hne]
      left
      rw [readSource_eq, readSource_eq, Disk.read_congr hshape hp hentry]

theorem decoded : (Utf8.decodeChars file).isOk = true ∧
    (Utf8.decodeChars fileCommented).isOk = true :=
  ⟨isOk_decodeChars_bytesOfLines _, isOk_decodeChars_bytesOfLines _⟩

/-- A file with a union of two types, up to the second of them:
```
| export function GET(a,b:{params:x}|{params:y}){}
``` -/
def before : String := "export function GET(a,b:\x7bparams:x\x7d|"

/-- The rest of the file. -/
def after : String := "\x7bparams:y\x7d)\x7b\x7d"

/-- A comment between the two. -/
def comment : String := "/*c*/"

theorem between_before_after : Text.Between before.toList after.toList := by
  refine ⟨⟨'e', by decide⟩, ⟨'p', by decide⟩, fun c d hc _ => .inl ?_⟩
  cases hc
  decide

set_option maxRecDepth 100000 in
theorem checked_union :
    (checkRoutes Module.parse { Sample.request with fix := false }
        (Clauses.workspace (bytesOfLines [before ++ after]))).1.violations.length = 1 ∧
      (checkRoutes Module.parse { Sample.request with fix := false }
        (Clauses.workspace (bytesOfLines [before ++ comment ++ after]))).1.isError = false ∧
      (checkRoutes Module.parse { Sample.request with fix := false }
        (Clauses.workspace (bytesOfLines [before ++ comment ++ after]))).1.violations.isEmpty =
          true := by
  rw [← eagerParse_eq]
  decide +kernel

end Comments

/-- A comment in a declared type, between the parts of an intersection: the handler that refers to
the type is reported with it as it is without it. -/
theorem checkRoutes_comments_declared :
    (checkRoutes Module.parse { Sample.request with fix := false }
        (Clauses.workspace Comments.fileCommented)).1.isError =
      (checkRoutes Module.parse { Sample.request with fix := false }
        (Clauses.workspace Comments.file)).1.isError ∧
    ∀ fix : Bool,
      (checkRoutes Module.parse { Sample.request with fix }
        (Clauses.workspace Comments.file)).1.violations.length = 1 ∧
      ∃ vs vs' : List Verdict,
        List.Forall₂ (fun v v' => v.source.path = v'.source.path ∧
          v.handler.name = v'.handler.name ∧
          (v.reported? fix).isSome = (v'.reported? fix).isSome) vs vs' ∧
        vs.map (fun v => (v.source, v.handler)) =
          (Sample.request.sources (Clauses.workspace Comments.file)
            Module.parse).flatMap Source.trials ∧
        vs'.map (fun v => (v.source, v.handler)) =
          (Sample.request.sources (Clauses.workspace Comments.fileCommented)
            Module.parse).flatMap Source.trials ∧
        (checkRoutes Module.parse { Sample.request with fix }
          (Clauses.workspace Comments.file)).1.violations =
            vs.filterMap (Verdict.reported? fix) ∧
        (checkRoutes Module.parse { Sample.request with fix }
          (Clauses.workspace Comments.fileCommented)).1.violations =
            vs'.filterMap (Verdict.reported? fix) := by
  have hcommented := Comments.commented_workspace Comments.decoded.1 Comments.decoded.2
    Comments.module_commented
  have hruns := checkRoutes_comments hcommented
  obtain ⟨-, hchecked, hrewraps⟩ := Comments.checked_files
  refine ⟨hruns.1, fun fix => ?_⟩
  obtain ⟨hok, hlength, hok'⟩ := hchecked fix
  exact ⟨hlength, hruns.2 fix (fun _ => hrewraps) hok hok'⟩

/-- Between the parts of a union, a comment that mentions nothing takes the violation away. -/
theorem checkRoutes_union_comment :
    Text.Between Comments.before.toList Comments.after.toList ∧
    Text.IsComment Comments.comment.toList Comments.after.toList ∧
    Text.occurs wrapper.toList Comments.comment.toList = false ∧
    (checkRoutes Module.parse { Sample.request with fix := false } (Clauses.workspace
      (bytesOfLines [Comments.before ++ Comments.after]))).1.violations.length = 1 ∧
    (checkRoutes Module.parse { Sample.request with fix := false } (Clauses.workspace
      (bytesOfLines [Comments.before ++ Comments.comment ++ Comments.after]))).1.isError = false ∧
    (checkRoutes Module.parse { Sample.request with fix := false } (Clauses.workspace
      (bytesOfLines [Comments.before ++ Comments.comment ++ Comments.after]))).1.violations =
        [] := by
  have hchecked := Comments.checked_union
  dsimp only at hchecked ⊢
  obtain ⟨hlength, hok, hempty⟩ := hchecked
  exact ⟨Comments.between_before_after, .block ['c'] _, by decide, hlength, hok,
    List.isEmpty_iff.1 hempty⟩

end RouteLint
