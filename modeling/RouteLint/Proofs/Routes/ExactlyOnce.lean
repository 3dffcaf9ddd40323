import RouteLint.Proofs.Routes.Deciding
import RouteLint.Proofs.Routes.PlainRun
import RouteLint.Proofs.Scope.Tables

/-!
# Every violation once

What a run without repairs reports is said here without scopes, verdicts and tables.  A candidate
is a function that a file declares at its top, with a name.  It is to be reported if the name is
that of a method, the last export of the name comes from the file itself and names the function,
and the type of the parameters in its second parameter is shown as a text without a promise.  A run
reports these candidates, each once, file by file, in the order in which their names are first
exported and then in the order of their declarations.

Names of methods that are exported in quotes are left out here, since a scope keeps the quotes.

## Main definitions

* `Candidate`, `CheckRequest.Reports` — what is to be reported.
* `Candidate.Before` — the order of reports.

## Main results

* `handlers_eq_map_candidates` — the handlers of a source are its candidates.
* `routeParams_eq_some` — what it means that parameters have a type.
* `violations_exactly_once` — **a run reports every candidate that is to be reported, once and in
  order.**
-/

namespace RouteLint

open Syntax Project

/-! ### Exported names -/

namespace Syntax

/-- Whether something is exported under the name of a method in quotes. -/
def ExportedName.quotesMethod (n : ExportedName) : Bool :=
  match n.renamed with
  | some (.quoted _ contents) => httpMethods.contains contents
  | _ => false

/-- Whether a statement exports the name of a method in quotes. -/
def Statement.quotesMethod : Statement → Bool
  | .exports names _ => names.any ExportedName.quotesMethod
  | _ => false

/-- No name of a method is exported in quotes. -/
def Module.WritesMethodsPlainly (m : Module) : Prop :=
  ∀ t ∈ m.statements, t.quotesMethod = false

instance (m : Module) : Decidable m.WritesMethodsPlainly :=
  inferInstanceAs (Decidable (∀ t ∈ m.statements, t.quotesMethod = false))

end Syntax

/-- A name in quotes is not that of a method: no method starts and ends with the same letter. -/
theorem written_quoted_not_method (mark : Char) (contents : String) :
    (ModuleName.quoted mark contents).written ∉ httpMethods := by
  intro hmem
  have hends : ∀ n ∈ httpMethods, n.toList.head? ≠ n.toList.getLast? := by decide
  refine hends _ hmem ?_
  have hchars : (ModuleName.quoted mark contents).written.toList =
      mark :: (contents.toList ++ [mark]) := by
    simp [ModuleName.written]
  rw [hchars, List.head?_cons, ← List.cons_append, List.getLast?_append, List.getLast?_singleton,
    Option.some_or]

/-- Something is kept under the name of a method exactly if it is exported under it. -/
theorem kept_eq_outside {n : ExportedName} (h : n.quotesMethod = false)
    (hmethod : n.kept ∈ httpMethods ∨ n.outside ∈ httpMethods) : n.kept = n.outside := by
  obtain ⟨name, renamed⟩ := n
  cases renamed with
  | none => rfl
  | some r =>
    cases r with
    | identifier text => rfl
    | quoted mark contents =>
      exfalso
      rcases hmethod with hkept | houtside
      · exact written_quoted_not_method mark contents hkept
      · have hcontains : httpMethods.contains contents = true := List.contains_iff_mem.2 houtside
        have hquoted : httpMethods.contains contents = false := h
        rw [hcontains] at hquoted
        cases hquoted

/-- Exports under names of methods are kept as they are made. -/
theorem filter_exportedBy_kept {m : Module} (h : m.WritesMethodsPlainly) :
    (m.exportedBy ExportedName.kept).filter (fun e => e.1 ∈ httpMethods) =
      m.exported.filter fun e => e.1 ∈ httpMethods := by
  unfold Module.exported Module.exportedBy
  rw [List.filter_flatMap, List.filter_flatMap]
  refine List.flatMap_congr fun t ht => ?_
  cases t with
  | exports names specifier =>
    have hnames : ∀ n ∈ names, n.quotesMethod = false := by
      intro n hn
      have hany := h _ ht
      rw [Statement.quotesMethod, List.any_eq_false] at hany
      exact Bool.eq_false_iff.2 (hany n hn)
    clear ht
    simp only [Statement.exportedBy]
    induction names with
    | nil => rfl
    | cons n names ih =>
      have hrest := ih fun n' hn' => hnames n' (List.mem_cons_of_mem _ hn')
      have hn := kept_eq_outside (hnames n List.mem_cons_self)
      rw [List.map_cons, List.map_cons, List.filter_cons, List.filter_cons, hrest]
      by_cases hmethod : n.kept ∈ httpMethods ∨ n.outside ∈ httpMethods
      · rw [hn hmethod]
      · rw [not_or] at hmethod
        rw [if_neg (by simpa using hmethod.1), if_neg (by simpa using hmethod.2)]
  | declares exporting ds => cases exporting <;> rfl
  | imports | exportsAll | other => rfl

/-- The last export of a method is kept as it is made. -/
theorem last?_exportedBy_kept {m : Module} (h : m.WritesMethodsPlainly) {n : String}
    (hn : n ∈ httpMethods) : Table.last? (m.exportedBy ExportedName.kept) n = m.lastExport n := by
  -- only exports under names of methods matter
  have hfilter : ∀ l : List (String × Scope.Export), (l.filter fun e => e.1 = n) =
      (l.filter fun e => e.1 ∈ httpMethods).filter fun e => e.1 = n := by
    intro l
    rw [List.filter_filter]
    refine List.filter_congr fun e _ => ?_
    by_cases he : e.1 = n
    · simp [he, hn]
    · simp [he]
  rw [Module.lastExport, Table.last?, Table.last?, hfilter, filter_exportedBy_kept h, ← hfilter]

/-! ### Candidates -/

/-- A function that a file declares at its top, with a name. -/
structure Candidate where
  /-- The file. -/
  source : Source
  /-- The name. -/
  name : String
  /-- The place of the function among those that the file declares. -/
  index : Nat

namespace Candidate

/-- The function, if the file declares as many. -/
def function? (c : Candidate) : Option FunctionDeclaration :=
  c.source.module.functions[c.index]?

/-- The name is that of a method, and its last export comes from the file itself and names the
function. -/
def Handles (c : Candidate) (f : FunctionDeclaration) : Prop :=
  c.function? = some f ∧ c.name ∈ httpMethods ∧
    c.source.module.lastExport c.name = some ⟨f.name, none⟩

/-- The order of reports: by files, by the first exports of names, and by declarations. -/
def Before (roots : List Path) (a b : Candidate) : Prop :=
  roots.idxOf a.source.path < roots.idxOf b.source.path ∨
    a.source = b.source ∧
      ((a.source.module.exported.map Prod.fst).idxOf a.name <
          (a.source.module.exported.map Prod.fst).idxOf b.name ∨
        a.name = b.name ∧ a.index < b.index)

theorem Before.ne {roots : List Path} {a b : Candidate} (h : a.Before roots b) : a ≠ b := by
  rintro rfl
  rcases h with h | ⟨-, h | ⟨-, h⟩⟩
  · exact Nat.lt_irrefl _ h
  · exact Nat.lt_irrefl _ h
  · exact Nat.lt_irrefl _ h

end Candidate

namespace Source

/-- The candidates of a source under a name, by the places of their functions. -/
def candidatesAs (s : Source) (n : String) : List (FunctionDeclaration × Nat) :=
  if n ∈ httpMethods then
    s.module.functions.zipIdx.filter fun f => s.module.lastExport n = some ⟨f.1.name, none⟩
  else []

/-- The candidates of a source that are handlers, with their functions. -/
def candidates (s : Source) : List (Candidate × FunctionDeclaration) :=
  (once (s.module.exported.map Prod.fst)).flatMap fun n =>
    (s.candidatesAs n).map fun f => (⟨s, n, f.2⟩, f.1)

theorem mem_candidatesAs {s : Source} {n : String} {f : FunctionDeclaration} {i : Nat} :
    (f, i) ∈ s.candidatesAs n ↔ (⟨s, n, i⟩ : Candidate).Handles f := by
  unfold candidatesAs Candidate.Handles Candidate.function?
  by_cases hn : n ∈ httpMethods
  · rw [if_pos hn, List.mem_filter, List.mem_zipIdx_iff_getElem?, decide_eq_true_eq]
    exact and_congr_right fun _ => (and_iff_right hn).symm
  · rw [if_neg hn]
    exact ⟨fun h => absurd h List.not_mem_nil, fun h => absurd h.2.1 hn⟩

/-- The candidates of a source are what is exported under the name of a method. -/
theorem mem_candidates {s : Source} {c : Candidate} {f : FunctionDeclaration} :
    (c, f) ∈ s.candidates ↔ c.source = s ∧ c.Handles f := by
  unfold candidates
  simp only [List.mem_flatMap, List.mem_map, Prod.mk.injEq, Prod.exists]
  constructor
  · rintro ⟨n, -, f', i, hf, rfl, rfl⟩
    exact ⟨rfl, mem_candidatesAs.1 hf⟩
  · rintro ⟨rfl, h⟩
    refine ⟨c.name, mem_once.2 ?_, f, c.index, mem_candidatesAs.2 h, rfl, rfl⟩
    -- a name whose last export is known is exported
    have hlast := h.2.2
    unfold Module.lastExport Table.last? at hlast
    obtain ⟨e, he, -⟩ := Option.map_eq_some_iff.1 hlast
    obtain ⟨hmem, hname⟩ := List.mem_filter.1 (List.mem_of_getLast? he)
    exact List.mem_map.2 ⟨e, hmem, of_decide_eq_true hname⟩

theorem pairwise_candidates (s : Source) (roots : List Path) :
    s.candidates.Pairwise fun a b => a.1.Before roots b.1 := by
  refine List.pairwise_flatMap.2 ⟨fun n _ => ?_, (pairwise_once _).imp fun hab => ?_⟩
  · -- under one name the places of the functions tell
    have hplaces : s.module.functions.zipIdx.Pairwise fun a b => a.2 < b.2 := by
      refine List.pairwise_map.1 ?_
      rw [List.zipIdx_map_snd]
      exact List.pairwise_lt_range'
    refine List.pairwise_map.2 ?_
    unfold candidatesAs
    split
    · exact (hplaces.filter _).imp fun hab => .inr ⟨rfl, .inr ⟨rfl, hab⟩⟩
    · exact .nil
  · intro x hx y hy
    obtain ⟨f, -, rfl⟩ := List.mem_map.1 hx
    obtain ⟨f', -, rfl⟩ := List.mem_map.1 hy
    exact .inr ⟨rfl, .inl hab⟩

end Source

/-- **The handlers of a source are its candidates**, in the same order. -/
theorem handlers_eq_map_candidates {s : Source} (h : s.module.WritesMethodsPlainly) :
    s.handlers = s.candidates.map fun c => ⟨c.1.name, c.2⟩ := by
  -- only names of methods matter
  have hnames : ∀ (l : List String) (f : String → List Handler),
      (∀ n, n ∉ httpMethods → f n = []) →
      l.flatMap f = (l.filter fun n => n ∈ httpMethods).flatMap f := by
    intro l f hf
    induction l with
    | nil => rfl
    | cons n l ih =>
      rw [List.flatMap_cons, List.filter_cons, ih]
      by_cases hn : n ∈ httpMethods
      · rw [if_pos (by simpa using hn), List.flatMap_cons]
      · rw [if_neg (by simpa using hn), hf n hn, List.nil_append]
  have hkept : (((s.module.exportedBy ExportedName.kept).map Prod.fst).filter
      fun n => n ∈ httpMethods) =
      (s.module.exported.map Prod.fst).filter fun n => n ∈ httpMethods := by
    rw [List.filter_map, List.filter_map]
    exact congrArg _ (filter_exportedBy_kept h)
  unfold Source.handlers Source.candidates
  rw [handlers_ofModule, hnames _ _ fun n hn => if_neg hn, filter_once, hkept, ← filter_once,
    List.map_flatMap, hnames (once (s.module.exported.map Prod.fst)) _ fun n hn => ?_]
  · refine List.flatMap_congr fun n hn => ?_
    have hmethod : n ∈ httpMethods := of_decide_eq_true (List.mem_filter.1 hn).2
    rw [if_pos hmethod, Source.candidatesAs, if_pos hmethod, last?_exportedBy_kept h hmethod,
      List.map_map]
    conv_lhs => rw [← List.zipIdx_map_fst 0 s.module.functions]
    rw [List.filter_map, List.map_map]
    rfl
  · rw [Source.candidatesAs, if_neg hn]
    rfl

/-! ### Types of parameters -/

/-- A type of a property is not shown as an empty text. -/
theorem propertyType_ne_empty {ε : Type} {g : ModuleGraph (Except ε)} {owner : ResolvedType}
    {p : Property} {text : String} (h : propertyType g owner p = .ok (some text)) : text ≠ "" := by
  have hnonempty : ∀ {t : String}, nonempty t = some text → text ≠ "" := by
    intro t ht hempty
    unfold nonempty at ht
    split at ht
    · cases ht
    · next hne =>
      cases ht
      exact hne (by rw [hempty]; rfl)
  have hrender : ∀ {t : TypeRef}, nonempty <$> render g t = .ok (some text) → text ≠ "" := by
    intro t ht
    obtain ⟨a, -, ha⟩ := except_ok_of_map ht
    exact hnonempty ha
  unfold propertyType at h
  obtain ⟨declared, hdeclared, h⟩ := except_bind_eq_ok h
  cases declared with
  | some t =>
    cases h
    unfold declaredType at hdeclared
    split at hdeclared
    · exact hrender hdeclared
    · cases hdeclared
      decide
    · cases hdeclared
  | none =>
    dsimp only at h
    unfold ownedType at h
    split at h
    · cases h
    · next q _ =>
      split at h
      · exact hrender h
      · cases h
      · exact hnonempty (Except.ok.inj h)
      · exact hrender h
      · exact hnonempty (Except.ok.inj h)

/-- What it means that the parameters in a handler's second parameter have a type. -/
theorem routeParams_eq_some {ε : Type} {g : ModuleGraph (Except ε)} {file : Path} {p : Parameter}
    {text : String} : routeParams g file p = .ok (some text) ↔
      ∃ owner property, parameterType g file p = .ok (some owner) ∧
        owner.properties.get? routeMember = some property ∧
        propertyType g owner property = .ok (some text) := by
  constructor
  · intro h
    obtain ⟨owner, howner, h⟩ := except_bind_eq_ok h
    cases owner with
    | none => cases h
    | some owner =>
      dsimp only at h
      cases hget : owner.properties.get? routeMember with
      | none =>
        rw [hget] at h
        cases h
      | some property =>
        rw [hget] at h
        exact ⟨owner, property, howner, hget, h⟩
  · rintro ⟨owner, property, howner, hget, h⟩
    unfold routeParams
    rw [except_bind_of_ok howner]
    dsimp only
    rw [hget]
    exact h

theorem judge_eq_some {ε : Type} {g : ModuleGraph (Except ε)} {file : Path} {p : Parameter}
    {text : String} : judge g file p = .ok (some text) ↔
      routeParams g file p = .ok (some text) ∧ ¬ wrapper.toList <:+: text.toList := by
  have hfilter : ∀ found : Option String,
      (found.filter fun t => !mentionsWrapper t) = some text ↔
        found = some text ∧ ¬ wrapper.toList <:+: text.toList := by
    intro found
    rw [Option.filter_eq_some_iff, Bool.not_eq_true', Bool.eq_false_iff, mentionsWrapper,
      Text.mentions, ne_eq, Text.occurs_iff_infix]
  constructor
  · intro h
    obtain ⟨found, hfound, h⟩ := except_bind_eq_ok h
    obtain ⟨rfl, hno⟩ := (hfilter found).1 (Except.ok.inj h)
    exact ⟨hfound, hno⟩
  · rintro ⟨h, hno⟩
    unfold judge
    rw [except_bind_of_ok h]
    exact congrArg Except.ok ((hfilter _).2 ⟨rfl, hno⟩)

/-! ### Reports -/

/-- A function's second parameter has a property for the parameters of a route, and its type is
shown as a text, not empty and without a promise. -/
structure Violates (e : Site) (file : Path) (f : FunctionDeclaration) (p : Parameter)
    (text : String) : Prop where
  second : f.parameters[1]? = some p
  property : ∃ owner property, parameterType e.graph file p = .ok (some owner) ∧
    owner.properties.get? routeMember = some property ∧
    propertyType e.graph owner property = .ok (some text)
  nonempty : text ≠ ""
  unwrapped : ¬ wrapper.toList <:+: text.toList

/-- A candidate is to be reported, as a violation. -/
def CheckRequest.Reports (q : CheckRequest) (parse : Parser) (w : Workspace) (c : Candidate)
    (y : Violation) : Prop :=
  c.source ∈ q.sources w parse ∧ ∃ e f p text, q.site w parse = .ok e ∧ c.Handles f ∧
    Violates e c.source.path f p text ∧ y = violationOf c.source ⟨c.name, f⟩ p text

/-- A violation is what judging the second parameter finds. -/
theorem violates_iff {e : Site} {file : Path} {f : FunctionDeclaration} {p : Parameter}
    {text : String} : Violates e file f p text ↔
      f.parameters[1]? = some p ∧ judge e.graph file p = .ok (some text) := by
  constructor
  · rintro ⟨hp, hproperty, -, hno⟩
    exact ⟨hp, judge_eq_some.2 ⟨routeParams_eq_some.2 hproperty, hno⟩⟩
  · rintro ⟨hp, hjudge⟩
    obtain ⟨hroute, hno⟩ := judge_eq_some.1 hjudge
    obtain ⟨owner, property, howner, hget, htype⟩ := routeParams_eq_some.1 hroute
    exact ⟨hp, ⟨owner, property, howner, hget, htype⟩, propertyType_ne_empty htype, hno⟩

/-- The violation of a verdict on a handler. -/
theorem violation?_eq_some {e : Site} {v : Verdict}
    (hv : verdict e.graph v.source v.handler = .ok v) {y : Violation} :
    v.violation? = some y ↔ ∃ p text, Violates e v.source.path v.handler.declaration p text ∧
      y = violationOf v.source v.handler p text := by
  obtain ⟨-, -, -, hsome⟩ := verdict_eq_ok.1 hv
  constructor
  · intro h
    unfold Verdict.violation? at h
    split at h
    · next p text hp hfound =>
      have hjudge := hsome p hp
      rw [hfound] at hjudge
      exact ⟨p, text, violates_iff.2 ⟨hp, hjudge⟩, (Option.some.inj h).symm⟩
    · cases h
  · rintro ⟨p, text, hviolates, rfl⟩
    obtain ⟨hp, hjudge⟩ := violates_iff.1 hviolates
    rw [hsome p hp] at hjudge
    have hp' : v.handler.context? = some p := hp
    unfold Verdict.violation?
    rw [hp', Except.ok.inj hjudge]

/-- What is left of a list keeps its partners. -/
theorem forall₂_filterMap {α β γ : Type} {R : α → β → Prop} {l : List α} {l' : List β}
    (f : α → Option γ) (h : List.Forall₂ R l l') :
    ∃ l'' : List β, l''.Sublist l' ∧
      List.Forall₂ (fun y b => ∃ a ∈ l, R a b ∧ f a = some y) (l.filterMap f) l'' ∧
      ∀ b ∈ l', b ∈ l'' ∨ ∃ a ∈ l, R a b ∧ f a = none := by
  induction h with
  | nil => exact ⟨[], .slnil, .nil, fun b hb => absurd hb List.not_mem_nil⟩
  | @cons a b l l' hab _ ih =>
    obtain ⟨l'', hsub, hall, hrest⟩ := ih
    have hall' : List.Forall₂ (fun y b => ∃ x ∈ a :: l, R x b ∧ f x = some y)
        (l.filterMap f) l'' :=
      hall.imp fun y b ⟨x, hx, hR, hf⟩ => ⟨x, List.mem_cons_of_mem _ hx, hR, hf⟩
    cases hf : f a with
    | none =>
      rw [List.filterMap_cons_none hf]
      refine ⟨l'', hsub.cons _, hall', fun b' hb' => ?_⟩
      rcases List.mem_cons.1 hb' with rfl | hb'
      · exact .inr ⟨a, List.mem_cons_self, hab, hf⟩
      · rcases hrest b' hb' with hin | ⟨x, hx, hR, hnone⟩
        · exact .inl hin
        · exact .inr ⟨x, List.mem_cons_of_mem _ hx, hR, hnone⟩
    | some y =>
      rw [List.filterMap_cons_some hf]
      refine ⟨b :: l'', hsub.cons_cons _, .cons ⟨a, List.mem_cons_self, hab, hf⟩ hall',
        fun b' hb' => ?_⟩
      rcases List.mem_cons.1 hb' with rfl | hb'
      · exact .inl List.mem_cons_self
      · rcases hrest b' hb' with hin | ⟨x, hx, hR, hnone⟩
        · exact .inl (List.mem_cons_of_mem _ hin)
        · exact .inr ⟨x, List.mem_cons_of_mem _ hx, hR, hnone⟩

theorem idxOf_lt_of_nodup {α : Type} [DecidableEq α] {l : List α} (h : l.Nodup) :
    l.Pairwise fun a b => l.idxOf a < l.idxOf b := by
  refine List.pairwise_iff_getElem.2 fun i j hi hj hij => ?_
  rw [h.idxOf_getElem i hi, h.idxOf_getElem j hj]
  exact hij

namespace CheckRequest

variable (q : CheckRequest) (w : Workspace) (parse : Parser)

/-- The sources of a check stand in the order of the files. -/
theorem pairwise_sources : (q.sources w parse).Pairwise fun a b =>
    (q.roots w).idxOf a.path < (q.roots w).idxOf b.path := by
  refine List.pairwise_filterMap.2 ((idxOf_lt_of_nodup (nodup_once _)).imp fun hab s hs t ht => ?_)
  have hpath : ∀ {p : Path} {s : Source}, (readSource parse w.disk p).toOption = some s →
      s.path = p := by
    intro p s hs
    cases hread : readSource parse w.disk p with
    | error cause =>
      rw [hread] at hs
      cases hs
    | ok s' =>
      rw [hread] at hs
      cases hs
      exact readSource_path hread
  rw [hpath hs, hpath ht]
  exact hab

/-- The candidates of a check that are handlers, with their functions. -/
def candidates : List (Candidate × FunctionDeclaration) :=
  (q.sources w parse).flatMap Source.candidates

theorem pairwise_candidates :
    (q.candidates w parse).Pairwise fun a b => a.1.Before (q.roots w) b.1 := by
  refine List.pairwise_flatMap.2 ⟨fun s _ => s.pairwise_candidates _,
    (q.pairwise_sources w parse).imp fun {s t} hst x hx y hy => ?_⟩
  have hx' := (Source.mem_candidates.1 hx).1
  have hy' := (Source.mem_candidates.1 hy).1
  refine .inl ?_
  rw [hx', hy']
  exact hst

theorem mem_candidates {c : Candidate} {f : FunctionDeclaration} :
    (c, f) ∈ q.candidates w parse ↔ c.source ∈ q.sources w parse ∧ c.Handles f := by
  unfold candidates
  rw [List.mem_flatMap]
  constructor
  · rintro ⟨s, hs, hc⟩
    obtain ⟨rfl, hhandles⟩ := Source.mem_candidates.1 hc
    exact ⟨hs, hhandles⟩
  · rintro ⟨hs, hhandles⟩
    exact ⟨c.source, hs, Source.mem_candidates.2 ⟨rfl, hhandles⟩⟩

variable {q w parse}

/-- The handlers that a check judges are its candidates. -/
theorem trials_eq_map_candidates
    (h : ∀ s ∈ q.sources w parse, s.module.WritesMethodsPlainly) :
    (q.sources w parse).flatMap Source.trials =
      (q.candidates w parse).map fun c => (c.1.source, ⟨c.1.name, c.2⟩) := by
  unfold candidates
  rw [List.map_flatMap]
  refine List.flatMap_congr fun s hs => ?_
  unfold Source.trials
  rw [handlers_eq_map_candidates (h s hs), List.map_map]
  refine List.map_congr_left fun c hc => ?_
  rw [(Source.mem_candidates.1 hc).1]
  rfl

/-- What the verdict on a candidate reports. -/
theorem reports_iff {e : Site} (he : q.site w parse = .ok e) {c : Candidate}
    {f : FunctionDeclaration} (hc : (c, f) ∈ q.candidates w parse) {v : Verdict}
    (hv : verdict e.graph v.source v.handler = .ok v) (hsource : v.source = c.source)
    (hhandler : v.handler = ⟨c.name, f⟩) {y : Violation} :
    v.violation? = some y ↔ q.Reports parse w c y := by
  obtain ⟨hs, hhandles⟩ := (q.mem_candidates w parse).1 hc
  rw [violation?_eq_some hv, hsource, hhandler]
  constructor
  · rintro ⟨p, text, hviolates, hy⟩
    exact ⟨hs, e, f, p, text, he, hhandles, hviolates, hy⟩
  · rintro ⟨-, e', f', p, text, he', hhandles', hviolates, hy⟩
    cases he.symm.trans he'
    cases hhandles.1.symm.trans hhandles'.1
    exact ⟨p, text, hviolates, hy⟩

end CheckRequest

/-- **A run reports every candidate that is to be reported, once and in order.** -/
theorem violations_exactly_once {parse : Parser} {q : CheckRequest} {w : Workspace}
    (hplain : ∀ s ∈ q.sources w parse, s.module.WritesMethodsPlainly)
    (h : (checkRoutes parse { q with fix := false } w).1.isError = false) :
    ∃ cs : List Candidate,
      List.Forall₂ (fun y c => q.Reports parse w c y)
        (checkRoutes parse { q with fix := false } w).1.violations cs ∧
      (∀ c, c ∈ cs ↔ ∃ y, q.Reports parse w c y) ∧
      cs.Nodup ∧ cs.Pairwise (Candidate.Before (q.roots w)) := by
  obtain ⟨vs, hvs, hviolations⟩ := checkRoutes_plain h
  rw [hviolations]
  cases hfiles : (q.files w).isEmpty with
  | true =>
    -- no file is selected, so there is no source
    have hempty : q.verdicts w parse = .ok [] := if_pos hfiles
    cases hempty.symm.trans hvs
    refine ⟨[], .nil, fun c => ⟨fun hc => absurd hc List.not_mem_nil, ?_⟩, .nil, .nil⟩
    rintro ⟨y, hsource, -⟩
    rw [CheckRequest.sources_of_no_files hfiles] at hsource
    exact absurd hsource List.not_mem_nil
  | false =>
    obtain ⟨e, he, hall, hverdicts⟩ := CheckRequest.site_of_verdicts hfiles hvs
    rw [CheckRequest.verdicts_eq he hfiles hall] at hvs
    have htrials := (trials_of_mapM hvs).1
    rw [CheckRequest.trials_eq_map_candidates hplain] at htrials
    -- the verdicts are those on the candidates, one by one
    have hpairs : List.Forall₂ (fun (v : Verdict) (c : Candidate × FunctionDeclaration) =>
        (v.source, v.handler) = (c.1.source, (⟨c.1.name, c.2⟩ : Handler)))
        vs (q.candidates w parse) := by
      rw [← List.forall₂_eq_eq_eq] at htrials
      exact List.forall₂_map_right_iff.1 (List.forall₂_map_left_iff.1 htrials)
    obtain ⟨cs, hsub, hreported, hrest⟩ := forall₂_filterMap Verdict.violation? hpairs
    have hiff : ∀ {c : Candidate} {f : FunctionDeclaration} {v : Verdict}, v ∈ vs →
        (c, f) ∈ q.candidates w parse →
        (v.source, v.handler) = (c.source, (⟨c.name, f⟩ : Handler)) →
        ∀ {y}, v.violation? = some y ↔ q.Reports parse w c y := by
      intro c f v hv hc heq y
      obtain ⟨hsource, hhandler⟩ := Prod.mk.inj heq
      exact CheckRequest.reports_iff he hc (hverdicts v hv) hsource hhandler
    have hordered : (cs.map Prod.fst).Pairwise (Candidate.Before (q.roots w)) :=
      List.pairwise_map.2 ((q.pairwise_candidates w parse).sublist hsub)
    have hreports : List.Forall₂ (fun y c => q.Reports parse w c.1 y)
        (vs.filterMap Verdict.violation?) cs := by
      refine (forall₂_mem hreported).imp ?_
      rintro y c ⟨-, hc, v, hv, heq, hy⟩
      exact (hiff hv (hsub.subset hc) heq).1 hy
    refine ⟨cs.map Prod.fst, List.forall₂_map_right_iff.2 hreports, fun c => ⟨fun hc => ?_, ?_⟩,
      hordered.imp Candidate.Before.ne, hordered⟩
    · obtain ⟨x, hx, rfl⟩ := List.mem_map.1 hc
      obtain ⟨y, -, hy⟩ := exists_left_of_forall₂ hreports hx
      exact ⟨y, hy⟩
    · rintro ⟨y, hy⟩
      have ⟨hs, e', f, p, text, he', hhandles, _⟩ := hy
      have hc : (c, f) ∈ q.candidates w parse := (q.mem_candidates w parse).2 ⟨hs, hhandles⟩
      rcases hrest (c, f) hc with hin | ⟨v, hv, heq, hnone⟩
      · exact List.mem_map_of_mem hin
      · rw [(hiff hv hc heq).2 hy] at hnone
        cases hnone

/-- Whether the functions under a name that are handlers include one with a type that violates the
rule. -/
def CheckRequest.judges (q : CheckRequest) (parse : Parser) (w : Workspace) (name text : String) :
    Bool :=
  (q.site w parse).toOption.any fun e => (q.sources w parse).any fun s =>
    (s.candidatesAs name).any fun f => (f.1.parameters[1]?).any fun p =>
      (judge e.graph s.path p).toOption == some (some text)

theorem CheckRequest.exists_reports {q : CheckRequest} {parse : Parser} {w : Workspace}
    {name text : String} (h : q.judges parse w name text = true) :
    ∃ c y, q.Reports parse w c y ∧ c.name = name := by
  unfold judges at h
  simp only [Option.any_eq_true, List.any_eq_true, beq_iff_eq] at h
  obtain ⟨e, he, s, hs, ⟨f, i⟩, hf, p, hp, hjudge⟩ := h
  exact ⟨⟨s, name, i⟩, _, ⟨hs, e, f, p, text, except_ok_of_toOption he,
    Source.mem_candidatesAs.1 hf, violates_iff.2 ⟨hp, except_ok_of_toOption hjudge⟩, rfl⟩, rfl⟩

/-! ### Clauses -/

namespace Clauses

/-- A file that exports a function under two names, before and after its declaration, and a
function that has a signature as well; a function that a variable holds is not reported:
```
| export {h as PUT}
| export function GET(a):y
| export function GET(a,b:{params:x}){}
| function h(a,b:{params:z}){}
| export const POST=h
| export {h as DELETE}
``` -/
def file : Bytes := bytesOfLines
  ["export \x7bh as PUT\x7d", "export function GET(a):y",
    "export function GET(a,b:\x7bparams:x\x7d)\x7b\x7d",
    "function h(a,b:\x7bparams:z\x7d)\x7b\x7d",
    "export const POST=h", "export \x7bh as DELETE\x7d"]

/-- A file that exports a function under the name of a method in quotes:
```
| function h(a,b:{params:x}){}
| export {h as "GET"}
``` -/
def quoting : Bytes := bytesOfLines
  ["function h(a,b:\x7bparams:x\x7d)\x7b\x7d", "export \x7bh as \"GET\"\x7d"]

/-- One file on a disk. -/
def workspace (content : Bytes) : Workspace where
  disk := ⟨[(["app"], .directory), (["app", "api"], .directory),
    (["app", "api", "a"], .directory), (["app", "api", "a", "route.ts"], .file content)]⟩
  home := ⟨.slash, []⟩
  log := []

set_option maxRecDepth 100000 in
theorem checked :
    (∀ s ∈ Sample.request.sources (workspace file) Module.parse, s.module.WritesMethodsPlainly) ∧
      (checkRoutes Module.parse { Sample.request with fix := false } (workspace file)).1.isError =
        false ∧
      (checkRoutes Module.parse { Sample.request with fix := false }
        (workspace file)).1.violations.length = 3 := by
  rw [← eagerParse_eq]
  decide +kernel

set_option maxRecDepth 100000 in
theorem checked_quoting :
    (checkRoutes Module.parse { Sample.request with fix := false }
        (workspace quoting)).1.isError = false ∧
      (checkRoutes Module.parse { Sample.request with fix := false }
        (workspace quoting)).1.violations.isEmpty = true ∧
      Sample.request.judges Module.parse (workspace quoting) "GET" "x" = true := by
  rw [← eagerParse_eq]
  decide +kernel

end Clauses

theorem violations_exactly_once_clauses :
    (checkRoutes Module.parse { Sample.request with fix := false }
      (Clauses.workspace Clauses.file)).1.violations.length = 3 ∧
    ∃ cs : List Candidate,
      List.Forall₂
        (fun y c => Sample.request.Reports Module.parse (Clauses.workspace Clauses.file) c y)
        (checkRoutes Module.parse { Sample.request with fix := false }
          (Clauses.workspace Clauses.file)).1.violations cs ∧
      (∀ c, c ∈ cs ↔
        ∃ y, Sample.request.Reports Module.parse (Clauses.workspace Clauses.file) c y) ∧
      cs.Nodup ∧
      cs.Pairwise (Candidate.Before (Sample.request.roots (Clauses.workspace Clauses.file))) := by
  obtain ⟨hplainly, hchecked⟩ := Clauses.checked
  dsimp only at hchecked ⊢
  exact ⟨hchecked.2, violations_exactly_once hplainly hchecked.1⟩

/-- A function that is exported under the name of a method in quotes is not reported. -/
theorem violations_quoting_misses :
    (checkRoutes Module.parse { Sample.request with fix := false }
      (Clauses.workspace Clauses.quoting)).1.isError = false ∧
    (checkRoutes Module.parse { Sample.request with fix := false }
      (Clauses.workspace Clauses.quoting)).1.violations = [] ∧
    ∃ c y, Sample.request.Reports Module.parse (Clauses.workspace Clauses.quoting) c y ∧
      c.name = "GET" := by
  have hchecked := Clauses.checked_quoting
  dsimp only at hchecked ⊢
  obtain ⟨hend, hempty, hjudged⟩ := hchecked
  exact ⟨hend, List.isEmpty_iff.1 hempty, CheckRequest.exists_reports hjudged⟩

end RouteLint
