import RouteLint.Proofs.Routes.RepairRun

/-!
# The disk after repairs

A run with repairs leaves a disk of the same shape, on which the sources with planned edits have
other bytes.  A later check selects the same files.  If it finds the same type configuration and can
read the files, typing sees what it saw before: the edited sources declare the same types, import
and export the same names, and their handlers are the repaired ones.

## Main results

* `CheckRequest.Repairs.site_eq` — the site of a later check.
* `CheckRequest.Repairs.viewGraph_eq` — **typing does not see repairs.**
* `CheckRequest.Repairs.judge_eq` — parameters are judged as before.
* `CheckRequest.Repairs.handlers_after` — the handlers of a later check are the repaired ones.
-/

namespace RouteLint

open Syntax Project

/-! ### Parameters -/

/-- The parameter of a handler after repairs, up to places. -/
theorem map_bare_context? {es : List Edit} {x x' : Handler} (h : x'.bare = (x.repaired es).bare) :
    x'.context?.map Parameter.bare =
      (x.context?.map (Parameter.repaired es)).map Parameter.bare := by
  rw [← Handler.context?_bare, h, Handler.context?_bare, Handler.context?_repaired]

theorem context?_of_repaired {es : List Edit} {x x' : Handler}
    (h : x'.bare = (x.repaired es).bare) {p' : Parameter} (hp' : x'.context? = some p') :
    ∃ p, x.context? = some p ∧ p'.bare = (p.repaired es).bare := by
  have hcontext := map_bare_context? h
  rw [hp', Option.map_map] at hcontext
  obtain ⟨p, hp, hbare⟩ := Option.map_eq_some_iff.1 hcontext.symm
  exact ⟨p, hp, hbare.symm⟩

/-- A handler with a parameter has one after repairs. -/
theorem context?_repaired_of {es : List Edit} {x x' : Handler} (h : x'.bare = (x.repaired es).bare)
    {p : Parameter} (hp : x.context? = some p) :
    ∃ p', x'.context? = some p' ∧ p'.bare = (p.repaired es).bare := by
  have hcontext := map_bare_context? h
  rw [hp] at hcontext
  exact Option.map_eq_some_iff.1 hcontext

/-! ### Disks of one shape -/

theorem except_map_const {ε α β γ : Type} {x y : Except ε α} {f : α → β}
    (h : x.map f = y.map f) (c : γ) : x.map (fun _ => c) = y.map fun _ => c := by
  cases x with
  | error err =>
    cases y with
    | error err' =>
      cases h
      rfl
    | ok b => cases h
  | ok a =>
    cases y with
    | error err => cases h
    | ok b => rfl

/-- Imports lead to the same files on a disk of the same shape, if what could be read there still
can. -/
theorem Site.target_of_shape {e : Site} {d : Disk} (hshape : d.shape = e.disk.shape)
    {β : Type} {f : Source → β} (h : ∀ p, (Site.source { e with disk := d } (e.home.absolute p)).map
      f = (e.source (e.home.absolute p)).map f) :
    Site.target { e with disk := d } = e.target := by
  funext importer specifier
  unfold Site.target
  dsimp only
  rw [← firstModule_shape d, hshape, firstModule_shape]
  cases firstModule e.disk ((Project.empty e.parse e.home e.config).candidates importer
      specifier) with
  | error err => rfl
  | ok found =>
    cases found with
    | none => rfl
    | some p => exact except_map_const (h p) _

namespace CheckRequest

variable {q : CheckRequest} {parse : Parser} {w w' : Workspace} {vs : List Verdict} {e : Site}

/-- A later check finds the type configuration that was found before. -/
def SameConfig (q : CheckRequest) (w w' : Workspace) : Prop :=
  findConfig w'.disk (w'.home.absolute q.directory) q.config =
    findConfig w.disk (w.home.absolute q.directory) q.config

theorem files_of_shape (hhome : w'.home = w.home) (hshape : w'.disk.shape = w.disk.shape) :
    q.files w' = q.files w := by
  unfold files
  rw [hhome, ← Glob.select_shape w'.disk, hshape, Glob.select_shape]

theorem roots_of_shape (hhome : w'.home = w.home) (hshape : w'.disk.shape = w.disk.shape) :
    q.roots w' = q.roots w := by
  unfold roots
  rw [files_of_shape hhome hshape, hhome]

/-- The site of a check on a disk of the same shape. -/
theorem site_of_shape (hhome : w'.home = w.home) (hshape : w'.disk.shape = w.disk.shape)
    (hconfig : q.SameConfig w w') :
    q.site w' parse = (q.site w parse).map fun e => { e with disk := w'.disk } := by
  have hdirectory : w'.disk.isDirectory (w.home.absolute q.directory) =
      w.disk.isDirectory (w.home.absolute q.directory) := by
    rw [← Disk.isDirectory_shape, hshape, Disk.isDirectory_shape]
  unfold SameConfig at hconfig
  unfold site
  dsimp only
  rw [hconfig, hhome, hdirectory]
  split
  · cases findConfig w.disk (w.home.absolute q.directory) q.config <;> rfl
  · rfl

/-- Where no type configuration is found none is found on a disk of the same shape. -/
theorem sameConfig_of_shape (hhome : w'.home = w.home) (hshape : w'.disk.shape = w.disk.shape)
    (hnamed : q.config = none)
    (habsent : w.disk.isFile ((w.home.absolute q.directory).child "tsconfig.json") = false) :
    q.SameConfig w w' := by
  have hnone : ∀ d : Disk, d.isFile ((w.home.absolute q.directory).child "tsconfig.json") = false →
      findConfig d (w.home.absolute q.directory) q.config = .ok none := by
    intro d hd
    unfold findConfig
    rw [hnamed]
    exact if_neg (Bool.eq_false_iff.1 hd)
  have habsent' : w'.disk.isFile ((w.home.absolute q.directory).child "tsconfig.json") = false := by
    rw [← Disk.isFile_shape, hshape, Disk.isFile_shape]
    exact habsent
  rw [SameConfig, hhome, hnone _ habsent, hnone _ habsent']

namespace Repairs

/-! ### Files -/

theorem files_eq (h : q.Repairs parse w vs w') : q.files w' = q.files w :=
  files_of_shape h.home h.shape

theorem roots_eq (h : q.Repairs parse w vs w') : q.roots w' = q.roots w :=
  roots_of_shape h.home h.shape

/-- The site of a later check. -/
theorem site_eq (h : q.Repairs parse w vs w') (hconfig : q.SameConfig w w')
    (he : q.site w parse = .ok e) : q.site w' parse = .ok { e with disk := w'.disk } := by
  rw [site_of_shape h.home h.shape hconfig, he]
  rfl

/-- Where no type configuration is found none is found later. -/
theorem sameConfig_of_absent (h : q.Repairs parse w vs w') (hnamed : q.config = none)
    (habsent : w.disk.isFile ((w.home.absolute q.directory).child "tsconfig.json") = false) :
    q.SameConfig w w' := sameConfig_of_shape h.home h.shape hnamed habsent

/-- Where nothing is planned the same is read. -/
theorem read_eq (h : q.Repairs parse w vs w') {p : Path} (hp : p.Plain) (hnil : planned vs p = []) :
    w'.disk.read p = w.disk.read p := by
  refine Disk.read_congr h.shape hp (h.untouched _ fun s hs hne hparts => hne ?_)
  rw [Path.eq_of_parts_eq (plain_of_mem hs) hp hparts, hnil]

/-- A source that a later check reads. -/
theorem source_after (h : q.Repairs parse w vs w') {s s' : Source} (hs : s ∈ q.sources w parse)
    (hs' : readSource parse w'.disk s.path = .ok s') :
    s' = .ofContent parse s.path s.language (Edit.applyAll (planned vs s.path) s.content) := by
  obtain ⟨language, content, hlanguage, hread, -, heq⟩ :=
    readSource_eq_ok.1 ((q.mem_sources w).1 hs).2
  obtain ⟨language', content', hlanguage', hread', -, rfl⟩ := readSource_eq_ok.1 hs'
  rw [Disk.read_of_entry? h.shape (plain_of_mem hs) hread (h.entry hs)] at hread'
  rw [hlanguage] at hlanguage'
  cases hread'
  cases hlanguage'
  rw [heq]
  rfl

/-! ### Views -/

/-- Where something is planned there is a source. -/
theorem exists_source (h : q.Repairs parse w vs w') {p : Path} (hp : planned vs p ≠ []) :
    ∃ s ∈ q.sources w parse, s.path = p := by
  obtain ⟨edit, hedit⟩ := List.exists_mem_of_ne_nil _ hp
  obtain ⟨v, hv, hpath, -⟩ := mem_planned.1 hedit
  exact ⟨v.source, (h.mem hv).1, hpath⟩

/-- What typing sees of a source after repairs. -/
theorem view_eq (h : q.Repairs parse w vs w') (he : q.site w parse = .ok e)
    (hparse : ∀ s ∈ q.sources w parse, s.Rewraps parse)
    (hall : ∀ s ∈ q.sources w parse, ∃ s', readSource parse w'.disk s.path = .ok s')
    {p : Path} (hp : p.Plain) :
    (Site.source { e with disk := w'.disk } p).map (fun s => (Scope.ofModule s.module).view) =
      (e.source p).map fun s => (Scope.ofModule s.module).view := by
  obtain ⟨-, config, -, rfl⟩ := site_eq_ok he
  by_cases hnil : planned vs p = []
  · have hread : readSource parse w'.disk p = readSource parse w.disk p := by
      rw [readSource_eq, readSource_eq, h.read_eq hp hnil]
    unfold Site.source
    rw [hread]
  · obtain ⟨s, hs, rfl⟩ := h.exists_source hnil
    obtain ⟨s', hs'⟩ := hall s hs
    have hnew : Site.source ⟨parse, w'.disk, w.home, config⟩ s.path = .ok s' :=
      Site.source_eq_ok.2 hs'
    have hold : Site.source ⟨parse, w.disk, w.home, config⟩ s.path = .ok s :=
      Site.source_eq_ok.2 ((q.mem_sources w).1 hs).2
    rw [hnew, hold]
    refine congrArg Except.ok ?_
    rw [h.source_after hs hs']
    exact (hparse s hs).view (h.plans s hs) rfl

/-- **Typing does not see repairs.** -/
theorem viewGraph_eq (h : q.Repairs parse w vs w') (he : q.site w parse = .ok e)
    (hparse : ∀ s ∈ q.sources w parse, s.Rewraps parse)
    (hall : ∀ s ∈ q.sources w parse, ∃ s', readSource parse w'.disk s.path = .ok s') :
    Site.viewGraph { e with disk := w'.disk } = e.viewGraph := by
  have hview : ∀ p, (Site.source { e with disk := w'.disk } (e.home.absolute p)).map
      (fun s => (Scope.ofModule s.module).view) =
        (e.source (e.home.absolute p)).map fun s => (Scope.ofModule s.module).view :=
    fun p => h.view_eq he hparse hall (Path.absolute_plain _ _)
  have hshape : w'.disk.shape = e.disk.shape := by rw [(site_disk_home he).1, h.shape]
  have htarget : Site.target { e with disk := w'.disk } = e.target :=
    Site.target_of_shape hshape hview
  unfold Site.viewGraph
  rw [htarget]
  exact congrArg (fun scope => ModuleGraph.mk scope e.target) (funext hview)

/-- Parameters are judged as before. -/
theorem judge_eq (h : q.Repairs parse w vs w') (he : q.site w parse = .ok e)
    (hparse : ∀ s ∈ q.sources w parse, s.Rewraps parse)
    (hall : ∀ s ∈ q.sources w parse, ∃ s', readSource parse w'.disk s.path = .ok s')
    (file : Path) {p p' : Parameter} (hp : p'.bare = p.bare) :
    judge (Site.graph { e with disk := w'.disk }) file p' = judge e.graph file p := by
  have hnew := Site.judge_viewGraph { e with disk := w'.disk } file p'
  rw [h.viewGraph_eq he hparse hall, hp, Site.judge_viewGraph] at hnew
  exact hnew.symm

/-! ### Handlers -/

/-- There is a verdict on every handler of a source. -/
theorem exists_verdict (h : q.Repairs parse w vs w') {s : Source} (hs : s ∈ q.sources w parse)
    {x : Handler} (hx : x ∈ s.handlers) : ∃ v ∈ vs, v.source = s ∧ v.handler = x := by
  have hmem : (s, x) ∈ (q.sources w parse).flatMap Source.trials :=
    List.mem_flatMap.2 ⟨s, hs, List.mem_map_of_mem hx⟩
  rw [← h.trials] at hmem
  obtain ⟨v, hv, heq⟩ := List.mem_map.1 hmem
  cases heq
  exact ⟨v, hv, rfl, rfl⟩

/-- The handlers of a later check are the repaired ones. -/
theorem handlers_after (h : q.Repairs parse w vs w') {s s' : Source} (hs : s ∈ q.sources w parse)
    (hparse : s.Rewraps parse) (hs' : readSource parse w'.disk s.path = .ok s') :
    List.Forall₂ (fun old new => new.bare = (old.repaired (planned vs s.path)).bare) s.handlers
      s'.handlers := by
  rw [h.source_after hs hs']
  exact hparse.handlers (h.plans s hs) rfl

end Repairs

end CheckRequest

end RouteLint
