import RouteLint.Proofs.Routes.Progress

/-!
# Loading what is to be checked

A check starts by loading the files that its pattern selects.  Either all of them can be read, and
the check starts from a bench that holds them as they are on the disk, or it ends there.

## Main results

* `CheckRequest.site_eq_ok` — what the site of a check is.
* `load_cases` — **a check starts from the sources on the disk, or it ends with an error.**
-/

namespace RouteLint

open Syntax Project

/-! ### Roots -/

namespace Site.Reached

variable {e : Site} {roots : List Path} {before : List Event} {b : Bench}

/-- A bench that has settled nothing, with other roots. -/
theorem withRoots (h : e.Reached roots before none [] b) {roots' : List Path}
    (hroots : ∀ p ∈ roots', p.Plain ∧ ∃ s, b.project.source? p = some s) :
    e.Reached roots' before none [] { b with project := { b.project with roots := roots' } } where
  disk := h.disk
  home := h.home
  parse := h.parse
  config := h.config
  roots_eq := rfl
  tidy := ⟨h.tidy.keyed, h.tidy.distinct, h.tidy.cached⟩
  log := h.log
  loaded := hroots
  sources := h.sources
  about _ hv := absurd hv List.not_mem_nil
  accepted := h.accepted

/-- What adding a root can do. -/
theorem add (h : e.Reached roots before none [] b) (path : Path) :
    (∃ t b', e.source (e.home.absolute path) = .ok t ∧
      outcome (Project.add path) b = (.ok (e.home.absolute path), b') ∧
      e.Reached (putOnce roots (e.home.absolute path)) before none [] b' ∧ b.Quiet b') ∨
    (∃ err err' b', e.source (e.home.absolute path) = .error err ∧
      outcome (Project.add path) b = (.error err', b') ∧ b.Quiet b') := by
  have hgrows := fetch_grows path b
  have hout := outcome_fetch path b
  rw [h.home] at hout
  rcases h.agrees_of_nil.sourceAt (e.home.absolute path) with
    ⟨s, t, b', hsource, ht, -⟩ | ⟨err, b', hsource, herr⟩
  · rw [hsource] at hout
    dsimp only at hout
    rw [hout] at hgrows
    have hreached := h.grows hgrows
    have hadd : outcome (Project.add path) b =
        (.ok (e.home.absolute path), { b' with
          project := { b'.project with
            roots := putOnce b'.project.roots (e.home.absolute path) } }) := by
      rw [outcome_add, hout]
    refine .inl ⟨t, _, ht, hadd, ?_, hgrows.quiet.disk, hgrows.quiet.log⟩
    rw [hreached.roots_eq]
    refine hreached.withRoots fun p hp => ?_
    rcases mem_putOnce.1 hp with hp | rfl
    · exact hreached.loaded p hp
    · exact ⟨Path.absolute_plain _ _, s, source?_of_sourceAt hsource⟩
  · rw [hsource] at hout
    dsimp only at hout
    rw [hout] at hgrows
    exact .inr ⟨err, _, _, herr, outcome_bind_error hout, hgrows.quiet⟩

/-- What adding roots one after the other can do. -/
theorem addAll (h : e.Reached roots before none [] b) (files : List Path) :
    (∃ b', (∀ f ∈ files, ∃ t, e.source (e.home.absolute f) = .ok t) ∧
      outcome (files.forM fun file => discard <| Project.add file) b = (.ok (), b') ∧
      e.Reached ((files.map fun f => e.home.absolute f).foldl putOnce roots) before none [] b' ∧
      b.Quiet b') ∨
    (∃ err b', (∃ f ∈ files, ∃ err, e.source (e.home.absolute f) = .error err) ∧
      outcome (files.forM fun file => discard <| Project.add file) b = (.error err, b') ∧
      b.Quiet b') := by
  induction files generalizing roots b with
  | nil => exact .inl ⟨b, fun f hf => absurd hf List.not_mem_nil, rfl, h, .refl b⟩
  | cons f files ih =>
    have hcons : ((f :: files).forM fun file => discard <| Project.add file) =
        (discard <| Project.add f) >>= fun _ =>
          files.forM fun file => discard <| Project.add file := rfl
    rw [hcons]
    rcases h.add f with ⟨t, b₁, ht, hadd, hreached, hquiet⟩ | ⟨err, err', b₁, herr, hadd, hquiet⟩
    · have hfirst : outcome (discard <| Project.add f) b = (.ok (), b₁) := by
        rw [outcome_discard, hadd]
        rfl
      rw [outcome_bind_ok hfirst]
      rcases ih hreached with ⟨b', hall, hout, hreached', hquiet'⟩ | ⟨err, b', hbad, hout, hquiet'⟩
      · refine .inl ⟨b', ?_, hout, hreached', hquiet.trans hquiet'⟩
        intro f' hf'
        rcases List.mem_cons.1 hf' with rfl | hf'
        · exact ⟨t, ht⟩
        · exact hall f' hf'
      · obtain ⟨f', hf', hbad⟩ := hbad
        exact .inr ⟨err, b', ⟨f', List.mem_cons_of_mem _ hf', hbad⟩, hout, hquiet.trans hquiet'⟩
    · have hfirst : outcome (discard <| Project.add f) b = (.error err', b₁) := by
        rw [outcome_discard, hadd]
        rfl
      exact .inr ⟨err', b₁, ⟨f, List.mem_cons_self, err, herr⟩, outcome_bind_error hfirst, hquiet⟩

end Site.Reached

/-! ### Starting a check -/

namespace CheckRequest

variable {q : CheckRequest} {w : Workspace} {parse : Parser}

/-- What the site of a check is. -/
theorem site_eq_ok {e : Site} (h : q.site w parse = .ok e) :
    w.disk.isDirectory (w.home.absolute q.directory) = true ∧
      ∃ config, findConfig w.disk (w.home.absolute q.directory) q.config = .ok config ∧
        e = ⟨parse, w.disk, w.home, config⟩ := by
  unfold site at h
  dsimp only at h
  split at h
  · next hdirectory =>
    split at h
    · cases h
    · next config hconfig =>
      cases h
      exact ⟨hdirectory, config, hconfig, rfl⟩
  · cases h

end CheckRequest

/-- The bench that a check starts with. -/
def Workspace.bench (w : Workspace) : Bench := { w with project := default }

/-- An empty project. -/
theorem Site.reached_empty (e : Site) (b : Bench) (hdisk : b.disk = e.disk)
    (hhome : b.home = e.home) (root : Path) (hproject : b.project = .empty e.parse root e.config) :
    e.Reached [] (b.log.filter Event.isFixed) none [] b where
  disk := hdisk
  home := hhome
  parse := by rw [hproject]; rfl
  config := by rw [hproject]; rfl
  roots_eq := by rw [hproject]; rfl
  tidy := by
    refine ⟨fun {p s} hs => ?_, ?_, fun {p revision scope} hc => ?_⟩
    · rw [hproject] at hs
      cases hs
    · rw [hproject]
      exact Table.distinct_nil
    · rw [hproject] at hc
      cases hc
  log := (List.append_nil _).symm
  loaded p hp := absurd hp List.not_mem_nil
  sources {p s} hs := by
    rw [hproject] at hs
    cases hs
  about v hv := absurd hv List.not_mem_nil
  accepted _ := .nil

/-- Loading from a directory and with a type configuration that can be read. -/
theorem outcome_load {parse : Parser} {q : CheckRequest} {w : Workspace}
    {config : Option TypeConfig} (hdirectory : w.disk.isDirectory (w.home.absolute q.directory) = true)
    (hconfig : findConfig w.disk (w.home.absolute q.directory) q.config = .ok config)
    (files : List Path) :
    outcome (Project.load parse q.directory q.config files) w.bench =
      outcome (files.forM fun file => discard <| Project.add file)
        { w.bench with project := .empty parse (w.home.absolute q.directory) config } := by
  have hdisk : w.bench.disk = w.disk := rfl
  have hhome : w.bench.home = w.home := rfl
  unfold Project.load
  rw [outcome_get_bind]
  dsimp only
  rw [hdisk, hhome, hdirectory, hconfig]
  rfl

/-- Loading fails where the site of a check is missing. -/
theorem outcome_load_of_error {parse : Parser} {q : CheckRequest} {w : Workspace}
    {err : Project.Error} (h : q.site w parse = .error err) (files : List Path) :
    outcome (Project.load parse q.directory q.config files) w.bench = (.error err, w.bench) := by
  have hdisk : w.bench.disk = w.disk := rfl
  have hhome : w.bench.home = w.home := rfl
  unfold CheckRequest.site at h
  unfold Project.load
  rw [outcome_get_bind]
  dsimp only at h ⊢
  rw [hdisk, hhome]
  cases hdirectory : w.disk.isDirectory (w.home.absolute q.directory) with
  | false =>
    rw [hdirectory] at h
    cases h
    rfl
  | true =>
    rw [hdirectory] at h
    cases hconfig : findConfig w.disk (w.home.absolute q.directory) q.config with
    | error err' =>
      rw [hconfig] at h
      cases h
      rfl
    | ok config =>
      rw [hconfig] at h
      cases h

/-- **A check starts from the sources on the disk, or it ends with an error.** -/
theorem load_cases (parse : Parser) (q : CheckRequest) (w : Workspace) :
    (∃ e b, q.site w parse = .ok e ∧ (∀ r ∈ q.roots w, ∃ t, e.source r = .ok t) ∧
      outcome (Project.load parse q.directory q.config (q.files w)) w.bench = (.ok (), b) ∧
      e.Reached (q.roots w) (w.log.filter Event.isFixed) none [] b ∧ w.bench.Quiet b) ∨
    (∃ err b, outcome (Project.load parse q.directory q.config (q.files w)) w.bench =
        (.error err, b) ∧ w.bench.Quiet b ∧
      ∀ e, q.site w parse = .ok e → ∃ r ∈ q.roots w, ∃ err, e.source r = .error err) := by
  cases hsite : q.site w parse with
  | error err =>
    refine .inr ⟨err, _, outcome_load_of_error hsite _, .refl _, fun e he => ?_⟩
    cases he
  | ok e =>
    obtain ⟨hdirectory, config, hconfig, rfl⟩ := CheckRequest.site_eq_ok hsite
    rw [outcome_load hdirectory hconfig]
    have hempty := Site.reached_empty ⟨parse, w.disk, w.home, config⟩
      { w.bench with project := .empty parse (w.home.absolute q.directory) config } rfl rfl _ rfl
    have hquiet : w.bench.Quiet
        { w.bench with project := .empty parse (w.home.absolute q.directory) config } :=
      ⟨rfl, [], (List.append_nil _).symm⟩
    rcases hempty.addAll (q.files w) with
      ⟨b, hall, hout, hreached, hquiet'⟩ | ⟨err, b, ⟨f, hf, hbad⟩, hout, hquiet'⟩
    · refine .inl ⟨_, b, rfl, fun r hr => ?_, hout, hreached, hquiet.trans hquiet'⟩
      obtain ⟨f, hf, rfl⟩ := List.mem_map.1 (mem_once.1 hr)
      exact hall f hf
    · refine .inr ⟨err, b, hout, hquiet.trans hquiet', fun e he => ?_⟩
      cases he
      exact ⟨_, mem_once.2 (List.mem_map_of_mem hf), hbad⟩

end RouteLint
