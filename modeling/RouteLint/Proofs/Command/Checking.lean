import RouteLint.Command.Run
import RouteLint.Proofs.Coupling
import RouteLint.Proofs.Json.Documents
import RouteLint.Proofs.Rules.Dispatch

/-!
# Checking once

A check reads a configuration, puts its rules over those of the preset, runs the rules and shows
what comes of it.  Showing changes nothing but the screen, so what is done to the workspace is what
running the rules does.  The check ends with zero exactly if every run is a success; that is so if
there is nothing to run.

## Main definitions

* `besideScreen` — a session that does to the workspace what a computation does.

## Main results

* `Config.distinct_rules_load` — no configuration that is loaded sets a rule twice.
* `check_dispatches` — the rules that a check runs, and how it ends.
-/

namespace RouteLint

open Validation

/-! ### Configurations -/

namespace Validation

theorem Checked.map_eq_valid {α β : Type} {f : α → β} {x : Checked α} {b : β}
    (h : f <$> x = .valid b) : ∃ a, x = .valid a ∧ f a = b := by
  cases x with
  | valid a => exact ⟨a, rfl, Checked.valid.inj h⟩
  | invalid issues => cases h

theorem Checked.seq_eq_valid {α β : Type} {f : Checked (α → β)} {x : Checked α} {b : β}
    (h : f <*> x = .valid b) : ∃ g a, f = .valid g ∧ x = .valid a ∧ g a = b := by
  cases f with
  | invalid issues => cases x <;> cases h
  | valid g =>
    cases x with
    | invalid issues => cases h
    | valid a => exact ⟨g, a, rfl, rfl, Checked.valid.inj h⟩

theorem Checked.under_eq_valid {α : Type} {part : String} {x : Checked α} {a : α}
    (h : x.under part = .valid a) : x = .valid a := by
  cases x with
  | valid a' => exact h
  | invalid issues => cases h

theorem Field.get?_of_find? {f : Field} {es : Entries} {name : String} {v : Json.Value}
    (h : f.find? es = some (name, v)) : ∃ k, es.get? k = some v := by
  unfold Field.find? at h
  split at h
  · next hv =>
    cases h
    exact ⟨_, hv⟩
  · obtain ⟨v', hv, heq⟩ := Option.map_eq_some_iff.1 h
    cases heq
    exact ⟨_, hv⟩

/-- Entries that may be left out: none, or those of an object under some key. -/
theorem optional_entries_eq_valid {es rules : Entries} {f : Field}
    (h : optional es f [] entries = .valid rules) :
    rules = [] ∨ ∃ k, es.get? k = some (.object rules) := by
  unfold optional at h
  split at h
  · next name v hv =>
    obtain ⟨k, hk⟩ := Field.get?_of_find? hv
    have hentries := Checked.under_eq_valid h
    unfold entries at hentries
    split at hentries
    · cases hentries
      exact .inr ⟨k, hk⟩
    · cases hentries
  · cases h
    exact .inl rfl

end Validation

namespace Config

theorem distinct_rules_of_check {v : Json.Value} {c : Config} (hv : v.Proper)
    (h : check v = .valid c) : c.rules.Distinct := by
  cases hv with
  | object ht hvalues =>
    obtain ⟨_, _, h₁, -, rfl⟩ := Checked.seq_eq_valid h
    obtain ⟨_, rules, h₂, hrules, rfl⟩ := Checked.seq_eq_valid h₁
    obtain ⟨_, _, h₃, -, rfl⟩ := Checked.seq_eq_valid h₂
    obtain ⟨_, _, h₄, -, rfl⟩ := Checked.seq_eq_valid h₃
    obtain ⟨_, _, h₅, -, rfl⟩ := Checked.seq_eq_valid h₄
    obtain ⟨_, _, h₆, -, rfl⟩ := Checked.seq_eq_valid h₅
    obtain ⟨_, -, rfl⟩ := Checked.map_eq_valid h₆
    obtain rfl | ⟨k, hk⟩ := optional_entries_eq_valid hrules
    · exact Table.distinct_nil
    · cases hvalues k _ hk with
      | object ht' _ => exact ht'
  | _ => cases h

theorem proper_of_readFile {d : Disk} {p : Path} {v : Json.Value}
    (h : Json.readFile d p = .ok v) : v.Proper := by
  unfold Json.readFile Json.readBytes at h
  split at h
  · cases h
  · split at h
    · cases h
    · split at h
      · cases h
      · next hv =>
        cases h
        exact Json.proper_of_readChars hv

/-- Loading a configuration tells whether it cannot be used, and does nothing else. -/
theorem load_run (path : String) (w : Workspace) :
    (load path).run w = match read w.disk (w.home.absolute (Path.parse path)) with
      | .ok c => (c, w)
      | .error reason => ({}, w.tell (.configUnusable path reason)) := by
  cases hread : read w.disk (w.home.absolute (Path.parse path)) <;>
    (simp [load, hread]; rfl)

theorem home_load (path : String) (w : Workspace) : ((load path).run w).2.home = w.home := by
  rw [load_run]
  split <;> rfl

/-- No configuration that is loaded sets a rule twice. -/
theorem distinct_rules_load (path : String) (w : Workspace) :
    ((load path).run w).1.rules.Distinct := by
  rw [load_run]
  split
  · next c hread =>
    unfold read at hread
    split at hread
    · cases hread
    · next v hv =>
      cases hcheck : check v with
      | valid c' =>
        rw [hcheck] at hread
        cases hread
        exact distinct_rules_of_check (proper_of_readFile hv) hcheck
      | invalid issues =>
        rw [hcheck] at hread
        cases hread
  · exact Table.distinct_nil

/-- No preset sets a rule twice. -/
theorem distinct_preset (name : String) : (preset name).Distinct := by
  have hall : ∀ es ∈ presets.values, Table.Distinct es := by
    intro es hes
    obtain ⟨e, he, rfl⟩ := List.mem_map.1 hes
    obtain ⟨n, -, rfl⟩ := List.mem_map.1 he
    exact List.nodup_singleton _
  unfold preset
  cases h : presets.get? name with
  | none => exact Table.distinct_nil
  | some es => exact hall es (List.mem_map.2 ⟨(name, es), Table.mem_of_get? h, rfl⟩)

/-- The rules of a preset come first, and those of the configuration are put over them. -/
theorem overlays_withPreset {c : Config} (hc : c.rules.Distinct) (name : Option String) :
    Table.Overlays ((name.map preset).getD []) c.rules (c.withPreset name).rules := by
  cases name with
  | none => exact hc.overlays_nil
  | some n =>
    unfold withPreset
    dsimp only
    split
    · next hn =>
      obtain rfl : n = "" := by simpa using hn
      exact hc.overlays_nil
    · exact (distinct_preset n).overlays_merge hc

end Config

namespace Command

open Session

/-! ### Showing -/

/-- A session does to the workspace what a computation does, whatever it shows. -/
def besideScreen : Coupling Session (StateM Workspace) where
  Maps ψ x y := ∀ d : Desk,
    ψ (x.run d).1 = (y.run d.toWorkspace).1 ∧ (x.run d).2.toWorkspace = (y.run d.toWorkspace).2
  pure ψ a d := ⟨rfl, rfl⟩
  bind := by
    intro α β γ δ ψ χ x y f g hx hf d
    obtain ⟨ha, hw⟩ := hx d
    have hnext := hf (x.run d).1 (x.run d).2
    rw [ha, hw] at hnext
    exact hnext

theorem besideScreen_onWorkspace {α : Type} (x : StateM Workspace α) :
    besideScreen.Maps id (onWorkspace x) x := fun _ => ⟨rfl, rfl⟩

theorem besideScreen_onScreen (f : Console.Screen → Console.Screen) :
    besideScreen.Maps id (onScreen f) (pure ()) := fun _ => ⟨rfl, rfl⟩

/-- Showing something first. -/
theorem besideScreen_after {α β : Type} {ψ : α → β} {x : Session Unit} {y : Session α}
    {z : StateM Workspace β} (hx : besideScreen.Maps id x (pure ()))
    (hy : besideScreen.Maps ψ y z) : besideScreen.Maps ψ (do x; y) z := by
  have h := besideScreen.bind (g := fun _ => z) hx fun _ => hy
  rwa [pure_bind] at h

/-- Showing what came of something. -/
theorem besideScreen_shown {α : Type} {x : Session α} {y : StateM Workspace α}
    {f : α → Session Unit} (hx : besideScreen.Maps id x y)
    (hf : ∀ a, besideScreen.Maps id (f a) (pure ())) :
    besideScreen.Maps id (do let a ← x; f a; pure a) y := by
  have h := besideScreen.bind hx (g := fun a => pure a) fun a =>
    besideScreen_after (hf a) (besideScreen.pure id a)
  rwa [bind_pure] at h

theorem besideScreen_forM {ι : Type} {f : ι → Session Unit}
    (h : ∀ i, besideScreen.Maps id (f i) (pure ())) (l : List ι) :
    besideScreen.Maps id (l.forM f) (pure ()) := by
  induction l with
  | nil => exact besideScreen.pure id ()
  | cons i l ih => exact besideScreen_after (h i) ih

theorem besideScreen_showRun (run : RuleRun) :
    besideScreen.Maps id (showRun run) (pure ()) := by
  unfold showRun
  split
  · exact besideScreen_onScreen _
  · refine besideScreen_after (besideScreen_onScreen _) ?_
    refine besideScreen_after (besideScreen_forM (fun v => besideScreen_onScreen _) _) ?_
    exact besideScreen_onScreen _

theorem besideScreen_showSummary (runs : List RuleRun) :
    besideScreen.Maps id (showSummary runs) (pure ()) := by
  unfold showSummary
  dsimp only
  split
  · exact besideScreen_onScreen _
  · exact besideScreen_onScreen _

/-- Running a rule and showing its result does what running it does. -/
theorem besideScreen_showRule (q : RunRequest) (rule : PlannedRule) :
    besideScreen.Maps id (showRule q rule) (runRule q rule) := by
  unfold showRule
  refine besideScreen_after (besideScreen_onScreen _) ?_
  exact besideScreen_shown (besideScreen_onWorkspace _) besideScreen_showRun

theorem besideScreen_showRules (q : RunRequest) (rules : List PlannedRule) :
    besideScreen.Maps id (rules.mapM (showRule q)) (rules.mapM (runRule q)) := by
  have h := besideScreen.mapM_same rules fun rule _ => besideScreen_showRule q rule
  rwa [List.map_id_fun] at h

/-- A check does what loading the configuration and running its rules does. -/
theorem besideScreen_runCheck (handlers : Handlers) (o : CheckOptions) :
    besideScreen.Maps id (runCheck handlers o) (do
      let config ← Config.load o.config
      let q : RunRequest := ⟨workingDirectory o (← get).home, o.typeConfig, o.fix⟩
      runRules handlers q (config.withPreset o.preset).rules) := by
  unfold runCheck
  refine besideScreen.bind (besideScreen_onWorkspace _) fun config => ?_
  dsimp only [id]
  generalize (config.withPreset o.preset).rules = rules
  split
  · next hempty =>
    obtain rfl : rules = [] := by simpa using hempty
    exact besideScreen_after (besideScreen_onScreen _) fun d => ⟨rfl, rfl⟩
  · have hhome : besideScreen.Maps Desk.toWorkspace (get : Session Desk) get := fun d => ⟨rfl, rfl⟩
    refine besideScreen.bind hhome fun d => ?_
    refine besideScreen_after (besideScreen_onScreen _) ?_
    refine besideScreen.bind (besideScreen_onWorkspace _) fun planned => ?_
    exact besideScreen_shown (besideScreen_showRules _ planned) besideScreen_showSummary

/-- The runs of a check, and what becomes of the workspace, are those of running the rules. -/
theorem runRules_of_check (handlers : Handlers) (o : CheckOptions) (d : Desk) :
    (runRules handlers ⟨workingDirectory o d.home, o.typeConfig, o.fix⟩
      (((Config.load o.config).run d.toWorkspace).1.withPreset o.preset).rules).run
        ((Config.load o.config).run d.toWorkspace).2 =
      (((runCheck handlers o).run d).1, ((runCheck handlers o).run d).2.toWorkspace) := by
  obtain ⟨hruns, hw⟩ := besideScreen_runCheck handlers o d
  rw [← Config.home_load o.config d.toWorkspace]
  exact Prod.ext hruns.symm hw.symm

/-! ### How a check ends -/

theorem exitCode_eq_zero (runs : List RuleRun) :
    exitCode runs = 0 ↔ ∀ r ∈ runs, r.result.success = true := by
  unfold exitCode summarize
  rw [← List.all_eq_true]
  by_cases h : (runs.all fun r => r.result.success) = true
  · simp only [h, if_true]
  · simp only [h]
    decide

/-- A check runs the rules of its configuration, put over those of its preset: those that are turned
on, each once and in their order, as running rules does.  It ends with zero exactly if every run is
a success. -/
theorem check_dispatches (handlers : Handlers) (happenings : List Happening) (o : CheckOptions)
    (verbose : Bool) (d : Desk) :
    ∃ rules : Entries,
      let loaded := (Config.load o.config).run d.toWorkspace
      let q : RunRequest := ⟨workingDirectory o d.home, o.typeConfig, o.fix⟩
      let checked := (runCheck handlers o).run d
      Table.Overlays ((o.preset.map preset).getD []) loaded.1.rules rules ∧
        Dispatches handlers q rules loaded.2 checked.1 checked.2.toWorkspace ∧
        (runRules handlers q rules).run loaded.2 = (checked.1, checked.2.toWorkspace) ∧
        (((run handlers happenings (.check o verbose)).run d).1 = 0 ↔
          ∀ r ∈ checked.1, r.result.success = true) := by
  refine ⟨_, ?_, ?_, runRules_of_check handlers o d, exitCode_eq_zero _⟩
  · exact Config.overlays_withPreset (Config.distinct_rules_load o.config d.toWorkspace) o.preset
  · have hdispatches := dispatches_runRules handlers
      ⟨workingDirectory o d.home, o.typeConfig, o.fix⟩
      (((Config.load o.config).run d.toWorkspace).1.withPreset o.preset).rules
      ((Config.load o.config).run d.toWorkspace).2
    rwa [runRules_of_check handlers o d] at hdispatches

end Command

end RouteLint
