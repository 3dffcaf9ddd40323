import RouteLint.Proofs.Routes.Deciding
import RouteLint.Proofs.Routes.RepairRun

/-!
# Runs that fail

A run reads and judges first and writes last.  Whatever goes wrong on the way goes wrong before
anything is written: the working directory, the type configuration or a file to be checked cannot
be read, or a file cannot be checked, perhaps after others have been and their repairs are already
applied in memory.  Such a run leaves the disk as it was, and its result is an error without
violations.  Once every file has been checked nothing can go wrong any more, since only files that
have been read are written.

## Main definitions

* `Still` — work that leaves the disk as it is.
* `CheckRequest.Fails` — how a run can fail.

## Main results

* `still_checkSource` — checking a source writes nothing.
* `outcome_of_fails`, `outcome_cases` — a run comes to an error exactly if it fails.
* `checkRoutes_atomic` — **a run that fails changes nothing, and one that does not fail succeeds
  exactly if it finds nothing.**
-/

namespace RouteLint

open Syntax Project

/-! ### Work that writes nothing -/

/-- Work that leaves the disk as it is, whatever comes out of it. -/
def Still {α : Type} (x : Work α) : Prop := ∀ b, (outcome x b).2.disk = b.disk

section Still

variable {α β ι : Type}

theorem still_pure (a : α) : Still (pure a : Work α) := fun _ => rfl

theorem still_of_grows {x : Work α} (h : ∀ b : Bench, b.Grows (outcome x b).2) : Still x :=
  fun b => (h b).disk

theorem still_bind {x : Work α} {f : α → Work β} (hx : Still x) (hf : ∀ a, Still (f a)) :
    Still (x >>= f) := by
  intro b
  have hxb := hx b
  rw [outcome_bind]
  cases h : outcome x b with
  | mk r b' =>
    rw [h] at hxb
    cases r with
    | error e => exact hxb
    | ok a => exact (hf a b').trans hxb

theorem still_mapM {f : ι → Work α} (h : ∀ i, Still (f i)) (l : List ι) : Still (l.mapM f) := by
  induction l with
  | nil => exact still_pure []
  | cons i l ih =>
    rw [List.mapM_cons]
    exact still_bind (h i) fun a => still_bind ih fun as => still_pure _

theorem still_stage (path : Path) (e : Edit) : Still (Project.stage path e) := by
  intro b
  unfold Project.stage
  rw [outcome_get_bind]
  cases b.project.source? path with
  | none => rfl
  | some s =>
    dsimp only
    cases s.stage? e <;> rfl

theorem still_apply (path : Path) : Still (Project.apply path) := by
  intro b
  unfold Project.apply
  rw [outcome_get_bind]
  dsimp only
  cases b.project.source? path <;> rfl

end Still

theorem still_checkHandler (file : Path) (fix : Bool) (h : Handler) :
    Still (checkHandler file fix h) := by
  unfold checkHandler
  cases h.context? with
  | none => exact still_pure none
  | some p =>
    refine still_bind (still_of_grows (judge_grows file p)) fun found => ?_
    cases found with
    | none => exact still_pure none
    | some text =>
      -- a violation that is not repaired is only reported
      have hreport : Still (do
          return (← get).project.source? file |>.map fun s => violationOf s h p text) :=
        fun _ => rfl
      cases planRepair p with
      | error reason => exact hreport
      | ok edit =>
        cases fix with
        | false => exact hreport
        | true =>
          refine still_bind (still_stage file edit) fun _ => ?_
          exact still_bind (fun _ => rfl) fun _ => still_pure none

/-- **Checking a source writes nothing**, be it repaired or not. -/
theorem still_checkSource (file : Path) (fix : Bool) : Still (checkSource file fix) := by
  unfold checkSource
  refine still_bind (still_of_grows (scopeOf_grows file)) fun scope => ?_
  refine still_bind (still_mapM (still_checkHandler file fix) _) fun ys => ?_
  refine still_bind (fun b => ?_) fun _ => still_pure _
  rw [outcome_discard]
  exact still_apply file b

/-! ### Failing -/

/-- Work for the elements of a list fails at one of them, after it was done for those before. -/
theorem outcome_mapM_eq_error {α ι : Type} {f : ι → Work α} {l : List ι} {b b' : Bench}
    {err : Project.Error} (h : outcome (l.mapM f) b = (.error err, b')) :
    ∃ done i rest ys b₁, l = done ++ i :: rest ∧ outcome (done.mapM f) b = (.ok ys, b₁) ∧
      outcome (f i) b₁ = (.error err, b') := by
  induction l generalizing b with
  | nil => cases h
  | cons i l ih =>
    rw [List.mapM_cons, outcome_bind] at h
    cases hfirst : outcome (f i) b with
    | mk r b₁ =>
      rw [hfirst] at h
      cases r with
      | error e =>
        cases h
        exact ⟨[], i, l, [], b, rfl, rfl, hfirst⟩
      | ok a =>
        dsimp only at h
        rw [outcome_bind] at h
        cases hrest : outcome (l.mapM f) b₁ with
        | mk r' b₂ =>
          rw [hrest] at h
          cases r' with
          | ok as => cases h
          | error e =>
            cases h
            obtain ⟨done, j, rest, ys, b₃, rfl, hdone, hj⟩ := ih hrest
            refine ⟨i :: done, j, rest, a :: ys, b₃, rfl, ?_, hj⟩
            rw [List.mapM_cons, outcome_bind_ok hfirst, outcome_bind_ok hdone]
            rfl

theorem outcome_mapM_append_error {α ι : Type} {f : ι → Work α} {done : List ι} {i : ι}
    {b b₁ b₂ : Bench} {ys : List α} {err : Project.Error}
    (hdone : outcome (done.mapM f) b = (.ok ys, b₁)) (hi : outcome (f i) b₁ = (.error err, b₂))
    (rest : List ι) : outcome ((done ++ i :: rest).mapM f) b = (.error err, b₂) := by
  rw [List.mapM_append, outcome_bind_ok hdone, List.mapM_cons]
  exact outcome_bind_error (outcome_bind_error hi)

/-- How a run with selected files can fail before it writes anything. -/
inductive CheckRequest.Fails (q : CheckRequest) (parse : Parser) (w : Workspace)
    (err : Project.Error) : Prop where
  /-- The working directory, the type configuration or a file to be checked cannot be read. -/
  | loading {b : Bench} (hfiles : (q.files w).isEmpty = false)
      (hload : outcome (Project.load parse q.directory q.config (q.files w)) w.bench =
        (.error err, b))
  /-- A file cannot be checked, after others have been. -/
  | checking {b b₁ b₂ : Bench} {done rest : List Path} {file : Path} {ys : List (List Violation)}
      (hfiles : (q.files w).isEmpty = false)
      (hload : outcome (Project.load parse q.directory q.config (q.files w)) w.bench = (.ok (), b))
      (hroots : b.project.roots = done ++ file :: rest)
      (hdone : outcome (done.mapM fun p => checkSource p q.fix) b = (.ok ys, b₁))
      (hfile : outcome (checkSource file q.fix) b₁ = (.error err, b₂))

variable {q : CheckRequest} {parse : Parser} {w : Workspace}

theorem CheckRequest.Fails.files_ne {err : Project.Error} (h : q.Fails parse w err) :
    (q.files w).isEmpty = false := by
  cases h with
  | loading hfiles => exact hfiles
  | checking hfiles => exact hfiles

/-- A run that fails comes to an error. -/
theorem outcome_of_fails {err : Project.Error} (h : q.Fails parse w err) :
    ∃ b, outcome (checkFiles parse q (q.files w)) w.bench = (.error err, b) := by
  cases h with
  | loading _ hload => exact ⟨_, outcome_bind_error hload⟩
  | checking _ hload hroots hdone hfile =>
    have hout := outcome_checkFiles (q := q) hload q.fix
    rw [hroots, outcome_bind_error (outcome_mapM_append_error hdone hfile _)] at hout
    exact ⟨_, hout⟩

/-! ### Results -/

theorem success_plainResult (violations : List Violation) (files : Nat) :
    (plainResult violations files).success = violations.isEmpty := by
  unfold plainResult
  cases violations.isEmpty <;> rfl

/-- A result that is no error succeeds exactly if it has no violations. -/
structure RunResult.Sound (r : RunResult) : Prop where
  isError : r.isError = false
  success : r.success = r.violations.isEmpty

theorem sound_plainResult (violations : List Violation) (files : Nat) :
    (plainResult violations files).Sound where
  isError := isError_plainResult violations files
  success := by rw [success_plainResult, violations_plainResult]

theorem sound_repairedResult (violations : List Violation) (written : Nat) :
    (repairedResult violations written).Sound where
  isError := isError_repairedResult violations written
  success := rfl

/-- What is left to do when all sources have been checked: without repairs there is nothing to
write, and with repairs what was read is written. -/
theorem outcome_conclude {e : Site} {roots : List Path} {before : List Event} {b : Bench}
    (hreached : q.fix = true → ∃ vs, e.Reached roots before none vs b) (found : List Violation)
    (files : Nat) :
    ∃ result b', outcome (do
        if q.fix then
          let written ← Project.save
          if !written.isEmpty then return repairedResult found written.length
        return plainResult found files : Work RunResult) b = (.ok result, b') ∧
      result.Sound ∧ (q.fix = false → b'.disk = b.disk) := by
  cases hfix : q.fix with
  | false => exact ⟨_, b, rfl, sound_plainResult _ _, fun _ => rfl⟩
  | true =>
    obtain ⟨vs, hvs⟩ := hreached hfix
    obtain ⟨written, b', hsave, -⟩ := hvs.save
    rw [if_pos rfl, outcome_bind_ok hsave]
    cases written with
    | nil => exact ⟨_, b', rfl, sound_plainResult _ _, nofun⟩
    | cons p ps => exact ⟨_, b', rfl, sound_repairedResult _ _, nofun⟩

/-- **A run comes to an error exactly if it fails**, and then it has not written anything. -/
theorem outcome_cases (parse : Parser) (hfiles : (q.files w).isEmpty = false) :
    (∃ err b, q.Fails parse w err ∧
      outcome (checkFiles parse q (q.files w)) w.bench = (.error err, b) ∧ b.disk = w.disk) ∨
    (∃ result b, outcome (checkFiles parse q (q.files w)) w.bench = (.ok result, b) ∧
      result.Sound ∧ (q.fix = false → b.disk = w.disk)) := by
  rcases load_cases parse q w with
    ⟨e, b, hsite, hall, hload, hreached, hquiet⟩ | ⟨err, b, hload, hquiet, -⟩
  · have hout := outcome_checkFiles (q := q) hload q.fix
    have hstill := still_mapM (fun p => still_checkSource p q.fix) b.project.roots b
    cases hrun : outcome (b.project.roots.mapM fun p => checkSource p q.fix) b with
    | mk r b₁ =>
      rw [hrun] at hstill
      have hdisk : b₁.disk = w.disk := hstill.trans hquiet.disk
      cases r with
      | error err =>
        obtain ⟨done, file, rest, ys, b₂, hroots, hdone, hfile⟩ := outcome_mapM_eq_error hrun
        rw [outcome_bind_error hrun] at hout
        exact .inl ⟨err, b₁, .checking hfiles hload hroots hdone hfile, hout, hdisk⟩
      | ok yss =>
        rw [outcome_bind_ok hrun] at hout
        -- with repairs, the bench is one that a run reaches
        have hend : q.fix = true → ∃ vs,
            e.Reached (q.roots w) (w.log.filter Event.isFixed) none vs b₁ := by
          intro hfix
          obtain ⟨hpaths, -⟩ := CheckRequest.sources_of_loaded hsite hall
          rw [hreached.roots_eq, hfix, ← hpaths] at hrun
          obtain ⟨vs, -, -, -, hvs⟩ := hreached.checkSources
            (fun t ht => CheckRequest.source_of_mem hsite ht) (hpaths ▸ nodup_once _)
            (fun _ _ => rfl) hrun
          exact ⟨vs, hvs⟩
        obtain ⟨result, b₂, hresult, hsound, hsame⟩ :=
          outcome_conclude hend yss.flatten (q.files w).length
        exact .inr ⟨result, b₂, hout.trans hresult, hsound, fun hfix => (hsame hfix).trans hdisk⟩
  · have hout : outcome (checkFiles parse q (q.files w)) w.bench = (.error err, b) :=
      outcome_bind_error hload
    exact .inl ⟨err, b, .loading hfiles hload, hout, hquiet.disk⟩

/-- **A run that fails changes nothing**: its result is an error without violations, and the disk
is as it was, whatever had been repaired in memory.  A run without repairs never changes the disk.
And a run succeeds exactly if it does not fail and finds nothing. -/
theorem checkRoutes_atomic (parse : Parser) (q : CheckRequest) (w : Workspace) :
    (∀ err, q.Fails parse w err →
      (checkRoutes parse q w).1.success = false ∧ (checkRoutes parse q w).1.violations = [] ∧
      (checkRoutes parse q w).1.message = "Error: " ++ err.message ∧
      (checkRoutes parse q w).2.disk = w.disk) ∧
    (q.fix = false → (checkRoutes parse q w).2.disk = w.disk) ∧
    ((checkRoutes parse q w).1.isError = true ↔ ∃ err, q.Fails parse w err) ∧
    ((checkRoutes parse q w).1.success = true ↔
      (¬ ∃ err, q.Fails parse w err) ∧ (checkRoutes parse q w).1.violations = []) := by
  cases hfiles : (q.files w).isEmpty with
  | true =>
    have hno : ¬ ∃ err, q.Fails parse w err := by
      rintro ⟨err, h⟩
      rw [h.files_ne] at hfiles
      cases hfiles
    have hrun := checkRoutes_of_no_files (q := q) hfiles parse q.fix
    rw [hrun]
    refine ⟨fun err h => absurd ⟨err, h⟩ hno, fun _ => rfl, ?_, ?_⟩
    · rw [isError_no_files]
      exact ⟨nofun, fun h => absurd h hno⟩
    · exact ⟨fun _ => ⟨hno, rfl⟩, fun _ => rfl⟩
  | false =>
    have hrun := checkRoutes_eq (q := q) hfiles parse q.fix
    rcases outcome_cases parse hfiles with
      ⟨err, b, hfails, hout, hdisk⟩ | ⟨result, b, hout, hsound, hdisk⟩
    · have hresult : checkRoutes parse q w = (failedResult err.message, b.toWorkspace) := by
        rw [hrun, hout]
      rw [hresult]
      refine ⟨fun err' h => ⟨rfl, rfl, ?_, hdisk⟩, fun _ => hdisk, ?_, ?_⟩
      · -- the error of a run is the only one it can fail with
        obtain ⟨b', hout'⟩ := outcome_of_fails h
        rw [hout] at hout'
        cases hout'
        rfl
      · exact ⟨fun _ => ⟨err, hfails⟩, fun _ => isError_failedResult _⟩
      · exact ⟨nofun, fun h => absurd ⟨err, hfails⟩ h.1⟩
    · have hresult : checkRoutes parse q w = (result, b.toWorkspace) := by
        rw [hrun, hout]
      have hno : ¬ ∃ err, q.Fails parse w err := by
        rintro ⟨err, h⟩
        obtain ⟨b', hout'⟩ := outcome_of_fails h
        rw [hout] at hout'
        cases hout'
      rw [hresult]
      refine ⟨fun err h => absurd ⟨err, h⟩ hno, hdisk, ?_, ?_⟩
      · rw [hsound.isError]
        exact ⟨nofun, fun h => absurd h hno⟩
      · rw [hsound.success, List.isEmpty_iff]
        exact ⟨fun h => ⟨hno, h⟩, fun h => h.2⟩

/-! ### A project that cannot be read in full -/

namespace Broken

/-- A file with a handler that can be repaired:
```
| export function GET(a,b:{params:x}){}
``` -/
def first : Bytes := bytesOfLines ["export function GET(a,b:\x7bparams:x\x7d)\x7b\x7d"]

/-- A file that looks up a type in a file that is no text:
```
| import {C} from "./c"
| export function GET(a,b:C){}
``` -/
def second : Bytes := bytesOfLines
  ["import \x7bC\x7d from \"./c\"", "export function GET(a,b:C)\x7b\x7d"]

/-- Both files on a disk, and the file that is no text. -/
def workspace : Workspace where
  disk := ⟨[(["app"], .directory), (["app", "api"], .directory),
    (["app", "api", "a"], .directory), (["app", "api", "a", "route.ts"], .file first),
    (["app", "api", "b"], .directory), (["app", "api", "b", "route.ts"], .file second),
    (["app", "api", "b", "c.ts"], .file [255])]⟩
  home := ⟨.slash, []⟩
  log := []

/-- The check of both files, with repairs. -/
def request : CheckRequest := { directory := ⟨.slash, []⟩, fix := true }

end Broken

set_option maxRecDepth 100000 in
/-- The first file has been repaired in memory when the second one fails; nothing is written. -/
theorem checkRoutes_broken :
    (∃ err, Broken.request.Fails Module.parse Broken.workspace err ∧
      (checkRoutes Module.parse Broken.request Broken.workspace).1.message =
        "Error: " ++ err.message) ∧
      (∃ x ∈ (checkRoutes Module.parse Broken.request Broken.workspace).2.log, x.isFixed = true) ∧
      (checkRoutes Module.parse Broken.request Broken.workspace).2.disk =
        Broken.workspace.disk := by
  obtain ⟨hfails, -, hiff, -⟩ := checkRoutes_atomic Module.parse Broken.request Broken.workspace
  have hrun : (checkRoutes Module.parse Broken.request Broken.workspace).1.isError = true ∧
      ∃ x ∈ (checkRoutes Module.parse Broken.request Broken.workspace).2.log, x.isFixed = true := by
    rw [← eagerParse_eq]
    decide +kernel
  obtain ⟨herror, hfixed⟩ := hrun
  obtain ⟨err, herr⟩ := hiff.1 herror
  obtain ⟨-, -, hmessage, hdisk⟩ := hfails err herr
  exact ⟨⟨err, herr, hmessage⟩, hfixed, hdisk⟩

end RouteLint
