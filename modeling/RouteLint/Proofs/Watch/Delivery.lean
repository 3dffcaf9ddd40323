import Mathlib.Data.Finset.Dedup
import Mathlib.Data.Finset.Insert
import RouteLint.Proofs.Coupling
import RouteLint.Watch.Watcher

/-!
# What a watcher hands over

A watcher hands over what has come in on its stream, batch by batch and in order.  What is said here
holds after any number of steps in any order, and for every listener, whatever it does with a batch
and whenever it breaks down.

The account that every step keeps balanced: what has been handed over, followed by what still waits
on the stream, is what has come in.  Nothing waits while a task runs, and no task runs besides the
one that the watcher holds on to, which is the last that was set going.

## Main definitions

* `Listener.recorded` — a listener that keeps what it is handed.
* `Watcher.run`, `Watcher.heard` — several steps, and all that is handed over in them.
* `deliverable` — batches as they are to be handed over.
* `Watcher.Balanced` — the account.

## Main results

* `Watcher.Balanced.step`, `Watcher.Balanced.run` — every step keeps it, and so does every run.
* `Watcher.heard_prefix` — **what is handed over.**
-/

namespace RouteLint

variable {σ : Type}

/-! ### Batches as they are to be handed over -/

/-- The paths that changes are about. -/
def changedPaths (changes : List Change) : Finset Path :=
  (changes.map fun c => Path.parse c.path).toFinset

/-- Batches without the changes that do not matter, and of these the ones in which a change is left:
each as the set of its paths. -/
def deliverable (batches : List (List Change)) : List (Finset Path) :=
  ((batches.map (List.filter Change.isRelevant)).filter fun b => !b.isEmpty).map changedPaths

@[simp] theorem deliverable_nil : deliverable [] = [] := rfl

theorem deliverable_append (bs bs' : List (List Change)) :
    deliverable (bs ++ bs') = deliverable bs ++ deliverable bs' := by
  simp only [deliverable, List.map_append, List.filter_append]

theorem toFinset_insertByText (p : Path) (ps : List Path) :
    (insertByText p ps).toFinset = insert p ps.toFinset := by
  induction ps with
  | nil => rfl
  | cons q ps ih =>
    rw [insertByText]
    split
    · next hpq => simp [hpq]
    · split
      · simp
      · rw [List.toFinset_cons, ih, List.toFinset_cons, Finset.insert_comm]

/-- The paths of the changes that matter. -/
theorem toFinset_relevantPaths (changes : List Change) :
    (relevantPaths changes).toFinset = changedPaths (changes.filter Change.isRelevant) := by
  unfold relevantPaths changedPaths
  induction (changes.filter Change.isRelevant).map fun c => Path.parse c.path with
  | nil => rfl
  | cons p ps ih => rw [List.foldr_cons, toFinset_insertByText, ih, List.toFinset_cons]

theorem relevantPaths_eq_nil {changes : List Change} :
    relevantPaths changes = [] ↔ changes.filter Change.isRelevant = [] := by
  rw [← List.toFinset_eq_empty_iff, toFinset_relevantPaths, changedPaths,
    List.toFinset_eq_empty_iff, List.map_eq_nil_iff]

/-- A batch is handed over if some change in it matters, as the paths of those that do. -/
theorem deliverable_singleton (changes : List Change) :
    deliverable [changes] =
      if (relevantPaths changes).isEmpty then [] else [(relevantPaths changes).toFinset] := by
  rw [toFinset_relevantPaths]
  have hempty : (relevantPaths changes).isEmpty = (changes.filter Change.isRelevant).isEmpty := by
    rw [Bool.eq_iff_iff, List.isEmpty_iff, List.isEmpty_iff, relevantPaths_eq_nil]
  rw [hempty, deliverable, List.map_singleton, List.filter_cons, List.filter_nil]
  cases (changes.filter Change.isRelevant).isEmpty <;> rfl

/-! ### Streams and steps -/

namespace Signal

/-- The batch that comes in with a signal. -/
def batch? : Signal → Option (List Change)
  | .batch changes => some changes
  | .finish => none

end Signal

namespace Watcher.Step

/-- The signal that a step puts on the stream. -/
def signal? : Step → Option Signal
  | .emit changes => some (.batch changes)
  | .finish => some .finish
  | _ => none

theorem signal?_eq_finish {x : Step} (h : x.signal? = some .finish) : x = .finish := by
  cases x <;> cases h
  rfl

/-- Whether a watcher is started after a step, if it is known whether it was before. -/
def starts (before : Bool) : Step → Bool
  | .start => true
  | .stop => false
  | _ => before

end Watcher.Step

namespace Watcher

/-- Whether a watcher is started after some steps: the last of them that started or stopped it
started it. -/
def started (steps : List Step) : Bool := steps.foldl Step.starts false

/-- All batches that have come in. -/
def emitted (steps : List Step) : List (List Change) :=
  (steps.filterMap Step.signal?).filterMap Signal.batch?

theorem started_append_singleton (steps : List Step) (x : Step) :
    started (steps ++ [x]) = x.starts (started steps) := List.foldl_append

theorem emitted_append_singleton (steps : List Step) (x : Step) :
    emitted (steps ++ [x]) = emitted steps ++ (x.signal?.bind Signal.batch?).toList := by
  unfold emitted
  rw [List.filterMap_append, List.filterMap_append]
  cases x <;> rfl

end Watcher

/-! ### Recording what is handed over -/

/-- A listener that keeps what it is handed, and does what it did before. -/
def Listener.recorded (l : Listener σ) : Listener (σ × List (List Path)) where
  react paths s :=
    (((l.react paths).run s.1).1, ((l.react paths).run s.1).2, s.2 ++ [paths])
  tell e s := ((), ((l.tell e).run s.1).2, s.2)

variable {α β : Type}

/-- A recording computation, whatever has happened before, adds to the record, and what it returns
and adds fit together. -/
def HandsOver (x : StateM (σ × List (List Path)) α) (Q : α → List (Finset Path) → Prop) : Prop :=
  ∀ s calls, ∃ a s' handed, x.run (s, calls) = (a, s', calls ++ handed) ∧
    Q a (handed.map List.toFinset)

namespace HandsOver

theorem pure {a : α} {Q : α → List (Finset Path) → Prop} (h : Q a []) :
    HandsOver (σ := σ) (pure a) Q := by
  intro s calls
  exact ⟨a, s, [], by rw [List.append_nil]; rfl, h⟩

theorem bind {x : StateM (σ × List (List Path)) α} {f : α → StateM (σ × List (List Path)) β}
    {P : α → List (Finset Path) → Prop} {Q : β → List (Finset Path) → Prop} (hx : HandsOver x P)
    (hf : ∀ a hs, P a hs → HandsOver (f a) fun b hs' => Q b (hs ++ hs')) :
    HandsOver (x >>= f) Q := by
  intro s calls
  obtain ⟨a, s', first, hrun, hP⟩ := hx s calls
  obtain ⟨b, s'', second, hrun', hQ⟩ := hf a _ hP s' (calls ++ first)
  refine ⟨b, s'', first ++ second, ?_, ?_⟩
  · rw [StateT.run_bind, hrun, ← List.append_assoc]
    exact hrun'
  · rw [List.map_append]
    exact hQ

theorem mono {x : StateM (σ × List (List Path)) α} {P Q : α → List (Finset Path) → Prop}
    (hx : HandsOver x P) (h : ∀ a hs, P a hs → Q a hs) : HandsOver x Q := by
  intro s calls
  obtain ⟨a, s', handed, hrun, hP⟩ := hx s calls
  exact ⟨a, s', handed, hrun, h _ _ hP⟩

end HandsOver

namespace Listener

variable (l : Listener σ)

theorem react_recorded (paths : List Path) :
    HandsOver (l.recorded.react paths) fun _ hs => hs = [paths.toFinset] := by
  intro s calls
  exact ⟨_, _, [paths], rfl, rfl⟩

theorem tell_recorded (e : Event) : HandsOver (l.recorded.tell e) fun _ hs => hs = [] := by
  intro s calls
  exact ⟨_, ((l.tell e).run s).2, [], by rw [List.append_nil]; rfl, rfl⟩

/-- A batch is handed over as it should be, also when that breaks down. -/
theorem hear_recorded (changes : List Change) :
    HandsOver (l.recorded.hear changes) fun _ hs => hs = deliverable [changes] := by
  rw [deliverable_singleton, hear]
  cases (relevantPaths changes).isEmpty with
  | true => exact .pure rfl
  | false =>
    refine .bind (l.react_recorded _) fun done hs hhs => ?_
    cases done with
    | true => exact .pure (by rw [hhs]; rfl)
    | false =>
      refine (l.tell_recorded _).mono fun _ hs' hhs' => ?_
      rw [hhs, hhs']
      rfl

/-- What is taken off a stream is handed over in order.  Either the stream has not ended and nothing
is left of it, or the task is finished. -/
theorem drain_recorded (signals : List Signal) :
    HandsOver (l.recorded.drain signals) fun r hs =>
      hs ++ deliverable (r.2.filterMap Signal.batch?) =
          deliverable (signals.filterMap Signal.batch?) ∧
        (r = (.running, []) ∨ r.1 = .finished ∧ .finish ∈ signals) := by
  induction signals with
  | nil => exact .pure ⟨rfl, .inl rfl⟩
  | cons signal rest ih =>
    cases signal with
    | finish => exact .pure ⟨rfl, .inr ⟨rfl, List.mem_cons_self⟩⟩
    | batch changes =>
      refine .bind (l.hear_recorded changes) fun _ hs hhs => ih.mono fun r hs' hr => ⟨?_, ?_⟩
      · rw [hhs, List.append_assoc, hr.1, ← deliverable_append]
        rfl
      · exact hr.2.imp_right fun hfin => ⟨hfin.1, List.mem_cons_of_mem _ hfin.2⟩

/-- A task that does not run takes nothing off the stream. -/
theorem attend_cons {t : Task} (h : t ≠ .running) (ts : List Task) (pending : List Signal) :
    l.attend (t :: ts) pending = l.attend ts pending >>= fun r => pure (t :: r.1, r.2) := by
  rw [attend, if_neg h, pure_bind]

/-- Where no task runs, nothing is taken off the stream. -/
theorem attend_of_not_running {tasks : List Task} (h : .running ∉ tasks)
    (pending : List Signal) : l.attend tasks pending = pure (tasks, pending) := by
  induction tasks with
  | nil => rfl
  | cons t ts ih =>
    rw [attend_cons l (List.ne_of_not_mem_cons h).symm, ih (List.not_mem_of_not_mem_cons h),
      pure_bind]

/-- Where only the last task runs, it takes off the stream what it can. -/
theorem attend_append_running {before : List Task} (h : .running ∉ before)
    (pending : List Signal) :
    l.attend (before ++ [.running]) pending =
      l.drain pending >>= fun r => pure (before ++ [r.1], r.2) := by
  induction before with
  | nil => rw [List.nil_append, attend, if_pos rfl]; rfl
  | cons t ts ih =>
    rw [List.cons_append, attend_cons l (List.ne_of_not_mem_cons h).symm,
      ih (List.not_mem_of_not_mem_cons h), bind_assoc]
    rfl

end Listener

/-! ### The account -/

namespace Watcher

/-- No task runs besides the one that the watcher holds on to, which was set going last. -/
def Attended (tasks : List Task) (held : Option Nat) : Prop :=
  held = none ∧ .running ∉ tasks ∨
    ∃ before t, tasks = before ++ [t] ∧ held = some before.length ∧ .running ∉ before

/-- What is true of a watcher after some steps in which batches were handed over, even before its
tasks have taken off the stream what they can. -/
structure Accounted (steps : List Step) (w : Watcher) (handed : List (Finset Path)) : Prop where
  /-- What has been handed over, followed by what waits, is what has come in. -/
  delivered : handed ++ deliverable (w.pending.filterMap Signal.batch?) =
    deliverable (emitted steps)
  /-- The watcher holds on to a task if it is started. -/
  held : w.held.isSome = started steps
  /-- No other task runs. -/
  attended : Attended w.tasks w.held
  /-- Unless the stream has ended, no end of it waits. -/
  endless : .finish ∉ steps → .finish ∉ w.pending
  /-- Unless the stream has ended, a started watcher has a task that runs. -/
  lively : .finish ∉ steps → started steps → .running ∈ w.tasks

/-- What is true of a watcher after some steps in which batches were handed over. -/
structure Balanced (steps : List Step) (w : Watcher) (handed : List (Finset Path)) : Prop
    extends Accounted steps w handed where
  /-- Nothing waits while a task runs. -/
  idle : .running ∈ w.tasks → w.pending = []

theorem Task.cancel_ne_running (t : Task) : t.cancel ≠ .running := by cases t <;> decide

theorem Attended.count_running_le {tasks : List Task} {held : Option Nat}
    (h : Attended tasks held) : tasks.count .running ≤ 1 := by
  rcases h with ⟨-, hnot⟩ | ⟨before, t, rfl, -, hnot⟩
  · rw [List.count_eq_zero_of_not_mem hnot]
    exact Nat.zero_le 1
  · rw [List.count_append, List.count_eq_zero_of_not_mem hnot, Nat.zero_add]
    exact List.count_le_length

/-- Where no task is held, none runs. -/
theorem Attended.not_running {tasks : List Task} (h : Attended tasks none) :
    .running ∉ tasks := by
  rcases h with ⟨-, hnot⟩ | ⟨before, t, -, hheld, -⟩
  · exact hnot
  · cases hheld

/-- Where some task runs, it is the last one, and held. -/
theorem Attended.eq_append {tasks : List Task} {held : Option Nat} (h : Attended tasks held)
    (hrun : .running ∈ tasks) :
    ∃ before, tasks = before ++ [.running] ∧ held = some before.length ∧ .running ∉ before := by
  rcases h with ⟨-, hnot⟩ | ⟨before, t, rfl, hheld, hnot⟩
  · exact absurd hrun hnot
  · rcases List.mem_append.mp hrun with hbefore | hlast
    · exact absurd hbefore hnot
    · obtain rfl := List.mem_singleton.mp hlast
      exact ⟨before, rfl, hheld, hnot⟩

/-- When the task that is held is called off, none runs. -/
theorem Attended.cancel {tasks : List Task} {i : Nat} (h : Attended tasks (some i)) :
    .running ∉ tasks.modify i Task.cancel := by
  rcases h with ⟨hheld, -⟩ | ⟨before, t, rfl, hheld, hnot⟩
  · cases hheld
  · obtain rfl : i = before.length := Option.some.inj hheld
    rw [List.modify_eq_take_drop, List.take_left, List.drop_left]
    intro hmem
    rcases List.mem_append.mp hmem with hbefore | hlast
    · exact hnot hbefore
    · exact Task.cancel_ne_running t (List.mem_singleton.mp hlast).symm

namespace Accounted

variable {steps : List Step} {w : Watcher} {handed : List (Finset Path)}

/-- A step keeps the account that puts its signal on the stream and tends to the tasks. -/
theorem move {x : Step} {w' : Watcher} (h : Accounted steps w handed)
    (hpending : w'.pending = w.pending ++ x.signal?.toList)
    (hheld : w'.held.isSome = x.starts w.held.isSome) (hattended : Attended w'.tasks w'.held)
    (hlively : (w.held.isSome → .running ∈ w.tasks) → w'.held.isSome → .running ∈ w'.tasks) :
    Accounted (steps ++ [x]) w' handed where
  delivered := by
    rw [emitted_append_singleton, deliverable_append, ← h.delivered, hpending,
      List.filterMap_append, deliverable_append, List.append_assoc]
    cases x <;> rfl
  held := by rw [started_append_singleton, hheld, h.held]
  attended := hattended
  endless hsteps := by
    rw [hpending]
    intro hmem
    rcases List.mem_append.mp hmem with hold | hnew
    · exact h.endless (fun hx => hsteps (List.mem_append_left _ hx)) hold
    · refine hsteps (List.mem_append_right _ (List.mem_singleton.mpr ?_))
      exact (Step.signal?_eq_finish (Option.mem_toList.mp hnew)).symm
  lively hsteps hstarted := by
    rw [started_append_singleton, ← h.held, ← hheld] at hstarted
    refine hlively (fun hold => h.lively ?_ (h.held ▸ hold)) hstarted
    exact fun hx => hsteps (List.mem_append_left _ hx)

/-- What a step does at once keeps the account, and hands nothing over. -/
theorem act (l : Listener σ) (x : Step) (h : Accounted steps w handed) :
    HandsOver (w.act l.recorded x) fun w' hs => hs = [] ∧ Accounted (steps ++ [x]) w' handed := by
  cases x with
  | start =>
    rw [Watcher.act, start]
    cases hheld : w.held with
    | none =>
      refine .bind (l.tell_recorded _) fun _ hs hhs => .pure ⟨by rw [hhs]; rfl, ?_⟩
      have hnot : .running ∉ w.tasks := Attended.not_running (hheld ▸ h.attended)
      refine h.move (List.append_nil _).symm rfl (.inr ⟨_, _, rfl, rfl, hnot⟩) fun _ _ => ?_
      exact List.mem_append_right _ (List.mem_singleton_self _)
    | some i =>
      refine .pure ⟨rfl, h.move (List.append_nil _).symm (by rw [hheld]; rfl) h.attended id⟩
  | stop =>
    rw [Watcher.act, stop]
    cases hheld : w.held with
    | none =>
      refine .pure ⟨rfl, h.move (List.append_nil _).symm (by rw [hheld]; rfl) h.attended id⟩
    | some i =>
      refine .bind (l.tell_recorded _) fun _ hs hhs => .pure ⟨by rw [hhs]; rfl, ?_⟩
      have hnot : .running ∉ w.tasks.modify i Task.cancel := Attended.cancel (hheld ▸ h.attended)
      exact h.move (List.append_nil _).symm rfl (.inl ⟨rfl, hnot⟩) fun _ hnone => by cases hnone
  | wait => exact .pure ⟨rfl, h.move (List.append_nil _).symm rfl h.attended id⟩
  | emit changes => exact .pure ⟨rfl, h.move rfl rfl h.attended id⟩
  | finish => exact .pure ⟨rfl, h.move rfl rfl h.attended id⟩

/-- The tasks take off the stream what they can, and nothing if the watcher is not started. -/
theorem settle (l : Listener σ) (h : Accounted steps w handed) :
    HandsOver (w.settle l.recorded) fun w' hs =>
      Balanced steps w' (handed ++ hs) ∧ (started steps = false → hs = []) := by
  by_cases hrun : .running ∈ w.tasks
  · obtain ⟨before, htasks, hheld, hnot⟩ := h.attended.eq_append hrun
    have hstarted : started steps = true := by rw [← h.held, hheld]; rfl
    rw [Watcher.settle, htasks, l.recorded.attend_append_running hnot, bind_assoc]
    refine .bind (l.drain_recorded w.pending) fun r hs hdrain => .pure ⟨?_, ?_⟩
    · obtain ⟨hr, hend⟩ := hdrain
      rw [List.append_nil]
      have hdelivered : handed ++ hs ++ deliverable (r.2.filterMap Signal.batch?) =
          deliverable (emitted steps) := by rw [List.append_assoc, hr, h.delivered]
      have hattended : Attended (before ++ [r.1]) w.held := .inr ⟨before, r.1, rfl, hheld, hnot⟩
      rcases hend with rfl | ⟨hfinished, hmem⟩
      · -- The stream is empty, and the task still runs.
        refine ⟨⟨hdelivered, h.held, hattended, fun _ => List.not_mem_nil, fun _ _ => ?_⟩,
          fun _ => rfl⟩
        exact List.mem_append_right _ (List.mem_singleton_self _)
      · -- The stream has ended, so some step ended it, and no task runs.
        have hsteps : .finish ∈ steps := by_contra fun hnone => h.endless hnone hmem
        have hnone : .running ∉ before ++ [r.1] := by
          rw [hfinished, List.mem_append, not_or]
          exact ⟨hnot, by decide⟩
        exact ⟨⟨hdelivered, h.held, hattended, absurd hsteps, absurd hsteps⟩,
          fun hmem => absurd hmem hnone⟩
    · rw [hstarted]
      intro hfalse
      cases hfalse
  · rw [Watcher.settle, l.recorded.attend_of_not_running hrun, pure_bind]
    refine .pure ⟨⟨?_, fun hmem => absurd hmem hrun⟩, fun _ => rfl⟩
    rw [List.append_nil]
    exact h

end Accounted

/-- One step keeps the account balanced, and hands nothing over unless the watcher is started after
it. -/
theorem Balanced.step {steps : List Step} {w : Watcher} {handed : List (Finset Path)}
    (l : Listener σ) (x : Step) (h : Balanced steps w handed) :
    HandsOver (w.step l.recorded x) fun w' hs =>
      Balanced (steps ++ [x]) w' (handed ++ hs) ∧ (started (steps ++ [x]) = false → hs = []) := by
  refine .bind (h.act l x) fun w' hs hact => ?_
  obtain ⟨hhs, hacted⟩ := hact
  rw [hhs]
  exact hacted.settle l

/-! ### Runs -/

/-- Several steps of a watcher, from the beginning. -/
def run (l : Listener σ) (directory : Path) (steps : List Step) : StateM σ Watcher :=
  steps.foldlM (step l) { directory }

theorem run_append_singleton (l : Listener σ) (directory : Path) (steps : List Step) (x : Step) :
    run l directory (steps ++ [x]) = run l directory steps >>= fun w => w.step l x := by
  rw [run, List.foldlM_append]
  rfl

/-- A watcher that was never asked for anything. -/
theorem Balanced.init (directory : Path) : Balanced [] { directory } [] where
  delivered := rfl
  held := rfl
  attended := .inl ⟨rfl, List.not_mem_nil⟩
  endless _ := List.not_mem_nil
  lively _ hstarted := by cases hstarted
  idle _ := rfl

/-- Every run keeps the account balanced. -/
theorem Balanced.run (l : Listener σ) (directory : Path) (steps : List Step) :
    HandsOver (run l.recorded directory steps) (Balanced steps) := by
  induction steps using List.reverseRecOn with
  | nil => exact .pure (.init directory)
  | append_singleton steps x ih =>
    rw [run_append_singleton]
    exact .bind ih fun w hs h => (h.step l x).mono fun w' hs' h' => h'.1

end Watcher

/-! ### Recording changes nothing -/

/-- A recording computation does what another one does, apart from the record. -/
def withoutRecord (σ : Type) : Coupling (StateM (σ × List (List Path))) (StateM σ) where
  Maps ψ x y := ∀ s calls, (ψ (x.run (s, calls)).1, (x.run (s, calls)).2.1) = y.run s
  pure _ _ _ _ := rfl
  bind {_ _ _ _ ψ χ x y f g} hx hf s calls := by
    rw [StateT.run_bind, StateT.run_bind, ← hx s calls]
    exact hf _ _ _

namespace Listener

variable (l : Listener σ)

theorem hear_withoutRecord (changes : List Change) :
    (withoutRecord σ).Maps id (l.recorded.hear changes) (l.hear changes) := by
  rw [hear, hear]
  cases (relevantPaths changes).isEmpty with
  | true => exact (withoutRecord σ).pure id ()
  | false =>
    refine (withoutRecord σ).bind (ψ := id) (fun _ _ => rfl) fun done => ?_
    cases done with
    | true => exact (withoutRecord σ).pure id ()
    | false => exact fun _ _ => rfl

theorem drain_withoutRecord (signals : List Signal) :
    (withoutRecord σ).Maps id (l.recorded.drain signals) (l.drain signals) := by
  induction signals with
  | nil => exact (withoutRecord σ).pure id _
  | cons signal rest ih =>
    cases signal with
    | finish => exact (withoutRecord σ).pure id _
    | batch changes => exact (withoutRecord σ).bind (l.hear_withoutRecord changes) fun _ => ih

theorem attend_withoutRecord (tasks : List Task) (pending : List Signal) :
    (withoutRecord σ).Maps id (l.recorded.attend tasks pending) (l.attend tasks pending) := by
  induction tasks generalizing pending with
  | nil => exact (withoutRecord σ).pure id _
  | cons t ts ih =>
    have hrest (r : Task × List Signal) : (withoutRecord σ).Maps id
        (l.recorded.attend ts r.2 >>= fun r' => pure (r.1 :: r'.1, r'.2))
        (l.attend ts r.2 >>= fun r' => pure (r.1 :: r'.1, r'.2)) :=
      (withoutRecord σ).bind (ih r.2) fun r' => (withoutRecord σ).pure id _
    rw [attend, attend]
    split
    · exact (withoutRecord σ).bind (l.drain_withoutRecord pending) hrest
    · exact (withoutRecord σ).bind ((withoutRecord σ).pure id _) hrest

end Listener

namespace Watcher

theorem act_withoutRecord (l : Listener σ) (w : Watcher) (x : Step) :
    (withoutRecord σ).Maps id (w.act l.recorded x) (w.act l x) := by
  cases x with
  | start =>
    rw [act, act, start, start]
    cases w.held with
    | none =>
      exact (withoutRecord σ).bind (ψ := id) (fun _ _ => rfl) fun _ => (withoutRecord σ).pure id _
    | some i => exact (withoutRecord σ).pure id w
  | stop =>
    rw [act, act, stop, stop]
    cases w.held with
    | none => exact (withoutRecord σ).pure id w
    | some i =>
      exact (withoutRecord σ).bind (ψ := id) (fun _ _ => rfl) fun _ => (withoutRecord σ).pure id _
  | wait => exact (withoutRecord σ).pure id w
  | emit changes => exact (withoutRecord σ).pure id _
  | finish => exact (withoutRecord σ).pure id _

theorem step_withoutRecord (l : Listener σ) (w : Watcher) (x : Step) :
    (withoutRecord σ).Maps id (w.step l.recorded x) (w.step l x) := by
  refine (withoutRecord σ).bind (w.act_withoutRecord l x) fun w' => ?_
  exact (withoutRecord σ).bind (l.attend_withoutRecord _ _) fun r => (withoutRecord σ).pure id _

/-- A listener that keeps what it is handed makes no difference to a run. -/
theorem run_withoutRecord (l : Listener σ) (directory : Path) (steps : List Step) :
    (withoutRecord σ).Maps id (run l.recorded directory steps) (run l directory steps) := by
  have hfold := (withoutRecord σ).foldlM id
    (fun (w : Watcher) x => w.step_withoutRecord l x) steps { directory }
  rwa [List.map_id] at hfold

/-! ### What is handed over -/

/-- A watcher after some steps. -/
def after (l : Listener σ) (s : σ) (directory : Path) (steps : List Step) : Watcher :=
  ((run l directory steps).run s).1

/-- All that is handed over in some steps, in order. -/
def heard (l : Listener σ) (s : σ) (directory : Path) (steps : List Step) : List (List Path) :=
  ((run l.recorded directory steps).run (s, [])).2.2

/-- The watcher and what it has handed over keep the account. -/
theorem balanced_after (l : Listener σ) (s : σ) (directory : Path) (steps : List Step) :
    Balanced steps (after l s directory steps)
      ((heard l s directory steps).map List.toFinset) := by
  obtain ⟨w, s', handed, hrun, hbalanced⟩ := Balanced.run l directory steps s []
  have hsame := run_withoutRecord l directory steps s []
  rw [hrun] at hsame
  rw [after, heard, hrun, ← hsame]
  exact hbalanced

/-- Nothing is handed over in a step after which the watcher is not started. -/
theorem heard_append_of_not_started (l : Listener σ) (s : σ) (directory : Path)
    (steps : List Step) (x : Step) (h : started (steps ++ [x]) = false) :
    heard l s directory (steps ++ [x]) = heard l s directory steps := by
  obtain ⟨w, s', handed, hrun, hbalanced⟩ := Balanced.run l directory steps s []
  obtain ⟨w', s'', handed', hstep, -, hnone⟩ := hbalanced.step l x s' ([] ++ handed)
  have hnil : handed' = [] := List.map_eq_nil_iff.mp (hnone h)
  rw [heard, heard, run_append_singleton, StateT.run_bind, hrun]
  show (((w.step l.recorded x).run (s', [] ++ handed)).2).2 = _
  rw [hstep, hnil, List.append_nil]

/-- **What is handed over.**  After any steps, and whenever the listener breaks down, what has been
handed over is a beginning of what is to be handed over; no two tasks run; a step after which the
watcher is not started hands nothing over; and while a task runs everything has been handed over.
A task does run once the watcher is started, unless the stream has ended. -/
theorem heard_prefix (l : Listener σ) (s : σ) (directory : Path) (steps : List Step) :
    (heard l s directory steps).map List.toFinset <+: deliverable (emitted steps) ∧
      (after l s directory steps).tasks.count .running ≤ 1 ∧
      (∀ x, started (steps ++ [x]) = false →
        heard l s directory (steps ++ [x]) = heard l s directory steps) ∧
      (.running ∈ (after l s directory steps).tasks →
        (heard l s directory steps).map List.toFinset = deliverable (emitted steps)) ∧
      (started steps → .finish ∉ steps → .running ∈ (after l s directory steps).tasks) := by
  have h := balanced_after l s directory steps
  refine ⟨⟨_, h.delivered⟩, h.attended.count_running_le,
    heard_append_of_not_started l s directory steps, fun hrun => ?_, fun hstarted hsteps =>
    h.lively hsteps hstarted⟩
  have hall := h.delivered
  rwa [h.idle hrun, List.filterMap_nil, deliverable_nil, List.append_nil] at hall

end Watcher

end RouteLint
