import RouteLint.Log
import RouteLint.Watch.Filter

/-!
# Watching a directory

A watcher hands batches of changes to a listener.  Batches come in on a stream and wait there
until a task takes them off, in the order they came.  Starting the watcher sets a task going, which
the watcher holds on to until it is stopped; the task is finished once the stream says so, and it is
called off when the watcher is stopped.  Of a batch, only the paths of the changes that matter are
handed over, and nothing is if there are none.  A listener that breaks down is told about and does
not keep later batches from being handed over.

## Main definitions

* `Signal` — what comes in on a stream.
* `Task`, `Watcher` — the state of a task, and of a watcher.
* `Listener` — what is done with a batch.
* `Watcher.step` — what a watcher does.
-/

namespace RouteLint

/-- Something that comes in on a stream. -/
inductive Signal where
  /-- Some files have changed. -/
  | batch (changes : List Change)
  /-- The stream ends. -/
  | finish
  deriving DecidableEq, Repr

/-- The state of a task. -/
inductive Task where
  /-- It waits for the stream. -/
  | running
  /-- The stream has ended. -/
  | finished
  /-- It was called off. -/
  | cancelled
  deriving DecidableEq, Repr

/-- A task that is called off, unless it has come to its end. -/
def Task.cancel : Task → Task
  | .running => .cancelled
  | t => t

/-- A watcher. -/
structure Watcher where
  /-- The directory. -/
  directory : Path
  /-- All tasks that were ever set going, in order. -/
  tasks : List Task := []
  /-- Which of them the watcher holds on to, if it is started. -/
  held : Option Nat := none
  /-- What has come in on the stream and has not been taken off. -/
  pending : List Signal := []
  deriving DecidableEq, Repr

/-- What can be asked of a watcher, and what can happen to its stream. -/
inductive Watcher.Step where
  /-- Start watching. -/
  | start
  /-- Stop watching. -/
  | stop
  /-- Wait for the task. -/
  | wait
  /-- Some files have changed. -/
  | emit (changes : List Change)
  /-- The stream ends. -/
  | finish
  deriving DecidableEq, Repr

/-- What is done with a batch. -/
structure Listener (σ : Type) where
  /-- React to the paths of a batch; false if that breaks down. -/
  react : List Path → StateM σ Bool
  /-- Tell something. -/
  tell : Event → StateM σ Unit

namespace Listener

variable {σ : Type}

/-- Hand a batch over; nothing if no change in it matters. -/
def hear (l : Listener σ) (changes : List Change) : StateM σ Unit := do
  let paths := relevantPaths changes
  unless paths.isEmpty do
    unless ← l.react paths do
      l.tell .recheckFailed

/-- Hand the batches of a stream over, one after the other, until the stream is empty or ends.
Whether it ended, and what is left of it. -/
def drain (l : Listener σ) : List Signal → StateM σ (Task × List Signal)
  | [] => pure (.running, [])
  | .finish :: rest => pure (.finished, rest)
  | .batch changes :: rest => do
    l.hear changes
    l.drain rest

/-- Let the tasks that run take off the stream what they can, one task after the other.  What
becomes of the tasks, and what is left of the stream. -/
def attend (l : Listener σ) : List Task → List Signal → StateM σ (List Task × List Signal)
  | [], pending => pure ([], pending)
  | t :: ts, pending => do
    let (t, pending) ← if t = .running then l.drain pending else pure (t, pending)
    let (ts, pending) ← l.attend ts pending
    return (t :: ts, pending)

end Listener

namespace Watcher

variable {σ : Type}

/-- The task that a watcher holds on to, if it is started. -/
def task (w : Watcher) : Option Task := w.held.bind fun i => w.tasks[i]?

/-- Let the tasks take off the stream what they can. -/
def settle (l : Listener σ) (w : Watcher) : StateM σ Watcher := do
  let (tasks, pending) ← l.attend w.tasks w.pending
  return { w with tasks, pending }

/-- Set a task going unless the watcher holds on to one. -/
def start (l : Listener σ) (w : Watcher) : StateM σ Watcher :=
  match w.held with
  | none => do
    l.tell (.watching w.directory)
    return { w with tasks := w.tasks ++ [.running], held := some w.tasks.length }
  | some _ => pure w

/-- Call the task off, and let go of it. -/
def stop (l : Listener σ) (w : Watcher) : StateM σ Watcher :=
  match w.held with
  | none => pure w
  | some i => do
    l.tell (.stoppedWatching w.directory)
    return { w with tasks := w.tasks.modify i Task.cancel, held := none }

/-- What a step does at once. -/
def act (l : Listener σ) (w : Watcher) : Step → StateM σ Watcher
  | .start => start l w
  | .stop => stop l w
  | .wait => pure w
  | .emit changes => pure { w with pending := w.pending ++ [.batch changes] }
  | .finish => pure { w with pending := w.pending ++ [.finish] }

/-- One step of a watcher, after which the tasks take off the stream what they can. -/
def step (l : Listener σ) (w : Watcher) (s : Step) : StateM σ Watcher := do
  settle l (← act l w s)

end Watcher

end RouteLint
