import Grading.Watch.Coordinator

/-!
# History — everything that can happen to a coordinator

A history is a list of actions, in any order: calls from outside, timers that go off, runs that end,
subscribers that are told. An action that cannot happen in a state changes nothing there, so the
histories of a coordinator are all its interleavings. What a history leads to is seen in its log.
-/

namespace Grading.Watch

open Grading.Files

/-! ## 1. Actions and occurrences -/

inductive Action where
  | watch (e : Exercise) (who : Subscriber)
  | unwatch (exercise : String) (who : Option Subscriber)
  | start
  /-- Watching stops; the listed runs do not let themselves be given up. -/
  | stop (stubborn : List Run)
  | trigger (exercise : String)
  | fileChanged (file : Path)
  | watchFailed (f : WatchFailure)
  /-- Time passes, in nanoseconds. -/
  | pass (duration : Nat)
  /-- The timer of an exercise goes off. -/
  | goOff (exercise : String)
  /-- The runner gives the report of a run. -/
  | finish (run : Run) (report : Report)
  /-- The runner fails, or what tells the subscribers is broken off: the run is over. -/
  | breakOff (run : Run)
  /-- The next subscriber is told of the report of a run. -/
  | deliver (run : Run)
  /-- The loop that restarts the notifier has waited long enough. -/
  | wakeRetry
  /-- The loop that restarts the notifier goes on. -/
  | retry
  deriving Inhabited

/-- What an action makes happen, as seen from outside or in the tokens. -/
inductive Occurrence where
  | opened (exercise : String) (session : Nat)
  | closed (exercise : String) (session : Nat)
  | dispatched (run : Run)
  | published (run : Run) (report : Report)
  | told (run : Run) (who : Subscriber) (report : Report)
  | event (e : Event)
  deriving Inhabited

/-! ## 2. What an action does -/

namespace Coordinator

variable {N : Type}

def new (notifier : N) (settings : WatchSettings) (backoff : Backoff) (chance : Chance) :
    Coordinator N :=
  { notifier, settings, backoff, chance }

def isTimed (c : Coordinator N) (exercise : String) : Bool :=
  (c.session? exercise).any (·.timer.isSome)

def isDelivering (c : Coordinator N) (run : Run) : Bool :=
  match c.stage? run with
  | some (.delivering ..) => true
  | _ => false

def closedSession (before after : Coordinator N) (exercise : String) : List Occurrence :=
  match before.session? exercise, after.session? exercise with
  | some s, none => [.closed exercise s.serial]
  | _, _ => []

def openedSession (before after : Coordinator N) (exercise : String) : List Occurrence :=
  match before.session? exercise, after.session? exercise with
  | none, some s => [.opened exercise s.serial]
  | _, _ => []

def act [Notifier N] (c : Coordinator N) : Action → Coordinator N × List Occurrence
  | .watch e who =>
    let (d, events) := c.watch e who
    (d, openedSession c d e.id ++ events.map .event)
  | .unwatch exercise who =>
    let (d, events) := c.unwatch exercise who
    (d, closedSession c d exercise ++ events.map .event)
  | .start =>
    let (d, events) := c.start
    (d, events.map .event)
  | .stop stubborn =>
    let (d, events) := c.stopDespite fun run => run ∈ stubborn
    (d, events.map .event)
  | .trigger exercise => ((c.trigger exercise).getD c, [])
  | .fileChanged file => (c.fileChanged file, [])
  | .watchFailed f =>
    let (d, events) := c.watchFailed f
    (d, events.map .event)
  | .pass duration => ({ c with now := c.now + duration }, [])
  | .goOff exercise =>
    if c.isTimed exercise then
      let (d, run) := c.dispatch exercise
      (d, run.toList.map .dispatched)
    else (c, [])
  | .finish run report =>
    match c.stage? run with
    | some .running =>
      let d := c.publish run report
      (d, if d.isDelivering run then [.published run report] else [])
    | _ => (c, [])
  | .breakOff run => (c.land run, [])
  | .deliver run =>
    let (d, told) := c.deliver run
    (d, told.toList.map fun t => .told run t.1 t.2)
  | .wakeRetry =>
    match c.retry with
    | some ⟨_, .waiting _⟩ => (c.wakeRetry, [])
    | _ => (c, [])
  | .retry =>
    let (d, events) := c.retryStep
    (d, events.map .event)

/-! ## 3. Histories -/

def play [Notifier N] (c : Coordinator N) : List Action → Coordinator N × List Occurrence
  | [] => (c, [])
  | a :: as =>
    let (d, occurred) := c.act a
    let (e, log) := d.play as
    (e, occurred ++ log)

end Coordinator

/-! ## 4. Logs -/

def openedSessions (log : List Occurrence) : List Nat :=
  log.filterMap fun
    | .opened _ session => some session
    | _ => none

def dispatchedTokens (exercise : String) (log : List Occurrence) : List Nat :=
  log.filterMap fun
    | .dispatched run => if run.exercise = exercise then some run.token else none
    | _ => none

def publishedTokens (exercise : String) (log : List Occurrence) : List Nat :=
  log.filterMap fun
    | .published run _ => if run.exercise = exercise then some run.token else none
    | _ => none

end Grading.Watch
