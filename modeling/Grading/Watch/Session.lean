import Grading.Exercise
import Grading.Notice
import Grading.Report.Basic
import Grading.Watch.Notifier

/-!
# Session — an exercise that is watched, and its runs

A session lasts from the first subscription to an exercise to the last one that is taken back. Every
run carries a token; a later run of the exercise has a greater one.
-/

namespace Grading.Watch

/-- A moment, in nanoseconds from the first one. -/
abbrev Moment := Nat

/-- A timer that has been set. Of two that are due at the same moment the one set first goes off
first. -/
structure Timer where
  due : Moment
  order : Nat
  deriving DecidableEq, Repr, Inhabited

def Timer.before (a b : Timer) : Bool := a.due < b.due || (a.due = b.due && a.order < b.order)

abbrev Subscriber := String

structure Session where
  /-- Tells sessions of the same exercise apart. -/
  serial : Nat
  exercise : String
  file : Files.Path
  subscribers : List Subscriber
  /-- The timer that dispatches a run when it goes off. -/
  timer : Option Timer := none
  /-- The token given out last. -/
  latest : Nat
  /-- The token of the report published last. -/
  published : Nat
  status : Status := .notStarted
  lastReport : Option Report := none
  deriving Inhabited

def Session.subscribe (s : Session) (who : Subscriber) : Session :=
  if s.subscribers.contains who then s else { s with subscribers := s.subscribers ++ [who] }

def Session.unsubscribe (s : Session) : Option Subscriber → Session
  | none => { s with subscribers := [] }
  | some who => { s with subscribers := s.subscribers.erase who }

def Session.settled (s : Session) : Status :=
  match s.lastReport with
  | none => .notStarted
  | some r => r.status

structure Run where
  exercise : String
  session : Nat
  token : Nat
  deriving DecidableEq, Repr, Inhabited

inductive Stage where
  /-- The runner has not given its report yet. -/
  | running
  /-- The report is published; these subscribers have not been told yet. -/
  | delivering (report : Report) (rest : List Subscriber)
  deriving Inhabited

structure Flight where
  run : Run
  stage : Stage := .running
  deriving Inhabited

inductive RetryStage where
  /-- It works out the delay. -/
  | planning
  | waiting (timer : Timer)
  /-- It makes the attempt. -/
  | due
  deriving DecidableEq, Repr, Inhabited

/-- The loop that restarts a failed watch; attempts count from zero. -/
structure Retry where
  attempt : Nat := 0
  stage : RetryStage := .planning
  deriving DecidableEq, Repr, Inhabited

inductive Event where
  | added (file : Files.Path)
  | addFailed (file : Files.Path)
  | removed (file : Files.Path)
  | started
  | startFailed
  | stopped
  | told (notice : Notice)
  /-- The loop that restarts a failed watch can go on. -/
  | retryReady
  deriving DecidableEq, Repr, Inhabited

end Grading.Watch
