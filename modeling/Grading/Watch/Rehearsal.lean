import Grading.Watch.History

/-!
# Rehearsal — a coordinator under a script

In a rehearsal the notifier, the runs and the subscribers do what a script says, and time passes only
when it says so. After each step of the script everything that can go on does, first come first
served, until nothing is left but to wait.
-/

namespace Grading.Watch

open Grading.Files

/-! ## 1. The cast -/

structure ScriptedNotifier where
  /-- How many starts are going to fail. -/
  startFailures : Nat := 0
  /-- The names of the files that it cannot watch. -/
  badPaths : List String := []
  isRunning : Bool := false
  /-- Whether it has been started once, and has someone to report to. -/
  hasListener : Bool := false
  deriving DecidableEq, Repr, Inhabited

namespace ScriptedNotifier

def add (n : ScriptedNotifier) (p : Path) : Attempt ScriptedNotifier :=
  if n.badPaths.contains p.text then ⟨n, some (.other ("Cannot watch " ++ p.text))⟩ else ⟨n, none⟩

def start (n : ScriptedNotifier) : Attempt ScriptedNotifier :=
  if n.startFailures = 0 then ⟨{ n with isRunning := true, hasListener := true }, none⟩
  else ⟨{ n with startFailures := n.startFailures - 1 }, some (.other "simulated start failure")⟩

end ScriptedNotifier

instance : Notifier ScriptedNotifier where
  add := ScriptedNotifier.add
  remove n _ := n
  start := ScriptedNotifier.start
  stop n := { n with isRunning := false }
  isRunning n := n.isRunning

inductive Manner where
  | plain
  | failing
  /-- Takes the exercise as changed. -/
  | triggering
  /-- Takes all subscriptions of the exercise back. -/
  | unwatching
  /-- Takes its own subscription back. -/
  | leaving
  /-- Takes all subscriptions back and subscribes anew. -/
  | rewatching
  /-- Lets all others go on first. -/
  | yielding
  /-- Lets all others go on first, and fails then. -/
  | yieldingThenFailing
  /-- Waits until it is opened. -/
  | gated
  deriving DecidableEq, Repr, Inhabited

def Manner.ofText? : String → Option Manner
  | "sync" => some .plain
  | "raise" => some .failing
  | "trigger" => some .triggering
  | "unwatch" => some .unwatching
  | "unwatch_me" => some .leaving
  | "rewatch" => some .rewatching
  | "async" => some .yielding
  | "async_raise" => some .yieldingThenFailing
  | "gated" => some .gated
  | _ => none

inductive Sight where
  | event (e : Event)
  | run (r : Run)
  | notify (who : Subscriber) (report : Report)
  | notified (who : Subscriber) (token : Nat)
  | unknownExercise (id : String)
  | idle
  | noListener
  deriving Inhabited

inductive Job where
  | begin (r : Run)
  | finish (r : Run) (status : Status)
  | awaken (who : Subscriber) (r : Run)
  | fileChanged (file : Path)
  | watchFailed (f : WatchFailure)
  | retry
  deriving Inhabited

structure Rehearsal where
  coordinator : Coordinator ScriptedNotifier
  /-- The directory that relative paths count from. -/
  root : String := "/"
  manners : List (Subscriber × Manner) := []
  /-- Whether runs finish at once. -/
  autoRelease : Bool := false
  queue : List Job := []
  /-- How the runs end that have been released. -/
  released : Table (String × Nat) Status := []
  /-- The runs that wait to be released. -/
  waiting : List Run := []
  opened : List Subscriber := []
  /-- The subscribers that wait to be opened, with the run they were told of. -/
  gated : List (Subscriber × Run) := []
  /-- How many wait until no run is in flight. -/
  idlers : Nat := 0
  seen : List Sight := []

namespace Rehearsal

/-! ## 2. Going on -/

def see (r : Rehearsal) (s : Sight) : Rehearsal := { r with seen := r.seen ++ [s] }

def push (r : Rehearsal) (j : Job) : Rehearsal := { r with queue := r.queue ++ [j] }

def notice (r : Rehearsal) : Occurrence → Rehearsal
  | .event .retryReady => r.push .retry
  | .event e => r.see (.event e)
  | .dispatched run => r.push (.begin run)
  | .told _ who report => r.see (.notify who report)
  | _ => r

def perform (r : Rehearsal) (a : Action) : Rehearsal :=
  let (c, occurred) := r.coordinator.act a
  occurred.foldl notice { r with coordinator := c }

def usualFile (exercise : String) : Path := .ofText ("/w/" ++ exercise ++ ".tsx")

def manner (r : Rehearsal) (who : Subscriber) : Manner := (r.manners.lookup who).getD .plain

/-- Tells a subscriber of the report of a run, and whether the delivery goes on at once. -/
def tell (r : Rehearsal) (run : Run) (who : Subscriber) : Rehearsal × Bool :=
  let id := run.exercise
  match r.manner who with
  | .plain => (r, true)
  | .failing => (r.see (.event (.told (Coordinator.subscriberFailed id))), true)
  | .triggering =>
    if (r.coordinator.session? id).isSome then (r.perform (.trigger id), true)
    else (r.see (.event (.told (Coordinator.subscriberFailed id))), true)
  | .unwatching => (r.perform (.unwatch id none), true)
  | .leaving => (r.perform (.unwatch id (some who)), true)
  | .rewatching => ((r.perform (.unwatch id none)).perform (.watch ⟨id, usualFile id⟩ who), true)
  | .yielding | .yieldingThenFailing => (r.push (.awaken who run), false)
  | .gated =>
    if r.opened.contains who then (r.see (.notified who run.token), true)
    else ({ r with gated := r.gated ++ [(who, run)] }, false)

def deliver (run : Run) : Nat → Rehearsal → Rehearsal
  | 0, r => r
  | fuel + 1, r =>
    let next := (r.coordinator.deliver run).2
    let r := r.perform (.deliver run)
    match next with
    | none => r
    | some (who, _) =>
      let (r, goesOn) := r.tell run who
      if goesOn then deliver run fuel r else r

def untold (r : Rehearsal) (run : Run) : Nat :=
  match r.coordinator.stage? run with
  | some (.delivering _ rest) => rest.length
  | _ => 0

def deliverAll (r : Rehearsal) (run : Run) : Rehearsal := deliver run (r.untold run + 1) r

def finish (r : Rehearsal) (run : Run) (status : Status) : Rehearsal :=
  let report : Report := { exercise := run.exercise, status, token := run.token }
  (r.perform (.finish run report)).deliverAll run

def release? (r : Rehearsal) (run : Run) : Option Status :=
  match r.released.lookup (run.exercise, run.token) with
  | some s => some s
  | none => if r.autoRelease then some .completed else none

def carryOut (r : Rehearsal) : Job → Rehearsal
  | .begin run =>
    let r := r.see (.run run)
    match r.release? run with
    | some status => r.finish run status
    | none => { r with waiting := r.waiting ++ [run] }
  | .finish run status => r.finish run status
  | .awaken who run =>
    let r :=
      if r.manner who = .yieldingThenFailing then
        r.see (.event (.told (Coordinator.subscriberFailed run.exercise)))
      else r.see (.notified who run.token)
    r.deliverAll run
  | .fileChanged file => r.perform (.fileChanged file)
  | .watchFailed f => r.perform (.watchFailed f)
  | .retry => r.perform .retry

def settle : Nat → Rehearsal → Rehearsal
  | 0, r => r
  | fuel + 1, r =>
    match r.queue with
    | [] => r
    | j :: js => settle fuel (carryOut { r with queue := js } j)

/-- How many jobs are carried out before a script is taken to go round in circles. -/
def patience : Nat := 1000000

/-- Carries out all jobs; those who wait until no run is in flight are told if none is. -/
def quiesce (r : Rehearsal) : Rehearsal :=
  let r := settle patience r
  if r.coordinator.flights.isEmpty then
    { r with idlers := 0, seen := r.seen ++ List.replicate r.idlers .idle }
  else r

/-! ## 3. Time -/

def passTo (r : Rehearsal) (moment : Moment) : Rehearsal :=
  r.perform (.pass (moment - r.coordinator.now))

def goOff (r : Rehearsal) (t : Timer × Coordinator.Purpose) : Rehearsal :=
  let r := r.passTo t.1.due
  match t.2 with
  | .run exercise => r.perform (.goOff exercise)
  | .retry => (r.perform .wakeRetry).push .retry

/-- Lets time pass up to a moment; each timer that goes off is seen to before the next. -/
def passUntil (moment : Moment) : Nat → Rehearsal → Rehearsal
  | 0, r => r
  | fuel + 1, r =>
    match r.coordinator.nextTimer with
    | some t => if t.1.due ≤ moment then passUntil moment fuel (r.goOff t).quiesce else r
    | none => r

def pass (r : Rehearsal) (ms : Nat) : Rehearsal :=
  let moment := r.coordinator.now + ms * 1000000
  (passUntil moment patience r).passTo moment

/-! ## 4. Scripts -/

inductive Step where
  | watch (e : Exercise) (who : Subscriber)
  | unwatch (exercise : String) (who : Option Subscriber)
  | start
  | stop
  | trigger (exercise : String)
  /-- The notifier reports a change of a file. -/
  | change (file : Path)
  /-- The notifier stops and reports a failure. -/
  | fail (text : String)
  | pass (ms : Nat)
  /-- Lets a run end. -/
  | release (exercise : String) (token : Nat) (status : Status)
  /-- Lets a gated subscriber go on, now and whenever it is told again. -/
  | open (who : Subscriber)
  | set (startFailures : Option Nat) (badPaths : Option (List String))
  | waitIdle
  deriving Inhabited

def giveUp (r : Rehearsal) : Rehearsal := { r with waiting := [], gated := [], queue := [] }

def onNotifier (r : Rehearsal) (f : ScriptedNotifier → ScriptedNotifier) : Rehearsal :=
  { r with coordinator := { r.coordinator with notifier := f r.coordinator.notifier } }

def begin (r : Rehearsal) : Step → Rehearsal
  | .watch e who => r.perform (.watch { e with file := e.file.absolute r.root } who)
  | .unwatch exercise who => r.perform (.unwatch exercise who)
  | .start => r.perform .start
  | .stop => (if r.coordinator.running then r.giveUp else r).perform (.stop [])
  | .trigger exercise =>
    if (r.coordinator.session? exercise).isSome then r.perform (.trigger exercise)
    else r.see (.unknownExercise exercise)
  | .change file =>
    if r.coordinator.notifier.hasListener then r.push (.fileChanged file) else r.see .noListener
  | .fail text =>
    if r.coordinator.notifier.hasListener then
      (r.onNotifier fun n => { n with isRunning := false }).push (.watchFailed (.other text))
    else r.see .noListener
  | .pass ms => r.pass ms
  | .release exercise token status =>
    let r := { r with released := r.released.put (exercise, token) status }
    match r.waiting.find? fun run => run.exercise = exercise && run.token = token with
    | some run => { r with waiting := r.waiting.filter (· ≠ run) }.push (.finish run status)
    | none => r
  | .open who =>
    let (ready, gated) := r.gated.partition (·.1 = who)
    { r with opened := r.opened ++ [who], gated,
             queue := r.queue ++ ready.map fun g => .awaken g.1 g.2 }
  | .set startFailures badPaths =>
    r.onNotifier fun n => { n with startFailures := startFailures.getD n.startFailures,
                                   badPaths := badPaths.getD n.badPaths }
  | .waitIdle => { r with idlers := r.idlers + 1 }

def step (r : Rehearsal) (s : Step) : Rehearsal × List Sight :=
  let r := (({ r with seen := [] }).begin s).quiesce
  (r, r.seen)

end Rehearsal

end Grading.Watch
