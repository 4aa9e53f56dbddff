import Grading.Config.Basic
import Grading.Table
import Grading.Watch.Backoff
import Grading.Watch.Session

/-!
# Coordinator — from changes of files to published reports

A burst of changes of a file leads to one run of each exercise that is solved in it. Runs are never
interrupted: the report of a run that is no longer the latest of its session is dropped, and before
each subscriber is told it is looked at again whether the run still is. When files can no longer be
watched, a loop stops and starts the notifier until it succeeds or its attempts are used up.

Every operation is one step that nothing else comes between.
-/

namespace Grading.Watch

open Grading.Files

/-! ## 1. State -/

structure Coordinator (N : Type) where
  notifier : N
  settings : WatchSettings := {}
  backoff : Backoff := {}
  chance : Chance := []
  now : Moment := 0
  /-- How many timers have been set. -/
  timersSet : Nat := 0
  /-- How many sessions have been opened. -/
  opened : Nat := 0
  /-- The sessions in the order in which they were opened. -/
  sessions : List Session := []
  /-- The token given out last for each exercise; it outlives the sessions. -/
  tokens : Table String Nat := []
  /-- The exercises that are solved in each watched file. -/
  files : Table Path (List String) := []
  flights : List Flight := []
  retry : Option Retry := none
  running : Bool := false

namespace Coordinator

variable {N : Type}

def session? (c : Coordinator N) (exercise : String) : Option Session :=
  c.sessions.find? (·.exercise = exercise)

def setSession (c : Coordinator N) (s : Session) : Coordinator N :=
  { c with sessions := c.sessions.map fun t => if t.exercise = s.exercise then s else t }

def token (c : Coordinator N) (exercise : String) : Nat := (c.tokens.lookup exercise).getD 0

/-- Gives out the next token of a session's exercise; what was dispatched before is outdated. -/
def advance (c : Coordinator N) (s : Session) : Coordinator N :=
  let next := c.token s.exercise + 1
  { c with tokens := c.tokens.put s.exercise next }.setSession { s with latest := next }

def isCurrent (c : Coordinator N) (run : Run) : Bool :=
  match c.session? run.exercise with
  | none => false
  | some s => s.serial = run.session && s.latest = run.token

def watched (c : Coordinator N) : List String := c.sessions.map (·.exercise)

def status (c : Coordinator N) (exercise : String) : Status :=
  match c.session? exercise with
  | none => .notStarted
  | some s => s.status

def lastReport (c : Coordinator N) (exercise : String) : Option Report :=
  (c.session? exercise).bind (·.lastReport)

def shown (c : Coordinator N) : String :=
  "FileChangeCoordinator(sessions=" ++ Nat.repr c.sessions.length ++ ", running=" ++
    (if c.running then "True" else "False") ++ ", debounce_ms=" ++
    Nat.repr c.settings.debounceMs ++ ")"

/-! ## 2. Failures of the notifier -/

/-- A failed watch is told of; while the coordinator runs, a loop to restart it begins, unless one is
at work. -/
def watchFailed (c : Coordinator N) (f : WatchFailure) : Coordinator N × List Event :=
  let notice := Event.told ⟨.warning, "File watch failed: " ++ f.text⟩
  if c.running && c.retry.isNone then ({ c with retry := some {} }, [notice, .retryReady])
  else (c, [notice])

def addAll [Notifier N] (n : N) : List Path → Attempt N × List Event
  | [] => (⟨n, none⟩, [])
  | p :: ps =>
    let first := Notifier.add n p
    match first.failure with
    | some _ => (first, [.addFailed p])
    | none =>
      let (rest, events) := addAll first.after ps
      (rest, .added p :: events)

def startNotifier [Notifier N] (c : Coordinator N) :
    Coordinator N × Option WatchFailure × List Event :=
  let (added, events) := addAll c.notifier (c.files.map (·.1))
  match added.failure with
  | some f => ({ c with notifier := added.after }, some f, events)
  | none =>
    let started := Notifier.start added.after
    ({ c with notifier := started.after }, started.failure,
      events ++ [if started.failure.isSome then .startFailed else .started])

def addFile [Notifier N] (c : Coordinator N) (p : Path) : Coordinator N × List Event :=
  let added := Notifier.add c.notifier p
  let c := { c with notifier := added.after }
  match added.failure with
  | none => (c, [.added p])
  | some f =>
    let (c, events) := c.watchFailed f
    (c, .addFailed p :: events)

/-! ## 3. Subscriptions -/

def watch [Notifier N] (c : Coordinator N) (e : Exercise) (who : Subscriber) :
    Coordinator N × List Event :=
  match c.session? e.id with
  | some s => (c.setSession (s.subscribe who), [])
  | none =>
    -- -- Tokens go on from those of earlier sessions, none of whose runs can count as new.
    let token := c.token e.id
    let s : Session := { serial := c.opened, exercise := e.id, file := e.file, subscribers := [who],
                         latest := token, published := token }
    let others := (c.files.lookup e.file).getD []
    let c := { c with opened := c.opened + 1, sessions := c.sessions ++ [s],
                      files := c.files.put e.file (others ++ [e.id]) }
    -- -- The notifier is given a path with the first session on it.
    if c.running && others.isEmpty then c.addFile e.file else (c, [])

/-- Takes a subscription of an exercise back, or all of them. With the last one its session ends, and
no run of it is published any more. -/
def unwatch [Notifier N] (c : Coordinator N) (exercise : String) (who : Option Subscriber) :
    Coordinator N × List Event :=
  match c.session? exercise with
  | none => (c, [])
  | some s =>
    let s := s.unsubscribe who
    if !s.subscribers.isEmpty then (c.setSession s, [])
    else
      -- -- One token more, and every run of the exercise that is in flight is outdated.
      let c := c.advance s
      let c := { c with sessions := c.sessions.filter (·.exercise ≠ exercise) }
      let others := ((c.files.lookup s.file).getD []).filter (· ≠ exercise)
      if !others.isEmpty then ({ c with files := c.files.put s.file others }, [])
      else
        let c := { c with files := c.files.erase s.file }
        -- -- A notifier that is stopped keeps the path.
        if c.running then ({ c with notifier := Notifier.remove c.notifier s.file }, [.removed s.file])
        else (c, [])

/-! ## 4. Start and stop -/

/-- Starts watching; a failure is told of and tried again later. -/
def start [Notifier N] (c : Coordinator N) : Coordinator N × List Event :=
  if c.running then (c, [])
  else
    let (c, failure, events) := { c with running := true }.startNotifier
    match failure with
    | none => (c, events)
    | some f =>
      let (c, more) := c.watchFailed f
      (c, events ++ more)

def settle (c : Coordinator N) (s : Session) : Coordinator N :=
  c.advance { s with timer := none,
                     status := if s.status = .inProgress then s.settled else s.status }

/-- Stops watching and gives up what is in flight, but for the runs that do not let themselves be
given up. -/
def stopDespite [Notifier N] (c : Coordinator N) (stubborn : Run → Bool) :
    Coordinator N × List Event :=
  if !c.running then (c, [])
  else
    let c := { c with running := false, notifier := Notifier.stop c.notifier, retry := none,
                      flights := c.flights.filter fun f => stubborn f.run }
    -- -- The sessions stay, with their subscribers.
    (c.sessions.foldl settle c, [.stopped])

def stop [Notifier N] (c : Coordinator N) : Coordinator N × List Event :=
  c.stopDespite fun _ => false

/-! ## 5. Changes -/

def quiet (c : Coordinator N) : Nat := c.settings.debounceMs * 1000000

def schedule (c : Coordinator N) (s : Session) : Coordinator N :=
  { c with timersSet := c.timersSet + 1 }.setSession
    { s with timer := some ⟨c.now + c.quiet, c.timersSet⟩ }

def scheduleExercise (c : Coordinator N) (exercise : String) : Coordinator N :=
  match c.session? exercise with
  | none => c
  | some s => c.schedule s

def trigger (c : Coordinator N) (exercise : String) : Option (Coordinator N) :=
  (c.session? exercise).map c.schedule

def fileChanged (c : Coordinator N) (file : Path) : Coordinator N :=
  if !c.running || (c.settings.ignoreHidden && file.name.startsWith ".") then c
  else (((c.files.lookup file).getD []).mergeSort (· ≤ ·)).foldl scheduleExercise c

/-! ## 6. Runs -/

def dispatch (c : Coordinator N) (exercise : String) : Coordinator N × Option Run :=
  match c.session? exercise with
  | none => (c, none)
  | some s =>
    let c := c.advance { s with timer := none, status := .inProgress }
    let run : Run := ⟨exercise, s.serial, c.token exercise⟩
    ({ c with flights := c.flights ++ [{ run }] }, some run)

def stage? (c : Coordinator N) (run : Run) : Option Stage :=
  (c.flights.find? (·.run = run)).map (·.stage)

def land (c : Coordinator N) (run : Run) : Coordinator N :=
  { c with flights := c.flights.filter (·.run ≠ run) }

def setStage (c : Coordinator N) (run : Run) (stage : Stage) : Coordinator N :=
  { c with flights := c.flights.map fun f => if f.run = run then { f with stage } else f }

def publish (c : Coordinator N) (run : Run) (report : Report) : Coordinator N :=
  match c.session? run.exercise with
  | none => c.land run
  | some s =>
    -- -- Those who subscribe from here on are not told of this report.
    if c.isCurrent run && s.published < run.token then
      (c.setSession { s with published := run.token, status := report.status,
                             lastReport := some report }).setStage run (.delivering report s.subscribers)
    else c.land run

def deliver (c : Coordinator N) (run : Run) : Coordinator N × Option (Subscriber × Report) :=
  match c.stage? run with
  | some (.delivering report (who :: rest)) =>
    -- -- While the subscriber before was told, the run may have been outdated.
    if c.isCurrent run then (c.setStage run (.delivering report rest), some (who, report))
    else (c.land run, none)
  | some (.delivering _ []) => (c.land run, none)
  | _ => (c, none)

def subscriberFailed (exercise : String) : Notice :=
  ⟨.error, "Change callback failed for " ++ exercise⟩

/-! ## 7. Restarts -/

/-- A number of seconds in nanoseconds, rounded; what is not positive counts as none, and what is not
finite as more than any finite number. -/
def nanoseconds : Number → Nat
  | .int n => n.toNat * 1000000000
  | .float x =>
    match Decimal.Parts.ofFloat x with
    | .finite false mantissa exponent =>
      let (num, den) := Decimal.fraction mantissa exponent
      Decimal.roundHalfEven (num * 1000000000) den
    | .infinite false => Nat.pow 10 400
    | _ => 0

def planRetry (c : Coordinator N) (attempt : Nat) : Coordinator N × List Event :=
  if c.backoff.maxAttempts ≤ (attempt : Int) then
    ({ c with retry := none },
      [.told ⟨.error, "Giving up re-establishing file watch after " ++
        Data.intText c.backoff.maxAttempts ++ " attempts"⟩])
  else
    let (u, chance) := c.chance.draw
    match c.backoff.delay attempt u with
    -- -- A delay that cannot be worked out ends the loop without a word.
    | .error _ => ({ c with retry := none, chance }, [])
    | .ok delay =>
      if (Number.int 0).less delay then
        ({ c with retry := some ⟨attempt, .waiting ⟨c.now + nanoseconds delay, c.timersSet⟩⟩,
                  timersSet := c.timersSet + 1, chance }, [])
      else ({ c with retry := some ⟨attempt, .due⟩, chance }, [.retryReady])

def attemptRetry [Notifier N] (c : Coordinator N) (attempt : Nat) : Coordinator N × List Event :=
  let (c, failure, events) := { c with notifier := Notifier.stop c.notifier }.startNotifier
  let events := .stopped :: events
  match failure with
  | none => ({ c with retry := none }, events)
  | some f =>
    let notice : Notice := ⟨.warning, "Re-establishing watch failed (attempt " ++
      Nat.repr (attempt + 1) ++ "/" ++ Data.intText c.backoff.maxAttempts ++ "): " ++ f.text⟩
    let (c, more) := c.planRetry (attempt + 1)
    (c, events ++ .told notice :: more)

def retryStep [Notifier N] (c : Coordinator N) : Coordinator N × List Event :=
  match c.retry with
  | some ⟨attempt, .planning⟩ => c.planRetry attempt
  | some ⟨attempt, .due⟩ => c.attemptRetry attempt
  | _ => (c, [])

/-! ## 8. Time -/

inductive Purpose where
  | run (exercise : String)
  | retry
  deriving DecidableEq, Repr, Inhabited

def timers (c : Coordinator N) : List (Timer × Purpose) :=
  c.sessions.filterMap (fun s => s.timer.map fun t => (t, .run s.exercise)) ++
    match c.retry with
    | some ⟨_, .waiting t⟩ => [(t, .retry)]
    | _ => []

def nextTimer (c : Coordinator N) : Option (Timer × Purpose) :=
  c.timers.foldl (fun best t =>
    match best with
    | none => some t
    | some b => if t.1.before b.1 then some t else best) none

def wakeRetry (c : Coordinator N) : Coordinator N :=
  { c with retry := c.retry.map fun r => { r with stage := .due } }

end Coordinator

end Grading.Watch
