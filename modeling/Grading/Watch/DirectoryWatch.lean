import Grading.Watch.Notifier

/-!
# DirectoryWatch — files watched through their directories

An observer reports what happens in directories. For each file that is watched, the directory it is
in is scheduled once with the observer; what happens to other files there is not passed on.
-/

namespace Grading.Watch

open Grading.Files

/-! ## 1. The observer -/

structure Observer where
  /-- Why it cannot be started, if so. -/
  startError : Option String := none
  /-- The directories that it cannot watch. -/
  missing : List Path := []
  /-- Whether it has lost what was scheduled. -/
  forgetful : Bool := false
  deriving DecidableEq, Repr, Inhabited

inductive ObserverCall where
  | start
  | stop
  | schedule (directory : Path)
  | unschedule (directory : Path)
  deriving DecidableEq, Repr, Inhabited

inductive ChangeKind where
  | modified
  | created
  | deleted
  | moved
  | closed
  | opened
  deriving DecidableEq, Repr, Inhabited

def ChangeKind.text : ChangeKind → String
  | .modified => "modified"
  | .created => "created"
  | .deleted => "deleted"
  | .moved => "moved"
  | .closed => "closed"
  | .opened => "opened"

def ChangeKind.all : List ChangeKind := [.modified, .created, .deleted, .moved, .closed, .opened]

def ChangeKind.ofText? (s : String) : Option ChangeKind := ChangeKind.all.find? (·.text = s)

structure Change where
  kind : ChangeKind
  source : String
  /-- Where it was moved to. -/
  target : String := ""
  isDirectory : Bool := false
  deriving DecidableEq, Repr, Inhabited

/-! ## 2. The watch -/

structure DirectoryWatch where
  /-- The directory that relative paths count from. -/
  root : String := "/"
  observer : Observer := {}
  files : List Path := []
  /-- The directories that are scheduled with the observer. -/
  scheduled : List Path := []
  /-- Whether an observer has been started. -/
  observing : Bool := false
  /-- Whether anyone is told of changes. -/
  listening : Bool := false
  deriving DecidableEq, Repr, Inhabited

inductive WatchReport where
  | changed (file : Path)
  | failed (failure : WatchFailure)
  deriving DecidableEq, Repr, Inhabited

namespace DirectoryWatch

def schedule (w : DirectoryWatch) (directory : Path) : Attempt DirectoryWatch × List ObserverCall :=
  if w.scheduled.contains directory || !w.observing then (⟨w, none⟩, [])
  else if w.observer.missing.contains directory then
    (⟨w, some (.cannotWatch directory directory.text)⟩, [])
  else (⟨{ w with scheduled := w.scheduled ++ [directory] }, none⟩, [.schedule directory])

def scheduleAll (w : DirectoryWatch) : List Path → Attempt DirectoryWatch × List ObserverCall
  | [] => (⟨w, none⟩, [])
  | d :: ds =>
    let (first, calls) := w.schedule d
    match first.failure with
    | some _ => (first, calls)
    | none =>
      let (rest, more) := first.after.scheduleAll ds
      (rest, calls ++ more)

def start (w : DirectoryWatch) : Attempt DirectoryWatch × List ObserverCall :=
  if w.observing then (⟨w, none⟩, [])
  else
    let w := { w with listening := true }
    match w.observer.startError with
    | some reason => (⟨w, some (.cannotStart reason)⟩, [])
    | none =>
      -- -- The observer is held from here on, also where a directory is refused.
      let (after, calls) := { w with observing := true }.scheduleAll (w.files.map Path.parent)
      (after, .start :: calls)

def stop (w : DirectoryWatch) : DirectoryWatch × List ObserverCall :=
  ({ w with observing := false, scheduled := [] }, if w.observing then [.stop] else [])

def add (w : DirectoryWatch) (file : Path) : Attempt DirectoryWatch × List ObserverCall :=
  let file := file.absolute w.root
  let files := if w.files.contains file then w.files else w.files ++ [file]
  -- -- The file is held whether or not its directory can be scheduled.
  { w with files }.schedule file.parent

/-- Watches a file no longer; its directory is unscheduled with the last file in it. -/
def remove (w : DirectoryWatch) (file : Path) : DirectoryWatch × List ObserverCall :=
  let file := file.absolute w.root
  let directory := file.parent
  let w := { w with files := w.files.filter (· ≠ file) }
  if w.files.any (·.parent = directory) || !w.scheduled.contains directory then (w, [])
  else
    -- -- An observer that has lost its directories is not asked.
    ({ w with scheduled := w.scheduled.filter (· ≠ directory) },
      if w.observing && !w.observer.forgetful then [.unschedule directory] else [])

/-- What the listener is told of a change: that the content of a watched file may differ, or that a
scheduled directory is gone. A file that is moved counts where it arrives. -/
def receive (w : DirectoryWatch) (c : Change) : Option WatchReport :=
  if !w.listening then none
  else if c.isDirectory then
    let directory := (Path.ofText c.source).absolute w.root
    if c.kind = .deleted && w.scheduled.contains directory then
      some (.failed (.directoryRemoved directory))
    else none
  else
    let raw := if c.kind = .moved then c.target else c.source
    let file := (Path.ofText raw).absolute w.root
    if [ChangeKind.modified, .created, .moved].contains c.kind && raw ≠ "" && w.files.contains file then
      some (.changed file)
    else none

def shown (w : DirectoryWatch) : String :=
  "WatchdogPrimitive(files=" ++ Nat.repr w.files.length ++ ", running=" ++
    (if w.observing then "True" else "False") ++ ")"

end DirectoryWatch

instance : Notifier DirectoryWatch where
  add w p := (w.add p).1
  remove w p := (w.remove p).1
  start w := w.start.1
  stop w := w.stop.1
  isRunning w := w.observing

end Grading.Watch
