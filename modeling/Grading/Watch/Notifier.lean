import Grading.Files.Path

/-!
# Notifier — what reports changes of files

A notifier is told which files to report on; it is started and stopped, and both starting it and
adding a file may fail.
-/

namespace Grading.Watch

open Grading.Files

inductive WatchFailure where
  | cannotStart (reason : String)
  | cannotWatch (directory : Path) (reason : String)
  | directoryRemoved (directory : Path)
  | other (text : String)
  deriving DecidableEq, Repr, Inhabited

def WatchFailure.text : WatchFailure → String
  | .cannotStart reason => "Cannot start file observer: " ++ reason
  | .cannotWatch d reason => "Cannot watch directory " ++ d.text ++ ": " ++ reason
  | .directoryRemoved d => "Watched directory removed: " ++ d.text
  | .other text => text

structure Attempt (N : Type) where
  after : N
  failure : Option WatchFailure := none

/-- The operations of a notifier. -/
class Notifier (N : Type) where
  add : N → Path → Attempt N
  remove : N → Path → N
  start : N → Attempt N
  stop : N → N
  isRunning : N → Bool

end Grading.Watch
