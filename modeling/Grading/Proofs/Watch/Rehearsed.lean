import Grading.Proofs.Watch.Consistent
import Grading.Watch.Rehearsal

/-!
# Rehearsed — rehearsals are histories

A script decides what the notifier, the runs and the subscribers do. Whatever it says, the coordinator
goes through a history of its own actions, and the subscribers are told what its log says. Only the
notifier can be changed from outside.
-/

namespace Grading.Watch

open Coordinator

/-! ## 1. Reports -/

def notified (seen : List Sight) : List (Subscriber × Report) :=
  seen.filterMap fun
    | .notify who report => some (who, report)
    | _ => none

def reported (log : List Occurrence) : List (Subscriber × Report) :=
  log.filterMap fun
    | .told _ who report => some (who, report)
    | _ => none

theorem notified_append (seen seen' : List Sight) :
    notified (seen ++ seen') = notified seen ++ notified seen' :=
  List.filterMap_append

theorem reported_append (log log' : List Occurrence) :
    reported (log ++ log') = reported log ++ reported log' :=
  List.filterMap_append

namespace Rehearsal

variable {r r' r'' : Rehearsal}

/-! ## 2. Going on -/

/-- One rehearsal leads to another by a history of the coordinator, of which the reports are shown. -/
def GoesOn (r r' : Rehearsal) : Prop :=
  ∃ actions, r'.coordinator = (r.coordinator.play actions).1 ∧
    notified r'.seen = notified r.seen ++ reported (r.coordinator.play actions).2

namespace GoesOn

/-- Nothing happens to the coordinator. -/
theorem quiet (hcoordinator : r'.coordinator = r.coordinator)
    (hseen : notified r'.seen = notified r.seen) : GoesOn r r' :=
  ⟨[], hcoordinator, hseen.trans (List.append_nil _).symm⟩

theorem refl (r : Rehearsal) : GoesOn r r := quiet rfl rfl

theorem trans (h : GoesOn r r') (h' : GoesOn r' r'') : GoesOn r r'' := by
  obtain ⟨xs, hcoordinator, hseen⟩ := h
  obtain ⟨ys, hcoordinator', hseen'⟩ := h'
  refine ⟨xs ++ ys, ?_, ?_⟩
  · rw [play_append, hcoordinator', hcoordinator]
  · rw [play_append, hseen', hseen, hcoordinator, reported_append, List.append_assoc]

theorem see (h : GoesOn r r') {s : Sight} (hs : notified [s] = []) : GoesOn r (r'.see s) := by
  refine h.trans (quiet rfl ?_)
  rw [Rehearsal.see, notified_append, hs, List.append_nil]

theorem push (h : GoesOn r r') (j : Job) : GoesOn r (r'.push j) := h.trans (quiet rfl rfl)

theorem ite {c : Prop} [Decidable c] (h : GoesOn r r') (h' : GoesOn r r'') :
    GoesOn r (if c then r' else r'') := by
  split
  · exact h
  · exact h'

end GoesOn

/-- Noticing what occurred leaves the coordinator alone and writes down the reports. -/
theorem notice_all (r : Rehearsal) (occurred : List Occurrence) :
    (occurred.foldl notice r).coordinator = r.coordinator ∧
      notified (occurred.foldl notice r).seen = notified r.seen ++ reported occurred := by
  induction occurred generalizing r with
  | nil => exact ⟨rfl, (List.append_nil _).symm⟩
  | cons o occurred ih =>
    have hone : (r.notice o).coordinator = r.coordinator ∧
        notified (r.notice o).seen = notified r.seen ++ reported [o] := by
      unfold notice
      split <;> simp [Rehearsal.see, Rehearsal.push, notified, reported]
    obtain ⟨hcoordinator, hseen⟩ := ih (r.notice o)
    rw [List.foldl_cons, hcoordinator, hseen, hone.1, hone.2, List.append_assoc, ← reported_append]
    exact ⟨rfl, rfl⟩

theorem goesOn_perform (r : Rehearsal) (a : Action) : GoesOn r (r.perform a) := by
  obtain ⟨hcoordinator, hseen⟩ :=
    notice_all { r with coordinator := (r.coordinator.act a).1 } (r.coordinator.act a).2
  refine ⟨[a], hcoordinator, hseen.trans ?_⟩
  rw [show r.coordinator.play [a] = ((r.coordinator.act a).1, (r.coordinator.act a).2 ++ []) from rfl,
    List.append_nil]

theorem GoesOn.perform (h : GoesOn r r') (a : Action) : GoesOn r (r'.perform a) :=
  h.trans (goesOn_perform r' a)

/-! ## 3. Jobs -/

theorem goesOn_tell (r : Rehearsal) (run : Run) (who : Subscriber) : GoesOn r (r.tell run who).1 := by
  unfold tell
  dsimp only
  split
  · exact .refl r
  · exact (GoesOn.refl r).see rfl
  · split
    · exact goesOn_perform r _
    · exact (GoesOn.refl r).see rfl
  · exact goesOn_perform r _
  · exact goesOn_perform r _
  · exact (goesOn_perform r _).perform _
  · exact (GoesOn.refl r).push _
  · exact (GoesOn.refl r).push _
  · split
    · exact (GoesOn.refl r).see rfl
    · exact .quiet rfl rfl

/-- A delivery goes on by deliveries of the coordinator. -/
theorem goesOn_deliver (run : Run) (fuel : Nat) (r : Rehearsal) : GoesOn r (deliver run fuel r) := by
  induction fuel generalizing r with
  | zero => exact .refl r
  | succ fuel ih =>
    unfold deliver
    dsimp only
    split
    · exact goesOn_perform r _
    · next who _ _ =>
      have htold := (goesOn_perform r (.deliver run)).trans (goesOn_tell _ run who)
      split
      · exact htold.trans (ih _)
      · exact htold

theorem GoesOn.deliverAll (h : GoesOn r r') (run : Run) : GoesOn r (r'.deliverAll run) :=
  h.trans (goesOn_deliver run _ r')

theorem GoesOn.finish (h : GoesOn r r') (run : Run) (status : Status) :
    GoesOn r (r'.finish run status) :=
  (h.perform _).deliverAll run

/-- A job goes on by actions of the coordinator. -/
theorem goesOn_carryOut (r : Rehearsal) (j : Job) : GoesOn r (r.carryOut j) := by
  cases j with
  | begin run =>
    have hbegun : GoesOn r (r.see (.run run)) := (GoesOn.refl r).see rfl
    unfold carryOut
    dsimp only
    split
    · exact hbegun.finish run _
    · exact hbegun.trans (.quiet rfl rfl)
  | finish run status => exact (GoesOn.refl r).finish run status
  | awaken who run =>
    have hawake := (GoesOn.refl r).see (s := .notified who run.token) rfl
    unfold carryOut
    exact (GoesOn.ite ((GoesOn.refl r).see rfl) hawake).deliverAll run
  | fileChanged => exact goesOn_perform r _
  | watchFailed => exact goesOn_perform r _
  | retry => exact goesOn_perform r _

theorem goesOn_settle (fuel : Nat) (r : Rehearsal) : GoesOn r (settle fuel r) := by
  induction fuel generalizing r with
  | zero => exact .refl r
  | succ fuel ih =>
    unfold settle
    split
    · exact .refl r
    · next j js _ =>
      have hnext : GoesOn r { r with queue := js } := .quiet rfl rfl
      exact (hnext.trans (goesOn_carryOut _ j)).trans (ih _)

theorem GoesOn.quiesce (h : GoesOn r r') : GoesOn r r'.quiesce := by
  refine (h.trans (goesOn_settle patience r')).trans (.ite (.quiet rfl ?_) (.refl _))
  -- Those who wait for the end of all runs are told of no report.
  have hidle : ∀ n, notified (List.replicate n Sight.idle) = [] := by
    intro n
    rw [notified, List.filterMap_replicate]
  rw [notified_append, hidle, List.append_nil]

/-! ## 4. Time -/

theorem goesOn_goOff (r : Rehearsal) (t : Timer × Purpose) : GoesOn r (r.goOff t) := by
  have hdue : GoesOn r (r.passTo t.1.due) := goesOn_perform r _
  unfold goOff
  dsimp only
  split
  · exact hdue.perform _
  · exact (hdue.perform _).push _

theorem goesOn_passUntil (moment : Moment) (fuel : Nat) (r : Rehearsal) :
    GoesOn r (passUntil moment fuel r) := by
  induction fuel generalizing r with
  | zero => exact .refl r
  | succ fuel ih =>
    unfold passUntil
    split
    · next t _ => exact .ite ((goesOn_goOff r t).quiesce.trans (ih _)) (.refl r)
    · exact .refl r

/-! ## 5. Steps -/

/-- What a step makes of the notifier before anything goes on. -/
def Step.onNotifier : Step → ScriptedNotifier → ScriptedNotifier
  | .fail _, n => if n.hasListener then { n with isRunning := false } else n
  | .set startFailures badPaths, n =>
    { n with startFailures := startFailures.getD n.startFailures,
             badPaths := badPaths.getD n.badPaths }
  | _, n => n

/-- The beginning of a step goes on by actions of the coordinator. -/
theorem goesOn_begin (r : Rehearsal) (s : Step) : GoesOn (r.onNotifier s.onNotifier) (r.begin s) := by
  cases s with
  | watch => exact goesOn_perform r _
  | unwatch => exact goesOn_perform r _
  | start => exact goesOn_perform r _
  | stop =>
    have hready : GoesOn r (if r.coordinator.running then r.giveUp else r) :=
      .ite (.quiet rfl rfl) (.refl r)
    exact hready.perform _
  | trigger => exact .ite (goesOn_perform r _) ((GoesOn.refl r).see rfl)
  | change => exact .ite ((GoesOn.refl r).push _) ((GoesOn.refl r).see rfl)
  | fail text =>
    unfold begin
    dsimp only
    split
    · next h =>
      have hsame : r.onNotifier (Step.fail text).onNotifier =
          r.onNotifier fun n => { n with isRunning := false } := by
        simp [onNotifier, Step.onNotifier, h]
      rw [hsame]
      exact (GoesOn.refl _).push _
    · next h =>
      have hsame : r.onNotifier (Step.fail text).onNotifier = r := by
        simp [onNotifier, Step.onNotifier, h]
      rw [hsame]
      exact (GoesOn.refl r).see rfl
  | pass ms => exact (goesOn_passUntil _ patience r).perform _
  | release =>
    unfold begin
    dsimp only
    split
    · exact .quiet rfl rfl
    · exact .quiet rfl rfl
  | «open» => exact .quiet rfl rfl
  | set => exact .refl _
  | waitIdle => exact .quiet rfl rfl

/-- A step of a script is a history of the coordinator behind what the step does to the notifier, and
the subscribers are told of the reports that the log of the history shows, in its order. -/
theorem step_plays (r : Rehearsal) (s : Step) : ∃ actions,
    (r.step s).1.coordinator = ((r.onNotifier s.onNotifier).coordinator.play actions).1 ∧
      notified (r.step s).2 = reported ((r.onNotifier s.onNotifier).coordinator.play actions).2 :=
  (goesOn_begin { r with seen := [] } s).quiesce

def steps (r : Rehearsal) : List Step → Rehearsal × List Sight
  | [] => (r, [])
  | s :: script =>
    let (r, seen) := r.step s
    let (r, more) := r.steps script
    (r, seen ++ more)

/-- A script that leaves the notifier alone is one history of the coordinator. -/
theorem steps_play {script : List Step} (h : ∀ s ∈ script, s.onNotifier = id) (r : Rehearsal) :
    ∃ actions, (r.steps script).1.coordinator = (r.coordinator.play actions).1 ∧
      notified (r.steps script).2 = reported (r.coordinator.play actions).2 := by
  induction script generalizing r with
  | nil => exact ⟨[], rfl, rfl⟩
  | cons s script ih =>
    obtain ⟨xs, hcoordinator, hseen⟩ := r.step_plays s
    have hsame : (r.onNotifier s.onNotifier).coordinator = r.coordinator := by
      rw [h s List.mem_cons_self]
      rfl
    rw [hsame] at hcoordinator hseen
    obtain ⟨ys, hlast, hmore⟩ := ih (fun s hs => h s (List.mem_cons_of_mem _ hs)) (r.step s).1
    rw [hcoordinator] at hlast hmore
    refine ⟨xs ++ ys, ?_, ?_⟩
    · rw [play_append]
      exact hlast
    · rw [play_append, reported_append, ← hseen, ← hmore]
      exact notified_append _ _

end Rehearsal

end Grading.Watch
