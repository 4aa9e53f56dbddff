import Grading.Proofs.Watch.Calls

/-!
# Loop — the loop that restarts the notifier

A failure that is met while the coordinator runs begins a loop, unless one is at work. From then on
only the loop itself goes on to its next stage, and only stopping the watching ends it from outside.
-/

namespace Grading.Watch.Coordinator

open Grading.Files

variable {N : Type} [Notifier N] {c d : Coordinator N} {e : String}

/-! ## 1. What keeps the loop -/

/-- Whether an action meets a failure of the notifier, outside the loop, while the coordinator runs.
-/
def meetsFailure (c : Coordinator N) (a : Action) : Bool :=
  match a with
  | .watchFailed _ => c.running
  | .watch .. | .start => (calls (c.act a).2).any Event.isFailure
  | _ => false

omit [Notifier N] in
structure SameLoop (c d : Coordinator N) : Prop where
  running : d.running = c.running
  retry : d.retry = c.retry
  chance : d.chance = c.chance

omit [Notifier N] in
structure Handled (c d : Coordinator N) : Prop where
  running : d.running = true
  retry : d.retry = if c.retry.isNone then some {} else c.retry
  chance : d.chance = c.chance

omit [Notifier N] in
theorem watchFailed_handled (h : c.running = true) (f : WatchFailure) :
    Handled c (c.watchFailed f).1 := by
  unfold watchFailed
  by_cases hnone : c.retry.isNone = true
  · rw [if_pos (by simp [h, hnone])]
    exact ⟨h, (if_pos hnone).symm, rfl⟩
  · rw [if_neg (by simp [hnone])]
    exact ⟨h, (if_neg hnone).symm, rfl⟩

theorem startNotifier_sameLoop (c : Coordinator N) : SameLoop c c.startNotifier.1 := by
  unfold startNotifier
  dsimp only
  split <;> exact ⟨rfl, rfl, rfl⟩

theorem addFile_loop (h : c.running = true) (file : Path) :
    ((c.addFile file).2 = [.added file] ∧ SameLoop c (c.addFile file).1) ∨
      (.addFailed file ∈ (c.addFile file).2 ∧ Handled c (c.addFile file).1) := by
  unfold addFile
  dsimp only
  split
  · exact .inl ⟨rfl, rfl, rfl, rfl⟩
  · next f _ =>
    have hhandled :=
      watchFailed_handled (c := { c with notifier := (Notifier.add c.notifier file).after }) h f
    exact .inr ⟨List.mem_cons_self, hhandled.running, hhandled.retry, hhandled.chance⟩

/-! ## 2. What an action does to the loop -/

inductive LoopTurn (c : Coordinator N) : Action → Coordinator N → Prop where
  | kept {a : Action} {d : Coordinator N} (hsame : SameLoop c d) (hfailure : c.meetsFailure a = false)
      (hstart : a = .start → c.running = true) (hstop : ∀ runs, a = .stop runs → c.running = false)
      (hretry : a = .retry → c.retry = none ∨ ∃ k t, c.retry = some ⟨k, .waiting t⟩)
      (hwake : a = .wakeRetry → ∀ k t, c.retry ≠ some ⟨k, .waiting t⟩) : LoopTurn c a d
  | handled {a : Action} {d : Coordinator N} (hfailure : c.meetsFailure a = true)
      (hbefore : a = .start ∨ c.running = true) (hhandled : Handled c d) : LoopTurn c a d
  | started {d : Coordinator N} (hfailure : c.meetsFailure .start = false)
      (hstopped : c.running = false) (hrunning : d.running = true) (hretry : d.retry = c.retry)
      (hchance : d.chance = c.chance) : LoopTurn c .start d
  | stopped {runs : List Run} {d : Coordinator N} (hbefore : c.running = true)
      (hrunning : d.running = false) (hretry : d.retry = none) (hchance : d.chance = c.chance) :
      LoopTurn c (.stop runs) d
  | woken {k : Nat} {t : Timer} {d : Coordinator N} (hbefore : c.retry = some ⟨k, .waiting t⟩)
      (hrunning : d.running = c.running) (hretry : d.retry = some ⟨k, .due⟩)
      (hchance : d.chance = c.chance) : LoopTurn c .wakeRetry d
  | planned {k : Nat} (hbefore : c.retry = some ⟨k, .planning⟩) :
      LoopTurn c .retry (c.planRetry k).1
  | succeeded {k : Nat} {d : Coordinator N} (hbefore : c.retry = some ⟨k, .due⟩)
      (hrunning : d.running = c.running) (hretry : d.retry = none) (hchance : d.chance = c.chance) :
      LoopTurn c .retry d
  | failedAgain {k : Nat} {tried : Coordinator N} (hbefore : c.retry = some ⟨k, .due⟩)
      (hsame : SameLoop c tried) (hsetup : SameSetup c tried) :
      LoopTurn c .retry (tried.planRetry (k + 1)).1

theorem LoopTurn.other {a : Action} (hsame : SameLoop c d) (hfailure : c.meetsFailure a = false)
    (hstart : a ≠ .start) (hstop : ∀ runs, a ≠ .stop runs) (hretry : a ≠ .retry)
    (hwake : a ≠ .wakeRetry) : LoopTurn c a d :=
  .kept hsame hfailure (fun ha => absurd ha hstart) (fun runs ha => absurd ha (hstop runs))
    (fun ha => absurd ha hretry) fun ha => absurd ha hwake

/-- A subscription leaves the loop as it is, unless the notifier of a running coordinator refuses its path. -/
theorem loopTurn_watch (c : Coordinator N) (x : Exercise) (who : Subscriber) :
    LoopTurn c (.watch x who) (c.watch x who).1 := by
  have hquiet : calls (c.act (.watch x who)).2 = [] → c.meetsFailure (.watch x who) = false :=
    fun h => by rw [meetsFailure, h]; rfl
  cases hs : c.session? x.id with
  | some s =>
    have hnone : calls (c.act (.watch x who)).2 = [] := by
      rw [calls_watch, watch_known c x who hs]
      rfl
    rw [watch_known c x who hs]
    exact .other ⟨rfl, rfl, rfl⟩ (hquiet hnone) nofun nofun nofun nofun
  | none =>
    let opened : Coordinator N :=
      { c with opened := c.opened + 1, sessions := c.sessions ++ [c.firstSession x who],
               files := c.files.put x.file (((c.files.lookup x.file).getD []) ++ [x.id]) }
    have hwatch : c.watch x who =
        if c.running && ((c.files.lookup x.file).getD []).isEmpty then opened.addFile x.file
        else (opened, []) := by
      unfold watch
      rw [hs]
      rfl
    -- Only for the first session in a file is the notifier asked, while the coordinator runs.
    by_cases hfirst : (c.running && ((c.files.lookup x.file).getD []).isEmpty) = true
    · rw [if_pos hfirst] at hwatch
      have hrunning : opened.running = true := (Bool.and_eq_true_iff.mp hfirst).1
      rcases addFile_loop hrunning x.file with ⟨hevents, hsame⟩ | ⟨hevents, hhandled⟩
      · have hcalls : c.meetsFailure (.watch x who) = false := by
          rw [meetsFailure, calls_watch, hwatch, hevents]
          rfl
        rw [hwatch]
        exact .other ⟨hsame.running, hsame.retry, hsame.chance⟩ hcalls nofun nofun nofun nofun
      · have hcalls : c.meetsFailure (.watch x who) = true := by
          rw [meetsFailure, calls_watch, hwatch]
          exact List.any_eq_true.mpr ⟨_, List.mem_filter.mpr ⟨hevents, rfl⟩, rfl⟩
        rw [hwatch]
        exact .handled hcalls (.inr hrunning) ⟨hhandled.running, hhandled.retry, hhandled.chance⟩
    · rw [if_neg hfirst] at hwatch
      have hnone : calls (c.act (.watch x who)).2 = [] := by
        rw [calls_watch, hwatch]
        rfl
      rw [hwatch]
      exact .other ⟨rfl, rfl, rfl⟩ (hquiet hnone) nofun nofun nofun nofun

theorem unwatch_sameLoop (c : Coordinator N) (e : String) (who : Option Subscriber) :
    SameLoop c (c.unwatch e who).1 := by
  cases hs : c.session? e with
  | none =>
    rw [unwatch_unknown c who hs]
    exact ⟨rfl, rfl, rfl⟩
  | some s =>
    by_cases hlast : (s.unsubscribe who).subscribers = []
    · obtain ⟨files, notifier, hd⟩ := unwatch_last c who hs hlast
      rw [hd]
      exact ⟨rfl, rfl, rfl⟩
    · rw [unwatch_some c who hs hlast]
      exact ⟨rfl, rfl, rfl⟩

/-- A start that fails leaves one retry loop behind. -/
theorem loopTurn_start (c : Coordinator N) : LoopTurn c .start c.start.1 := by
  cases hrunning : c.running with
  | true =>
    have hsame : c.start = (c, []) := by
      unfold start
      rw [if_pos hrunning]
    have hcalls : c.meetsFailure .start = false := by
      show (calls (c.start.2.map .event)).any _ = false
      rw [hsame]
      rfl
    rw [hsame]
    exact .kept ⟨rfl, rfl, rfl⟩ hcalls (fun _ => hrunning) nofun nofun nofun
  | false =>
    have htried := startNotifier_tried { c with running := true }
    have hsame := startNotifier_sameLoop { c with running := true }
    have hfails : c.meetsFailure .start = (c.start.2.filter Event.isCall).any Event.isFailure := by
      show (calls (c.start.2.map .event)).any _ = _
      rw [calls_events]
    rcases start_cases hrunning with ⟨hok, hstart⟩ | ⟨f, hfailure, hstart⟩ <;>
      rw [hstart] at hfails ⊢
    · rw [hok] at htried
      refine .started ?_ hrunning hsame.running hsame.retry hsame.chance
      rw [hfails, List.filter_eq_self.mpr htried.isCall, List.any_eq_false]
      intro ev hev
      simp [htried.ok_iff.mp rfl ev hev]
    -- The warning is no operation, so the failure is among the operations that were tried.
    · rw [hfailure] at htried
      have hhandled := watchFailed_handled hsame.running f
      refine .handled ?_ (.inl rfl) ⟨hhandled.running, ?_, hhandled.chance.trans hsame.chance⟩
      · rw [hfails, filter_isCall htried.isCall fun ev hev => watchFailed_not_call hev]
        by_contra hnone
        have hall := List.any_eq_false.mp (Bool.eq_false_iff.mpr hnone)
        exact nomatch htried.ok_iff.mpr fun ev hev => by simpa using hall ev hev
      · rw [hhandled.retry, hsame.retry]

omit [Notifier N] in
theorem foldl_sameLoop {α : Type} {f : Coordinator N → α → Coordinator N}
    (hf : ∀ c x, SameLoop c (f c x)) (xs : List α) (c : Coordinator N) :
    SameLoop c (xs.foldl f c) :=
  ⟨foldl_keep (·.running) (fun c x => (hf c x).running) xs c,
    foldl_keep (·.retry) (fun c x => (hf c x).retry) xs c,
    foldl_keep (·.chance) (fun c x => (hf c x).chance) xs c⟩

omit [Notifier N] in
theorem scheduleExercise_sameLoop (c : Coordinator N) (e : String) :
    SameLoop c (c.scheduleExercise e) := by
  unfold scheduleExercise
  split <;> exact ⟨rfl, rfl, rfl⟩

/-- Every action does one of these things to the loop. -/
theorem loopTurn_act (c : Coordinator N) (a : Action) : LoopTurn c a (c.act a).1 := by
  cases a with
  | watch x who => exact loopTurn_watch c x who
  | unwatch x who => exact .other (unwatch_sameLoop c x who) rfl nofun nofun nofun nofun
  | start => exact loopTurn_start c
  | stop stubborn =>
    show LoopTurn c (.stop stubborn) (c.stopDespite fun run => run ∈ stubborn).1
    unfold stopDespite
    by_cases hrunning : c.running = true
    · rw [if_neg (by simp [hrunning])]
      have hsame := foldl_sameLoop (f := settle) (fun _ _ => ⟨rfl, rfl, rfl⟩) c.sessions
        { c with running := false, notifier := Notifier.stop c.notifier, retry := none,
                 flights := c.flights.filter fun f => f.run ∈ stubborn }
      exact .stopped hrunning hsame.running hsame.retry hsame.chance
    · rw [if_pos (by simp [hrunning])]
      exact .kept ⟨rfl, rfl, rfl⟩ rfl nofun (fun _ _ => by simpa using hrunning) nofun nofun
  | trigger x =>
    refine .other ?_ rfl nofun nofun nofun nofun
    show SameLoop c ((c.trigger x).getD c)
    unfold trigger
    cases c.session? x <;> exact ⟨rfl, rfl, rfl⟩
  | fileChanged file =>
    refine .other ?_ rfl nofun nofun nofun nofun
    show SameLoop c (c.fileChanged file)
    unfold fileChanged
    split
    · exact ⟨rfl, rfl, rfl⟩
    · exact foldl_sameLoop scheduleExercise_sameLoop _ c
  | watchFailed f =>
    cases hrunning : c.running with
    | true => exact .handled hrunning (.inr hrunning) (watchFailed_handled hrunning f)
    | false =>
      have hsame : (c.act (.watchFailed f)).1 = c := by
        show (c.watchFailed f).1 = c
        unfold watchFailed
        rw [hrunning, Bool.false_and, if_neg Bool.false_ne_true]
      rw [hsame]
      exact .other ⟨rfl, rfl, rfl⟩ hrunning nofun nofun nofun nofun
  | pass duration => exact .other ⟨rfl, rfl, rfl⟩ rfl nofun nofun nofun nofun
  | goOff x =>
    refine .other ?_ rfl nofun nofun nofun nofun
    rcases act_goOff c x with hact | ⟨s, hs, hact⟩
    · rw [hact]
      exact ⟨rfl, rfl, rfl⟩
    · rw [hact, dispatch_some c hs]
      exact ⟨rfl, rfl, rfl⟩
  | finish run report =>
    refine .other ?_ rfl nofun nofun nofun nofun
    rcases act_finish c run report with hact | hact | ⟨_, _, _, _, _, hact⟩ <;> rw [hact] <;>
      exact ⟨rfl, rfl, rfl⟩
  | breakOff run => exact .other ⟨rfl, rfl, rfl⟩ rfl nofun nofun nofun nofun
  | deliver run =>
    refine .other ?_ rfl nofun nofun nofun nofun
    rcases act_deliver c run with hact | hact | ⟨_, _, _, _, _, hact⟩ <;> rw [hact] <;>
      exact ⟨rfl, rfl, rfl⟩
  | wakeRetry =>
    show LoopTurn c .wakeRetry (c.act .wakeRetry).1
    cases hretry : c.retry with
    | none =>
      have hact : c.act .wakeRetry = (c, []) := by
        unfold act
        dsimp only
        rw [hretry]
      rw [hact]
      exact .kept ⟨rfl, rfl, rfl⟩ rfl nofun nofun nofun fun _ k t h => nomatch hretry.symm.trans h
    | some r =>
      obtain ⟨k, stage⟩ := r
      cases stage with
      | waiting t =>
        have hact : c.act .wakeRetry = (c.wakeRetry, []) := by
          unfold act
          dsimp only
          rw [hretry]
        rw [hact]
        exact .woken hretry rfl (by unfold wakeRetry; rw [hretry]; rfl) rfl
      | _ =>
        have hact : c.act .wakeRetry = (c, []) := by
          unfold act
          dsimp only
          rw [hretry]
        rw [hact]
        exact .kept ⟨rfl, rfl, rfl⟩ rfl nofun nofun nofun fun _ k t h => nomatch hretry.symm.trans h
  | retry =>
    show LoopTurn c .retry c.retryStep.1
    unfold retryStep
    split
    · next k hretry => exact .planned hretry
    · next k hretry =>
      have hsame := startNotifier_sameLoop { c with notifier := Notifier.stop c.notifier }
      have hsetup := startNotifier_sameSetup { c with notifier := Notifier.stop c.notifier }
      rcases attemptRetry_cases c k with ⟨-, hattempt⟩ | ⟨-, text, hattempt⟩ <;> rw [hattempt]
      · exact .succeeded hretry hsame.running rfl hsame.chance
      · exact .failedAgain hretry ⟨hsame.running, hsame.retry, hsame.chance⟩
          ⟨hsetup.settings, hsetup.backoff, hsetup.now⟩
    -- While the loop waits, or none is at work, its step does nothing.
    · next hplanning hdue =>
      refine .kept ⟨rfl, rfl, rfl⟩ rfl nofun nofun (fun _ => ?_) nofun
      cases hretry : c.retry with
      | none => exact .inl rfl
      | some r =>
        obtain ⟨k, stage⟩ := r
        cases stage with
        | planning => exact absurd hretry (hplanning k)
        | waiting t => exact .inr ⟨k, t, rfl⟩
        | due => exact absurd hretry (hdue k)

omit [Notifier N] in
theorem planRetry_running (c : Coordinator N) (k : Nat) : (c.planRetry k).1.running = c.running := by
  unfold planRetry
  split
  · rfl
  · dsimp only
    split
    · rfl
    · split <;> rfl

/-- Whether a coordinator runs depends on nothing but whether it was started or stopped. -/
theorem running_act (c : Coordinator N) (a : Action) : (c.act a).1.running =
    match a with
    | .start => true
    | .stop _ => false
    | _ => c.running := by
  have hturn := loopTurn_act c a
  generalize (c.act a).1 = d at hturn
  cases hturn with
  | kept hsame _ hstart hstop =>
    cases a with
    | start => exact hsame.running.trans (hstart rfl)
    | stop runs => exact hsame.running.trans (hstop runs rfl)
    | _ => exact hsame.running
  | handled hfailure hbefore hhandled =>
    cases a with
    | start => exact hhandled.running
    | watch | watchFailed => exact hhandled.running.trans (hbefore.resolve_left nofun).symm
    | _ => exact nomatch hfailure
  | started _ _ hrunning => exact hrunning
  | stopped _ hrunning => exact hrunning
  | woken _ hrunning | succeeded _ hrunning => exact hrunning
  | planned => exact planRetry_running c _
  | failedAgain _ hsame => exact (planRetry_running _ _).trans hsame.running

end Grading.Watch.Coordinator
