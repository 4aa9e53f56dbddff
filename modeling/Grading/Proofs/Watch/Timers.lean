import Mathlib.Data.List.Nodup
import Grading.Proofs.Watch.Consistent
import Grading.Proofs.Watch.Subscribers

/-!
# Timers — the calls that the event loop is going to make

A session only holds its timer; the call that dispatches a run when the timer is due belongs to the
event loop, which makes it whatever has become of the session. So here the calls are kept apart from
the sessions, and are taken back where sessions are rescheduled, closed or settled. In every history
they are the timers of the sessions that are watched, which is why a call never dispatches a run for a
session that it was not set for, and why the coordinator alone tells what the two do together.
-/

namespace Grading.Watch

open Grading.Files

namespace Coordinator

variable {N : Type} {c d : Coordinator N} {s : Session} {e : String}

/-! ## 1. Timers are set one after another -/

theorem timersSet_watchFailed (c : Coordinator N) (f : WatchFailure) :
    (c.watchFailed f).1.timersSet = c.timersSet := by
  unfold watchFailed
  split <;> rfl

theorem timersSet_planRetry (c : Coordinator N) (attempt : Nat) :
    c.timersSet ≤ (c.planRetry attempt).1.timersSet := by
  unfold planRetry
  split
  · exact Nat.le_refl _
  · dsimp only
    split
    · exact Nat.le_refl _
    · split
      · exact Nat.le_succ _
      · exact Nat.le_refl _

theorem timersSet_scheduleExercise (c : Coordinator N) (e : String) :
    c.timersSet ≤ (c.scheduleExercise e).timersSet := by
  unfold scheduleExercise
  split
  · exact Nat.le_refl _
  · exact Nat.le_succ _

theorem timersSet_foldl_scheduleExercise (xs : List String) (c : Coordinator N) :
    c.timersSet ≤ (xs.foldl scheduleExercise c).timersSet := by
  induction xs generalizing c with
  | nil => exact Nat.le_refl _
  | cons x xs ih => exact Nat.le_trans (timersSet_scheduleExercise c x) (ih _)

variable [Notifier N]

theorem timersSet_startNotifier (c : Coordinator N) :
    c.startNotifier.1.timersSet = c.timersSet := by
  unfold startNotifier
  dsimp only
  split <;> rfl

theorem timersSet_addFile (c : Coordinator N) (file : Path) :
    (c.addFile file).1.timersSet = c.timersSet := by
  unfold addFile
  dsimp only
  split
  · rfl
  · exact timersSet_watchFailed _ _

theorem timersSet_retryStep (c : Coordinator N) : c.timersSet ≤ c.retryStep.1.timersSet := by
  unfold retryStep
  split
  · exact timersSet_planRetry c _
  · next attempt _ =>
    have hstarted := timersSet_startNotifier { c with notifier := Notifier.stop c.notifier }
    unfold attemptRetry
    dsimp only
    split
    · exact Nat.le_of_eq hstarted.symm
    · exact Nat.le_trans (Nat.le_of_eq hstarted.symm) (timersSet_planRetry _ _)
  · exact Nat.le_refl _

/-- However many timers have been set, an action only sets more. -/
theorem timersSet_le_act (c : Coordinator N) (a : Action) :
    c.timersSet ≤ (c.act a).1.timersSet := by
  -- Timers are set by triggers, changed files and a retry that is put off; all else keeps their
  -- number.
  cases a with
  | watch x who =>
    refine Nat.le_of_eq (Eq.symm ?_)
    show (c.watch x who).1.timersSet = c.timersSet
    unfold watch
    split
    · rfl
    · dsimp only
      split
      · exact timersSet_addFile _ _
      · rfl
  | unwatch x who =>
    show c.timersSet ≤ (c.unwatch x who).1.timersSet
    cases hs : c.session? x with
    | none => exact Nat.le_of_eq (by rw [unwatch_unknown c who hs])
    | some s =>
      by_cases hrest : (s.unsubscribe who).subscribers = []
      · obtain ⟨files, notifier, hd⟩ := unwatch_last c who hs hrest
        have hsame : (c.unwatch x who).1.timersSet = c.timersSet := by
          rw [hd]
          rfl
        exact Nat.le_of_eq hsame.symm
      · have hsame : (c.unwatch x who).1.timersSet = c.timersSet := by
          rw [unwatch_some c who hs hrest]
          rfl
        exact Nat.le_of_eq hsame.symm
  | start =>
    show c.timersSet ≤ c.start.1.timersSet
    have hstarted := timersSet_startNotifier { c with running := true }
    unfold start
    split
    · exact Nat.le_refl _
    · dsimp only
      split
      · exact Nat.le_of_eq hstarted.symm
      · exact Nat.le_of_eq ((timersSet_watchFailed _ _).trans hstarted).symm
  | stop stubborn =>
    refine Nat.le_of_eq (Eq.symm ?_)
    show (c.stopDespite fun run => run ∈ stubborn).1.timersSet = c.timersSet
    unfold stopDespite
    split
    · rfl
    · exact foldl_keep (f := settle) (·.timersSet) (fun _ _ => rfl) _ _
  | trigger x =>
    show c.timersSet ≤ ((c.trigger x).getD c).timersSet
    unfold trigger
    cases c.session? x with
    | none => exact Nat.le_refl _
    | some s => exact Nat.le_succ _
  | fileChanged file =>
    show c.timersSet ≤ (c.fileChanged file).timersSet
    unfold fileChanged
    split
    · exact Nat.le_refl _
    · exact timersSet_foldl_scheduleExercise _ c
  | watchFailed f => exact Nat.le_of_eq (timersSet_watchFailed c f).symm
  | pass d => exact Nat.le_refl _
  | goOff x =>
    rcases act_goOff c x with hact | ⟨s, hs, hact⟩
    · exact Nat.le_of_eq (by rw [hact])
    · have hsame : (c.act (.goOff x)).1.timersSet = c.timersSet := by
        rw [hact, dispatch_some c hs]
        rfl
      exact Nat.le_of_eq hsame.symm
  | finish run report =>
    rcases act_finish c run report with hact | hact | ⟨_, _, _, _, _, hact⟩ <;> rw [hact] <;>
      exact Nat.le_refl _
  | breakOff run => exact Nat.le_refl _
  | deliver run =>
    rcases act_deliver c run with hact | hact | ⟨_, _, _, _, _, hact⟩ <;> rw [hact] <;>
      exact Nat.le_refl _
  | wakeRetry =>
    unfold act
    dsimp only
    split <;> exact Nat.le_refl _
  | retry => exact timersSet_retryStep c

omit [Notifier N] in
def held? (c : Coordinator N) (e : String) : Option (Timer × Nat) :=
  (c.session? e).bind fun s => s.timer.map fun t => (t, s.serial)

omit [Notifier N] in
theorem held?_eq_some {t : Timer} {n : Nat} : c.held? e = some (t, n) ↔
    ∃ s, c.session? e = some s ∧ s.timer = some t ∧ s.serial = n := by
  unfold held?
  simp [Option.bind_eq_some_iff]

omit [Notifier N] in
theorem held?_of_session? (hs : c.session? e = some s) :
    c.held? e = s.timer.map fun t => (t, s.serial) := by
  unfold held?
  rw [hs]
  rfl

omit [Notifier N] in
theorem isTimed_eq_isSome (c : Coordinator N) (e : String) :
    c.isTimed e = (c.held? e).isSome := by
  unfold isTimed held?
  cases c.session? e with
  | none => rfl
  | some s => simp

end Coordinator

/-! ## 2. The event loop -/

/-- A call that dispatches a run of an exercise when its timer is due. For which session the timer was
set is noted, but the event loop does not know. -/
structure Call where
  timer : Timer
  exercise : String
  session : Nat
  deriving DecidableEq, Repr, Inhabited

theorem Call.eq_mk_iff {k : Call} {t : Timer} {n : Nat} :
    k = ⟨t, k.exercise, n⟩ ↔ (t, n) = (k.timer, k.session) := by
  obtain ⟨timer, exercise, session⟩ := k
  simp [eq_comm]

/-- A coordinator, and the calls that the event loop is going to make and that have not been taken
back, in the order in which their timers were set. -/
structure EventLoop (N : Type) where
  coordinator : Coordinator N
  calls : List Call := []

namespace EventLoop

variable {N : Type}

def cancel (calls : List Call) (s : Session) : List Call :=
  calls.filter fun k => s.timer ≠ some k.timer

def schedule (m : EventLoop N) (e : String) : EventLoop N :=
  let c := m.coordinator
  match c.session? e with
  | none => m
  | some s =>
    { coordinator := c.schedule s
      calls := cancel m.calls s ++ [⟨⟨c.now + c.quiet, c.timersSet⟩, e, s.serial⟩] }

/-- Makes the call for an exercise that was set first. It looks at the session of the exercise as it
is now. -/
def makeCall (m : EventLoop N) (e : String) : EventLoop N × List Occurrence :=
  match m.calls.find? (·.exercise = e) with
  | none => (m, [])
  | some k =>
    let (c, run) := m.coordinator.dispatch e
    ({ coordinator := c, calls := m.calls.erase k }, run.toList.map .dispatched)

/-- What an action leads to. Only the actions that have to do with timers touch the calls: a session
that is closed or settled takes its call back. -/
def act [Notifier N] (m : EventLoop N) : Action → EventLoop N × List Occurrence
  | .goOff e => m.makeCall e
  | .trigger e => (m.schedule e, [])
  | .fileChanged file =>
    let c := m.coordinator
    if !c.running || (c.settings.ignoreHidden && file.name.startsWith ".") then (m, [])
    else ((((c.files.lookup file).getD []).mergeSort (· ≤ ·)).foldl schedule m, [])
  | .unwatch e who =>
    let (c, occurred) := m.coordinator.act (.unwatch e who)
    match m.coordinator.session? e with
    | none => ({ m with coordinator := c }, occurred)
    | some s =>
      if (s.unsubscribe who).subscribers.isEmpty then
        ({ coordinator := c, calls := cancel m.calls s }, occurred)
      else ({ m with coordinator := c }, occurred)
  | .stop stubborn =>
    let (c, occurred) := m.coordinator.act (.stop stubborn)
    if m.coordinator.running then
      ({ coordinator := c, calls := m.coordinator.sessions.foldl cancel m.calls }, occurred)
    else ({ m with coordinator := c }, occurred)
  | a =>
    let (c, occurred) := m.coordinator.act a
    ({ m with coordinator := c }, occurred)

def play [Notifier N] (m : EventLoop N) : List Action → EventLoop N × List Occurrence
  | [] => (m, [])
  | a :: as =>
    let (n, occurred) := m.act a
    let (o, log) := n.play as
    (o, occurred ++ log)

/-! ## 3. Calls and timers -/

variable {m n : EventLoop N} {k : Call} {s : Session} {e : String}

structure Timed (m : EventLoop N) : Prop where
  mem_iff : ∀ k, k ∈ m.calls ↔ m.coordinator.held? k.exercise = some (k.timer, k.session)
  order_lt : ∀ k ∈ m.calls, k.timer.order < m.coordinator.timersSet
  distinct : (m.calls.map (·.timer)).Nodup

namespace Timed

theorem eq_of_timer (h : m.Timed) {k k' : Call} (hk : k ∈ m.calls) (hk' : k' ∈ m.calls)
    (htimer : k.timer = k'.timer) : k = k' :=
  List.inj_on_of_nodup_map h.distinct hk hk' htimer

theorem eq_of_exercise (h : m.Timed) {k k' : Call} (hk : k ∈ m.calls) (hk' : k' ∈ m.calls)
    (hexercise : k.exercise = k'.exercise) : k = k' := by
  have hheld := (h.mem_iff k).mp hk
  rw [hexercise, (h.mem_iff k').mp hk'] at hheld
  exact h.eq_of_timer hk hk' (congrArg Prod.fst (Option.some.inj hheld)).symm

/-- What is left when a session takes its call back: the calls for other exercises. -/
theorem mem_cancel (h : m.Timed) (hs : m.coordinator.session? e = some s) :
    k ∈ cancel m.calls s ↔ k ∈ m.calls ∧ k.exercise ≠ e := by
  unfold cancel
  rw [List.mem_filter, decide_eq_true_eq]
  have hheld := Coordinator.held?_of_session? hs
  -- A timer is set once, so only the call of this session has the timer that it holds.
  refine and_congr_right fun hk => not_congr ⟨fun htimer => ?_, fun hexercise => ?_⟩
  · have hown : (⟨k.timer, e, s.serial⟩ : Call) ∈ m.calls := by
      rw [h.mem_iff, hheld, htimer]
      rfl
    exact congrArg Call.exercise (h.eq_of_timer hk hown rfl)
  · have hown := (h.mem_iff k).mp hk
    rw [hexercise, hheld] at hown
    obtain ⟨t, ht, hpair⟩ := Option.map_eq_some_iff.mp hown
    rw [ht, (Prod.mk.inj hpair).1]

/-- Where the sessions hold the timers that they held, the calls may stay. -/
theorem keep (h : m.Timed) (hcalls : n.calls = m.calls)
    (hset : m.coordinator.timersSet ≤ n.coordinator.timersSet)
    (hheld : ∀ e, n.coordinator.held? e = m.coordinator.held? e) : n.Timed := by
  refine ⟨fun k => ?_, ?_, ?_⟩ <;> rw [hcalls]
  · rw [hheld]
    exact h.mem_iff k
  · exact fun k hk => Nat.lt_of_lt_of_le (h.order_lt k hk) hset
  · exact h.distinct

/-- The call for an exercise goes with the timer of its session. -/
theorem drop (h : m.Timed) (hcalls : n.calls.Sublist m.calls)
    (hmem : ∀ k, k ∈ n.calls ↔ k ∈ m.calls ∧ k.exercise ≠ e)
    (hset : m.coordinator.timersSet ≤ n.coordinator.timersSet)
    (hheld : ∀ x, n.coordinator.held? x = if x = e then none else m.coordinator.held? x) :
    n.Timed := by
  refine ⟨fun k => ?_, fun k hk => ?_, h.distinct.sublist (hcalls.map _)⟩
  · rw [hmem, hheld, h.mem_iff]
    by_cases hk : k.exercise = e
    · simp [hk]
    · simp [hk]
  · exact Nat.lt_of_lt_of_le (h.order_lt k (hcalls.subset hk)) hset

/-- The timer that is set now takes the place of the one that the session held. -/
theorem schedule (h : m.Timed) (e : String) : (m.schedule e).Timed := by
  let c := m.coordinator
  cases hs : c.session? e with
  | none =>
    have hsame : m.schedule e = m := by
      unfold EventLoop.schedule
      dsimp only
      rw [hs]
    rw [hsame]
    exact h
  | some s =>
    let new : Call := ⟨⟨c.now + c.quiet, c.timersSet⟩, e, s.serial⟩
    have hschedule : m.schedule e = ⟨c.schedule s, cancel m.calls s ++ [new]⟩ := by
      unfold EventLoop.schedule
      dsimp only
      rw [hs]
    have hheld : ∀ x, (c.schedule s).held? x =
        if x = e then some (new.timer, new.session) else c.held? x := by
      intro x
      have hx := Coordinator.session?_scheduleExercise c e x
      unfold Coordinator.scheduleExercise at hx
      rw [hs] at hx
      unfold Coordinator.held?
      rw [hx]
      by_cases he : x = e
      · rw [if_pos he, if_pos he, he, hs]
        rfl
      · rw [if_neg he, if_neg he]
    rw [hschedule]
    refine ⟨fun k => ?_, fun k hk => ?_, ?_⟩
    · rw [List.mem_append, List.mem_singleton, h.mem_cancel hs, hheld, h.mem_iff]
      -- The call that is set now is the only one for its exercise.
      by_cases hk : k.exercise = e
      · have hnew : k = ⟨new.timer, k.exercise, new.session⟩ ↔ k = new := by rw [hk]
        rw [if_pos hk, Option.some.injEq, ← Call.eq_mk_iff, hnew]
        simp [hk]
      · rw [if_neg hk]
        have hnew : k ≠ new := fun heq => hk (congrArg Call.exercise heq)
        simp [hk, hnew, c]
    · show k.timer.order < c.timersSet + 1
      rcases List.mem_append.mp hk with hold | hnew
      · exact Nat.lt_succ_of_lt (h.order_lt k ((h.mem_cancel hs).mp hold).1)
      · rw [List.mem_singleton.mp hnew]
        exact Nat.lt_succ_self _
    · rw [List.map_append, List.nodup_append]
      refine ⟨h.distinct.sublist (List.filter_sublist.map _), List.nodup_singleton _, ?_⟩
      -- No timer that was set before has the order of the new one.
      intro t ht t' ht'
      obtain ⟨k, hk, rfl⟩ := List.mem_map.mp ht
      rw [List.mem_singleton.mp ht']
      have hlt := h.order_lt k ((h.mem_cancel hs).mp hk).1
      exact fun heq => Nat.ne_of_lt hlt (congrArg Timer.order heq)

theorem foldl_schedule (h : m.Timed) (exercises : List String) :
    (exercises.foldl EventLoop.schedule m).Timed := by
  induction exercises generalizing m with
  | nil => exact h
  | cons e es ih => exact ih (h.schedule e)

end Timed

theorem mem_foldl_cancel (ss : List Session) (calls : List Call) :
    k ∈ ss.foldl cancel calls ↔ k ∈ calls ∧ ∀ s ∈ ss, s.timer ≠ some k.timer := by
  induction ss generalizing calls with
  | nil => simp
  | cons s ss ih =>
    rw [List.foldl_cons, ih]
    unfold cancel
    rw [List.mem_filter, decide_eq_true_eq, List.forall_mem_cons, and_assoc]

/-! ## 4. The coordinator alone tells what happens -/

theorem coordinator_schedule (m : EventLoop N) (e : String) :
    (m.schedule e).coordinator = m.coordinator.scheduleExercise e := by
  unfold schedule Coordinator.scheduleExercise
  dsimp only
  cases m.coordinator.session? e <;> rfl

theorem coordinator_foldl_schedule (exercises : List String) (m : EventLoop N) :
    (exercises.foldl schedule m).coordinator =
      exercises.foldl Coordinator.scheduleExercise m.coordinator := by
  induction exercises generalizing m with
  | nil => rfl
  | cons e es ih => rw [List.foldl_cons, List.foldl_cons, ih, coordinator_schedule]

theorem Timed.find?_call (h : m.Timed) (e : String) :
    (m.calls.find? (·.exercise = e)).isSome = m.coordinator.isTimed e := by
  rw [Coordinator.isTimed_eq_isSome, Bool.eq_iff_iff, List.find?_isSome]
  constructor
  · rintro ⟨k, hk, hexercise⟩
    rw [← of_decide_eq_true hexercise, (h.mem_iff k).mp hk]
    rfl
  · intro hsome
    obtain ⟨⟨t, n⟩, hheld⟩ := Option.isSome_iff_exists.mp hsome
    exact ⟨⟨t, e, n⟩, (h.mem_iff _).mpr hheld, decide_eq_true rfl⟩

variable [Notifier N]

/-- A call that is made is one whose timer the session of its exercise holds. -/
theorem Timed.makeCall (h : m.Timed) (e : String) :
    (m.makeCall e).1.coordinator = (m.coordinator.act (.goOff e)).1 ∧
      (m.makeCall e).2 = (m.coordinator.act (.goOff e)).2 := by
  have hfind := h.find?_call e
  unfold EventLoop.makeCall Coordinator.act
  dsimp only
  cases hk : m.calls.find? (·.exercise = e) with
  | none =>
    rw [hk] at hfind
    rw [if_neg (by simp [← hfind])]
    exact ⟨rfl, rfl⟩
  | some k =>
    rw [hk] at hfind
    rw [if_pos (by simp [← hfind])]
    exact ⟨rfl, rfl⟩

/-- As long as the calls are the timers of the sessions, the coordinator does what it does without an
event loop. -/
theorem Timed.coordinator_act (h : m.Timed) (a : Action) :
    (m.act a).1.coordinator = (m.coordinator.act a).1 ∧ (m.act a).2 = (m.coordinator.act a).2 := by
  -- The loop only keeps its calls beside the coordinator; a timer that goes off is the one case to
  -- prove.
  cases a with
  | goOff e => exact h.makeCall e
  | trigger e =>
    refine ⟨(coordinator_schedule m e).trans ?_, rfl⟩
    show _ = (m.coordinator.trigger e).getD m.coordinator
    unfold Coordinator.trigger Coordinator.scheduleExercise
    cases m.coordinator.session? e <;> rfl
  | fileChanged file =>
    unfold EventLoop.act Coordinator.act Coordinator.fileChanged
    dsimp only
    split
    · exact ⟨rfl, rfl⟩
    · exact ⟨coordinator_foldl_schedule _ m, rfl⟩
  | unwatch e who =>
    unfold EventLoop.act
    dsimp only
    split
    · exact ⟨rfl, rfl⟩
    · split <;> exact ⟨rfl, rfl⟩
  | stop stubborn =>
    unfold EventLoop.act
    dsimp only
    split <;> exact ⟨rfl, rfl⟩
  | _ => exact ⟨rfl, rfl⟩

/-! ## 5. Calls and timers agree -/

/-- Only a change, a timer that goes off, a closed session and a stop touch the timers. -/
theorem held?_act {c : Coordinator N} (hdistinct : c.watched.Nodup) (hfiled : c.Filed) {a : Action}
    (hchange : c.changes e a = false) (hgoOff : ∀ x, a ≠ .goOff x)
    (hunwatch : ∀ x who, a ≠ .unwatch x who) (hstop : ∀ stubborn, a ≠ .stop stubborn) :
    (c.act a).1.held? e = c.held? e := by
  have hturn := Coordinator.turn_act hdistinct hfiled a e
  unfold Coordinator.held?
  generalize c.session? e = x at hturn
  generalize (c.act a).1.session? e = y at hturn
  -- A session that is opened now holds no timer yet.
  cases hturn with
  | kept | opened | joined | published => rfl
  | left | closed => exact absurd rfl (hunwatch _ _)
  | scheduled order hset => exact nomatch hset.symm.trans hchange
  | dispatched => exact absurd rfl (hgoOff _)
  | settled => exact absurd rfl (hstop _)

namespace Timed

theorem keep_act (h : m.Timed) {a : Action} (hcalls : (m.act a).1.calls = m.calls)
    (hheld : ∀ e, (m.coordinator.act a).1.held? e = m.coordinator.held? e) : (m.act a).1.Timed := by
  have hset := Coordinator.timersSet_le_act m.coordinator a
  rw [← (h.coordinator_act a).1] at hset hheld
  exact h.keep hcalls hset hheld

theorem drop_act (h : m.Timed) {a : Action} (hcalls : (m.act a).1.calls.Sublist m.calls)
    (hmem : ∀ k, k ∈ (m.act a).1.calls ↔ k ∈ m.calls ∧ k.exercise ≠ e)
    (hheld : ∀ x, (m.coordinator.act a).1.held? x = if x = e then none else m.coordinator.held? x) :
    (m.act a).1.Timed := by
  have hset := Coordinator.timersSet_le_act m.coordinator a
  rw [← (h.coordinator_act a).1] at hset hheld
  exact h.drop hcalls hmem hset hheld

/-- A call that is made is dropped from the event loop, and its timer from the session. -/
theorem act_goOff (h : m.Timed) (e : String) : (m.act (.goOff e)).1.Timed := by
  have hfind := h.find?_call e
  cases hk : m.calls.find? (·.exercise = e) with
  | none =>
    have hsame : m.act (.goOff e) = (m, []) := by
      show m.makeCall e = (m, [])
      unfold EventLoop.makeCall
      rw [hk]
    rw [hsame]
    exact h
  | some k =>
    have hcalls : (m.act (.goOff e)).1.calls = m.calls.erase k := by
      show (m.makeCall e).1.calls = m.calls.erase k
      unfold EventLoop.makeCall
      rw [hk]
    -- It is the only call for the exercise, so none is left when it is made.
    have hmem : k ∈ m.calls := List.mem_of_find?_eq_some hk
    have hexercise : k.exercise = e := by simpa using List.find?_some hk
    refine h.drop_act (e := e) (hcalls ▸ List.erase_sublist) (fun k' => ?_) fun x => ?_
    · rw [hcalls, h.distinct.of_map.mem_erase_iff, and_comm]
      refine and_congr_right fun hk' => not_congr ⟨fun heq => heq ▸ hexercise, fun hsame => ?_⟩
      exact h.eq_of_exercise hk' hmem (hsame.trans hexercise.symm)
    · obtain ⟨s, hs, -⟩ := Coordinator.held?_eq_some.mp (hexercise ▸ (h.mem_iff k).mp hmem)
      have hact : (m.coordinator.act (.goOff e)).1 = (m.coordinator.dispatch e).1 := by
        unfold Coordinator.act
        dsimp only
        rw [← hfind, hk]
        rfl
      rw [hact, Coordinator.dispatch_some m.coordinator hs]
      unfold Coordinator.held?
      show ((m.coordinator.advance _).session? x).bind _ = _
      rw [Coordinator.session?_advanced hs (by rfl)]
      by_cases hx : x = e
      · rw [if_pos hx, if_pos hx]
        rfl
      · rw [if_neg hx, if_neg hx]

/-- An unsubscription takes back the call of the session it closes and no other. -/
theorem act_unwatch (h : m.Timed) (e : String) (who : Option Subscriber) :
    (m.act (.unwatch e who)).1.Timed := by
  cases hs : m.coordinator.session? e with
  | none =>
    have hcalls : (m.act (.unwatch e who)).1.calls = m.calls := by
      unfold EventLoop.act
      dsimp only
      rw [hs]
    refine h.keep_act hcalls fun x => ?_
    show (m.coordinator.unwatch e who).1.held? x = _
    rw [Coordinator.unwatch_unknown m.coordinator who hs]
  | some s =>
    by_cases hrest : (s.unsubscribe who).subscribers = []
    -- The session ends, and takes its call back.
    · have hcalls : (m.act (.unwatch e who)).1.calls = cancel m.calls s := by
        unfold EventLoop.act
        dsimp only
        rw [hs]
        exact congrArg (EventLoop.calls ∘ Prod.fst) (if_pos (by simp [hrest]))
      refine h.drop_act (e := e) (hcalls ▸ List.filter_sublist)
        (fun k => hcalls ▸ h.mem_cancel hs) fun x => ?_
      show (m.coordinator.unwatch e who).1.held? x = _
      unfold Coordinator.held?
      rw [Coordinator.session?_unwatch_last m.coordinator who hs hrest]
      by_cases hx : x = e
      · rw [if_pos hx, if_pos hx]
        rfl
      · rw [if_neg hx, if_neg hx]
    · have hcalls : (m.act (.unwatch e who)).1.calls = m.calls := by
        unfold EventLoop.act
        dsimp only
        rw [hs]
        exact congrArg (EventLoop.calls ∘ Prod.fst) (if_neg (by simpa using hrest))
      refine h.keep_act hcalls fun x => ?_
      show (m.coordinator.unwatch e who).1.held? x = _
      unfold Coordinator.held?
      rw [Coordinator.unwatch_some m.coordinator who hs hrest,
        Coordinator.session?_replaced hs (Coordinator.unsubscribe_exercise s who)]
      by_cases hx : x = e
      · rw [if_pos hx, hx, hs]
        cases who <;> rfl
      · rw [if_neg hx]

/-- Stopping takes all calls back. -/
theorem act_stop (h : m.Timed) (hdistinct : m.coordinator.watched.Nodup) (stubborn : List Run) :
    (m.act (.stop stubborn)).1.Timed := by
  by_cases hrunning : m.coordinator.running = true
  · have hcalls : (m.act (.stop stubborn)).1.calls = m.coordinator.sessions.foldl cancel m.calls := by
      unfold EventLoop.act
      dsimp only
      exact congrArg (EventLoop.calls ∘ Prod.fst) (if_pos hrunning)
    -- Every call is held by a session, and every session takes its own back.
    have hnone : (m.act (.stop stubborn)).1.calls = [] := by
      refine List.eq_nil_iff_forall_not_mem.mpr fun k hk => ?_
      rw [hcalls] at hk
      obtain ⟨hmem, hother⟩ := (mem_foldl_cancel _ _).mp hk
      obtain ⟨s, hs, htimer, -⟩ := Coordinator.held?_eq_some.mp ((h.mem_iff k).mp hmem)
      exact hother s (List.mem_of_find?_eq_some hs) htimer
    have hheld : ∀ x, (m.act (.stop stubborn)).1.coordinator.held? x = none := by
      intro x
      rw [(h.coordinator_act _).1]
      show (m.coordinator.stopDespite fun run => run ∈ stubborn).1.held? x = none
      unfold Coordinator.held?
      rw [Coordinator.session?_stopDespite hdistinct hrunning]
      cases m.coordinator.session? x <;> rfl
    refine ⟨fun k => ?_, ?_, ?_⟩ <;> rw [hnone]
    · rw [hheld]
      exact ⟨nofun, nofun⟩
    · exact nofun
    · exact List.nodup_nil
  · have hcalls : (m.act (.stop stubborn)).1.calls = m.calls := by
      unfold EventLoop.act
      dsimp only
      exact congrArg (EventLoop.calls ∘ Prod.fst) (if_neg hrunning)
    refine h.keep_act hcalls fun x => ?_
    show (m.coordinator.stopDespite fun run => run ∈ stubborn).1.held? x = _
    unfold Coordinator.stopDespite
    rw [if_pos (by simpa using hrunning)]

/-- One action keeps the timers in order. -/
theorem act (h : m.Timed) (hdistinct : m.coordinator.watched.Nodup) (hfiled : m.coordinator.Filed)
    (a : Action) : (m.act a).1.Timed := by
  cases a with
  | goOff e => exact h.act_goOff e
  | trigger e => exact h.schedule e
  | fileChanged file =>
    unfold EventLoop.act
    dsimp only
    split
    · exact h
    · exact h.foldl_schedule _
  | unwatch e who => exact h.act_unwatch e who
  | stop stubborn => exact h.act_stop hdistinct stubborn
  | _ =>
    refine h.keep_act rfl fun e => held?_act hdistinct hfiled ?_ ?_ ?_ ?_
    · rfl
    all_goals exact nofun

/-- In every history the calls are the timers of the sessions, and the coordinator alone tells what
happens. -/
theorem play {log : List Occurrence} (h : m.Timed) (hc : m.coordinator.Consistent log)
    (actions : List Action) : (m.play actions).1.Timed ∧
      (m.play actions).1.coordinator = (m.coordinator.play actions).1 ∧
      (m.play actions).2 = (m.coordinator.play actions).2 := by
  induction actions generalizing m log with
  | nil => exact ⟨h, rfl, rfl⟩
  | cons a as ih =>
    obtain ⟨hcoordinator, hseen⟩ := h.coordinator_act a
    -- The files that the next action looks up are known to be those of the sessions.
    have hconsistent : (m.act a).1.coordinator.Consistent _ := hcoordinator ▸ hc.act a
    obtain ⟨htimed, hlast, hlog⟩ := ih (h.act hc.distinct hc.filed a) hconsistent
    rw [hcoordinator] at hlast hlog
    refine ⟨htimed, hlast, ?_⟩
    show (m.act a).2 ++ _ = (m.coordinator.act a).2 ++ _
    rw [hseen]
    exact congrArg _ hlog

end Timed

end EventLoop

end Grading.Watch
