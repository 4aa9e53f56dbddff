import Grading.Proofs.Watch.Indifferent
import Grading.Watch.Rehearsal

/-!
# Recovery — a notifier that fails is restarted

The attempts of a loop, and the moments at which they come, are planned when it begins: each comes
the delay of its number after the one before. Time passes without one being missed, so the attempts
that a loop makes are the first ones of its plan, up to one that succeeds. A failure that is met
while the coordinator runs leaves a loop with an attempt still to come.
-/

namespace Grading.Watch

open Grading.Files

/-! ## 1. Plans -/

namespace Backoff

def pause (delay : Number) : Nat :=
  if (Number.int 0).less delay then Coordinator.nanoseconds delay else 0

/-- The attempts from the one with number `k` on, at most `n` of them, each with its moment: it
comes the delay of its number after the one before. One whose delay cannot be worked out ends the
loop. -/
def schedule (b : Backoff) : Nat → Nat → Nat → Chance → List (Nat × Nat)
  | 0, _, _, _ => []
  | n + 1, k, t, chance =>
    match b.delay k chance.draw.1 with
    | .error _ => []
    | .ok delay => (k, t + pause delay) :: b.schedule n (k + 1) (t + pause delay) chance.draw.2

theorem length_schedule_le (b : Backoff) (n k t : Nat) (chance : Chance) :
    (b.schedule n k t chance).length ≤ n := by
  induction n generalizing k t chance with
  | zero => exact Nat.le_refl 0
  | succ n ih =>
    unfold schedule
    split
    · exact Nat.zero_le _
    · exact Nat.succ_le_succ (ih _ _ _)

def attemptsFrom (b : Backoff) (k t : Nat) (chance : Chance) : List (Nat × Nat) :=
  b.schedule (b.maxAttempts - k).toNat k t chance

theorem attemptsFrom_eq_nil {b : Backoff} {k : Nat} (h : b.maxAttempts ≤ k) (t : Nat)
    (chance : Chance) : b.attemptsFrom k t chance = [] := by
  unfold attemptsFrom
  rw [Int.toNat_of_nonpos (by omega)]
  rfl

theorem attemptsFrom_eq {b : Backoff} {k : Nat} (h : ¬ b.maxAttempts ≤ k) (t : Nat)
    (chance : Chance) : b.attemptsFrom k t chance =
      match b.delay k chance.draw.1 with
      | .error _ => []
      | .ok delay =>
        (k, t + pause delay) :: b.attemptsFrom (k + 1) (t + pause delay) chance.draw.2 := by
  have hleft : (b.maxAttempts - k).toNat = (b.maxAttempts - (k + 1 : Nat)).toNat + 1 := by omega
  unfold attemptsFrom
  rw [hleft]
  rfl

end Backoff

namespace Coordinator

variable {N : Type} [Notifier N] {c d : Coordinator N} {log : List Occurrence}

omit [Notifier N] in
def planned (c : Coordinator N) : List (Nat × Moment) :=
  match c.retry with
  | none => []
  | some ⟨k, .planning⟩ => c.backoff.attemptsFrom k c.now c.chance
  | some ⟨k, .waiting t⟩ =>
    (k, max c.now t.due) :: c.backoff.attemptsFrom (k + 1) (max c.now t.due) c.chance
  | some ⟨k, .due⟩ => (k, c.now) :: c.backoff.attemptsFrom (k + 1) c.now c.chance

omit [Notifier N] in
/-- The attempts that follow a planned retry are those the backoff lists. -/
theorem planned_planRetry (c : Coordinator N) (k : Nat) :
    (c.planRetry k).1.planned = c.backoff.attemptsFrom k c.now c.chance := by
  unfold planRetry
  by_cases hmax : c.backoff.maxAttempts ≤ k
  · rw [if_pos hmax, Backoff.attemptsFrom_eq_nil hmax]
    rfl
  · rw [if_neg hmax, Backoff.attemptsFrom_eq hmax]
    cases hdraw : c.chance.draw with
    | mk u chance =>
      dsimp only
      cases c.backoff.delay k u with
      | error tooLarge => rfl
      | ok delay =>
        dsimp only
        by_cases hless : (Number.int 0).less delay = true
        · rw [if_pos hless, Backoff.pause, if_pos hless]
          show (k, max c.now (c.now + nanoseconds delay)) ::
            c.backoff.attemptsFrom (k + 1) (max c.now (c.now + nanoseconds delay)) chance = _
          rw [Nat.max_eq_right (Nat.le_add_right _ _)]
        · rw [if_neg hless, Backoff.pause, if_neg hless]
          rfl

/-! ## 2. Attempts in time -/

omit [Notifier N] in
/-- Whether an action keeps to the loop: time does not pass while it can go on, nor beyond the
moment that it waits for, and it waits until then. -/
def keepsLoop (c : Coordinator N) (a : Action) : Bool :=
  match c.retry with
  | none => true
  | some ⟨_, .waiting t⟩ =>
    match a with
    | .wakeRetry => t.due ≤ c.now
    | a => a.duration = 0 || c.now + a.duration ≤ t.due
  | some _ => a.duration = 0

def onTime (c : Coordinator N) : List Action → Bool
  | [] => true
  | a :: as => c.keepsLoop a && (c.act a).1.onTime as

omit [Notifier N] in
def attempted (c : Coordinator N) (a : Action) : List (Nat × Moment) :=
  match a, c.retry with
  | .retry, some ⟨k, .due⟩ => [(k, c.now)]
  | _, _ => []

def attempts (c : Coordinator N) : List Action → List (Nat × Moment)
  | [] => []
  | a :: as => c.attempted a ++ (c.act a).1.attempts as

omit [Notifier N] in
theorem duration_of_keepsLoop {a : Action} (h : c.keepsLoop a = true) {k : Nat} {stage : RetryStage}
    (hretry : c.retry = some ⟨k, stage⟩) :
    a.duration = 0 ∨ ∃ t, stage = .waiting t ∧ c.now + a.duration ≤ t.due := by
  unfold keepsLoop at h
  rw [hretry] at h
  cases stage with
  | planning => exact .inl (of_decide_eq_true h)
  | due => exact .inl (of_decide_eq_true h)
  | waiting t =>
    cases a with
    | wakeRetry => exact .inl rfl
    | _ =>
      exact (Bool.or_eq_true_iff.mp h).imp of_decide_eq_true fun hle =>
        ⟨t, rfl, of_decide_eq_true hle⟩

omit [Notifier N] in
/-- An action that leaves the loop alone leaves its plan alone. -/
theorem planned_eq {a : Action} (h : c.keepsLoop a = true)
    (hsetup : SameSetup { c with now := c.now + a.duration } d) (hretry : d.retry = c.retry)
    (hchance : d.chance = c.chance) : d.planned = c.planned := by
  unfold planned
  rw [hretry, hchance, hsetup.now, hsetup.backoff]
  cases hlive : c.retry with
  | none => rfl
  | some r =>
    obtain ⟨k, stage⟩ := r
    rcases duration_of_keepsLoop h hlive with hzero | ⟨t, rfl, hle⟩
    · rw [hzero]
      rfl
    -- The moment that is waited for is not reached, or just so: the plan counts from it.
    · have hmax : max (c.now + a.duration) t.due = max c.now t.due := by
        rw [Nat.max_eq_right hle, Nat.max_eq_right (Nat.le_trans (Nat.le_add_right _ _) hle)]
      dsimp only
      rw [hmax]

/-- An action that keeps to the loop takes what it attempts from its plan, unless it ends the loop:
by stopping the watching, or by an attempt that succeeds. -/
theorem planned_act {a : Action} (h : c.keepsLoop a = true) (hlive : c.retry ≠ none) :
    c.planned = c.attempted a ++ (c.act a).1.planned ∨
      (∃ runs, a = .stop runs) ∧ (c.act a).1.retry = none ∨
      (c.act a).1.retry = none ∧ c.attempted a ≠ [] ∧ c.attempted a <+: c.planned := by
  have hsetup := act_sameSetup c a
  have hturn := loopTurn_act c a
  generalize (c.act a).1 = d at hturn hsetup
  have hnothing : (a = .retry → ∀ k, c.retry ≠ some ⟨k, .due⟩) → c.attempted a = [] := by
    intro hnot
    unfold attempted
    split
    · next k hdue => exact absurd hdue (hnot rfl k)
    · rfl
  cases hturn with
  | kept hsame hfailure hstart hstop hretry hwake =>
    refine .inl ?_
    rw [hnothing, planned_eq h hsetup hsame.retry hsame.chance]
    · rfl
    · rintro rfl k hdue
      rcases hretry rfl with hnone | ⟨j, t, hwaits⟩
      · exact hlive hnone
      · exact nomatch hdue.symm.trans hwaits
  | handled hfailure _ hhandled =>
    refine .inl ?_
    rw [hnothing (by rintro rfl; exact nomatch hfailure), planned_eq h hsetup _ hhandled.chance]
    · rfl
    · rw [hhandled.retry, if_neg (by simpa using hlive)]
  | started _ _ _ hretry hchance =>
    refine .inl ?_
    rw [hnothing nofun, planned_eq h hsetup hretry hchance]
    rfl
  | stopped _ _ hretry => exact .inr (.inl ⟨⟨_, rfl⟩, hretry⟩)
  -- The waiting is over at the moment that was planned.
  | @woken k t _ hbefore hrunning hretry hchance =>
    refine .inl ?_
    rw [hnothing nofun]
    have hdue : t.due ≤ c.now := by
      unfold keepsLoop at h
      rw [hbefore] at h
      exact of_decide_eq_true h
    unfold planned
    rw [hretry, hbefore, hchance, hsetup.now, hsetup.backoff]
    dsimp only
    rw [Nat.max_eq_left hdue]
    rfl
  | @planned k hbefore =>
    refine .inl ?_
    rw [hnothing (fun _ j hdue => nomatch hbefore.symm.trans hdue), planned_planRetry]
    unfold Coordinator.planned
    rw [hbefore]
    rfl
  -- Both attempts are the first of the plan; one that fails leaves the rest of it.
  | @succeeded k _ hbefore _ hretry =>
    have hattempted : c.attempted .retry = [(k, c.now)] := by
      unfold attempted
      rw [hbefore]
    refine .inr (.inr ⟨hretry, by simp [hattempted], ?_⟩)
    rw [hattempted]
    unfold Coordinator.planned
    rw [hbefore]
    exact ⟨_, rfl⟩
  | @failedAgain k tried hbefore hsame hsetup' =>
    have hattempted : c.attempted .retry = [(k, c.now)] := by
      unfold attempted
      rw [hbefore]
    refine .inl ?_
    rw [hattempted, planned_planRetry, hsetup'.backoff, hsetup'.now, hsame.chance]
    unfold Coordinator.planned
    rw [hbefore]
    rfl

/-! ## 3. A loop and its plan -/

def lives (c : Coordinator N) : List Action → Bool
  | [] => true
  | a :: as => c.retry.isSome && (c.act a).1.lives as

/-- As long as a loop lives, its attempts are the first ones of its plan. -/
theorem attempts_prefix {during : List Action} (h : c.onTime during = true)
    (hlives : c.lives during = true) : c.attempts during <+: c.planned := by
  induction during generalizing c with
  | nil => exact List.nil_prefix
  | cons a during ih =>
    obtain ⟨hkeeps, htime⟩ := Bool.and_eq_true_iff.mp h
    obtain ⟨hlive, hlater⟩ := Bool.and_eq_true_iff.mp hlives
    -- A loop that has ended is followed by no action, as long as a loop lives.
    have hended : (c.act a).1.retry = none → (c.act a).1.attempts during = [] := by
      intro hnone
      cases during with
      | nil => rfl
      | cons b during =>
        unfold lives at hlater
        rw [hnone] at hlater
        exact nomatch hlater
    show c.attempted a ++ (c.act a).1.attempts during <+: c.planned
    rcases planned_act hkeeps (Option.isSome_iff_ne_none.mp hlive) with hplan |
      ⟨⟨runs, rfl⟩, hnone⟩ | ⟨hnone, -, hfirst⟩
    · rw [hplan, List.prefix_append_right_inj]
      exact ih htime hlater
    · rw [hended hnone, List.append_nil]
      exact List.nil_prefix
    · rw [hended hnone, List.append_nil]
      exact hfirst

omit [Notifier N] in
/-- A planned attempt lies ahead. -/
theorem now_le_of_planned {k m : Nat} {rest : List (Nat × Nat)} (h : c.planned = (k, m) :: rest) :
    c.now ≤ m := by
  unfold planned at h
  cases hlive : c.retry with
  | none =>
    rw [hlive] at h
    exact nomatch h
  | some r =>
    obtain ⟨j, stage⟩ := r
    rw [hlive] at h
    cases stage with
    | planning =>
      dsimp only at h
      by_cases hmax : c.backoff.maxAttempts ≤ j
      · rw [Backoff.attemptsFrom_eq_nil hmax] at h
        exact nomatch h
      · rw [Backoff.attemptsFrom_eq hmax] at h
        split at h
        · exact nomatch h
        · rw [← (Prod.mk.inj (List.cons.inj h).1).2]
          exact Nat.le_add_right _ _
    | waiting t =>
      rw [← (Prod.mk.inj (List.cons.inj h).1).2]
      exact Nat.le_max_left _ _
    | due => exact Nat.le_of_eq (Prod.mk.inj (List.cons.inj h).1).2

/-- Unless watching is stopped, the next attempt that is planned is made at its moment. -/
theorem next_attempt {k m : Nat} {rest : List (Nat × Nat)} (h : c.planned = (k, m) :: rest)
    {later : List Action} (htime : c.onTime later = true)
    (hstop : ∀ a ∈ later, ∀ runs, a ≠ .stop runs) :
    (c.attempts later).head? = some (k, m) ∨
      c.attempts later = [] ∧ (c.play later).1.now ≤ m := by
  induction later generalizing c with
  | nil => exact .inr ⟨rfl, now_le_of_planned h⟩
  | cons a later ih =>
    obtain ⟨hkeeps, hlater⟩ := Bool.and_eq_true_iff.mp htime
    have hlive : c.retry ≠ none := by
      intro hnone
      unfold planned at h
      rw [hnone] at h
      exact nomatch h
    show (c.attempted a ++ (c.act a).1.attempts later).head? = _ ∨
      c.attempted a ++ (c.act a).1.attempts later = [] ∧ _
    -- The action makes no attempt and leaves the plan, or makes the first one of it.
    rcases planned_act hkeeps hlive with hplan | ⟨⟨runs, rfl⟩, -⟩ | ⟨-, hmade, hfirst⟩
    · cases hmade : c.attempted a with
      | nil =>
        rw [hmade, h, List.nil_append] at hplan
        exact ih hplan.symm hlater fun b hb => hstop b (List.mem_cons_of_mem _ hb)
      | cons first more =>
        rw [hmade, h] at hplan
        exact .inl (congrArg some (List.cons.inj hplan).1.symm)
    · exact absurd rfl (hstop _ List.mem_cons_self runs)
    · obtain ⟨first, more, hcons⟩ := List.exists_cons_of_ne_nil hmade
      rw [hcons, h] at hfirst
      rw [hcons]
      exact .inl (congrArg some (List.cons_prefix_cons.mp hfirst).1)

omit [Notifier N] in
theorem planRetry_retry (c : Coordinator N) (k : Nat) : (c.planRetry k).1.retry = none ∨
    (∃ t, (c.planRetry k).1.retry = some ⟨k, .waiting t⟩) ∨
      (c.planRetry k).1.retry = some ⟨k, .due⟩ := by
  unfold planRetry
  split
  · exact .inl rfl
  · dsimp only
    split
    · exact .inl rfl
    · split
      · exact .inr (.inl ⟨_, rfl⟩)
      · exact .inr (.inr rfl)

omit [Notifier N] in
/-- A loop whose first attempt is not worked out yet has just begun. -/
def Fresh (c : Coordinator N) : Prop := ∀ k, c.retry = some ⟨k, .planning⟩ → k = 0

/-- One action keeps it so: a loop that begins has made no attempt, and a failed one plans at once. -/
theorem Fresh.act (h : c.Fresh) (a : Action) : (c.act a).1.Fresh := by
  have hplan : ∀ (d : Coordinator N) (k : Nat), (d.planRetry k).1.Fresh := by
    intro d k j hj
    rcases planRetry_retry d k with hretry | ⟨t, hretry⟩ | hretry <;>
      exact nomatch hretry.symm.trans hj
  have hturn := loopTurn_act c a
  generalize (c.act a).1 = d at hturn
  intro k hk
  cases hturn with
  | kept hsame => exact h k (hsame.retry.symm.trans hk)
  | handled _ _ hhandled =>
    rw [hhandled.retry] at hk
    split at hk
    · exact (congrArg Retry.attempt (Option.some.inj hk)).symm
    · exact h k hk
  | started _ _ _ hretry => exact h k (hretry.symm.trans hk)
  | stopped _ _ hretry | succeeded _ _ hretry => exact nomatch hretry.symm.trans hk
  | woken _ _ hretry => exact nomatch hretry.symm.trans hk
  | planned => exact hplan c _ k hk
  | failedAgain => exact hplan _ _ k hk

theorem Fresh.play (h : c.Fresh) (actions : List Action) : (c.play actions).1.Fresh := by
  induction actions generalizing c with
  | nil => exact h
  | cons a actions ih => exact ih (h.act a)

omit [Notifier N] in
/-- A loop at work has an attempt to come, when at least one is allowed and the first delay can be
worked out. -/
theorem exists_planned (hfresh : c.Fresh) (hlive : c.retry ≠ none)
    (hmax : 1 ≤ c.backoff.maxAttempts)
    (hdelay : ∃ delay, c.backoff.delay 0 c.chance.draw.1 = .ok delay) :
    ∃ k m rest, c.planned = (k, m) :: rest := by
  obtain ⟨⟨k, stage⟩, hretry⟩ := Option.ne_none_iff_exists'.mp hlive
  unfold planned
  rw [hretry]
  cases stage with
  | waiting t => exact ⟨_, _, _, rfl⟩
  | due => exact ⟨_, _, _, rfl⟩
  -- A loop that is planning has just begun, so its attempt is the first.
  | planning =>
    obtain rfl := hfresh k hretry
    obtain ⟨delay, hok⟩ := hdelay
    dsimp only
    rw [Backoff.attemptsFrom_eq (by omega)]
    rw [show c.backoff.delay ((0 : Nat) : Int) c.chance.draw.1 = .ok delay from hok]
    exact ⟨_, _, _, rfl⟩

theorem attempts_due {k : Nat} (h : c.retry = some ⟨k, .due⟩) :
    c.onTime [.retry] = true ∧ c.attempts [.retry] = [(k, c.now)] := by
  unfold onTime keepsLoop attempts attempted
  rw [h]
  exact ⟨rfl, rfl⟩

/-- Letting the time pass and waking the loop makes the attempt it waits for. -/
theorem attempts_waiting {k : Nat} {t : Timer} (h : c.retry = some ⟨k, .waiting t⟩) :
    c.onTime [.pass (t.due - c.now), .wakeRetry, .retry] = true ∧
      c.attempts [.pass (t.due - c.now), .wakeRetry, .retry] = [(k, max c.now t.due)] := by
  -- Subtraction stops at zero: when the moment has passed already, no time does.
  have harrive : ∀ now due : Nat, (due - now = 0 ∨ now + (due - now) ≤ due) ∧
      due ≤ now + (due - now) ∧ now + (due - now) = max now due := by omega
  obtain ⟨hkeeps, hdue, hmax⟩ := harrive c.now t.due
  let passed : Coordinator N := { c with now := c.now + (t.due - c.now) }
  have hwoken : (passed.act .wakeRetry).1 = passed.wakeRetry := by
    unfold act
    dsimp only
    rw [show passed.retry = some ⟨k, .waiting t⟩ from h]
  have hretry : passed.wakeRetry.retry = some ⟨k, .due⟩ := by
    show c.retry.map _ = _
    rw [h]
    rfl
  obtain ⟨htime, hmade⟩ := attempts_due hretry
  constructor
  · show (c.keepsLoop _ && (passed.keepsLoop .wakeRetry &&
      (passed.act .wakeRetry).1.onTime [.retry])) = true
    rw [hwoken, htime]
    unfold keepsLoop
    rw [show passed.retry = some ⟨k, .waiting t⟩ from h]
    dsimp only
    rw [Bool.and_true, Bool.and_eq_true_iff, Bool.or_eq_true_iff]
    exact ⟨hkeeps.imp decide_eq_true decide_eq_true, decide_eq_true hdue⟩
  · show [] ++ ([] ++ (passed.act .wakeRetry).1.attempts [.retry]) = _
    rw [hwoken, hmade, ← hmax]
    rfl

/-- The next attempt that is planned can be made. -/
theorem exists_attempt {k m : Nat} {rest : List (Nat × Nat)} (h : c.planned = (k, m) :: rest) :
    ∃ later, c.onTime later = true ∧ (∀ a ∈ later, ∀ runs, a ≠ .stop runs) ∧
      c.attempts later = [(k, m)] := by
  -- A loop that waits or is due is let go on to its attempt.
  have hplanned : ∀ d : Coordinator N, d.planned = (k, m) :: rest →
      (∀ j, d.retry ≠ some ⟨j, .planning⟩) → ∃ later, d.onTime later = true ∧
        (∀ a ∈ later, ∀ runs, a ≠ .stop runs) ∧ d.attempts later = [(k, m)] := by
    intro d hd hnot
    unfold planned at hd
    cases hlive : d.retry with
    | none =>
      rw [hlive] at hd
      exact nomatch hd
    | some r =>
      obtain ⟨j, stage⟩ := r
      rw [hlive] at hd
      cases stage with
      | planning => exact absurd hlive (hnot j)
      | waiting t =>
        obtain ⟨htime, hmade⟩ := attempts_waiting hlive
        exact ⟨_, htime, by simp, hmade.trans (congrArg (fun x => [x]) (List.cons.inj hd).1)⟩
      | due =>
        obtain ⟨htime, hmade⟩ := attempts_due hlive
        exact ⟨_, htime, by simp, hmade.trans (congrArg (fun x => [x]) (List.cons.inj hd).1)⟩
  by_cases hplanning : ∃ j, c.retry = some ⟨j, .planning⟩
  -- One that is planning works out its delay first, which makes no attempt.
  · obtain ⟨j, hj⟩ := hplanning
    have hstep : (c.act .retry).1 = (c.planRetry j).1 := by
      show c.retryStep.1 = _
      unfold retryStep
      rw [hj]
    have hnext : (c.act .retry).1.planned = (k, m) :: rest := by
      rw [hstep, planned_planRetry, ← h]
      unfold planned
      rw [hj]
    have hnot : ∀ i, (c.act .retry).1.retry ≠ some ⟨i, .planning⟩ := by
      intro i hi
      rw [hstep] at hi
      rcases planRetry_retry c j with hretry | ⟨t, hretry⟩ | hretry <;>
        exact nomatch hretry.symm.trans hi
    obtain ⟨later, htime, hstop, hmade⟩ := hplanned _ hnext hnot
    have hkeeps : c.keepsLoop .retry = true ∧ c.attempted .retry = [] := by
      unfold keepsLoop attempted
      rw [hj]
      exact ⟨rfl, rfl⟩
    refine ⟨.retry :: later, ?_, ?_, ?_⟩
    · rw [onTime, hkeeps.1, htime]
      rfl
    · intro a ha runs
      rcases List.mem_cons.mp ha with rfl | hlater
      · exact nofun
      · exact hstop a hlater runs
    · rw [attempts, hkeeps.2, hmade]
      rfl
  · exact hplanned c h fun j hj => hplanning ⟨j, hj⟩

/-! ## 4. Recovery -/

/-- What holds of a coordinator whose notifier may fail at any time. -/
structure Recovers (c : Coordinator N) : Prop where
  /-- No failure keeps an operation from being carried out: what it does to the sessions is the same
  over every notifier. -/
  effect : ∀ {M : Type} [Notifier M] (m : M) (a : Action),
    SameEffect (c.act a).1 ((c.withNotifier m).act a).1
  /-- A failure is told as a warning. -/
  warned : ∀ a, (∃ ev ∈ calls (c.act a).2, ev.isFailure = true) →
    ∃ text, Occurrence.event (.told ⟨.warning, text⟩) ∈ (c.act a).2
  /-- A loop begins with its first attempt still to be planned. -/
  begun : c.retry = none → ∀ a, (c.act a).1.retry = none ∨ (c.act a).1.retry = some {}
  /-- A loop at work is neither changed nor replaced but by its own steps, and by stopping. -/
  single : ∀ r, c.retry = some r → ∀ a, a ≠ .retry → a ≠ .wakeRetry → (∀ runs, a ≠ .stop runs) →
    (c.act a).1.retry = some r
  /-- A loop makes no more attempts than are allowed, each the delay of its number after the one
  before. -/
  limited : c.retry = some {} → ∀ during, c.onTime during = true → c.lives during = true →
    c.attempts during <+:
        c.backoff.schedule c.backoff.maxAttempts.toNat 0 c.now c.chance ∧
      (c.attempts during).length ≤ c.backoff.maxAttempts.toNat
  /-- An attempt stops the notifier and starts it on the watched files, up to the first failure; its
  success ends the loop. -/
  attempt : ∀ k, c.retry = some ⟨k, .due⟩ → ∃ called ok,
    calls (c.act .retry).2 = .stopped :: called ∧ Tried (c.files.map (·.1)) called ok ∧
      (ok = true → (c.act .retry).1.retry = none)
  /-- The watched files are those of the sessions. -/
  files : (c.files.map (·.1)).Nodup ∧
    ∀ file, file ∈ c.files.map (·.1) ↔ ∃ s ∈ c.sessions, s.file = file
  /-- Only attempts stop the notifier, besides stopping the watching. -/
  restarts : ∀ a, Event.stopped ∈ calls (c.act a).2 →
    (∃ runs, a = .stop runs) ∨ c.attempted a ≠ []
  /-- Where attempts are allowed, a failure that is met while the coordinator runs is followed by
  one: the next attempt is planned and can be made, and unless watching is stopped it is made at its
  moment. The first delay can be worked out unless a whole number among the settings is too large
  for a floating-point one. -/
  followed : 1 ≤ c.backoff.maxAttempts →
    (∃ delay, c.backoff.delay 0 c.chance.draw.1 = .ok delay) →
    ∀ a, c.meetsFailure a = true →
      (c.act a).1.running = true ∧ ∃ k m, (c.act a).1.planned.head? = some (k, m) ∧
        (∃ later, (c.act a).1.onTime later = true ∧ (∀ b ∈ later, ∀ runs, b ≠ .stop runs) ∧
          (c.act a).1.attempts later = [(k, m)]) ∧
        ∀ later, (c.act a).1.onTime later = true → (∀ b ∈ later, ∀ runs, b ≠ .stop runs) →
          ((c.act a).1.attempts later).head? = some (k, m) ∨
            (c.act a).1.attempts later = [] ∧ ((c.act a).1.play later).1.now ≤ m

theorem handled_act {a : Action} (h : c.meetsFailure a = true) : Handled c (c.act a).1 := by
  have hturn := loopTurn_act c a
  generalize (c.act a).1 = d at hturn
  cases hturn with
  | handled _ _ hhandled => exact hhandled
  | kept _ hnone | started hnone => exact nomatch hnone.symm.trans h
  | _ => exact nomatch h

theorem begun_act (h : c.retry = none) (a : Action) :
    (c.act a).1.retry = none ∨ (c.act a).1.retry = some {} := by
  have hturn := loopTurn_act c a
  generalize (c.act a).1 = d at hturn
  cases hturn with
  | kept hsame => exact .inl (hsame.retry.trans h)
  | handled _ _ hhandled =>
    refine .inr (hhandled.retry.trans ?_)
    rw [h]
    rfl
  | started _ _ _ hretry => exact .inl (hretry.trans h)
  | stopped _ _ hretry => exact .inl hretry
  | woken hbefore | planned hbefore | succeeded hbefore | failedAgain hbefore =>
    exact nomatch h.symm.trans hbefore

theorem single_act {r : Retry} (h : c.retry = some r) {a : Action} (hretry : a ≠ .retry)
    (hwake : a ≠ .wakeRetry) (hstop : ∀ runs, a ≠ .stop runs) : (c.act a).1.retry = some r := by
  have hturn := loopTurn_act c a
  generalize (c.act a).1 = d at hturn
  cases hturn with
  | kept hsame => exact hsame.retry.trans h
  | handled _ _ hhandled =>
    refine hhandled.retry.trans ?_
    rw [h]
    rfl
  | started _ _ _ hsame => exact hsame.trans h
  | stopped => exact absurd rfl (hstop _)
  | woken => exact absurd rfl hwake
  | planned | succeeded | failedAgain => exact absurd rfl hretry

/-- An attempt stops the notifier, tries every file and ends the loop if all of them are taken. -/
theorem attempt_act {k : Nat} (h : c.retry = some ⟨k, .due⟩) : ∃ called ok,
    calls (c.act .retry).2 = .stopped :: called ∧ Tried (c.files.map (·.1)) called ok ∧
      (ok = true → (c.act .retry).1.retry = none) := by
  obtain ⟨called, notices, ok, hevents, htried, htold, hok, -⟩ := attemptRetry_calls c k
  have hstep : c.retryStep = c.attemptRetry k := by
    unfold retryStep
    rw [h]
  refine ⟨called, ok, ?_, htried, fun h => ?_⟩
  · show calls (c.retryStep.2.map .event) = _
    rw [calls_events, hstep, hevents, List.filter_cons_of_pos rfl, filter_isCall htried.isCall htold]
  · show c.retryStep.1.retry = none
    rw [hstep]
    exact hok h

/-- The notifier is stopped by a stop or by an attempt of the loop only. -/
theorem restarts_act {a : Action} (h : Event.stopped ∈ calls (c.act a).2) :
    (∃ runs, a = .stop runs) ∨ c.attempted a ≠ [] := by
  have hasked := asked_act c a
  generalize calls (c.act a).2 = called at hasked h
  cases hasked with
  | nothing => exact nomatch h
  | added | addFailed | removed => exact nomatch List.mem_singleton.mp h
  | started _ htried => exact absurd h htried.not_stopped
  | stopped => exact .inl ⟨_, rfl⟩
  | restarted hretry =>
    refine .inr ?_
    unfold attempted
    rw [hretry]
    exact List.cons_ne_nil _ _

/-- Whatever has happened to a coordinator, and however its notifier fails from then on, it
recovers. -/
theorem recovers (notifier : N) (settings : WatchSettings) (backoff : Backoff) (chance : Chance)
    (actions : List Action) :
    ((Coordinator.new notifier settings backoff chance).play actions).1.Recovers := by
  generalize hc : ((Coordinator.new notifier settings backoff chance).play actions).1 = c
  have hconsistent := (consistent_new notifier settings backoff chance).play actions
  have hnew : (Coordinator.new notifier settings backoff chance).Fresh := nofun
  have hfresh := hnew.play actions
  rw [hc] at hconsistent hfresh
  refine
    { effect := fun m a => act_withNotifier c m a
      warned := fun a h => warned_act h
      begun := fun h a => begun_act h a
      single := fun r h a hretry hwake hstop => single_act h hretry hwake hstop
      limited := fun h during htime hlives => ?_
      attempt := fun k h => attempt_act h
      files := ⟨hconsistent.filed.distinct, fun file =>
        hconsistent.filed.mem_keys hconsistent.distinct file⟩
      restarts := fun a h => restarts_act h
      followed := fun hmax hdelay a hfailure => ?_ }
  · have hplan : c.planned = c.backoff.schedule c.backoff.maxAttempts.toNat 0 c.now c.chance := by
      unfold planned
      rw [h]
      show c.backoff.schedule (c.backoff.maxAttempts - (0 : Nat)).toNat 0 c.now c.chance = _
      rw [Int.natCast_zero, Int.sub_zero]
    have hfirst := attempts_prefix htime hlives
    rw [hplan] at hfirst
    exact ⟨hfirst, Nat.le_trans hfirst.length_le (Backoff.length_schedule_le _ _ _ _ _)⟩
  -- A failure leaves a loop at work: the one that it began, or one that has an attempt to come.
  · have hhandled := handled_act hfailure
    have hlive : (c.act a).1.retry ≠ none := by
      rw [hhandled.retry]
      split
      · exact nofun
      · next hsome => simpa using hsome
    have hbackoff : (c.act a).1.backoff = c.backoff := (act_sameSetup c a).backoff
    obtain ⟨k, m, rest, hplan⟩ := exists_planned (hfresh.act a) hlive (by rw [hbackoff]; exact hmax)
      (by rw [hbackoff, hhandled.chance]; exact hdelay)
    refine ⟨hhandled.running, k, m, by rw [hplan]; rfl, exists_attempt hplan,
      fun later htime hstop => next_attempt hplan htime hstop⟩

/-- The notifier fails to start twice, and is reported to have failed while the loop waits. -/
theorem recovers_twice_failed :
    let file : Path := ⟨"/", ["w", "a"]⟩
    let backoff : Backoff :=
      { maxAttempts := 3, baseDelay := .int 1, maxDelay := .int 10, jitter := .int 0 }
    let c : Coordinator ScriptedNotifier := .new { startFailures := 2 } {} backoff [.int 0]
    let watching := (c.play [.watch ⟨"a", file⟩ "x"]).1
    let failed := (c.play [.watch ⟨"a", file⟩ "x", .start]).1
    let during : List Action := [.retry, .pass 1000000000, .wakeRetry, .retry,
      .watchFailed (.other "gone"), .pass 2000000000, .wakeRetry, .retry]
    failed.attempts during = [(0, 1000000000), (1, 3000000000)] ∧
      failed.attempts during <+: [(0, 1000000000), (1, 3000000000), (2, 7000000000)] ∧
      (failed.play during).1.retry = none ∧
      ∃ k m, (watching.act .start).1.planned.head? = some (k, m) ∧
        ∃ later, (watching.act .start).1.attempts later = [(k, m)] := by
  intro file backoff c watching failed during
  have hschedule :
      failed.backoff.schedule failed.backoff.maxAttempts.toNat 0 failed.now failed.chance =
      [(0, 1000000000), (1, 3000000000), (2, 7000000000)] := by decide +kernel
  have hlimited := (recovers (N := ScriptedNotifier) { startFailures := 2 } {} backoff [.int 0]
    [.watch ⟨"a", file⟩ "x", .start]).limited rfl during (by decide +kernel) (by decide +kernel)
  obtain ⟨-, k, m, hplan, ⟨later, -, -, hmade⟩, -⟩ :=
    (recovers (N := ScriptedNotifier) { startFailures := 2 } {} backoff [.int 0]
      [.watch ⟨"a", file⟩ "x"]).followed (by decide) ⟨_, rfl⟩ .start (by decide +kernel)
  refine ⟨by decide +kernel, ?_, by decide +kernel, k, m, hplan, later, hmade⟩
  rw [← hschedule]
  exact hlimited.1

end Coordinator

end Grading.Watch
