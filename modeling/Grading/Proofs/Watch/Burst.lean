import Grading.Proofs.Watch.Consistent

/-!
# Burst — from changes of an exercise to its runs

A change sets the timer of its exercise anew, so a burst of changes leads to one run, the quiet time
after the last of them. While an exercise stays watched and its timer goes off when it is due, the
moments at which its runs are dispatched are determined by the moments of the changes alone. The
report of the run that was dispatched last is the one that stays.
-/

namespace Grading.Watch

open Grading.Files

/-! ## 1. Bursts -/

/-- The moments at which changes lead to a run: the quiet time after each change that no other
follows within it. -/
def burstEnds (quiet : Nat) : List Nat → List Nat
  | [] => []
  | [t] => [t + quiet]
  | t :: u :: rest =>
    if quiet ≤ u - t then (t + quiet) :: burstEnds quiet (u :: rest)
    else burstEnds quiet (u :: rest)

theorem burstEnds_cons_of_le {quiet t : Nat} {rest : List Nat}
    (h : ∀ u ∈ rest, t + quiet ≤ u) :
    burstEnds quiet (t :: rest) = (t + quiet) :: burstEnds quiet rest := by
  cases rest with
  | nil => rfl
  | cons u rest =>
    have hu := h u List.mem_cons_self
    exact if_pos (by omega)

theorem burstEnds_cons_of_lt {quiet t u : Nat} (rest : List Nat) (htu : t ≤ u)
    (h : u < t + quiet) : burstEnds quiet (t :: u :: rest) = burstEnds quiet (u :: rest) :=
  if_neg (by omega)

namespace Coordinator

variable {N : Type} [Notifier N] {c : Coordinator N} {s : Session} {e : String}
  {log : List Occurrence}

/-! ## 2. Attended histories -/

omit [Notifier N] in
def timer? (c : Coordinator N) (e : String) : Option Timer := (c.session? e).bind (·.timer)

omit [Notifier N] in
/-- Whether an action keeps to the timer of an exercise: time does not pass beyond the moment at
which it is due, and it goes off then, before a change of that moment. -/
def keepsTimer (c : Coordinator N) (e : String) (a : Action) : Bool :=
  (c.timer? e).all fun t =>
    match a with
    | .pass d => c.now + d ≤ t.due
    | .goOff x => x ≠ e || t.due ≤ c.now
    | a => !c.changes e a || c.now < t.due

omit [Notifier N] in
def stops (c : Coordinator N) : Action → Bool
  | .stop _ => c.running
  | _ => false

/-- Whether, through a history, an exercise stays watched and its timer is kept to, and watching is
not stopped. -/
def attends (c : Coordinator N) (e : String) : List Action → Bool
  | [] => true
  | a :: as => c.keepsTimer e a && !c.stops a && ((c.act a).1.session? e).isSome &&
      (c.act a).1.attends e as

/-- The moments at which changes of an exercise are taken up. -/
def changeMoments (c : Coordinator N) (e : String) : List Action → List Moment
  | [] => []
  | a :: as => (if c.changes e a then [c.now] else []) ++ (c.act a).1.changeMoments e as

def dispatched (c : Coordinator N) (e : String) (a : Action) : List Run :=
  (c.act a).2.filterMap fun
    | .dispatched run => if run.exercise = e then some run else none
    | _ => none

def dispatches (c : Coordinator N) (e : String) : List Action → List (Moment × Run)
  | [] => []
  | a :: as => (c.dispatched e a).map (c.now, ·) ++ (c.act a).1.dispatches e as

theorem dispatched_eq_nil {a : Action} (h : a = .goOff e → c.isTimed e = false) :
    c.dispatched e a = [] := by
  unfold dispatched
  rw [List.filterMap_eq_nil_iff]
  intro o ho
  cases o with
  | dispatched run =>
    obtain ⟨rfl, htimed⟩ := comesFrom_act ho
    refine if_neg fun he => ?_
    rw [he] at h htimed
    exact absurd htimed (by simp [h rfl])
  | _ => rfl

theorem dispatched_goOff (hs : c.session? e = some s) (htimed : c.isTimed e = true) :
    c.dispatched e (.goOff e) = [⟨e, s.serial, c.token e + 1⟩] := by
  unfold dispatched
  rw [act_goOff_timed hs htimed]
  simp

omit [Notifier N] in
theorem isTimed_iff : c.isTimed e = (c.timer? e).isSome := by
  unfold isTimed timer?
  cases c.session? e <;> rfl

theorem le_of_mem_changeMoments {during : List Action} {t : Moment}
    (h : t ∈ c.changeMoments e during) : c.now ≤ t := by
  induction during generalizing c with
  | nil => exact nomatch h
  | cons a during ih =>
    rcases List.mem_append.mp h with hnow | hlater
    · split at hnow
      · exact Nat.le_of_eq (List.mem_singleton.mp hnow).symm
      · exact nomatch hnow
    · have hle := ih hlater
      rw [now_act] at hle
      exact Nat.le_trans (Nat.le_add_right _ _) hle

/-! ## 3. One action of an attended history -/

omit [Notifier N] in
/-- What an action does to the timer of an exercise that is attended: it sets it, lets it go off and
dispatches the next run, or leaves it. -/
inductive Tick (c : Coordinator N) (e : String) (s s' : Session) (a : Action) (runs : List Run) :
    Prop where
  | set (order : Nat) (hchange : c.changes e a = true) (hbefore : ∀ t ∈ s.timer, c.now < t.due)
      (htimer : s'.timer = some ⟨c.now + c.quiet, order⟩) (hlatest : s'.latest = s.latest)
      (hruns : runs = []) (hduration : a.duration = 0)
  | fired (t : Timer) (hchange : c.changes e a = false) (hbefore : s.timer = some t)
      (hdue : t.due ≤ c.now) (htimer : s'.timer = none) (hlatest : s'.latest = c.token e + 1)
      (hruns : runs = [⟨e, s.serial, c.token e + 1⟩]) (hduration : a.duration = 0)
  | kept (hchange : c.changes e a = false) (htimer : s'.timer = s.timer)
      (hlatest : s'.latest = s.latest) (hruns : runs = [])
      (hduration : ∀ t ∈ s.timer, c.now ≤ t.due → c.now + a.duration ≤ t.due)

/-- What one action does to the session and its timer while it stays open. -/
theorem tick_act (hdistinct : c.watched.Nodup) (hfiled : c.Filed) (hs : c.session? e = some s)
    {a : Action} (hkeeps : c.keepsTimer e a = true) (hstops : c.stops a = false)
    (hstays : ((c.act a).1.session? e).isSome = true) :
    ∃ s', (c.act a).1.session? e = some s' ∧ s'.serial = s.serial ∧
      c.Tick e s s' a (c.dispatched e a) := by
  obtain ⟨s', hs'⟩ := Option.isSome_iff_exists.mp hstays
  have htimer : c.timer? e = s.timer := by
    unfold timer?
    rw [hs]
    rfl
  have hturn := turn_act hdistinct hfiled a e
  rw [hs, hs'] at hturn
  refine ⟨s', hs', ?_⟩
  unfold keepsTimer at hkeeps
  rw [htimer, Option.all_eq_true] at hkeeps
  -- All turns but these three leave the timer, and nothing is dispatched in them.
  have hsame : s'.timer = s.timer → s'.latest = s.latest → s'.serial = s.serial →
      c.changes e a = false → (a = .goOff e → c.isTimed e = false) →
      s'.serial = s.serial ∧ c.Tick e s s' a (c.dispatched e a) := by
    intro htimer' hlatest hserial hchange hoff
    refine ⟨hserial, .kept hchange htimer' hlatest (dispatched_eq_nil hoff) fun t ht hle => ?_⟩
    cases a with
    | pass d => exact of_decide_eq_true (hkeeps t ht)
    | _ => exact hle
  cases hturn with
  | kept hchange hoff => exact hsame rfl rfl rfl hchange hoff
  | joined | left | published => exact hsame rfl rfl rfl rfl nofun
  | scheduled order hchange =>
    refine ⟨rfl, .set order hchange (fun t ht => ?_) rfl rfl (dispatched_eq_nil ?_) ?_⟩
    · have hfirst := hkeeps t ht
      cases a with
      | trigger x => simpa [hchange] using hfirst
      | fileChanged file => simpa [hchange] using hfirst
      | _ => exact nomatch hchange
    · rintro rfl
      exact nomatch hchange
    · cases a with
      | pass d => exact nomatch hchange
      | _ => rfl
  | dispatched htimed =>
    rw [isTimed_iff, htimer] at htimed
    obtain ⟨t, ht⟩ := Option.isSome_iff_exists.mp htimed
    have hdue := hkeeps t ht
    refine ⟨rfl, .fired t rfl ht (by simpa using hdue) rfl rfl (dispatched_goOff hs ?_) rfl⟩
    rw [isTimed_iff, htimer, ht]
    rfl
  | settled hrunning =>
    unfold stops at hstops
    exact absurd hrunning (by simp [hstops])

/-! ## 4. A whole attended history -/

omit [Notifier N] in
/-- The change that no run was dispatched for yet, if there is one: the timer is due the quiet time
after it. -/
structure Pending (c : Coordinator N) (s : Session) (change : Option Nat) : Prop where
  due : s.timer.map (·.due) = change.map (· + c.quiet)
  le_now : ∀ t ∈ change, t ≤ c.now
  now_le : ∀ t ∈ change, c.now ≤ t + c.quiet

omit [Notifier N] in
theorem Pending.due_eq {change : Option Nat} (h : c.Pending s change) {t : Timer}
    (ht : t ∈ s.timer) : ∃ u ∈ change, t.due = u + c.quiet := by
  have hdue := h.due
  rw [ht] at hdue
  obtain ⟨u, hu, hut⟩ := Option.map_eq_some_iff.mp hdue.symm
  exact ⟨u, hu, hut.symm⟩

/-- One action adds to the dispatches what it takes from the bursts that are left. -/
theorem Tick.pending {s' : Session} {a : Action} {runs : List Run} (h : c.Tick e s s' a runs)
    {change : Option Nat} (hpending : c.Pending s change) :
    ∃ change', (c.act a).1.Pending s' change' ∧
      ∀ rest : List Nat, (∀ u ∈ rest, (c.act a).1.now ≤ u) →
        runs.map (fun _ => c.now) ++ burstEnds c.quiet (change'.toList ++ rest) =
          burstEnds c.quiet
            (change.toList ++ ((if c.changes e a then [c.now] else []) ++ rest)) := by
  have hnow := now_act c a
  have hquiet := quiet_act c a
  cases h with
  | set order hchange hbefore htimer _ hruns hduration =>
    rw [hduration, Nat.add_zero] at hnow
    refine ⟨some c.now, ⟨?_, ?_, ?_⟩, fun rest _ => ?_⟩
    · rw [htimer, hquiet]
      rfl
    · rintro t ⟨⟩
      exact Nat.le_of_eq hnow.symm
    · rintro t ⟨⟩
      rw [hnow]
      exact Nat.le_add_right _ _
    -- The change takes the place of one that a run is not due for yet.
    · rw [hruns, if_pos hchange]
      cases change with
      | none => rfl
      | some t =>
        obtain ⟨timer, ht, (hdue : timer.due = t + c.quiet)⟩ :=
          Option.map_eq_some_iff.mp hpending.due
        have hlt : c.now < t + c.quiet := hdue ▸ hbefore timer ht
        exact (burstEnds_cons_of_lt rest (hpending.le_now t rfl) hlt).symm
  | fired t hchange hbefore hdue htimer _ hruns hduration =>
    rw [hduration, Nat.add_zero] at hnow
    obtain ⟨u, rfl, hut⟩ := hpending.due_eq hbefore
    have hmoment : u + c.quiet = c.now :=
      Nat.le_antisymm (hut ▸ hdue) (hpending.now_le u rfl)
    refine ⟨none, ⟨by rw [htimer]; rfl, nofun, nofun⟩, fun rest hrest => ?_⟩
    rw [hruns, if_neg (by simp [hchange])]
    show c.now :: burstEnds c.quiet rest = burstEnds c.quiet (u :: rest)
    rw [burstEnds_cons_of_le fun v hv => hmoment ▸ hnow ▸ hrest v hv, hmoment]
  | kept hchange htimer _ hruns hduration =>
    refine ⟨change, ⟨?_, fun t ht => ?_, fun t ht => ?_⟩, fun rest _ => ?_⟩
    · rw [htimer, hquiet]
      exact hpending.due
    · rw [hnow]
      exact Nat.le_trans (hpending.le_now t ht) (Nat.le_add_right _ _)
    · subst ht
      obtain ⟨timer, htimer', (hdue : timer.due = t + c.quiet)⟩ :=
        Option.map_eq_some_iff.mp hpending.due
      have hle := hduration timer htimer' (hdue ▸ hpending.now_le t rfl)
      rw [hnow, hquiet]
      exact hdue ▸ hle
    · rw [hruns, if_neg (by simp [hchange])]
      rfl

omit [Notifier N] in
/-- Whatever is dispatched has the next token. -/
theorem Tick.runs_eq {s' : Session} {a : Action} {runs : List Run} (h : c.Tick e s s' a runs)
    (hlatest : s.latest = c.token e) :
    s'.latest = c.token e + runs.length ∧
      runs = (List.range' (c.token e + 1) runs.length).map fun t => ⟨e, s.serial, t⟩ := by
  cases h with
  | set _ _ _ _ hsame hruns => exact ⟨by rw [hsame, hlatest, hruns]; rfl, by rw [hruns]; rfl⟩
  | fired _ _ _ _ _ hnext hruns => exact ⟨by rw [hnext, hruns]; rfl, by rw [hruns]; rfl⟩
  | kept _ _ hsame hruns => exact ⟨by rw [hsame, hlatest, hruns]; rfl, by rw [hruns]; rfl⟩

/-- What an attended history leads to: a run at the end of each burst, where the timer of the last
one may still be set, under the tokens that follow. -/
structure Attended (c : Coordinator N) (e : String) (s : Session) (change : Option Nat)
    (during : List Action) (s' : Session) : Prop where
  session : (c.play during).1.session? e = some s'
  serial : s'.serial = s.serial
  moments : (c.dispatches e during).map (·.1) ++ (s'.timer.map (·.due)).toList =
    burstEnds c.quiet (change.toList ++ c.changeMoments e during)
  runs : (c.dispatches e during).map (·.2) =
    (List.range' (c.token e + 1) (c.dispatches e during).length).map fun t => ⟨e, s.serial, t⟩
  token : (c.play during).1.token e = c.token e + (c.dispatches e during).length
  now_le : ∀ t ∈ s'.timer, (c.play during).1.now ≤ t.due

omit [Notifier N] in
theorem attends_cons [Notifier N] {a : Action} {during : List Action} :
    c.attends e (a :: during) = true ↔ c.keepsTimer e a = true ∧ c.stops a = false ∧
      ((c.act a).1.session? e).isSome = true ∧ (c.act a).1.attends e during = true := by
  simp [attends, and_assoc]

/-- An attended stretch of history leads from the session at its start to one that the
description of bursts fits. -/
theorem attended_of_attends (hc : c.Consistent log) (hs : c.session? e = some s)
    {change : Option Nat} (hpending : c.Pending s change) {during : List Action}
    (h : c.attends e during = true) : ∃ s', c.Attended e s change during s' := by
  induction during generalizing c log s change with
  | nil =>
    refine ⟨s, hs, rfl, ?_, rfl, rfl, fun t ht => ?_⟩
    · show (s.timer.map (·.due)).toList = burstEnds c.quiet (change.toList ++ [])
      rw [hpending.due]
      cases change <;> rfl
    · obtain ⟨u, hu, hdue⟩ := hpending.due_eq ht
      rw [hdue]
      exact hpending.now_le u hu
  | cons a during ih =>
    obtain ⟨hkeeps, hstops, hstays, hrest⟩ := attends_cons.mp h
    obtain ⟨s₁, hs₁, hserial, htick⟩ := tick_act hc.distinct hc.filed hs hkeeps hstops hstays
    obtain ⟨change₁, hpending₁, hbursts⟩ := htick.pending hpending
    obtain ⟨hlatest, hruns⟩ := htick.runs_eq (latest_eq_token hc.current hs)
    have hc₁ := hc.act a
    have htoken : (c.act a).1.token e = c.token e + (c.dispatched e a).length :=
      (latest_eq_token hc₁.current hs₁).symm.trans hlatest
    -- What is pending after the first action is what the rest of the history begins with.
    obtain ⟨s', hlater⟩ := ih hc₁ hs₁ hpending₁ hrest
    have hlength : (c.dispatches e (a :: during)).length =
        (c.dispatched e a).length + ((c.act a).1.dispatches e during).length := by
      rw [dispatches, List.length_append, List.length_map]
    refine ⟨s', hlater.session, hlater.serial.trans hserial, ?_, ?_, ?_, hlater.now_le⟩
    · have hmoments := hlater.moments
      rw [quiet_act] at hmoments
      show ((c.dispatched e a).map (c.now, ·) ++ (c.act a).1.dispatches e during).map (·.1) ++ _ =
        burstEnds c.quiet (change.toList ++
          ((if c.changes e a then [c.now] else []) ++ (c.act a).1.changeMoments e during))
      rw [← hbursts _ fun u hu => le_of_mem_changeMoments hu, ← hmoments, List.map_append,
        List.map_map, List.append_assoc]
      rfl
    · rw [hlength, ← List.range'_append_1, List.map_append, ← hruns, dispatches, List.map_append,
        List.map_map, hlater.runs, htoken, hserial, Nat.add_right_comm]
      exact congrArg (· ++ _) (List.map_id _)
    · rw [hlength, ← Nat.add_assoc, ← htoken]
      exact hlater.token

/-! ## 5. The last run -/

theorem dispatches_append (xs ys : List Action) :
    c.dispatches e (xs ++ ys) = c.dispatches e xs ++ (c.play xs).1.dispatches e ys := by
  induction xs generalizing c with
  | nil => rfl
  | cons x xs ih =>
    rw [List.cons_append, dispatches, ih, dispatches, List.append_assoc]
    rfl

theorem attends_append {xs ys : List Action} (h : c.attends e (xs ++ ys) = true) :
    c.attends e xs = true ∧ (c.play xs).1.attends e ys = true := by
  induction xs generalizing c with
  | nil => exact ⟨rfl, h⟩
  | cons x xs ih =>
    obtain ⟨hkeeps, hstops, hstays, hrest⟩ := attends_cons.mp h
    obtain ⟨hxs, hys⟩ := ih hrest
    exact ⟨attends_cons.mpr ⟨hkeeps, hstops, hstays, hxs⟩, hys⟩

/-- The report of the latest run of a session is published when the runner gives it. -/
theorem session?_finish {run : Run} (report : Report) (hstage : c.stage? run = some .running)
    (hs : c.session? run.exercise = some s) (hserial : s.serial = run.session)
    (hlatest : s.latest = run.token) (hnew : s.published < run.token) :
    (c.act (.finish run report)).1.session? run.exercise =
      some { s with published := run.token, status := report.status, lastReport := some report } := by
  have hcurrent : c.isCurrent run = true := (isCurrent_iff c run).mpr ⟨s, hs, hserial, hlatest⟩
  unfold act publish
  dsimp only
  rw [hstage]
  dsimp only
  rw [hs]
  dsimp only
  rw [if_pos (by simp [hcurrent, hnew])]
  show (c.setSession _).session? run.exercise = _
  rw [session?_replaced hs (by rfl), if_pos rfl]

/-- As long as nothing is dispatched for an exercise that is attended, the report that was published
under its latest token stays. -/
theorem report_stays (hc : c.Consistent log) (hs : c.session? e = some s)
    (hpublished : s.published = s.latest) {during : List Action}
    (h : c.attends e during = true) (hnone : c.dispatches e during = []) :
    ∃ s', (c.play during).1.session? e = some s' ∧ s'.lastReport = s.lastReport ∧
      s'.status = s.status := by
  induction during generalizing c log s with
  | nil => exact ⟨s, hs, rfl, rfl⟩
  | cons a during ih =>
    obtain ⟨hkeeps, hstops, hstays, hrest⟩ := attends_cons.mp h
    obtain ⟨hnow, hlater⟩ := List.append_eq_nil_iff.mp hnone
    obtain ⟨s₁, hs₁⟩ := Option.isSome_iff_exists.mp hstays
    -- Only a newer report could show, and the latest run has published its own.
    have hsame : s₁.published = s₁.latest ∧ s₁.lastReport = s.lastReport ∧ s₁.status = s.status := by
      have hturn := turn_act hc.distinct hc.filed a e
      rw [hs, hs₁] at hturn
      cases hturn with
      | kept | joined | left | scheduled => exact ⟨hpublished, rfl, rfl⟩
      | dispatched htimed =>
        rw [dispatched_goOff hs htimed] at hnow
        exact nomatch hnow
      | published _ _ _ hlatest hnew => exact absurd hnew (by omega)
      | settled hrunning => exact absurd hstops (by simp [stops, hrunning])
    obtain ⟨s', hs', hreport, hstatus⟩ := ih (hc.act a) hs₁ hsame.1 hrest hlater
    exact ⟨s', hs', hreport.trans hsame.2.1, hstatus.trans hsame.2.2⟩

/-- The last run that was dispatched carries the session and the newest token. -/
theorem Attended.last {change : Option Nat} {during : List Action} {s' : Session} {run : Run}
    (h : c.Attended e s change during s')
    (hlast : (c.dispatches e during).getLast?.map (·.2) = some run) :
    run.exercise = e ∧ run.session = s.serial ∧
      run.token = c.token e + (c.dispatches e during).length := by
  rw [← List.getLast?_map, h.runs, List.getLast?_map, List.getLast?_range'] at hlast
  split at hlast
  · exact nomatch hlast
  · rw [← Option.some.inj hlast]
    exact ⟨rfl, rfl, by dsimp only; omega⟩

/-- When the runner gives the report of the run that is dispatched last in an attended history, it
is what the history ends with, whatever older runs end before or after it. -/
theorem last_run_stays (hc : c.Consistent log) (hs : c.session? e = some s)
    {change : Option Nat} (hpending : c.Pending s change) {during xs ys : List Action} {run : Run}
    {report : Report} (h : c.attends e during = true)
    (hduring : during = xs ++ .finish run report :: ys)
    (hstage : (c.play xs).1.stage? run = some .running)
    (hlast : (c.dispatches e during).getLast?.map (·.2) = some run) :
    (c.play during).1.lastReport e = some report ∧ (c.play during).1.status e = report.status := by
  subst hduring
  obtain ⟨hxs, hrest⟩ := attends_append h
  obtain ⟨-, -, -, hys⟩ := attends_cons.mp hrest
  obtain ⟨s', hall⟩ := attended_of_attends hc hs hpending h
  obtain ⟨s₁, hbefore⟩ := attended_of_attends hc hs hpending hxs
  obtain ⟨rfl, hsession, htoken⟩ := hall.last hlast
  have hd := hc.play xs
  obtain ⟨f, hf, rfl, hfstage⟩ := stage?_some hstage
  -- The run was in flight, so its token was given out, and none can follow.
  have hgiven := hd.token_le hf
  rw [htoken, hbefore.token, dispatches_append, List.length_append] at hgiven
  have hnone : (c.play xs).1.dispatches f.run.exercise (.finish f.run report :: ys) = [] :=
    List.length_eq_zero_iff.mp (by omega)
  have hlatest : s₁.latest = f.run.token := by
    rw [latest_eq_token hd.current hbefore.session, htoken, hbefore.token, dispatches_append, hnone,
      List.append_nil]
  have hserial : s₁.serial = f.run.session := hbefore.serial.trans hsession.symm
  have hnew : s₁.published < f.run.token := by
    have hle := hd.published_le hbefore.session
    have hne := hd.unpublished f hf hfstage s₁ hbefore.session hserial
    rw [← latest_eq_token hd.current hbefore.session, hlatest] at hle
    exact Nat.lt_of_le_of_ne hle hne
  have hpublished := session?_finish report hstage hbefore.session hserial hlatest hnew
  obtain ⟨s₂, hs₂, hreport, hstatus⟩ := report_stays (hd.act _) hpublished hlatest.symm hys
    (List.append_eq_nil_iff.mp hnone).2
  have hend : (c.play (xs ++ .finish f.run report :: ys)).1.session? f.run.exercise = some s₂ := by
    rw [play_append]
    exact hs₂
  unfold lastReport status
  rw [hend]
  exact ⟨hreport, hstatus⟩

/-- After every history, let an exercise be watched with no timer set, and let it stay watched, with
watching not stopped, while its timer goes off when it is due. Then its runs are dispatched the
quiet time after each change that no other follows within it, one run each, under consecutive
tokens; only the run of the last change may be still to come, and its timer is set. And when the
runner gives the report of the run dispatched last, that report and its status stay, whatever older
runs end before or after it. -/
theorem changes_coalesce (notifier : N) (settings : WatchSettings) (backoff : Backoff)
    (chance : Chance) (before during : List Action) (e : String) (s : Session)
    (hs : ((Coordinator.new notifier settings backoff chance).play before).1.session? e = some s)
    (htimer : s.timer = none)
    (h : ((Coordinator.new notifier settings backoff chance).play before).1.attends e during = true) :
    let c := ((Coordinator.new notifier settings backoff chance).play before).1
    let d := (c.play during).1
    let runs := c.dispatches e during
    runs.map (·.1) ++ ((d.timer? e).map (·.due)).toList =
        burstEnds c.quiet (c.changeMoments e during) ∧
      (∀ t ∈ d.timer? e, d.now ≤ t.due) ∧
      runs.map (·.2) =
        (List.range' (c.token e + 1) runs.length).map (fun token => ⟨e, s.serial, token⟩) ∧
      ∀ xs ys run report, during = xs ++ .finish run report :: ys →
        (c.play xs).1.stage? run = some .running → runs.getLast?.map (·.2) = some run →
          d.lastReport e = some report ∧ d.status e = report.status := by
  intro c d runs
  have hc := (consistent_new notifier settings backoff chance).play before
  -- No timer is set at the beginning, so that no change is pending.
  have hpending : c.Pending s none := ⟨by rw [htimer]; rfl, nofun, nofun⟩
  obtain ⟨s', hall⟩ := attended_of_attends hc hs hpending h
  have hend : d.timer? e = s'.timer := by
    unfold timer?
    rw [hall.session]
    rfl
  refine ⟨?_, ?_, hall.runs, fun xs ys run report hduring hstage hlast =>
    last_run_stays hc hs hpending h hduring hstage hlast⟩
  · rw [hend]
    exact hall.moments
  · rw [hend]
    exact hall.now_le

/-- Of three changes two come within the quiet time; the report of the first run comes last. -/
theorem changes_coalesce_burst :
    let file : Path := ⟨"/", ["w", "a"]⟩
    let c := ((Coordinator.new (N := ScriptedNotifier) {} {} {} []).play [.watch ⟨"a", file⟩ "x"]).1
    let report : Report := { exercise := "a", status := .completed }
    let during : List Action := [.trigger "a", .pass 100000000, .trigger "a", .pass 300000000,
      .goOff "a", .trigger "a", .pass 300000000, .goOff "a", .finish ⟨"a", 0, 2⟩ report,
      .finish ⟨"a", 0, 1⟩ { exercise := "a", status := .failed }]
    (c.dispatches "a" during).map (·.1) = [400000000, 700000000] ∧
      (c.play during).1.status "a" = .completed := by
  intro file c report during
  let s : Session :=
    { serial := 0, exercise := "a", file, subscribers := ["x"], latest := 0, published := 0 }
  obtain ⟨hmoments, -, -, hlast⟩ := changes_coalesce (N := ScriptedNotifier) {} {} {} []
    [.watch ⟨"a", file⟩ "x"] during "a" s rfl rfl (by decide +kernel)
  constructor
  · have hnone : ((c.play during).1.timer? "a").map (·.due) = none := by decide +kernel
    rw [hnone, Option.toList_none, List.append_nil] at hmoments
    exact hmoments.trans (by decide +kernel)
  · have hstage : (c.play (during.take 8)).1.stage? ⟨"a", 0, 2⟩ = some .running := by rfl
    exact (hlast _ _ ⟨"a", 0, 2⟩ report rfl hstage (by decide +kernel)).2

end Coordinator

end Grading.Watch
