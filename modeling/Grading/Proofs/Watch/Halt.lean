import Grading.Proofs.Watch.Loop

/-!
# Halt — after watching is stopped

Stopping takes the timers back, ends the loop that restarts the notifier and outdates every run that
is in flight. Until watching is started again or an exercise is triggered, nothing of what was under
way shows any more, and every session shows the status of its last report.
-/

namespace Grading.Watch

open Grading.Files

def lastPublished (e : String) (session : Nat) (log : List Occurrence) : Option Report :=
  (log.filterMap fun
    | .published run report => if run.exercise = e ∧ run.session = session then some report else none
    | _ => none).getLast?

theorem lastPublished_append (e : String) (session : Nat) (log more : List Occurrence) :
    lastPublished e session (log ++ more) =
      (lastPublished e session more).or (lastPublished e session log) := by
  unfold lastPublished
  rw [List.filterMap_append, List.getLast?_append]

theorem lastPublished_eq_none {e : String} {session : Nat} {log : List Occurrence}
    (h : ∀ run report, Occurrence.published run report ∈ log → run.exercise = e →
      run.session ≠ session) : lastPublished e session log = none := by
  unfold lastPublished
  rw [List.getLast?_eq_none_iff, List.filterMap_eq_nil_iff]
  intro o ho
  cases o with
  | published run report => exact if_neg fun hrun => h run report ho hrun.1 hrun.2
  | _ => rfl

theorem Session.stopped_settled (s : Session) (token : Nat)
    (h : s.status = .inProgress ∨ s.status = s.settled) :
    (s.stopped token).status = (s.stopped token).settled := by
  show (if s.status = .inProgress then s.settled else s.status) = s.settled
  split
  · rfl
  · next hstatus => exact h.resolve_left hstatus

namespace Coordinator

variable {N : Type} [Notifier N] {c : Coordinator N} {s : Session} {e : String}
  {log : List Occurrence}

/-! ## 1. Reports -/

omit [Notifier N] in
/-- The log accounts for what the sessions show: their last report is the one published last, and
their status is its status unless a run is under way. -/
structure Reported (c : Coordinator N) (log : List Occurrence) : Prop where
  lastReport : ∀ e s, c.session? e = some s → s.lastReport = lastPublished e s.serial log
  status : ∀ e s, c.session? e = some s → s.status = .inProgress ∨ s.status = s.settled
  opened : ∀ run report, Occurrence.published run report ∈ log → run.session < c.opened

/-- A report that is published shows in its session. -/
theorem published_act {a : Action} {run : Run} {report : Report}
    (h : Occurrence.published run report ∈ (c.act a).2) :
    a = .finish run report ∧ ∃ s, c.session? run.exercise = some s ∧ s.serial = run.session ∧
      s.published < run.token ∧ (c.act a).1.session? run.exercise =
        some { s with published := run.token, status := report.status, lastReport := some report } := by
  obtain ⟨rfl, -⟩ := comesFrom_act h
  refine ⟨rfl, ?_⟩
  rcases act_finish c run report with hact | hact | ⟨s, hs, hserial, -, hnew, hact⟩
  · rw [hact] at h
    exact nomatch h
  · rw [hact] at h
    exact nomatch h
  · refine ⟨s, hs, hserial, hnew, ?_⟩
    rw [hact]
    show (c.setSession _).session? run.exercise = _
    rw [session?_replaced hs (by rfl), if_pos rfl]

theorem seen_finish {run : Run} {report : Report}
    (h : (c.act (.finish run report)).1.session? run.exercise ≠ c.session? run.exercise) :
    (c.act (.finish run report)).2 = [.published run report] := by
  rcases act_finish c run report with hact | hact | ⟨s, hs, hserial, -, hnew, hact⟩
  · rw [hact] at h
    exact absurd rfl h
  · rw [hact] at h
    exact absurd rfl h
  · rw [hact]

/-- One action keeps the reports and the statuses of the sessions in step with the log. -/
theorem Reported.act (h : c.Reported log) (hc : c.Consistent log) (a : Action) :
    (c.act a).1.Reported (log ++ (c.act a).2) := by
  have hopened : ∀ run report, Occurrence.published run report ∈ log ++ (c.act a).2 →
      run.session < (c.act a).1.opened := by
    intro run report hmem
    refine Nat.lt_of_lt_of_le ?_ (entry_act hc.distinct a).opened_le
    rcases List.mem_append.mp hmem with hold | hnew
    · exact h.opened run report hold
    · obtain ⟨-, s, hs, hserial, -⟩ := published_act hnew
      exact hserial ▸ (hc.ledger.standing _ _ (ledger_standing hs)).serial_lt
  have hsessions : ∀ e s', (c.act a).1.session? e = some s' →
      s'.lastReport = lastPublished e s'.serial (log ++ (c.act a).2) ∧
        (s'.status = .inProgress ∨ s'.status = s'.settled) := by
    intro e s' hs'
    have hturn := turn_act hc.distinct hc.filed a e
    rw [hs'] at hturn
    generalize hx : c.session? e = x at hturn
    -- Unless a report of the exercise is published, the log says the same of its session.
    have hsame : (∀ run report, Occurrence.published run report ∈ (c.act a).2 → run.exercise ≠ e) →
        ∀ k, lastPublished e k (log ++ (c.act a).2) = lastPublished e k log := by
      intro hnone k
      rw [lastPublished_append, lastPublished_eq_none fun run report hmem hrun =>
        absurd hrun (hnone run report hmem), Option.none_or]
    have hother : (∀ run report, a ≠ .finish run report) →
        ∀ k, lastPublished e k (log ++ (c.act a).2) = lastPublished e k log :=
      fun ha => hsame fun run report hmem => absurd (published_act hmem).1 (ha run report)
    cases hturn with
    -- A report that is published would show.
    | kept =>
      rw [hsame ?_]
      · exact ⟨h.lastReport e s' hx, h.status e s' hx⟩
      · intro run report hmem hrun
        obtain ⟨-, s, hs, -, hnew, hafter⟩ := published_act hmem
        rw [hrun] at hs hafter
        obtain rfl := Option.some.inj (hs.symm.trans hx)
        have hpublished := congrArg Session.published (Option.some.inj (hs'.symm.trans hafter))
        exact absurd hnew (hpublished ▸ Nat.lt_irrefl _)
    -- No report of a session that is opened now has been published.
    | opened =>
      rw [hother nofun]
      refine ⟨(lastPublished_eq_none fun run report hmem _ => ?_).symm, .inr rfl⟩
      exact Nat.ne_of_lt (h.opened run report hmem)
    | @joined _ _ s =>
      rw [hother nofun]
      exact ⟨h.lastReport e s hx, h.status e s hx⟩
    | @left _ s =>
      rw [hother nofun]
      exact ⟨h.lastReport e s hx, h.status e s hx⟩
    | @scheduled _ s order hchange =>
      rw [hother (by rintro run report rfl; exact nomatch hchange)]
      exact ⟨h.lastReport e s hx, h.status e s hx⟩
    | @dispatched s =>
      rw [hother nofun]
      exact ⟨h.lastReport e s hx, .inl rfl⟩
    | @settled s =>
      rw [hother nofun]
      exact ⟨h.lastReport e s hx, .inr (s.stopped_settled _ (h.status e s hx))⟩
    | @published s run report hrun _ hserial _ hnew =>
      subst hrun
      have hseen : (c.act (.finish run report)).2 = [.published run report] := by
        refine seen_finish fun hsame => ?_
        rw [hs', hx] at hsame
        have hpublished := congrArg Session.published (Option.some.inj hsame)
        exact absurd hnew (hpublished ▸ Nat.lt_irrefl _)
      rw [hseen, lastPublished_append]
      refine ⟨?_, .inr rfl⟩
      simp [lastPublished, hserial]
  exact ⟨fun e s' hs' => (hsessions e s' hs').1, fun e s' hs' => (hsessions e s' hs').2, hopened⟩

/-! ## 2. While watching is stopped -/

/-- While watching is stopped, nothing is asked of the notifier until it is started again. -/
theorem calls_idle (hrunning : c.running = false) (hretry : c.retry = none) {a : Action}
    (ha : a ≠ .start) : calls (c.act a).2 = [] := by
  have hasked := asked_act c a
  generalize calls (c.act a).2 = called at hasked
  cases hasked with
  | nothing => rfl
  | added _ hon | addFailed _ hon | removed _ _ _ hon | stopped hon =>
    exact nomatch hrunning.symm.trans hon
  | started => exact absurd rfl ha
  | restarted hloop => exact nomatch hretry.symm.trans hloop

/-- A coordinator that is stopped and not retrying stays so until it is started. -/
theorem act_idle (hrunning : c.running = false) (hretry : c.retry = none) {a : Action}
    (ha : a ≠ .start) : (c.act a).1.running = false ∧ (c.act a).1.retry = none := by
  have hturn := loopTurn_act c a
  generalize (c.act a).1 = d at hturn
  cases hturn with
  | kept hsame => exact ⟨hsame.running.trans hrunning, hsame.retry.trans hretry⟩
  | handled hfailure =>
    have hnone : c.meetsFailure a = false := by
      cases a with
      | start => exact absurd rfl ha
      | watch x who => rw [meetsFailure, calls_idle hrunning hretry ha]; rfl
      | watchFailed f => exact hrunning
      | _ => rfl
    exact absurd (hnone.symm.trans hfailure) Bool.false_ne_true
  | started => exact absurd rfl ha
  | stopped hon => exact absurd (hrunning.symm.trans hon) Bool.false_ne_true
  | woken hloop | planned hloop | succeeded hloop | failedAgain hloop =>
    exact absurd (hloop.symm.trans hretry) (Option.some_ne_none _)

/-- After watching is stopped: no timer is set, every session shows the status of its last report,
and no run in flight is the latest of its session. -/
structure Halted (c : Coordinator N) : Prop where
  running : c.running = false
  retry : c.retry = none
  timer : ∀ e s, c.session? e = some s → s.timer = none
  status : ∀ e s, c.session? e = some s → s.status = s.settled
  outdated : ∀ f ∈ c.flights, c.isCurrent f.run = false

namespace Halted

omit [Notifier N] in
theorem isTimed (h : c.Halted) (e : String) : c.isTimed e = false := by
  unfold Coordinator.isTimed
  cases hs : c.session? e with
  | none => rfl
  | some s =>
    show s.timer.isSome = false
    rw [h.timer e s hs]
    rfl

omit [Notifier N] in
theorem changes (h : c.Halted) {a : Action} (ha : ∀ e, a ≠ .trigger e) (e : String) :
    c.changes e a = false := by
  cases a with
  | trigger x => exact absurd rfl (ha x)
  | fileChanged file =>
    unfold Coordinator.changes
    dsimp only
    rw [h.running, Bool.false_and, Bool.false_and]
  | _ => rfl

theorem stop (hc : c.Consistent log) (hreported : c.Reported log) (hrunning : c.running = true)
    (stubborn : List Run) : (c.act (.stop stubborn)).1.Halted := by
  have hsession := session?_stopDespite hc.distinct hrunning fun run => decide (run ∈ stubborn)
  have hflights := (stopDespite_keeps c fun run => decide (run ∈ stubborn)).2
  have hidle : (c.act (.stop stubborn)).1.running = false ∧
      (c.act (.stop stubborn)).1.retry = none := by
    have hturn := loopTurn_act c (.stop stubborn)
    generalize (c.act (.stop stubborn)).1 = d at hturn
    cases hturn with
    | kept _ _ _ hstop => exact nomatch (hstop stubborn rfl).symm.trans hrunning
    | handled hfailure => exact nomatch hfailure
    | stopped _ hoff hnone => exact ⟨hoff, hnone⟩
  have hstopped : ∀ e s', (c.act (.stop stubborn)).1.session? e = some s' →
      ∃ s, c.session? e = some s ∧ s' = s.stopped (c.token e + 1) := by
    intro e s' hs'
    obtain ⟨s, hs, rfl⟩ := Option.map_eq_some_iff.mp ((hsession e).symm.trans hs')
    exact ⟨s, hs, rfl⟩
  refine ⟨hidle.1, hidle.2, fun e s' hs' => ?_, fun e s' hs' => ?_, fun f hf => ?_⟩
  · obtain ⟨s, -, rfl⟩ := hstopped e s' hs'
    rfl
  · obtain ⟨s, hs, rfl⟩ := hstopped e s' hs'
    exact s.stopped_settled _ (hreported.status e s hs)
  -- Every session moved on to a token that no run in flight has.
  · refine Bool.eq_false_iff.mpr fun hcurrent => ?_
    obtain ⟨s', hs', -, hlatest⟩ := (isCurrent_iff _ f.run).mp hcurrent
    obtain ⟨s, -, rfl⟩ := hstopped _ s' hs'
    have hle := hc.token_le (hflights f hf)
    rw [← hlatest] at hle
    exact absurd hle (Nat.not_succ_le_self _)

/-- What watching left behind stays halted whatever happens, unless it is started again or an
exercise is triggered. -/
theorem act (h : c.Halted) (hc : c.Consistent log) {a : Action} (hstart : a ≠ .start)
    (htrigger : ∀ e, a ≠ .trigger e) : (c.act a).1.Halted := by
  obtain ⟨hrunning, hretry⟩ := act_idle h.running h.retry hstart
  have hstays : ∀ e s', (c.act a).1.session? e = some s' →
      s'.timer = none ∧ s'.status = s'.settled ∧ (c.opened ≤ s'.serial ∨
        ∃ s, c.session? e = some s ∧ s'.serial = s.serial ∧ s'.latest = s.latest) := by
    intro e s' hs'
    have hturn := turn_act hc.distinct hc.filed a e
    rw [hs'] at hturn
    generalize hx : c.session? e = x at hturn
    cases hturn with
    | kept => exact ⟨h.timer e s' hx, h.status e s' hx, .inr ⟨s', rfl, rfl, rfl⟩⟩
    | opened => exact ⟨rfl, rfl, .inl (Nat.le_refl _)⟩
    | @joined _ _ s => exact ⟨h.timer e s hx, h.status e s hx, .inr ⟨s, rfl, rfl, rfl⟩⟩
    | @left _ s => exact ⟨h.timer e s hx, h.status e s hx, .inr ⟨s, rfl, rfl, rfl⟩⟩
    -- A change is not taken up, no timer goes off, and no report belongs to the latest run.
    | scheduled order hchange => exact absurd hchange (by simp [h.changes htrigger])
    | dispatched htimed => exact absurd htimed (by simp [h.isTimed])
    | @published s run report hrun hstage hserial hlatest _ =>
      obtain ⟨f, hf, rfl, -⟩ := stage?_some hstage
      have hcurrent := (isCurrent_iff c f.run).mpr ⟨s, hrun ▸ hx, hserial, hlatest⟩
      exact absurd hcurrent (by simp [h.outdated f hf])
    | settled hon => exact absurd hon (by simp [h.running])
  refine ⟨hrunning, hretry, fun e s' hs' => (hstays e s' hs').1, fun e s' hs' => (hstays e s' hs').2.1,
    fun f hf => Bool.eq_false_iff.mpr fun hcurrent => ?_⟩
  -- A run in flight was outdated before, and is of no session that is opened now.
  obtain ⟨s', hs', hserial, hlatest⟩ := (isCurrent_iff _ f.run).mp hcurrent
  rcases flight_act hf with ⟨g, hg, hrun, -⟩ | hnew
  · rcases (hstays _ s' hs').2.2 with hopened | ⟨s, hs, hserial', hlatest'⟩
    · have hlt := hc.opened g hg
      rw [hrun, ← hserial] at hlt
      exact absurd hlt (Nat.not_lt.mpr hopened)
    · have hold := (isCurrent_iff c f.run).mpr
        ⟨s, hs, hserial'.symm.trans hserial, hlatest'.symm.trans hlatest⟩
      rw [← hrun, h.outdated g hg] at hold
      exact nomatch hold
  · exact absurd (comesFrom_act hnew).2 (by simp [h.isTimed])

/-- Nothing of what was under way shows. -/
theorem quiet (h : c.Halted) {a : Action} {o : Occurrence}
    (ho : o ∈ (c.act a).2) :
    (∀ run, o ≠ .dispatched run) ∧ ∀ run who report, o ≠ .told run who report := by
  constructor
  · rintro run rfl
    exact absurd (comesFrom_act ho).2 (by simp [h.isTimed])
  · rintro run who report rfl
    obtain ⟨hcurrent, _, hstage⟩ := told_act ho
    obtain ⟨f, hf, rfl, -⟩ := stage?_some hstage
    exact absurd hcurrent (by simp [h.outdated f hf])

end Halted

/-! ## 3. After a stop -/

theorem Reported.play (h : c.Reported log) (hc : c.Consistent log) (actions : List Action) :
    (c.play actions).1.Reported (log ++ (c.play actions).2) :=
  (invariant_play (P := fun c log => c.Consistent log ∧ c.Reported log)
    (fun _ _ a h => ⟨h.1.act a, h.2.act h.1 a⟩) ⟨hc, h⟩ actions).2

/-- Until the next start nothing is dispatched, told or asked of the notifier. -/
theorem Halted.play (h : c.Halted) (hc : c.Consistent log) {later : List Action}
    (hlater : ∀ a ∈ later, a ≠ .start ∧ ∀ e, a ≠ .trigger e) :
    (c.play later).1.Halted ∧ calls (c.play later).2 = [] ∧ ∀ o ∈ (c.play later).2,
      (∀ run, o ≠ .dispatched run) ∧ ∀ run who report, o ≠ .told run who report := by
  induction later generalizing c log with
  | nil => exact ⟨h, rfl, nofun⟩
  | cons a later ih =>
    obtain ⟨hstart, htrigger⟩ := hlater a List.mem_cons_self
    obtain ⟨hhalted, hcalls, hquiet⟩ := ih (h.act hc hstart htrigger) (hc.act a)
      fun b hb => hlater b (List.mem_cons_of_mem _ hb)
    refine ⟨hhalted, ?_, fun o ho => (List.mem_append.mp ho).elim h.quiet (hquiet o)⟩
    show calls ((c.act a).2 ++ ((c.act a).1.play later).2) = []
    rw [calls_append, calls_idle h.running h.retry hstart, hcalls]
    rfl

/-- After every history that leaves the coordinator running, let watching be stopped, and let it
neither be started again nor an exercise be triggered. Whatever else happens, and whichever runs do
not let themselves be given up: no timer is set, no run is dispatched, nobody is told of a run,
nothing is asked of the notifier, no loop is at work to restart it, and every session shows the
status of its report that was published last. -/
theorem stop_silences (notifier : N) (settings : WatchSettings) (backoff : Backoff)
    (chance : Chance) (actions later : List Action) (stubborn : List Run)
    (hrunning :
      ((Coordinator.new notifier settings backoff chance).play actions).1.running = true)
    (hlater : ∀ a ∈ later, a ≠ .start ∧ ∀ e, a ≠ .trigger e) :
    let c := (Coordinator.new notifier settings backoff chance).play actions
    let stopped := c.1.act (.stop stubborn)
    let d := stopped.1.play later
    (∀ s ∈ d.1.sessions, s.timer = none) ∧
      (∀ run, Occurrence.dispatched run ∉ d.2) ∧
      (∀ run who report, Occurrence.told run who report ∉ d.2) ∧
      calls d.2 = [] ∧ d.1.retry = none ∧ d.1.running = false ∧
      ∀ s ∈ d.1.sessions, s.status =
        ((lastPublished s.exercise s.serial (c.2 ++ stopped.2 ++ d.2)).map (·.status)).getD
          .notStarted := by
  intro c stopped d
  have hc := (consistent_new notifier settings backoff chance).play actions
  -- Before the stop the reports of the sessions are those of the log, and the stop keeps it so.
  have hreported : c.1.Reported c.2 := by
    have hnew : (Coordinator.new notifier settings backoff chance).Reported [] :=
      ⟨nofun, nofun, nofun⟩
    exact hnew.play (consistent_new notifier settings backoff chance) actions
  have hstopped := hc.act (.stop stubborn)
  obtain ⟨hhalted, hcalls, hquiet⟩ :=
    (Halted.stop hc hreported hrunning stubborn).play hstopped hlater
  have hend := hstopped.play later
  have hsession : ∀ s ∈ d.1.sessions, d.1.session? s.exercise = some s :=
    fun s hs => session?_of_mem hend.distinct hs
  refine ⟨fun s hs => hhalted.timer _ s (hsession s hs), fun run ho => (hquiet _ ho).1 run rfl,
    fun run who report ho => (hquiet _ ho).2 run who report rfl, hcalls, hhalted.retry,
    hhalted.running, fun s hs => ?_⟩
  have hlast :=
    ((hreported.act hc (.stop stubborn)).play hstopped later).lastReport _ s (hsession s hs)
  rw [hhalted.status _ s (hsession s hs), ← hlast]
  unfold Session.settled
  cases s.lastReport <;> rfl

/-- Watching is stopped while one exercise has its timer set, a run of another is in the runner and
does not let itself be given up, and one subscriber of a third has been told of its report but not
the other. -/
theorem stop_silences_stubborn :
    let file (name : String) : Path := ⟨"/", ["w", name]⟩
    let run : Run := ⟨"b", 1, 1⟩
    let told : Run := ⟨"c", 2, 1⟩
    let c := (Coordinator.new (N := ScriptedNotifier) {} {} {} []).play [.start,
      .watch ⟨"a", file "a"⟩ "x", .watch ⟨"b", file "b"⟩ "x", .watch ⟨"c", file "c"⟩ "x",
      .watch ⟨"c", file "c"⟩ "y", .trigger "b", .goOff "b", .trigger "c", .goOff "c",
      .finish told { exercise := "c", status := .completed }, .deliver told, .trigger "a",
      .watchFailed (.other "gone")]
    let stopped := (c.1.act (.stop [run, told])).1
    let d := stopped.play [.goOff "a", .finish run { exercise := "b", status := .failed },
      .deliver run, .deliver told, .fileChanged (file "a"), .goOff "a", .retry, .wakeRetry, .retry]
    c.1.retry = some {} ∧ stopped.flights.length = 2 ∧
      (∀ run, Occurrence.dispatched run ∉ d.2) ∧
      (∀ run who report, Occurrence.told run who report ∉ d.2) ∧
      calls d.2 = [] ∧ d.1.sessions.map (fun s => (s.exercise, s.status)) =
        [("a", .notStarted), ("b", .notStarted), ("c", .completed)] := by
  intro file run told c stopped d
  have hlater : ∀ a ∈ ([.goOff "a", .finish run { exercise := "b", status := .failed },
      .deliver run, .deliver told, .fileChanged (file "a"), .goOff "a", .retry, .wakeRetry,
      .retry] : List Action), a ≠ .start ∧ ∀ e, a ≠ .trigger e := by
    intro a ha
    simp only [List.mem_cons, List.not_mem_nil, or_false] at ha
    rcases ha with rfl | rfl | rfl | rfl | rfl | rfl | rfl | rfl | rfl <;> exact ⟨nofun, nofun⟩
  obtain ⟨-, hdispatched, htold, hcalls, -, -, -⟩ := stop_silences (N := ScriptedNotifier) {} {} {}
    [] [.start, .watch ⟨"a", file "a"⟩ "x", .watch ⟨"b", file "b"⟩ "x",
      .watch ⟨"c", file "c"⟩ "x", .watch ⟨"c", file "c"⟩ "y", .trigger "b", .goOff "b",
      .trigger "c", .goOff "c", .finish told { exercise := "c", status := .completed },
      .deliver told, .trigger "a", .watchFailed (.other "gone")] _ [run, told]
    (by decide +kernel) hlater
  exact ⟨by decide +kernel, by decide +kernel, hdispatched, htold, hcalls, by decide +kernel⟩

end Coordinator

end Grading.Watch
