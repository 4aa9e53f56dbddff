import Grading.Proofs.Watch.Registry

/-!
# Effect — what one action does to a coordinator

Every action makes one entry in the ledger of a coordinator. It keeps the exercises watched
different from one another, and the runs in flight change only when one is dispatched, over,
published or told of.
-/

namespace Grading.Watch.Coordinator

open Grading.Files

variable {N : Type} {c d : Coordinator N} {s : Session} {exercise : String}

/-! ## 1. Every action makes one entry -/

theorem events_isPlain (events : List Event) :
    ∀ o ∈ events.map Occurrence.event, o.isPlain := by
  intro o ho
  obtain ⟨e, _, rfl⟩ := List.mem_map.mp ho
  rfl

theorem openedSession_known (h : c.session? exercise = some s) :
    openedSession c d exercise = [] := by
  unfold openedSession
  rw [h]

theorem openedSession_new (h : c.session? exercise = none) (h' : d.session? exercise = some s) :
    openedSession c d exercise = [.opened exercise s.serial] := by
  unfold openedSession
  rw [h, h']

theorem closedSession_unknown (h : c.session? exercise = none) :
    closedSession c d exercise = [] := by
  unfold closedSession
  rw [h]

theorem closedSession_kept {t : Session} (h' : d.session? exercise = some t) :
    closedSession c d exercise = [] := by
  unfold closedSession
  rw [h']
  split <;> first | rfl | contradiction

theorem closedSession_gone (h : c.session? exercise = some s) (h' : d.session? exercise = none) :
    closedSession c d exercise = [.closed exercise s.serial] := by
  unfold closedSession
  rw [h, h']

variable [Notifier N]

/-- One more subscriber of a session that is open. -/
theorem act_watch_known {e : Exercise} (hs : c.session? e.id = some s) (who : Subscriber) :
    c.act (.watch e who) = (c.setSession (s.subscribe who), []) := by
  unfold act
  dsimp only
  rw [watch_known c e who hs, openedSession_known hs]
  rfl

/-- The first subscriber opens the session. -/
theorem act_watch_new {e : Exercise} (hs : c.session? e.id = none) (who : Subscriber) :
    c.act (.watch e who) =
      ((c.watch e who).1, .opened e.id c.opened :: (c.watch e who).2.map .event) := by
  have hnew : (c.watch e who).1.session? e.id = some (c.firstSession e who) := by
    rw [session?_watch_new c e who hs, if_pos rfl]
  unfold act
  dsimp only
  rw [openedSession_new hs hnew]
  rfl

theorem act_unwatch_unknown (hs : c.session? exercise = none) (who : Option Subscriber) :
    c.act (.unwatch exercise who) = (c, []) := by
  unfold act
  dsimp only
  rw [unwatch_unknown c who hs, closedSession_unknown hs]
  rfl

/-- One subscriber less of a session that stays open. -/
theorem act_unwatch_some {who : Option Subscriber} (hs : c.session? exercise = some s)
    (hrest : (s.unsubscribe who).subscribers ≠ []) :
    c.act (.unwatch exercise who) = (c.setSession (s.unsubscribe who), []) := by
  have hkept : (c.setSession (s.unsubscribe who)).session? exercise = some (s.unsubscribe who) := by
    rw [session?_setSession, unsubscribe_exercise, exercise_of_session? hs, if_pos rfl, hs]
    rfl
  unfold act
  dsimp only
  rw [unwatch_some c who hs hrest, closedSession_kept hkept]
  rfl

/-- With the last subscriber the session is closed. -/
theorem act_unwatch_last {who : Option Subscriber} (hs : c.session? exercise = some s)
    (hrest : (s.unsubscribe who).subscribers = []) :
    c.act (.unwatch exercise who) = ((c.unwatch exercise who).1,
      .closed exercise s.serial :: (c.unwatch exercise who).2.map .event) := by
  have hgone : (c.unwatch exercise who).1.session? exercise = none := by
    rw [session?_unwatch_last c who hs hrest, if_pos rfl]
  unfold act
  dsimp only
  rw [closedSession_gone hs hgone]
  rfl

theorem entry_watch (c : Coordinator N) (e : Exercise) (who : Subscriber) :
    c.ledger.Entry (c.act (.watch e who)).2 (c.act (.watch e who)).1.ledger := by
  cases hs : c.session? e.id with
  | some s =>
    -- One more subscriber changes no number of the session.
    rw [act_watch_known hs,
      ledger_setSession hs (subscribe_exercise s who) (subscribe_standing s who)]
    exact .refl _
  | none =>
    rw [act_watch_new hs, ledger_watch_new c e who hs]
    refine .opened (events_isPlain _) ?_
    show (c.session? e.id).map Session.standing = none
    rw [hs]
    rfl

theorem entry_unwatch (c : Coordinator N) (exercise : String) (who : Option Subscriber) :
    c.ledger.Entry (c.act (.unwatch exercise who)).2 (c.act (.unwatch exercise who)).1.ledger := by
  cases hs : c.session? exercise with
  | none =>
    rw [act_unwatch_unknown hs]
    exact .refl _
  | some s =>
    by_cases hrest : (s.unsubscribe who).subscribers = []
    · rw [act_unwatch_last hs hrest, ledger_unwatch_last c who hs hrest]
      exact .closed (events_isPlain _) (ledger_standing hs)
    · rw [act_unwatch_some hs hrest,
        ledger_setSession hs (unsubscribe_exercise s who) (unsubscribe_standing s who)]
      exact .refl _

/-- A timer that goes off dispatches the next run of its exercise. -/
theorem act_goOff_timed (hs : c.session? exercise = some s) (h : c.isTimed exercise = true) :
    c.act (.goOff exercise) =
      ((c.dispatch exercise).1, [.dispatched ⟨exercise, s.serial, c.token exercise + 1⟩]) := by
  unfold act
  dsimp only
  rw [if_pos h, dispatch_some c hs]
  rfl

theorem act_goOff_idle (h : c.isTimed exercise = false) : c.act (.goOff exercise) = (c, []) := by
  unfold act
  dsimp only
  rw [if_neg (by simp [h])]

omit [Notifier N] in
theorem exists_of_isTimed (h : c.isTimed exercise = true) : ∃ s, c.session? exercise = some s := by
  obtain ⟨s, hs, -⟩ := (Option.any_eq_true _ _).mp h
  exact ⟨s, hs⟩

/-- A timer that goes off either finds nothing to do or dispatches one run with the next token. -/
theorem act_goOff (c : Coordinator N) (exercise : String) :
    c.act (.goOff exercise) = (c, []) ∨
      ∃ s, c.session? exercise = some s ∧ c.act (.goOff exercise) =
        ((c.dispatch exercise).1, [.dispatched ⟨exercise, s.serial, c.token exercise + 1⟩]) := by
  cases htimed : c.isTimed exercise with
  | false => exact .inl (act_goOff_idle htimed)
  | true =>
    obtain ⟨s, hs⟩ := exists_of_isTimed htimed
    exact .inr ⟨s, hs, act_goOff_timed hs htimed⟩

omit [Notifier N] in
theorem stage?_land (c : Coordinator N) (run : Run) : (c.land run).stage? run = none := by
  unfold stage? land
  rw [List.find?_filter, List.find?_eq_none.mpr]
  · rfl
  · intro f _
    by_cases hf : f.run = run <;> simp [hf]

omit [Notifier N] in
theorem stage?_setStage (c : Coordinator N) (run : Run) (stage : Stage) :
    (c.setStage run stage).stage? run = (c.stage? run).map fun _ => stage := by
  unfold stage? setStage
  have hsame : (fun f : Flight => decide (f.run = run)) ∘
      (fun f => if f.run = run then { f with stage } else f) = fun f => decide (f.run = run) := by
    funext f
    by_cases hf : f.run = run <;> simp [hf]
  dsimp only
  rw [List.find?_map, hsame]
  cases hfind : c.flights.find? fun f => decide (f.run = run) with
  | none => rfl
  | some f =>
    have hf : f.run = run := by simpa using List.find?_some hfind
    simp [hf]

/-- The report of a run is published, or the run is over. -/
theorem act_finish (c : Coordinator N) (run : Run) (report : Report) :
    c.act (.finish run report) = (c, []) ∨ c.act (.finish run report) = (c.land run, []) ∨
      ∃ s, c.session? run.exercise = some s ∧ s.serial = run.session ∧ s.latest = run.token ∧
        s.published < run.token ∧ c.act (.finish run report) =
          ((c.setSession { s with published := run.token, status := report.status
                                  lastReport := some report }).setStage run
            (.delivering report s.subscribers), [.published run report]) := by
  unfold act
  dsimp only
  cases hstage : c.stage? run with
  | none => exact .inl rfl
  | some stage =>
    cases stage with
    | delivering => exact .inl rfl
    | running =>
      dsimp only
      -- Whether the report was published shows in the flight: a run that is over has none left.
      rcases publish_cases c run report with h | ⟨s, hs, hserial, hlatest, hnew, h⟩
      · refine .inr (.inl ?_)
        unfold isDelivering
        rw [h, stage?_land]
        rfl
      · refine .inr (.inr ⟨s, hs, hserial, hlatest, hnew, ?_⟩)
        have hset : (c.setSession { s with published := run.token, status := report.status
                                           lastReport := some report }).stage? run =
            some .running := hstage
        unfold isDelivering
        rw [h, stage?_setStage, hset]
        rfl

/-- A subscriber is told of the latest run of a session that is still there, or nothing is told. -/
theorem act_deliver (c : Coordinator N) (run : Run) :
    c.act (.deliver run) = (c, []) ∨ c.act (.deliver run) = (c.land run, []) ∨
      ∃ report who rest, c.stage? run = some (.delivering report (who :: rest)) ∧
        c.isCurrent run ∧ c.act (.deliver run) =
          (c.setStage run (.delivering report rest), [.told run who report]) := by
  unfold act
  dsimp only
  rcases deliver_cases c run with ⟨report, who, rest, hstage, hcurrent, h⟩ | h | h
  · exact .inr (.inr ⟨report, who, rest, hstage, hcurrent, by rw [h]; rfl⟩)
  · exact .inr (.inl (by rw [h]; rfl))
  · exact .inl (by rw [h]; rfl)

/-- Waking the loop that restarts the notifier happens silently. -/
theorem act_wakeRetry (c : Coordinator N) :
    SameRegistry c (c.act .wakeRetry).1 ∧ (c.act .wakeRetry).2 = [] := by
  unfold act
  dsimp only
  split <;> exact ⟨⟨rfl, rfl, rfl, rfl, rfl⟩, rfl⟩

/-- Whatever happens to a coordinator makes one entry in its ledger. -/
theorem entry_act (h : c.watched.Nodup) (a : Action) :
    c.ledger.Entry (c.act a).2 (c.act a).1.ledger := by
  -- An action enters at most one occurrence of its own. What it asks of the notifier is plain.
  cases a with
  | watch e who => exact entry_watch c e who
  | unwatch exercise who => exact entry_unwatch c exercise who
  | start =>
    show c.ledger.Entry (c.start.2.map .event) c.start.1.ledger
    rw [(start_sameRegistry c).ledger_eq]
    exact .none (events_isPlain _)
  | stop stubborn =>
    let ignores : Run → Bool := fun run => run ∈ stubborn
    obtain ⟨exercises, hledger⟩ := ledger_stopDespite c ignores h
    show c.ledger.Entry ((c.stopDespite ignores).2.map .event) (c.stopDespite ignores).1.ledger
    -- A stop gives out new tokens and enters nothing else.
    rw [hledger]
    exact .outdated exercises (events_isPlain _)
  | trigger exercise =>
    show c.ledger.Entry [] ((c.trigger exercise).getD c).ledger
    unfold trigger
    cases hs : c.session? exercise with
    | none => exact .refl _
    | some s =>
      rw [Option.map_some, Option.getD_some, ledger_schedule c hs]
      exact .refl _
  | fileChanged file =>
    show c.ledger.Entry [] (c.fileChanged file).ledger
    rw [ledger_fileChanged]
    exact .refl _
  | watchFailed f =>
    show c.ledger.Entry ((c.watchFailed f).2.map .event) (c.watchFailed f).1.ledger
    rw [(watchFailed_sameRegistry c f).ledger_eq]
    exact .none (events_isPlain _)
  | pass duration => exact .refl _
  | goOff exercise =>
    rcases act_goOff c exercise with hact | ⟨s, hs, hact⟩
    · rw [hact]
      exact .refl _
    · rw [hact]
      show c.ledger.Entry [_] (c.dispatch exercise).1.ledger
      rw [ledger_dispatch c hs]
      exact .dispatched (ledger_standing hs)
  | finish run report =>
    rcases act_finish c run report with hact | hact | ⟨s, hs, _, hlatest, hnew, hact⟩
    · rw [hact]
      exact .refl _
    · rw [hact]
      exact .refl _
    · rw [hact]
      show c.ledger.Entry [_] (Coordinator.setStage _ run _).ledger
      rw [ledger_setStage, ledger_publish c hs]
      exact .published report (ledger_standing hs) hlatest hnew
  | breakOff run => exact .refl _
  | deliver run =>
    rcases act_deliver c run with hact | hact | ⟨report, who, rest, _, _, hact⟩
    · rw [hact]
      exact .refl _
    · rw [hact]
      exact .refl _
    · rw [hact]
      exact .none (by simp [Occurrence.isPlain])
  | wakeRetry =>
    rw [(act_wakeRetry c).1.ledger_eq, (act_wakeRetry c).2]
    exact .refl _
  | retry =>
    show c.ledger.Entry (c.retryStep.2.map .event) c.retryStep.1.ledger
    rw [(retryStep_sameRegistry c).ledger_eq]
    exact .none (events_isPlain _)

/-! ## 2. Exercises are watched once -/

omit [Notifier N] in
/-- What keeps the exercises watched and the runs in flight keeps them however often it is done. -/
theorem foldl_keeps {α : Type} (f : Coordinator N → α → Coordinator N)
    (hf : ∀ c x, (f c x).watched = c.watched ∧ (f c x).flights = c.flights) (xs : List α)
    (c : Coordinator N) :
    (xs.foldl f c).watched = c.watched ∧ (xs.foldl f c).flights = c.flights := by
  induction xs generalizing c with
  | nil => exact ⟨rfl, rfl⟩
  | cons x xs ih =>
    rw [List.foldl_cons, (ih _).1, (ih _).2]
    exact hf c x

omit [Notifier N] in
theorem settle_keeps (c : Coordinator N) (s : Session) :
    (c.settle s).watched = c.watched ∧ (c.settle s).flights = c.flights :=
  ⟨watched_advance c _, rfl⟩

omit [Notifier N] in
theorem schedule_keeps (c : Coordinator N) (s : Session) :
    (c.schedule s).watched = c.watched ∧ (c.schedule s).flights = c.flights :=
  ⟨watched_setSession { c with timersSet := c.timersSet + 1 } _, rfl⟩

omit [Notifier N] in
theorem scheduleExercise_keeps (c : Coordinator N) (e : String) :
    (c.scheduleExercise e).watched = c.watched ∧ (c.scheduleExercise e).flights = c.flights := by
  unfold scheduleExercise
  split
  · exact ⟨rfl, rfl⟩
  · exact schedule_keeps c _

omit [Notifier N] in
theorem fileChanged_keeps (c : Coordinator N) (file : Path) :
    (c.fileChanged file).watched = c.watched ∧ (c.fileChanged file).flights = c.flights := by
  unfold fileChanged
  split
  · exact ⟨rfl, rfl⟩
  · exact foldl_keeps scheduleExercise scheduleExercise_keeps _ c

theorem stopDespite_keeps (c : Coordinator N) (stubborn : Run → Bool) :
    (c.stopDespite stubborn).1.watched = c.watched ∧
      ∀ f ∈ (c.stopDespite stubborn).1.flights, f ∈ c.flights := by
  unfold stopDespite
  split
  · exact ⟨rfl, fun f hf => hf⟩
  · dsimp only
    rw [(foldl_keeps settle settle_keeps _ _).1, (foldl_keeps settle settle_keeps _ _).2]
    exact ⟨rfl, fun f hf => (List.mem_filter.mp hf).1⟩

omit [Notifier N] in
theorem SameRegistry.watched_eq (h : SameRegistry c d) : d.watched = c.watched := by
  unfold watched
  rw [h.sessions]

theorem watched_watch (c : Coordinator N) (e : Exercise) (who : Subscriber) :
    (c.watch e who).1.watched =
      if (c.session? e.id).isSome then c.watched else c.watched ++ [e.id] := by
  cases hs : c.session? e.id with
  | some s =>
    rw [watch_known c e who hs]
    exact watched_setSession c _
  | none =>
    rw [(watch_new c e who hs).watched_eq]
    exact List.map_append

theorem watched_unwatch (c : Coordinator N) (exercise : String) (who : Option Subscriber) :
    (c.unwatch exercise who).1.watched.Sublist c.watched := by
  cases hs : c.session? exercise with
  | none =>
    have hsame : (c.unwatch exercise who).1.watched = c.watched := by
      rw [unwatch_unknown c who hs]
    exact hsame ▸ List.Sublist.refl _
  | some s =>
    by_cases hrest : (s.unsubscribe who).subscribers = []
    · obtain ⟨files, notifier, hd⟩ := unwatch_last c who hs hrest
      rw [hd, ← watched_advance c (s.unsubscribe who)]
      exact List.Sublist.map _ List.filter_sublist
    · have hsame : (c.unwatch exercise who).1.watched = c.watched := by
        rw [unwatch_some c who hs hrest, watched_setSession]
      exact hsame ▸ List.Sublist.refl _

/-- No exercise is ever watched twice. -/
theorem watched_nodup_act (h : c.watched.Nodup) (a : Action) : (c.act a).1.watched.Nodup := by
  cases a with
  | watch e who =>
    show (c.watch e who).1.watched.Nodup
    rw [watched_watch]
    split
    · exact h
    · next hnew =>
      rw [session?_isSome] at hnew
      -- The exercise had no session, so it was not watched.
      refine List.nodup_append.mpr ⟨h, by simp, fun x hx y hy => ?_⟩
      rw [List.mem_singleton.mp hy]
      exact fun heq => hnew (heq ▸ hx)
  | unwatch exercise who => exact h.sublist (watched_unwatch c exercise who)
  | start =>
    show c.start.1.watched.Nodup
    rw [(start_sameRegistry c).watched_eq]
    exact h
  | stop stubborn =>
    let ignores : Run → Bool := fun run => run ∈ stubborn
    show (c.stopDespite ignores).1.watched.Nodup
    rw [(stopDespite_keeps c ignores).1]
    exact h
  | trigger exercise =>
    show ((c.trigger exercise).getD c).watched.Nodup
    unfold trigger
    cases c.session? exercise with
    | none => exact h
    | some s => rw [Option.map_some, Option.getD_some, (schedule_keeps c s).1]; exact h
  | fileChanged file =>
    show (c.fileChanged file).watched.Nodup
    rw [(fileChanged_keeps c file).1]
    exact h
  | watchFailed f =>
    show (c.watchFailed f).1.watched.Nodup
    rw [(watchFailed_sameRegistry c f).watched_eq]
    exact h
  | pass duration => exact h
  | goOff exercise =>
    rcases act_goOff c exercise with hact | ⟨s, hs, hact⟩
    · rw [hact]; exact h
    · rw [hact, dispatch_some c hs]
      show (c.advance _).watched.Nodup
      rw [watched_advance]
      exact h
  | finish run report =>
    rcases act_finish c run report with hact | hact | ⟨s, _, _, _, _, hact⟩
    · rw [hact]; exact h
    · rw [hact]; exact h
    · rw [hact]
      show (c.setSession _).watched.Nodup
      rw [watched_setSession]
      exact h
  | breakOff run => exact h
  | deliver run =>
    rcases act_deliver c run with hact | hact | ⟨_, _, _, _, _, hact⟩ <;> rw [hact] <;> exact h
  | wakeRetry =>
    rw [(act_wakeRetry c).1.watched_eq]
    exact h
  | retry =>
    show c.retryStep.1.watched.Nodup
    rw [(retryStep_sameRegistry c).watched_eq]
    exact h

/-! ## 3. Runs in flight -/

/-- Only when a timer goes off, watching stops, or something happens to a run do the runs in flight
change. -/
theorem flights_other {a : Action} (hstop : ∀ stubborn, a ≠ .stop stubborn)
    (hgoOff : ∀ e, a ≠ .goOff e) (hfinish : ∀ run report, a ≠ .finish run report)
    (hbreakOff : ∀ run, a ≠ .breakOff run) (hdeliver : ∀ run, a ≠ .deliver run) :
    (c.act a).1.flights = c.flights := by
  -- Five kinds of actions send runs, end them or carry them on; the others are gone through one by
  -- one.
  cases a with
  | watch e who =>
    show (c.watch e who).1.flights = c.flights
    cases hs : c.session? e.id with
    | some s => rw [watch_known c e who hs]; rfl
    | none => exact (watch_new c e who hs).flights
  | unwatch exercise who =>
    show (c.unwatch exercise who).1.flights = c.flights
    cases hs : c.session? exercise with
    | none => rw [unwatch_unknown c who hs]
    | some s =>
      by_cases hrest : (s.unsubscribe who).subscribers = []
      · obtain ⟨files, notifier, hd⟩ := unwatch_last c who hs hrest
        rw [hd]
        rfl
      · rw [unwatch_some c who hs hrest]
        rfl
  | start => exact (start_sameRegistry c).flights
  | trigger exercise =>
    show ((c.trigger exercise).getD c).flights = c.flights
    unfold trigger
    cases c.session? exercise <;> rfl
  | fileChanged file => exact (fileChanged_keeps c file).2
  | watchFailed f => exact (watchFailed_sameRegistry c f).flights
  | pass duration => rfl
  | wakeRetry => exact (act_wakeRetry c).1.flights
  | retry => exact (retryStep_sameRegistry c).flights
  | stop stubborn => exact absurd rfl (hstop stubborn)
  | goOff e => exact absurd rfl (hgoOff e)
  | finish run report => exact absurd rfl (hfinish run report)
  | breakOff run => exact absurd rfl (hbreakOff run)
  | deliver run => exact absurd rfl (hdeliver run)

/-- What an action does to the runs in flight: none is new but one that is dispatched, and a run
comes to another stage only when its report is published, to all subscribers of its session, or when
the first of those that are left is told of it. -/
theorem flights_act (c : Coordinator N) (a : Action) :
    (∀ f ∈ (c.act a).1.flights, f ∈ c.flights) ∨
    (∃ run, Occurrence.dispatched run ∈ (c.act a).2 ∧
      (c.act a).1.flights = c.flights ++ [{ run := run }]) ∨
    ∃ run report rest, (Occurrence.published run report ∈ (c.act a).2 ∧
          (∃ s, c.session? run.exercise = some s ∧ rest = s.subscribers) ∨
        ∃ who, c.stage? run = some (.delivering report (who :: rest))) ∧
      (c.act a).1.flights = (c.setStage run (.delivering report rest)).flights := by
  have hsame : ∀ {d : Coordinator N}, d.flights = c.flights → ∀ f ∈ d.flights, f ∈ c.flights :=
    fun h f hf => h ▸ hf
  have hland : ∀ run, ∀ f ∈ (c.land run).flights, f ∈ c.flights :=
    fun run f hf => (List.mem_filter.mp hf).1
  -- Runs are sent by a dispatch, carried on by their report or a delivery, and ended by all that
  -- lands them.
  cases a with
  | stop stubborn => exact .inl (stopDespite_keeps c fun run => run ∈ stubborn).2
  | goOff exercise =>
    rcases act_goOff c exercise with hact | ⟨s, hs, hact⟩
    · rw [hact]
      exact .inl fun f hf => hf
    · rw [hact, dispatch_some c hs]
      exact .inr (.inl ⟨_, List.mem_cons_self, rfl⟩)
  | finish run report =>
    rcases act_finish c run report with hact | hact | ⟨s, hs, _, _, _, hact⟩
    · rw [hact]
      exact .inl fun f hf => hf
    · rw [hact]
      exact .inl (hland run)
    · rw [hact]
      exact .inr (.inr ⟨run, report, _, .inl ⟨List.mem_cons_self, s, hs, rfl⟩, rfl⟩)
  | breakOff run => exact .inl (hland run)
  | deliver run =>
    rcases act_deliver c run with hact | hact | ⟨report, who, rest, hstage, _, hact⟩
    · rw [hact]
      exact .inl fun f hf => hf
    · rw [hact]
      exact .inl (hland run)
    · rw [hact]
      exact .inr (.inr ⟨run, report, rest, .inr ⟨_, hstage⟩, rfl⟩)
  | _ => exact .inl (hsame (flights_other nofun nofun nofun nofun nofun))

omit [Notifier N] in
theorem stage?_some {run : Run} {stage : Stage} (h : c.stage? run = some stage) :
    ∃ f ∈ c.flights, f.run = run ∧ f.stage = stage := by
  obtain ⟨f, hf, hstage⟩ := Option.map_eq_some_iff.mp h
  exact ⟨f, List.mem_of_find?_eq_some hf, by simpa using List.find?_some hf, hstage⟩

/-! ## 4. Who is told -/

theorem told_notMem_events {run : Run} {who : Subscriber} {report : Report} (events : List Event) :
    Occurrence.told run who report ∉ events.map Occurrence.event := by
  intro h
  obtain ⟨e, _, he⟩ := List.mem_map.mp h
  exact nomatch he

/-- Whoever is told of a run comes first among those to be told, and is told while the run is
current. -/
theorem told_first {a : Action} {run : Run} {who : Subscriber} {report : Report}
    (h : Occurrence.told run who report ∈ (c.act a).2) :
    c.isCurrent run ∧ ∃ rest, c.stage? run = some (.delivering report (who :: rest)) := by
  -- Only a delivery tells. What the other actions enter is of another kind.
  cases a with
  | watch e who =>
    refine absurd (List.mem_append.mp h) (not_or.mpr ⟨fun hopened => ?_, told_notMem_events _⟩)
    unfold openedSession at hopened
    split at hopened <;> simp at hopened
  | unwatch exercise who =>
    refine absurd (List.mem_append.mp h) (not_or.mpr ⟨fun hclosed => ?_, told_notMem_events _⟩)
    unfold closedSession at hclosed
    split at hclosed <;> simp at hclosed
  | start => exact absurd h (told_notMem_events _)
  | stop stubborn => exact absurd h (told_notMem_events _)
  | trigger exercise => exact nomatch h
  | fileChanged file => exact nomatch h
  | watchFailed f => exact absurd h (told_notMem_events _)
  | pass duration => exact nomatch h
  | goOff exercise =>
    rcases act_goOff c exercise with hact | ⟨s, hs, hact⟩ <;> rw [hact] at h <;> simp at h
  | finish finished result =>
    rcases act_finish c finished result with hact | hact | ⟨s, _, _, _, _, hact⟩ <;>
      rw [hact] at h <;> simp at h
  | breakOff ended => exact nomatch h
  | deliver delivered =>
    rcases act_deliver c delivered with hact | hact | ⟨told, first, rest, hstage, hcurrent, hact⟩
    · rw [hact] at h
      exact nomatch h
    · rw [hact] at h
      exact nomatch h
    · rw [hact] at h
      obtain ⟨rfl, rfl, rfl⟩ : run = delivered ∧ who = first ∧ report = told := by simpa using h
      exact ⟨hcurrent, _, hstage⟩
  | wakeRetry =>
    rw [(act_wakeRetry c).2] at h
    exact nomatch h
  | retry => exact absurd h (told_notMem_events _)

/-- A subscriber is told only about the current run, and only while that run is being delivered. -/
theorem told_act {a : Action} {run : Run} {who : Subscriber} {report : Report}
    (h : Occurrence.told run who report ∈ (c.act a).2) :
    c.isCurrent run ∧ ∃ rest, c.stage? run = some (.delivering report rest) := by
  obtain ⟨hcurrent, rest, hstage⟩ := told_first h
  exact ⟨hcurrent, _, hstage⟩

end Grading.Watch.Coordinator
