import Mathlib.Data.List.Infix
import Grading.Proofs.Watch.Apart
import Grading.Proofs.Watch.Burst

/-!
# Alone — an exercise without the others

When everything that belongs to other exercises is taken out of a history, an exercise goes through
the same: its sessions open and close, its runs are dispatched, published and told of as before, under
the same tokens. Only the numbers of its sessions are others, since sessions are numbered over all
exercises; without the others they count from zero.
-/

namespace Grading.Watch

open Grading.Files

variable {sessions : List Nat}

/-! ## 1. Numbering sessions anew -/

/-- The run, its session numbered by its place in a list of sessions. -/
def Run.renumber (sessions : List Nat) (run : Run) : Run :=
  { run with session := sessions.idxOf run.session }

def Action.renumber (sessions : List Nat) : Action → Action
  | .stop stubborn => .stop (stubborn.map (·.renumber sessions))
  | .finish run report => .finish (run.renumber sessions) report
  | .breakOff run => .breakOff (run.renumber sessions)
  | .deliver run => .deliver (run.renumber sessions)
  | a => a

def Occurrence.renumber (sessions : List Nat) : Occurrence → Occurrence
  | .opened e session => .opened e (sessions.idxOf session)
  | .closed e session => .closed e (sessions.idxOf session)
  | .dispatched run => .dispatched (run.renumber sessions)
  | .published run report => .published (run.renumber sessions) report
  | .told run who report => .told (run.renumber sessions) who report
  | .event ev => .event ev

theorem openedSessions_renumber (sessions : List Nat) (log : List Occurrence) :
    openedSessions (log.map (·.renumber sessions)) = (openedSessions log).map sessions.idxOf := by
  unfold openedSessions
  rw [List.filterMap_map, List.map_filterMap]
  congr 1
  funext o
  cases o <;> rfl

/-- Runs of listed sessions keep apart from all others. -/
theorem Run.renumber_inj {run other : Run} (h : run.session ∈ sessions) :
    other.renumber sessions = run.renumber sessions ↔ other = run := by
  obtain ⟨e, k, t⟩ := run
  obtain ⟨e', k', t'⟩ := other
  have hidx : sessions.idxOf k' = sessions.idxOf k ↔ k' = k := by
    rw [eq_comm, List.idxOf_inj h, eq_comm]
  simp [Run.renumber, hidx]

/-- A session is like another one, but for its number and the order in which its timer was set. -/
structure Session.Alike (sessions : List Nat) (s t : Session) : Prop where
  serial : t.serial = sessions.idxOf s.serial
  exercise : t.exercise = s.exercise
  file : t.file = s.file
  subscribers : t.subscribers = s.subscribers
  timer : t.timer.map (·.due) = s.timer.map (·.due)
  latest : t.latest = s.latest
  published : t.published = s.published
  status : t.status = s.status
  lastReport : t.lastReport = s.lastReport

namespace Session.Alike

variable {s t : Session}

theorem subscribe (h : s.Alike sessions t) (who : Subscriber) :
    (s.subscribe who).Alike sessions (t.subscribe who) := by
  unfold Session.subscribe
  rw [h.subscribers]
  split
  · exact h
  · exact { h with subscribers := rfl }

theorem unsubscribe (h : s.Alike sessions t) (who : Option Subscriber) :
    (s.unsubscribe who).Alike sessions (t.unsubscribe who) := by
  cases who with
  | none => exact { h with subscribers := rfl }
  | some who => exact { h with subscribers := congrArg (·.erase who) h.subscribers }

theorem stopped (h : s.Alike sessions t) (token : Nat) :
    (s.stopped token).Alike sessions (t.stopped token) := by
  have hsettled : t.settled = s.settled := by
    unfold Session.settled
    rw [h.lastReport]
  refine { h with timer := rfl, latest := rfl, status := ?_ }
  show (if t.status = .inProgress then t.settled else t.status) = _
  rw [h.status, hsettled]
  rfl

theorem isSome_timer (h : s.Alike sessions t) : t.timer.isSome = s.timer.isSome := by
  rw [← Option.isSome_map (f := (·.due)), h.timer, Option.isSome_map]

end Session.Alike

/-! ## 2. Two histories side by side -/

def Traced (log : List Occurrence) : Prop :=
  ∀ run, Occurrence.dispatched run ∈ log → Occurrence.opened run.exercise run.session ∈ log

theorem Traced.act {N : Type} [Notifier N] {c : Coordinator N} {log : List Occurrence}
    (h : Traced log) (hc : c.Consistent log) (a : Action) :
    Traced (log ++ (c.act a).2) := by
  intro run hrun
  rcases List.mem_append.mp hrun with hold | hnew
  · exact List.mem_append_left _ (h run hold)
  -- The session of a run that is dispatched now stands, so the log says that it was opened.
  · obtain ⟨x, hx, hserial⟩ := (Coordinator.entry_act hc.distinct a).standing_of_dispatched hnew
    rw [← hserial]
    exact List.mem_append_left _ (hc.ledger.standing _ x hx).opened

namespace Coordinator

variable {N : Type} {c d : Coordinator N} {e : String} {a : Action} {log log' : List Occurrence}
  {s t : Session} {run : Run}

structure Renumbered (e : String) (sessions : List Nat) (c d : Coordinator N) : Prop where
  session : Option.Rel (Session.Alike sessions) (c.session? e) (d.session? e)
  token : d.token e = c.token e
  stages : ∀ run, run.exercise = e → d.stage? (run.renumber sessions) = c.stage? run
  running : d.running = c.running
  settings : d.settings = c.settings
  now : d.now = c.now

/-- What changes nothing that an exercise has keeps it as it is in the other history. -/
theorem Renumbered.of_sameShare {b : Coordinator N} (h : Renumbered e sessions c d)
    (hsame : SameShare e c b) : Renumbered e sessions b d := by
  constructor
  · rw [hsame.session]
    exact h.session
  · exact h.token.trans hsame.token.symm
  · intro run hrun
    rw [hsame.stages run hrun]
    exact h.stages run hrun
  · exact h.running.trans hsame.running.symm
  · exact h.settings.trans hsame.settings.symm
  · exact h.now.trans hsame.now.symm

/-- Of two histories with their logs, the second goes without the other exercises. The list holds the
sessions that the first one has opened for the exercise, and maybe some that it is going to open. -/
structure Beside (e : String) (sessions : List Nat) (c : Coordinator N) (log : List Occurrence)
    (d : Coordinator N) (log' : List Occurrence) : Prop extends Renumbered e sessions c d where
  full : c.Consistent log
  alone : d.Consistent log'
  traced : Traced log
  listed : sessionsOf e log <+: sessions
  opened : d.opened = (sessionsOf e log).length
  seen : logOf e log' = (logOf e log).map (·.renumber sessions)

namespace Beside

theorem serial_mem (h : Beside e sessions c log d log') (hs : c.session? e = some s) :
    s.serial ∈ sessions := by
  apply h.listed.subset
  apply mem_sessionsOf
  exact (h.full.ledger.standing e s.standing (ledger_standing hs)).opened

theorem session_mem (h : Beside e sessions c log d log') {stage : Stage} (hrun : run.exercise = e)
    (hstage : c.stage? run = some stage) : run.session ∈ sessions := by
  obtain ⟨f, hf, rfl, -⟩ := stage?_some hstage
  apply h.listed.subset
  apply mem_sessionsOf
  rw [← hrun]
  exact h.traced f.run (h.full.flights f hf).dispatched

theorem session_none (h : Beside e sessions c log d log') (hs : c.session? e = none) :
    d.session? e = none := by
  have hrel := h.session
  rw [hs] at hrel
  cases hd : d.session? e with
  | none => rfl
  | some t =>
    rw [hd] at hrel
    exact nomatch hrel

theorem session_some (h : Beside e sessions c log d log') (hs : c.session? e = some s) :
    ∃ t, d.session? e = some t ∧ s.Alike sessions t := by
  have hrel := h.session
  rw [hs] at hrel
  cases hd : d.session? e with
  | none =>
    rw [hd] at hrel
    exact nomatch hrel
  | some t =>
    rw [hd] at hrel
    cases hrel with
    | some halike => exact ⟨t, rfl, halike⟩

theorem rel_map (h : Beside e sessions c log d log') {f g : Session → Session}
    (hfg : ∀ s t, s.Alike sessions t → (f s).Alike sessions (g t)) :
    Option.Rel (Session.Alike sessions) ((c.session? e).map f) ((d.session? e).map g) := by
  cases hs : c.session? e with
  | none =>
    rw [h.session_none hs]
    exact .none
  | some s =>
    obtain ⟨t, ht, halike⟩ := h.session_some hs
    rw [ht]
    exact .some (hfg s t halike)

theorem heeds (h : Beside e sessions c log d log') (file : Path) : d.heeds file = c.heeds file := by
  unfold Coordinator.heeds
  rw [h.running, h.settings]

theorem due (h : Beside e sessions c log d log') : d.now + d.quiet = c.now + c.quiet := by
  unfold quiet
  rw [h.now, h.settings]

/-- What is read off a session, but for its number, is the same in both histories. -/
theorem read_session (h : Beside e sessions c log d log') {α : Type} (f : Option Session → α)
    (hf : ∀ s t, s.Alike sessions t → f (some t) = f (some s)) :
    f (d.session? e) = f (c.session? e) := by
  cases hs : c.session? e with
  | none => rw [h.session_none hs]
  | some s =>
    obtain ⟨t, ht, halike⟩ := h.session_some hs
    rw [ht]
    exact hf s t halike

theorem isSome_session (h : Beside e sessions c log d log') :
    (d.session? e).isSome = (c.session? e).isSome :=
  h.read_session Option.isSome fun _ _ _ => rfl

theorem isTimed (h : Beside e sessions c log d log') : d.isTimed e = c.isTimed e :=
  h.read_session (Option.any (·.timer.isSome)) fun _ _ halike => halike.isSome_timer

theorem status (h : Beside e sessions c log d log') : d.status e = c.status e := by
  unfold Coordinator.status
  cases hs : c.session? e with
  | none => rw [h.session_none hs]
  | some s =>
    obtain ⟨t, ht, halike⟩ := h.session_some hs
    rw [ht]
    exact halike.status

theorem lastReport (h : Beside e sessions c log d log') : d.lastReport e = c.lastReport e :=
  h.read_session (·.bind (·.lastReport)) fun _ _ halike => halike.lastReport

theorem timer (h : Beside e sessions c log d log') :
    (d.timer? e).map (·.due) = (c.timer? e).map (·.due) :=
  h.read_session (fun s => (s.bind (·.timer)).map (·.due)) fun _ _ halike => halike.timer

/-- A run is current in both histories or in none. -/
theorem isCurrent (h : Beside e sessions c log d log') (hrun : run.exercise = e) :
    d.isCurrent (run.renumber sessions) = c.isCurrent run := by
  unfold Coordinator.isCurrent
  rw [show (run.renumber sessions).exercise = run.exercise from rfl, hrun]
  cases hs : c.session? e with
  | none => rw [h.session_none hs]
  | some s =>
    obtain ⟨t, ht, halike⟩ := h.session_some hs
    -- The session is listed, so its place in the list is that of no other number.
    have hserial : (t.serial = (run.renumber sessions).session) = (s.serial = run.session) := by
      rw [halike.serial]
      exact propext (List.idxOf_inj (h.serial_mem hs))
    rw [ht]
    dsimp only
    rw [halike.latest]
    simp only [hserial]
    rfl

/-- What moves one run moves it in both histories. Two runs may come to be the same when they are
renumbered, but those in flight are of listed sessions and stay apart. -/
theorem stages_moved (h : Beside e sessions c log d log') (move : Option Stage → Option Stage)
    (hmove : move none = none) {other : Run} (hother : other.exercise = e) :
    (if other.renumber sessions = run.renumber sessions then move (d.stage? (other.renumber sessions))
      else d.stage? (other.renumber sessions)) =
      if other = run then move (c.stage? other) else c.stage? other := by
  rw [h.stages other hother]
  cases hstage : c.stage? other with
  | none => simp [hmove]
  | some stage =>
    have hsame : run.renumber sessions = other.renumber sessions ↔ run = other :=
      Run.renumber_inj (h.session_mem hother hstage)
    by_cases hrun : other = run
    · rw [if_pos (by rw [hrun]), if_pos hrun]
    · rw [if_neg (fun heq => hrun (hsame.mp heq.symm).symm), if_neg hrun]

end Beside

/-! ## 3. Actions in both histories -/

structure Mirrors (e : String) (sessions : List Nat) (x y : Coordinator N × List Occurrence) :
    Prop where
  session : Option.Rel (Session.Alike sessions) (x.1.session? e) (y.1.session? e)
  stages : ∀ run, run.exercise = e → y.1.stage? (run.renumber sessions) = x.1.stage? run
  seen : logOf e y.2 = (logOf e x.2).map (·.renumber sessions)

/-- The session of the exercise is replaced in both histories. -/
theorem rel_setSession (hs : c.session? e = some s) (ht : d.session? e = some t) {s' t' : Session}
    (halike : s'.Alike sessions t') (hs' : s'.exercise = s.exercise)
    (ht' : t'.exercise = t.exercise) : Option.Rel (Session.Alike sessions)
      ((c.setSession s').session? e) ((d.setSession t').session? e) := by
  rw [session?_replaced hs hs', session?_replaced ht ht', if_pos rfl, if_pos rfl]
  exact .some halike

namespace Beside

theorem still (h : Beside e sessions c log d log') : Mirrors e sessions (c, []) (d, []) :=
  ⟨h.session, h.stages, rfl⟩

theorem stages_same (h : Beside e sessions c log d log') (c' d' : Coordinator N)
    (hc : c'.flights = c.flights) (hd : d'.flights = d.flights) (run : Run)
    (hrun : run.exercise = e) : d'.stage? (run.renumber sessions) = c'.stage? run := by
  rw [stage?_congr hc, stage?_congr hd]
  exact h.stages run hrun

theorem stages_land (h : Beside e sessions c log d log') (run other : Run)
    (hother : other.exercise = e) : (d.land (run.renumber sessions)).stage?
      (other.renumber sessions) = (c.land run).stage? other := by
  rw [stage?_land_eq, stage?_land_eq]
  exact h.stages_moved (fun _ => none) rfl hother

theorem stages_setStage (h : Beside e sessions c log d log') (run : Run) (stage : Stage)
    (other : Run) (hother : other.exercise = e) :
    (d.setStage (run.renumber sessions) stage).stage? (other.renumber sessions) =
      (c.setStage run stage).stage? other := by
  rw [stage?_setStage_eq, stage?_setStage_eq]
  exact h.stages_moved (.map fun _ => stage) rfl hother

variable [Notifier N]

theorem watch (h : Beside e sessions c log d log') {x : Exercise} (hx : x.id = e) (who : Subscriber)
    (hlisted : sessionsOf e (log ++ (c.act (.watch x who)).2) <+: sessions) :
    Mirrors e sessions (c.act (.watch x who)) (d.act (.watch x who)) := by
  have hstages := h.stages_same (c.act (.watch x who)).1 (d.act (.watch x who)).1
    (flights_other nofun nofun nofun nofun nofun) (flights_other nofun nofun nofun nofun nofun)
  subst hx
  cases hs : c.session? x.id with
  | some s =>
    obtain ⟨t, ht, halike⟩ := h.session_some hs
    refine ⟨?_, hstages, ?_⟩
    · rw [act_watch_known hs, act_watch_known ht]
      exact rel_setSession hs ht (halike.subscribe who) (subscribe_exercise s who)
        (subscribe_exercise t who)
    · rw [act_watch_known hs, act_watch_known ht]
      rfl
  | none =>
    have ht := h.session_none hs
    -- The new session takes the next place in the list, and the next number in the other history.
    have hnumber : sessions.idxOf c.opened = d.opened := by
      have hnew : c.opened ∉ sessionsOf x.id log := fun hmem =>
        Nat.lt_irrefl _ (h.full.ledger.opened_lt _ (sessionsOf_subset _ _ hmem))
      have hone : sessionsOf x.id (c.act (.watch x who)).2 = [c.opened] := by
        unfold sessionsOf
        rw [act_watch_new hs, logOf_cons_events (by simp [Occurrence.isOf])]
        rfl
      rw [sessionsOf_append, hone] at hlisted
      obtain ⟨later, hlater⟩ := hlisted
      rw [← hlater, List.append_assoc, List.idxOf_append_of_notMem hnew, h.opened]
      simp
    refine ⟨?_, hstages, ?_⟩
    · show Option.Rel _ ((c.watch x who).1.session? x.id) ((d.watch x who).1.session? x.id)
      rw [session?_watch_new c x who hs, session?_watch_new d x who ht, if_pos rfl, if_pos rfl]
      exact .some ⟨hnumber.symm, rfl, rfl, rfl, rfl, h.token, h.token, rfl, rfl⟩
    · rw [act_watch_new hs, act_watch_new ht, logOf_cons_events (by simp [Occurrence.isOf]),
        logOf_cons_events (by simp [Occurrence.isOf])]
      simp [Occurrence.renumber, hnumber]

theorem unwatch (h : Beside e sessions c log d log') (who : Option Subscriber) :
    Mirrors e sessions (c.act (.unwatch e who)) (d.act (.unwatch e who)) := by
  have hstages := h.stages_same (c.act (.unwatch e who)).1 (d.act (.unwatch e who)).1
    (flights_other nofun nofun nofun nofun nofun) (flights_other nofun nofun nofun nofun nofun)
  cases hs : c.session? e with
  | none =>
    rw [act_unwatch_unknown hs, act_unwatch_unknown (h.session_none hs)]
    exact h.still
  | some s =>
    obtain ⟨t, ht, halike⟩ := h.session_some hs
    have hleft := halike.unsubscribe who
    by_cases hrest : (s.unsubscribe who).subscribers = []
    · have hrest' : (t.unsubscribe who).subscribers = [] := hleft.subscribers.trans hrest
      refine ⟨?_, hstages, ?_⟩
      · show Option.Rel _ ((c.unwatch e who).1.session? e) ((d.unwatch e who).1.session? e)
        rw [session?_unwatch_last c who hs hrest, session?_unwatch_last d who ht hrest', if_pos rfl,
          if_pos rfl]
        exact .none
      · rw [act_unwatch_last hs hrest, act_unwatch_last ht hrest',
          logOf_cons_events (by simp [Occurrence.isOf]), logOf_cons_events (by simp [Occurrence.isOf])]
        simp [Occurrence.renumber, halike.serial]
    · have hrest' : (t.unsubscribe who).subscribers ≠ [] := by rwa [hleft.subscribers]
      refine ⟨?_, hstages, ?_⟩
      · rw [act_unwatch_some hs hrest, act_unwatch_some ht hrest']
        exact rel_setSession hs ht hleft (unsubscribe_exercise s who) (unsubscribe_exercise t who)
      · rw [act_unwatch_some hs hrest, act_unwatch_some ht hrest']
        rfl

theorem stop (h : Beside e sessions c log d log') (stubborn : List Run) :
    Mirrors e sessions (c.act (.stop stubborn))
      (d.act (.stop (stubborn.map (·.renumber sessions)))) := by
  by_cases hrunning : c.running = true
  · have hrunning' : d.running = true := h.running.trans hrunning
    refine ⟨?_, fun run hrun => ?_, ?_⟩
    · show Option.Rel _ ((c.stopDespite fun run => run ∈ stubborn).1.session? e)
        ((d.stopDespite fun run => run ∈ stubborn.map (·.renumber sessions)).1.session? e)
      rw [session?_stopDespite h.full.distinct hrunning,
        session?_stopDespite h.alone.distinct hrunning', h.token]
      exact h.rel_map fun s t halike => halike.stopped _
    -- A run in flight is given up in both histories or in none.
    · rw [stage?_act_stop hrunning, stage?_act_stop hrunning', h.stages run hrun]
      cases hstage : c.stage? run with
      | none => simp
      | some stage =>
        have hmem : run.renumber sessions ∈ stubborn.map (·.renumber sessions) ↔
            run ∈ stubborn := by
          simp [Run.renumber_inj (h.session_mem hrun hstage)]
        simp only [hmem]
    · have hseen : ∀ (b : Coordinator N) (runs : List Run),
          logOf e (b.act (.stop runs)).2 = [] := fun b runs => logOf_events e _
      rw [hseen, hseen]
      rfl
  · have hidle : c.running = false := by simpa using hrunning
    rw [act_stop_idle hidle, act_stop_idle (h.running.trans hidle)]
    exact h.still

theorem goOff (h : Beside e sessions c log d log') :
    Mirrors e sessions (c.act (.goOff e)) (d.act (.goOff e)) := by
  cases htimed : c.isTimed e with
  | false =>
    rw [act_goOff_idle htimed, act_goOff_idle (h.isTimed.trans htimed)]
    exact h.still
  | true =>
    obtain ⟨s, hs⟩ := exists_of_isTimed htimed
    obtain ⟨t, ht, halike⟩ := h.session_some hs
    -- The run that is dispatched there is this one, renumbered.
    let new : Run := ⟨e, s.serial, c.token e + 1⟩
    have hnew : (⟨e, t.serial, d.token e + 1⟩ : Run) = new.renumber sessions := by
      rw [halike.serial, h.token]
      rfl
    rw [act_goOff_timed hs htimed, act_goOff_timed ht (h.isTimed.trans htimed)]
    refine ⟨?_, fun run hrun => ?_, ?_⟩
    · rw [dispatch_some c hs, dispatch_some d ht]
      show Option.Rel _ ((c.advance _).session? e) ((d.advance _).session? e)
      rw [session?_advanced hs (by rfl), session?_advanced ht (by rfl), if_pos rfl, if_pos rfl,
        h.token]
      exact .some { halike with timer := rfl, latest := rfl, status := rfl }
    · rw [stage?_dispatch hs, stage?_dispatch ht, hnew, h.stages run hrun]
      congr 1
      simp only [Run.renumber_inj (show new.session ∈ sessions from h.serial_mem hs), new]
    · rw [hnew]
      simp [logOf, Occurrence.isOf, Occurrence.renumber, new, Run.renumber]

theorem finish (h : Beside e sessions c log d log') (hrun : run.exercise = e) (report : Report) :
    Mirrors e sessions (c.act (.finish run report))
      (d.act (.finish (run.renumber sessions) report)) := by
  have hstage := h.stages run hrun
  have hcurrent := h.isCurrent hrun
  by_cases hrunning : c.stage? run = some .running
  · rw [hrunning] at hstage
    by_cases hpublished : c.isCurrent run = true ∧
        ∃ s, c.session? run.exercise = some s ∧ s.published < run.token
    · obtain ⟨hlatest, s, hs, hnew⟩ := hpublished
      rw [hrun] at hs
      obtain ⟨t, ht, halike⟩ := h.session_some hs
      have ht' : d.session? (run.renumber sessions).exercise = some t := hrun ▸ ht
      rw [act_finish_published hrunning (hrun ▸ hs) hlatest hnew,
        act_finish_published hstage ht' (hcurrent.trans hlatest) (halike.published ▸ hnew)]
      refine ⟨?_, fun other => ?_, ?_⟩
      · exact rel_setSession hs ht { halike with published := rfl, status := rfl, lastReport := rfl }
          rfl rfl
      · rw [halike.subscribers]
        exact h.stages_setStage run _ other
      · simp [logOf, Occurrence.isOf, Occurrence.renumber, hrun, Run.renumber]
    -- A report that is dropped in one history is dropped in the other.
    · have hold : ∀ s, c.session? run.exercise = some s → c.isCurrent run = true →
          run.token ≤ s.published := fun s hs hlatest =>
        Nat.le_of_not_lt fun hnew => hpublished ⟨hlatest, s, hs, hnew⟩
      have hold' : ∀ t, d.session? run.exercise = some t →
          d.isCurrent (run.renumber sessions) = true → run.token ≤ t.published := by
        intro t ht hlatest
        rw [hcurrent] at hlatest
        obtain ⟨s, hs, -⟩ := (isCurrent_iff c run).mp hlatest
        obtain ⟨t', ht', halike⟩ := h.session_some (hrun ▸ hs)
        rw [hrun, ht'] at ht
        rw [← Option.some.inj ht, halike.published]
        exact hold s hs hlatest
      rw [act_finish_dropped hrunning hold, act_finish_dropped hstage hold']
      exact ⟨h.session, h.stages_land run, rfl⟩
  · rw [act_finish_idle hrunning, act_finish_idle (hstage ▸ hrunning)]
    exact h.still

theorem deliver (h : Beside e sessions c log d log') (hrun : run.exercise = e) :
    Mirrors e sessions (c.act (.deliver run)) (d.act (.deliver (run.renumber sessions))) := by
  have hstage := h.stages run hrun
  have hcurrent := h.isCurrent hrun
  by_cases hdelivering : ∃ report rest, c.stage? run = some (.delivering report rest)
  · obtain ⟨report, rest, hrest⟩ := hdelivering
    rw [hrest] at hstage
    by_cases hover : rest = [] ∨ c.isCurrent run = false
    · rw [act_deliver_over hrest hover, act_deliver_over hstage (hcurrent ▸ hover)]
      exact ⟨h.session, h.stages_land run, rfl⟩
    · obtain ⟨hsome, hlatest⟩ := not_or.mp hover
      obtain ⟨who, rest, rfl⟩ := List.exists_cons_of_ne_nil hsome
      rw [Bool.not_eq_false] at hlatest
      rw [act_deliver_next hrest hlatest, act_deliver_next hstage (hcurrent.trans hlatest)]
      refine ⟨h.session, h.stages_setStage run _, ?_⟩
      simp [logOf, Occurrence.isOf, Occurrence.renumber, hrun, Run.renumber]
  · have hidle : ∀ report rest, c.stage? run ≠ some (.delivering report rest) :=
      fun report rest heq => hdelivering ⟨report, rest, heq⟩
    rw [act_deliver_idle hidle, act_deliver_idle (hstage ▸ hidle)]
    exact h.still

theorem trigger (h : Beside e sessions c log d log') :
    Mirrors e sessions (c.act (.trigger e)) (d.act (.trigger e)) := by
  refine ⟨?_, h.stages_same _ _ (flights_other nofun nofun nofun nofun nofun)
    (flights_other nofun nofun nofun nofun nofun), rfl⟩
  show Option.Rel _ (((c.trigger e).getD c).session? e) (((d.trigger e).getD d).session? e)
  rw [trigger_getD, trigger_getD, session?_scheduleExercise, session?_scheduleExercise, if_pos rfl,
    if_pos rfl, h.due]
  exact h.rel_map fun s t halike => { halike with timer := rfl }

theorem fileChanged (h : Beside e sessions c log d log') (file : Path) :
    Mirrors e sessions (c.act (.fileChanged file)) (d.act (.fileChanged file)) := by
  have hact : ∀ b : Coordinator N, b.act (.fileChanged file) = (b.fileChanged file, []) :=
    fun _ => rfl
  cases hheeds : c.heeds file with
  | false =>
    rw [hact, hact, fileChanged_of_not_heeds hheeds,
      fileChanged_of_not_heeds ((h.heeds file).trans hheeds)]
    exact h.still
  | true =>
    obtain ⟨order, hset⟩ := session?_fileChanged h.full.filed hheeds e
    obtain ⟨order', hset'⟩ := session?_fileChanged h.alone.filed ((h.heeds file).trans hheeds) e
    refine ⟨?_, h.stages_same _ _ (flights_other nofun nofun nofun nofun nofun)
      (flights_other nofun nofun nofun nofun nofun), rfl⟩
    rw [hact, hact, hset, hset', h.due]
    refine h.rel_map fun s t halike => ?_
    by_cases hfile : s.file = file
    · rw [if_pos hfile, if_pos (halike.file.trans hfile)]
      exact { halike with timer := rfl }
    · rw [if_neg hfile, if_neg (halike.file ▸ hfile)]
      exact halike

omit [Notifier N] in
/-- What changes no session and no run is of no account. -/
theorem of_registry (h : Beside e sessions c log d log') {c' d' : Coordinator N}
    (hc : SameRegistry c c') (hd : SameRegistry d d') {seen seen' : List Occurrence}
    (hseen : logOf e seen = []) (hseen' : logOf e seen' = []) :
    Mirrors e sessions (c', seen) (d', seen') := by
  refine ⟨?_, h.stages_same c' d' hc.flights hd.flights, ?_⟩
  · rw [hc.session?_eq, hd.session?_eq]
    exact h.session
  · rw [hseen, hseen']
    rfl

/-- Every action that is not of other exercises does the same in both histories. -/
theorem mirrors (h : Beside e sessions c log d log') (ha : c.isForeign e a = false)
    (hlisted : sessionsOf e (log ++ (c.act a).2) <+: sessions) :
    Mirrors e sessions (c.act a) (d.act (a.renumber sessions)) := by
  -- An action of the exercise is met by its counterpart; a common one does the same on both sides.
  cases a with
  | watch x who => exact h.watch (by simpa [isForeign] using ha) who hlisted
  | unwatch x who =>
    obtain rfl : x = e := by simpa [isForeign] using ha
    exact h.unwatch who
  | start =>
    exact h.of_registry (start_sameRegistry c) (start_sameRegistry d) (logOf_events e _)
      (logOf_events e _)
  | stop stubborn => exact h.stop stubborn
  | trigger x =>
    obtain rfl : x = e := by simpa [isForeign] using ha
    exact h.trigger
  | fileChanged file => exact h.fileChanged file
  | watchFailed f =>
    exact h.of_registry (watchFailed_sameRegistry c f) (watchFailed_sameRegistry d f)
      (logOf_events e _) (logOf_events e _)
  | pass duration => exact ⟨h.session, h.stages, rfl⟩
  | goOff x =>
    obtain rfl : x = e := by simpa [isForeign] using ha
    exact h.goOff
  | finish run report => exact h.finish (by simpa [isForeign] using ha) report
  | breakOff run => exact ⟨h.session, h.stages_land run, rfl⟩
  | deliver run => exact h.deliver (by simpa [isForeign] using ha)
  | wakeRetry =>
    have hquiet : ∀ b : Coordinator N, logOf e (b.act .wakeRetry).2 = [] := by
      intro b
      rw [(act_wakeRetry b).2]
      rfl
    exact h.of_registry (act_wakeRetry c).1 (act_wakeRetry d).1 (hquiet c) (hquiet d)
  | retry =>
    exact h.of_registry (retryStep_sameRegistry c) (retryStep_sameRegistry d) (logOf_events e _)
      (logOf_events e _)

/-! ## 4. Steps of both histories -/

omit [Notifier N] in
theorem advances (h : Beside e sessions c log d log') (ha : c.isForeign e a = false) :
    d.advances e (a.renumber sessions) = c.advances e a := by
  cases a with
  | unwatch x who =>
    obtain rfl : x = e := by simpa [isForeign] using ha
    show (x = x && (d.session? x).any _) = (x = x && (c.session? x).any _)
    congr 1
    exact h.read_session (Option.any fun s => (s.unsubscribe who).subscribers.isEmpty)
      fun _ _ halike => congrArg List.isEmpty (halike.unsubscribe who).subscribers
  | stop stubborn =>
    show (d.running && (d.session? e).isSome) = (c.running && (c.session? e).isSome)
    rw [h.running, h.isSome_session]
  | goOff x =>
    obtain rfl : x = e := by simpa [isForeign] using ha
    show (x = x && d.isTimed x) = (x = x && c.isTimed x)
    rw [h.isTimed]
  | _ => rfl

/-- An action of other exercises is left out. -/
theorem skip (h : Beside e sessions c log d log') (ha : c.isForeign e a = true) :
    Beside e sessions (c.act a).1 (log ++ (c.act a).2) d log' := by
  have hseen : logOf e (log ++ (c.act a).2) = logOf e log := by
    rw [logOf_append, logOf_act_foreign ha, List.append_nil]
  have hsessions : sessionsOf e (log ++ (c.act a).2) = sessionsOf e log :=
    congrArg openedSessions hseen
  refine ⟨h.toRenumbered.of_sameShare (sameShare_act h.full ha), h.full.act a, h.alone,
    h.traced.act h.full a, ?_, ?_, ?_⟩
  · rw [hsessions]
    exact h.listed
  · rw [hsessions]
    exact h.opened
  · rw [hseen]
    exact h.seen

/-- Every other action is taken in both histories. -/
theorem act (h : Beside e sessions c log d log') (ha : c.isForeign e a = false)
    (hlisted : sessionsOf e (log ++ (c.act a).2) <+: sessions) :
    Beside e sessions (c.act a).1 (log ++ (c.act a).2) (d.act (a.renumber sessions)).1
      (log' ++ (d.act (a.renumber sessions)).2) := by
  have hmirrors := h.mirrors ha hlisted
  have hsetup := act_sameSetup c a
  have hsetup' := act_sameSetup d (a.renumber sessions)
  have hduration : (a.renumber sessions).duration = a.duration := by cases a <;> rfl
  refine ⟨⟨hmirrors.session, ?_, hmirrors.stages, ?_, ?_, ?_⟩, h.full.act a, h.alone.act _,
    h.traced.act h.full a, hlisted, ?_, ?_⟩
  · rw [token_act h.alone.distinct, token_act h.full.distinct, h.advances ha, h.token]
  · rw [running_act, running_act]
    cases a with
    | start | stop stubborn => rfl
    | _ => exact h.running
  · rw [hsetup.settings, hsetup'.settings]
    exact h.settings
  · rw [hsetup.now, hsetup'.now, hduration]
    exact congrArg (· + a.duration) h.now
  -- The other history opens sessions of the exercise only, so its number of sessions is theirs.
  · have hopened : openedSessions (d.act (a.renumber sessions)).2 =
        sessionsOf e (d.act (a.renumber sessions)).2 := by
      refine (sessionsOf_eq fun x k hmem => ?_).symm
      obtain ⟨file, who, hwatch⟩ := comesFrom_act hmem
      cases a with
      | watch y who' =>
        obtain ⟨rfl, -⟩ := Action.watch.inj hwatch
        simpa [isForeign] using ha
      | _ => cases hwatch
    have hcount : (sessionsOf e (d.act (a.renumber sessions)).2).length =
        (sessionsOf e (c.act a).2).length := by
      unfold sessionsOf
      rw [hmirrors.seen, openedSessions_renumber, List.length_map]
    have hentry := (entry_act h.alone.distinct (a.renumber sessions)).opened_eq
    rw [hopened, hcount] at hentry
    rw [sessionsOf_append, List.length_append, ← h.opened]
    exact hentry
  · rw [logOf_append, logOf_append, hmirrors.seen, h.seen, List.map_append]

end Beside

/-! ## 5. Whole histories -/

variable [Notifier N]

/-- What is left of a history for an exercise when the actions of other exercises are taken out. -/
def leftFor (c : Coordinator N) (e : String) : List Action → List Action
  | [] => []
  | a :: as => (if c.isForeign e a then [] else [a]) ++ (c.act a).1.leftFor e as

theorem leftFor_take (c : Coordinator N) (e : String) (actions : List Action) (n : Nat) :
    c.leftFor e (actions.take n) <+: c.leftFor e actions := by
  induction actions generalizing c n with
  | nil => rw [List.take_nil]
  | cons a as ih =>
    cases n with
    | zero => exact List.nil_prefix
    | succ n => exact (List.prefix_append_right_inj _).mpr (ih (c.act a).1 n)

/-- A whole history keeps the two coordinators side by side. -/
theorem Beside.play (h : Beside e sessions c log d log') (actions : List Action)
    (hlisted : sessionsOf e (log ++ (c.play actions).2) <+: sessions) :
    Beside e sessions (c.play actions).1 (log ++ (c.play actions).2)
      (d.play ((c.leftFor e actions).map (·.renumber sessions))).1
      (log' ++ (d.play ((c.leftFor e actions).map (·.renumber sessions))).2) := by
  induction actions generalizing c log d log' with
  | nil =>
    show Beside e sessions c (log ++ []) d (log' ++ [])
    rw [List.append_nil, List.append_nil]
    exact h
  | cons a as ih =>
    have hplay : c.play (a :: as) =
        (((c.act a).1.play as).1, (c.act a).2 ++ ((c.act a).1.play as).2) := rfl
    rw [hplay, ← List.append_assoc] at hlisted ⊢
    unfold leftFor
    by_cases ha : c.isForeign e a = true
    · rw [if_pos ha, List.nil_append]
      exact ih (h.skip ha) hlisted
    -- The sessions that the first action opens are listed with those of the whole history.
    · have hfirst : sessionsOf e (log ++ (c.act a).2) <+: sessions := by
        rw [sessionsOf_append] at hlisted
        exact (List.prefix_append ..).trans hlisted
      have hrest := ih (h.act (by simpa using ha) hfirst) hlisted
      rw [if_neg ha, List.singleton_append, List.map_cons]
      rwa [List.append_assoc log'] at hrest

omit [Notifier N] in
theorem beside_new (e : String) (sessions : List Nat) (notifier : N) (settings : WatchSettings)
    (backoff : Backoff) (chance : Chance) :
    Beside e sessions (new notifier settings backoff chance) []
      (new notifier settings backoff chance) [] :=
  ⟨⟨.none, rfl, fun _ _ => rfl, rfl, rfl, rfl⟩, consistent_new notifier settings backoff chance,
    consistent_new notifier settings backoff chance, nofun, List.nil_prefix, rfl, rfl⟩

/-- Exercises do not interfere. When all that belongs to other exercises is taken out of a history, the
same happens to an exercise up to the numbers of its sessions: after every part of the history the same
runs have been dispatched for it under the same tokens, the same reports have been published and told
of, its status and last report are the same, and its timer is due at the same moment. -/
theorem exercises_do_not_interfere (notifier : N) (settings : WatchSettings) (backoff : Backoff)
    (chance : Chance) (actions : List Action) (e : String) (n : Nat) :
    let start := Coordinator.new notifier settings backoff chance
    let sessions := sessionsOf e (start.play actions).2
    let left := fun actions => (start.leftFor e actions).map (·.renumber sessions)
    let full := start.play (actions.take n)
    let alone := start.play (left (actions.take n))
    left (actions.take n) <+: left actions ∧
      logOf e alone.2 = (logOf e full.2).map (·.renumber sessions) ∧
      alone.1.status e = full.1.status e ∧ alone.1.lastReport e = full.1.lastReport e ∧
      alone.1.now = full.1.now ∧ (alone.1.timer? e).map (·.due) = (full.1.timer? e).map (·.due) := by
  intro start sessions left full alone
  have hlisted : sessionsOf e (start.play (actions.take n)).2 <+: sessions := by
    have hsplit := play_append start (actions.take n) (actions.drop n)
    rw [List.take_append_drop] at hsplit
    show _ <+: sessionsOf e (start.play actions).2
    rw [hsplit, sessionsOf_append]
    exact List.prefix_append ..
  have hbeside := (beside_new e sessions notifier settings backoff chance).play (actions.take n)
    (by rwa [List.nil_append])
  rw [List.nil_append, List.nil_append] at hbeside
  exact ⟨(leftFor_take start e actions n).map _, hbeside.seen, hbeside.status, hbeside.lastReport,
    hbeside.now, hbeside.timer⟩

-- The run of the second exercise is left, of what is by then its first session.
example :
    let first : Exercise := ⟨"a", ⟨"/", ["w", "a"]⟩⟩
    let second : Exercise := ⟨"b", ⟨"/", ["w", "b"]⟩⟩
    let c : Coordinator ScriptedNotifier := .new {} {} {} []
    (c.leftFor "b" [.watch first "x", .watch second "y", .start, .fileChanged first.file,
      .trigger "b", .goOff "a", .goOff "b", .deliver ⟨"a", 0, 1⟩, .deliver ⟨"b", 1, 1⟩]).map
        (·.renumber [1]) =
      [.watch second "y", .start, .trigger "b", .goOff "b", .deliver ⟨"b", 0, 1⟩] := by
  rfl

end Coordinator

end Grading.Watch
