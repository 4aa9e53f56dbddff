import Mathlib.Data.List.Basic
import Grading.Proofs.Watch.Leg
import Grading.Proofs.Watch.Loop

/-!
# Apart — what other exercises leave alone

All exercises share the table of tokens, the watched files, the runs in flight and the one switch that
says whether the coordinator runs. Still an action of another exercise changes nothing that an
exercise has in them, and nothing that is seen of it concerns that exercise.
-/

namespace Grading.Watch

open Grading.Files

/-! ## 1. What is seen of one exercise -/

def Occurrence.isOf (e : String) : Occurrence → Bool
  | .opened x _ | .closed x _ => x = e
  | .dispatched run | .published run _ | .told run .. => run.exercise = e
  | .event _ => false

def logOf (e : String) (log : List Occurrence) : List Occurrence := log.filter (·.isOf e)

theorem logOf_append (e : String) (log more : List Occurrence) :
    logOf e (log ++ more) = logOf e log ++ logOf e more :=
  List.filter_append ..

theorem logOf_events (e : String) (events : List Event) : logOf e (events.map .event) = [] := by
  unfold logOf
  rw [List.filter_eq_nil_iff]
  intro o ho
  obtain ⟨ev, -, rfl⟩ := List.mem_map.mp ho
  simp [Occurrence.isOf]

theorem logOf_cons_events {e : String} {o : Occurrence} (h : o.isOf e = true) (events : List Event) :
    logOf e (o :: events.map .event) = [o] := by
  unfold logOf
  rw [List.filter_cons_of_pos h]
  exact congrArg (o :: ·) (logOf_events e events)

def sessionsOf (e : String) (log : List Occurrence) : List Nat := openedSessions (logOf e log)

theorem sessionsOf_append (e : String) (log more : List Occurrence) :
    sessionsOf e (log ++ more) = sessionsOf e log ++ sessionsOf e more := by
  unfold sessionsOf
  rw [logOf_append, openedSessions_append]

theorem sessionsOf_subset (e : String) (log : List Occurrence) :
    sessionsOf e log ⊆ openedSessions log :=
  (List.filter_sublist.filterMap _).subset

theorem sessionsOf_eq {e : String} {log : List Occurrence}
    (h : ∀ x k, Occurrence.opened x k ∈ log → x = e) : sessionsOf e log = openedSessions log := by
  unfold sessionsOf logOf openedSessions
  rw [List.filterMap_filter]
  refine List.filterMap_congr fun o ho => ?_
  cases o with
  | opened x k => simp [Occurrence.isOf, h x k ho]
  | _ => simp

theorem mem_sessionsOf {e : String} {k : Nat} {log : List Occurrence}
    (h : Occurrence.opened e k ∈ log) : k ∈ sessionsOf e log :=
  List.mem_filterMap.mpr ⟨_, List.mem_filter.mpr ⟨h, by simp [Occurrence.isOf]⟩, rfl⟩

namespace Coordinator

variable {N : Type} {c d : Coordinator N} {e : String} {a : Action}

/-! ## 2. Actions of other exercises -/

/-- Whether an action belongs to other exercises: it subscribes to one of them, takes such a
subscription back or triggers one, its timer goes off, its run comes back from the runner or goes to
the next subscriber, or a file changes in which one of them is watched and this exercise is not. -/
def isForeign (c : Coordinator N) (e : String) : Action → Bool
  | .watch x _ => x.id ≠ e
  | .unwatch x _ | .trigger x | .goOff x => x ≠ e
  | .finish run _ | .breakOff run | .deliver run => run.exercise ≠ e
  | .fileChanged file =>
    c.sessions.any (fun s => s.exercise ≠ e && s.file = file) &&
      !(c.session? e).any (·.file = file)
  | .start | .stop _ | .watchFailed _ | .pass _ | .wakeRetry | .retry => false

structure SameShare (e : String) (c d : Coordinator N) : Prop where
  session : d.session? e = c.session? e
  token : d.token e = c.token e
  stages : ∀ run, run.exercise = e → d.stage? run = c.stage? run
  running : d.running = c.running
  settings : d.settings = c.settings
  now : d.now = c.now

/-! ## 3. Tokens -/

/-- Whether an action gives out the next token of an exercise: it ends the session, stops the watching
or dispatches a run. -/
def advances (c : Coordinator N) (e : String) : Action → Bool
  | .unwatch x who => x = e && (c.session? x).any fun s => (s.unsubscribe who).subscribers.isEmpty
  | .stop _ => c.running && (c.session? e).isSome
  | .goOff x => x = e && c.isTimed x
  | _ => false

theorem token_of_ledger (h : d.ledger = c.ledger) : d.token e = c.token e :=
  congrFun (congrArg Ledger.token h) e

/-- Settling sessions advances the token of an exercise once for each of its sessions. -/
theorem token_foldl_settle (ss : List Session) (c : Coordinator N) (e : String) :
    (ss.foldl settle c).token e = c.token e + (ss.map (·.exercise)).count e := by
  induction ss generalizing c with
  | nil => rfl
  | cons s ss ih =>
    have hfirst : (c.settle s).token e = if e = s.exercise then c.token e + 1 else c.token e :=
      token_advance c _ e
    rw [List.foldl_cons, ih, hfirst, List.map_cons, List.count_cons]
    by_cases he : e = s.exercise
    · simp only [he, beq_self_eq_true, if_true]
      omega
    · simp [he, Ne.symm he]

variable [Notifier N] {log : List Occurrence}

/-- A stop advances the token of every watched exercise by one and no other. -/
theorem token_stopDespite (h : c.watched.Nodup) (hrunning : c.running = true)
    (stubborn : Run → Bool) (e : String) : (c.stopDespite stubborn).1.token e =
      if (c.session? e).isSome = true then c.token e + 1 else c.token e := by
  -- No exercise is watched twice, so its session is settled once.
  have hcount : (c.sessions.map (·.exercise)).count e =
      if (c.session? e).isSome = true then 1 else 0 := by
    have hwatched : c.watched.count e = if e ∈ c.watched then 1 else 0 := List.Nodup.count h
    simp only [session?_isSome]
    exact hwatched
  unfold stopDespite
  rw [if_neg (by simp [hrunning])]
  dsimp only
  rw [token_foldl_settle, hcount]
  split <;> rfl

/-- Which tokens are given out depends on the action, the session of the exercise and whether the
coordinator runs. -/
theorem token_act (h : c.watched.Nodup) (a : Action) (e : String) :
    (c.act a).1.token e = if c.advances e a = true then c.token e + 1 else c.token e := by
  -- All but three actions make entries in the ledger that give out no token.
  cases a with
  | watch x who =>
    show (c.watch x who).1.token e = c.token e
    cases hs : c.session? x.id with
    | some s =>
      rw [watch_known c x who hs]
      rfl
    | none => exact congrFun (congrArg Ledger.token (ledger_watch_new c x who hs)) e
  | unwatch x who =>
    show (c.unwatch x who).1.token e = _
    cases hs : c.session? x with
    | none =>
      rw [unwatch_unknown c who hs, if_neg (by simp [advances, hs])]
    | some s =>
      by_cases hrest : (s.unsubscribe who).subscribers = []
      · have htoken : (c.unwatch x who).1.token e =
            Function.update c.token x (c.token x + 1) e :=
          congrFun (congrArg Ledger.token (ledger_unwatch_last c who hs hrest)) e
        rw [htoken, Function.update_apply]
        by_cases hx : e = x
        · subst hx
          rw [if_pos rfl, if_pos (by simp [advances, hs, hrest])]
        · rw [if_neg hx, if_neg (by simp [advances, Ne.symm hx])]
      · rw [unwatch_some c who hs hrest, if_neg (by simp [advances, hs, hrest])]
        rfl
  | start => exact token_of_ledger (start_sameRegistry c).ledger_eq
  | stop stubborn =>
    show (c.stopDespite fun run => run ∈ stubborn).1.token e = _
    by_cases hrunning : c.running = true
    · rw [token_stopDespite h hrunning]
      simp [advances, hrunning]
    · unfold stopDespite
      rw [if_pos (by simp [hrunning]), if_neg (by simp [advances, hrunning])]
  | trigger x =>
    show ((c.trigger x).getD c).token e = c.token e
    unfold trigger
    cases c.session? x <;> rfl
  | fileChanged file => exact token_of_ledger (ledger_fileChanged c file)
  | watchFailed f => exact token_of_ledger (watchFailed_sameRegistry c f).ledger_eq
  | pass duration => rfl
  | goOff x =>
    by_cases htimed : c.isTimed x = true
    · obtain ⟨s, hs⟩ := exists_of_isTimed htimed
      have htoken : (c.dispatch x).1.token e = Function.update c.token x (c.token x + 1) e :=
        congrFun (congrArg Ledger.token (ledger_dispatch c hs)) e
      rw [act_goOff_timed hs htimed, htoken, Function.update_apply]
      by_cases hx : e = x
      · subst hx
        rw [if_pos rfl, if_pos (by simp [advances, htimed])]
      · rw [if_neg hx, if_neg (by simp [advances, Ne.symm hx])]
    · rw [act_goOff_idle (by simpa using htimed), if_neg (by simp [advances, htimed])]
  | finish run report =>
    show (c.act (.finish run report)).1.token e = c.token e
    rcases act_finish c run report with hact | hact | ⟨s, -, -, -, -, hact⟩ <;> rw [hact] <;> rfl
  | breakOff run => rfl
  | deliver run =>
    show (c.act (.deliver run)).1.token e = c.token e
    rcases act_deliver c run with hact | hact | ⟨_, _, _, -, -, hact⟩ <;> rw [hact] <;> rfl
  | wakeRetry => exact token_of_ledger (act_wakeRetry c).1.ledger_eq
  | retry => exact token_of_ledger (retryStep_sameRegistry c).ledger_eq

/-! ## 4. What other exercises leave alone -/

/-- An action on another exercise leaves the session as it is. -/
theorem session?_act_foreign (hc : c.Consistent log) (h : c.isForeign e a = true) :
    (c.act a).1.session? e = c.session? e := by
  have hturn := turn_act hc.distinct hc.filed a e
  generalize hx : c.session? e = x at hturn ⊢
  generalize (c.act a).1.session? e = y at hturn ⊢
  -- Every turn that changes the session is one of an action of the exercise itself.
  cases hturn with
  | kept => rfl
  | scheduled order hchange =>
    cases a with
    | trigger x =>
      simp [isForeign] at h
      simp [changes, h] at hchange
    | fileChanged file => simp_all [isForeign, changes]
    | _ => exact absurd hchange Bool.false_ne_true
  | published hrun => exact absurd hrun (by simpa [isForeign] using h)
  | _ => simp [isForeign] at h

theorem stage?_act_foreign (hc : c.Consistent log) (h : c.isForeign e a = true) {run : Run}
    (hrun : run.exercise = e) : (c.act a).1.stage? run = c.stage? run := by
  have hleg := leg_act hc a run
  generalize c.stage? run = x at hleg ⊢
  generalize (c.act a).1.stage? run = y at hleg ⊢
  cases hleg with
  | kept => rfl
  | _ => simp [isForeign, hrun] at h

/-- An action of another exercise leaves everything alone that an exercise has of the coordinator. -/
theorem sameShare_act (hc : c.Consistent log) (h : c.isForeign e a = true) :
    SameShare e c (c.act a).1 := by
  have hsetup := act_sameSetup c a
  have hduration : a.duration = 0 := by
    cases a with
    | pass d => exact absurd h Bool.false_ne_true
    | _ => rfl
  have htoken : c.advances e a = false := by
    cases a with
    | unwatch x who => simp_all [isForeign, advances]
    | goOff x => simp_all [isForeign, advances]
    | stop stubborn => exact absurd h Bool.false_ne_true
    | _ => rfl
  refine ⟨session?_act_foreign hc h, ?_, fun run => stage?_act_foreign hc h, ?_, hsetup.settings, ?_⟩
  · rw [token_act hc.distinct, if_neg (by simp [htoken])]
  · rw [running_act]
    cases a with
    | start | stop stubborn => exact absurd h Bool.false_ne_true
    | _ => rfl
  · rw [hsetup.now, hduration]
    rfl

/-- Nothing that is seen of an action of another exercise concerns an exercise. -/
theorem logOf_act_foreign (h : c.isForeign e a = true) : logOf e (c.act a).2 = [] := by
  unfold logOf
  rw [List.filter_eq_nil_iff]
  intro o ho
  have hfrom := comesFrom_act ho
  cases o with
  | opened x k =>
    obtain ⟨file, who, rfl⟩ := hfrom
    simpa [isForeign, Occurrence.isOf] using h
  | closed x k =>
    obtain ⟨who, rfl⟩ := hfrom
    simpa [isForeign, Occurrence.isOf] using h
  | dispatched run =>
    obtain ⟨rfl, -⟩ := hfrom
    simpa [isForeign, Occurrence.isOf] using h
  | published run report =>
    obtain ⟨rfl, -⟩ := hfrom
    simpa [isForeign, Occurrence.isOf] using h
  | told run who report =>
    obtain ⟨rfl, -⟩ := hfrom
    simpa [isForeign, Occurrence.isOf] using h
  | event ev => simp [Occurrence.isOf]

end Coordinator

end Grading.Watch
