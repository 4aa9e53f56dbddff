import Grading.Proofs.Watch.Loop

/-!
# Indifferent — the sessions whatever the notifier answers

Every action is carried out to its end whether the notifier fails or not: what it does to the
sessions, their tokens, files and runs, and to whether the coordinator runs, is the same over every
notifier. That an operation of the notifier failed is told as a warning.
-/

namespace Grading.Watch.Coordinator

open Grading.Files

variable {N M : Type} {c : Coordinator N} {s : Session} {e : String}

/-! ## 1. Another notifier -/

def withNotifier (c : Coordinator N) (m : M) : Coordinator M := { c with notifier := m }

/-- Two coordinators over different notifiers agree on everything but the notifier and the loop that
restarts it. -/
structure SameEffect (c : Coordinator N) (d : Coordinator M) : Prop where
  sessions : d.sessions = c.sessions
  tokens : d.tokens = c.tokens
  opened : d.opened = c.opened
  files : d.files = c.files
  flights : d.flights = c.flights
  running : d.running = c.running

theorem SameEffect.withNotifier (c : Coordinator N) (m : M) : SameEffect c (c.withNotifier m) :=
  ⟨rfl, rfl, rfl, rfl, rfl, rfl⟩

theorem SameEffect.of_eq {m : M} {d : Coordinator M} (h : d = c.withNotifier m) : SameEffect c d :=
  h ▸ .withNotifier c m

theorem scheduleExercise_withNotifier (c : Coordinator N) (m : M) (e : String) :
    (c.withNotifier m).scheduleExercise e = (c.scheduleExercise e).withNotifier m := by
  unfold scheduleExercise
  rw [show (c.withNotifier m).session? e = c.session? e from rfl]
  cases c.session? e <;> rfl

theorem foldl_withNotifier {α : Type} {f : Coordinator N → α → Coordinator N}
    {g : Coordinator M → α → Coordinator M} {m : M}
    (hfg : ∀ c x, g (c.withNotifier m) x = (f c x).withNotifier m) (xs : List α)
    (c : Coordinator N) : xs.foldl g (c.withNotifier m) = (xs.foldl f c).withNotifier m := by
  induction xs generalizing c with
  | nil => rfl
  | cons x xs ih => rw [List.foldl_cons, List.foldl_cons, hfg, ih]

theorem trigger_withNotifier (c : Coordinator N) (m : M) (e : String) :
    ((c.withNotifier m).trigger e).getD (c.withNotifier m) =
      ((c.trigger e).getD c).withNotifier m := by
  unfold trigger
  rw [show (c.withNotifier m).session? e = c.session? e from rfl]
  cases c.session? e <;> rfl

theorem fileChanged_withNotifier (c : Coordinator N) (m : M) (file : Path) :
    (c.withNotifier m).fileChanged file = (c.fileChanged file).withNotifier m := by
  unfold fileChanged
  by_cases hoff : (!c.running || (c.settings.ignoreHidden && file.name.startsWith ".")) = true
  · rw [if_pos hoff]
    exact if_pos hoff
  · rw [if_neg hoff]
    refine (if_neg hoff).trans ?_
    exact foldl_withNotifier (fun c x => scheduleExercise_withNotifier c m x) _ c

theorem dispatch_withNotifier (c : Coordinator N) (m : M) (e : String) :
    ((c.withNotifier m).dispatch e).1 = (c.dispatch e).1.withNotifier m := by
  unfold dispatch
  rw [show (c.withNotifier m).session? e = c.session? e from rfl]
  cases c.session? e <;> rfl

theorem publish_withNotifier (c : Coordinator N) (m : M) (run : Run) (report : Report) :
    (c.withNotifier m).publish run report = (c.publish run report).withNotifier m := by
  unfold publish
  rw [show (c.withNotifier m).session? run.exercise = c.session? run.exercise from rfl,
    show (c.withNotifier m).isCurrent run = c.isCurrent run from rfl]
  cases c.session? run.exercise with
  | none => rfl
  | some s =>
    dsimp only
    split <;> rfl

theorem deliver_withNotifier (c : Coordinator N) (m : M) (run : Run) :
    ((c.withNotifier m).deliver run).1 = (c.deliver run).1.withNotifier m := by
  unfold deliver
  rw [show (c.withNotifier m).stage? run = c.stage? run from rfl,
    show (c.withNotifier m).isCurrent run = c.isCurrent run from rfl]
  split
  · split <;> rfl
  · rfl
  · rfl

/-! ## 2. Actions -/

/-- Two steps that change the registry alike have the same effect. -/
theorem SameEffect.of_registry {d d' : Coordinator N} {m : M} {b b' : Coordinator M}
    (h : SameRegistry d d') (h' : SameRegistry b b') (hb : b = d.withNotifier m)
    (hrunning : b'.running = d'.running) : SameEffect d' b' := by
  subst hb
  exact ⟨h'.sessions.trans h.sessions.symm, h'.tokens.trans h.tokens.symm,
    h'.opened.trans h.opened.symm, h'.files.trans h.files.symm, h'.flights.trans h.flights.symm,
    hrunning⟩

variable [Notifier N] [Notifier M]

theorem watch_withNotifier (c : Coordinator N) (m : M) (x : Exercise) (who : Subscriber) :
    SameEffect (c.watch x who).1 ((c.withNotifier m).watch x who).1 := by
  cases hs : c.session? x.id with
  | some s =>
    rw [watch_known c x who hs, watch_known (c.withNotifier m) x who hs]
    exact .of_eq rfl
  | none =>
    exact .of_registry (watch_new c x who hs) (watch_new (c.withNotifier m) x who hs) rfl
      ((running_act (c.withNotifier m) (.watch x who)).trans (running_act c (.watch x who)).symm)

/-- Which notifier is in use makes no difference to an unsubscription. -/
theorem unwatch_withNotifier (c : Coordinator N) (m : M) (e : String) (who : Option Subscriber) :
    SameEffect (c.unwatch e who).1 ((c.withNotifier m).unwatch e who).1 := by
  cases hs : c.session? e with
  | none =>
    rw [unwatch_unknown c who hs, unwatch_unknown (c.withNotifier m) who hs]
    exact .withNotifier c m
  | some s =>
    by_cases hlast : (s.unsubscribe who).subscribers = []
    · have hfiles := (unwatch_last_files who hs hlast).1
      have hfiles' := (unwatch_last_files (c := c.withNotifier m) who hs hlast).1
      obtain ⟨files, notifier, hd⟩ := unwatch_last c who hs hlast
      obtain ⟨files', notifier', hd'⟩ := unwatch_last (c.withNotifier m) who hs hlast
      refine ⟨?_, ?_, ?_, hfiles'.trans hfiles.symm, ?_, ?_⟩ <;> rw [hd, hd'] <;> rfl
    · rw [unwatch_some c who hs hlast, unwatch_some (c.withNotifier m) who hs hlast]
      exact .of_eq rfl

/-- Which notifier is in use makes no difference to a stop. -/
theorem stopDespite_withNotifier (c : Coordinator N) (m : M) (stubborn : Run → Bool) :
    SameEffect (c.stopDespite stubborn).1 ((c.withNotifier m).stopDespite stubborn).1 := by
  let stopped : Coordinator N :=
    { c with running := false, notifier := Notifier.stop c.notifier, retry := none,
             flights := c.flights.filter fun f => stubborn f.run }
  have hsettle : ∀ (d : Coordinator N) (s : Session),
      (d.withNotifier (Notifier.stop m)).settle s = (d.settle s).withNotifier (Notifier.stop m) :=
    fun _ _ => rfl
  unfold stopDespite
  rw [show (c.withNotifier m).running = c.running from rfl]
  split
  · exact .withNotifier c m
  · exact .of_eq (foldl_withNotifier hsettle c.sessions stopped)

/-- What an action does to the sessions does not depend on what the notifier answers. -/
theorem act_withNotifier (c : Coordinator N) (m : M) (a : Action) :
    SameEffect (c.act a).1 ((c.withNotifier m).act a).1 := by
  -- What keeps the registry over both notifiers has the same effect on it.
  have hregistry : SameRegistry c (c.act a).1 →
      SameRegistry (c.withNotifier m) ((c.withNotifier m).act a).1 →
      SameEffect (c.act a).1 ((c.withNotifier m).act a).1 := by
    intro h h'
    refine .of_registry h h' rfl ((running_act (c.withNotifier m) a).trans ?_)
    rw [running_act c a]
    cases a <;> rfl
  cases a with
  | watch x who => exact watch_withNotifier c m x who
  | unwatch e who => exact unwatch_withNotifier c m e who
  | start => exact hregistry (start_sameRegistry c) (start_sameRegistry (c.withNotifier m))
  | stop stubborn => exact stopDespite_withNotifier c m fun run => run ∈ stubborn
  | trigger e => exact .of_eq (trigger_withNotifier c m e)
  | fileChanged file => exact .of_eq (fileChanged_withNotifier c m file)
  | watchFailed f =>
    exact hregistry (watchFailed_sameRegistry c f) (watchFailed_sameRegistry (c.withNotifier m) f)
  | pass d => exact .of_eq rfl
  | goOff e =>
    refine .of_eq (m := m) ?_
    unfold act
    dsimp only
    rw [show (c.withNotifier m).isTimed e = c.isTimed e from rfl]
    split
    · exact dispatch_withNotifier c m e
    · rfl
  | finish run report =>
    refine .of_eq (m := m) ?_
    unfold act
    dsimp only
    rw [show (c.withNotifier m).stage? run = c.stage? run from rfl]
    split
    · exact publish_withNotifier c m run report
    · rfl
  | breakOff run => exact .of_eq rfl
  | deliver run => exact .of_eq (deliver_withNotifier c m run)
  | wakeRetry => exact hregistry (act_wakeRetry c).1 (act_wakeRetry (c.withNotifier m)).1
  | retry => exact hregistry (retryStep_sameRegistry c) (retryStep_sameRegistry (c.withNotifier m))

/-! ## 3. Warnings -/

omit [Notifier M] in
/-- A failure of the notifier is told as a warning. -/
theorem warned_act {a : Action} (h : ∃ ev ∈ calls (c.act a).2, ev.isFailure = true) :
    ∃ text, Occurrence.event (.told ⟨.warning, text⟩) ∈ (c.act a).2 := by
  have hasked := asked_act c a
  generalize hcalled : calls (c.act a).2 = called at hasked h
  -- Only adding, starting and restarting can fail, and each tells of it itself.
  cases hasked with
  | nothing | added | removed | stopped => simp [Event.isFailure] at h
  | @addFailed x who hs hrunning =>
    have hevents := watch_calls who hs
    rw [calls_watch] at hcalled
    split at hevents
    · rcases hevents with hadded | ⟨notices, hfailed, -, text, htext⟩
      · rw [hadded] at hcalled
        exact absurd (List.cons.inj hcalled).1 (by simp)
      · have hmem : Event.told ⟨.warning, text⟩ ∈ (c.watch x who).2 := by
          rw [hfailed]
          exact List.mem_cons_of_mem _ htext
        exact ⟨text, List.mem_append_right _ (List.mem_map_of_mem hmem)⟩
    · rw [hevents] at hcalled
      simp at hcalled
  | started hstopped _ =>
    obtain ⟨tried, notices, ok, hevents, htried, htold, hwarned⟩ := start_calls hstopped
    have hsame : calls (c.start.2.map .event) = tried := by
      rw [calls_events, hevents, filter_isCall htried.isCall htold]
    obtain ⟨text, htext⟩ := htried.warned hwarned (hsame.symm.trans hcalled ▸ h)
    have hmem : Event.told ⟨.warning, text⟩ ∈ c.start.2 := by
      rw [hevents]
      exact List.mem_append_right _ htext
    exact ⟨text, List.mem_map_of_mem hmem⟩
  | @restarted attempt _ _ hretry _ =>
    obtain ⟨tried, notices, ok, hevents, htried, htold, -, hwarned⟩ := attemptRetry_calls c attempt
    have hstep : c.retryStep = c.attemptRetry attempt := by
      unfold retryStep
      rw [hretry]
    have hsame : calls (c.retryStep.2.map .event) = .stopped :: tried := by
      rw [calls_events, hstep, hevents, List.filter_cons_of_pos rfl, filter_isCall htried.isCall htold]
    obtain ⟨ev, hev, hfailure⟩ := h
    have htriedev : ev ∈ tried := by
      rw [← hcalled, show calls (c.act .retry).2 = .stopped :: tried from hsame] at hev
      refine (List.mem_cons.mp hev).resolve_left fun heq => ?_
      rw [heq] at hfailure
      exact Bool.false_ne_true hfailure
    obtain ⟨text, htext⟩ := htried.warned hwarned ⟨ev, htriedev, hfailure⟩
    have hmem : Event.told ⟨.warning, text⟩ ∈ c.retryStep.2 := by
      rw [hstep, hevents]
      exact List.mem_cons_of_mem _ (List.mem_append_right _ htext)
    exact ⟨text, List.mem_map_of_mem hmem⟩

end Grading.Watch.Coordinator
