import Grading.Proofs.Watch.Effect

/-!
# Turn — what one action does to one session

An action can do only a few things to the session of an exercise: open or close it, change who
subscribes, set its timer, dispatch a run, publish a report, or settle it when watching stops. Which
of them happens is decided by the action and by the state, so whatever is to be shown of a session
through a history is shown case by case of a turn.
-/

namespace Grading.Watch

open Grading.Files

def Session.stopped (s : Session) (token : Nat) : Session :=
  { s with timer := none
           status := if s.status = .inProgress then s.settled else s.status
           latest := token }

theorem Session.subscribe_eq (s : Session) (who : Subscriber) :
    ∃ subscribers, s.subscribe who = { s with subscribers } := by
  unfold subscribe
  split
  · exact ⟨s.subscribers, rfl⟩
  · exact ⟨_, rfl⟩

theorem Session.unsubscribe_eq (s : Session) (who : Option Subscriber) :
    ∃ subscribers, s.unsubscribe who = { s with subscribers } := by
  cases who <;> exact ⟨_, rfl⟩

def Action.duration : Action → Nat
  | .pass d => d
  | _ => 0

namespace Coordinator

variable {N : Type} {c d : Coordinator N} {s : Session} {exercise : String}

/-! ## 1. What no action changes -/

structure SameSetup (c d : Coordinator N) : Prop where
  settings : d.settings = c.settings
  backoff : d.backoff = c.backoff
  now : d.now = c.now

namespace SameSetup

theorem trans {b : Coordinator N} (h : SameSetup b c) (h' : SameSetup c d) : SameSetup b d :=
  ⟨h'.settings.trans h.settings, h'.backoff.trans h.backoff, h'.now.trans h.now⟩

theorem quiet_eq (h : SameSetup c d) : d.quiet = c.quiet := by
  unfold quiet
  rw [h.settings]

theorem foldl {α : Type} {f : Coordinator N → α → Coordinator N}
    (hf : ∀ c x, SameSetup c (f c x)) (xs : List α) (c : Coordinator N) :
    SameSetup c (xs.foldl f c) := by
  induction xs generalizing c with
  | nil => exact ⟨rfl, rfl, rfl⟩
  | cons x xs ih => exact (hf c x).trans (ih _)

end SameSetup

theorem watchFailed_sameSetup (c : Coordinator N) (f : WatchFailure) :
    SameSetup c (c.watchFailed f).1 := by
  unfold watchFailed
  split <;> exact ⟨rfl, rfl, rfl⟩

theorem scheduleExercise_sameSetup (c : Coordinator N) (e : String) :
    SameSetup c (c.scheduleExercise e) := by
  unfold scheduleExercise
  split <;> exact ⟨rfl, rfl, rfl⟩

theorem planRetry_sameSetup (c : Coordinator N) (attempt : Nat) :
    SameSetup c (c.planRetry attempt).1 := by
  unfold planRetry
  split
  · exact ⟨rfl, rfl, rfl⟩
  · dsimp only
    split
    · exact ⟨rfl, rfl, rfl⟩
    · split <;> exact ⟨rfl, rfl, rfl⟩

variable [Notifier N]

theorem startNotifier_sameSetup (c : Coordinator N) : SameSetup c c.startNotifier.1 := by
  unfold startNotifier
  dsimp only
  split <;> exact ⟨rfl, rfl, rfl⟩

theorem addFile_sameSetup (c : Coordinator N) (p : Path) : SameSetup c (c.addFile p).1 := by
  unfold addFile
  dsimp only
  split
  · exact ⟨rfl, rfl, rfl⟩
  · next f _ =>
    exact .trans (c := { c with notifier := (Notifier.add c.notifier p).after }) ⟨rfl, rfl, rfl⟩
      (watchFailed_sameSetup _ f)

theorem start_sameSetup (c : Coordinator N) : SameSetup c c.start.1 := by
  unfold start
  split
  · exact ⟨rfl, rfl, rfl⟩
  · have hstarted := startNotifier_sameSetup { c with running := true }
    have hbegun : SameSetup c { c with running := true } := ⟨rfl, rfl, rfl⟩
    dsimp only
    split
    · exact hbegun.trans hstarted
    · next f _ => exact (hbegun.trans hstarted).trans (watchFailed_sameSetup _ f)

theorem watch_sameSetup (c : Coordinator N) (e : Exercise) (who : Subscriber) :
    SameSetup c (c.watch e who).1 := by
  unfold watch
  split
  · exact ⟨rfl, rfl, rfl⟩
  · dsimp only
    split
    · refine .trans ?_ (addFile_sameSetup _ e.file)
      exact ⟨rfl, rfl, rfl⟩
    · exact ⟨rfl, rfl, rfl⟩

theorem unwatch_sameSetup (c : Coordinator N) (e : String) (who : Option Subscriber) :
    SameSetup c (c.unwatch e who).1 := by
  unfold unwatch
  split
  · exact ⟨rfl, rfl, rfl⟩
  · dsimp only
    split
    · exact ⟨rfl, rfl, rfl⟩
    · split
      · exact ⟨rfl, rfl, rfl⟩
      · split <;> exact ⟨rfl, rfl, rfl⟩

theorem stopDespite_sameSetup (c : Coordinator N) (stubborn : Run → Bool) :
    SameSetup c (c.stopDespite stubborn).1 := by
  unfold stopDespite
  split
  · exact ⟨rfl, rfl, rfl⟩
  · refine .trans ?_ (.foldl (f := settle) (fun _ _ => ⟨rfl, rfl, rfl⟩) c.sessions _)
    exact ⟨rfl, rfl, rfl⟩

theorem retryStep_sameSetup (c : Coordinator N) : SameSetup c c.retryStep.1 := by
  unfold retryStep
  split
  · exact planRetry_sameSetup c _
  · next attempt _ =>
    unfold attemptRetry
    have hstarted := startNotifier_sameSetup { c with notifier := Notifier.stop c.notifier }
    have hstopped : SameSetup c { c with notifier := Notifier.stop c.notifier } := ⟨rfl, rfl, rfl⟩
    dsimp only
    split
    · exact (hstopped.trans hstarted).trans ⟨rfl, rfl, rfl⟩
    · exact (hstopped.trans hstarted).trans (planRetry_sameSetup _ _)
  · exact ⟨rfl, rfl, rfl⟩

/-- No action changes the settings, and only the passing of time changes the clock. -/
theorem act_sameSetup (c : Coordinator N) (a : Action) :
    SameSetup { c with now := c.now + a.duration } (c.act a).1 := by
  cases a with
  | watch e who => exact watch_sameSetup c e who
  | unwatch e who => exact unwatch_sameSetup c e who
  | start => exact start_sameSetup c
  | stop stubborn => exact stopDespite_sameSetup c fun run => run ∈ stubborn
  | trigger e =>
    show SameSetup c ((c.trigger e).getD c)
    unfold trigger
    cases c.session? e <;> exact ⟨rfl, rfl, rfl⟩
  | fileChanged file =>
    show SameSetup c (c.fileChanged file)
    unfold fileChanged
    split
    · exact ⟨rfl, rfl, rfl⟩
    · exact .foldl scheduleExercise_sameSetup _ c
  | watchFailed f => exact watchFailed_sameSetup c f
  | pass d => exact ⟨rfl, rfl, rfl⟩
  | goOff e =>
    show SameSetup c (c.act (.goOff e)).1
    rcases act_goOff c e with hact | ⟨s, hs, hact⟩
    · rw [hact]
      exact ⟨rfl, rfl, rfl⟩
    · rw [hact, dispatch_some c hs]
      exact ⟨rfl, rfl, rfl⟩
  | finish run report =>
    show SameSetup c (c.act (.finish run report)).1
    rcases act_finish c run report with hact | hact | ⟨s, _, _, _, _, hact⟩ <;> rw [hact] <;>
      exact ⟨rfl, rfl, rfl⟩
  | breakOff run => exact ⟨rfl, rfl, rfl⟩
  | deliver run =>
    show SameSetup c (c.act (.deliver run)).1
    rcases act_deliver c run with hact | hact | ⟨_, _, _, _, _, hact⟩ <;> rw [hact] <;>
      exact ⟨rfl, rfl, rfl⟩
  | wakeRetry =>
    show SameSetup c (c.act .wakeRetry).1
    unfold act
    dsimp only
    split <;> exact ⟨rfl, rfl, rfl⟩
  | retry => exact retryStep_sameSetup c

theorem now_act (c : Coordinator N) (a : Action) : (c.act a).1.now = c.now + a.duration :=
  (act_sameSetup c a).now

theorem quiet_act (c : Coordinator N) (a : Action) : (c.act a).1.quiet = c.quiet :=
  (act_sameSetup c a).quiet_eq

/-! ## 2. Changes that are taken up -/

omit [Notifier N] in
/-- Whether an action is a change of an exercise that is taken up: it is triggered, or its file is
reported while the coordinator runs, unless the file is hidden and such files do not count. -/
def changes (c : Coordinator N) (e : String) : Action → Bool
  | .trigger x => x = e && (c.session? e).isSome
  | .fileChanged file =>
    c.running && !(c.settings.ignoreHidden && file.name.startsWith ".") &&
      (c.session? e).any (·.file = file)
  | _ => false

omit [Notifier N] in
structure Filed (c : Coordinator N) : Prop where
  distinct : (c.files.map (·.1)).Nodup
  occupied : ∀ file, c.files.lookup file ≠ some []
  mem_iff : ∀ e file, e ∈ (c.files.lookup file).getD [] ↔ (c.session? e).map (·.file) = some file

omit [Notifier N] in
theorem session?_replaced (hs : c.session? exercise = some s) {t : Session}
    (ht : t.exercise = s.exercise) (e : String) :
    (c.setSession t).session? e = if e = exercise then some t else c.session? e := by
  rw [session?_setSession, ht, exercise_of_session? hs]
  by_cases he : e = exercise
  · rw [if_pos he, if_pos he, he, hs]
    rfl
  · rw [if_neg he, if_neg he]

omit [Notifier N] in
theorem session?_advanced (hs : c.session? exercise = some s) {t : Session}
    (ht : t.exercise = s.exercise) (e : String) :
    (c.advance t).session? e =
      if e = exercise then some { t with latest := c.token exercise + 1 } else c.session? e := by
  have hexercise : t.exercise = exercise := ht.trans (exercise_of_session? hs)
  rw [session?_advance, hexercise]
  by_cases he : e = exercise
  · rw [if_pos he, if_pos he, he, hs]
    rfl
  · rw [if_neg he, if_neg he]

omit [Notifier N] in
theorem trigger_getD (c : Coordinator N) (e : String) :
    (c.trigger e).getD c = c.scheduleExercise e := by
  unfold trigger scheduleExercise
  cases c.session? e <;> rfl

omit [Notifier N] in
/-- Scheduling an exercise sets its timer anew and changes no other session. -/
theorem session?_scheduleExercise (c : Coordinator N) (x e : String) :
    (c.scheduleExercise x).session? e =
      if e = x then
        (c.session? e).map fun s => { s with timer := some ⟨c.now + c.quiet, c.timersSet⟩ }
      else c.session? e := by
  unfold scheduleExercise
  cases hs : c.session? x with
  | none =>
    dsimp only
    by_cases he : e = x
    · rw [if_pos he, he, hs]
      rfl
    · rw [if_neg he]
  | some s =>
    have hs' : session? { c with timersSet := c.timersSet + 1 } x = some s := hs
    show ({ c with timersSet := c.timersSet + 1 }.setSession _).session? e = _
    rw [session?_replaced hs' (by rfl)]
    by_cases he : e = x
    · rw [if_pos he, if_pos he, he, hs]
      rfl
    · rw [if_neg he, if_neg he]
      rfl

omit [Notifier N] in
/-- Exercises that are taken as changed one after another have their timers set anew. -/
theorem session?_foldl_scheduleExercise (xs : List String) (c : Coordinator N) (e : String) :
    (e ∉ xs ∧ (xs.foldl scheduleExercise c).session? e = c.session? e) ∨
      (e ∈ xs ∧ ∃ order, (xs.foldl scheduleExercise c).session? e =
        (c.session? e).map fun s => { s with timer := some ⟨c.now + c.quiet, order⟩ }) := by
  -- An exercise may be named more than once, so a later one may set the timer again.
  induction xs generalizing c with
  | nil => exact .inl ⟨List.not_mem_nil, rfl⟩
  | cons x xs ih =>
    have hfirst := session?_scheduleExercise c x e
    have hsetup := scheduleExercise_sameSetup c x
    rw [List.foldl_cons]
    rcases ih (c.scheduleExercise x) with ⟨hnot, hrest⟩ | ⟨hmem, order, hrest⟩
    · rw [hrest, hfirst]
      by_cases he : e = x
      · exact .inr ⟨he ▸ List.mem_cons_self, c.timersSet, by rw [if_pos he]⟩
      · exact .inl ⟨by simp [he, hnot], by rw [if_neg he]⟩
    -- The timer that was set last counts, at the moment at which they all are set.
    · refine .inr ⟨List.mem_cons_of_mem _ hmem, order, ?_⟩
      rw [hrest, hfirst, hsetup.now, hsetup.quiet_eq]
      by_cases he : e = x
      · rw [if_pos he, Option.map_map]
        rfl
      · rw [if_neg he]

omit [Notifier N] in
/-- Whether a change of a file is heeded: hidden files may not count, and nothing does before watching
starts or after it stops. -/
def heeds (c : Coordinator N) (file : Path) : Bool :=
  c.running && !(c.settings.ignoreHidden && file.name.startsWith ".")

omit [Notifier N] in
theorem not_heeds (c : Coordinator N) (file : Path) :
    (!c.heeds file) = (!c.running || (c.settings.ignoreHidden && file.name.startsWith ".")) := by
  rw [heeds, Bool.not_and, Bool.not_not]

omit [Notifier N] in
theorem fileChanged_of_not_heeds {file : Path} (h : c.heeds file = false) :
    c.fileChanged file = c := by
  unfold fileChanged
  rw [← not_heeds, h]
  rfl

omit [Notifier N] in
/-- A change of a file that is heeded sets the timers of the sessions of that file, and nothing else
of any session. -/
theorem session?_fileChanged (hfiled : c.Filed) {file : Path} (h : c.heeds file = true)
    (e : String) : ∃ order, (c.fileChanged file).session? e = (c.session? e).map fun s =>
      if s.file = file then { s with timer := some ⟨c.now + c.quiet, order⟩ } else s := by
  -- The index lists just the sessions on the path.
  have hmem : e ∈ ((c.files.lookup file).getD []).mergeSort (· ≤ ·) ↔
      (c.session? e).map (·.file) = some file := by
    rw [List.mem_mergeSort]
    exact hfiled.mem_iff e file
  unfold fileChanged
  rw [← not_heeds, h, if_neg (by simp)]
  rcases session?_foldl_scheduleExercise (((c.files.lookup file).getD []).mergeSort (· ≤ ·)) c e
    with ⟨hnot, hsame⟩ | ⟨hin, order, hset⟩
  · refine ⟨0, ?_⟩
    rw [hsame]
    rw [hmem] at hnot
    cases hs : c.session? e with
    | none => rfl
    | some s =>
      rw [hs] at hnot
      have hother : s.file ≠ file := fun hfile => hnot (congrArg some hfile)
      simp [hother]
  · refine ⟨order, ?_⟩
    rw [hset]
    rw [hmem] at hin
    cases hs : c.session? e with
    | none => rfl
    | some s =>
      rw [hs] at hin
      have hfile : s.file = file := Option.some.inj hin
      simp [hfile]

/-! ## 3. Settling -/

omit [Notifier N] in
theorem session?_foldl_settle (ss : List Session) (hnodup : (ss.map (·.exercise)).Nodup)
    (hss : ∀ s ∈ ss, c.session? s.exercise = some s) (e : String) :
    (ss.foldl settle c).session? e =
      if e ∈ ss.map (·.exercise) then (c.session? e).map fun s => s.stopped (c.token e + 1)
      else c.session? e := by
  induction ss generalizing c with
  | nil => rfl
  | cons s ss ih =>
    obtain ⟨hnot, hnodup⟩ := List.nodup_cons.mp hnodup
    have hfirst := hss s List.mem_cons_self
    have hsettle : ∀ x, (c.settle s).session? x =
        if x = s.exercise then (c.session? x).map fun _ => s.stopped (c.token x + 1)
        else c.session? x := fun x => session?_advance c _ x
    have htoken : ∀ x, (c.settle s).token x = if x = s.exercise then c.token x + 1 else c.token x :=
      fun x => token_advance c _ x
    rw [List.foldl_cons, ih hnodup, hsettle, htoken, List.map_cons]
    · by_cases he : e = s.exercise
      · rw [if_neg (by rw [he]; exact hnot), if_pos he, if_pos (he ▸ List.mem_cons_self), he, hfirst]
        rfl
      · rw [if_neg he, if_neg he]
        by_cases hmem : e ∈ ss.map (·.exercise)
        · rw [if_pos hmem, if_pos (List.mem_cons_of_mem _ hmem)]
        · rw [if_neg hmem, if_neg (by simp [he] at hmem ⊢; exact hmem)]
    -- The sessions that are left are of other exercises.
    · intro t ht
      rw [hsettle, if_neg, hss t (List.mem_cons_of_mem _ ht)]
      exact fun heq => hnot (List.mem_map.mpr ⟨t, ht, heq⟩)

/-- A stop settles every session, whatever runs will not be cancelled. -/
theorem session?_stopDespite (h : c.watched.Nodup) (hrunning : c.running = true)
    (stubborn : Run → Bool) (e : String) :
    (c.stopDespite stubborn).1.session? e =
      (c.session? e).map fun s => s.stopped (c.token e + 1) := by
  unfold stopDespite
  rw [if_neg (by simp [hrunning])]
  -- Settling starts from the state in which the runs are given up, with the sessions as they were.
  let given : Coordinator N :=
    { c with running := false, notifier := Notifier.stop c.notifier, retry := none,
             flights := c.flights.filter fun f => stubborn f.run }
  have hgiven : ∀ s ∈ c.sessions, given.session? s.exercise = some s :=
    fun s hs => session?_of_mem h hs
  refine (session?_foldl_settle (c := given) c.sessions h hgiven e).trans ?_
  by_cases he : e ∈ c.watched
  · exact if_pos he
  · have hnone : c.session? e = none := by
      rw [← Option.not_isSome_iff_eq_none, session?_isSome]
      exact he
    refine (if_neg he).trans ?_
    show c.session? e = _
    rw [hnone]
    rfl

/-! ## 4. Turns -/

omit [Notifier N] in
inductive Turn (c : Coordinator N) (e : String) : Action → Option Session → Option Session → Prop where
  | kept {a : Action} {x : Option Session} (hchange : c.changes e a = false)
      (htimer : a = .goOff e → c.isTimed e = false) : Turn c e a x x
  | opened {file : Path} {who : Subscriber} :
      Turn c e (.watch ⟨e, file⟩ who) none (some (c.firstSession ⟨e, file⟩ who))
  | joined {file : Path} {who : Subscriber} {s : Session} (subscribers : List Subscriber) :
      Turn c e (.watch ⟨e, file⟩ who) (some s) (some { s with subscribers })
  | left {who : Option Subscriber} {s : Session} (subscribers : List Subscriber) :
      Turn c e (.unwatch e who) (some s) (some { s with subscribers })
  | closed {who : Option Subscriber} {s : Session} : Turn c e (.unwatch e who) (some s) none
  | scheduled {a : Action} {s : Session} (order : Nat) (hchange : c.changes e a = true) :
      Turn c e a (some s) (some { s with timer := some ⟨c.now + c.quiet, order⟩ })
  | dispatched {s : Session} (htimer : c.isTimed e = true) :
      Turn c e (.goOff e) (some s)
        (some { s with timer := none, status := .inProgress, latest := c.token e + 1 })
  | published {s : Session} {run : Run} {report : Report} (hrun : run.exercise = e)
      (hstage : c.stage? run = some .running) (hserial : s.serial = run.session)
      (hlatest : s.latest = run.token) (hnew : s.published < run.token) :
      Turn c e (.finish run report) (some s)
        (some { s with published := run.token, status := report.status, lastReport := some report })
  | settled {s : Session} {stubborn : List Run} (hrunning : c.running = true) :
      Turn c e (.stop stubborn) (some s) (some (s.stopped (c.token e + 1)))

omit [Notifier N] in
theorem Turn.same {a : Action} {x y : Option Session} (hxy : y = x)
    (hchange : c.changes exercise a = false)
    (htimer : a = .goOff exercise → c.isTimed exercise = false) : Turn c exercise a x y :=
  hxy ▸ .kept hchange htimer

theorem act_finish_running (c : Coordinator N) (run : Run) (report : Report) :
    c.act (.finish run report) = (c, []) ∨ c.stage? run = some .running := by
  unfold act
  dsimp only
  split
  · next hstage => exact .inr hstage
  · exact .inl rfl

/-- Every action takes the session of every exercise through a turn. -/
theorem turn_act (hdistinct : c.watched.Nodup) (hfiled : c.Filed) (a : Action) (e : String) :
    Turn c e a (c.session? e) ((c.act a).1.session? e) := by
  -- Each action acts on the session of one exercise at most, or on all alike.
  cases a with
  | watch x who =>
    show Turn c e (.watch x who) (c.session? e) ((c.watch x who).1.session? e)
    obtain ⟨id, file⟩ := x
    cases hs : c.session? id with
    | some s =>
      obtain ⟨subscribers, hjoin⟩ := s.subscribe_eq who
      rw [watch_known c ⟨id, file⟩ who hs, hjoin, session?_replaced hs (by rfl)]
      by_cases he : e = id
      · rw [if_pos he, he, hs]
        exact .joined subscribers
      · rw [if_neg he]
        exact .kept rfl nofun
    | none =>
      rw [session?_watch_new c ⟨id, file⟩ who hs]
      by_cases he : e = id
      · rw [if_pos he, he, hs]
        exact .opened
      · rw [if_neg he]
        exact .kept rfl nofun
  | unwatch x who =>
    show Turn c e (.unwatch x who) (c.session? e) ((c.unwatch x who).1.session? e)
    cases hs : c.session? x with
    | none =>
      rw [unwatch_unknown c who hs]
      exact .kept rfl nofun
    | some s =>
      by_cases hrest : (s.unsubscribe who).subscribers = []
      · rw [session?_unwatch_last c who hs hrest]
        by_cases he : e = x
        · rw [if_pos he, he, hs]
          exact .closed
        · rw [if_neg he]
          exact .kept rfl nofun
      · obtain ⟨subscribers, hleave⟩ := s.unsubscribe_eq who
        rw [unwatch_some c who hs hrest, hleave, session?_replaced hs (by rfl)]
        by_cases he : e = x
        · rw [if_pos he, he, hs]
          exact .left subscribers
        · rw [if_neg he]
          exact .kept rfl nofun
  | start => exact .same ((start_sameRegistry c).session?_eq e) rfl nofun
  | stop stubborn =>
    show Turn c e (.stop stubborn) (c.session? e)
      ((c.stopDespite fun run => run ∈ stubborn).1.session? e)
    by_cases hrunning : c.running = true
    · rw [session?_stopDespite hdistinct hrunning]
      cases c.session? e with
      | none => exact .kept rfl nofun
      | some s => exact .settled hrunning
    · unfold stopDespite
      rw [if_pos (by simp [hrunning])]
      exact .kept rfl nofun
  | trigger x =>
    show Turn c e (.trigger x) (c.session? e) (((c.trigger x).getD c).session? e)
    rw [trigger_getD, session?_scheduleExercise]
    by_cases he : e = x
    · rw [if_pos he, he]
      cases hs : c.session? x with
      | none => exact .kept (by simp [changes, hs]) nofun
      | some s => exact .scheduled _ (by simp [changes, hs])
    · rw [if_neg he]
      exact .kept (by simp [changes, Ne.symm he]) nofun
  | fileChanged file =>
    show Turn c e (.fileChanged file) (c.session? e) ((c.fileChanged file).session? e)
    have hchange : c.changes e (.fileChanged file) =
        (c.heeds file && (c.session? e).any (·.file = file)) := rfl
    cases hheeds : c.heeds file with
    | false =>
      rw [fileChanged_of_not_heeds hheeds]
      exact .kept (by rw [hchange, hheeds]; rfl) nofun
    | true =>
      obtain ⟨order, hset⟩ := session?_fileChanged hfiled hheeds e
      rw [hset]
      rw [hheeds, Bool.true_and] at hchange
      cases hs : c.session? e with
      | none => exact .kept (by rw [hchange, hs]; rfl) nofun
      | some s =>
        rw [hs] at hchange
        by_cases hfile : s.file = file
        · rw [Option.map_some, if_pos hfile]
          exact .scheduled order (by simpa [hfile] using hchange)
        · rw [Option.map_some, if_neg hfile]
          exact .kept (by simpa [hfile] using hchange) nofun
  | watchFailed f => exact .same ((watchFailed_sameRegistry c f).session?_eq e) rfl nofun
  | pass d => exact .same rfl rfl nofun
  | goOff x =>
    by_cases htimed : c.isTimed x = true
    · obtain ⟨s, hs⟩ := exists_of_isTimed htimed
      rw [act_goOff_timed hs htimed, dispatch_some c hs]
      show Turn c e (.goOff x) (c.session? e) ((c.advance _).session? e)
      rw [session?_advanced hs (by rfl)]
      by_cases he : e = x
      · rw [if_pos he, he, hs]
        exact .dispatched htimed
      · rw [if_neg he]
        exact .kept rfl fun h => absurd (Action.goOff.inj h).symm he
    · refine .same (by rw [act_goOff_idle (by simpa using htimed)]) rfl fun h => ?_
      rw [← Action.goOff.inj h]
      simpa using htimed
  | finish run report =>
    rcases act_finish_running c run report with hact | hstage
    · exact .same (by rw [hact]) rfl nofun
    rcases act_finish c run report with hact | hact | ⟨s, hs, hserial, hlatest, hnew, hact⟩
    · exact .same (by rw [hact]) rfl nofun
    · exact .same (by rw [hact]; rfl) rfl nofun
    · rw [hact]
      show Turn c e (.finish run report) (c.session? e) ((c.setSession _).session? e)
      rw [session?_replaced hs (by rfl)]
      by_cases he : e = run.exercise
      · rw [if_pos he, he, hs]
        exact .published rfl hstage hserial hlatest hnew
      · rw [if_neg he]
        exact .kept rfl nofun
  | breakOff run => exact .same rfl rfl nofun
  | deliver run =>
    refine .same ?_ rfl nofun
    rcases act_deliver c run with hact | hact | ⟨_, _, _, _, _, hact⟩ <;> rw [hact] <;> rfl
  | wakeRetry => exact .same ((act_wakeRetry c).1.session?_eq e) rfl nofun
  | retry => exact .same ((retryStep_sameRegistry c).session?_eq e) rfl nofun

/-! ## 5. What is seen -/

def ComesFrom (c : Coordinator N) (a : Action) : Occurrence → Prop
  | .opened e _ => ∃ file who, a = .watch ⟨e, file⟩ who
  | .closed e _ => ∃ who, a = .unwatch e who
  | .dispatched run => a = .goOff run.exercise ∧ c.isTimed run.exercise = true
  | .published run report => a = .finish run report ∧
      ∃ s, c.session? run.exercise = some s ∧ s.serial = run.session ∧ s.latest = run.token
  | .told run _ _ => a = .deliver run ∧ c.isCurrent run = true
  | .event _ => True

/-- Every occurrence comes from an action of its own kind. -/
theorem comesFrom_act {a : Action} {o : Occurrence} (h : o ∈ (c.act a).2) : c.ComesFrom a o := by
  -- What is asked of the notifier may come from any action.
  have hevents : ∀ {events : List Event}, o ∈ events.map Occurrence.event → c.ComesFrom a o := by
    intro events ho
    obtain ⟨ev, _, rfl⟩ := List.mem_map.mp ho
    trivial
  cases a with
  | watch e who =>
    refine (List.mem_append.mp h).elim (fun hopened => ?_) hevents
    unfold openedSession at hopened
    split at hopened
    · rw [List.mem_singleton.mp hopened]
      exact ⟨e.file, who, rfl⟩
    · exact nomatch hopened
  | unwatch e who =>
    refine (List.mem_append.mp h).elim (fun hclosed => ?_) hevents
    unfold closedSession at hclosed
    split at hclosed
    · rw [List.mem_singleton.mp hclosed]
      exact ⟨who, rfl⟩
    · exact nomatch hclosed
  | start => exact hevents h
  | stop stubborn => exact hevents h
  | watchFailed f => exact hevents h
  | retry => exact hevents h
  | goOff e =>
    by_cases htimed : c.isTimed e = true
    · rcases act_goOff c e with hact | ⟨s, _, hact⟩ <;> rw [hact] at h
      · exact nomatch h
      · rw [List.mem_singleton.mp h]
        exact ⟨rfl, htimed⟩
    · rw [act_goOff_idle (by simpa using htimed)] at h
      exact nomatch h
  | finish run report =>
    rcases act_finish c run report with hact | hact | ⟨s, hs, hserial, hlatest, _, hact⟩ <;>
      rw [hact] at h
    · exact nomatch h
    · exact nomatch h
    · rw [List.mem_singleton.mp h]
      exact ⟨rfl, s, hs, hserial, hlatest⟩
  | deliver run =>
    rcases act_deliver c run with hact | hact | ⟨report, who, rest, _, hcurrent, hact⟩ <;>
      rw [hact] at h
    · exact nomatch h
    · exact nomatch h
    · rw [List.mem_singleton.mp h]
      exact ⟨rfl, hcurrent⟩
  | wakeRetry =>
    rw [(act_wakeRetry c).2] at h
    exact nomatch h
  | _ => exact nomatch h

end Coordinator

end Grading.Watch
