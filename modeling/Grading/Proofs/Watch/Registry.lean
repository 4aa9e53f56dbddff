import Grading.Proofs.Watch.Ledger

/-!
# Registry — the sessions and tokens of a coordinator under its operations

Sessions are looked up by their exercise. Each operation is described by what it does to the session
and the token of every exercise; from that follows which entry it makes in the ledger.
-/

namespace Grading.Watch.Coordinator

open Grading.Files

variable {N : Type} {c d : Coordinator N} {s : Session} {exercise : String}

/-! ## 1. Looking sessions up -/

theorem exercise_of_session? (h : c.session? exercise = some s) : s.exercise = exercise := by
  simpa using List.find?_some h

/-- Setting a session replaces the one of its exercise and no other. -/
theorem session?_setSession (c : Coordinator N) (s : Session) (e : String) :
    (c.setSession s).session? e =
      if e = s.exercise then (c.session? e).map fun _ => s else c.session? e := by
  unfold session? setSession
  -- A session is replaced by one of the same exercise, so the search stops where it did.
  have hsame : (fun t : Session => decide (t.exercise = e)) ∘
      (fun t => if t.exercise = s.exercise then s else t) = fun t => decide (t.exercise = e) := by
    funext t
    show decide ((if t.exercise = s.exercise then s else t).exercise = e) = _
    split
    · next h => rw [h]
    · rfl
  show List.find? _ (c.sessions.map _) = _
  rw [List.find?_map, hsame]
  cases hfind : c.sessions.find? fun t => decide (t.exercise = e) with
  | none => simp
  | some t =>
    have ht : t.exercise = e := by simpa using List.find?_some hfind
    by_cases he : e = s.exercise <;> simp [ht, he]

@[simp] theorem token_setSession (c : Coordinator N) (s : Session) (e : String) :
    (c.setSession s).token e = c.token e := rfl

theorem watched_setSession (c : Coordinator N) (s : Session) :
    (c.setSession s).watched = c.watched := by
  unfold watched setSession
  rw [List.map_map]
  apply List.map_congr_left
  intro t _
  show (if t.exercise = s.exercise then s else t).exercise = t.exercise
  split
  · next h => exact h.symm
  · rfl

/-- Advancing a session raises the token of its exercise by one. -/
theorem token_advance (c : Coordinator N) (s : Session) (e : String) :
    (c.advance s).token e = if e = s.exercise then c.token e + 1 else c.token e := by
  unfold advance
  rw [token_setSession]
  show ((c.tokens.put s.exercise (c.token s.exercise + 1)).lookup e).getD 0 = _
  rw [Table.lookup_put]
  by_cases he : e = s.exercise
  · rw [if_pos (beq_iff_eq.mpr he), if_pos he, he]
    rfl
  · rw [if_neg (fun h => he (beq_iff_eq.mp h)), if_neg he]
    rfl

/-- The advanced session has its new token as the latest. -/
theorem session?_advance (c : Coordinator N) (s : Session) (e : String) :
    (c.advance s).session? e =
      if e = s.exercise then (c.session? e).map fun _ => { s with latest := c.token e + 1 }
      else c.session? e := by
  unfold advance
  rw [session?_setSession]
  by_cases he : e = s.exercise
  · rw [if_pos he, if_pos he, he]
    rfl
  · rw [if_neg he, if_neg he]
    rfl

theorem watched_advance (c : Coordinator N) (s : Session) : (c.advance s).watched = c.watched :=
  watched_setSession _ _

theorem session?_isSome (c : Coordinator N) (e : String) :
    (c.session? e).isSome ↔ e ∈ c.watched := by
  unfold session? watched
  rw [List.find?_isSome, List.mem_map]
  simp

theorem session?_concat (c : Coordinator N) (s : Session) (e : String) :
    { c with sessions := c.sessions ++ [s] }.session? e =
      (c.session? e).or (if e = s.exercise then some s else none) := by
  unfold session?
  rw [List.find?_append]
  congr 1
  by_cases he : e = s.exercise
  · rw [if_pos he, he, List.find?_cons_of_pos (by simp)]
  · rw [if_neg he, List.find?_cons_of_neg (by simpa using Ne.symm he), List.find?_nil]

theorem session?_filter (c : Coordinator N) (exercise e : String) :
    { c with sessions := c.sessions.filter (·.exercise ≠ exercise) }.session? e =
      if e = exercise then none else c.session? e := by
  unfold session?
  rw [List.find?_filter]
  by_cases he : e = exercise
  · rw [if_pos he, he, List.find?_eq_none]
    intro t _
    simp
  · rw [if_neg he]
    congr 1
    funext t
    by_cases ht : t.exercise = e
    · simp [ht, he]
    · simp [ht]

/-! ## 2. The ledger of a coordinator -/

def ledger (c : Coordinator N) : Ledger :=
  ⟨c.opened, c.token, fun e => (c.session? e).map Session.standing⟩

theorem ledger_standing (h : c.session? exercise = some s) :
    c.ledger.standing exercise = some s.standing := by
  show (c.session? exercise).map Session.standing = _
  rw [h]
  rfl

theorem ledger_setSession (h : c.session? exercise = some s) {t : Session}
    (hexercise : t.exercise = s.exercise) (hstanding : t.standing = s.standing) :
    (c.setSession t).ledger = c.ledger := by
  refine Ledger.ext rfl rfl (funext fun e => ?_)
  show ((c.setSession t).session? e).map Session.standing = (c.session? e).map Session.standing
  rw [session?_setSession, hexercise, exercise_of_session? h]
  by_cases he : e = exercise
  · rw [if_pos he, he, h]
    exact congrArg some hstanding
  · rw [if_neg he]

theorem ledger_advance (h : c.session? exercise = some s) {t : Session}
    (hexercise : t.exercise = s.exercise) (hserial : t.serial = s.serial)
    (hpublished : t.published = s.published) :
    (c.advance t).ledger = c.ledger.advance exercise := by
  refine Ledger.ext rfl (funext fun e => ?_) (funext fun e => ?_)
  · show (c.advance t).token e = Function.update c.token exercise (c.token exercise + 1) e
    rw [token_advance, hexercise, exercise_of_session? h, Function.update_apply]
    by_cases he : e = exercise
    · rw [if_pos he, if_pos he, he]
    · rw [if_neg he, if_neg he]
  · show ((c.advance t).session? e).map Session.standing = Function.update c.ledger.standing exercise
      ((c.ledger.standing exercise).map fun x => { x with latest := c.token exercise + 1 }) e
    rw [session?_advance, hexercise, exercise_of_session? h, Function.update_apply,
      ledger_standing h]
    by_cases he : e = exercise
    · rw [if_pos he, if_pos he, he, h]
      simp [Session.standing, hserial, hpublished]
    · rw [if_neg he, if_neg he]
      rfl

/-! ## 3. Timers and runs -/

theorem ledger_schedule (c : Coordinator N) (h : c.session? exercise = some s) :
    (c.schedule s).ledger = c.ledger := by
  unfold schedule
  exact ledger_setSession (c := { c with timersSet := c.timersSet + 1 }) h rfl rfl

theorem ledger_scheduleExercise (c : Coordinator N) (e : String) :
    (c.scheduleExercise e).ledger = c.ledger := by
  unfold scheduleExercise
  split
  · rfl
  · next s h => exact ledger_schedule c h

theorem ledger_foldl_scheduleExercise (c : Coordinator N) (exercises : List String) :
    (exercises.foldl scheduleExercise c).ledger = c.ledger := by
  induction exercises generalizing c with
  | nil => rfl
  | cons e es ih => rw [List.foldl_cons, ih, ledger_scheduleExercise]

theorem ledger_fileChanged (c : Coordinator N) (file : Path) :
    (c.fileChanged file).ledger = c.ledger := by
  unfold fileChanged
  split
  · rfl
  · exact ledger_foldl_scheduleExercise c _

/-- A dispatch for an open session takes its timer, marks it in progress and sends a run with the
next token. -/
theorem dispatch_some (c : Coordinator N) (h : c.session? exercise = some s) :
    c.dispatch exercise =
      ({ c.advance { s with timer := none, status := .inProgress } with
          flights := c.flights ++ [{ run := ⟨exercise, s.serial, c.token exercise + 1⟩ }] },
        some ⟨exercise, s.serial, c.token exercise + 1⟩) := by
  unfold dispatch
  rw [h]
  dsimp only
  rw [token_advance, if_pos (exercise_of_session? h).symm]
  rfl

theorem ledger_dispatch (c : Coordinator N) (h : c.session? exercise = some s) :
    (c.dispatch exercise).1.ledger = c.ledger.advance exercise := by
  rw [dispatch_some c h]
  exact ledger_advance (t := { s with timer := none, status := .inProgress }) h rfl rfl rfl

/-! ## 4. Publishing and telling -/

/-- A run is current while its session is the open one and its token is the latest. -/
theorem isCurrent_iff (c : Coordinator N) (run : Run) :
    c.isCurrent run ↔ ∃ s, c.session? run.exercise = some s ∧ s.serial = run.session ∧
      s.latest = run.token := by
  unfold isCurrent
  cases c.session? run.exercise with
  | none => simp
  | some s => simp

/-- A report is published exactly when its run is the latest of its session and its token is later
than the one published last; otherwise the run is over. -/
theorem publish_cases (c : Coordinator N) (run : Run) (report : Report) :
    c.publish run report = c.land run ∨
      ∃ s, c.session? run.exercise = some s ∧ s.serial = run.session ∧ s.latest = run.token ∧
        s.published < run.token ∧
        c.publish run report = (c.setSession { s with
          published := run.token, status := report.status
          lastReport := some report }).setStage run (.delivering report s.subscribers) := by
  unfold publish
  cases hs : c.session? run.exercise with
  | none => exact .inl rfl
  | some s =>
    dsimp only
    split
    · next h =>
      rw [Bool.and_eq_true, decide_eq_true_eq] at h
      -- The session that the run is current in is the one that was looked up.
      obtain ⟨t, ht, hserial, hlatest⟩ := (isCurrent_iff c run).mp h.1
      obtain rfl : s = t := Option.some.inj (hs.symm.trans ht)
      exact .inr ⟨s, rfl, hserial, hlatest, h.2, rfl⟩
    · exact .inl rfl

theorem ledger_publish (c : Coordinator N) {run : Run} (h : c.session? run.exercise = some s)
    (status : Status) (report : Option Report) :
    (c.setSession { s with published := run.token, status, lastReport := report }).ledger =
      c.ledger.publish run.exercise run.token := by
  have hs := exercise_of_session? h
  refine Ledger.ext rfl rfl (funext fun e => ?_)
  show ((c.setSession _).session? e).map Session.standing =
    Function.update c.ledger.standing run.exercise
      ((c.ledger.standing run.exercise).map fun x => { x with published := run.token }) e
  rw [session?_setSession, Function.update_apply, ledger_standing h]
  by_cases he : e = run.exercise
  · rw [if_pos he, if_pos (show e = s.exercise from he.trans hs.symm), he, h]
    rfl
  · rw [if_neg he, if_neg (show ¬ e = s.exercise from fun h' => he (h'.trans hs))]
    rfl

theorem ledger_setStage (c : Coordinator N) (run : Run) (stage : Stage) :
    (c.setStage run stage).ledger = c.ledger := rfl

/-- A subscriber is told only of the latest run of a session that is still there. -/
theorem deliver_cases (c : Coordinator N) (run : Run) :
    (∃ report who rest, c.stage? run = some (.delivering report (who :: rest)) ∧
      c.isCurrent run ∧
      c.deliver run = (c.setStage run (.delivering report rest), some (who, report))) ∨
    c.deliver run = (c.land run, none) ∨ c.deliver run = (c, none) := by
  unfold deliver
  split
  · next report who rest hstage =>
    split
    · next hcurrent => exact .inl ⟨report, who, rest, hstage, hcurrent, rfl⟩
    · exact .inr (.inl rfl)
  · exact .inr (.inl rfl)
  · exact .inr (.inr rfl)

/-! ## 5. Settling -/

/-- Settling sessions one after another gives each of them the next token of its exercise. -/
theorem ledger_foldl_settle (ss : List Session) (hnodup : (ss.map (·.exercise)).Nodup)
    (hss : ∀ s ∈ ss, c.session? s.exercise = some s) :
    (ss.foldl settle c).ledger = (ss.map (·.exercise)).foldl Ledger.advance c.ledger := by
  induction ss generalizing c with
  | nil => rfl
  | cons s ss ih =>
    obtain ⟨hs, hnodup⟩ := List.nodup_cons.mp hnodup
    have hfirst := hss s List.mem_cons_self
    rw [List.foldl_cons, List.map_cons, List.foldl_cons, ih hnodup fun t ht => ?_]
    · unfold settle
      rw [ledger_advance (t := { s with timer := none, status := _ }) hfirst rfl rfl rfl]
    -- The sessions that are left are of other exercises and were not touched.
    · unfold settle
      rw [session?_advance, if_neg, hss t (List.mem_cons_of_mem _ ht)]
      exact fun heq => hs (List.mem_map.mpr ⟨t, ht, heq⟩)

/-- An open session is found under its own exercise. -/
theorem session?_of_mem (h : c.watched.Nodup) (hs : s ∈ c.sessions) :
    c.session? s.exercise = some s := by
  unfold watched at h
  unfold session?
  -- A session of the same exercise before this one would make the exercise watched twice.
  obtain ⟨before, after, hsplit⟩ := List.append_of_mem hs
  rw [hsplit] at h ⊢
  rw [List.find?_append, List.find?_eq_none.mpr fun t ht => ?_, Option.none_or,
    List.find?_cons_of_pos (by simp)]
  rw [List.map_append, List.nodup_append] at h
  have hne := h.2.2 t.exercise (List.mem_map_of_mem ht) s.exercise
    (List.mem_map_of_mem List.mem_cons_self)
  simpa using hne

/-! ## 6. What the notifier cannot touch -/

structure SameRegistry (c d : Coordinator N) : Prop where
  sessions : d.sessions = c.sessions
  tokens : d.tokens = c.tokens
  opened : d.opened = c.opened
  files : d.files = c.files
  flights : d.flights = c.flights

theorem SameRegistry.rfl : SameRegistry c c := ⟨.refl _, .refl _, .refl _, .refl _, .refl _⟩

theorem SameRegistry.trans {b : Coordinator N} (h : SameRegistry b c) (h' : SameRegistry c d) :
    SameRegistry b d :=
  ⟨h'.sessions.trans h.sessions, h'.tokens.trans h.tokens, h'.opened.trans h.opened,
    h'.files.trans h.files, h'.flights.trans h.flights⟩

theorem SameRegistry.ledger_eq (h : SameRegistry c d) : d.ledger = c.ledger := by
  unfold ledger token session?
  rw [h.opened, h.tokens, h.sessions]

theorem SameRegistry.session?_eq (h : SameRegistry c d) (e : String) :
    d.session? e = c.session? e := by
  unfold session?
  rw [h.sessions]

theorem watchFailed_sameRegistry (c : Coordinator N) (f : WatchFailure) :
    SameRegistry c (c.watchFailed f).1 := by
  unfold watchFailed
  split <;> exact ⟨rfl, rfl, rfl, rfl, rfl⟩

theorem planRetry_sameRegistry (c : Coordinator N) (attempt : Nat) :
    SameRegistry c (c.planRetry attempt).1 := by
  unfold planRetry
  split
  · exact ⟨rfl, rfl, rfl, rfl, rfl⟩
  · dsimp only
    split
    · exact ⟨rfl, rfl, rfl, rfl, rfl⟩
    · split <;> exact ⟨rfl, rfl, rfl, rfl, rfl⟩

variable [Notifier N]

theorem startNotifier_sameRegistry (c : Coordinator N) : SameRegistry c c.startNotifier.1 := by
  unfold startNotifier
  dsimp only
  split <;> exact ⟨rfl, rfl, rfl, rfl, rfl⟩

theorem addFile_sameRegistry (c : Coordinator N) (p : Path) : SameRegistry c (c.addFile p).1 := by
  have hadded : SameRegistry c { c with notifier := (Notifier.add c.notifier p).after } :=
    ⟨rfl, rfl, rfl, rfl, rfl⟩
  unfold addFile
  dsimp only
  split
  · exact hadded
  · next f _ => exact hadded.trans (watchFailed_sameRegistry _ f)

theorem start_sameRegistry (c : Coordinator N) : SameRegistry c c.start.1 := by
  unfold start
  split
  · exact .rfl
  · have hstarted := startNotifier_sameRegistry { c with running := true }
    have hbegun : SameRegistry c { c with running := true } := ⟨rfl, rfl, rfl, rfl, rfl⟩
    dsimp only
    split
    · exact hbegun.trans hstarted
    · next f _ => exact (hbegun.trans hstarted).trans (watchFailed_sameRegistry _ f)

theorem retryStep_sameRegistry (c : Coordinator N) : SameRegistry c c.retryStep.1 := by
  unfold retryStep
  split
  · exact planRetry_sameRegistry c _
  · next attempt _ =>
    unfold attemptRetry
    have hstarted := startNotifier_sameRegistry { c with notifier := Notifier.stop c.notifier }
    have hstopped : SameRegistry c { c with notifier := Notifier.stop c.notifier } :=
      ⟨rfl, rfl, rfl, rfl, rfl⟩
    dsimp only
    split
    · exact (hstopped.trans hstarted).trans ⟨rfl, rfl, rfl, rfl, rfl⟩
    · exact (hstopped.trans hstarted).trans (planRetry_sameRegistry _ _)
  · exact .rfl

/-! ## 7. Opening and closing sessions -/

theorem watch_known (c : Coordinator N) (e : Exercise) (who : Subscriber)
    (h : c.session? e.id = some s) : c.watch e who = (c.setSession (s.subscribe who), []) := by
  unfold watch
  rw [h]

theorem subscribe_exercise (s : Session) (who : Subscriber) :
    (s.subscribe who).exercise = s.exercise := by
  unfold Session.subscribe
  split <;> rfl

theorem subscribe_standing (s : Session) (who : Subscriber) :
    (s.subscribe who).standing = s.standing := by
  unfold Session.subscribe
  split <;> rfl

def firstSession (c : Coordinator N) (e : Exercise) (who : Subscriber) : Session :=
  { serial := c.opened, exercise := e.id, file := e.file, subscribers := [who],
    latest := c.token e.id, published := c.token e.id }

/-- The first subscription opens a session; asking the notifier for its path changes nothing in
the registry. -/
theorem watch_new (c : Coordinator N) (e : Exercise) (who : Subscriber)
    (h : c.session? e.id = none) :
    SameRegistry
      { c with opened := c.opened + 1, sessions := c.sessions ++ [c.firstSession e who],
               files := c.files.put e.file (((c.files.lookup e.file).getD []) ++ [e.id]) }
      (c.watch e who).1 := by
  unfold watch
  rw [h]
  dsimp only
  split
  · exact addFile_sameRegistry _ e.file
  · exact .rfl

theorem session?_watch_new (c : Coordinator N) (e : Exercise) (who : Subscriber)
    (h : c.session? e.id = none) (x : String) :
    (c.watch e who).1.session? x =
      if x = e.id then some (c.firstSession e who) else c.session? x := by
  have hsessions := (watch_new c e who h).sessions
  have hfind := session?_concat c (c.firstSession e who) x
  unfold session? at hfind ⊢
  rw [hsessions, hfind]
  by_cases hx : x = e.id
  · rw [if_pos hx, if_pos (show x = (c.firstSession e who).exercise from hx), hx]
    show (c.session? e.id).or _ = _
    rw [h, Option.none_or]
  · rw [if_neg hx, if_neg (show ¬ x = (c.firstSession e who).exercise from hx), Option.or_none]

theorem ledger_watch_new (c : Coordinator N) (e : Exercise) (who : Subscriber)
    (h : c.session? e.id = none) : (c.watch e who).1.ledger = c.ledger.openSession e.id := by
  have hnew := watch_new c e who h
  refine Ledger.ext hnew.opened (funext fun x => ?_) (funext fun x => ?_)
  · show ((c.watch e who).1.tokens.lookup x).getD 0 = c.token x
    rw [hnew.tokens]
    rfl
  · show ((c.watch e who).1.session? x).map Session.standing =
      Function.update c.ledger.standing e.id (some ⟨c.opened, c.token e.id, c.token e.id⟩) x
    rw [session?_watch_new c e who h, Function.update_apply]
    by_cases hx : x = e.id
    · rw [if_pos hx, if_pos hx]
      rfl
    · rw [if_neg hx, if_neg hx]
      rfl

theorem unwatch_unknown (c : Coordinator N) (who : Option Subscriber)
    (h : c.session? exercise = none) : c.unwatch exercise who = (c, []) := by
  unfold unwatch
  rw [h]

theorem unwatch_some (c : Coordinator N) (who : Option Subscriber)
    (h : c.session? exercise = some s) (hrest : (s.unsubscribe who).subscribers ≠ []) :
    c.unwatch exercise who = (c.setSession (s.unsubscribe who), []) := by
  unfold unwatch
  rw [h]
  dsimp only
  rw [if_pos (by simpa using hrest)]

theorem unsubscribe_exercise (s : Session) (who : Option Subscriber) :
    (s.unsubscribe who).exercise = s.exercise := by
  cases who <;> rfl

theorem unsubscribe_standing (s : Session) (who : Option Subscriber) :
    (s.unsubscribe who).standing = s.standing := by
  cases who <;> rfl

/-- With the last subscription its session is gone, and so is every token given out for it. -/
theorem unwatch_last (c : Coordinator N) (who : Option Subscriber)
    (h : c.session? exercise = some s) (hrest : (s.unsubscribe who).subscribers = []) :
    ∃ files notifier, (c.unwatch exercise who).1 =
      { c.advance (s.unsubscribe who) with
        sessions := (c.advance (s.unsubscribe who)).sessions.filter (·.exercise ≠ exercise)
        files, notifier } := by
  unfold unwatch
  rw [h]
  dsimp only
  rw [if_neg (by simp [hrest])]
  split
  · exact ⟨_, _, rfl⟩
  · split <;> exact ⟨_, _, rfl⟩

/-- With the last subscriber the session is closed and no other changes. -/
theorem session?_unwatch_last (c : Coordinator N) (who : Option Subscriber)
    (h : c.session? exercise = some s) (hrest : (s.unsubscribe who).subscribers = [])
    (e : String) :
    (c.unwatch exercise who).1.session? e = if e = exercise then none else c.session? e := by
  obtain ⟨files, notifier, hd⟩ := unwatch_last c who h hrest
  rw [hd]
  show { c.advance (s.unsubscribe who) with
    sessions := (c.advance (s.unsubscribe who)).sessions.filter (·.exercise ≠ exercise) }.session?
      e = _
  rw [session?_filter, session?_advance, unsubscribe_exercise, exercise_of_session? h]
  by_cases he : e = exercise
  · rw [if_pos he, if_pos he]
  · rw [if_neg he, if_neg he, if_neg he]

/-- With the last subscriber the ledger closes the session and advances its token. -/
theorem ledger_unwatch_last (c : Coordinator N) (who : Option Subscriber)
    (h : c.session? exercise = some s) (hrest : (s.unsubscribe who).subscribers = []) :
    (c.unwatch exercise who).1.ledger = c.ledger.closeSession exercise := by
  obtain ⟨files, notifier, hd⟩ := unwatch_last c who h hrest
  refine Ledger.ext ?_ (funext fun e => ?_) (funext fun e => ?_)
  · show (c.unwatch exercise who).1.opened = c.opened
    rw [hd]
    rfl
  · show (c.unwatch exercise who).1.token e =
      Function.update c.token exercise (c.token exercise + 1) e
    rw [hd]
    show (c.advance (s.unsubscribe who)).token e = _
    rw [token_advance, unsubscribe_exercise, exercise_of_session? h, Function.update_apply]
    by_cases he : e = exercise
    · rw [if_pos he, if_pos he, he]
    · rw [if_neg he, if_neg he]
  · show ((c.unwatch exercise who).1.session? e).map Session.standing =
      Function.update c.ledger.standing exercise none e
    rw [session?_unwatch_last c who h hrest, Function.update_apply]
    by_cases he : e = exercise
    · rw [if_pos he, if_pos he]
      rfl
    · rw [if_neg he, if_neg he]
      rfl

/-! ## 8. Stopping -/

theorem ledger_stopDespite (c : Coordinator N) (stubborn : Run → Bool) (h : c.watched.Nodup) :
    ∃ exercises : List String,
      (c.stopDespite stubborn).1.ledger = exercises.foldl Ledger.advance c.ledger := by
  unfold stopDespite
  split
  · exact ⟨[], rfl⟩
  · exact ⟨_, ledger_foldl_settle c.sessions h fun s hs => session?_of_mem h hs⟩

end Grading.Watch.Coordinator
