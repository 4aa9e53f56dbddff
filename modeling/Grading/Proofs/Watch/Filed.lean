import Grading.Proofs.Watch.Turn

/-!
# Filed — the files of the sessions

A coordinator keeps for each watched file the exercises that are watched there. Under every action
these are the exercises whose sessions name the file, so the files that it knows are those of its
sessions.
-/

namespace Grading.Watch.Coordinator

open Grading.Files

variable {N : Type} [Notifier N] {c d : Coordinator N} {s : Session} {exercise : String}

/-! ## 1. What keeps the files -/

omit [Notifier N] in
/-- A session keeps its file from the moment it is opened until it is closed. -/
theorem Turn.file_eq {a : Action} {e : String} {x y : Option Session} (h : c.Turn e a x y)
    (hwatch : ∀ file who, a ≠ .watch ⟨e, file⟩ who) (hunwatch : ∀ who, a ≠ .unwatch e who) :
    y.map (·.file) = x.map (·.file) := by
  cases h with
  | opened | joined => exact absurd rfl (hwatch _ _)
  | left | closed => exact absurd rfl (hunwatch _)
  | _ => rfl

omit [Notifier N] in
theorem foldl_keep {α β : Type} {f : Coordinator N → α → Coordinator N} (kept : Coordinator N → β)
    (hf : ∀ c x, kept (f c x) = kept c) (xs : List α) (c : Coordinator N) :
    kept (xs.foldl f c) = kept c := by
  induction xs generalizing c with
  | nil => rfl
  | cons x xs ih => rw [List.foldl_cons, ih, hf]

omit [Notifier N] in
theorem files_scheduleExercise (c : Coordinator N) (e : String) :
    (c.scheduleExercise e).files = c.files := by
  unfold scheduleExercise
  split <;> rfl

/-- Only subscriptions change which files are watched. -/
theorem files_act {a : Action} (hwatch : ∀ e who, a ≠ .watch e who)
    (hunwatch : ∀ e who, a ≠ .unwatch e who) : (c.act a).1.files = c.files := by
  -- The index changes where a session is opened or closed.
  cases a with
  | watch e who => exact absurd rfl (hwatch e who)
  | unwatch e who => exact absurd rfl (hunwatch e who)
  | start => exact (start_sameRegistry c).files
  | stop stubborn =>
    show (c.stopDespite fun run => run ∈ stubborn).1.files = c.files
    unfold stopDespite
    split
    · rfl
    · exact foldl_keep (f := settle) (·.files) (fun _ _ => rfl) _ _
  | trigger e =>
    show ((c.trigger e).getD c).files = c.files
    unfold trigger
    cases c.session? e <;> rfl
  | fileChanged file =>
    show (c.fileChanged file).files = c.files
    unfold fileChanged
    split
    · rfl
    · exact foldl_keep (·.files) files_scheduleExercise _ c
  | watchFailed f => exact (watchFailed_sameRegistry c f).files
  | pass d => rfl
  | goOff e =>
    rcases act_goOff c e with hact | ⟨s, hs, hact⟩
    · rw [hact]
    · rw [hact, dispatch_some c hs]
      rfl
  | finish run report =>
    rcases act_finish c run report with hact | hact | ⟨_, _, _, _, _, hact⟩ <;> rw [hact] <;> rfl
  | breakOff run => rfl
  | deliver run =>
    rcases act_deliver c run with hact | hact | ⟨_, _, _, _, _, hact⟩ <;> rw [hact] <;> rfl
  | wakeRetry => exact (act_wakeRetry c).1.files
  | retry => exact (retryStep_sameRegistry c).files

/-! ## 2. Closing a session -/

omit [Notifier N] in
def othersAt (c : Coordinator N) (s : Session) : List String :=
  ((c.files.lookup s.file).getD []).filter (· ≠ s.exercise)

/-- With the last subscriber the session leaves the index of files, and its path goes with the
last session on it. -/
theorem unwatch_last_files (who : Option Subscriber) (h : c.session? exercise = some s)
    (hrest : (s.unsubscribe who).subscribers = []) :
    (c.unwatch exercise who).1.files =
        (if c.othersAt s = [] then c.files.erase s.file else c.files.put s.file (c.othersAt s)) ∧
      (c.unwatch exercise who).2 =
        if c.othersAt s = [] ∧ c.running = true then [.removed s.file] else [] := by
  have hfile : (s.unsubscribe who).file = s.file := by cases who <;> rfl
  have hothers : ((c.files.lookup s.file).getD []).filter (· ≠ exercise) = c.othersAt s := by
    rw [othersAt, exercise_of_session? h]
  unfold unwatch
  rw [h]
  dsimp only
  rw [if_neg (by simp [hrest]), hfile]
  rw [show (c.advance (s.unsubscribe who)).files = c.files from rfl, hothers,
    show (c.advance (s.unsubscribe who)).running = c.running from rfl]
  -- The path goes with the last session on it.
  cases hnone : c.othersAt s with
  | nil =>
    rw [if_neg (by simp), if_pos rfl]
    by_cases hrunning : c.running = true
    · rw [if_pos hrunning, if_pos ⟨rfl, hrunning⟩]
      exact ⟨rfl, rfl⟩
    · rw [if_neg hrunning, if_neg fun h => hrunning h.2]
      exact ⟨rfl, rfl⟩
  | cons x xs =>
    rw [if_pos (by simp), if_neg (List.cons_ne_nil x xs), if_neg fun h => nomatch h.1]
    exact ⟨rfl, rfl⟩

/-! ## 3. Files and sessions agree -/

namespace Filed

omit [Notifier N] in
theorem keep (h : c.Filed) (hfiles : d.files = c.files)
    (hsessions : ∀ e, (d.session? e).map (·.file) = (c.session? e).map (·.file)) : d.Filed := by
  refine ⟨?_, ?_, fun e file => ?_⟩
  · rw [hfiles]
    exact h.distinct
  · rw [hfiles]
    exact h.occupied
  · rw [hfiles, hsessions]
    exact h.mem_iff e file

theorem watch (h : c.Filed) (e : Exercise) (who : Subscriber) : (c.watch e who).1.Filed := by
  cases hs : c.session? e.id with
  | some s =>
    rw [watch_known c e who hs]
    obtain ⟨subscribers, hjoin⟩ := s.subscribe_eq who
    refine h.keep rfl fun x => ?_
    rw [hjoin, session?_replaced hs (by rfl)]
    by_cases hx : x = e.id
    · rw [if_pos hx, hx, hs]
      rfl
    · rw [if_neg hx]
  | none =>
    have hfiles := (watch_new c e who hs).files
    refine ⟨?_, fun file => ?_, fun x file => ?_⟩
    · rw [hfiles]
      exact Table.nodup_keys_put h.distinct _ _
    · rw [hfiles, Table.lookup_put]
      split
      · simp
      · exact h.occupied file
    -- The new exercise is at its file and at no other; the others are where they were.
    · rw [hfiles, Table.lookup_put, session?_watch_new c e who hs]
      have hold := h.mem_iff x file
      by_cases hfile : file = e.file
      · rw [if_pos (beq_iff_eq.mpr hfile), Option.getD_some, List.mem_append, List.mem_singleton,
          ← hfile, hold]
        by_cases hx : x = e.id
        · rw [if_pos hx]
          simp [hx, hfile, firstSession]
        · rw [if_neg hx]
          simp [hx]
      · rw [if_neg (by simpa using hfile), hold]
        by_cases hx : x = e.id
        · rw [if_pos hx, hx, hs]
          simp [firstSession, Ne.symm hfile]
        · rw [if_neg hx]

theorem unwatch (h : c.Filed) (exercise : String) (who : Option Subscriber) :
    (c.unwatch exercise who).1.Filed := by
  cases hs : c.session? exercise with
  | none =>
    rw [unwatch_unknown c who hs]
    exact h
  | some s =>
    by_cases hrest : (s.unsubscribe who).subscribers = []
    · have hfiles := (unwatch_last_files who hs hrest).1
      have hexercise := exercise_of_session? hs
      have hlookup : ∀ file, ((c.unwatch exercise who).1.files.lookup file).getD [] =
          if file = s.file then c.othersAt s else (c.files.lookup file).getD [] := by
        intro file
        rw [hfiles]
        by_cases hnone : c.othersAt s = []
        · rw [if_pos hnone, Table.lookup_erase, hnone]
          by_cases hfile : file = s.file <;> simp [hfile]
        · rw [if_neg hnone, Table.lookup_put]
          by_cases hfile : file = s.file <;> simp [hfile]
      refine ⟨?_, fun file => ?_, fun x file => ?_⟩
      · rw [hfiles]
        split
        · exact Table.nodup_keys_erase h.distinct _
        · exact Table.nodup_keys_put h.distinct _ _
      · rw [hfiles]
        split
        · rw [Table.lookup_erase]
          split
          · exact nofun
          · exact h.occupied file
        · next hsome =>
          rw [Table.lookup_put]
          split
          · simpa using hsome
          · exact h.occupied file
      -- The exercise is gone from its file, and was at no other.
      · rw [hlookup, session?_unwatch_last c who hs hrest]
        have hold := h.mem_iff x file
        by_cases hx : x = exercise
        · rw [if_pos hx]
          rw [hx, hs] at hold
          by_cases hfile : file = s.file
          · rw [if_pos hfile]
            simp [othersAt, hx, hexercise]
          · rw [if_neg hfile, hx, hold]
            simp [Ne.symm hfile]
        · rw [if_neg hx, ← hold]
          by_cases hfile : file = s.file
          · rw [if_pos hfile, hfile, othersAt, List.mem_filter, hexercise]
            simp [hx]
          · rw [if_neg hfile]
    · rw [unwatch_some c who hs hrest]
      refine h.keep rfl fun x => ?_
      rw [session?_replaced hs (unsubscribe_exercise s who)]
      by_cases hx : x = exercise
      · rw [if_pos hx, hx, hs]
        cases who <;> rfl
      · rw [if_neg hx]

/-- One action keeps the index of files in step with the sessions. -/
theorem act (h : c.Filed) (hdistinct : c.watched.Nodup) (a : Action) : (c.act a).1.Filed := by
  cases a with
  | watch e who => exact h.watch e who
  | unwatch e who => exact h.unwatch e who
  | _ =>
    exact h.keep (files_act nofun nofun) fun e =>
      (turn_act hdistinct h _ e).file_eq nofun nofun

omit [Notifier N] in
/-- The indexed paths are the paths of the open sessions. -/
theorem mem_keys (h : c.Filed) (hdistinct : c.watched.Nodup) (file : Path) :
    file ∈ c.files.map (·.1) ↔ ∃ s ∈ c.sessions, s.file = file := by
  rw [← Table.lookup_isSome]
  constructor
  · intro hsome
    obtain ⟨ids, hids⟩ := Option.isSome_iff_exists.mp hsome
    cases ids with
    -- A file is not kept for nobody.
    | nil => exact absurd hids (h.occupied file)
    | cons e es =>
      have hfile := (h.mem_iff e file).mp (by rw [hids]; exact List.mem_cons_self)
      obtain ⟨s, hs, hs'⟩ := Option.map_eq_some_iff.mp hfile
      exact ⟨s, List.mem_of_find?_eq_some hs, hs'⟩
  · rintro ⟨s, hs, hfile⟩
    have hmem := (h.mem_iff s.exercise file).mpr (by
      rw [session?_of_mem hdistinct hs]
      exact congrArg some hfile)
    cases hids : c.files.lookup file with
    | none => rw [hids] at hmem; exact nomatch hmem
    | some ids => rfl

end Filed

omit [Notifier N] in
theorem filed_new (notifier : N) (settings : WatchSettings) (backoff : Backoff) (chance : Chance) :
    (Coordinator.new notifier settings backoff chance).Filed :=
  ⟨List.nodup_nil, nofun, fun _ _ => ⟨nofun, nofun⟩⟩

end Grading.Watch.Coordinator
