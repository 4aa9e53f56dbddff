import Grading.Proofs.Watch.Consistent

/-!
# Calls — what is asked of the notifier

A coordinator starts its notifier by adding the watched files to it one after another, up to the
first that cannot be watched. Besides, it adds a file when the first exercise there is watched and
removes it with the last one, while it runs. Every other event is only told.
-/

namespace Grading.Watch

open Grading.Files

def Event.isCall : Event → Bool
  | .told _ | .retryReady => false
  | _ => true

def Event.isFailure : Event → Bool
  | .addFailed _ | .startFailed => true
  | _ => false

def Warned (events : List Event) : Prop := ∃ text, Event.told ⟨.warning, text⟩ ∈ events

/-- The operations of the notifier in a log. -/
def calls (log : List Occurrence) : List Event :=
  log.filterMap fun
    | .event ev => if ev.isCall then some ev else none
    | _ => none

theorem calls_append (log more : List Occurrence) : calls (log ++ more) = calls log ++ calls more :=
  List.filterMap_append

theorem calls_events (events : List Event) :
    calls (events.map .event) = events.filter Event.isCall := by
  unfold calls
  rw [List.filterMap_map, ← List.filterMap_eq_filter]
  rfl

theorem filter_isCall {called told : List Event} (hcalled : ∀ ev ∈ called, ev.isCall = true)
    (htold : ∀ ev ∈ told, ev.isCall = false) : (called ++ told).filter Event.isCall = called := by
  rw [List.filter_append, List.filter_eq_self.mpr hcalled,
    List.filter_eq_nil_iff.mpr fun ev hev => by simp [htold ev hev], List.append_nil]

/-- The events of starting a notifier on some files, and whether it succeeds: the files are added up
to the first that cannot be watched, then it is started. -/
inductive Tried (files : List Path) : List Event → Bool → Prop where
  | started : Tried files (files.map .added ++ [.started]) true
  | startFailed : Tried files (files.map .added ++ [.startFailed]) false
  | addFailed {before after : List Path} {file : Path} (h : files = before ++ file :: after) :
      Tried files (before.map .added ++ [.addFailed file]) false

theorem Tried.mem_of_added {files : List Path} {events : List Event} {ok : Bool}
    (h : Tried files events ok) {file : Path} (hfile : Event.added file ∈ events) : file ∈ files := by
  cases h with
  | started => simpa using hfile
  | startFailed => simpa using hfile
  | @addFailed before after failed hsplit =>
    have hbefore : file ∈ before := by simpa using hfile
    rw [hsplit]
    exact List.mem_append_left _ hbefore

theorem Tried.ok_iff {files : List Path} {events : List Event} {ok : Bool}
    (h : Tried files events ok) : ok = true ↔ ∀ ev ∈ events, ev.isFailure = false := by
  cases h with
  | started => simp [or_imp, forall_and, Event.isFailure]
  | startFailed => simp [or_imp, forall_and, Event.isFailure]
  | addFailed => simp [or_imp, forall_and, Event.isFailure]

theorem Tried.isCall {files : List Path} {events : List Event} {ok : Bool}
    (h : Tried files events ok) : ∀ ev ∈ events, ev.isCall = true := by
  intro ev hev
  cases h <;> simp at hev <;> rcases hev with ⟨_, _, rfl⟩ | rfl <;> rfl

theorem Tried.not_stopped {files : List Path} {events : List Event} {ok : Bool}
    (h : Tried files events ok) : Event.stopped ∉ events := by
  cases h <;> simp

theorem Tried.not_removed {files : List Path} {events : List Event} {ok : Bool}
    (h : Tried files events ok) (file : Path) : Event.removed file ∉ events := by
  cases h <;> simp

/-- Where an attempt failed a warning is written. -/
theorem Tried.warned {files : List Path} {called notices : List Event} {ok : Bool}
    (h : Tried files called ok) (hwarned : ok = false → Warned notices)
    (hfails : ∃ ev ∈ called, ev.isFailure = true) : Warned notices := by
  obtain ⟨ev, hev, hfailure⟩ := hfails
  refine hwarned (Bool.eq_false_iff.mpr fun hok => ?_)
  rw [h.ok_iff.mp hok ev hev] at hfailure
  exact nomatch hfailure

/-- Where no addition failed every file was added. -/
theorem Tried.added {files : List Path} {events : List Event} {ok : Bool} (h : Tried files events ok)
    (hnone : ∀ file, Event.addFailed file ∉ events) {file : Path} (hfile : file ∈ files) :
    Event.added file ∈ events := by
  cases h with
  | started => exact List.mem_append_left _ (List.mem_map_of_mem hfile)
  | startFailed => exact List.mem_append_left _ (List.mem_map_of_mem hfile)
  | @addFailed before after failed hsplit => exact absurd (by simp) (hnone failed)

namespace Coordinator

variable {N : Type} [Notifier N] {c : Coordinator N} {s : Session} {e : String}
  {log : List Occurrence}

/-! ## 1. Starting the notifier -/

/-- The files are added in order up to the first that fails. -/
theorem addAll_cases (n : N) (files : List Path) :
    ((addAll n files).1.failure = none ∧ (addAll n files).2 = files.map .added) ∨
      ∃ before file after, files = before ++ file :: after ∧ (addAll n files).1.failure ≠ none ∧
        (addAll n files).2 = before.map .added ++ [.addFailed file] := by
  -- The notifier that a file was added to is the one that the rest is added to.
  induction files generalizing n with
  | nil => exact .inl ⟨rfl, rfl⟩
  | cons p ps ih =>
    unfold addAll
    dsimp only
    split
    · next f hf => exact .inr ⟨[], p, ps, rfl, by simp [hf], rfl⟩
    · rcases ih (Notifier.add n p).after with ⟨hfailure, hevents⟩ |
        ⟨before, file, after, hsplit, hfailure, hevents⟩
      · exact .inl ⟨hfailure, congrArg (.added p :: ·) hevents⟩
      · exact .inr ⟨p :: before, file, after, congrArg (p :: ·) hsplit, hfailure,
          congrArg (.added p :: ·) hevents⟩

/-- A start of the notifier tries the files of the coordinator. -/
theorem startNotifier_tried (c : Coordinator N) :
    Tried (c.files.map (·.1)) c.startNotifier.2.2 c.startNotifier.2.1.isNone := by
  unfold startNotifier
  dsimp only
  rcases addAll_cases c.notifier (c.files.map (·.1)) with ⟨hfailure, hevents⟩ |
    ⟨before, file, after, hsplit, hfailure, hevents⟩
  · rw [hfailure]
    dsimp only
    rw [hevents]
    cases (Notifier.start (addAll c.notifier (c.files.map (·.1))).1.after).failure with
    | none => exact .started
    | some f => exact .startFailed
  · obtain ⟨f, hf⟩ := Option.ne_none_iff_exists'.mp hfailure
    rw [hf]
    dsimp only
    rw [hevents]
    exact .addFailed hsplit

omit [Notifier N] in
theorem watchFailed_not_call {f : WatchFailure} {ev : Event} (h : ev ∈ (c.watchFailed f).2) :
    ev.isCall = false := by
  unfold watchFailed at h
  split at h <;> simp at h
  · rcases h with rfl | rfl <;> rfl
  · rw [h]
    rfl

omit [Notifier N] in
theorem watchFailed_warned (c : Coordinator N) (f : WatchFailure) : Warned (c.watchFailed f).2 := by
  unfold watchFailed
  split <;> exact ⟨_, List.mem_cons_self⟩

omit [Notifier N] in
theorem planRetry_not_call {attempt : Nat} {ev : Event} (h : ev ∈ (c.planRetry attempt).2) :
    ev.isCall = false := by
  unfold planRetry at h
  split at h
  · rw [List.mem_singleton.mp h]
    rfl
  · dsimp only at h
    split at h
    · exact nomatch h
    · split at h
      · exact nomatch h
      · rw [List.mem_singleton.mp h]
        rfl

theorem start_cases (h : c.running = false) :
    let d := ({ c with running := true } : Coordinator N).startNotifier
    (d.2.1 = none ∧ c.start = (d.1, d.2.2)) ∨
      ∃ f, d.2.1 = some f ∧
        c.start = ((d.1.watchFailed f).1, d.2.2 ++ (d.1.watchFailed f).2) := by
  intro d
  unfold start
  rw [if_neg (by simp [h]), show startNotifier { c with running := true } = d from rfl]
  clear_value d
  obtain ⟨started, failure, events⟩ := d
  cases failure with
  | none => exact .inl ⟨rfl, rfl⟩
  | some f => exact .inr ⟨f, rfl, rfl⟩

theorem attemptRetry_cases (c : Coordinator N) (attempt : Nat) :
    let d := ({ c with notifier := Notifier.stop c.notifier } : Coordinator N).startNotifier
    (d.2.1 = none ∧ c.attemptRetry attempt = ({ d.1 with retry := none }, .stopped :: d.2.2)) ∨
      d.2.1 ≠ none ∧ ∃ text, c.attemptRetry attempt = ((d.1.planRetry (attempt + 1)).1,
        .stopped :: (d.2.2 ++ .told ⟨.warning, text⟩ :: (d.1.planRetry (attempt + 1)).2)) := by
  intro d
  cases hf : d.2.1 with
  | none =>
    refine .inl ⟨rfl, ?_⟩
    unfold attemptRetry
    dsimp only
    rw [show startNotifier { c with notifier := Notifier.stop c.notifier } = d from rfl, hf]
  | some f =>
    refine .inr ⟨nofun, "Re-establishing watch failed (attempt " ++ Nat.repr (attempt + 1) ++ "/" ++
      Data.intText d.1.backoff.maxAttempts ++ "): " ++ f.text, ?_⟩
    unfold attemptRetry
    dsimp only
    rw [show startNotifier { c with notifier := Notifier.stop c.notifier } = d from rfl, hf]
    rfl

/-- Starting to watch starts the notifier on all files; what follows is only told, a warning if it
fails. -/
theorem start_calls (h : c.running = false) : ∃ called notices ok,
    c.start.2 = called ++ notices ∧ Tried (c.files.map (·.1)) called ok ∧
      (∀ ev ∈ notices, ev.isCall = false) ∧ (ok = false → Warned notices) := by
  have htried := startNotifier_tried { c with running := true }
  rcases start_cases h with ⟨hok, hstart⟩ | ⟨f, hfailure, hstart⟩
  · rw [hok] at htried
    exact ⟨_, [], _, by rw [hstart, List.append_nil], htried, nofun, nofun⟩
  · exact ⟨_, _, _, by rw [hstart], htried, fun ev hev => watchFailed_not_call hev,
      fun _ => watchFailed_warned _ _⟩

/-- An attempt to restart the notifier stops it and starts it on all files; what follows is only
told, a warning if it fails. -/
theorem attemptRetry_calls (c : Coordinator N) (attempt : Nat) : ∃ called notices ok,
    (c.attemptRetry attempt).2 = .stopped :: (called ++ notices) ∧
      Tried (c.files.map (·.1)) called ok ∧ (∀ ev ∈ notices, ev.isCall = false) ∧
        (ok = true → (c.attemptRetry attempt).1.retry = none) ∧ (ok = false → Warned notices) := by
  have htried := startNotifier_tried { c with notifier := Notifier.stop c.notifier }
  rcases attemptRetry_cases c attempt with ⟨hok, hretry⟩ | ⟨hfailure, text, hretry⟩
  · rw [hok] at htried
    exact ⟨_, [], _, by rw [hretry, List.append_nil], htried, nofun, fun _ => by rw [hretry], nofun⟩
  · refine ⟨_, _, _, by rw [hretry], htried, fun ev hev => ?_, fun hok => ?_,
      fun _ => ⟨text, List.mem_cons_self⟩⟩
    · rcases List.mem_cons.mp hev with rfl | hplanned
      · rfl
      · exact planRetry_not_call hplanned
    · exact absurd (Option.isNone_iff_eq_none.mp hok) hfailure

/-! ## 2. Subscriptions -/

/-- A new session adds its file to the notifier, if it is the first there while the coordinator
runs. -/
theorem watch_calls {x : Exercise} (who : Subscriber) (hs : c.session? x.id = none) :
    if c.running = true ∧ (c.files.lookup x.file).getD [] = [] then
      (c.watch x who).2 = [.added x.file] ∨ ∃ notices,
        (c.watch x who).2 = .addFailed x.file :: notices ∧
          (∀ ev ∈ notices, ev.isCall = false) ∧ Warned notices
    else (c.watch x who).2 = [] := by
  unfold watch
  rw [hs]
  dsimp only
  by_cases hfirst : c.running = true ∧ (c.files.lookup x.file).getD [] = []
  · rw [if_pos hfirst, if_pos (by simp [hfirst.1, hfirst.2])]
    unfold addFile
    dsimp only
    split
    · exact .inl rfl
    · exact .inr ⟨_, rfl, fun ev hev => watchFailed_not_call hev, watchFailed_warned _ _⟩
  · rw [if_neg hfirst, if_neg (by simpa using hfirst)]

/-! ## 3. Actions -/

omit [Notifier N] in
theorem calls_openedSession {d : Coordinator N} : calls (openedSession c d e) = [] := by
  unfold openedSession
  split <;> rfl

omit [Notifier N] in
theorem calls_closedSession {d : Coordinator N} : calls (closedSession c d e) = [] := by
  unfold closedSession
  split <;> rfl

theorem calls_watch (c : Coordinator N) (x : Exercise) (who : Subscriber) :
    calls (c.act (.watch x who)).2 = (c.watch x who).2.filter Event.isCall := by
  show calls (openedSession c _ x.id ++ (c.watch x who).2.map .event) = _
  rw [calls_append, calls_openedSession, List.nil_append, calls_events]

theorem calls_unwatch (c : Coordinator N) (e : String) (who : Option Subscriber) :
    calls (c.act (.unwatch e who)).2 = (c.unwatch e who).2.filter Event.isCall := by
  show calls (closedSession c _ e ++ (c.unwatch e who).2.map .event) = _
  rw [calls_append, calls_closedSession, List.nil_append, calls_events]

omit [Notifier N] in
inductive Asked (c : Coordinator N) : Action → List Event → Prop where
  | nothing {a : Action}
      (hwatch : ∀ x who, a = .watch x who → c.session? x.id = none → c.running = true →
        (c.files.lookup x.file).getD [] ≠ [])
      (hunwatch : ∀ e who s, a = .unwatch e who → c.session? e = some s →
        (s.unsubscribe who).subscribers = [] → c.running = true → c.othersAt s ≠ [])
      (hstart : a = .start → c.running = true) : Asked c a []
  | added {x : Exercise} {who : Subscriber} (hs : c.session? x.id = none)
      (hrunning : c.running = true) : Asked c (.watch x who) [.added x.file]
  | addFailed {x : Exercise} {who : Subscriber} (hs : c.session? x.id = none)
      (hrunning : c.running = true) : Asked c (.watch x who) [.addFailed x.file]
  | removed {e : String} {who : Option Subscriber} {s : Session} (hs : c.session? e = some s)
      (hlast : (s.unsubscribe who).subscribers = []) (hothers : c.othersAt s = [])
      (hrunning : c.running = true) : Asked c (.unwatch e who) [.removed s.file]
  | started {called : List Event} {ok : Bool} (hrunning : c.running = false)
      (htried : Tried (c.files.map (·.1)) called ok) : Asked c .start called
  | stopped {stubborn : List Run} (hrunning : c.running = true) :
      Asked c (.stop stubborn) [.stopped]
  | restarted {attempt : Nat} {called : List Event} {ok : Bool}
      (hretry : c.retry = some ⟨attempt, .due⟩) (htried : Tried (c.files.map (·.1)) called ok) :
      Asked c .retry (.stopped :: called)

omit [Notifier N] in
theorem Asked.other {a : Action} (hwatch : ∀ x who, a ≠ .watch x who)
    (hunwatch : ∀ e who, a ≠ .unwatch e who) (hstart : a ≠ .start) : c.Asked a [] :=
  .nothing (fun x who ha => absurd ha (hwatch x who)) (fun e who _ ha => absurd ha (hunwatch e who))
    fun ha => absurd ha hstart

theorem asked_watch (c : Coordinator N) (x : Exercise) (who : Subscriber) :
    c.Asked (.watch x who) (calls (c.act (.watch x who)).2) := by
  rw [calls_watch]
  cases hs : c.session? x.id with
  | some s =>
    rw [watch_known c x who hs]
    refine .nothing ?_ (fun _ _ _ ha => nomatch ha) nofun
    rintro y w ⟨⟩ hnone
    exact nomatch hs.symm.trans hnone
  | none =>
    have hcalls := watch_calls who hs
    by_cases hfirst : c.running = true ∧ (c.files.lookup x.file).getD [] = []
    · rw [if_pos hfirst] at hcalls
      rcases hcalls with hadded | ⟨notices, hfailed, htold, -⟩
      · rw [hadded]
        exact .added hs hfirst.1
      · rw [hfailed, List.filter_cons_of_pos rfl,
          List.filter_eq_nil_iff.mpr fun ev hev => by simp [htold ev hev]]
        exact .addFailed hs hfirst.1
    · rw [if_neg hfirst] at hcalls
      rw [hcalls]
      refine .nothing ?_ (fun _ _ _ ha => nomatch ha) nofun
      rintro y w ⟨⟩ - hrunning hnone
      exact hfirst ⟨hrunning, hnone⟩

theorem asked_unwatch (c : Coordinator N) (e : String) (who : Option Subscriber) :
    c.Asked (.unwatch e who) (calls (c.act (.unwatch e who)).2) := by
  rw [calls_unwatch]
  cases hs : c.session? e with
  | none =>
    rw [unwatch_unknown c who hs]
    refine .nothing (fun _ _ ha => nomatch ha) ?_ nofun
    rintro x w s ⟨⟩ hsome
    exact nomatch hs.symm.trans hsome
  | some s =>
    by_cases hlast : (s.unsubscribe who).subscribers = []
    · rw [(unwatch_last_files who hs hlast).2]
      by_cases hremoved : c.othersAt s = [] ∧ c.running = true
      · rw [if_pos hremoved]
        exact .removed hs hlast hremoved.1 hremoved.2
      · rw [if_neg hremoved]
        refine .nothing (fun _ _ ha => nomatch ha) ?_ nofun
        rintro x w t ⟨⟩ hsome - hrunning hothers
        obtain rfl := Option.some.inj (hs.symm.trans hsome)
        exact hremoved ⟨hothers, hrunning⟩
    · rw [unwatch_some c who hs hlast]
      refine .nothing (fun _ _ ha => nomatch ha) ?_ nofun
      rintro x w t ⟨⟩ hsome hlast' -
      obtain rfl := Option.some.inj (hs.symm.trans hsome)
      exact absurd hlast' hlast

theorem asked_retry (c : Coordinator N) : c.Asked .retry (calls (c.retryStep.2.map .event)) := by
  rw [calls_events]
  unfold retryStep
  split
  · rw [List.filter_eq_nil_iff.mpr fun ev hev => by simp [planRetry_not_call hev]]
    exact .other nofun nofun nofun
  · next attempt hretry =>
    obtain ⟨called, notices, ok, hevents, htried, htold, -⟩ := attemptRetry_calls c attempt
    rw [hevents, ← List.cons_append, filter_isCall ?_ htold]
    · exact .restarted hretry htried
    · intro ev hev
      rcases List.mem_cons.mp hev with rfl | hcalled
      · rfl
      · exact htried.isCall ev hcalled
  · exact .other nofun nofun nofun

/-- The calls an action makes to the notifier are those it may make. -/
theorem asked_act (c : Coordinator N) (a : Action) : c.Asked a (calls (c.act a).2) := by
  -- Subscriptions, starts, stops and retries ask something of the notifier; the others nothing.
  cases a with
  | watch x who => exact asked_watch c x who
  | unwatch e who => exact asked_unwatch c e who
  | start =>
    show c.Asked .start (calls (c.start.2.map .event))
    rw [calls_events]
    cases hrunning : c.running with
    | true =>
      have hsame : c.start = (c, []) := by
        unfold start
        rw [if_pos hrunning]
      rw [hsame]
      exact .nothing (fun _ _ ha => nomatch ha) (fun _ _ _ ha => nomatch ha) fun _ => hrunning
    | false =>
      obtain ⟨called, notices, ok, hevents, htried, htold, -⟩ := start_calls hrunning
      rw [hevents, filter_isCall htried.isCall htold]
      exact .started hrunning htried
  | stop stubborn =>
    show c.Asked (.stop stubborn) (calls ((c.stopDespite fun run => run ∈ stubborn).2.map .event))
    unfold stopDespite
    cases hrunning : c.running with
    | true => exact .stopped hrunning
    | false => exact .other nofun nofun nofun
  | watchFailed f =>
    show c.Asked (.watchFailed f) (calls ((c.watchFailed f).2.map .event))
    rw [calls_events, List.filter_eq_nil_iff.mpr fun ev hev => by simp [watchFailed_not_call hev]]
    exact .other nofun nofun nofun
  | goOff x =>
    have hnone : calls (c.act (.goOff x)).2 = [] := by
      rcases act_goOff c x with hact | ⟨_, _, hact⟩ <;> rw [hact] <;> rfl
    rw [hnone]
    exact .other nofun nofun nofun
  | finish run report =>
    have hnone : calls (c.act (.finish run report)).2 = [] := by
      rcases act_finish c run report with hact | hact | ⟨_, _, _, _, _, hact⟩ <;> rw [hact] <;> rfl
    rw [hnone]
    exact .other nofun nofun nofun
  | deliver run =>
    have hnone : calls (c.act (.deliver run)).2 = [] := by
      rcases act_deliver c run with hact | hact | ⟨_, _, _, _, _, hact⟩ <;> rw [hact] <;> rfl
    rw [hnone]
    exact .other nofun nofun nofun
  | wakeRetry =>
    rw [(act_wakeRetry c).2]
    exact .other nofun nofun nofun
  | retry => exact asked_retry c
  | _ => exact .other nofun nofun nofun

end Coordinator

end Grading.Watch
