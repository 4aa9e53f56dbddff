import Grading.Proofs.Watch.Effect

/-!
# Subscribers — who subscribes to an exercise, under every action

The subscribers of an exercise change only when one subscribes and when one is taken back. So what
holds of no subscribers, and of fewer, holds of all sessions unless a subscription breaks it.
-/

namespace Grading.Watch.Coordinator

open Grading.Files

variable {N : Type} {c d : Coordinator N} {s : Session} {exercise : String}
  {p : String → List Subscriber → Prop}

def Subscribed (p : String → List Subscriber → Prop) (c : Coordinator N) : Prop :=
  ∀ s ∈ c.sessions, p s.exercise s.subscribers

namespace Subscribed

theorem of_session? (h : c.Subscribed p) (hs : c.session? exercise = some s) :
    p s.exercise s.subscribers :=
  h s (List.mem_of_find?_eq_some hs)

theorem setSession (h : c.Subscribed p) {t : Session} (ht : p t.exercise t.subscribers) :
    (c.setSession t).Subscribed p := by
  intro s hs
  obtain ⟨s', hs', rfl⟩ := List.mem_map.mp hs
  split
  · exact ht
  · exact h s' hs'

theorem advance (h : c.Subscribed p) {t : Session} (ht : p t.exercise t.subscribers) :
    (c.advance t).Subscribed p :=
  setSession (c := { c with tokens := _ }) h ht

theorem schedule (h : c.Subscribed p) (hs : p s.exercise s.subscribers) :
    (c.schedule s).Subscribed p :=
  setSession (c := { c with timersSet := _ }) h hs

theorem foldl_scheduleExercise (h : c.Subscribed p) (exercises : List String) :
    (exercises.foldl scheduleExercise c).Subscribed p := by
  induction exercises generalizing c with
  | nil => exact h
  | cons e es ih =>
    refine ih ?_
    unfold scheduleExercise
    split
    · exact h
    · next s hs => exact h.schedule (h.of_session? hs)

theorem fileChanged (h : c.Subscribed p) (file : Path) : (c.fileChanged file).Subscribed p := by
  unfold Coordinator.fileChanged
  split
  · exact h
  · exact h.foldl_scheduleExercise _

theorem foldl_settle {ss : List Session} (h : c.Subscribed p)
    (hss : ∀ s ∈ ss, p s.exercise s.subscribers) : (ss.foldl settle c).Subscribed p := by
  induction ss generalizing c with
  | nil => exact h
  | cons s ss ih =>
    have hs : p s.exercise s.subscribers := hss s List.mem_cons_self
    exact ih (h.advance hs) fun t ht => hss t (List.mem_cons_of_mem _ ht)

theorem sameRegistry (h : c.Subscribed p) (hd : SameRegistry c d) : d.Subscribed p := by
  unfold Subscribed
  rw [hd.sessions]
  exact h

variable [Notifier N]

theorem stopDespite (h : c.Subscribed p) (stubborn : Run → Bool) :
    (c.stopDespite stubborn).1.Subscribed p := by
  unfold Coordinator.stopDespite
  split
  · exact h
  · exact foldl_settle (c := { c with running := _, notifier := _, retry := _, flights := _ }) h h

/-- A property of the lists of subscribers that a subscription keeps is kept by `watch`. -/
theorem watch (h : c.Subscribed p) {e : Exercise} {who : Subscriber} (hopen : p e.id [who])
    (hjoin : ∀ subscribers, p e.id subscribers → who ∉ subscribers →
      p e.id (subscribers ++ [who])) : (c.watch e who).1.Subscribed p := by
  cases hs : c.session? e.id with
  | some s =>
    rw [watch_known c e who hs]
    refine h.setSession ?_
    have hold := h.of_session? hs
    unfold Session.subscribe
    split
    · exact hold
    · next hnew =>
      rw [exercise_of_session? hs] at hold
      rw [exercise_of_session? hs]
      exact hjoin s.subscribers hold (by simpa using hnew)
  | none =>
    refine sameRegistry (fun s hs => ?_) (watch_new c e who hs)
    rcases List.mem_append.mp hs with hold | hnew
    · exact h s hold
    · rw [List.mem_singleton.mp hnew]
      exact hopen

/-- A property of the lists of subscribers that leaving keeps is kept by `unwatch`. -/
theorem unwatch (h : c.Subscribed p)
    (hleave : ∀ e subscribers who, p e subscribers → subscribers.erase who ≠ [] →
      p e (subscribers.erase who))
    (exercise : String) (who : Option Subscriber) : (c.unwatch exercise who).1.Subscribed p := by
  cases hs : c.session? exercise with
  | none =>
    rw [unwatch_unknown c who hs]
    exact h
  | some s =>
    by_cases hrest : (s.unsubscribe who).subscribers = []
    -- With nobody left the session is dropped, and the others stay as they were.
    · obtain ⟨files, notifier, hd⟩ := unwatch_last c who hs hrest
      rw [hd]
      intro t ht
      obtain ⟨hmem, hother⟩ := List.mem_filter.mp ht
      obtain ⟨t', ht', rfl⟩ := List.mem_map.mp hmem
      by_cases hsame : t'.exercise = (s.unsubscribe who).exercise
      · rw [if_pos hsame] at hother
        rw [decide_eq_true_eq, unsubscribe_exercise, exercise_of_session? hs] at hother
        exact absurd rfl hother
      · rw [if_neg hsame]
        exact h t' ht'
    · rw [unwatch_some c who hs hrest]
      refine h.setSession ?_
      cases who with
      | none => exact absurd rfl hrest
      | some w => exact hleave _ _ w (h.of_session? hs) hrest

/-- A property of subscribers that holds of the first, and of fewer unless they are none, is kept by
every action but a subscription that breaks it. -/
theorem keep (h : c.Subscribed p)
    (hleave : ∀ e subscribers who, p e subscribers → subscribers.erase who ≠ [] →
      p e (subscribers.erase who)) {a : Action} (hopen : ∀ e who, a = .watch e who → p e.id [who])
    (hjoin : ∀ e who, a = .watch e who → ∀ subscribers, p e.id subscribers → who ∉ subscribers →
      p e.id (subscribers ++ [who])) : (c.act a).1.Subscribed p := by
  -- Lists change by subscribing and leaving only. A session that is set anew keeps its own.
  cases a with
  | watch e who => exact h.watch (hopen e who rfl) (hjoin e who rfl)
  | unwatch exercise who => exact h.unwatch hleave exercise who
  | start => exact h.sameRegistry (start_sameRegistry c)
  | stop stubborn => exact h.stopDespite fun run => run ∈ stubborn
  | trigger exercise =>
    show ((c.trigger exercise).getD c).Subscribed p
    unfold trigger
    cases hs : c.session? exercise with
    | none => exact h
    | some s => exact h.schedule (h.of_session? hs)
  | fileChanged file => exact h.fileChanged file
  | watchFailed f => exact h.sameRegistry (watchFailed_sameRegistry c f)
  | pass duration => exact h
  | goOff exercise =>
    rcases act_goOff c exercise with hact | ⟨s, hs, hact⟩
    · rw [hact]
      exact h
    · have hold := h.of_session? hs
      rw [hact, dispatch_some c hs]
      exact h.advance (t := { s with timer := none, status := .inProgress }) hold
  | finish run report =>
    rcases act_finish c run report with hact | hact | ⟨s, hs, _, _, _, hact⟩
    · rw [hact]
      exact h
    · rw [hact]
      exact h
    · have hold := h.of_session? hs
      rw [hact]
      exact h.setSession (t := { s with published := run.token, status := report.status
                                        lastReport := some report }) hold
  | breakOff run => exact h
  | deliver run =>
    rcases act_deliver c run with hact | hact | ⟨_, _, _, _, _, hact⟩ <;> rw [hact] <;> exact h
  | wakeRetry => exact h.sameRegistry (act_wakeRetry c).1
  | retry => exact h.sameRegistry (retryStep_sameRegistry c)

/-- A property of subscribers that holds of none, and of fewer, is kept by every action but a
subscription that breaks it. -/
theorem act (h : c.Subscribed p) (hnone : ∀ e, p e [])
    (hleave : ∀ e subscribers who, p e subscribers → p e (subscribers.erase who)) {a : Action}
    (hjoin : ∀ e who, a = .watch e who → ∀ subscribers, p e.id subscribers → who ∉ subscribers →
      p e.id (subscribers ++ [who])) : (c.act a).1.Subscribed p :=
  h.keep (fun e subscribers who hp _ => hleave e subscribers who hp)
    (fun e who ha => hjoin e who ha [] (hnone e.id) List.not_mem_nil) hjoin

end Subscribed

end Grading.Watch.Coordinator
