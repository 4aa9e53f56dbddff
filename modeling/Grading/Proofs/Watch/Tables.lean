import Grading.Proofs.Watch.Timers

/-!
# Tables — the sessions, files, tokens and timers of a coordinator agree

The same facts stand in four places: the sessions, the exercises kept for each file, the tokens given
out, and the calls that the event loop is going to make. A dozen operations write to them, and after
each of them they say the same again, however often an exercise is watched anew or shares its file
with others.
-/

namespace Grading.Watch

open Grading.Files

namespace Coordinator

variable {N : Type} {c : Coordinator N} {s : Session} {e : String} {log : List Occurrence}

/-! ## 1. Who subscribes -/

abbrev SubscribedOnce (c : Coordinator N) : Prop :=
  c.Subscribed fun _ subscribers => subscribers ≠ [] ∧ subscribers.Nodup

theorem SubscribedOnce.act [Notifier N] (h : c.SubscribedOnce) (a : Action) :
    (c.act a).1.SubscribedOnce := by
  refine h.keep (fun e subscribers who hold hrest => ⟨hrest, hold.2.erase who⟩) ?_ ?_
  · intro e who _
    exact ⟨List.cons_ne_nil who [], List.nodup_singleton who⟩
  · intro e who _ subscribers hold hnew
    have hlast : (subscribers ++ [who]).Nodup :=
      List.nodup_append.mpr ⟨hold.2, List.nodup_singleton who, by
        rintro x hx y hy rfl
        exact hnew (List.mem_singleton.mp hy ▸ hx)⟩
    exact ⟨by simp, hlast⟩

theorem SubscribedOnce.play [Notifier N] (h : c.SubscribedOnce) (actions : List Action) :
    (c.play actions).1.SubscribedOnce := by
  induction actions generalizing c with
  | nil => exact h
  | cons a as ih => exact ih (h.act a)

theorem subscribedOnce_new (notifier : N) (settings : WatchSettings) (backoff : Backoff)
    (chance : Chance) : (Coordinator.new notifier settings backoff chance).SubscribedOnce :=
  fun _ hs => absurd hs List.not_mem_nil

end Coordinator

/-! ## 2. All tables agree -/

namespace EventLoop

variable {N : Type} {m : EventLoop N} {log : List Occurrence}

theorem Timed.exercises_nodup (h : m.Timed) : (m.calls.map (·.exercise)).Nodup := by
  refine List.Nodup.map_on (fun k hk k' hk' hexercise => ?_) h.distinct.of_map
  exact h.eq_of_exercise hk hk' hexercise

/-- A run is dispatched by the call of the session that it is a run of, and the call is gone then. -/
theorem Timed.call_of_dispatched [Notifier N] (h : m.Timed)
    (hdistinct : m.coordinator.watched.Nodup) (hfiled : m.coordinator.Filed) {a : Action} {run : Run}
    (hrun : Occurrence.dispatched run ∈ (m.act a).2) :
    ∃ k ∈ m.calls, k.exercise = run.exercise ∧ k.session = run.session ∧
      k ∉ (m.act a).1.calls := by
  have hafter := h.act hdistinct hfiled a
  obtain ⟨hcoordinator, hseen⟩ := h.coordinator_act a
  rw [hseen] at hrun
  obtain ⟨rfl, htimed⟩ := Coordinator.comesFrom_act hrun
  obtain ⟨s, hs, hserial, -, hnow⟩ := Coordinator.goOff_act hrun
  -- The timer that goes off is the one that the session holds.
  have hheld := Coordinator.held?_of_session? hs
  rw [Coordinator.isTimed_eq_isSome, hheld] at htimed
  obtain ⟨t, ht⟩ : ∃ t, s.timer = some t := by simpa [Option.isSome_iff_exists] using htimed
  refine ⟨⟨t, run.exercise, run.session⟩, ?_, rfl, rfl, fun hstill => ?_⟩
  · rw [h.mem_iff, hheld, ht, ← hserial]
    rfl
  · have hnone := (hafter.mem_iff _).mp hstill
    rw [hcoordinator, Coordinator.held?_of_session? hnow] at hnone
    exact nomatch hnone

variable [Notifier N]

omit [Notifier N] in
/-- The tables of a coordinator and the calls of its event loop agree. -/
structure Agrees (m : EventLoop N) : Prop where
  /-- An exercise has one session at most. -/
  distinct : m.coordinator.watched.Nodup
  /-- No file is kept for nobody. -/
  occupied : ∀ file, m.coordinator.files.lookup file ≠ some []
  /-- An exercise is kept for a file exactly when its session is of that file. -/
  kept_iff : ∀ e file, e ∈ (m.coordinator.files.lookup file).getD [] ↔
    ∃ s, m.coordinator.session? e = some s ∧ s.file = file
  /-- A change of a file sets the timers of exactly the sessions of that file. -/
  scheduled : ∀ file, m.coordinator.heeds file = true → ∀ e, ∃ order,
    (m.coordinator.fileChanged file).session? e = (m.coordinator.session? e).map fun s =>
      if s.file = file then
        { s with timer := some ⟨m.coordinator.now + m.coordinator.quiet, order⟩ }
      else s
  unheeded : ∀ file, m.coordinator.heeds file = false →
    m.coordinator.fileChanged file = m.coordinator
  /-- Every session has a subscriber, and none twice. -/
  subscribed : ∀ s ∈ m.coordinator.sessions, s.subscribers ≠ [] ∧ s.subscribers.Nodup
  /-- The latest token of a session is the one given out last for its exercise, and nothing was
  published under a later one. -/
  latest : ∀ s ∈ m.coordinator.sessions,
    s.latest = m.coordinator.token s.exercise ∧ s.published ≤ s.latest
  /-- The calls are the timers of the sessions. -/
  call_iff : ∀ k, k ∈ m.calls ↔ ∃ s, m.coordinator.session? k.exercise = some s ∧
    s.timer = some k.timer ∧ s.serial = k.session
  /-- There is one call at most for an exercise. -/
  called_once : (m.calls.map (·.exercise)).Nodup
  /-- A call dispatches a run of the session that its timer was set for. -/
  dispatched : ∀ a run, Occurrence.dispatched run ∈ (m.act a).2 →
    ∃ k ∈ m.calls, k.exercise = run.exercise ∧ k.session = run.session ∧ k ∉ (m.act a).1.calls

/-- A machine whose timers are in order has tables that agree. -/
theorem Timed.agrees (h : m.Timed) (hc : m.coordinator.Consistent log)
    (honce : m.coordinator.SubscribedOnce) : m.Agrees where
  distinct := hc.distinct
  occupied := hc.filed.occupied
  kept_iff e file := by
    rw [hc.filed.mem_iff, Option.map_eq_some_iff]
  scheduled _ hheeds e := Coordinator.session?_fileChanged hc.filed hheeds e
  unheeded _ hnot := Coordinator.fileChanged_of_not_heeds hnot
  subscribed := honce
  latest s hs := by
    have hs' := Coordinator.session?_of_mem hc.distinct hs
    have hlatest := Coordinator.latest_eq_token hc.current hs'
    exact ⟨hlatest, hlatest ▸ hc.published_le hs'⟩
  call_iff k := (h.mem_iff k).trans Coordinator.held?_eq_some
  called_once := h.exercises_nodup
  dispatched _ _ hrun := h.call_of_dispatched hc.distinct hc.filed hrun

/-- In every history the tables and the calls agree, and the coordinator does what it does when timers
are taken to go off only while a session holds them. -/
theorem tables_agree (notifier : N) (settings : WatchSettings) (backoff : Backoff)
    (chance : Chance) (actions : List Action) :
    let c := Coordinator.new notifier settings backoff chance
    let m := (EventLoop.mk c []).play actions
    m.1.Agrees ∧ m.1.coordinator = (c.play actions).1 ∧ m.2 = (c.play actions).2 := by
  intro c m
  have hnew : c.Consistent [] := Coordinator.consistent_new notifier settings backoff chance
  have htimed : (EventLoop.mk c []).Timed := ⟨fun _ => ⟨nofun, nofun⟩, nofun, List.nodup_nil⟩
  obtain ⟨hlast, hcoordinator, hlog⟩ := htimed.play hnew actions
  have hconsistent := hnew.play actions
  have honce : (c.play actions).1.SubscribedOnce :=
    (Coordinator.subscribedOnce_new notifier settings backoff chance).play actions
  rw [← hcoordinator] at hconsistent honce
  exact ⟨hlast.agrees hconsistent honce, hcoordinator, hlog⟩

end EventLoop

end Grading.Watch
