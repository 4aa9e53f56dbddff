import Grading.Proofs.Watch.Effect
import Grading.Watch.Rehearsal

/-!
# Freshness — only the latest run of a live session is told of

The log of a history records every run in flight and every session. So the tokens of an exercise
only increase, and whoever is told of a run is told while its session is registered and no later run
of it has been dispatched.
-/

namespace Grading.Watch.Coordinator

open Grading.Files

variable {N : Type} [Notifier N] {c : Coordinator N} {log : List Occurrence}

/-! ## 1. Runs in flight are recorded -/

/-- A run in flight is recorded when its dispatch is in the log and, once subscribers are told of a
report, its publication too. -/
structure FlightRecorded (f : Flight) (log : List Occurrence) : Prop where
  dispatched : Occurrence.dispatched f.run ∈ log
  published : ∀ report rest, f.stage = .delivering report rest →
    Occurrence.published f.run report ∈ log

/-- Every run on its way has been dispatched, and one in delivery has been published. -/
theorem flightRecorded_act (h : ∀ f ∈ c.flights, FlightRecorded f log) (a : Action) :
    ∀ f ∈ (c.act a).1.flights, FlightRecorded f (log ++ (c.act a).2) := by
  have hgrow : ∀ f ∈ c.flights, FlightRecorded f (log ++ (c.act a).2) := fun f hf =>
    ⟨List.mem_append_left _ (h f hf).dispatched, fun report rest hstage =>
      List.mem_append_left _ ((h f hf).published report rest hstage)⟩
  intro f hf
  rcases flights_act c a with hkeep | ⟨run, hrun, hflights⟩ | ⟨run, report, rest, hreport, hflights⟩
  · exact hgrow f (hkeep f hf)
  · rw [hflights] at hf
    rcases List.mem_append.mp hf with hold | hnew
    · exact hgrow f hold
    · rw [List.mem_singleton.mp hnew]
      exact ⟨List.mem_append_right _ hrun, fun _ _ hstage => nomatch hstage⟩
  · rw [hflights] at hf
    obtain ⟨g, hg, hfg⟩ := List.mem_map.mp hf
    by_cases hrun : g.run = run
    · rw [if_pos hrun] at hfg
      rw [← hfg]
      refine ⟨(hgrow g hg).dispatched, fun other rest' hstage => ?_⟩
      obtain ⟨rfl, rfl⟩ := Stage.delivering.inj hstage
      show Occurrence.published g.run report ∈ log ++ (c.act a).2
      rw [hrun]
      -- The report is published by this action, or subscribers have been told of it before.
      rcases hreport with ⟨hnow, -⟩ | ⟨told, hbefore⟩
      · exact List.mem_append_right _ hnow
      · obtain ⟨k, hk, hkrun, hkstage⟩ := stage?_some hbefore
        rw [← hkrun]
        exact (hgrow k hk).published report _ hkstage
    · rw [if_neg hrun] at hfg
      rw [← hfg]
      exact hgrow g hg

/-! ## 2. Histories -/

structure Recorded (c : Coordinator N) (log : List Occurrence) : Prop where
  distinct : c.watched.Nodup
  ledger : c.ledger.Sound log
  flights : ∀ f ∈ c.flights, FlightRecorded f log

theorem Recorded.act (h : c.Recorded log) (a : Action) :
    (c.act a).1.Recorded (log ++ (c.act a).2) :=
  ⟨watched_nodup_act h.distinct a, h.ledger.entry (entry_act h.distinct a),
    flightRecorded_act h.flights a⟩

/-- What every action keeps of a coordinator and its log, every history keeps. -/
theorem invariant_play {P : Coordinator N → List Occurrence → Prop}
    (hstep : ∀ c log a, P c log → P (c.act a).1 (log ++ (c.act a).2)) (h : P c log)
    (actions : List Action) : P (c.play actions).1 (log ++ (c.play actions).2) := by
  induction actions generalizing c log with
  | nil => rwa [show (c.play []).2 = [] from rfl, List.append_nil]
  | cons a as ih =>
    have hrest := ih (hstep c log a h)
    rw [List.append_assoc] at hrest
    exact hrest

theorem Recorded.play (h : c.Recorded log) (actions : List Action) :
    (c.play actions).1.Recorded (log ++ (c.play actions).2) :=
  invariant_play (fun _ _ a h => h.act a) h actions

omit [Notifier N] in
theorem recorded_new (notifier : N) (settings : WatchSettings) (backoff : Backoff)
    (chance : Chance) : (Coordinator.new notifier settings backoff chance).Recorded [] :=
  ⟨List.nodup_nil, ⟨nofun, List.nodup_nil, nofun, nofun, fun _ => .nil, nofun, fun _ => .nil,
    nofun⟩, nofun⟩

/-- In every history, a run is dispatched for the session that is registered, and a subscriber is
told of a run only while that session, which was opened once and never closed, is still registered
and the run is its latest. The tokens dispatched for an exercise are all different, and those
published increase. -/
theorem deliveries_are_fresh (notifier : N) (settings : WatchSettings) (backoff : Backoff)
    (chance : Chance) (actions : List Action) :
    let c := ((Coordinator.new notifier settings backoff chance).play actions).1
    let log := ((Coordinator.new notifier settings backoff chance).play actions).2
    (∀ a run, Occurrence.dispatched run ∈ (c.act a).2 →
      ∃ s, c.session? run.exercise = some s ∧ s.serial = run.session) ∧
    (∀ a run who report, Occurrence.told run who report ∈ (c.act a).2 →
      Occurrence.dispatched run ∈ log ∧ Occurrence.published run report ∈ log ∧
        Occurrence.opened run.exercise run.session ∈ log ∧
        Occurrence.closed run.exercise run.session ∉ log ∧
        ∃ s, c.session? run.exercise = some s ∧ s.serial = run.session ∧ s.latest = run.token) ∧
    (openedSessions log).Nodup ∧
    (∀ e, (dispatchedTokens e log).Nodup) ∧
    ∀ e, (publishedTokens e log).Pairwise (· < ·) := by
  intro c log
  have hrec : c.Recorded log := (recorded_new notifier settings backoff chance).play actions
  refine ⟨fun a run hrun => ?_, fun a run who report htold => ?_, hrec.ledger.opened_nodup,
    fun e => ?_, hrec.ledger.published_lt⟩
  · obtain ⟨x, hx, hserial⟩ := (entry_act hrec.distinct a).standing_of_dispatched hrun
    obtain ⟨s, hs, rfl⟩ := Option.map_eq_some_iff.mp hx
    exact ⟨s, hs, hserial⟩
  -- The check before each delivery says that the session is registered; the ledger knows its past.
  · obtain ⟨hcurrent, rest, hstage⟩ := told_act htold
    obtain ⟨f, hf, rfl, hfstage⟩ := stage?_some hstage
    have hflight := hrec.flights f hf
    obtain ⟨s, hs, hserial, hlatest⟩ := (isCurrent_iff c f.run).mp hcurrent
    have hstanding := hrec.ledger.standing f.run.exercise s.standing (ledger_standing hs)
    refine ⟨hflight.dispatched, hflight.published report rest hfstage, ?_, ?_, s, hs, hserial,
      hlatest⟩
    · rw [← hserial]
      exact hstanding.opened
    · rw [← hserial]
      exact hstanding.notClosed
  · exact (hrec.ledger.dispatched_lt e).imp Nat.ne_of_lt

-- The second run overtakes the first, and a session that is opened later goes on counting.
example :
    let file : Path := ⟨"/", ["w", "a"]⟩
    let c : Coordinator ScriptedNotifier := .new {} {} {} []
    publishedTokens "a" (c.play [
      .watch ⟨"a", file⟩ "x", .trigger "a", .goOff "a", .trigger "a", .goOff "a",
      .finish ⟨"a", 0, 2⟩ { exercise := "a", status := .completed },
      .finish ⟨"a", 0, 1⟩ { exercise := "a", status := .failed }, .unwatch "a" none,
      .watch ⟨"a", file⟩ "x", .trigger "a", .goOff "a",
      .finish ⟨"a", 1, 4⟩ { exercise := "a", status := .failed }]).2 = [2, 4] := by
  decide +kernel

end Grading.Watch.Coordinator
