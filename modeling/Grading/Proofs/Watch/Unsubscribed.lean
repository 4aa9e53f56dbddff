import Grading.Proofs.Watch.Freshness
import Grading.Proofs.Watch.Subscribers

/-!
# Unsubscribed — what a subscriber is told after it was taken back

The report of a run is told to those who subscribed when it was published. A subscriber that is taken
back is told of nothing that is published later, and of nothing at all once its session has ended.
While others keep the session open it is still told of a report whose delivery was under way.
-/

namespace Grading.Watch

open Grading.Files

/-! ## 1. Sessions are numbered as they are opened -/

theorem update_eq_some {f : String → Option Standing} {e d : String} {x : Option Standing}
    {y : Standing} (h : Function.update f e x d = some y) : (d = e ∧ x = some y) ∨ f d = some y := by
  rw [Function.update_apply] at h
  by_cases hd : d = e
  · rw [if_pos hd] at h
    exact .inl ⟨hd, h⟩
  · rw [if_neg hd] at h
    exact .inr h

theorem Ledger.standing_advance {l : Ledger} {e d : String} {y : Standing}
    (h : (l.advance e).standing d = some y) : ∃ x, l.standing d = some x ∧ x.serial = y.serial := by
  rcases update_eq_some h with ⟨rfl, hnow⟩ | hold
  · obtain ⟨x, hx, rfl⟩ := Option.map_eq_some_iff.mp hnow
    exact ⟨x, hx, rfl⟩
  · exact ⟨y, hold, rfl⟩

theorem Ledger.standing_foldl_advance {l : Ledger} {exercises : List String} {d : String}
    {y : Standing} (h : (exercises.foldl advance l).standing d = some y) :
    ∃ x, l.standing d = some x ∧ x.serial = y.serial := by
  induction exercises generalizing l with
  | nil => exact ⟨y, h, rfl⟩
  | cons e es ih =>
    obtain ⟨x, hx, hxy⟩ := ih h
    obtain ⟨z, hz, hzx⟩ := standing_advance hx
    exact ⟨z, hz, hzx.trans hxy⟩

/-- After an entry, the session of an exercise is the one that it had or one that is new. -/
theorem Ledger.Entry.serial_cases {l m : Ledger} {occurred : List Occurrence} {d : String}
    {y : Standing} (h : l.Entry occurred m) (hy : m.standing d = some y) :
    l.opened ≤ y.serial ∨ ∃ x, l.standing d = some x ∧ x.serial = y.serial := by
  cases h with
  | none => exact .inr ⟨y, hy, rfl⟩
  | opened =>
    rcases update_eq_some hy with ⟨-, hnow⟩ | hold
    · obtain rfl := Option.some.inj hnow
      exact .inl (Nat.le_refl _)
    · exact .inr ⟨y, hold, rfl⟩
  | closed =>
    have hold := (update_eq_some hy).resolve_left fun hnow => nomatch hnow.2
    exact .inr ⟨y, hold, rfl⟩
  | dispatched => exact .inr (standing_advance hy)
  | published =>
    rcases update_eq_some hy with ⟨rfl, hnow⟩ | hold
    · obtain ⟨x, hx, rfl⟩ := Option.map_eq_some_iff.mp hnow
      exact .inr ⟨x, hx, rfl⟩
    · exact .inr ⟨y, hold, rfl⟩
  | outdated => exact .inr (standing_foldl_advance hy)

theorem openedSessions_plain {more : List Occurrence} (h : ∀ s ∈ more, s.isPlain) :
    openedSessions more = [] := by
  refine List.filterMap_eq_nil_iff.mpr fun s hs => ?_
  have hplain := h s hs
  cases s with
  | opened => exact nomatch hplain
  | _ => rfl

theorem Ledger.opened_foldl_advance (l : Ledger) (exercises : List String) :
    (exercises.foldl advance l).opened = l.opened := by
  induction exercises generalizing l with
  | nil => rfl
  | cons e es ih => exact ih (l.advance e)

/-- An entry counts the sessions that it opens. -/
theorem Ledger.Entry.opened_eq {l m : Ledger} {occurred : List Occurrence}
    (h : l.Entry occurred m) : m.opened = l.opened + (openedSessions occurred).length := by
  cases h with
  | none hmore => rw [openedSessions_plain hmore]; rfl
  | @opened e more hmore =>
    show l.opened + 1 = l.opened + (l.opened :: openedSessions more).length
    rw [openedSessions_plain hmore]
    rfl
  | @closed e x more hmore =>
    show l.opened = l.opened + (openedSessions more).length
    rw [openedSessions_plain hmore]
    rfl
  | outdated exercises hmore =>
    rw [openedSessions_plain hmore]
    exact l.opened_foldl_advance exercises
  | dispatched | published => rfl

theorem Ledger.Entry.opened_le {l m : Ledger} {occurred : List Occurrence}
    (h : l.Entry occurred m) : l.opened ≤ m.opened := by
  rw [h.opened_eq]
  exact Nat.le_add_right _ _

namespace Coordinator

variable {N : Type} [Notifier N] {c d : Coordinator N} {log : List Occurrence} {exercise : String}
  {who : Subscriber}

/-- The runs in flight were dispatched for sessions that have been opened. -/
theorem session_lt_act (hrec : c.Recorded log) (h : ∀ f ∈ c.flights, f.run.session < c.opened)
    (a : Action) : ∀ f ∈ (c.act a).1.flights, f.run.session < (c.act a).1.opened := by
  have hentry := entry_act hrec.distinct a
  have hle : c.opened ≤ (c.act a).1.opened := hentry.opened_le
  intro f hf
  refine Nat.lt_of_lt_of_le ?_ hle
  rcases flights_act c a with hkeep | ⟨run, hrun, hflights⟩ | ⟨run, report, rest, -, hflights⟩
  · exact h f (hkeep f hf)
  · rw [hflights] at hf
    rcases List.mem_append.mp hf with hold | hnew
    · exact h f hold
    · rw [List.mem_singleton.mp hnew]
      obtain ⟨x, hx, hserial⟩ := hentry.standing_of_dispatched hrun
      exact hserial ▸ (hrec.ledger.standing _ x hx).serial_lt
  · rw [hflights] at hf
    obtain ⟨g, hg, hfg⟩ := List.mem_map.mp hf
    have hsame : f.run = g.run := by
      rw [← hfg]
      split <;> rfl
    rw [hsame]
    exact h g hg

/-! ## 2. After an unsubscription -/

/-- What the state `c` keeps of the state `d` just after a subscriber was taken back, until it
subscribes again. -/
structure Unsubscribed (exercise : String) (who : Subscriber) (d c : Coordinator N) : Prop where
  distinct : c.watched.Nodup
  subscribers : c.Subscribed fun e subscribers => e = exercise → who ∉ subscribers
  opened : d.opened ≤ c.opened
  session : ∀ s, c.session? exercise = some s → s.serial < d.opened →
    ∃ t, d.session? exercise = some t ∧ t.serial = s.serial
  flights : ∀ f ∈ c.flights, f.run.exercise = exercise → ∀ report rest,
    f.stage = .delivering report rest → who ∈ rest →
      ∃ before, ⟨f.run, .delivering report before⟩ ∈ d.flights ∧ who ∈ before

namespace Unsubscribed

omit [Notifier N] in
theorem start (hdistinct : d.watched.Nodup)
    (hsubscribers : d.Subscribed fun e subscribers => e = exercise → who ∉ subscribers) :
    Unsubscribed exercise who d d :=
  ⟨hdistinct, hsubscribers, Nat.le_refl _, fun s hs _ => ⟨s, hs, rfl⟩,
    fun _ hf _ _ rest hstage hwho => ⟨rest, hstage ▸ hf, hwho⟩⟩

/-- A report that is published goes to those who subscribe then; telling one leaves the others. -/
theorem flights_step (h : Unsubscribed exercise who d c) (a : Action) :
    ∀ f ∈ (c.act a).1.flights, f.run.exercise = exercise → ∀ report rest,
      f.stage = .delivering report rest → who ∈ rest →
        ∃ before, ⟨f.run, .delivering report before⟩ ∈ d.flights ∧ who ∈ before := by
  intro f hf hexercise report rest hstage hwho
  rcases flights_act c a with hkeep | ⟨run, -, hflights⟩ | ⟨run, result, left, hleft, hflights⟩
  · exact h.flights f (hkeep f hf) hexercise report rest hstage hwho
  · rw [hflights] at hf
    rcases List.mem_append.mp hf with hold | hnew
    · exact h.flights f hold hexercise report rest hstage hwho
    -- A run that was just dispatched has nothing to deliver.
    · rw [List.mem_singleton.mp hnew] at hstage
      exact nomatch hstage
  · rw [hflights] at hf
    obtain ⟨g, hg, hfg⟩ := List.mem_map.mp hf
    by_cases hrun : g.run = run
    · rw [if_pos hrun] at hfg
      rw [← hfg] at hstage hexercise ⊢
      obtain ⟨rfl, rfl⟩ := Stage.delivering.inj hstage
      rw [show ({ g with stage := Stage.delivering result left } : Flight).run = run from hrun]
        at hexercise ⊢
      rcases hleft with ⟨-, s, hs, rfl⟩ | ⟨told, hbefore⟩
      -- The report is published now, to those who subscribe now.
      · have hnot := h.subscribers.of_session? hs
        exact absurd hwho (hnot ((exercise_of_session? hs).trans hexercise))
      · obtain ⟨k, hk, rfl, hkstage⟩ := stage?_some hbefore
        exact h.flights k hk hexercise result _ hkstage (List.mem_cons_of_mem _ hwho)
    · rw [if_neg hrun] at hfg
      rw [← hfg] at hstage hexercise ⊢
      exact h.flights g hg hexercise report rest hstage hwho

/-- Nobody is subscribed by an action other than the subscription itself. -/
theorem act (h : Unsubscribed exercise who d c) {a : Action}
    (ha : ∀ e, a = .watch e who → e.id ≠ exercise) : Unsubscribed exercise who d (c.act a).1 := by
  have hentry := entry_act h.distinct a
  refine ⟨watched_nodup_act h.distinct a, ?_, Nat.le_trans h.opened hentry.opened_le, ?_,
    h.flights_step a⟩
  · refine h.subscribers.act (fun _ _ => List.not_mem_nil)
      (fun e subscribers w hnot he hwho => hnot he (List.mem_of_mem_erase hwho)) ?_
    intro e w hw subscribers hnot _ he hwho
    rcases List.mem_append.mp hwho with hold | hnew
    · exact hnot he hold
    · exact ha e (List.mem_singleton.mp hnew ▸ hw) he
  -- A session that opens after the unsubscription has a serial from `d.opened` on.
  · intro s hs hlt
    rcases hentry.serial_cases (ledger_standing hs) with hnew | ⟨x, hx, hserial⟩
    · have : s.standing.serial = s.serial := rfl
      have : c.ledger.opened = c.opened := rfl
      have := h.opened
      omega
    · obtain ⟨t, ht, rfl⟩ := Option.map_eq_some_iff.mp hx
      have hsame : t.serial = s.serial := hserial
      obtain ⟨u, hu, hut⟩ := h.session t ht (hsame ▸ hlt)
      exact ⟨u, hu, hut.trans hsame⟩

/-- Who was taken back is told only of a report that was under way, in the session of that time. -/
theorem told (h : Unsubscribed exercise who d c) {a : Action} {run : Run} {report : Report}
    (htold : Occurrence.told run who report ∈ (c.act a).2) (hexercise : run.exercise = exercise) :
    (∃ before, ⟨run, .delivering report before⟩ ∈ d.flights ∧ who ∈ before) ∧
      (run.session < d.opened → ∃ t, d.session? exercise = some t ∧ t.serial = run.session) := by
  obtain ⟨hcurrent, rest, hstage⟩ := told_first htold
  obtain ⟨s, hs, hserial, -⟩ := (isCurrent_iff c run).mp hcurrent
  obtain ⟨f, hf, rfl, hfstage⟩ := stage?_some hstage
  refine ⟨h.flights f hf hexercise report _ hfstage List.mem_cons_self, fun hlt => ?_⟩
  rw [← hserial] at hlt ⊢
  exact h.session s (hexercise ▸ hs) hlt

/-- Who is unsubscribed is told only by a delivery that was under way at the time. -/
theorem told_play (h : Unsubscribed exercise who d c) {later : List Action}
    (hlater : ∀ e, Action.watch e who ∈ later → e.id ≠ exercise) {run : Run} {report : Report}
    (htold : Occurrence.told run who report ∈ (c.play later).2)
    (hexercise : run.exercise = exercise) :
    (∃ before, ⟨run, .delivering report before⟩ ∈ d.flights ∧ who ∈ before) ∧
      (run.session < d.opened → ∃ t, d.session? exercise = some t ∧ t.serial = run.session) := by
  induction later generalizing c with
  | nil => exact nomatch htold
  | cons a later ih =>
    rcases List.mem_append.mp htold with hnow | hrest
    · exact h.told hnow hexercise
    · exact ih (h.act fun e he => hlater e (he ▸ List.mem_cons_self))
        (fun e he => hlater e (List.mem_cons_of_mem _ he)) hrest

end Unsubscribed

/-- Taking a subscriber back, alone or with all others, takes it out of its session. -/
theorem subscribed_unwatch (h : c.Subscribed fun _ subscribers => subscribers.Nodup)
    {asked : Option Subscriber} (hasked : asked = none ∨ asked = some who) :
    (c.unwatch exercise asked).1.Subscribed fun e subscribers => e = exercise → who ∉ subscribers := by
  cases hs : c.session? exercise with
  | none =>
    rw [unwatch_unknown c asked hs]
    intro t ht hexercise
    have hnot := List.find?_eq_none.mp hs t ht
    simp only [hexercise, decide_true, not_true_eq_false] at hnot
  | some s =>
    -- Lists hold a subscriber once, so that who leaves is not left in them.
    have hleft : who ∉ (s.unsubscribe asked).subscribers := by
      rcases hasked with rfl | rfl
      · exact List.not_mem_nil
      · exact (h.of_session? hs).not_mem_erase
    have hset : (c.setSession (s.unsubscribe asked)).Subscribed
        fun e subscribers => e = exercise → who ∉ subscribers := by
      intro t ht hexercise
      obtain ⟨t', -, rfl⟩ := List.mem_map.mp ht
      by_cases hsame : t'.exercise = (s.unsubscribe asked).exercise
      · rw [if_pos hsame]
        exact hleft
      · rw [if_neg hsame] at hexercise
        rw [unsubscribe_exercise, exercise_of_session? hs] at hsame
        exact absurd hexercise hsame
    by_cases hrest : (s.unsubscribe asked).subscribers = []
    · obtain ⟨files, notifier, hd⟩ := unwatch_last c asked hs hrest
      rw [hd]
      intro t ht hexercise
      have hother := (List.mem_filter.mp ht).2
      simp only [hexercise, ne_eq, not_true_eq_false, decide_false, Bool.false_eq_true] at hother
    · rw [unwatch_some c asked hs hrest]
      exact hset

/-- In every history, the runs in flight are of sessions that have been opened, and nobody
subscribes to an exercise twice. -/
theorem play_keeps (hrec : c.Recorded log) (hflights : ∀ f ∈ c.flights, f.run.session < c.opened)
    (hsubscribed : c.Subscribed fun _ subscribers => subscribers.Nodup) (actions : List Action) :
    (∀ f ∈ (c.play actions).1.flights, f.run.session < (c.play actions).1.opened) ∧
      (c.play actions).1.Subscribed fun _ subscribers => subscribers.Nodup := by
  induction actions generalizing c log with
  | nil => exact ⟨hflights, hsubscribed⟩
  | cons a actions ih =>
    refine ih (hrec.act a) (session_lt_act hrec hflights a) (hsubscribed.act (fun _ => .nil)
      (fun _ _ w hnodup => hnodup.erase w) fun _ w _ subscribers hnodup hnew => ?_)
    refine List.nodup_append.mpr ⟨hnodup, by simp, fun x hx y hy => ?_⟩
    rw [List.mem_singleton.mp hy]
    exact fun heq => hnew (heq ▸ hx)

/-- After every history, a subscriber that is taken back from an exercise, alone or with all others,
and does not subscribe to it again, is told of a report of the exercise only if it was taken back
alone, others keep the session open, and the report was being delivered at that moment with this
subscriber among those not told yet. -/
theorem told_after_unwatch (notifier : N) (settings : WatchSettings) (backoff : Backoff)
    (chance : Chance) (actions later : List Action) (exercise : String) (who : Subscriber)
    (asked : Option Subscriber) (hasked : asked = none ∨ asked = some who)
    (hlater : ∀ e, Action.watch e who ∈ later → e.id ≠ exercise) :
    let c := ((Coordinator.new notifier settings backoff chance).play actions).1
    let d := (c.act (.unwatch exercise asked)).1
    ∀ run report, Occurrence.told run who report ∈ (d.play later).2 → run.exercise = exercise →
      asked = some who ∧ (∃ s, d.session? exercise = some s ∧ s.serial = run.session) ∧
        ∃ rest, ⟨run, .delivering report rest⟩ ∈ d.flights ∧ who ∈ rest := by
  intro c d run report htold hexercise
  have hrec := (recorded_new notifier settings backoff chance).play actions
  obtain ⟨hflights, hsubscribed⟩ := play_keeps (recorded_new notifier settings backoff chance) nofun
    nofun actions
  have hd : Unsubscribed exercise who d d :=
    .start (watched_nodup_act hrec.distinct _) (subscribed_unwatch hsubscribed hasked)
  obtain ⟨⟨rest, hmem, hwho⟩, hsession⟩ := hd.told_play hlater htold hexercise
  obtain ⟨s, hs, hserial⟩ := hsession (session_lt_act hrec hflights _ _ hmem)
  refine ⟨?_, ⟨s, hs, hserial⟩, rest, hmem, hwho⟩
  refine hasked.resolve_left fun hall => ?_
  -- With all subscriptions taken back there is no session left.
  have hgone : (c.unwatch exercise none).1.session? exercise = none := by
    cases hsession : c.session? exercise with
    | none => rw [unwatch_unknown c none hsession, hsession]
    | some t => rw [session?_unwatch_last c none hsession rfl, if_pos rfl]
  rw [show d.session? exercise = (c.unwatch exercise asked).1.session? exercise from rfl, hall,
    hgone] at hs
  exact nomatch hs

/-- All are taken back while a report is being delivered. -/
theorem told_after_unwatch_all :
    let file : Path := ⟨"/", ["w", "a"]⟩
    let run : Run := ⟨"a", 0, 1⟩
    let c : Coordinator ScriptedNotifier := .new {} {} {} []
    let actions : List Action := [.watch ⟨"a", file⟩ "x", .watch ⟨"a", file⟩ "y", .trigger "a",
      .goOff "a", .finish run { exercise := "a", status := .completed }, .deliver run]
    ∀ report, Occurrence.told run "y" report ∉
      (((c.play actions).1.act (.unwatch "a" none)).1.play [.deliver run]).2 := by
  intro file run c actions report htold
  have hlater : ∀ e, Action.watch e "y" ∈ [Action.deliver run] → e.id ≠ "a" :=
    fun e he => nomatch List.mem_singleton.mp he
  have hnever := told_after_unwatch (N := ScriptedNotifier) {} {} {} [] actions [.deliver run] "a" "y"
    none (.inl rfl) hlater run report htold rfl
  exact nomatch hnever.1

omit [Notifier N] in
theorem exists_told {run : Run} (h : log.any (fun
    | .told r w _ => r = run && w = who
    | _ => false) = true) : ∃ report, Occurrence.told run who report ∈ log := by
  obtain ⟨o, ho, htold⟩ := List.any_eq_true.mp h
  split at htold
  · next r w report =>
    obtain ⟨rfl, rfl⟩ : r = run ∧ w = who := by simpa using htold
    exact ⟨report, ho⟩
  · exact nomatch htold

/-- A subscriber is taken back while one before it is being told of a report, and is told next. -/
theorem told_despite_unwatch :
    let file : Path := ⟨"/", ["w", "a"]⟩
    let run : Run := ⟨"a", 0, 1⟩
    let c : Coordinator ScriptedNotifier := .new {} {} {} []
    let d := (c.play [.watch ⟨"a", file⟩ "x", .watch ⟨"a", file⟩ "y", .trigger "a", .goOff "a",
      .finish run { exercise := "a", status := .completed }, .deliver run]).1
    ∃ report, Occurrence.told run "y" report ∈
      ((d.act (.unwatch "a" (some "y"))).1.play [.deliver run]).2 :=
  exists_told (by decide +kernel)

end Coordinator

end Grading.Watch
