import Grading.Proofs.Watch.Consistent

/-!
# Leg — what one action does to one run

A run is dispatched, comes back from the runner with a report that is published or dropped, and then
goes from subscriber to subscriber until all of them are told or a later run has been dispatched. It can
also be broken off, or given up when watching stops. Nothing else moves it, so whatever is to be shown
of a run through a history is shown case by case of a leg.
-/

namespace Grading.Watch.Coordinator

open Grading.Files

variable {N : Type} {c d : Coordinator N} {run : Run}

/-! ## 1. Where a run is -/

theorem stage?_congr (h : d.flights = c.flights) : d.stage? run = c.stage? run := by
  unfold stage?
  rw [h]

theorem stage?_filter (c : Coordinator N) (keep : Run → Bool) (run : Run) :
    { c with flights := c.flights.filter fun f => keep f.run }.stage? run =
      if keep run = true then c.stage? run else none := by
  unfold stage?
  rw [List.find?_filter]
  by_cases hkeep : keep run = true
  · have hsame : (fun f : Flight => decide (keep f.run = true ∧ decide (f.run = run) = true)) =
        fun f => decide (f.run = run) := by
      funext f
      by_cases hf : f.run = run <;> simp [hf, hkeep]
    rw [if_pos hkeep, hsame]
  · rw [if_neg hkeep, List.find?_eq_none.mpr]
    · rfl
    · intro f _
      by_cases hf : f.run = run <;> simp [hf, hkeep]

theorem stage?_land_other {other : Run} (h : run ≠ other) :
    (c.land other).stage? run = c.stage? run := by
  have hfilter := stage?_filter c (fun r => decide (r ≠ other)) run
  rw [if_pos (by simpa using h)] at hfilter
  exact hfilter

theorem stage?_setStage_other {other : Run} (h : run ≠ other) (stage : Stage) :
    (c.setStage other stage).stage? run = c.stage? run := by
  unfold stage? setStage
  have hsame : (fun f : Flight => decide (f.run = run)) ∘
      (fun f => if f.run = other then { f with stage } else f) = fun f => decide (f.run = run) := by
    funext f
    by_cases hf : f.run = other <;> simp [hf]
  dsimp only
  rw [List.find?_map, hsame]
  cases hfind : c.flights.find? fun f => decide (f.run = run) with
  | none => rfl
  | some f =>
    have hf : f.run = run := by simpa using List.find?_some hfind
    simp [hf, h]

theorem stage?_land_eq (c : Coordinator N) (other : Run) :
    (c.land other).stage? run = if run = other then none else c.stage? run := by
  by_cases hrun : run = other
  · rw [if_pos hrun, hrun, stage?_land]
  · rw [if_neg hrun, stage?_land_other hrun]

theorem stage?_setStage_eq (c : Coordinator N) (other : Run) (stage : Stage) :
    (c.setStage other stage).stage? run =
      if run = other then (c.stage? run).map fun _ => stage else c.stage? run := by
  by_cases hrun : run = other
  · rw [if_pos hrun, hrun, stage?_setStage]
  · rw [if_neg hrun, stage?_setStage_other hrun]

/-- The run that is dispatched begins in the runner; every other one stays where it is. -/
theorem stage?_dispatch {e : String} {s : Session} (hs : c.session? e = some s) (run : Run) :
    (c.dispatch e).1.stage? run = (c.stage? run).or
      (if run = ⟨e, s.serial, c.token e + 1⟩ then some .running else none) := by
  rw [dispatch_some c hs]
  unfold stage?
  dsimp only
  rw [List.find?_append, List.find?_singleton, Option.map_or]
  by_cases hrun : run = ⟨e, s.serial, c.token e + 1⟩
  · simp [hrun]
  · simp [hrun, Ne.symm hrun]

theorem stage?_eq_none (h : ∀ f ∈ c.flights, f.run ≠ run) : c.stage? run = none := by
  unfold stage?
  rw [List.find?_eq_none.mpr fun f hf => by simpa using h f hf]
  rfl

/-! ## 2. The report of a run -/

variable [Notifier N]

theorem act_finish_idle (h : c.stage? run ≠ some .running) (report : Report) :
    c.act (.finish run report) = (c, []) :=
  (act_finish_running c run report).resolve_right h

/-- The result of a current run is published and its delivery begins. -/
theorem act_finish_published {s : Session} (hstage : c.stage? run = some .running)
    (hs : c.session? run.exercise = some s) (hcurrent : c.isCurrent run = true)
    (hnew : s.published < run.token) (report : Report) : c.act (.finish run report) =
      ((c.setSession { s with published := run.token, status := report.status,
                              lastReport := some report }).setStage run
        (.delivering report s.subscribers), [.published run report]) := by
  have hpublish : c.publish run report = (c.setSession { s with
      published := run.token, status := report.status
      lastReport := some report }).setStage run (.delivering report s.subscribers) := by
    unfold publish
    rw [hs]
    exact if_pos (by simp [hcurrent, hnew])
  have hdelivering : (c.publish run report).isDelivering run = true := by
    unfold isDelivering
    rw [hpublish, stage?_setStage, show (c.setSession _).stage? run = c.stage? run from rfl, hstage]
    rfl
  unfold act
  dsimp only
  rw [hstage]
  dsimp only
  rw [if_pos hdelivering, hpublish]

/-- The result of a run that is not current, or not new, is dropped. -/
theorem act_finish_dropped (hstage : c.stage? run = some .running)
    (hold : ∀ s, c.session? run.exercise = some s → c.isCurrent run = true →
      run.token ≤ s.published) (report : Report) :
    c.act (.finish run report) = (c.land run, []) := by
  rcases publish_cases c run report with hdrop | ⟨s, hs, hserial, hlatest, hnew, -⟩
  · have hdelivering : (c.publish run report).isDelivering run = false := by
      unfold isDelivering
      rw [hdrop, stage?_land]
    unfold act
    dsimp only
    rw [hstage]
    dsimp only
    rw [if_neg (by simp [hdelivering]), hdrop]
  · have hcurrent : c.isCurrent run = true := (isCurrent_iff c run).mpr ⟨s, hs, hserial, hlatest⟩
    exact absurd hnew (Nat.not_lt.mpr (hold s hs hcurrent))

/-! ## 3. Telling the next subscriber -/

/-- A delivery tells the next subscriber while its run is current. -/
theorem act_deliver_next {report : Report} {who : Subscriber} {rest : List Subscriber}
    (hstage : c.stage? run = some (.delivering report (who :: rest)))
    (hcurrent : c.isCurrent run = true) : c.act (.deliver run) =
      (c.setStage run (.delivering report rest), [.told run who report]) := by
  have hnext : c.deliver run = (c.setStage run (.delivering report rest), some (who, report)) := by
    unfold deliver
    rw [hstage]
    exact if_pos hcurrent
  unfold act
  dsimp only
  rw [hnext]
  rfl

/-- A delivery ends when everyone has been told or its run is no longer current. -/
theorem act_deliver_over {report : Report} {rest : List Subscriber}
    (hstage : c.stage? run = some (.delivering report rest))
    (hover : rest = [] ∨ c.isCurrent run = false) : c.act (.deliver run) = (c.land run, []) := by
  have hland : c.deliver run = (c.land run, none) := by
    unfold deliver
    rw [hstage]
    cases rest with
    | nil => rfl
    | cons who rest =>
      have houtdated : c.isCurrent run = false := hover.resolve_left (List.cons_ne_nil who rest)
      exact if_neg (by simp [houtdated])
  unfold act
  dsimp only
  rw [hland]
  rfl

theorem act_deliver_idle (h : ∀ report rest, c.stage? run ≠ some (.delivering report rest)) :
    c.act (.deliver run) = (c, []) := by
  have hsame : c.deliver run = (c, none) := by
    unfold deliver
    split
    · next hstage => exact absurd hstage (h _ _)
    · next hstage => exact absurd hstage (h _ _)
    · rfl
  unfold act
  dsimp only
  rw [hsame]
  rfl

/-! ## 4. Legs -/

variable {log : List Occurrence}

inductive Leg (c : Coordinator N) (run : Run) : Action → Option Stage → Option Stage → Prop where
  | kept {a : Action} {x : Option Stage} (hdispatched : Occurrence.dispatched run ∉ (c.act a).2)
      (hfinish : ∀ report, a = .finish run report → x ≠ some .running)
      (hdeliver : ∀ report rest, a = .deliver run → x ≠ some (.delivering report rest))
      (hbreakOff : a = .breakOff run → x = none)
      (hstop : ∀ stubborn, a = .stop stubborn → c.running = true → x ≠ none → run ∈ stubborn) :
      Leg c run a x x
  | dispatched (h : Occurrence.dispatched run ∈ (c.act (.goOff run.exercise)).2) :
      Leg c run (.goOff run.exercise) none (some .running)
  | published {report : Report} {s : Session} (hs : c.session? run.exercise = some s)
      (hserial : s.serial = run.session) (hlatest : s.latest = run.token)
      (hnew : s.published < run.token)
      (hseen : (c.act (.finish run report)).2 = [.published run report]) :
      Leg c run (.finish run report) (some .running) (some (.delivering report s.subscribers))
  | dropped {report : Report}
      (hold : ∀ s, c.session? run.exercise = some s → c.isCurrent run = true →
        run.token ≤ s.published) :
      Leg c run (.finish run report) (some .running) none
  | told {report : Report} {who : Subscriber} {rest : List Subscriber}
      (hcurrent : c.isCurrent run = true)
      (hseen : (c.act (.deliver run)).2 = [.told run who report]) :
      Leg c run (.deliver run) (some (.delivering report (who :: rest)))
        (some (.delivering report rest))
  | ended {report : Report} {rest : List Subscriber}
      (h : rest = [] ∨ c.isCurrent run = false) :
      Leg c run (.deliver run) (some (.delivering report rest)) none
  | brokenOff {stage : Stage} : Leg c run (.breakOff run) (some stage) none
  | givenUp {stage : Stage} {stubborn : List Run} (hrunning : c.running = true)
      (hrun : run ∉ stubborn) : Leg c run (.stop stubborn) (some stage) none

theorem flights_stopDespite (h : c.running = true) (stubborn : Run → Bool) :
    (c.stopDespite stubborn).1.flights = c.flights.filter fun f => stubborn f.run := by
  unfold stopDespite
  rw [if_neg (by simp [h])]
  exact (foldl_keeps settle settle_keeps _ _).2

theorem act_stop_idle (h : c.running = false) (stubborn : List Run) :
    c.act (.stop stubborn) = (c, []) := by
  unfold act stopDespite
  dsimp only
  rw [if_pos (by simp [h])]
  rfl

/-- A stop ends every run but those that will not be cancelled. -/
theorem stage?_act_stop (h : c.running = true) (stubborn : List Run) (run : Run) :
    (c.act (.stop stubborn)).1.stage? run = if run ∈ stubborn then c.stage? run else none := by
  have hflights : (c.act (.stop stubborn)).1.flights =
      c.flights.filter fun f => decide (f.run ∈ stubborn) :=
    flights_stopDespite h fun r => r ∈ stubborn
  have hfilter := stage?_filter c (fun r => decide (r ∈ stubborn)) run
  simp only [decide_eq_true_eq] at hfilter
  rw [← hfilter]
  exact stage?_congr hflights

/-- A run that nothing happens to stays where it is. -/
theorem Leg.still {a : Action} (hstage : (c.act a).1.stage? run = c.stage? run)
    (hstop : ∀ stubborn, a ≠ .stop stubborn) (hgoOff : a ≠ .goOff run.exercise)
    (hfinish : ∀ report, a ≠ .finish run report) (hbreakOff : a ≠ .breakOff run)
    (hdeliver : a ≠ .deliver run) : Leg c run a (c.stage? run) ((c.act a).1.stage? run) := by
  rw [hstage]
  refine .kept (fun hmem => hgoOff (comesFrom_act hmem).1) (fun report h => absurd h (hfinish report))
    (fun _ _ h => absurd h hdeliver) (fun h => absurd h hbreakOff)
    fun stubborn h => absurd h (hstop stubborn)

theorem leg_goOff (hc : c.Consistent log) (e : String) :
    Leg c run (.goOff e) (c.stage? run) ((c.act (.goOff e)).1.stage? run) := by
  rcases act_goOff c e with hact | ⟨s, hs, hact⟩
  · rw [hact]
    exact .kept (by rw [hact]; exact List.not_mem_nil) nofun nofun nofun nofun
  · have hstage : (c.act (.goOff e)).1.stage? run = (c.stage? run).or
        (if run = ⟨e, s.serial, c.token e + 1⟩ then some .running else none) := by
      rw [hact]
      exact stage?_dispatch hs run
    by_cases hrun : run = ⟨e, s.serial, c.token e + 1⟩
    -- No run in flight has the token that is given out now.
    · have hnone : c.stage? run = none := by
        refine stage?_eq_none fun f hf hsame => ?_
        have hle := hc.token_le hf
        rw [hsame, hrun] at hle
        exact Nat.not_succ_le_self _ hle
      rw [hstage, hnone, if_pos hrun, Option.none_or]
      subst hrun
      refine .dispatched ?_
      rw [hact]
      exact List.mem_singleton_self _
    · rw [hstage, if_neg hrun, Option.or_none]
      refine .kept (fun hmem => hrun ?_) nofun nofun nofun nofun
      rw [hact] at hmem
      exact Occurrence.dispatched.inj (List.mem_singleton.mp hmem)

theorem leg_finish (c : Coordinator N) (report : Report) :
    Leg c run (.finish run report) (c.stage? run) ((c.act (.finish run report)).1.stage? run) := by
  have hquiet : Occurrence.dispatched run ∉ (c.act (.finish run report)).2 :=
    fun hmem => nomatch (comesFrom_act hmem).1
  by_cases hrunning : c.stage? run = some .running
  · by_cases hpublished : ∃ s, c.session? run.exercise = some s ∧ c.isCurrent run = true ∧
        s.published < run.token
    · obtain ⟨s, hs, hcurrent, hnew⟩ := hpublished
      have hact := act_finish_published hrunning hs hcurrent hnew report
      obtain ⟨t, ht, hserial, hlatest⟩ := (isCurrent_iff c run).mp hcurrent
      obtain rfl : s = t := Option.some.inj (hs.symm.trans ht)
      rw [hrunning, hact, stage?_setStage, show (c.setSession _).stage? run = c.stage? run from rfl,
        hrunning]
      exact .published hs hserial hlatest hnew (by rw [hact])
    · have hold : ∀ s, c.session? run.exercise = some s → c.isCurrent run = true →
          run.token ≤ s.published := fun s hs hcurrent =>
        Nat.le_of_not_lt fun hnew => hpublished ⟨s, hs, hcurrent, hnew⟩
      rw [hrunning, act_finish_dropped hrunning hold, stage?_land]
      exact .dropped hold
  · have hact := act_finish_idle hrunning report
    refine (congrArg (fun d => Leg c run (.finish run report) (c.stage? run) (d.1.stage? run))
      hact).mpr ?_
    exact .kept hquiet (fun _ _ => hrunning) nofun nofun nofun

theorem leg_deliver (c : Coordinator N) :
    Leg c run (.deliver run) (c.stage? run) ((c.act (.deliver run)).1.stage? run) := by
  have hquiet : Occurrence.dispatched run ∉ (c.act (.deliver run)).2 :=
    fun hmem => nomatch (comesFrom_act hmem).1
  by_cases hdelivering : ∃ report rest, c.stage? run = some (.delivering report rest)
  · obtain ⟨report, rest, hstage⟩ := hdelivering
    by_cases hover : rest = [] ∨ c.isCurrent run = false
    · rw [hstage, act_deliver_over hstage hover, stage?_land]
      exact .ended hover
    · obtain ⟨hrest, hcurrent⟩ := not_or.mp hover
      obtain ⟨who, rest, rfl⟩ := List.exists_cons_of_ne_nil hrest
      rw [Bool.not_eq_false] at hcurrent
      have hact := act_deliver_next hstage hcurrent
      rw [hact, stage?_setStage, hstage]
      exact .told hcurrent (by rw [hact])
  · have hnone : ∀ report rest, c.stage? run ≠ some (.delivering report rest) :=
      fun report rest h => hdelivering ⟨report, rest, h⟩
    have hsame : (c.act (.deliver run)).1 = c := by rw [act_deliver_idle hnone]
    rw [hsame]
    exact .kept hquiet nofun (fun report rest _ => hnone report rest) nofun nofun

/-- Every action takes every run through a leg. -/
theorem leg_act (hc : c.Consistent log) (a : Action) (run : Run) :
    Leg c run a (c.stage? run) ((c.act a).1.stage? run) := by
  -- A run is carried on by the actions that name it. Those that name another leave it where it is.
  cases a with
  | goOff e => exact leg_goOff hc e
  | finish other report =>
    by_cases hrun : run = other
    · subst hrun
      exact leg_finish c report
    · refine .still ?_ nofun nofun (by simp [Ne.symm hrun]) nofun nofun
      rcases act_finish c other report with hact | hact | ⟨s, -, -, -, -, hact⟩
      · rw [hact]
      · rw [hact, stage?_land_other hrun]
      · rw [hact, stage?_setStage_other hrun]
        rfl
  | deliver other =>
    by_cases hrun : run = other
    · subst hrun
      exact leg_deliver c
    · refine .still ?_ nofun nofun nofun nofun (by simp [Ne.symm hrun])
      rcases act_deliver c other with hact | hact | ⟨_, _, _, -, -, hact⟩
      · rw [hact]
      · rw [hact, stage?_land_other hrun]
      · rw [hact, stage?_setStage_other hrun]
  | breakOff other =>
    by_cases hrun : run = other
    · subst hrun
      show Leg c run (.breakOff run) (c.stage? run) ((c.land run).stage? run)
      rw [stage?_land]
      cases hstage : c.stage? run with
      | none => exact .kept nofun nofun nofun (fun _ => rfl) nofun
      | some stage => exact .brokenOff
    · exact .still (stage?_land_other hrun) nofun nofun nofun (by simp [Ne.symm hrun]) nofun
  | stop stubborn =>
    by_cases hrunning : c.running = true
    · rw [stage?_act_stop hrunning]
      by_cases hrun : run ∈ stubborn
      · rw [if_pos hrun]
        refine .kept (fun hmem => nomatch (comesFrom_act hmem).1) nofun nofun nofun ?_
        rintro other ⟨⟩ - -
        exact hrun
      · rw [if_neg hrun]
        cases hstage : c.stage? run with
        | none => exact .kept (fun hmem => nomatch (comesFrom_act hmem).1) nofun nofun nofun nofun
        | some stage => exact .givenUp hrunning hrun
    · have hsame : (c.act (.stop stubborn)).1 = c := by
        rw [act_stop_idle (by simpa using hrunning)]
      rw [hsame]
      exact .kept (fun hmem => nomatch (comesFrom_act hmem).1) nofun nofun nofun
        fun _ _ h => absurd h hrunning
  | _ =>
    refine .still (stage?_congr (flights_other ?_ ?_ ?_ ?_ ?_)) ?_ ?_ ?_ ?_ ?_ <;> nofun

end Grading.Watch.Coordinator
