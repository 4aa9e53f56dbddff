import Grading.Proofs.Watch.Leg

/-!
# Underway — a published report on its way to the subscribers

From its publication on, a report goes to those who subscribe then, one at every turn. As long as
nothing that happens concerns its delivery, the turns alone decide who has been told; before it is
published and after the last turn nobody is told.
-/

namespace Grading.Watch

/-- The subscribers that are told of a run, each with the report. -/
def tellings (run : Run) (log : List Occurrence) : List (Subscriber × Report) :=
  log.filterMap fun
    | .told other who report => if other = run then some (who, report) else none
    | _ => none

/-- Whether an action tells the next subscriber of a run, or ends the run if there is none. -/
def Action.delivers (run : Run) : Action → Bool
  | .deliver other => other = run
  | _ => false

theorem tellings_append (run : Run) (log more : List Occurrence) :
    tellings run (log ++ more) = tellings run log ++ tellings run more :=
  List.filterMap_append

theorem tellings_eq_nil {run : Run} {log : List Occurrence}
    (h : ∀ who report, Occurrence.told run who report ∉ log) : tellings run log = [] := by
  refine List.filterMap_eq_nil_iff.mpr fun o ho => ?_
  cases o with
  | told other who report =>
    refine if_neg fun hrun => ?_
    rw [hrun] at ho
    exact h who report ho
  | _ => rfl

theorem Action.delivers_iff {run : Run} {a : Action} : a.delivers run = true ↔ a = .deliver run := by
  cases a <;> simp [Action.delivers]

namespace Coordinator

variable {N : Type} [Notifier N] {c : Coordinator N} {s : Session} {run : Run} {report : Report}
  {log : List Occurrence} {k : Nat}

/-! ## 1. A delivery that is left alone -/

/-- Whether an action leaves the delivery of a run alone: it dispatches no later run of the exercise,
does not end the session, does not stop the watching and does not break the run off. -/
def leaves (c : Coordinator N) (run : Run) : Action → Bool
  | .goOff e => e ≠ run.exercise || !c.isTimed e
  | .unwatch e who => e ≠ run.exercise || ((c.unwatch e who).1.session? e).isSome
  | .stop _ => !c.running
  | .breakOff other => other ≠ run
  | _ => true

/-- Whether the delivery of a run is left alone through a history. -/
def isLeft (c : Coordinator N) (run : Run) : List Action → Bool
  | [] => true
  | a :: as => c.leaves run a && (c.act a).1.isLeft run as

omit [Notifier N] in
/-- The report of a run was published in a session, and so many turns of its delivery are over. -/
structure Underway (c : Coordinator N) (run : Run) (report : Report) (s : Session) (k : Nat) :
    Prop where
  serial : s.serial = run.session
  latest : s.latest = run.token
  published : s.published = run.token
  session : ∃ subscribers timer, c.session? run.exercise = some { s with subscribers, timer }
  stage : c.stage? run =
    if k ≤ s.subscribers.length then some (.delivering report (s.subscribers.drop k)) else none

namespace Underway

omit [Notifier N] in
theorem isCurrent (h : c.Underway run report s k) : c.isCurrent run = true := by
  obtain ⟨subscribers, timer, hs⟩ := h.session
  exact (isCurrent_iff c run).mpr ⟨_, hs, h.serial, h.latest⟩

/-- Only subscriptions and the timer of the session change. -/
theorem session_act (h : c.Underway run report s k) (hc : c.Consistent log) {a : Action}
    (hleft : c.leaves run a = true) : ∃ subscribers timer,
      (c.act a).1.session? run.exercise = some { s with subscribers, timer } := by
  obtain ⟨subscribers, timer, hs⟩ := h.session
  have hturn := turn_act hc.distinct hc.filed a run.exercise
  rw [hs] at hturn
  generalize hy : (c.act a).1.session? run.exercise = y at hturn
  cases hturn with
  | kept => exact ⟨subscribers, timer, rfl⟩
  | joined subscribers => exact ⟨subscribers, timer, rfl⟩
  | left subscribers => exact ⟨subscribers, timer, rfl⟩
  | scheduled order => exact ⟨subscribers, _, rfl⟩
  | @closed who =>
    have hgone : ((c.unwatch run.exercise who).1.session? run.exercise).isSome = false := by
      rw [show (c.unwatch run.exercise who).1.session? run.exercise = none from hy]
      rfl
    simp [leaves, hgone] at hleft
  | dispatched htimed => simp [leaves, htimed] at hleft
  -- Nothing else is published under the latest token.
  | published _ _ _ hlatest hnew =>
    rw [← hlatest, h.latest, h.published] at hnew
    exact absurd hnew (Nat.lt_irrefl _)
  | settled hrunning => simp [leaves, hrunning] at hleft

/-- A turn tells the next subscriber, or ends the run after the last; all other actions that leave
the delivery alone leave it where it is. -/
theorem stage_act (h : c.Underway run report s k) (hc : c.Consistent log) {a : Action}
    (hleft : c.leaves run a = true) :
    let turn := if a.delivers run = true then 1 else 0
    ((c.act a).1.stage? run = if k + turn ≤ s.subscribers.length then
        some (.delivering report (s.subscribers.drop (k + turn))) else none) ∧
      tellings run (c.act a).2 = ((s.subscribers.drop k).take turn).map (·, report) := by
  intro turn
  have hleg := leg_act hc a run
  have hstage := h.stage
  generalize hy : (c.act a).1.stage? run = y at hleg
  by_cases hk : k ≤ s.subscribers.length
  -- The run is with the subscribers that are left, who may be none any more.
  · rw [if_pos hk] at hstage
    generalize hrest : s.subscribers.drop k = rest at hstage
    rw [hstage] at hleg
    cases hleg with
    | kept _ _ hdeliver =>
      have hother : a ≠ .deliver run := fun ha => hdeliver report rest ha rfl
      have hturn : turn = 0 := if_neg fun hd => hother (Action.delivers_iff.mp hd)
      have hsilent : tellings run (c.act a).2 = [] :=
        tellings_eq_nil fun who rep htold => hother (comesFrom_act htold).1
      rw [hturn, hsilent, Nat.add_zero, if_pos hk, hrest]
      exact ⟨rfl, rfl⟩
    | @told _ who rest hcurrent hseen =>
      have hturn : turn = 1 := if_pos (Action.delivers_iff.mpr rfl)
      have hlt : k + 1 ≤ s.subscribers.length := by
        have hlength := congrArg List.length hrest
        rw [List.length_drop, List.length_cons] at hlength
        omega
      have hnext : s.subscribers.drop (k + 1) = rest := by
        rw [← List.tail_drop, hrest]
        rfl
      rw [hturn, if_pos hlt, hnext, hseen]
      exact ⟨rfl, by simp [tellings]⟩
    | ended hend =>
      have hturn : turn = 1 := if_pos (Action.delivers_iff.mpr rfl)
      have hnil : rest = [] := hend.resolve_right (by simp [h.isCurrent])
      have hlength : s.subscribers.length ≤ k := List.drop_eq_nil_iff.mp (hrest.trans hnil)
      have hsilent : tellings run (c.act (.deliver run)).2 = [] := by
        refine tellings_eq_nil fun who rep htold => ?_
        obtain ⟨-, rest', hfirst⟩ := told_first htold
        rw [hstage, hnil] at hfirst
        exact nomatch hfirst
      rw [hturn, hsilent, hnil, if_neg (Nat.not_le_of_lt (Nat.lt_succ_of_le hlength))]
      exact ⟨rfl, rfl⟩
    | brokenOff => simp [leaves] at hleft
    | givenUp hrunning => simp [leaves, hrunning] at hleft
  -- The run is over. It could only be dispatched again, and that is not left alone.
  · rw [if_neg hk] at hstage
    have hmore : ¬ k + turn ≤ s.subscribers.length := fun hle =>
      hk (Nat.le_trans (Nat.le_add_right k turn) hle)
    have hsilent : tellings run (c.act a).2 = [] := by
      refine tellings_eq_nil fun who rep htold => ?_
      obtain ⟨-, rest, hfirst⟩ := told_first htold
      exact nomatch hstage.symm.trans hfirst
    have hdrop : s.subscribers.drop k = [] :=
      List.drop_eq_nil_of_le (Nat.le_of_lt (Nat.lt_of_not_le hk))
    rw [if_neg hmore, hsilent, hdrop]
    rw [hstage] at hleg
    cases hleg with
    | kept => exact ⟨rfl, by rw [List.take_nil, List.map_nil]⟩
    | dispatched hnew =>
      have htimed := (comesFrom_act hnew).2
      simp [leaves, htimed] at hleft

/-- A delivery under way stays so until an action takes it away, and counts the callbacks it has
told. -/
theorem act (h : c.Underway run report s k) (hc : c.Consistent log) {a : Action}
    (hleft : c.leaves run a = true) :
    (c.act a).1.Underway run report s (k + if a.delivers run = true then 1 else 0) :=
  ⟨h.serial, h.latest, h.published, h.session_act hc hleft, (h.stage_act hc hleft).1⟩

/-- Through a history that leaves the delivery alone, as many subscribers are told as there are
turns. -/
theorem play (h : c.Underway run report s k) (hc : c.Consistent log) {actions : List Action}
    (hleft : c.isLeft run actions = true) :
    let turns := actions.countP (·.delivers run)
    (c.play actions).1.Underway run report s (k + turns) ∧
      tellings run (c.play actions).2 = ((s.subscribers.drop k).take turns).map (·, report) := by
  induction actions generalizing c k log with
  | nil => exact ⟨h, rfl⟩
  | cons a as ih =>
    obtain ⟨hfirst, hrest⟩ := Bool.and_eq_true_iff.mp hleft
    obtain ⟨hunderway, htold⟩ := ih (h.act hc hfirst) (hc.act a) hrest
    have hnow := (h.stage_act hc hfirst).2
    intro turns
    have hturns : turns = (if a.delivers run = true then 1 else 0) + as.countP (·.delivers run) := by
      rw [Nat.add_comm]
      exact List.countP_cons
    rw [hturns, ← Nat.add_assoc]
    refine ⟨hunderway, ?_⟩
    show tellings run ((c.act a).2 ++ ((c.act a).1.play as).2) = _
    rw [tellings_append, hnow, htold, ← List.map_append, ← List.drop_drop, ← List.take_add]

end Underway

/-! ## 2. Before and after -/

/-- From its publication on, a delivery is under way. -/
theorem underway_finish (h : Occurrence.published run report ∈ (c.act (.finish run report)).2) :
    c.stage? run = some .running ∧ ∃ s,
      (c.act (.finish run report)).1.session? run.exercise = some s ∧
        (c.act (.finish run report)).1.Underway run report s 0 := by
  have hrunning : c.stage? run = some .running := by
    refine (act_finish_running c run report).resolve_left fun hact => ?_
    rw [hact] at h
    exact nomatch h
  refine ⟨hrunning, ?_⟩
  rcases act_finish c run report with hact | hact | ⟨s, hs, hserial, hlatest, hnew, hact⟩
  · rw [hact] at h
    exact nomatch h
  · rw [hact] at h
    exact nomatch h
  · let t := { s with published := run.token, status := report.status, lastReport := some report }
    have hsession : (c.setSession t).session? run.exercise = some t := by
      rw [session?_replaced hs (by rfl), if_pos rfl]
    have hstage : (c.setSession t).stage? run = some .running := hrunning
    rw [hact]
    refine ⟨t, hsession, hserial, hlatest, rfl, ⟨t.subscribers, t.timer, hsession⟩, ?_⟩
    rw [stage?_setStage, hstage, if_pos (Nat.zero_le _)]
    rfl

/-- A run is dispatched once. -/
theorem Consistent.notMem_dispatched (hc : c.Consistent log) (h : Occurrence.dispatched run ∈ log)
    (a : Action) : Occurrence.dispatched run ∉ (c.act a).2 := by
  intro hnew
  have hmem : ∀ {l : List Occurrence}, Occurrence.dispatched run ∈ l →
      run.token ∈ dispatchedTokens run.exercise l :=
    fun hrun => List.mem_filterMap.mpr ⟨_, hrun, if_pos rfl⟩
  have hlt := (hc.act a).ledger.dispatched_lt run.exercise
  rw [dispatchedTokens_append, List.pairwise_append] at hlt
  exact Nat.lt_irrefl _ (hlt.2.2 _ (hmem h) _ (hmem hnew))

/-- A report is published once. -/
theorem Consistent.notMem_published (hc : c.Consistent log) {other : Report}
    (h : Occurrence.published run other ∈ log) (a : Action) :
    Occurrence.published run report ∉ (c.act a).2 := by
  intro hnew
  have hmem : ∀ {l : List Occurrence} {r : Report}, Occurrence.published run r ∈ l →
      run.token ∈ publishedTokens run.exercise l :=
    fun hrun => List.mem_filterMap.mpr ⟨_, hrun, if_pos rfl⟩
  have hlt := (hc.act a).ledger.published_lt run.exercise
  rw [publishedTokens_append, List.pairwise_append] at hlt
  exact Nat.lt_irrefl _ (hlt.2.2 _ (hmem h) _ (hmem hnew))

/-- Nobody is told of a report before it is published. -/
theorem Consistent.published_of_told (hc : c.Consistent log) {actions : List Action}
    (h : ∀ run who report, Occurrence.told run who report ∈ log →
      Occurrence.published run report ∈ log) :
    ∀ run who report, Occurrence.told run who report ∈ log ++ (c.play actions).2 →
      Occurrence.published run report ∈ log ++ (c.play actions).2 := by
  induction actions generalizing c log with
  | nil =>
    rw [show (c.play []).2 = [] from rfl, List.append_nil]
    exact h
  | cons a as ih =>
    have hlater := ih (hc.act a) fun run who report htold => ?_
    · rw [List.append_assoc] at hlater
      exact hlater
    rcases List.mem_append.mp htold with hold | hnew
    · exact List.mem_append_left _ (h run who report hold)
    -- Who is told now is told of a run in flight, and the log records its publication.
    · obtain ⟨-, rest, hstage⟩ := told_act hnew
      obtain ⟨f, hf, rfl, hfstage⟩ := stage?_some hstage
      exact List.mem_append_left _ ((hc.flights f hf).published report rest hfstage)

/-- A run that is over stays so, and nobody is told of it any more. -/
theorem tellings_after (hc : c.Consistent log) (hdispatched : Occurrence.dispatched run ∈ log)
    (hover : c.stage? run = none) (actions : List Action) :
    tellings run (c.play actions).2 = [] := by
  induction actions generalizing c log with
  | nil => rfl
  | cons a as ih =>
    have hstill : (c.act a).1.stage? run = none := by
      have hleg := leg_act hc a run
      rw [hover] at hleg
      generalize (c.act a).1.stage? run = y at hleg
      cases hleg with
      | kept => rfl
      | dispatched hnew => exact absurd hnew (hc.notMem_dispatched hdispatched _)
    have hnow : tellings run (c.act a).2 = [] := by
      refine tellings_eq_nil fun who rep htold => ?_
      obtain ⟨-, rest, hfirst⟩ := told_first htold
      exact nomatch hover.symm.trans hfirst
    show tellings run ((c.act a).2 ++ ((c.act a).1.play as).2) = []
    rw [tellings_append, hnow, ih (hc.act a) (List.mem_append_left _ hdispatched) hstill]
    rfl

end Coordinator

end Grading.Watch
