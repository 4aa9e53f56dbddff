import Grading.Proofs.Watch.Burst
import Grading.Proofs.Watch.Halt
import Grading.Proofs.Watch.Leg

/-!
# Honest — what a session shows of its runs

A session is in progress as long as the runner owes the report of its latest run, and no longer: a run
that is superseded, given up or left behind by its session leaves nothing behind that looks like work.
Otherwise it shows the status of its last report, which is the one that was published last. All this
rests on a runner that does not fail and that gives finished reports under the tokens it was given.
-/

namespace Grading.Watch

open Grading.Files

/-- The run of a session that was dispatched last, if one was since its token was given out. -/
def Session.latestRun (s : Session) : Run := ⟨s.exercise, s.serial, s.latest⟩

namespace Coordinator

variable {N : Type} [Notifier N] {c : Coordinator N} {s : Session} {e : String} {run : Run}
  {log : List Occurrence} {answered : List Run}

/-! ## 1. What the runner does -/

omit [Notifier N] in
def isRunning (c : Coordinator N) (run : Run) : Bool :=
  match c.stage? run with
  | some .running => true
  | _ => false

omit [Notifier N] in
theorem isRunning_iff : c.isRunning run = true ↔ c.stage? run = some .running := by
  unfold isRunning
  split
  · next hstage => simp [hstage]
  · next hstage => simpa using hstage

omit [Notifier N] in
/-- Whether the runner keeps its word in an action: it does not fail, and the report that it gives
is finished and carries the token of the run. -/
def keepsWord (c : Coordinator N) : Action → Bool
  | .finish run report => !c.isRunning run ||
      (report.token = run.token && (report.status = .completed || report.status = .failed))
  | .breakOff run => !c.isRunning run
  | _ => true

def isKept (c : Coordinator N) : List Action → Bool
  | [] => true
  | a :: as => c.keepsWord a && (c.act a).1.isKept as

omit [Notifier N] in
def answer (c : Coordinator N) : Action → List Run
  | .finish run _ => if c.isRunning run then [run] else []
  | _ => []

/-- The runs whose reports the runner gives through a history, first to last. -/
def answers (c : Coordinator N) : List Action → List Run
  | [] => []
  | a :: as => c.answer a ++ (c.act a).1.answers as

omit [Notifier N] in
theorem mem_answer {a : Action} : run ∈ c.answer a ↔
    ∃ report, a = .finish run report ∧ c.stage? run = some .running := by
  cases a with
  | finish other report =>
    by_cases hrunning : c.isRunning other = true
    · have hstage := isRunning_iff.mp hrunning
      rw [answer, if_pos hrunning, List.mem_singleton]
      constructor
      · rintro rfl
        exact ⟨report, rfl, hstage⟩
      · rintro ⟨_, h, -⟩
        exact (Action.finish.inj h).1.symm
    · rw [answer, if_neg hrunning]
      refine iff_of_false List.not_mem_nil ?_
      rintro ⟨_, h, hstage⟩
      rw [← (Action.finish.inj h).1] at hstage
      exact hrunning (isRunning_iff.mpr hstage)
  | _ => simp [answer]

omit [Notifier N] in
theorem finished_of_keepsWord {report : Report} (h : c.keepsWord (.finish run report) = true)
    (hstage : c.stage? run = some .running) :
    report.token = run.token ∧ (report.status = .completed ∨ report.status = .failed) := by
  have hrunning := isRunning_iff.mpr hstage
  simpa [keepsWord, hrunning] using h

omit [Notifier N] in
theorem not_running_of_keepsWord (h : c.keepsWord (.breakOff run) = true) :
    c.stage? run ≠ some .running := by
  rw [Ne, ← isRunning_iff]
  simpa [keepsWord] using h

/-! ## 2. Which reports the runner owes -/

omit [Notifier N] in
/-- The runner owes the report of a run exactly when the log says that the run was dispatched, and it
has not given the report yet. -/
def Owed (c : Coordinator N) (log : List Occurrence) (answered : List Run) (run : Run) : Prop :=
  c.stage? run = some .running ↔ Occurrence.dispatched run ∈ log ∧ run ∉ answered

structure Accounted (c : Coordinator N) (log : List Occurrence) (answered : List Run) : Prop where
  dispatched : ∀ run ∈ answered, Occurrence.dispatched run ∈ log
  session_lt : ∀ run, Occurrence.dispatched run ∈ log → run.session < c.opened
  owed : ∀ e s, c.session? e = some s → c.Owed log answered s.latestRun

omit [Notifier N] in
/-- A token that has not been given out belongs to no run. -/
theorem owed_of_lt (hc : c.Consistent log) (h : c.token run.exercise < run.token) :
    c.stage? run = none ∧ Occurrence.dispatched run ∉ log := by
  constructor
  · refine stage?_eq_none fun f hf hsame => ?_
    have hle := hc.token_le hf
    rw [hsame] at hle
    exact Nat.not_le_of_lt h hle
  · intro hmem
    have hle := hc.ledger.dispatched_le run.exercise run.token
      (List.mem_filterMap.mpr ⟨_, hmem, if_pos rfl⟩)
    exact Nat.not_le_of_lt h hle

/-- What is owed of a run stays accounted for, unless watching is stopped and the run is given up
before its report is there. -/
theorem Owed.act (h : c.Owed log answered run) (hc : c.Consistent log)
    (hanswered : ∀ r ∈ answered, Occurrence.dispatched r ∈ log) {a : Action}
    (hkeeps : c.keepsWord a = true)
    (hstop : ∀ stubborn, a = .stop stubborn → c.running = true → c.stage? run ≠ some .running) :
    (c.act a).1.Owed (log ++ (c.act a).2) (answered ++ c.answer a) run := by
  have hleg := leg_act hc a run
  -- A run that was not in the runner and is not dispatched now is in it no more than before.
  have hidle : c.stage? run ≠ some .running → (c.act a).1.stage? run ≠ some .running →
      Occurrence.dispatched run ∉ (c.act a).2 →
      (c.act a).1.Owed (log ++ (c.act a).2) (answered ++ c.answer a) run := by
    intro hbefore hafter hquiet
    refine iff_of_false hafter ?_
    rintro ⟨hmem, hnot⟩
    have hold := (List.mem_append.mp hmem).resolve_right hquiet
    exact hbefore (h.mpr ⟨hold, fun hin => hnot (List.mem_append_left _ hin)⟩)
  have hsilent : (∀ e, a ≠ .goOff e) → Occurrence.dispatched run ∉ (c.act a).2 :=
    fun hother hmem => hother _ (comesFrom_act hmem).1
  generalize hx : c.stage? run = x at hleg
  generalize hy : (c.act a).1.stage? run = y at hleg
  cases hleg with
  | kept hdispatched hfinish =>
    have hnot : run ∉ c.answer a := by
      intro hmem
      obtain ⟨report, ha, hrunning⟩ := mem_answer.mp hmem
      exact hfinish report ha (hx ▸ hrunning)
    unfold Owed
    rw [hy, ← hx, List.mem_append, List.mem_append, or_iff_left hdispatched, or_iff_left hnot]
    exact h
  | dispatched hmem =>
    obtain ⟨-, -, -, htoken, -⟩ := goOff_act hmem
    have hlt : c.token run.exercise < run.token := by omega
    have hnew := (owed_of_lt hc hlt).2
    have hin : Occurrence.dispatched run ∈ log ++ (c.act (.goOff run.exercise)).2 :=
      List.mem_append_right _ hmem
    refine iff_of_true hy ⟨hin, fun hin => ?_⟩
    exact hnew (hanswered run ((List.mem_append.mp hin).resolve_right List.not_mem_nil))
  | published | dropped =>
    refine iff_of_false (by rw [hy]; nofun) ?_
    rintro ⟨-, hnot⟩
    exact hnot (List.mem_append_right _ (mem_answer.mpr ⟨_, rfl, hx⟩))
  | told | ended =>
    exact hidle (by rw [hx]; nofun) (by rw [hy]; nofun) (hsilent nofun)
  | brokenOff =>
    exact hidle (not_running_of_keepsWord hkeeps) (by rw [hy]; nofun) (hsilent nofun)
  | givenUp hrunning =>
    exact hidle (hstop _ rfl hrunning) (by rw [hy]; nofun) (hsilent nofun)

/-- Stopping gives out another token, so a session that stays as it is was not stopped. -/
theorem not_running_of_same {stubborn : List Run} (hc : c.Consistent log)
    (hs : c.session? e = some s) (hs' : (c.act (.stop stubborn)).1.session? e = some s) :
    c.running = false := by
  refine Bool.eq_false_iff.mpr fun hrunning => ?_
  have hstopped : (c.act (.stop stubborn)).1.session? e =
      (c.session? e).map fun s => s.stopped (c.token e + 1) :=
    session?_stopDespite hc.distinct hrunning (fun run => decide (run ∈ stubborn)) e
  rw [hs, hs'] at hstopped
  have htoken : s.latest = c.token e + 1 := congrArg Session.latest (Option.some.inj hstopped)
  rw [latest_eq_token hc.current hs] at htoken
  omega

theorem stage?_dispatched (hc : c.Consistent log) {a : Action}
    (h : Occurrence.dispatched run ∈ (c.act a).2) : (c.act a).1.stage? run = some .running := by
  obtain ⟨rfl, -⟩ := comesFrom_act h
  have hleg := leg_act hc (.goOff run.exercise) run
  generalize c.stage? run = x at hleg
  generalize (c.act (.goOff run.exercise)).1.stage? run = y at hleg ⊢
  cases hleg with
  | kept hquiet => exact absurd h hquiet
  | dispatched => rfl

/-- The latest run of a session after an action is its latest run before, or is one that nothing was
heard of before the action. -/
theorem latestRun_act (h : c.Accounted log answered) (hc : c.Consistent log) {a : Action}
    {s' : Session} (hs' : (c.act a).1.session? e = some s') :
    (∃ s, c.session? e = some s ∧ s'.latestRun = s.latestRun ∧
        ∀ stubborn, a = .stop stubborn → c.running = false) ∨
      c.stage? s'.latestRun = none ∧ Occurrence.dispatched s'.latestRun ∉ log := by
  have hturn := turn_act hc.distinct hc.filed a e
  rw [hs'] at hturn
  generalize hx : c.session? e = x at hturn
  -- A turn keeps the latest run or gives the session a token that no run has had.
  cases hturn with
  | kept =>
    refine .inl ⟨s', rfl, rfl, ?_⟩
    rintro stubborn rfl
    exact not_running_of_same hc hx hs'
  | opened =>
    right
    constructor
    · refine stage?_eq_none fun f hf hrun => ?_
      exact absurd (congrArg Run.session hrun) (Nat.ne_of_lt (hc.opened f hf))
    · exact fun hmem => Nat.lt_irrefl _ (h.session_lt _ hmem)
  | joined | left => exact .inl ⟨_, rfl, rfl, nofun⟩
  | scheduled _ hchange =>
    refine .inl ⟨_, rfl, rfl, ?_⟩
    rintro stubborn rfl
    exact nomatch hchange
  | published => exact .inl ⟨_, rfl, rfl, nofun⟩
  | dispatched | settled =>
    refine .inr (owed_of_lt hc ?_)
    rw [← exercise_of_session? hx]
    exact Nat.lt_succ_self _

/-- One action keeps every answered run accounted for. -/
theorem Accounted.act (h : c.Accounted log answered) (hc : c.Consistent log) {a : Action}
    (hkeeps : c.keepsWord a = true) :
    (c.act a).1.Accounted (log ++ (c.act a).2) (answered ++ c.answer a) := by
  have hopened := (entry_act hc.distinct a).opened_le
  refine ⟨fun run hrun => ?_, fun run hrun => ?_, fun e s' hs' => ?_⟩
  · refine List.mem_append_left _ ?_
    rcases List.mem_append.mp hrun with hold | hnew
    · exact h.dispatched run hold
    · obtain ⟨report, -, hstage⟩ := mem_answer.mp hnew
      obtain ⟨f, hf, rfl, -⟩ := stage?_some hstage
      exact (hc.flights f hf).dispatched
  · refine Nat.lt_of_lt_of_le ?_ hopened
    rcases List.mem_append.mp hrun with hold | hnew
    · exact h.session_lt run hold
    · obtain ⟨x, hx, hserial⟩ := (entry_act hc.distinct a).standing_of_dispatched hnew
      exact hserial ▸ (hc.ledger.standing _ x hx).serial_lt
  · rcases latestRun_act h hc hs' with ⟨s, hs, hsame, hstop⟩ | ⟨hstage, hnew⟩
    · rw [hsame]
      refine (h.owed e s hs).act hc h.dispatched hkeeps fun stubborn ha hrunning => ?_
      exact absurd (hstop stubborn ha) (by simp [hrunning])
    · have howed : c.Owed log answered s'.latestRun :=
        iff_of_false (by rw [hstage]; nofun) fun hmem => hnew hmem.1
      exact howed.act hc h.dispatched hkeeps fun _ _ _ => by rw [hstage]; nofun

/-! ## 3. What sessions show -/

/-- What the sessions show: they are in progress while the report of their latest run is owed, and
their last report is finished and was published last. -/
structure Honest (c : Coordinator N) : Prop where
  status : ∀ e s, c.session? e = some s →
    (s.status = .inProgress ↔ c.stage? s.latestRun = some .running)
  lastReport : ∀ e s report, c.session? e = some s → s.lastReport = some report →
    report.token = s.published ∧ (report.status = .completed ∨ report.status = .failed)

omit [Notifier N] in
theorem Honest.settled_ne (h : c.Honest) (hs : c.session? e = some s) :
    s.settled ≠ .inProgress := by
  unfold Session.settled
  split
  · nofun
  · next report hreport =>
    rcases (h.lastReport e s report hs hreport).2 with hstatus | hstatus <;> rw [hstatus] <;> nofun

/-- A session that an action leaves as it is owes the report of its latest run as before. -/
theorem running_kept (hc : c.Consistent log) {a : Action} (hkeeps : c.keepsWord a = true)
    (hs : c.session? e = some s) (hs' : (c.act a).1.session? e = some s)
    (htimer : a = .goOff e → c.isTimed e = false) :
    c.stage? s.latestRun = some .running ↔ (c.act a).1.stage? s.latestRun = some .running := by
  have hexercise : s.latestRun.exercise = e := exercise_of_session? hs
  have hleg := leg_act hc a s.latestRun
  generalize hx : c.stage? s.latestRun = x at hleg
  generalize (c.act a).1.stage? s.latestRun = y at hleg
  cases hleg with
  | kept => exact .rfl
  | dispatched hmem =>
    have htimed := (comesFrom_act hmem).2
    rw [hexercise] at htimer htimed
    exact absurd htimed (by simp [htimer rfl])
  -- A report that is published would show in the session.
  | published _ _ _ _ hseen =>
    obtain ⟨-, t, ht, -, hnew, hafter⟩ := published_act (hseen ▸ List.mem_singleton_self _)
    rw [hexercise] at ht hafter
    obtain rfl := Option.some.inj (hs.symm.trans ht)
    have hpublished := congrArg Session.published (Option.some.inj (hs'.symm.trans hafter))
    exact absurd hnew (hpublished ▸ Nat.lt_irrefl _)
  -- The report of the latest run would not have been dropped.
  | dropped hold =>
    have hle := hold s (by rw [hexercise, hs]) ((isCurrent_iff c _).mpr
      ⟨s, by rw [hexercise, hs], rfl, rfl⟩)
    obtain ⟨f, hf, hrun, hstage⟩ := stage?_some hx
    have hne := hc.unpublished f hf hstage s (by rw [hrun, hexercise, hs]) (by rw [hrun]; rfl)
    have hlatest := hc.published_le hs
    rw [← latest_eq_token hc.current hs] at hlatest
    rw [hrun] at hne
    exact absurd (Nat.le_antisymm hlatest hle) hne
  | told | ended => exact iff_of_false nofun nofun
  | brokenOff => exact iff_of_false (hx ▸ not_running_of_keepsWord hkeeps) nofun
  | givenUp hrunning =>
    exact absurd (not_running_of_same hc hs hs') (by simp [hrunning])

/-- When a timer goes off, the run that is dispatched is the latest of its session. -/
theorem dispatched_latestRun (hs : c.session? e = some s) {s' : Session}
    (hs' : (c.act (.goOff e)).1.session? e = some s') (hnew : s'.latest ≠ s.latest) :
    Occurrence.dispatched s'.latestRun ∈ (c.act (.goOff e)).2 := by
  rcases act_goOff c e with hact | ⟨t, ht, hact⟩
  · rw [hact, hs] at hs'
    exact absurd (congrArg Session.latest (Option.some.inj hs').symm) hnew
  · have hmem : Occurrence.dispatched ⟨e, t.serial, c.token e + 1⟩ ∈ (c.act (.goOff e)).2 :=
      hact ▸ List.mem_singleton_self _
    obtain ⟨u, hu, hserial, -, hafter⟩ := goOff_act hmem
    have hrun : s'.latestRun = ⟨e, t.serial, c.token e + 1⟩ := by
      rw [Option.some.inj (hs'.symm.trans hafter), Session.latestRun]
      dsimp only
      rw [exercise_of_session? hu, hserial]
    exact hrun ▸ hmem

/-- A session shows a check in progress exactly while its newest run is running, and an action
keeps it so. -/
theorem Honest.status_act (h : c.Honest) (hacc : c.Accounted log answered) (hc : c.Consistent log)
    {a : Action} (hkeeps : c.keepsWord a = true) {s' : Session}
    (hs' : (c.act a).1.session? e = some s') :
    s'.status = .inProgress ↔ (c.act a).1.stage? s'.latestRun = some .running := by
  have hturn := turn_act hc.distinct hc.filed a e
  have hleg := leg_act hc a s'.latestRun
  have hfresh := latestRun_act hacc hc hs'
  rw [hs'] at hturn
  generalize hx : c.session? e = x at hturn hfresh
  generalize hz : c.stage? s'.latestRun = z at hleg hfresh
  generalize hy : (c.act a).1.stage? s'.latestRun = y at hleg ⊢
  -- The turn of the session goes with a leg of its latest run: each case of the one leaves few of
  -- the other.
  cases hturn with
  | kept _ htimer =>
    rw [← hy]
    exact (h.status e s' hx).trans (running_kept hc hkeeps hx hs' htimer)
  | opened =>
    obtain ⟨rfl, -⟩ := hfresh.resolve_left nofun
    cases hleg
    exact iff_of_false nofun nofun
  | @joined _ _ s | @left _ s =>
    cases hleg
    exact hz ▸ h.status e s hx
  | @scheduled _ s _ hchange =>
    cases hleg with
    | kept => exact hz ▸ h.status e s hx
    | _ => exact nomatch hchange
  | @dispatched s htimed =>
    have hlatest := latest_eq_token hc.current hx
    rw [← hy]
    exact iff_of_true rfl (stage?_dispatched hc (dispatched_latestRun hx hs' (by dsimp only; omega)))
  | @published s run report hrun hstage hserial hlatest hnew =>
    obtain ⟨-, hfinished⟩ := finished_of_keepsWord hkeeps hstage
    have hstatus : report.status ≠ .inProgress := by
      rcases hfinished with hstatus | hstatus <;> rw [hstatus] <;> nofun
    -- The run that is published is the latest one, since it is current.
    have hsame : run = s.latestRun := by
      rw [Session.latestRun, hserial, hlatest, exercise_of_session? hx, ← hrun]
    subst hsame
    obtain rfl : some .running = z := hstage.symm.trans hz
    cases hleg with
    | kept _ hfinish => exact absurd rfl (hfinish report rfl)
    | published | dropped => exact iff_of_false hstatus nofun
  | @settled s stubborn hrunning =>
    -- A session that is settled shows its last result, and no run has its new token.
    have hstatus : (s.stopped (c.token e + 1)).status ≠ .inProgress := by
      show (if s.status = .inProgress then s.settled else s.status) ≠ .inProgress
      split
      · exact h.settled_ne hx
      · assumption
    obtain ⟨rfl, -⟩ := hfresh.resolve_left
      fun ⟨_, _, _, hstop⟩ => absurd (hstop _ rfl) (by simp [hrunning])
    cases hleg
    exact iff_of_false hstatus nofun

/-- One action keeps the statuses honest. -/
theorem Honest.act (h : c.Honest) (hacc : c.Accounted log answered) (hc : c.Consistent log)
    {a : Action} (hkeeps : c.keepsWord a = true) : (c.act a).1.Honest := by
  refine ⟨fun e s' hs' => h.status_act hacc hc hkeeps hs', fun e s' report hs' hreport => ?_⟩
  have hturn := turn_act hc.distinct hc.filed a e
  rw [hs'] at hturn
  generalize hx : c.session? e = x at hturn
  cases hturn with
  | kept => exact h.lastReport e s' report hx hreport
  | opened => exact nomatch hreport
  | @joined _ _ s | @left _ s | @scheduled _ s | @dispatched s | @settled s =>
    exact h.lastReport e s report hx hreport
  | published _ hstage =>
    obtain rfl := Option.some.inj hreport
    exact finished_of_keepsWord hkeeps hstage

/-! ## 4. Through a history -/

/-- What is kept through a history in which the runner keeps its word. -/
theorem honest_play (hc : c.Consistent log) (hacc : c.Accounted log answered) (h : c.Honest)
    {actions : List Action} (hkept : c.isKept actions = true) :
    (c.play actions).1.Accounted (log ++ (c.play actions).2) (answered ++ c.answers actions) ∧
      (c.play actions).1.Honest := by
  induction actions generalizing c log answered with
  | nil =>
    show c.Accounted (log ++ []) (answered ++ []) ∧ c.Honest
    rw [List.append_nil, List.append_nil]
    exact ⟨hacc, h⟩
  | cons a actions ih =>
    obtain ⟨hkeeps, hrest⟩ := Bool.and_eq_true_iff.mp hkept
    have hlater := ih (hc.act a) (hacc.act hc hkeeps) (h.act hacc hc hkeeps) hrest
    rw [List.append_assoc, List.append_assoc] at hlater
    exact hlater

omit [Notifier N] in
theorem accounted_new (notifier : N) (settings : WatchSettings) (backoff : Backoff)
    (chance : Chance) : (Coordinator.new notifier settings backoff chance).Accounted [] [] :=
  ⟨nofun, nofun, fun _ _ hs => (nomatch hs)⟩

omit [Notifier N] in
theorem honest_new (notifier : N) (settings : WatchSettings) (backoff : Backoff)
    (chance : Chance) : (Coordinator.new notifier settings backoff chance).Honest :=
  ⟨fun _ _ hs => (nomatch hs), fun _ _ _ hs => (nomatch hs)⟩

/-- In every history in which the runner keeps its word, a session is in progress exactly when its
latest run has been dispatched and the runner has not given the report of it, in which case the run
is with the runner. Otherwise the session shows the status of its last report, and that it was not
started if there is none. The last report carries the token that was published last. -/
theorem status_is_honest (notifier : N) (settings : WatchSettings) (backoff : Backoff)
    (chance : Chance) (actions : List Action)
    (hkept : (Coordinator.new notifier settings backoff chance).isKept actions = true) :
    let new := Coordinator.new notifier settings backoff chance
    let c := (new.play actions).1
    let log := (new.play actions).2
    ∀ s ∈ c.sessions,
      (s.status = .inProgress ↔
        Occurrence.dispatched s.latestRun ∈ log ∧ s.latestRun ∉ new.answers actions) ∧
      (s.status = .inProgress ↔ c.stage? s.latestRun = some .running) ∧
      (s.status ≠ .inProgress → s.status = (s.lastReport.map (·.status)).getD .notStarted) ∧
      (∀ report, s.lastReport = some report → report.token = s.published) ∧
      c.status s.exercise = s.status ∧ c.lastReport s.exercise = s.lastReport := by
  intro new c log s hs
  have hnew := consistent_new notifier settings backoff chance
  have hc := hnew.play actions
  have hreported : new.Reported [] :=
    ⟨fun _ _ hs => (nomatch hs), fun _ _ hs => (nomatch hs), nofun⟩
  have hstart := accounted_new notifier settings backoff chance
  obtain ⟨hacc, hhonest⟩ :=
    honest_play hnew hstart (honest_new notifier settings backoff chance) hkept
  rw [List.nil_append, List.nil_append] at hacc
  have hsession : c.session? s.exercise = some s := session?_of_mem hc.distinct hs
  have hstatus := hhonest.status _ s hsession
  -- Whether a report is owed is told by the log and the answers.
  refine ⟨hstatus.trans (hacc.owed _ s hsession), hstatus, fun hidle => ?_,
    fun report hreport => (hhonest.lastReport _ s report hsession hreport).1, ?_, ?_⟩
  · rw [((hreported.play hnew actions).status _ s hsession).resolve_left hidle]
    unfold Session.settled
    cases s.lastReport <;> rfl
  · unfold Coordinator.status
    rw [hsession]
  · unfold Coordinator.lastReport
    rw [hsession]
    rfl

/-- The first run of one exercise gives its report when the second is under way, and the report of
another exercise is published. Watching is stopped, though the second run goes on, and started again,
with one more run of the other exercise. -/
def supersededRuns : List Action :=
  [.start, .watch ⟨"a", ⟨"/", ["a"]⟩⟩ "x", .watch ⟨"b", ⟨"/", ["b"]⟩⟩ "x", .trigger "a", .goOff "a",
    .trigger "b", .goOff "b", .trigger "a", .goOff "a",
    .finish ⟨"a", 0, 1⟩ { exercise := "a", status := .completed, token := 1 },
    .finish ⟨"b", 1, 1⟩ { exercise := "b", status := .failed, token := 1 }, .stop [⟨"a", 0, 2⟩],
    .finish ⟨"a", 0, 2⟩ { exercise := "a", status := .completed, token := 2 }, .start, .trigger "b",
    .goOff "b"]

theorem status_is_honest_superseded :
    (Coordinator.new (N := ScriptedNotifier) {} {} {} []).isKept supersededRuns = true ∧
      (((Coordinator.new (N := ScriptedNotifier) {} {} {} []).play supersededRuns).1.sessions.map
        fun s => (s.status, s.published, s.latest)) =
          [(.notStarted, 0, 3), (.inProgress, 1, 3)] ∧
      ∀ s ∈ ((Coordinator.new (N := ScriptedNotifier) {} {} {} []).play supersededRuns).1.sessions,
        s.status = .inProgress →
        ((Coordinator.new (N := ScriptedNotifier) {} {} {} []).play supersededRuns).1.stage?
          s.latestRun = some .running := by
  have hkept : (Coordinator.new (N := ScriptedNotifier) {} {} {} []).isKept supersededRuns = true := by
    decide +kernel
  refine ⟨hkept, by decide +kernel, fun s hs hstatus => ?_⟩
  have hhonest := status_is_honest (N := ScriptedNotifier) {} {} {} [] supersededRuns hkept
  exact (hhonest s hs).2.1.mp hstatus

end Coordinator

end Grading.Watch
