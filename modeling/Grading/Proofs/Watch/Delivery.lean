import Mathlib.Logic.Function.Basic
import Grading.Proofs.Watch.Tables
import Grading.Proofs.Watch.Underway

/-!
# Delivery — every subscriber is told, whatever the others do

A subscriber that is told of a report may fail, at once or after it has been waited for, and while it
is waited for other exercises, other subscriptions and other runs go on. Unless a later run of the
exercise is dispatched, its session ends or watching stops, all who subscribe at the publication are
told, each once and in the order in which they subscribed; and a failure leaves no trace but a notice.
-/

namespace Grading.Watch

/-! ## 1. Calls of subscribers -/

/-- The call of a subscriber that is not over: it has not returned yet, or what it gave back is waited
for. -/
structure Telling where
  who : Subscriber
  report : Report
  isAwaited : Bool := false

/-- A coordinator, and for each run the subscriber that is being told of its report. -/
structure Delivery (N : Type) where
  coordinator : Coordinator N
  telling? : Run → Option Telling := fun _ => none

/-- One thing that happens while subscribers are told. What a subscriber does to the coordinator while
it is told is an action like any other. -/
inductive Happening where
  | action (a : Action)
  /-- The call of a subscriber returns, perhaps with something that is to be waited for. -/
  | returned (run : Run) (isAwaitable : Bool)
  /-- What is waited for comes to its end. -/
  | finished (run : Run)
  /-- The call of a subscriber, or what is waited for, fails. -/
  | raised (run : Run)
  deriving Inhabited

inductive Remark where
  | occurred (o : Occurrence)
  | complained (notice : Notice)
  deriving Inhabited

def Remark.isOccurrence : Remark → Bool
  | .occurred _ => true
  | .complained _ => false

def occurrences (remarks : List Remark) : List Occurrence :=
  remarks.filterMap fun
    | .occurred o => some o
    | .complained _ => none

theorem occurrences_append (remarks more : List Remark) :
    occurrences (remarks ++ more) = occurrences remarks ++ occurrences more :=
  List.filterMap_append

theorem occurrences_map (log : List Occurrence) : occurrences (log.map .occurred) = log := by
  unfold occurrences
  rw [List.filterMap_map]
  exact List.filterMap_some

namespace Delivery

variable {N : Type}

/-- Whether an action cannot happen yet: the next subscriber is told when the call of the one before
is over. -/
def holdsBack (m : Delivery N) : Action → Bool
  | .deliver run => (m.telling? run).isSome
  | _ => false

def setTelling (m : Delivery N) (run : Run) (t : Option Telling) : Delivery N :=
  { m with telling? := Function.update m.telling? run t }

/-- What a happening leads to. A subscriber that fails is told of in a notice, and its call is over
like any other; the calls of a run that is over are forgotten. -/
def act [Notifier N] (m : Delivery N) : Happening → Delivery N × List Remark
  | .action a =>
    if m.holdsBack a then (m, [])
    else
      let (c, occurred) := m.coordinator.act a
      let telling? (run : Run) : Option Telling :=
        match tellings run occurred with
        | (who, report) :: _ => some { who, report }
        | [] => if (c.stage? run).isSome then m.telling? run else none
      ({ coordinator := c, telling? }, occurred.map .occurred)
  | .returned run isAwaitable =>
    match m.telling? run with
    | some ⟨who, report, false⟩ =>
      (m.setTelling run (if isAwaitable then some ⟨who, report, true⟩ else none), [])
    | _ => (m, [])
  | .finished run =>
    match m.telling? run with
    | some ⟨_, _, true⟩ => (m.setTelling run none, [])
    | _ => (m, [])
  | .raised run =>
    match m.telling? run with
    | some t => (m.setTelling run none, [.complained (Coordinator.subscriberFailed t.report.exercise)])
    | none => (m, [])

def start (notifier : N) (settings : WatchSettings) (backoff : Backoff) (chance : Chance) :
    Delivery N :=
  { coordinator := .new notifier settings backoff chance }

def play [Notifier N] (m : Delivery N) : List Happening → Delivery N × List Remark
  | [] => (m, [])
  | h :: hs =>
    let (n, remarks) := m.act h
    let (o, more) := n.play hs
    (o, remarks ++ more)

def actionOf (m : Delivery N) : Happening → List Action
  | .action a => if m.holdsBack a then [] else [a]
  | _ => []

def actions [Notifier N] (m : Delivery N) : List Happening → List Action
  | [] => []
  | h :: hs => m.actionOf h ++ (m.act h).1.actions hs

inductive Answer where
  | returns
  | fails
  /-- Gives back something that is waited for, which comes to its end. -/
  | finishes
  /-- Gives back something that is waited for, which fails. -/
  | failsLater
  deriving DecidableEq, Repr, Inhabited

def Answer.happenings (run : Run) : Answer → List Happening
  | .returns => [.returned run false]
  | .fails => [.raised run]
  | .finishes => [.returned run true, .finished run]
  | .failsLater => [.returned run true, .raised run]

/-- The rest of a delivery in which nothing comes between. -/
def straight (run : Run) : List Answer → List Happening
  | [] => [.action (.deliver run)]
  | a :: as => .action (.deliver run) :: (a.happenings run ++ straight run as)

/-- The same happening, but without a failure: what fails comes to its end instead. -/
def calm (m : Delivery N) : Happening → Happening
  | .raised run =>
    match m.telling? run with
    | some ⟨_, _, true⟩ => .finished run
    | _ => .returned run false
  | h => h

/-- The same happenings without failures. -/
def calmed [Notifier N] (m : Delivery N) : List Happening → List Happening
  | [] => []
  | h :: hs => m.calm h :: (m.act h).1.calmed hs

variable [Notifier N] {m : Delivery N}

/-! ## 2. The coordinator alone tells who is told -/

/-- Seen without the deliveries in progress, a happening is the action it stands for. -/
theorem act_coordinator (m : Delivery N) (h : Happening) :
    (m.act h).1.coordinator = (m.coordinator.play (m.actionOf h)).1 ∧
      occurrences (m.act h).2 = (m.coordinator.play (m.actionOf h)).2 := by
  cases h with
  | action a =>
    unfold act actionOf
    dsimp only
    cases m.holdsBack a with
    | true => exact ⟨rfl, rfl⟩
    | false =>
      refine ⟨rfl, (occurrences_map _).trans ?_⟩
      exact (List.append_nil _).symm
  | returned run isAwaitable =>
    unfold act
    dsimp only
    split <;> exact ⟨rfl, rfl⟩
  | finished run =>
    unfold act
    dsimp only
    split <;> exact ⟨rfl, rfl⟩
  | raised run =>
    unfold act
    dsimp only
    split <;> exact ⟨rfl, rfl⟩

/-- Seen without the deliveries in progress, a run of happenings is a run of the coordinator. -/
theorem play_coordinator (m : Delivery N) (happenings : List Happening) :
    (m.play happenings).1.coordinator = (m.coordinator.play (m.actions happenings)).1 ∧
      occurrences (m.play happenings).2 = (m.coordinator.play (m.actions happenings)).2 := by
  induction happenings generalizing m with
  | nil => exact ⟨rfl, rfl⟩
  | cons h hs ih =>
    obtain ⟨hcoordinator, hseen⟩ := m.act_coordinator h
    obtain ⟨hlast, hlog⟩ := ih (m.act h).1
    rw [hcoordinator] at hlast hlog
    show ((m.act h).1.play hs).1.coordinator =
        (m.coordinator.play (m.actionOf h ++ (m.act h).1.actions hs)).1 ∧
      occurrences ((m.act h).2 ++ ((m.act h).1.play hs).2) =
        (m.coordinator.play (m.actionOf h ++ (m.act h).1.actions hs)).2
    rw [Coordinator.play_append, occurrences_append, hseen]
    exact ⟨hlast, congrArg _ hlog⟩

/-! ## 3. Failures are isolated -/

/-- A failure leaves no trace but a notice. -/
theorem act_calm (m : Delivery N) (h : Happening) :
    (m.act (m.calm h)).1 = (m.act h).1 ∧
      (m.act (m.calm h)).2 = (m.act h).2.filter (·.isOccurrence) := by
  cases h with
  -- Whether the call had returned decides what stands in the place of the failure.
  | raised run =>
    unfold calm
    dsimp only
    cases ht : m.telling? run with
    | none => simp [act, ht]
    | some t =>
      obtain ⟨who, report, isAwaited⟩ := t
      cases isAwaited <;> simp [act, ht, Remark.isOccurrence]
  | action a =>
    unfold calm act
    dsimp only
    split
    · exact ⟨rfl, rfl⟩
    · refine ⟨rfl, (List.filter_eq_self.mpr fun r hr => ?_).symm⟩
      obtain ⟨o, -, rfl⟩ := List.mem_map.mp hr
      rfl
  | returned run isAwaitable =>
    unfold calm act
    dsimp only
    split <;> exact ⟨rfl, rfl⟩
  | finished run =>
    unfold calm act
    dsimp only
    split <;> exact ⟨rfl, rfl⟩

/-- Failing callbacks add remarks to the run and change nothing else. -/
theorem play_calmed (m : Delivery N) (happenings : List Happening) :
    (m.play (m.calmed happenings)).1 = (m.play happenings).1 ∧
      (m.play (m.calmed happenings)).2 = (m.play happenings).2.filter (·.isOccurrence) := by
  induction happenings generalizing m with
  | nil => exact ⟨rfl, rfl⟩
  | cons h hs ih =>
    obtain ⟨hcalm, hseen⟩ := m.act_calm h
    obtain ⟨hlast, hlog⟩ := ih (m.act h).1
    show ((m.act (m.calm h)).1.play ((m.act h).1.calmed hs)).1 = ((m.act h).1.play hs).1 ∧
      (m.act (m.calm h)).2 ++ ((m.act (m.calm h)).1.play ((m.act h).1.calmed hs)).2 =
        ((m.act h).2 ++ ((m.act h).1.play hs).2).filter (·.isOccurrence)
    rw [hcalm, hseen, List.filter_append, hlog]
    exact ⟨hlast, rfl⟩

/-! ## 4. Every delivery can end -/

variable {run : Run} {report : Report} {s : Session} {k : Nat} {log : List Occurrence}

theorem play_append (m : Delivery N) (xs ys : List Happening) : m.play (xs ++ ys) =
    (((m.play xs).1.play ys).1, (m.play xs).2 ++ ((m.play xs).1.play ys).2) := by
  induction xs generalizing m with
  | nil => rfl
  | cons x xs ih =>
    show (((m.act x).1.play (xs ++ ys)).1, (m.act x).2 ++ ((m.act x).1.play (xs ++ ys)).2) = _
    rw [ih, ← List.append_assoc]
    rfl

/-- However a subscriber answers, its call is over then, and the coordinator is as it was. -/
theorem play_answer {who : Subscriber} (h : m.telling? run = some ⟨who, report, false⟩)
    (a : Answer) : (m.play (a.happenings run)).1.coordinator = m.coordinator ∧
      (m.play (a.happenings run)).1.telling? run = none ∧
      occurrences (m.play (a.happenings run)).2 = [] := by
  cases a <;> simp [Answer.happenings, play, act, h, setTelling, occurrences]

theorem telling?_action {a : Action} (hfree : m.holdsBack a = false)
    (htelling : m.telling? run = none) : (m.act (.action a)).1.telling? run =
      (tellings run (m.coordinator.act a).2).head?.map fun t => ⟨t.1, t.2, false⟩ := by
  unfold act
  dsimp only
  rw [hfree]
  cases htold : tellings run (m.coordinator.act a).2 with
  | nil => simp [htold, htelling]
  | cons t ts => simp [htold]

/-- When the call before is over, a turn tells the next subscriber, whose call begins. -/
theorem act_turn (hunderway : m.coordinator.Underway run report s k)
    (hc : m.coordinator.Consistent log) (htelling : m.telling? run = none) :
    (m.act (.action (.deliver run))).1.coordinator.Underway run report s (k + 1) ∧
      (m.act (.action (.deliver run))).1.coordinator.Consistent
        (log ++ (m.coordinator.act (.deliver run)).2) ∧
      (m.act (.action (.deliver run))).1.telling? run =
        s.subscribers[k]?.map (fun who => ⟨who, report, false⟩) ∧
      tellings run (occurrences (m.act (.action (.deliver run))).2) =
        ((s.subscribers.drop k).take 1).map (·, report) := by
  -- Nobody is being told, so that the turn is one of the coordinator alone.
  have hfree : m.holdsBack (.deliver run) = false := by
    show (m.telling? run).isSome = false
    rw [htelling]
    rfl
  have hdelivers : Action.delivers run (.deliver run) = true := Action.delivers_iff.mpr rfl
  have hleft : m.coordinator.leaves run (.deliver run) = true := rfl
  have hnext := hunderway.act hc hleft
  have htold := (hunderway.stage_act hc hleft).2
  rw [if_pos hdelivers] at hnext htold
  have hcoordinator : (m.act (.action (.deliver run))).1.coordinator =
      (m.coordinator.act (.deliver run)).1 := by
    unfold act
    dsimp only
    rw [hfree]
    rfl
  have hseen : occurrences (m.act (.action (.deliver run))).2 =
      (m.coordinator.act (.deliver run)).2 := by
    unfold act
    dsimp only
    rw [hfree]
    exact occurrences_map _
  rw [hcoordinator, hseen, telling?_action hfree htelling, htold]
  refine ⟨hnext, hc.act _, ?_, rfl⟩
  rw [← List.head?_drop]
  cases s.subscribers.drop k <;> rfl

/-- However those answer who are left, the delivery comes to its end, and all of them are told. -/
theorem play_straight (hunderway : m.coordinator.Underway run report s k)
    (hc : m.coordinator.Consistent log) (htelling : m.telling? run = none) (answers : List Answer)
    (hlength : answers.length = s.subscribers.length - k) :
    (m.play (straight run answers)).1.coordinator.stage? run = none ∧
      tellings run (occurrences (m.play (straight run answers)).2) =
        (s.subscribers.drop k).map (·, report) := by
  -- Induction on the answers: each belongs to one turn of the delivery, which tells one subscriber.
  induction answers generalizing m k log with
  | nil =>
    have hk : s.subscribers.length ≤ k := Nat.le_of_sub_eq_zero hlength.symm
    obtain ⟨hend, -, -, htold⟩ := act_turn hunderway hc htelling
    have hdrop : s.subscribers.drop k = [] := List.drop_eq_nil_of_le hk
    have hstage := hend.stage
    -- With everyone told the next turn ends the delivery.
    rw [if_neg (Nat.not_le_of_lt (Nat.lt_succ_of_le hk))] at hstage
    refine ⟨hstage, ?_⟩
    show tellings run (occurrences ((m.act (.action (.deliver run))).2 ++ [])) = _
    rw [List.append_nil, htold, hdrop]
    rfl
  | cons a as ih =>
    have hk : k < s.subscribers.length := by
      rw [List.length_cons] at hlength
      omega
    obtain ⟨hnext, hcnext, hcall, htold⟩ := act_turn hunderway hc htelling
    rw [List.getElem?_eq_getElem hk] at hcall
    obtain ⟨hsame, hover, hsilent⟩ := play_answer hcall a
    rw [← hsame] at hnext hcnext
    have hrest : as.length = s.subscribers.length - (k + 1) := by
      rw [List.length_cons] at hlength
      omega
    obtain ⟨hend, hlater⟩ := ih hnext hcnext hover hrest
    let n := (m.act (.action (.deliver run))).1
    show (n.play (a.happenings run ++ straight run as)).1.coordinator.stage? run = none ∧
      tellings run (occurrences ((m.act (.action (.deliver run))).2 ++
        (n.play (a.happenings run ++ straight run as)).2)) = _
    rw [play_append, occurrences_append, occurrences_append, tellings_append, tellings_append, htold,
      hsilent, hlater, List.drop_eq_getElem_cons hk]
    exact ⟨hend, rfl⟩

/-! ## 5. Everyone is told -/

/-- What happenings lead to is a state of the coordinator, with the log as it is seen. -/
theorem reached (notifier : N) (settings : WatchSettings) (backoff : Backoff) (chance : Chance)
    {before : List Happening} {seen : List Remark}
    (hm : (start notifier settings backoff chance).play before = (m, seen)) :
    m.coordinator.Consistent (occurrences seen) ∧ m.coordinator.SubscribedOnce ∧
      ∀ run who report, Occurrence.told run who report ∈ occurrences seen →
        Occurrence.published run report ∈ occurrences seen := by
  let c := Coordinator.new notifier settings backoff chance
  let actions := (start notifier settings backoff chance).actions before
  obtain ⟨hlast, hlog⟩ := (start notifier settings backoff chance).play_coordinator before
  rw [hm] at hlast hlog
  have hcoordinator : m.coordinator = (c.play actions).1 := hlast
  have hseen : occurrences seen = (c.play actions).2 := hlog
  have hnew : c.Consistent [] := Coordinator.consistent_new notifier settings backoff chance
  have honce := Coordinator.subscribedOnce_new notifier settings backoff chance
  rw [hcoordinator, hseen]
  exact ⟨hnew.play actions, honce.play actions,
    hnew.published_of_told fun _ _ _ h => absurd h List.not_mem_nil⟩

/-- When a report is published, nobody has been told of it. Whatever happens from then on, subscribers
fail and are waited for, others subscribe, other exercises have their runs, as long as no later run of
the exercise is dispatched, its session does not end, watching is not stopped and the run is not broken
off, those who subscribe at its publication are told of it in the order in which they subscribed, one
at every turn. When the run is over, each of them has been told once, and nobody is told of it any
more. It can always come to that: whenever no call is under way, and however those answer who are left.
Nothing changes of the session but its subscribers and its timer. Had nobody failed, all this would be
the same but for the notices. -/
theorem delivery_is_complete (notifier : N) (settings : WatchSettings) (backoff : Backoff)
    (chance : Chance) (before during : List Happening) {m n : Delivery N} {seen : List Remark}
    {run : Run} {report : Report}
    (hm : (start notifier settings backoff chance).play before = (m, seen))
    (hn : m.act (.action (.finish run report)) = (n, [.occurred (.published run report)]))
    (hleft : n.coordinator.isLeft run (n.actions during) = true) :
    let o := n.play during
    let turns := (n.actions during).countP (·.delivers run)
    ∃ s, n.coordinator.session? run.exercise = some s ∧ s.subscribers.Nodup ∧
      tellings run (occurrences seen) = [] ∧
      tellings run (occurrences o.2) = (s.subscribers.take turns).map (·, report) ∧
      o.1.coordinator.stage? run = (if turns ≤ s.subscribers.length then
        some (.delivering report (s.subscribers.drop turns)) else none) ∧
      (o.1.coordinator.stage? run = none →
        tellings run (occurrences o.2) = s.subscribers.map (·, report) ∧
        ∀ after, tellings run (occurrences (o.1.play after).2) = []) ∧
      (o.1.telling? run = none → ∀ answers : List Answer,
        answers.length = s.subscribers.length - turns →
        (o.1.play (straight run answers)).1.coordinator.stage? run = none ∧
          tellings run (occurrences (o.1.play (straight run answers)).2) =
            (s.subscribers.drop turns).map (·, report)) ∧
      (∃ subscribers timer,
        o.1.coordinator.session? run.exercise = some { s with subscribers, timer }) ∧
      (n.play (n.calmed during)).1 = o.1 ∧
      (n.play (n.calmed during)).2 = o.2.filter (·.isOccurrence) := by
  intro o turns
  obtain ⟨hc, honce, hannounced⟩ := reached notifier settings backoff chance hm
  have hfinish := m.act_coordinator (.action (.finish run report))
  rw [hn] at hfinish
  have hnext : n.coordinator = (m.coordinator.act (.finish run report)).1 := hfinish.1
  have hpublished : Occurrence.published run report ∈
      (m.coordinator.act (.finish run report)).2 := by
    have hseen : [Occurrence.published run report] =
        (m.coordinator.act (.finish run report)).2 ++ [] := hfinish.2
    rw [List.append_nil] at hseen
    exact hseen ▸ List.mem_singleton_self _
  have hbefore : tellings run (occurrences seen) = [] :=
    tellings_eq_nil fun who other htold =>
      hc.notMem_published (hannounced run who other htold) _ hpublished
  -- From here on the run is followed through the history of the coordinator.
  obtain ⟨hrunning, s, hs, hunderway⟩ := Coordinator.underway_finish hpublished
  have hcn := hc.act (.finish run report)
  have honcen := honce.act (.finish run report)
  rw [← hnext] at hs hunderway hcn honcen
  obtain ⟨hend, htold⟩ := hunderway.play hcn hleft
  obtain ⟨hlast, hmore⟩ := n.play_coordinator during
  rw [Nat.zero_add, ← hlast] at hend
  rw [← hmore, List.drop_zero] at htold
  have hco : o.1.coordinator.Consistent _ := hlast ▸ hcn.play (n.actions during)
  refine ⟨s, hs, (honcen.of_session? hs).2, hbefore, htold, hend.stage, fun hover => ?_,
    fun htelling answers hlength => play_straight hend hco htelling answers hlength, hend.session,
    n.play_calmed during⟩
  -- A run that is over has had its last turn, for before that it is with somebody.
  have hturns : ¬ turns ≤ s.subscribers.length := fun hle => by
    have hstage := hend.stage
    rw [hover, if_pos hle] at hstage
    exact nomatch hstage
  refine ⟨?_, fun after => ?_⟩
  · rw [htold, List.take_of_length_le (Nat.le_of_not_le hturns)]
  · obtain ⟨f, hf, rfl, -⟩ := Coordinator.stage?_some hrunning
    have hdispatched := (hc.flights f hf).dispatched
    rw [(o.1.play_coordinator after).2]
    exact Coordinator.tellings_after hco
      (List.mem_append_left _ (List.mem_append_left _ hdispatched)) hover _

def threeSubscribed : List Happening :=
  [.action .start, .action (.watch ⟨"a", ⟨"/", ["a"]⟩⟩ "x"), .action (.watch ⟨"a", ⟨"/", ["a"]⟩⟩ "y"),
    .action (.watch ⟨"a", ⟨"/", ["a"]⟩⟩ "z"), .action (.watch ⟨"b", ⟨"/", ["b"]⟩⟩ "w"),
    .action (.trigger "a"), .action (.goOff "a")]

/-- The first subscriber fails at once, the second after it was waited for. Meanwhile a fourth
subscribes, and the other exercise is run and its subscriber told. -/
def twoFail : List Happening :=
  [.action (.deliver ⟨"a", 0, 1⟩), .raised ⟨"a", 0, 1⟩, .action (.deliver ⟨"a", 0, 1⟩),
    .returned ⟨"a", 0, 1⟩ true, .action (.watch ⟨"a", ⟨"/", ["a"]⟩⟩ "v"),
    .action (.deliver ⟨"a", 0, 1⟩), .action (.trigger "b"), .action (.goOff "b"),
    .action (.finish ⟨"b", 1, 1⟩ { exercise := "b", status := .failed, token := 1 }),
    .action (.deliver ⟨"b", 1, 1⟩), .returned ⟨"b", 1, 1⟩ false, .raised ⟨"a", 0, 1⟩,
    .action (.deliver ⟨"a", 0, 1⟩), .returned ⟨"a", 0, 1⟩ false, .action (.deliver ⟨"a", 0, 1⟩)]

def reportOfThree : Report := { exercise := "a", status := .completed, token := 1 }

def publishedToThree : Delivery ScriptedNotifier :=
  (((start {} {} {} []).play threeSubscribed).1.act
    (.action (.finish ⟨"a", 0, 1⟩ reportOfThree))).1

theorem delivery_is_complete_two_fail :
    (((start (N := ScriptedNotifier) {} {} {} []).play threeSubscribed).1.act
        (.action (.finish ⟨"a", 0, 1⟩ reportOfThree))).2 =
          [.occurred (.published ⟨"a", 0, 1⟩ reportOfThree)] ∧
      publishedToThree.coordinator.isLeft ⟨"a", 0, 1⟩ (publishedToThree.actions twoFail) = true ∧
      (publishedToThree.play twoFail).2.countP (fun r => !r.isOccurrence) = 2 ∧
      tellings ⟨"a", 0, 1⟩ (occurrences (publishedToThree.play twoFail).2) =
        [("x", reportOfThree), ("y", reportOfThree), ("z", reportOfThree)] ∧
      (publishedToThree.play (publishedToThree.calmed twoFail)).1 =
        (publishedToThree.play twoFail).1 := by
  have hseen : (((start (N := ScriptedNotifier) {} {} {} []).play threeSubscribed).1.act
      (.action (.finish ⟨"a", 0, 1⟩ reportOfThree))).2 =
        [.occurred (.published ⟨"a", 0, 1⟩ reportOfThree)] := by rfl
  have hleft : publishedToThree.coordinator.isLeft ⟨"a", 0, 1⟩
      (publishedToThree.actions twoFail) = true := by decide +kernel
  have hover : ((publishedToThree.play twoFail).1.coordinator.stage? ⟨"a", 0, 1⟩).isNone = true := by
    decide +kernel
  have hsubscribers : (publishedToThree.coordinator.session? "a").map (·.subscribers) =
      some ["x", "y", "z"] := by decide +kernel
  have hpublished : ((start (N := ScriptedNotifier) {} {} {} []).play threeSubscribed).1.act
      (.action (.finish ⟨"a", 0, 1⟩ reportOfThree)) =
        (publishedToThree, [.occurred (.published ⟨"a", 0, 1⟩ reportOfThree)]) :=
    Prod.ext (by rw [publishedToThree]) hseen
  obtain ⟨s, hs, -, -, -, -, hend, -, -, hcalm, -⟩ :=
    delivery_is_complete (N := ScriptedNotifier) {} {} {} [] threeSubscribed twoFail
      (Prod.eta _).symm hpublished hleft
  have hthree : s.subscribers = ["x", "y", "z"] := by
    rw [hs] at hsubscribers
    exact Option.some.inj hsubscribers
  refine ⟨hseen, hleft, by decide +kernel, ?_, hcalm⟩
  rw [(hend (Option.isNone_iff_eq_none.mp hover)).1, hthree]
  rfl

end Delivery

end Grading.Watch
