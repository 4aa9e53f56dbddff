import Grading.Proofs.Rule.Validation
import Grading.Proofs.Rule.Verdict

/-!
# Diagnosis — which failure of a rule is reported

A rule that fails reports one check that is not met. The steps of its diagnostics come first, in
their order. A step names checks by their kind and by the label of their marker, which several
markers may share, and it stands for the first check that it names: when that one is met, the step is
passed over although a later check of the same name may not be met.
-/

namespace Grading

/-! ## 1. First members of lists -/

inductive FirstOf {α : Type} (p : α → Prop) : List α → α → Prop
  | here {a : α} {l : List α} (h : p a) : FirstOf p (a :: l) a
  | later {a b : α} {l : List α} (hb : ¬ p b) (h : FirstOf p l a) : FirstOf p (b :: l) a

namespace FirstOf

variable {α : Type} {p q : α → Prop} {l : List α} {a b : α}

theorem holds (h : FirstOf p l a) : p a := by
  induction h with
  | here h => exact h
  | later _ _ ih => exact ih

theorem mem (h : FirstOf p l a) : a ∈ l := by
  induction h with
  | here _ => exact List.mem_cons_self
  | later _ _ ih => exact List.mem_cons_of_mem _ ih

/-- There is only one first. -/
theorem unique (ha : FirstOf p l a) (hb : FirstOf p l b) : a = b := by
  induction ha with
  | here h =>
    cases hb with
    | here _ => rfl
    | later hn _ => exact absurd h hn
  | later hn _ ih =>
    cases hb with
    | here h => exact absurd h hn
    | later _ hb => exact ih hb

theorem exists_of_mem (ha : a ∈ l) (h : p a) : ∃ b, FirstOf p l b := by
  induction l with
  | nil => exact nomatch ha
  | cons c l ih =>
    by_cases hc : p c
    · exact ⟨c, .here hc⟩
    · rcases List.mem_cons.mp ha with rfl | ha
      · exact absurd h hc
      · obtain ⟨b, hb⟩ := ih ha
        exact ⟨b, .later hc hb⟩

/-- The first member with a property is also the first with a stronger one that it has. -/
theorem strengthen (h : FirstOf p l a) (ha : q a) (hqp : ∀ b, q b → p b) : FirstOf q l a := by
  induction h with
  | here _ => exact .here ha
  | later hn _ ih => exact .later (fun hb => hn (hqp _ hb)) (ih ha)

theorem congr (h : FirstOf p l a) (hpq : ∀ b ∈ l, (p b ↔ q b)) : FirstOf q l a := by
  induction h with
  | here ha => exact .here ((hpq _ List.mem_cons_self).mp ha)
  | later hn _ ih =>
    apply FirstOf.later
    · exact fun hb => hn ((hpq _ List.mem_cons_self).mpr hb)
    · exact ih fun b hb => hpq b (List.mem_cons_of_mem _ hb)

end FirstOf

/-- A search in a list finds the counterpart of the first member of the list that it corresponds to.
-/
theorem find?_cases {α β : Type} {rel : α → β → Prop} {p : α → Prop} {q : β → Bool} {as : List α}
    {bs : List β} (h : List.Forall₂ rel as bs) (hpq : ∀ a b, rel a b → (q b = true ↔ p a)) :
    (∃ a b, FirstOf p as a ∧ rel a b ∧ bs.find? q = some b) ∨
      (∀ a ∈ as, ¬ p a) ∧ bs.find? q = none := by
  induction h with
  | nil => exact .inr ⟨nofun, rfl⟩
  | @cons a b as bs hab _ ih =>
    by_cases hb : q b = true
    · exact .inl ⟨a, b, .here ((hpq a b hab).mp hb), hab, List.find?_cons_of_pos hb⟩
    · have ha : ¬ p a := fun ha => hb ((hpq a b hab).mpr ha)
      rw [List.find?_cons_of_neg hb]
      rcases ih with ⟨a', b', hfirst, hrel, hfind⟩ | ⟨hnone, hfind⟩
      · exact .inl ⟨a', b', .later ha hfirst, hrel, hfind⟩
      · exact .inr ⟨List.forall_mem_cons.mpr ⟨ha, hnone⟩, hfind⟩

/-! ## 2. The checks that a step names -/

/-- A step names a check of its kind, and of its label if the check is one of a marker. -/
def DiagnosticStep.Names (s : DiagnosticStep) (c : Check) : Prop :=
  c.kind = s.check ∧ ∀ m, c.marker? = some m → s.marker = some m.label

theorem looksAt_iff {s : DiagnosticStep} {ignoreCase : Bool} {text : String} {c : Check}
    {o : CheckOutcome} (h : c.Finds ignoreCase text o) : s.looksAt o = true ↔ s.Names c := by
  obtain ⟨hkind, hmarker⟩ := h.labels
  unfold DiagnosticStep.looksAt DiagnosticStep.Names
  rw [hkind, hmarker]
  cases c.marker? <;> simp

def Rule.Unmet (r : Rule) (text : String) (c : Check) : Prop := ¬ c.Met r.ignoreCase text

/-- The first check that a step names, if the text does not meet it. -/
def Rule.ShowsFirst (r : Rule) (text : String) (s : DiagnosticStep) (c : Check) : Prop :=
  FirstOf s.Names r.checks c ∧ r.Unmet text c

/-- The first of the checks that a step names and that the text does not meet. -/
def Rule.ShowsUnmet (r : Rule) (text : String) (s : DiagnosticStep) (c : Check) : Prop :=
  FirstOf (fun c => s.Names c ∧ r.Unmet text c) r.checks c

/-- A step names a check that the text does not meet, but behind one that it meets. -/
def Rule.Hides (r : Rule) (text : String) (s : DiagnosticStep) : Prop :=
  (∃ c, FirstOf s.Names r.checks c ∧ c.Met r.ignoreCase text) ∧ ∃ c, r.ShowsUnmet text s c

/-- Where no met check hides an unmet one, the first check of a step is the first unmet one. -/
theorem showsFirst_iff {r : Rule} {text : String} {s : DiagnosticStep} (h : ¬ r.Hides text s)
    (c : Check) : r.ShowsFirst text s c ↔ r.ShowsUnmet text s c := by
  have hunmet : ∀ {c}, r.ShowsFirst text s c → r.ShowsUnmet text s c := fun ⟨hfirst, hc⟩ =>
    hfirst.strengthen ⟨hfirst.holds, hc⟩ fun _ => And.left
  constructor
  · exact hunmet
  · intro hc
    obtain ⟨c', hfirst⟩ := FirstOf.exists_of_mem hc.mem hc.holds.1
    by_cases hmet : c'.Met r.ignoreCase text
    · exact absurd ⟨⟨c', hfirst, hmet⟩, c, hc⟩ h
    · have hshows : r.ShowsFirst text s c' := ⟨hfirst, hmet⟩
      rwa [hc.unique (hunmet hshows)]

/-- Markers of one kind that share their label are the same. -/
structure Rule.DistinctLabels (r : Rule) : Prop where
  required : ∀ m ∈ r.required, ∀ m' ∈ r.required, m.label = m'.label → m = m'
  forbidden : ∀ m ∈ r.forbidden, ∀ m' ∈ r.forbidden, m.label = m'.label → m = m'

/-- With distinct labels a step names one check only. -/
theorem eq_of_names {r : Rule} (h : r.DistinctLabels) {s : DiagnosticStep} {c c' : Check}
    (hmem : c ∈ r.checks) (hmem' : c' ∈ r.checks) (hc : s.Names c) (hc' : s.Names c') : c = c' := by
  have hkind : c.kind = c'.kind := hc.1.trans hc'.1.symm
  have hlabel : ∀ m m', c.marker? = some m → c'.marker? = some m' → m.label = m'.label := by
    intro m m' hm hm'
    exact Option.some.inj ((hc.2 m hm).symm.trans (hc'.2 m' hm'))
  rw [mem_checks] at hmem hmem'
  cases c with
  | required m =>
    cases c' with
    | required m' => rw [h.required m hmem m' hmem' (hlabel m m' rfl rfl)]
    | forbidden _ | minLength _ | predicate _ => exact nomatch hkind
  | forbidden m =>
    cases c' with
    | forbidden m' => rw [h.forbidden m hmem m' hmem' (hlabel m m' rfl rfl)]
    | required _ | minLength _ | predicate _ => exact nomatch hkind
  | minLength n =>
    cases c' with
    | minLength n' => rw [Option.some.inj (hmem.symm.trans hmem')]
    | required _ | forbidden _ | predicate _ => exact nomatch hkind
  | predicate p =>
    cases c' with
    | predicate p' => rw [Option.some.inj (hmem.symm.trans hmem')]
    | required _ | forbidden _ | minLength _ => exact nomatch hkind

theorem not_hides {r : Rule} (h : r.DistinctLabels) (text : String) (s : DiagnosticStep) :
    ¬ r.Hides text s := by
  rintro ⟨⟨c, hfirst, hmet⟩, c', hc'⟩
  obtain rfl := eq_of_names h hfirst.mem hc'.mem hfirst.holds hc'.holds.1
  exact hc'.holds.2 hmet

/-! ## 3. The check that is reported -/

/-- The check that a rule reports for a text, and with what message, when `shows` tells which check a
step stands for: the check of the first step that stands for one; or else the first check that is not
met, with the fallback message of the rule if it has one. -/
inductive Rule.Selects (r : Rule) (text : String) (shows : DiagnosticStep → Check → Prop) :
    Check → Except EvaluationError Data → Prop
  | step {s : DiagnosticStep} {c : Check} (hs : FirstOf (fun s => ∃ c, shows s c) r.diagnostics s)
    (hc : shows s c) : Selects r text shows c (.ok (.text s.message))
  | fallback {c : Check} (hnone : ∀ s ∈ r.diagnostics, ¬ ∃ c, shows s c)
    (hmessage : r.fallbackMessage.truthy = true) (hc : FirstOf (r.Unmet text) r.checks c) :
    Selects r text shows c (.ok r.fallbackMessage)
  | default {c : Check} {o : CheckOutcome} (hnone : ∀ s ∈ r.diagnostics, ¬ ∃ c, shows s c)
    (hmessage : r.fallbackMessage.truthy = false) (hc : FirstOf (r.Unmet text) r.checks c)
    (ho : c.Finds r.ignoreCase text o) :
    Selects r text shows c ((r.defaultMessage o).map .text)

/-- What a rule selects depends only on which checks its steps show. -/
theorem Rule.Selects.congr {r : Rule} {text : String} {shows shows' : DiagnosticStep → Check → Prop}
    {c : Check} {message : Except EvaluationError Data} (h : r.Selects text shows c message)
    (hshows : ∀ s ∈ r.diagnostics, ∀ c, shows s c ↔ shows' s c) : r.Selects text shows' c message := by
  have hexists : ∀ s ∈ r.diagnostics, (∃ c, shows s c) ↔ ∃ c, shows' s c := fun s hs =>
    exists_congr (hshows s hs)
  cases h with
  | step hs hc => exact .step (hs.congr hexists) ((hshows _ hs.mem _).mp hc)
  | fallback hnone hmessage hc =>
    exact .fallback (fun s hs => (hexists s hs).not.mp (hnone s hs)) hmessage hc
  | default hnone hmessage hc ho =>
    exact .default (fun s hs => (hexists s hs).not.mp (hnone s hs)) hmessage hc ho

theorem Check.Finds.not_met_iff {r : Rule} {text : String} {c : Check} {o : CheckOutcome}
    (h : c.Finds r.ignoreCase text o) : (!o.met) = true ↔ r.Unmet text c := by
  rw [Bool.not_eq_true', ← Bool.not_eq_true, h.met_iff]
  rfl

section Verdict

variable {r : Rule} {text : String} {outcomes : List CheckOutcome}

/-- What a step finds is the outcome of the first check that it names. -/
theorem first_of_outcome (hpairs : List.Forall₂ (Check.Finds r.ignoreCase text) r.checks outcomes)
    {s : DiagnosticStep} {o : CheckOutcome} (h : s.outcome outcomes = .ok o) :
    ∃ c, FirstOf s.Names r.checks c ∧ c.Finds r.ignoreCase text o := by
  unfold DiagnosticStep.outcome at h
  rcases find?_cases hpairs fun c o ho => looksAt_iff ho with ⟨c, o', hc, ho, hfind⟩ | ⟨-, hfind⟩
  · rw [hfind] at h
    obtain rfl := Except.ok.inj h
    exact ⟨c, hc, ho⟩
  · rw [hfind] at h
    exact nomatch h

theorem exists_outcome (hpairs : List.Forall₂ (Check.Finds r.ignoreCase text) r.checks outcomes)
    {s : DiagnosticStep} (hs : ∃ c ∈ r.checks, s.Names c) : ∃ o, s.outcome outcomes = .ok o := by
  unfold DiagnosticStep.outcome
  rcases find?_cases hpairs fun c o ho => looksAt_iff ho with ⟨_, o, -, -, hfind⟩ | ⟨hnone, -⟩
  · exact ⟨o, by rw [hfind]⟩
  · obtain ⟨c, hc, hnames⟩ := hs
    exact absurd hnames (hnone c hc)

/-- The steps of the diagnostics are all found, each with the first check that it names. -/
theorem exists_steps (hpairs : List.Forall₂ (Check.Finds r.ignoreCase text) r.checks outcomes)
    (hsteps : ∀ s ∈ r.diagnostics, ∃ c ∈ r.checks, s.Names c) :
    ∃ steps, (r.diagnostics.mapM fun s => do return (s, ← s.outcome outcomes)) = .ok steps ∧
      List.Forall₂ (fun s e => e.1 = s ∧ ∃ c, FirstOf s.Names r.checks c ∧
        c.Finds r.ignoreCase text e.2) r.diagnostics steps := by
  have hfind : ∀ s ∈ r.diagnostics, ∃ e,
      (do return (s, ← s.outcome outcomes) : Except EvaluationError _) = .ok e := by
    intro s hs
    obtain ⟨o, ho⟩ := exists_outcome hpairs (hsteps s hs)
    exact ⟨(s, o), by rw [ho]; rfl⟩
  obtain ⟨steps, hrun⟩ := exists_mapM_eq_ok hfind
  refine ⟨steps, hrun, (forall₂_of_mapM hrun).imp fun s e he => ?_⟩
  obtain ⟨o, ho, he⟩ := bind_eq_ok.mp he
  obtain rfl := Except.ok.inj he
  exact ⟨rfl, first_of_outcome hpairs ho⟩

/-- The verdict on the outcomes of checks that are not all met is the failure that the diagnostics
select. -/
theorem verdict_selects (hpairs : List.Forall₂ (Check.Finds r.ignoreCase text) r.checks outcomes)
    (hsteps : ∀ s ∈ r.diagnostics, ∃ c ∈ r.checks, s.Names c)
    (hunmet : ∃ c ∈ r.checks, r.Unmet text c) :
    ∃ c o message, r.Selects text (r.ShowsFirst text) c message ∧ c ∈ r.checks ∧ r.Unmet text c ∧
      c.Finds r.ignoreCase text o ∧ r.verdict outcomes = message.map (r.failure o) := by
  obtain ⟨steps, hrun, hfound⟩ := exists_steps hpairs hsteps
  have hlive : ∀ (s : DiagnosticStep) (e : DiagnosticStep × CheckOutcome), (e.1 = s ∧
      ∃ c, FirstOf s.Names r.checks c ∧ c.Finds r.ignoreCase text e.2) →
      ((!e.2.met) = true ↔ ∃ c, r.ShowsFirst text s c) := by
    rintro s e ⟨-, c, hfirst, ho⟩
    rw [ho.not_met_iff]
    constructor
    · intro hc
      exact ⟨c, hfirst, hc⟩
    · rintro ⟨c', hfirst', hc'⟩
      rwa [hfirst.unique hfirst']
  unfold Rule.verdict
  rw [hrun]
  dsimp only [bind, Except.bind]
  -- The first unmet outcome makes the rule fail; the first step that shows one decides what is said.
  rcases find?_cases hpairs fun c o ho => ho.not_met_iff with
    ⟨first, o, hfirst, ho, hfind⟩ | ⟨hnone, -⟩
  · rw [hfind]
    dsimp only
    rcases find?_cases hfound hlive with
      ⟨s, e, hs, ⟨rfl, c, hc, hco⟩, hstep⟩ | ⟨hnone, hstep⟩
    · have hshows : r.ShowsFirst text e.1 c := by
        obtain ⟨c', hc'⟩ := hs.holds
        rwa [hc.unique hc'.1]
      refine ⟨c, e.2, _, .step hs hshows, hc.mem, hshows.2, hco, ?_⟩
      rw [hstep]
      rfl
    · rw [hstep]
      dsimp only
      split
      · next hmessage =>
        exact ⟨first, o, _, .fallback hnone hmessage hfirst, hfirst.mem, hfirst.holds, ho, rfl⟩
      · next hmessage =>
        have hselects := Rule.Selects.default hnone (Bool.eq_false_iff.mpr hmessage) hfirst ho
        refine ⟨first, o, _, hselects, hfirst.mem, hfirst.holds, ho, ?_⟩
        cases r.defaultMessage o <;> rfl
  · obtain ⟨c, hc, hcunmet⟩ := hunmet
    exact absurd hcunmet (hnone c hc)

end Verdict

/-! ## 4. Results -/

def Check.Describes (ignoreCase : Bool) (text : String) (expected actual : Data) : Check → Prop
  | .required m => expected = .text m.label ∧ ∃ n : Nat, actual = .int n ∧
      ∀ k, k ≤ n ↔ k = 0 ∨ ∃ pattern ∈ m.patterns, OccursAtLeast ignoreCase k pattern text
  | .forbidden m => expected = .null ∧ actual = .text m.label
  | .minLength n => expected = .int n ∧ actual = .int text.length
  | .predicate _ => expected = .null ∧ actual = .null

structure RuleResult.Reports (result : RuleResult) (r : Rule) (text : String) (c : Check)
    (message : Data) : Prop where
  passed : result.passed = false
  reason : result.reason = some .checkUnmet
  message : result.message = message
  describes : c.Describes r.ignoreCase text result.expected result.actual

/-- An evaluation ends with the failure of a check and a message, unless the message cannot be written
because a bound of the rule has too many digits. -/
def Rule.FailsWith (r : Rule) (text : String) (c : Check) (message : Except EvaluationError Data)
    (answer : Except EvaluationError RuleResult) : Prop :=
  match message with
  | .ok m => ∃ result, answer = .ok result ∧ result.Reports r text c m
  | .error e => answer = .error e ∧ r.HasLongBound

/-- The failure a rule gives reports the check it was made for. -/
theorem reports_failure {r : Rule} {text : String} {c : Check} {o : CheckOutcome}
    (hc : c ∈ r.checks) (ho : c.Finds r.ignoreCase text o) (message : Data) :
    (r.failure o message).Reports r text c message := by
  refine ⟨rfl, rfl, rfl, ?_⟩
  rw [mem_checks] at hc
  cases c with
  | required m =>
    obtain ⟨n, hn, rfl⟩ := Check.finds_required_iff.mp ho
    exact ⟨rfl, n, rfl, fun k => le_count_iff hn⟩
  | forbidden m =>
    obtain ⟨n, -, rfl⟩ := Check.finds_forbidden_iff.mp ho
    exact ⟨rfl, rfl⟩
  | minLength n =>
    rw [Check.finds_minLength_iff.mp ho]
    unfold Rule.failure
    dsimp only
    rw [hc]
    exact ⟨rfl, rfl⟩
  | predicate p =>
    obtain ⟨met, -, rfl⟩ := Check.finds_predicate_iff.mp ho
    exact ⟨rfl, rfl⟩

/-- Only the bound of a check can keep the default message from being written. -/
theorem hasLongBound_of_error {r : Rule} {text : String} {c : Check} {o : CheckOutcome}
    {e : EvaluationError} (hc : c ∈ r.checks) (ho : c.Finds r.ignoreCase text o)
    (hunmet : r.Unmet text c) (hfallback : r.fallbackMessage.truthy = false)
    (h : r.defaultMessage o = .error e) : r.HasLongBound := by
  have hmet : o.met = false := by simpa using ho.not_met_iff.mpr hunmet
  have hreports : o.Reports r text ∨ ∃ message, r.defaultMessage o = .ok message := by
    rw [mem_checks] at hc
    cases c with
    | required m =>
      obtain ⟨n, -, rfl⟩ := Check.finds_required_iff.mp ho
      exact .inl (.required m hc n)
    | forbidden m =>
      obtain ⟨n, -, rfl⟩ := Check.finds_forbidden_iff.mp ho
      exact .inl (.forbidden m hc n)
    | minLength n =>
      rw [Check.finds_minLength_iff.mp ho]
      exact .inl (.minLength n hc)
    | predicate p =>
      obtain ⟨met, -, rfl⟩ := Check.finds_predicate_iff.mp ho
      exact .inr ⟨_, rfl⟩
  have hwritten : ¬ ∃ message, r.defaultMessage o = .ok message := by
    rw [h]
    rintro ⟨message, hok⟩
    exact nomatch hok
  exact ⟨hfallback, (defaultMessage_or (hreports.resolve_right hwritten) hmet).resolve_left hwritten⟩

/-- A rule whose steps all name checks of it, and a text that does not meet all checks. Unless a check
cannot be made, the result is the failure of a check that is not met, the one that is selected when
each step stands for the first check that it names. With distinct labels, or when no step hides a
check behind one that is met, that is the one selected when steps stand for checks that are not met.
-/
theorem reported_check {r : Rule} {text : String} {known : Compiled} (hknown : Compiled.Sound known)
    (hsteps : ∀ s ∈ r.diagnostics, ∃ c ∈ r.checks, s.Names c)
    (hunmet : ∃ c ∈ r.checks, r.Unmet text c) :
    (∃ c ∈ r.checks, ∃ e, (c.outcome r.ignoreCase text).value = .error e ∧
        ((r.evaluate (some text)).run.run known).1 = .error e) ∨
      ∃ c message, r.Selects text (r.ShowsFirst text) c message ∧ c ∈ r.checks ∧ r.Unmet text c ∧
        r.FailsWith text c message ((r.evaluate (some text)).run.run known).1 ∧
        ((r.DistinctLabels ∨ ∀ s ∈ r.diagnostics, ¬ r.Hides text s) →
          r.Selects text (r.ShowsUnmet text) c message) := by
  rw [(transparent_evaluate r (some text)).run_eq hknown, value_evaluate_some]
  -- A check that fails by itself ends the evaluation before any step is looked at.
  cases hchecks : (r.runChecks text).value with
  | error e =>
    rw [value_runChecks] at hchecks
    obtain ⟨c, hc, hfail⟩ := exists_of_mapM_error hchecks
    exact .inl ⟨c, hc, e, hfail, rfl⟩
  | ok outcomes =>
    obtain ⟨c, o, message, hselects, hc, hcunmet, ho, hverdict⟩ :=
      verdict_selects (finds_checks hchecks) hsteps hunmet
    refine .inr ⟨c, message, hselects, hc, hcunmet, ?_, ?_⟩
    · show r.FailsWith text c message (r.verdict outcomes)
      rw [hverdict]
      cases hselects with
      | step _ _ => exact ⟨_, rfl, reports_failure hc ho _⟩
      | fallback _ _ _ => exact ⟨_, rfl, reports_failure hc ho _⟩
      | @default _ o' _ hmessage _ ho' =>
        cases hdefault : r.defaultMessage o' with
        | ok m => exact ⟨_, rfl, reports_failure hc ho _⟩
        | error e => exact ⟨rfl, hasLongBound_of_error hc ho' hcunmet hmessage hdefault⟩
    -- Where no met check comes first under a label, the step shows the unmet one.
    · intro hclear
      apply hselects.congr
      intro s hs
      apply showsFirst_iff
      rcases hclear with hlabels | hclear
      · exact not_hides hlabels text s
      · exact hclear s hs

/-- The first step looks at a check that is met, so that the second one gives the message. -/
theorem reported_check_second :
    let required : DiagnosticStep := { check := .required, message := "m", marker := some "a" }
    let forbidden : DiagnosticStep := { check := .forbidden, message := "n", marker := some "TODO" }
    let r : Rule := { id := "r", appliesTo := "f", required := [{ first := "a" }],
                      forbidden := [{ first := "TODO" }], diagnostics := [required, forbidden] }
    (∀ s ∈ r.diagnostics, ∃ c ∈ r.checks, s.Names c) ∧ (∃ c ∈ r.checks, r.Unmet "a TODO" c) ∧
      ∃ c, r.Selects "a TODO" (r.ShowsUnmet "a TODO") c (.ok (.text "n")) ∧
        r.FailsWith "a TODO" c (.ok (.text "n")) ((r.evaluate (some "a TODO")).run.run []).1 := by
  intro required forbidden r
  have hrequired : ∃ c ∈ r.checks, required.Names c :=
    ⟨.required { first := "a" }, List.mem_cons_self, rfl, fun m hm => Option.some.inj hm ▸ rfl⟩
  have hforbidden : ∃ c ∈ r.checks, forbidden.Names c :=
    ⟨.forbidden { first := "TODO" }, List.mem_cons_of_mem _ List.mem_cons_self, rfl,
      fun m hm => Option.some.inj hm ▸ rfl⟩
  have hsteps : ∀ s ∈ r.diagnostics, ∃ c ∈ r.checks, s.Names c := by
    simpa [r] using ⟨hrequired, hforbidden⟩
  let o : CheckOutcome :=
    { kind := .forbidden, met := false, marker := some { first := "TODO" }, observed := some 1 }
  have hfinds : Check.Finds r.ignoreCase "a TODO" (.forbidden { first := "TODO" }) o := by
    rfl
  have hunmet : ∃ c ∈ r.checks, r.Unmet "a TODO" c :=
    ⟨_, List.mem_cons_of_mem _ List.mem_cons_self, hfinds.not_met_iff.mp rfl⟩
  have hlabels : r.DistinctLabels := ⟨by simp [r], by simp [r]⟩
  have hanswer : ((r.evaluate (some "a TODO")).run.run []).1 = .ok (r.failure o (.text "n")) := by
    dsimp only [r, required, forbidden, o]
    rfl
  refine ⟨hsteps, hunmet, ?_⟩
  rcases reported_check Compiled.sound_nil hsteps hunmet with
    ⟨c, -, e, -, hfail⟩ | ⟨c, message, -, -, -, hfails, hselects⟩
  · rw [hanswer] at hfail
    cases hfail
  · rw [hanswer] at hfails ⊢
    -- The result that there is tells which message was selected.
    cases message with
    | error e => cases hfails.1
    | ok m =>
      have hreported := hfails
      obtain ⟨result, hresult, hreports⟩ := hreported
      obtain rfl := Except.ok.inj hresult
      obtain rfl : .text "n" = m := hreports.message
      exact ⟨c, hselects (.inl hlabels), hfails⟩

/-- A marker that must occur twice, behind one with the same label that must occur once: a step that
names both stands for the first one and is passed over. -/
theorem hidden_behind_label :
    let m : Marker := { first := "a" }
    let m' : Marker := { first := "a", minCount := 2 }
    let step : DiagnosticStep := { check := .required, message := "m", marker := some "a" }
    let r : Rule := { id := "r", appliesTo := "f", required := [m, m'], diagnostics := [step],
                      fallbackMessage := .text "no step applies" }
    (∀ s ∈ r.diagnostics, ∃ c ∈ r.checks, s.Names c) ∧ (∃ c ∈ r.checks, r.Unmet "a" c) ∧
      ¬ ∃ c message, r.Selects "a" (r.ShowsUnmet "a") c message ∧
        r.FailsWith "a" c message ((r.evaluate (some "a")).run.run []).1 := by
  intro m m' step r
  have hnames : step.Names (.required m') := by
    refine ⟨rfl, fun m hm => ?_⟩
    rw [← Option.some.inj hm]
    dsimp only [step, m']
    rfl
  have hmem : Check.required m' ∈ r.checks := List.mem_cons_of_mem _ List.mem_cons_self
  have hfinds : Check.Finds r.ignoreCase "a" (.required m')
      { kind := .required, met := false, marker := some m', observed := some 1 } := by
    dsimp only [r, m']
    rfl
  have hunmet : r.Unmet "a" (.required m') := hfinds.not_met_iff.mp rfl
  have hshows : ∃ c, r.ShowsUnmet "a" step c := FirstOf.exists_of_mem hmem ⟨hnames, hunmet⟩
  have hanswer : ((r.evaluate (some "a")).run.run []).1 =
      .ok (r.failure { kind := .required, met := false, marker := some m', observed := some 1 }
        (.text "no step applies")) := by
    dsimp only [r, m, m', step]
    rfl
  refine ⟨?_, ⟨_, hmem, hunmet⟩, ?_⟩
  · simpa [r] using ⟨_, hmem, hnames⟩
  · rintro ⟨c, message, hselects, hfails⟩
    rw [hanswer] at hfails
    cases hselects with
    | step hs hc =>
      obtain rfl := List.mem_singleton.mp hs.mem
      obtain ⟨result, hresult, hreports⟩ := hfails
      obtain rfl := Except.ok.inj hresult
      exact absurd (Data.text.inj hreports.message) (by decide)
    | fallback hnone _ _ => exact hnone step List.mem_cons_self hshows
    | default hnone _ _ _ => exact hnone step List.mem_cons_self hshows

end Grading
