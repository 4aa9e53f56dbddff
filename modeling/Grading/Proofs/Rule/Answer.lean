import Mathlib.Data.List.Forall2
import Grading.Proofs.Errors
import Grading.Proofs.Rule.Kept

/-!
# Answer — each rule is answered by one result

Whatever its checks come to, a rule ends with a result of its own: one that carries the identifier
of the rule, is not skipped, and has a missing unit for its reason exactly when there is no unit.
The results of several rules stand in the order of the rules.
-/

namespace Grading

/-! ## 1. Computations that succeed -/

/-- The results of a list of computations that all succeed correspond to its members. -/
theorem forall₂_of_mapM {ε α β : Type} {f : α → Except ε β} {l : List α} {bs : List β}
    (h : l.mapM f = .ok bs) : List.Forall₂ (fun a b => f a = .ok b) l bs := by
  induction l generalizing bs with
  | nil =>
    obtain rfl := Except.ok.inj (List.mapM_nil.symm.trans h)
    exact .nil
  | cons a l ih =>
    rw [List.mapM_cons] at h
    obtain ⟨b, hb, h⟩ := bind_eq_ok.mp h
    obtain ⟨bs', hbs, h⟩ := bind_eq_ok.mp h
    obtain rfl := Except.ok.inj h
    exact .cons hb (ih hbs)

/-- A list of computations fails as one of them does. -/
theorem exists_of_mapM_error {ε α β : Type} {f : α → Except ε β} {l : List α} {e : ε}
    (h : l.mapM f = .error e) : ∃ a ∈ l, f a = .error e := by
  induction l with
  | nil => exact nomatch List.mapM_nil.symm.trans h
  | cons a l ih =>
    rw [List.mapM_cons] at h
    cases ha : f a with
    | error e' =>
      rw [ha] at h
      obtain rfl : e' = e := Except.error.inj h
      exact ⟨a, List.mem_cons_self, ha⟩
    | ok b =>
      rw [ha] at h
      cases hl : l.mapM f with
      | error e' =>
        rw [hl] at h
        obtain rfl : e' = e := Except.error.inj h
        obtain ⟨a', ha', hfail⟩ := ih hl
        exact ⟨a', List.mem_cons_of_mem _ ha', hfail⟩
      | ok bs =>
        rw [hl] at h
        exact nomatch h

/-- Each member of a list has a counterpart in one that corresponds to it. -/
theorem exists_of_forall₂ {α β : Type} {rel : α → β → Prop} {as : List α} {bs : List β}
    (h : List.Forall₂ rel as bs) : ∀ a ∈ as, ∃ b ∈ bs, rel a b := by
  induction h with
  | nil => exact nofun
  | cons hab _ ih =>
    intro a' ha'
    rcases List.mem_cons.mp ha' with rfl | ha'
    · exact ⟨_, List.mem_cons_self, hab⟩
    · obtain ⟨b', hb', hab'⟩ := ih a' ha'
      exact ⟨b', List.mem_cons_of_mem _ hb', hab'⟩

/-! ## 2. One rule -/

/-- What every result tells of its rule and of the text of its unit, before any is skipped. -/
structure RuleResult.Answers (result : RuleResult) (r : Rule) (unit : Option String) : Prop where
  ruleId : result.ruleId = r.id
  notSkipped : result.skipped = false
  missing_iff : result.reason = some .unitMissing ↔ unit = none

theorem answers_broken (r : Rule) (e : EvaluationError) (text : String) :
    (r.broken e).Answers r (some text) :=
  ⟨rfl, rfl, iff_of_false nofun nofun⟩

/-- A rule passes when all outcomes are met; otherwise it fails for one of its checks. -/
theorem verdict_met {r : Rule} {outcomes : List CheckOutcome} {result : RuleResult}
    (h : r.verdict outcomes = .ok result) :
    (∀ o ∈ outcomes, o.met = true) ∧
        result = { ruleId := r.id, name := r.displayName, passed := true } ∨
      (∃ o ∈ outcomes, o.met = false) ∧ ∃ o message, result = r.failure o message := by
  obtain ⟨steps, -, h⟩ := bind_eq_ok.mp h
  split at h
  · next hnone =>
    have hmet : ∀ o ∈ outcomes, o.met = true := by simpa using List.find?_eq_none.mp hnone
    exact .inl ⟨hmet, (Except.ok.inj h).symm⟩
  · next first hfirst =>
    have hunmet : first.met = false := by simpa using List.find?_some hfirst
    refine .inr ⟨⟨first, List.mem_of_find?_eq_some hfirst, hunmet⟩, ?_⟩
    split at h
    · exact ⟨_, _, (Except.ok.inj h).symm⟩
    · split at h
      · exact ⟨_, _, (Except.ok.inj h).symm⟩
      · obtain ⟨message, -, h⟩ := bind_eq_ok.mp h
        exact ⟨_, _, (Except.ok.inj h).symm⟩

/-- A verdict is that all checks passed, or that one of them failed. -/
theorem verdict_cases {r : Rule} {outcomes : List CheckOutcome} {result : RuleResult}
    (h : r.verdict outcomes = .ok result) :
    result = { ruleId := r.id, name := r.displayName, passed := true } ∨
      ∃ o message, result = r.failure o message :=
  (verdict_met h).imp And.right And.right

theorem answers_verdict {r : Rule} {outcomes : List CheckOutcome} {result : RuleResult}
    (h : r.verdict outcomes = .ok result) (text : String) : result.Answers r (some text) := by
  rcases verdict_cases h with rfl | ⟨o, message, rfl⟩
  · exact ⟨rfl, rfl, iff_of_false nofun nofun⟩
  · exact ⟨rfl, rfl, iff_of_false nofun nofun⟩

/-- An evaluation on a text ends with a verdict on the outcomes of the checks, or with an error. -/
theorem run_evaluate_some (r : Rule) (text : String) (known : Compiled) :
    (r.evaluate (some text)).run.run known = match (r.runChecks text).run.run known with
      | (.ok outcomes, later) => (r.verdict outcomes, later)
      | (.error e, later) => (.error e, later) := by
  unfold Rule.evaluate
  dsimp only
  rw [Evaluation.run_bind]
  rcases (r.runChecks text).run.run known with ⟨e | outcomes, later⟩
  · rfl
  · dsimp only
    cases r.verdict outcomes <;> rfl

theorem answers_evaluateRule (e : Evaluator) (r : Rule) (unit : Option String) :
    (e.evaluateRule r unit).1.Answers r unit := by
  unfold Evaluator.evaluateRule
  cases unit with
  | none => exact ⟨rfl, rfl, iff_of_true rfl rfl⟩
  | some text =>
    -- The time that is noted at the end is no part of the answer.
    have hanswers : ∀ {result : RuleResult} (time : Number), result.Answers r (some text) →
        RuleResult.Answers { result with time } r (some text) :=
      fun _ h => ⟨h.ruleId, h.notSkipped, h.missing_iff⟩
    rw [run_evaluate_some]
    rcases (r.runChecks text).run.run e.compiled with ⟨error | outcomes, later⟩
    · exact hanswers _ (answers_broken r error text)
    · dsimp only
      cases hverdict : r.verdict outcomes with
      | error error => exact hanswers _ (answers_broken r error text)
      | ok result => exact hanswers _ (answers_verdict hverdict text)

/-! ## 3. All rules -/

/-- The results of rules answer them in their order, each on the text that its target stands for. -/
theorem answers_evaluate (e : Evaluator) (units : String → Option String) {rules : List Rule}
    {unitOf : Rule → Option String} (h : ∀ r ∈ rules, units r.appliesTo = unitOf r) :
    List.Forall₂ (fun result r => result.Answers r (unitOf r)) (e.evaluate units rules).1 rules := by
  induction rules generalizing e with
  | nil => exact .nil
  | cons r rules ih =>
    refine .cons ?_ (ih _ fun r' hr' => h r' (List.mem_cons_of_mem _ hr'))
    rw [← h r List.mem_cons_self]
    exact answers_evaluateRule e r _

end Grading
