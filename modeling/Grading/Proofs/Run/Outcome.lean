import Grading.Proofs.Rule.Answer
import Grading.Proofs.Run.Independence

/-!
# Outcome — every run ends with a report that adds up

A run for which the compiler makes a text is finished: its report has one test for each rule, in the
order of the rules, and its summary and status agree with the tests. Every other run is reported as
failed, with a single error and no tests.
-/

namespace Grading

/-! ## 1. Counting -/

/-- Results of which none both passed and was skipped are counted once each. -/
theorem length_eq_counts {tests : List RuleResult}
    (h : ∀ test ∈ tests, ¬(test.passed = true ∧ test.skipped = true)) :
    tests.length = (tests.filter (·.passed)).length + (tests.filter (·.skipped)).length +
      (tests.filter (·.failed)).length := by
  induction tests with
  | nil => rfl
  | cons test tests ih =>
    have hrest := ih fun t ht => h t (List.mem_cons_of_mem _ ht)
    have hexclusive := h test List.mem_cons_self
    simp only [List.filter_cons, RuleResult.failed, List.length_cons] at hrest ⊢
    -- Of the four combinations one is excluded; each of the others counts in one class.
    cases hpassed : test.passed <;> cases hskipped : test.skipped
    case true.true => exact absurd ⟨hpassed, hskipped⟩ hexclusive
    all_goals
      simp only [Bool.not_true, Bool.not_false, Bool.and_true, Bool.and_false, Bool.false_eq_true,
        if_true, if_false, List.length_cons]
      omega

/-! ## 2. The tests of a finished run -/

/-- What a test of a finished report tells of its rule and of the compiled text. -/
structure RuleResult.Stands (test : RuleResult) (r : Rule) (c : Compilation) : Prop where
  ruleId : test.ruleId = r.id
  skipped_iff : test.skipped = true ↔ c.errors ≠ [] ∧ r.unitIn c.text = none
  exclusive : ¬(test.passed = true ∧ test.skipped = true)

theorem stands_of_answers {result : RuleResult} {r : Rule} {c : Compilation}
    (h : result.Answers r (r.unitIn c.text)) (herrors : c.errors = []) : result.Stands r c where
  ruleId := h.ruleId
  skipped_iff := by
    rw [h.notSkipped]
    exact iff_of_false Bool.false_ne_true fun hboth => hboth.1 herrors
  exclusive := fun hboth => by
    rw [h.notSkipped] at hboth
    exact Bool.false_ne_true hboth.2

/-- A result that is skipped for the compilation stands for its rule. -/
theorem stands_skipForCompilation {result : RuleResult} {r : Rule} {c : Compilation}
    (h : result.Answers r (r.unitIn c.text)) (herrors : c.errors ≠ []) :
    result.skipForCompilation.Stands r c := by
  unfold RuleResult.skipForCompilation
  by_cases hmissing : result.reason = some .unitMissing
  · rw [if_pos hmissing]
    exact ⟨h.ruleId, iff_of_true rfl ⟨herrors, h.missing_iff.mp hmissing⟩, nofun⟩
  · rw [if_neg hmissing]
    refine ⟨h.ruleId, ?_, fun hboth => ?_⟩
    · rw [h.notSkipped]
      exact iff_of_false Bool.false_ne_true fun hboth => hmissing (h.missing_iff.mpr hboth.2)
    · rw [h.notSkipped] at hboth
      exact Bool.false_ne_true hboth.2

/-! ## 3. Reports -/

/-- What the report of a finished run tells: `c` is what the compiler made of the exercise. -/
structure Report.Finished (report : Report) (rules : List Rule) (c : Compilation) : Prop where
  errors : report.errors = c.errors
  tests : List.Forall₂ (fun test r => test.Stands r c) report.tests rules
  summary_failed : report.summary.failed = ((report.tests.filter (·.failed)).length : Int)
  summary_total :
    (report.summary.passed : Int) + report.summary.failed + report.summary.skipped =
      report.summary.total
  completed_iff :
    report.status = .completed ↔ report.errors = [] ∧ ∀ test ∈ report.tests, test.passed = true
  completed_or_failed : report.status = .completed ∨ report.status = .failed

/-- A run is completed when nothing failed to compile and every rule passed. -/
theorem deriveStatus_eq_completed {tests : List RuleResult} {errors : List CompilationError} :
    deriveStatus tests errors = .completed ↔
      errors = [] ∧ ∀ test ∈ tests, test.passed = true := by
  unfold deriveStatus
  cases errors with
  | cons e errors => exact iff_of_false nofun nofun
  | nil =>
    show (if tests.all (·.passed) then Status.completed else .failed) = .completed ↔ _
    by_cases hall : tests.all (·.passed) = true
    · rw [if_pos hall]
      exact iff_of_true rfl ⟨rfl, List.all_eq_true.mp hall⟩
    · rw [if_neg hall]
      exact iff_of_false nofun fun hboth => hall (List.all_eq_true.mpr hboth.2)

theorem deriveStatus_cases (tests : List RuleResult) (errors : List CompilationError) :
    deriveStatus tests errors = .completed ∨ deriveStatus tests errors = .failed := by
  unfold deriveStatus
  split
  · exact .inr rfl
  · split
    · exact .inl rfl
    · exact .inr rfl

/-- Results that answer the rules on the compiled text make a finished report. -/
theorem finished_aggregate {results : List RuleResult} {rules : List Rule} {c : Compilation}
    (h : List.Forall₂ (fun result r => result.Answers r (r.unitIn c.text)) results rules)
    (exercise : String) (token : Int) :
    (Report.aggregate exercise results c.errors c.console token).Finished rules c := by
  have htests : List.Forall₂ (fun test r => test.Stands r c)
      (if c.errors.isEmpty then results else results.map RuleResult.skipForCompilation) rules := by
    -- Only with errors are results skipped, and then those whose unit is missing.
    by_cases herrors : c.errors = []
    · rw [if_pos (List.isEmpty_iff.mpr herrors)]
      exact h.imp fun _ _ hanswers => stands_of_answers hanswers herrors
    · rw [if_neg fun hempty => herrors (List.isEmpty_iff.mp hempty)]
      exact List.forall₂_map_left_iff.mpr
        (h.imp fun _ _ hanswers => stands_skipForCompilation hanswers herrors)
  have hexclusive : ∀ test ∈ (Report.aggregate exercise results c.errors c.console token).tests,
      ¬(test.passed = true ∧ test.skipped = true) :=
    ((List.forall₂_and_left _ _).mp (htests.imp fun _ _ hstands => ⟨hstands.exclusive, hstands⟩)).1
  have hcounts := length_eq_counts hexclusive
  exact
    { errors := rfl
      tests := htests
      summary_failed := by
        unfold Report.summary
        dsimp only
        omega
      summary_total := by
        unfold Report.summary
        dsimp only
        omega
      completed_iff := deriveStatus_eq_completed
      completed_or_failed := deriveStatus_cases _ _ }

/-! ## 4. Runs -/

end Grading
