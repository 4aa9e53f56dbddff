import Mathlib.Data.List.Forall2
import Grading.Report.Aggregate

/-!
# Skipping — what errors of the compiler change in a report

Without errors a report has the results as they are. With errors those whose unit was not found are
skipped; they lose their verdict and their message and nothing else. What a report derives from its
results it derives after that, so making a report of its own tests once more changes nothing.
-/

namespace Grading

/-! ## 1. One result -/

/-- How a result stands in a report with errors: it is skipped if its unit was not found, and left alone
otherwise. -/
structure RuleResult.SkippedIfMissing (result test : RuleResult) : Prop where
  missing : result.reason = some .unitMissing →
    test.skipped = true ∧ test.passed = false ∧ test.message = .text (skippedMessage result.name)
  other : result.reason ≠ some .unitMissing → test = result
  kept : { test with
    passed := result.passed, skipped := result.skipped, message := result.message } = result

namespace RuleResult

variable {r : RuleResult}

theorem skipForCompilation_of_missing (h : r.reason = some .unitMissing) :
    r.skipForCompilation =
      { r with passed := false, skipped := true, message := .text (skippedMessage r.name) } :=
  if_pos h

theorem skipForCompilation_of_other (h : r.reason ≠ some .unitMissing) : r.skipForCompilation = r :=
  if_neg h

theorem skippedIfMissing_skipForCompilation (r : RuleResult) :
    r.SkippedIfMissing r.skipForCompilation := by
  by_cases hmissing : r.reason = some .unitMissing
  · rw [skipForCompilation_of_missing hmissing]
    exact ⟨fun _ => ⟨rfl, rfl, rfl⟩, fun hother => absurd hmissing hother, rfl⟩
  · rw [skipForCompilation_of_other hmissing]
    exact ⟨fun h => absurd h hmissing, fun _ => rfl, rfl⟩

@[simp] theorem ruleId_skipForCompilation (r : RuleResult) :
    r.skipForCompilation.ruleId = r.ruleId := by
  have hkept := congrArg ruleId (skippedIfMissing_skipForCompilation r).kept
  exact hkept

@[simp] theorem time_skipForCompilation (r : RuleResult) : r.skipForCompilation.time = r.time := by
  have hkept := congrArg time (skippedIfMissing_skipForCompilation r).kept
  exact hkept

/-- A skipped result still has a missing unit for its reason, and skipping it again gives the same. -/
theorem skipForCompilation_idem (r : RuleResult) :
    r.skipForCompilation.skipForCompilation = r.skipForCompilation := by
  by_cases hmissing : r.reason = some .unitMissing
  · have hskipped := skipForCompilation_of_missing hmissing
    have hagain : r.skipForCompilation.reason = some .unitMissing := by
      rw [hskipped]
      exact hmissing
    rw [skipForCompilation_of_missing hagain, hskipped]
  · have hsame := skipForCompilation_of_other hmissing
    rw [hsame, hsame]

end RuleResult

/-! ## 2. Reports -/

namespace Report

variable {exercise : String} {tests : List RuleResult} {errors : List CompilationError}
  {console : List String} {token : Int}

theorem tests_aggregate_nil : (aggregate exercise tests [] console token).tests = tests := rfl

theorem tests_aggregate_of_errors (h : errors ≠ []) :
    (aggregate exercise tests errors console token).tests =
      tests.map RuleResult.skipForCompilation := by
  show (if errors.isEmpty then tests else _) = _
  rw [if_neg fun hempty => h (List.isEmpty_iff.mp hempty)]

theorem status_aggregate_of_errors (h : errors ≠ []) :
    (aggregate exercise tests errors console token).status = .failed := by
  cases errors with
  | nil => exact absurd rfl h
  | cons e errors => rfl

/-- What skipping leaves alone in every result, a report leaves alone in all of them. -/
theorem map_tests_aggregate {β : Type} {f : RuleResult → β}
    (hf : ∀ r : RuleResult, f r.skipForCompilation = f r) :
    (aggregate exercise tests errors console token).tests.map f = tests.map f := by
  by_cases herrors : errors = []
  · rw [herrors, tests_aggregate_nil]
  · rw [tests_aggregate_of_errors herrors, List.map_map]
    exact List.map_congr_left fun r _ => hf r

theorem tests_aggregate_again {exercise' : String} {console' : List String} {token' : Int} :
    (aggregate exercise' (aggregate exercise tests errors console token).tests errors console'
      token').tests = (aggregate exercise tests errors console token).tests := by
  by_cases herrors : errors = []
  · rw [herrors, tests_aggregate_nil]
  · simp only [tests_aggregate_of_errors herrors, List.map_map]
    exact List.map_congr_left fun r _ => RuleResult.skipForCompilation_idem r

/-- What a report derives, it derives from the tests that it has and not from those it is made of. -/
theorem aggregate_eq (exercise : String) (tests : List RuleResult) (errors : List CompilationError)
    (console : List String) (token : Int) :
    aggregate exercise tests errors console token =
      { exercise, errors, console, token,
        tests := (aggregate exercise tests errors console token).tests
        status := deriveStatus (aggregate exercise tests errors console token).tests errors
        time := Number.sum ((aggregate exercise tests errors console token).tests.map (·.time)) } :=
  rfl

theorem aggregate_again (exercise' : String) (token' : Int) :
    aggregate exercise' (aggregate exercise tests errors console token).tests errors console token' =
      { aggregate exercise tests errors console token with exercise := exercise', token := token' } := by
  rw [aggregate_eq exercise', tests_aggregate_again]
  rfl

end Report

/-- A report has one test for each result, in their order, with its rule and its time. Without errors
these are the results themselves. With errors the report is failed, and exactly the results whose unit
was not found are skipped. The status is that of the tests and errors that the report has, and a report
made of its tests, with the same errors and what was printed, is the same but for the exercise and the
token that it is made for. -/
theorem skipping_is_conservative (exercise : String) (tests : List RuleResult)
    (errors : List CompilationError) (console : List String) (token : Int) :
    let report := Report.aggregate exercise tests errors console token
    report.tests.length = tests.length ∧
      report.tests.map (·.ruleId) = tests.map (·.ruleId) ∧
      report.tests.map (·.time) = tests.map (·.time) ∧
      (errors = [] → report.tests = tests) ∧
      (errors ≠ [] → report.status = .failed ∧
        List.Forall₂ RuleResult.SkippedIfMissing tests report.tests) ∧
      (∀ exercise' token',
        Report.aggregate exercise' report.tests report.errors report.console token' =
          { report with exercise := exercise', token := token' }) ∧
      report.status = deriveStatus report.tests report.errors := by
  intro report
  -- Skipping a result keeps its rule and its time.
  have hids : report.tests.map (·.ruleId) = tests.map (·.ruleId) :=
    Report.map_tests_aggregate RuleResult.ruleId_skipForCompilation
  have htimes : report.tests.map (·.time) = tests.map (·.time) :=
    Report.map_tests_aggregate RuleResult.time_skipForCompilation
  refine ⟨by simpa using congrArg List.length hids, hids, htimes, ?_, ?_, ?_, rfl⟩
  · rintro rfl
    rfl
  · intro herrors
    refine ⟨Report.status_aggregate_of_errors herrors, ?_⟩
    rw [show report.tests = _ from Report.tests_aggregate_of_errors herrors]
    exact List.forall₂_map_right_iff.mpr
      (List.forall₂_same.mpr fun r _ => RuleResult.skippedIfMissing_skipForCompilation r)
  · exact Report.aggregate_again

/-- A result that passed although its unit was not found is skipped, one that was skipped for no reason
is left alone. -/
theorem skipping_is_conservative_inconsistent :
    let odd : RuleResult := { ruleId := "a", name := "A", passed := true, reason := some .unitMissing }
    let skipped : RuleResult := { ruleId := "b", name := "B", passed := true, skipped := true }
    let error : CompilationError := { message := "m" }
    let report := Report.aggregate "e" [odd, skipped] [error] [] 1
    (∀ exercise token, Report.aggregate exercise report.tests [error] [] token =
        { report with exercise, token }) ∧
      report.status = .failed ∧ report.tests.map (·.skipped) = [true, true] ∧
      report.tests.map (·.passed) = [false, true] ∧
      (Report.aggregate "e" [odd, skipped] [] [] 1).tests = [odd, skipped] := by
  intro odd skipped error report
  obtain ⟨-, -, -, -, hfaulty, hagain, -⟩ :=
    skipping_is_conservative "e" [odd, skipped] [error] [] 1
  obtain ⟨-, -, -, hclean, -, -, -⟩ := skipping_is_conservative "e" [odd, skipped] [] [] 1
  obtain ⟨hstatus, htests⟩ := hfaulty (List.cons_ne_nil _ _)
  refine ⟨hagain, hstatus, ?_, ?_, hclean rfl⟩
  · rfl
  · rfl

end Grading
