import Grading.Report.Document
import Mathlib.Data.List.Forall2

/-!
# RoundTrip — a report survives its document

Reading looks up in a document what writing put there. The lemmas follow the three levels of a report:
what the compiler found, the outcome of a rule, the report as a whole. Nothing is asked of the parts, so
a report read from a document that leaves parts out or holds parts of strange kinds survives as well.
-/

namespace Grading

/-! ## 1. Parts of a mapping -/

@[simp]
theorem Data.field?_cons (k key : String) (v : Data) (es : List (Data × Data)) :
    Data.field? ((.text k, v) :: es) key = if k = key then some v else Data.field? es key := by
  by_cases hkey : k = key
  · simp [Data.field?, hkey]
  · simp [Data.field?, hkey]

def Data.part? (d : Data) (key : String) : Option Data :=
  match d with
  | .map es => Data.field? es key
  | _ => none

/-! ## 2. What was written is read back -/

theorem mapM_ok_self {α : Type} {f : α → Except DocumentError α} (hf : ∀ a, f a = .ok a)
    (as : List α) : as.mapM f = .ok as := by
  have hpure : f = pure := funext hf
  rw [hpure, List.mapM_pure, List.map_id']
  rfl

theorem Data.text_beq (a b : String) : (Data.text a == Data.text b) = (a == b) := by
  show Data.beq (.text a) (.text b) = (a == b)
  rw [Data.beq]

theorem Status.ofData_text (s : Status) : Status.ofData (.text s.text) = .ok s := by
  cases s <;> simp [Status.ofData, Status.all, Status.text, Data.text_beq]

theorem FailureReason.ofData_ofText? (reason : Option FailureReason) :
    FailureReason.ofData (.ofText? (reason.map FailureReason.text)) = .ok reason := by
  cases reason with
  | none => rfl
  | some reason =>
    cases reason <;>
      simp [FailureReason.ofData, FailureReason.all, FailureReason.text, Data.ofText?, Data.truthy,
        Data.text_beq]

theorem LooseError.ofData_toData (e : LooseError) : LooseError.ofData e.toData = .ok e := by
  simp [LooseError.ofData, LooseError.toData, Data.object, entries, need, Data.field, bind,
    Except.bind, pure, Except.pure]

theorem LooseResult.ofData_toData (r : LooseResult) : LooseResult.ofData r.toData = .ok r := by
  simp [LooseResult.ofData, LooseResult.toData, Data.object, entries, need, Data.field, bind,
    Except.bind, pure, Except.pure, FailureReason.ofData_ofText?]

/-- An accepted document that is written and read again is the same document. -/
theorem LooseReport.ofData_toData (r : LooseReport) : LooseReport.ofData r.toData = .ok r := by
  simp [LooseReport.ofData, LooseReport.toData, Data.object, entries, need, needList, Data.items?,
    bind, Except.bind, pure, Except.pure, Status.ofData_text,
    mapM_ok_self, LooseResult.ofData_toData, LooseError.ofData_toData]

/-! ## 3. Kinds

The parts of a report are of the kinds that reading a report asks for. -/

theorem asText?_ofText? (key : String) (s : Option String) :
    asText? key (.ofText? s) = .ok s := by
  cases s <;> rfl

theorem asInt?_ofInt? (key : String) (n : Option Int) : asInt? key (.ofInt? n) = .ok n := by
  cases n <;> rfl

theorem asNumber_toData (key : String) (n : Number) : asNumber key n.toData = .ok n := by
  cases n <;> rfl

theorem CompilationError.exact_loose (e : CompilationError) : e.loose.exact = .ok e := by
  simp [LooseError.exact, CompilationError.loose, asText, asText?_ofText?, asInt?_ofInt?, bind,
    Except.bind, pure, Except.pure]

theorem RuleResult.exact_loose (r : RuleResult) : r.loose.exact = .ok r := by
  simp [LooseResult.exact, RuleResult.loose, asText, asBool, asNumber_toData, bind, Except.bind,
    pure, Except.pure]

/-- A report is among the documents the checker accepts, and is taken as it is. -/
theorem Report.exact_loose (r : Report) : r.loose.exact = .ok r := by
  have hconsole : r.console.mapM (asText "console_output" ∘ Data.text) = .ok r.console :=
    mapM_ok_self (fun _ => rfl) _
  simp [LooseReport.exact, Report.loose, asText, asInt, asNumber_toData, hconsole, mapM_ok_self,
    CompilationError.exact_loose, RuleResult.exact_loose, bind, Except.bind, pure, Except.pure]

/-- A report that is written and read is the report. -/
theorem Report.ofData_toData (r : Report) : Report.ofData r.toData = .ok r := by
  simp [Report.ofData, Report.toData, LooseReport.ofData_toData, Report.exact_loose, bind,
    Except.bind]

theorem Report.summary_loose (r : Report) : r.loose.summary = r.summary := by
  simp [LooseReport.summary, Report.summary, Report.loose, RuleResult.loose, List.filter_map,
    Function.comp_def, Data.truthy]

/-! ## 4. The parts that repeat the results -/

def Shares (a : Data) (k : String) (b : Data) (k' : String) : Prop :=
  ∃ v, a.part? k = some v ∧ b.part? k' = some v

def Data.holds (d : Data) (key : String) : Bool := ((d.part? key).getD .null).truthy

/-- A value presents a written result: its message is the error unless the result passed. -/
structure Presents (test shown : Data) : Prop where
  name : Shares test "name" shown "name"
  passed : Shares test "passed" shown "passed"
  error : ∃ message, test.part? "message" = some message ∧
    shown.part? "error" = some (if test.holds "passed" then .null else message)
  expected : Shares test "expected" shown "expected"
  actual : Shares test "actual" shown "actual"
  time : Shares test "execution_time_ms" shown "execution_time"

structure Counts (tests : List Data) (summary : Data) : Prop where
  total : summary.part? "total" = some (.int tests.length)
  passed : summary.part? "passed" = some (.int (tests.countP (·.holds "passed")))
  skipped : summary.part? "skipped" = some (.int (tests.countP (·.holds "skipped")))
  failed : summary.part? "failed" = some (.int (tests.length -
    (tests.countP (·.holds "passed") : Int) - tests.countP (·.holds "skipped")))

/-- The parts of a document that repeat its results agree with the results. -/
def Agrees (d : Data) : Prop :=
  ∃ tests shown summary, d.part? "tests" = some (.list tests) ∧
    d.part? "test_results" = some (.list shown) ∧ d.part? "summary" = some summary ∧
    List.Forall₂ Presents tests shown ∧ Counts tests summary

theorem LooseResult.presents (r : LooseResult) : Presents r.toData r.presented where
  name := ⟨r.name, rfl, rfl⟩
  passed := ⟨r.passed, rfl, rfl⟩
  error := ⟨r.message, rfl, rfl⟩
  expected := ⟨r.expected, rfl, rfl⟩
  actual := ⟨r.actual, rfl, rfl⟩
  time := ⟨r.time, rfl, rfl⟩

/-- The summary of a report counts its results. -/
theorem LooseReport.counts (r : LooseReport) :
    Counts (r.tests.map LooseResult.toData) r.summary.toData := by
  have hpassed : (r.tests.map LooseResult.toData).countP (·.holds "passed") = r.summary.passed := by
    rw [List.countP_map, List.countP_eq_length_filter]
    rfl
  have hskipped :
      (r.tests.map LooseResult.toData).countP (·.holds "skipped") = r.summary.skipped := by
    rw [List.countP_map, List.countP_eq_length_filter]
    rfl
  constructor
  case total =>
    rw [List.length_map]
    rfl
  case passed =>
    rw [hpassed]
    rfl
  case skipped =>
    rw [hskipped]
    rfl
  case failed =>
    rw [hpassed, hskipped, List.length_map]
    rfl

/-- The sections of a written report agree with one another. -/
theorem LooseReport.agrees (r : LooseReport) : Agrees r.toData := by
  refine ⟨r.tests.map LooseResult.toData, r.tests.map LooseResult.presented, r.summary.toData, rfl,
    rfl, rfl, ?_, r.counts⟩
  rw [List.forall₂_map_left_iff, List.forall₂_map_right_iff, List.forall₂_same]
  exact fun test _ => test.presents

/-! ## 5. Round trips -/

/-- Reading what was written gives the report that was written, and writing that again the same
document, whatever the parts of the report; a document that is accepted gives, written anew and read,
the report that it gave at first. In what is written, the parts that repeat the results agree with
them. -/
theorem report_survives :
    (∀ r : Report, Report.ofData r.toData = .ok r ∧ LooseReport.ofData r.toData = .ok r.loose ∧
      (LooseReport.ofData r.toData).map LooseReport.toData = .ok r.toData ∧
      r.toData.part? "summary" = some r.summary.toData ∧ Agrees r.toData) ∧
    (∀ d : Data, (do LooseReport.ofData (← LooseReport.ofData d).toData) = LooseReport.ofData d) ∧
    ∀ r : LooseReport, Agrees r.toData := by
  refine ⟨fun r => ?_, fun d => ?_, LooseReport.agrees⟩
  · have hread : LooseReport.ofData r.toData = .ok r.loose := LooseReport.ofData_toData r.loose
    refine ⟨r.ofData_toData, hread, ?_, ?_, r.loose.agrees⟩
    · rw [hread]
      rfl
    · rw [← r.summary_loose]
      rfl
  · cases hd : LooseReport.ofData d with
    | error e => rfl
    | ok r => exact r.ofData_toData

end Grading
