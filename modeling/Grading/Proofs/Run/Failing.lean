import Grading.Proofs.Compiler.LineByLine
import Grading.Proofs.Errors
import Grading.Proofs.Run.Outcome

/-!
# Failing — a command that fails never lets an exercise pass

A command that ends with another code than zero leaves an error, one that it told of or one made of what
it said, and a run with errors is failed. If the command was to print the compiled text, that text is
empty: no rule finds its unit, and every test is skipped. A run is completed only by a command that ends
with the code zero.
-/

namespace Grading

open Grading.Text Grading.Files

/-! ## 1. Errors of a command -/

/-- The output that a command tells of errors on: all of it, unless it prints the compiled text. -/
def OutputMode.telling (mode : OutputMode) (stdout stderr : List Char) : List Char :=
  match mode with
  | .stdout => stderr
  | .source => stdout ++ '\n' :: stderr

/-- Every error is reported of a line. -/
theorem Diagnostics.Accounts.exists_line {d : Diagnostics} {said : List (List Char)}
    (h : d.Accounts said) {e : CompilationError} (he : e ∈ d.errors) :
    ∃ line ∈ said, Tells line (.inl e) := by
  obtain ⟨reports, htells, herrors, -⟩ := h
  rw [herrors] at he
  obtain ⟨report, hreport, hleft⟩ := List.mem_filterMap.mp he
  obtain rfl : report = .inl e := Sum.getLeft?_eq_some_iff.mp hleft
  exact exists_of_forall₂ htells.flip _ hreport

namespace Command

theorem spoken?_ne_empty {s : List Char} {t : String} (h : spoken? s = some t) : t ≠ "" := by
  unfold spoken? at h
  dsimp only at h
  split at h
  · exact nomatch h
  · next hspoken =>
    obtain rfl := Option.some.inj h
    intro hempty
    exact hspoken (List.isEmpty_iff.mpr (String.ofList_eq_empty_iff.mp hempty))

/-- A command that failed always has a message: what it said, or at least its code. -/
theorem failureMessage_ne_empty (stdout stderr : List Char) (code : Int) :
    failureMessage stdout stderr code ≠ "" := by
  unfold failureMessage
  cases herr : spoken? stderr with
  | some t => exact spoken?_ne_empty herr
  | none =>
    cases hout : spoken? stdout with
    | some t => exact spoken?_ne_empty hout
    | none => simp

/-- A command that failed leaves an error that it told of, or one with a message. -/
theorem exists_errorsOf (stdout stderr : List Char) {code : Int} (hcode : code ≠ 0) (file : Path)
    (errors : List CompilationError) :
    ∃ e ∈ errorsOf stdout stderr code file errors, e.message ≠ "" ∨ e ∈ errors := by
  unfold errorsOf
  cases errors with
  | nil =>
    rw [if_pos (by simp [hcode])]
    exact ⟨_, List.mem_singleton_self _, .inl (failureMessage_ne_empty stdout stderr code)⟩
  | cons e errors =>
    rw [if_neg (by simp)]
    exact ⟨e, List.mem_cons_self, .inr List.mem_cons_self⟩

/-- What a command that has ended makes of a text; `d` is what it tells. -/
def compilation (c : Command) (source : String) (file : Path) (stdout stderr : List Char) (code : Int)
    (d : Diagnostics) : Compilation where
  text := match c.output with
    | .stdout => if code = 0 then String.ofList stdout else ""
    | .source => source
  errors := errorsOf stdout stderr code file d.errors
  console := d.other

variable {c : Command} {launch : Launcher} {source : String} {file : Path}

/-- A finished command gives the diagnostics of the stream it tells on. -/
theorem finish_eq (stdout stderr : List Char) (code : Int) :
    finish c.output source file stdout stderr code =
      (Diagnostics.read (c.output.telling stdout stderr)).map
        (c.compilation source file stdout stderr code) := by
  unfold finish compilation OutputMode.telling
  cases c.output with
  | stdout =>
    dsimp only
    cases Diagnostics.read stderr <;> rfl
  | source =>
    dsimp only
    cases Diagnostics.read (stdout ++ '\n' :: stderr) <;> rfl

/-- A command compiles a text when it ends and what it tells can be read. -/
theorem compile_eq_ok_iff {result : Compilation} :
    c.compile launch source file = .ok result ↔ ∃ stdout stderr code d,
      launch (c.filled file) (encode source) c.timeout = .finished stdout stderr code ∧
        Diagnostics.read (c.output.telling (decodeLossy stdout) (decodeLossy stderr)) = .ok d ∧
        c.compilation source file (decodeLossy stdout) (decodeLossy stderr) code d = result := by
  unfold compile
  -- A launch that does not end gives no result.
  cases hlaunch : launch (c.filled file) (encode source) c.timeout with
  | missing => simp
  | refused e => simp
  | badArgument => simp
  | timedOut => simp
  | finished stdout stderr code =>
    simp only [finish_eq]
    cases hread : Diagnostics.read (c.output.telling (decodeLossy stdout) (decodeLossy stderr)) with
    | error e =>
      refine iff_of_false nofun ?_
      rintro ⟨stdout', stderr', code', d, hended, hread', -⟩
      obtain ⟨rfl, rfl, rfl⟩ := Launch.finished.inj hended
      exact nomatch hread.symm.trans hread'
    | ok d =>
      constructor
      · intro hresult
        exact ⟨stdout, stderr, code, d, rfl, hread, Except.ok.inj hresult⟩
      · rintro ⟨stdout', stderr', code', d', hended, hread', rfl⟩
        obtain ⟨rfl, rfl, rfl⟩ := Launch.finished.inj hended
        obtain rfl := Except.ok.inj (hread.symm.trans hread')
        rfl

end Command

/-! ## 2. Runs -/

/-- Nothing is declared in an empty text, and it is no unit itself. -/
theorem unitIn_empty (r : Rule) : r.unitIn "" = none := by
  unfold Rule.unitIn
  split <;> rfl

structure RuleResult.IsSkipped (test : RuleResult) (r : Rule) : Prop where
  ruleId : test.ruleId = r.id
  skipped : test.skipped = true
  notPassed : test.passed = false
  notFailed : test.failed = false

/-- With errors and without a text every test is skipped. -/
theorem RuleResult.Stands.isSkipped {test : RuleResult} {r : Rule} {compilation : Compilation}
    (h : test.Stands r compilation) (herrors : compilation.errors ≠ []) (htext : compilation.text = "") :
    test.IsSkipped r := by
  have hskipped : test.skipped = true :=
    h.skipped_iff.mpr ⟨herrors, by rw [htext, unitIn_empty]⟩
  have hpassed : test.passed = false :=
    Bool.eq_false_iff.mpr fun hpassed => h.exclusive ⟨hpassed, hskipped⟩
  exact ⟨h.ruleId, hskipped, hpassed, by rw [RuleResult.failed, hskipped, Bool.not_true, Bool.and_false]⟩

section Runs

variable {runner : Runner} {tree : Tree} {exercise : Exercise} {compilation : Compilation}

/-- A run has a compiled text when its file is read and the compiler makes a text of it. -/
theorem compile_eq_ok_iff_source :
    runner.compile tree exercise = .ok compilation ↔ ∃ source,
      tree.readText exercise.file = .ok source ∧
        runner.compiler source exercise.file = .ok compilation := by
  unfold Runner.compile
  rw [bind_eq_ok]
  constructor
  · rintro ⟨source, hread, hcompile⟩
    exact ⟨source, mapError_eq_ok.mp hread, mapError_eq_ok.mp hcompile⟩
  · rintro ⟨source, hread, hcompile⟩
    exact ⟨source, by rw [hread]; rfl, by rw [hcompile]; rfl⟩

/-- The report of a run for which the compiler made a text. -/
theorem finished_run (h : runner.compile tree exercise = .ok compilation) (token : Int) :
    (runner.run tree exercise token).1.Finished (runner.library.rules exercise.id) compilation := by
  -- The runner is that of a request for this run, with the expressions that it has kept.
  let q : Request := ⟨runner.library, runner.compiler, tree, exercise, token⟩
  have hrun := run_compiled_eq (q := q) (c := compilation) h runner.evaluator
  rw [show (runner.run tree exercise token).1 = _ from congrArg Prod.fst hrun]
  exact finished_aggregate (answers_evaluate _ _ fun r hr => unitText_unitsOf hr compilation.text) _ _

/-- A run is completed only if the compiler made a text and found no error. -/
theorem compile_of_completed {token : Int}
    (h : (runner.run tree exercise token).1.status = .completed) :
    ∃ compilation, runner.compile tree exercise = .ok compilation ∧ compilation.errors = [] := by
  cases hcompile : runner.compile tree exercise with
  | error f =>
    have hreport : (runner.run tree exercise token).1 = f.report exercise token := by
      simp only [Runner.run, hcompile]
    rw [hreport] at h
    cases h
  | ok compilation =>
    have hfinished := finished_run hcompile token
    exact ⟨compilation, rfl, hfinished.errors.symm.trans (hfinished.completed_iff.mp h).1⟩

/-- With a command for its compiler a run is completed only if the command ends with the code zero. -/
theorem success_of_completed {c : Command} {launch : Launcher} {token : Int}
    (hcompiler : runner.compiler = c.compiler launch)
    (h : (runner.run tree exercise token).1.status = .completed) :
    ∃ source stdout stderr, tree.readText exercise.file = .ok source ∧
      launch (c.filled exercise.file) (encode source) c.timeout = .finished stdout stderr 0 := by
  obtain ⟨compilation, hcompile, herrors⟩ := compile_of_completed h
  obtain ⟨source, hread, hresult⟩ := compile_eq_ok_iff_source.mp hcompile
  rw [hcompiler] at hresult
  obtain ⟨stdout, stderr, code, d, hlaunch, -, rfl⟩ := Command.compile_eq_ok_iff.mp hresult
  have hcode : code = 0 := by
    by_contra hcode
    obtain ⟨e, he, -⟩ := Command.exists_errorsOf (decodeLossy stdout) (decodeLossy stderr) hcode
      exercise.file d.errors
    exact absurd (herrors ▸ he : e ∈ []) List.not_mem_nil
  rw [hcode] at hlaunch
  exact ⟨source, stdout, stderr, hread, hlaunch⟩

end Runs

/-- A command that has ended, and tells of no error with a number that is too long, makes a text: the
text that it was given, or what it printed if its code is zero. With another code it leaves an error that
has a message or is that of a line, and every run with this command on this text is failed; if the command
was to print the compiled text, there is one test for each rule, whatever the rules are, and all of them
are skipped. -/
theorem failing_command_fails_run (c : Command) (launch : Launcher) (source : String) (file : Path)
    (stdout stderr : List UInt8) (code : Int)
    (hlaunch : launch (c.filled file) (encode source) c.timeout = .finished stdout stderr code)
    (hfit : NumbersFit (spoken (lines (c.output.telling (decodeLossy stdout) (decodeLossy stderr))))) :
    ∃ result, c.compile launch source file = .ok result ∧
      (c.output = .source → result.text = source) ∧
      (c.output = .stdout → code = 0 → result.text = String.ofList (decodeLossy stdout)) ∧
      (code ≠ 0 →
        (∃ e ∈ result.errors, e.message ≠ "" ∨
          ∃ line ∈ spoken (lines (c.output.telling (decodeLossy stdout) (decodeLossy stderr))),
            Tells line (.inl e)) ∧
        ∀ (runner : Runner) (tree : Tree) (exercise : Exercise) (token : Int),
          runner.compiler = c.compiler launch → exercise.file = file → tree.readText file = .ok source →
          let report := (runner.run tree exercise token).1
          report.status = .failed ∧ report.errors = result.errors ∧
            (c.output = .stdout →
              List.Forall₂ RuleResult.IsSkipped report.tests (runner.library.rules exercise.id))) := by
  obtain ⟨d, hread, haccounts⟩ := Diagnostics.exists_ofLines hfit
  have hcompile : c.compile launch source file =
      .ok (c.compilation source file (decodeLossy stdout) (decodeLossy stderr) code d) :=
    Command.compile_eq_ok_iff.mpr ⟨stdout, stderr, code, d, hlaunch, hread, rfl⟩
  refine ⟨_, hcompile, ?_, ?_, fun hcode => ?_⟩
  · intro hmode
    simp only [Command.compilation, hmode]
  · intro hmode hcode
    simp only [Command.compilation, hmode, hcode, if_true]
  · obtain ⟨e, he, hmessage⟩ := Command.exists_errorsOf (decodeLossy stdout) (decodeLossy stderr) hcode
      file d.errors
    refine ⟨⟨e, he, hmessage.imp_right haccounts.exists_line⟩, ?_⟩
    rintro runner tree exercise token hcompiler rfl hsource report
    have hfinished : report.Finished _ _ := finished_run
      (compile_eq_ok_iff_source.mpr ⟨source, hsource, by rw [hcompiler]; exact hcompile⟩) token
    refine ⟨hfinished.completed_or_failed.resolve_left fun hcompleted => ?_, hfinished.errors, ?_⟩
    -- A run that is completed has a command that ended with the code zero.
    · obtain ⟨source', stdout', stderr', hsource', hlaunch'⟩ :=
        success_of_completed hcompiler hcompleted
      obtain rfl := Except.ok.inj (hsource.symm.trans hsource')
      exact hcode (Launch.finished.inj (hlaunch.symm.trans hlaunch')).2.2
    · intro hmode
      have htext : (c.compilation source exercise.file (decodeLossy stdout) (decodeLossy stderr) code
          d).text = "" := by simp only [Command.compilation, hmode, if_neg hcode]
      exact hfinished.tests.imp fun test r hstands =>
        hstands.isSkipped (List.ne_nil_of_mem he) htext

/-- A command that was to print the compiled text fails with a message of its own; of two rules one is
broken. -/
theorem failing_command_fails_run_boom :
    let c : Command := { program := "tsc", output := .stdout }
    let launch : Launcher := fun _ _ _ => .finished (encode "x") (encode "boom") 1
    let broken : Rule := { id := "a", appliesTo := "*", required := [{ first := "regex:(" }] }
    let sound : Rule := { id := "b", appliesTo := "f", minLength := some 0 }
    let runner : Runner := {
      library := { exercises := [("e", [broken, sound])] }
      compiler := c.compiler launch }
    let tree : Tree := { root := "/", entries := [(["x"], .file [120])] }
    let report := (runner.run tree ⟨"e", ⟨"", ["x"]⟩⟩ 1).1
    c.compile launch "x" ⟨"", ["x"]⟩ =
        .ok { text := "", errors := [{ message := "boom", file := some "x" }], console := ["boom"] } ∧
      report.status = .failed ∧ report.tests.map (·.skipped) = [true, true] ∧
      List.Forall₂ RuleResult.IsSkipped report.tests [broken, sound] := by
  intro c launch broken sound runner tree report
  obtain ⟨result, hcompile, -, -, hfails⟩ := failing_command_fails_run c launch "x" ⟨"", ["x"]⟩
    (encode "x") (encode "boom") 1 rfl (by decide +kernel)
  obtain ⟨-, hruns⟩ := hfails (by decide)
  obtain ⟨hstatus, -, hskipped⟩ :=
    hruns runner tree ⟨"e", ⟨"", ["x"]⟩⟩ 1 rfl rfl (by decide +kernel)
  refine ⟨by decide +kernel, hstatus, by decide +kernel, hskipped rfl⟩

end Grading
