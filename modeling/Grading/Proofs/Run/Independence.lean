import Grading.Run
import Grading.Proofs.Rule.Kept

/-!
# Independence — a result depends on its rule and the compiled text only

The rules of a run share the mask of the text, the table of units and the expressions that are kept,
and the last also with all earlier runs. None of this shows: each result is the one that the rule
has by itself on its own unit.
-/

namespace Grading

/-! ## 1. Units -/

theorem lookup_map_self {β : Type} (names : List String) (f : String → β) (name : String) :
    (names.map fun n => (n, f n)).lookup name = if name ∈ names then some (f name) else none := by
  induction names with
  | nil => rfl
  | cons n names ih =>
    rw [List.map_cons, List.lookup_cons]
    by_cases hname : name = n
    · rw [hname, beq_self_eq_true, if_pos List.mem_cons_self]
    · rw [beq_false_of_ne hname, ih]
      by_cases hmem : name ∈ names
      · rw [if_pos hmem, if_pos (List.mem_cons_of_mem _ hmem)]
      · rw [if_neg hmem, if_neg (List.not_mem_cons_of_ne_of_not_mem hname hmem)]

/-- Locating many names at once finds for each what is found for it alone. -/
theorem lookup_locateAll (text : String) (names : List String) (name : String) :
    (Source.locateAll text names).lookup name =
      if name ∈ names then some (Source.locate text name) else none := by
  unfold Source.locateAll
  rw [lookup_map_self]
  simp only [List.mem_eraseDups]
  rfl

def Rule.unitIn (r : Rule) (text : String) : Option String :=
  (if r.isWholeFile then Source.wholeFileUnit text else Source.locate text r.appliesTo).map (·.text)

/-- The table of units answers with the unit the rule would find by itself. -/
theorem unitText_unitsOf {rules : List Rule} {r : Rule} (hr : r ∈ rules) (text : String) :
    unitText (unitsOf rules text) r.appliesTo = r.unitIn text := by
  unfold unitText unitsOf Rule.unitIn
  rw [List.lookup_append, lookup_locateAll]
  by_cases hwhole : r.isWholeFile = true
  · have hname : r.appliesTo = Source.wholeFile := of_decide_eq_true hwhole
    -- The name of the whole file is never among those that are located.
    have hnot : r.appliesTo ∉ (rules.filter fun r => !r.isWholeFile).map (·.appliesTo) := by
      intro hmem
      obtain ⟨other, hother, hsame⟩ := List.mem_map.mp hmem
      have hfalse := (List.mem_filter.mp hother).2
      have htrue : other.isWholeFile = true := decide_eq_true (hsame.trans hname)
      rw [htrue] at hfalse
      exact absurd hfalse (by decide)
    have hany : rules.any (·.isWholeFile) = true := List.any_eq_true.mpr ⟨r, hr, hwhole⟩
    rw [if_neg hnot, if_pos hany, if_pos hwhole, hname, List.lookup_cons_self]
    rfl
  · have hmem : r.appliesTo ∈ (rules.filter fun r => !r.isWholeFile).map (·.appliesTo) :=
      List.mem_map.mpr ⟨r, List.mem_filter.mpr ⟨hr, by simpa using hwhole⟩, rfl⟩
    rw [if_pos hmem, if_neg hwhole]
    rfl

/-! ## 2. Runs after runs -/

/-- A run as it is asked for. Rules may be added and files may change between two runs, so each has
its own library, compiler and tree. -/
structure Request where
  library : Library
  compiler : Compiler
  tree : Files.Tree
  exercise : Exercise
  token : Int

namespace Request

def runner (q : Request) (e : Evaluator) : Runner :=
  { library := q.library, compiler := q.compiler, evaluator := e }

def compilation (q : Request) : Except RunFailure Compilation :=
  (q.runner {}).compile q.tree q.exercise

def rules (q : Request) : List Rule :=
  q.library.rules q.exercise.id

def results (q : Request) (e : Evaluator) : List RuleResult :=
  ((q.runner e).run q.tree q.exercise q.token).1.tests.map (·.untimed)

def evaluator (q : Request) (e : Evaluator) : Evaluator :=
  ((q.runner e).run q.tree q.exercise q.token).2.2.evaluator

end Request

def Evaluator.after (clock : Clock) (history : List Request) : Evaluator :=
  history.foldl (fun e q => q.evaluator e) { clock }

/-- The result of a rule by itself on a compiled text, which the compiler found fault with or not.
-/
def Rule.alone (r : Rule) (text : String) (faulty : Bool) : RuleResult :=
  let result := r.result (r.unitIn text)
  if faulty then result.skipForCompilation else result

theorem untimed_skipForCompilation (r : RuleResult) :
    r.skipForCompilation.untimed = r.untimed.skipForCompilation := by
  unfold RuleResult.skipForCompilation
  by_cases hmissing : r.reason = some .unitMissing
  · rw [if_pos hmissing, if_pos (show r.untimed.reason = _ from hmissing)]
    rfl
  · rw [if_neg hmissing, if_neg (show ¬ r.untimed.reason = _ from hmissing)]

theorem untimed_alone {r : Rule} {text : String} {faulty : Bool} :
    (r.alone text faulty).untimed =
      if faulty then (r.result (r.unitIn text)).untimed.skipForCompilation
      else (r.result (r.unitIn text)).untimed := by
  unfold Rule.alone
  cases faulty with
  | true => exact untimed_skipForCompilation _
  | false => rfl

/-- A run of which the compiler makes something evaluates its rules on their units. -/
theorem run_compiled_eq {q : Request} {c : Compilation} (hcompile : q.compilation = .ok c)
    (e : Evaluator) :
    (q.runner e).run q.tree q.exercise q.token =
      (.aggregate q.exercise.id (e.evaluate (unitText (unitsOf q.rules c.text)) q.rules).1 c.errors
          c.console q.token,
        (if q.rules.isEmpty then [noRulesNotice q.exercise.id] else []) ++
          (e.evaluate (unitText (unitsOf q.rules c.text)) q.rules).2.1,
        q.runner (e.evaluate (unitText (unitsOf q.rules c.text)) q.rules).2.2) := by
  unfold Runner.run
  rw [show (q.runner e).compile q.tree q.exercise = .ok c from hcompile]
  rfl

theorem sound_evaluator {e : Evaluator} (he : Compiled.Sound e.compiled) (q : Request) :
    Compiled.Sound (q.evaluator e).compiled := by
  unfold Request.evaluator
  cases hcompile : q.compilation with
  | error f =>
    unfold Runner.run
    rw [show (q.runner e).compile q.tree q.exercise = .error f from hcompile]
    exact he
  | ok c =>
    rw [run_compiled_eq hcompile]
    exact (evaluate_eq he _ _).2

theorem sound_after (clock : Clock) (history : List Request) :
    Compiled.Sound (Evaluator.after clock history).compiled := by
  unfold Evaluator.after
  -- Induction on the runs, from an arbitrary evaluator that keeps sound expressions.
  have hnew : Compiled.Sound (Evaluator.compiled { clock }) := nofun
  generalize ({ clock } : Evaluator) = e at hnew ⊢
  induction history generalizing e with
  | nil => exact hnew
  | cons q history ih => exact ih _ (sound_evaluator hnew q)

/-- The results of a request are those of its rules evaluated alone. -/
theorem results_eq {e : Evaluator} (he : Compiled.Sound e.compiled) {q : Request} {c : Compilation}
    (hcompile : q.compilation = .ok c) :
    q.results e = q.rules.map fun r => (r.alone c.text !c.errors.isEmpty).untimed := by
  have halone : (e.evaluate (unitText (unitsOf q.rules c.text)) q.rules).1.map (·.untimed) =
      q.rules.map fun r => (r.result (r.unitIn c.text)).untimed := by
    rw [(evaluate_eq he _ _).1]
    refine List.map_congr_left fun r hr => ?_
    rw [unitText_unitsOf hr]
  unfold Request.results
  rw [run_compiled_eq hcompile]
  simp only [untimed_alone]
  unfold Report.aggregate
  cases hfaulty : c.errors.isEmpty with
  | true => exact halone
  | false =>
    show (List.map _ (List.map _ _)) = _
    rw [List.map_map, show (RuleResult.untimed ∘ RuleResult.skipForCompilation) =
      RuleResult.skipForCompilation ∘ RuleResult.untimed from funext untimed_skipForCompilation,
      ← List.map_map, halone, List.map_map]
    rfl

/-- After every history of runs, each result of a run, but for its time, is the one that its rule
has by itself on the compiled text. So runs in which the compiler makes the same text, with faults
or without, agree on each rule that they share, wherever it stands. -/
theorem results_independent (clock : Clock) (history : List Request) (q : Request) (c : Compilation)
    (hcompile : q.compilation = .ok c) :
    q.results (.after clock history) =
        q.rules.map (fun r => (r.alone c.text !c.errors.isEmpty).untimed) ∧
      ∀ clock' history' (q' : Request) c', q'.compilation = .ok c' → c'.text = c.text →
        c'.errors.isEmpty = c.errors.isEmpty → ∀ i j : Nat, q.rules[i]? = q'.rules[j]? →
          (q.results (.after clock history))[i]? = (q'.results (.after clock' history'))[j]? := by
  have hresults := results_eq (sound_after clock history) hcompile
  refine ⟨hresults, fun clock' history' q' c' hcompile' htext hfaulty i j hrule => ?_⟩
  rw [hresults, results_eq (sound_after clock' history') hcompile', List.getElem?_map,
    List.getElem?_map, hrule, htext, hfaulty]

/-- A broken rule beside one that passes, run twice with the same evaluator. -/
theorem results_independent_broken :
    let broken : Rule := { id := "a", appliesTo := "*", required := [{ first := "regex:(" }] }
    let sound : Rule := { id := "b", appliesTo := "*", minLength := some 1 }
    let q : Request :=
      { library := { exercises := [("e", [broken, sound])] },
        compiler := passthrough, tree := { root := "/", entries := [(["x"], .file [120])] },
        exercise := ⟨"e", ⟨"", ["x"]⟩⟩, token := 1 }
    q.compilation = .ok { text := "x" } ∧
      (q.results (.after [] [q])).map (·.reason) = [some .internalError, none] := by
  intro broken sound q
  have hcompile : q.compilation = .ok { text := "x" } := by rfl
  refine ⟨hcompile, ?_⟩
  rw [(results_independent [] [q] q _ hcompile).1]
  decide

end Grading
