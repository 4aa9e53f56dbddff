import Grading.Rule.Evaluate

/-!
# Kept — kept expressions change no result

Evaluators keep the expressions that they compile. As long as each kept expression is what its
source compiles to, an evaluation comes to the same as one that keeps nothing, and the kept
expressions stay so: an expression that does not compile is not kept, and neither are results.
-/

namespace Grading

/-! ## 1. Evaluations that do not depend on what is kept -/

/-- Every kept expression is what its source compiles to for its use of case. -/
def Compiled.Sound (known : Compiled) : Prop :=
  ∀ entry ∈ known, compileFor entry.1.1 entry.1.2 = .ok entry.2

theorem Compiled.sound_nil : Compiled.Sound [] := by
  intro entry hentry
  cases hentry

/-- A sequence of evaluations hands the cache of the first to the second. -/
theorem Evaluation.run_bind {α β : Type} (m : Evaluation α) (f : α → Evaluation β)
    (known : Compiled) :
    (m >>= f).run.run known = match m.run.run known with
      | (.ok a, later) => (f a).run.run later
      | (.error e, later) => (.error e, later) := by
  show (match m.run.run known with
    | (a, later) => (ExceptT.bindCont f a).run later) = _
  rcases m.run.run known with ⟨_ | _, _⟩ <;> rfl

/-- Whatever sound expressions are kept, the evaluation comes to the same and keeps them sound. -/
def Evaluation.Transparent {α : Type} (m : Evaluation α) : Prop :=
  ∃ v, ∀ known, Compiled.Sound known →
    ∃ later, m.run.run known = (v, later) ∧ Compiled.Sound later

namespace Evaluation.Transparent

variable {α β : Type}

theorem pure (a : α) : Transparent (Pure.pure a) :=
  ⟨.ok a, fun known hknown => ⟨known, rfl, hknown⟩⟩

theorem throw (e : EvaluationError) : Transparent (throw e : Evaluation α) :=
  ⟨.error e, fun known hknown => ⟨known, rfl, hknown⟩⟩

theorem bind {m : Evaluation α} {f : α → Evaluation β} (hm : Transparent m)
    (hf : ∀ a, Transparent (f a)) : Transparent (m >>= f) := by
  obtain ⟨v, hv⟩ := hm
  cases v with
  | error e =>
    refine ⟨.error e, fun known hknown => ?_⟩
    obtain ⟨later, hrun, hlater⟩ := hv known hknown
    exact ⟨later, by rw [run_bind, hrun], hlater⟩
  | ok a =>
    obtain ⟨w, hw⟩ := hf a
    refine ⟨w, fun known hknown => ?_⟩
    obtain ⟨later, hrun, hlater⟩ := hv known hknown
    obtain ⟨last, hrest, hlast⟩ := hw later hlater
    exact ⟨last, by rw [run_bind, hrun]; exact hrest, hlast⟩

theorem mapM {f : α → Evaluation β} (hf : ∀ a, Transparent (f a)) (l : List α) :
    Transparent (l.mapM f) := by
  induction l with
  | nil => exact .pure []
  | cons a l ih =>
    rw [List.mapM_cons]
    exact (hf a).bind fun b => ih.bind fun bs => .pure (b :: bs)

end Evaluation.Transparent

/-! ## 2. The evaluation of a rule -/

/-- The cache answers for an expression it knows and compiles and keeps one it does not. -/
theorem run_compiled (source : String) (ignoreCase : Bool) (known : Compiled) :
    (compiled source ignoreCase).run.run known = match known.lookup (source, ignoreCase) with
      | some p => (.ok p, known)
      | none => match compileFor source ignoreCase with
        | .error e => (.error (.invalidPattern source e), known)
        | .ok p => (.ok p, ((source, ignoreCase), p) :: known) := by
  unfold compiled
  show (match known.lookup (source, ignoreCase) with
    | some p => (Pure.pure p : Evaluation Pattern)
    | none => _).run.run known = _
  cases known.lookup (source, ignoreCase) with
  | some p => rfl
  | none => cases compileFor source ignoreCase <;> rfl

/-- An expression comes to what its source compiles to, whether it is kept or not. -/
theorem run_compiled_of_sound (source : String) (ignoreCase : Bool) {known : Compiled}
    (hknown : Compiled.Sound known) :
    ∃ later, (compiled source ignoreCase).run.run known =
      ((compileFor source ignoreCase).mapError (.invalidPattern source), later) ∧
      Compiled.Sound later := by
  rw [run_compiled]
  cases hlookup : known.lookup (source, ignoreCase) with
  | some p =>
    -- The key holds the source and the use of case, which is all that compiling depends on.
    obtain ⟨before, after, hsplit, -⟩ := List.lookup_eq_some_iff.mp hlookup
    have hmem : ((source, ignoreCase), p) ∈ known := by
      rw [hsplit]
      exact List.mem_append_right _ List.mem_cons_self
    have hcompile : compileFor source ignoreCase = .ok p := hknown _ hmem
    exact ⟨known, by rw [hcompile]; rfl, hknown⟩
  | none =>
    cases hcompile : compileFor source ignoreCase with
    | error e => exact ⟨known, rfl, hknown⟩
    | ok p =>
      refine ⟨((source, ignoreCase), p) :: known, rfl, fun entry hentry => ?_⟩
      rcases List.mem_cons.mp hentry with rfl | hold
      · exact hcompile
      · exact hknown entry hold

theorem transparent_compiled (source : String) (ignoreCase : Bool) :
    Evaluation.Transparent (compiled source ignoreCase) :=
  ⟨_, fun _ hknown => run_compiled_of_sound source ignoreCase hknown⟩

theorem transparent_countPattern (ignoreCase : Bool) (pattern text : String) :
    Evaluation.Transparent (countPattern ignoreCase pattern text) := by
  unfold countPattern
  split
  · refine (transparent_compiled _ _).bind fun p => ?_
    split
    · exact .pure _
    · exact .throw _
  · split
    · exact .pure _
    · exact .pure _

theorem transparent_count (m : Marker) (ignoreCase : Bool) (text : String) :
    Evaluation.Transparent (m.count ignoreCase text) :=
  (Evaluation.Transparent.mapM (fun p => transparent_countPattern ignoreCase p text) _).bind
    fun _ => .pure _

/-- The checks of a rule come out the same whatever the cache holds. -/
theorem transparent_runChecks (r : Rule) (text : String) :
    Evaluation.Transparent (r.runChecks text) := by
  have hrequired : ∀ m, Evaluation.Transparent (requiredOutcome r.ignoreCase text m) := fun m =>
    (transparent_count m r.ignoreCase text).bind fun _ => .pure _
  have hforbidden : ∀ m, Evaluation.Transparent (forbiddenOutcome r.ignoreCase text m) := fun m =>
    (transparent_count m r.ignoreCase text).bind fun _ => .pure _
  refine (Evaluation.Transparent.mapM hrequired _).bind fun required =>
    (Evaluation.Transparent.mapM hforbidden _).bind fun forbidden => ?_
  cases r.predicate with
  | none => exact (Evaluation.Transparent.pure _).bind fun _ => .pure _
  | some p =>
    dsimp only
    cases p text with
    | ok met => exact (Evaluation.Transparent.pure _).bind fun _ => .pure _
    | error f => exact (Evaluation.Transparent.throw _).bind fun _ => .pure _

/-- A rule evaluates the same whatever the cache holds. -/
theorem transparent_evaluate (r : Rule) (unit : Option String) :
    Evaluation.Transparent (r.evaluate unit) := by
  unfold Rule.evaluate
  split
  · exact .pure _
  · refine (transparent_runChecks r _).bind fun outcomes => ?_
    unfold Rule.evaluate.liftExcept
    split
    · exact .pure _
    · exact .throw _

/-! ## 3. Evaluators -/

/-- What a rule comes to on its unit when nothing is kept; a rule that is broken has a result too.
-/
def Rule.result (r : Rule) (unit : Option String) : RuleResult :=
  match (r.evaluate unit).run.run [] with
  | (.ok result, _) => result
  | (.error e, _) => r.broken e

def RuleResult.untimed (r : RuleResult) : RuleResult := { r with time := .float 0 }

/-- An evaluator with sound expressions gives the results that a new one gives, and keeps sound
ones. -/
theorem evaluateRule_eq {e : Evaluator} (he : Compiled.Sound e.compiled) (r : Rule)
    (unit : Option String) :
    (e.evaluateRule r unit).1.untimed = (r.result unit).untimed ∧
      Compiled.Sound (e.evaluateRule r unit).2.2.compiled := by
  obtain ⟨v, hv⟩ := transparent_evaluate r unit
  obtain ⟨later, hrun, hlater⟩ := hv e.compiled he
  obtain ⟨fresh, hfresh, -⟩ := hv [] nofun
  have houtcome : (e.evaluateRule r unit).2.2.compiled = later := by
    unfold Evaluator.evaluateRule
    rw [hrun]
  refine ⟨?_, houtcome ▸ hlater⟩
  unfold Evaluator.evaluateRule Rule.result
  rw [hrun, hfresh]
  cases v <;> rfl

/-- An evaluator gives every rule the result it would have alone, and leaves a sound cache. -/
theorem evaluate_eq {e : Evaluator} (he : Compiled.Sound e.compiled) (units : String → Option String)
    (rules : List Rule) :
    (e.evaluate units rules).1.map (·.untimed) =
        rules.map (fun r => (r.result (units r.appliesTo)).untimed) ∧
      Compiled.Sound (e.evaluate units rules).2.2.compiled := by
  induction rules generalizing e with
  | nil => exact ⟨rfl, he⟩
  | cons r rules ih =>
    obtain ⟨hresult, hkept⟩ := evaluateRule_eq he r (units r.appliesTo)
    obtain ⟨hresults, hlast⟩ := ih hkept
    refine ⟨?_, hlast⟩
    rw [List.map_cons, ← hresult, ← hresults]
    rfl

end Grading
