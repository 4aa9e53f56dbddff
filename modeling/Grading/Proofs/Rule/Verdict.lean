import Grading.Proofs.Rule.Check

/-!
# Verdict — when a rule passes

A rule that can be evaluated passes exactly when the text of its unit satisfies it. The order of its
markers and of their alternatives, repeated ones and all that it says to the reader play no part in
that, although they decide which failure is reported and how.
-/

namespace Grading

/-! ## 1. Evaluations that end with a result -/

/-- The rule can be evaluated, and this is its result; whatever sound expressions are kept. -/
def Rule.Yields (r : Rule) (unit : Option String) (result : RuleResult) : Prop :=
  ∃ known, Compiled.Sound known ∧ ((r.evaluate unit).run.run known).1 = .ok result

theorem Rule.Yields.value_eq {r : Rule} {unit : Option String} {result : RuleResult}
    (h : r.Yields unit result) : (r.evaluate unit).value = .ok result := by
  obtain ⟨known, hknown, hrun⟩ := h
  rw [← (transparent_evaluate r unit).run_eq hknown]
  exact hrun

theorem value_evaluate_some (r : Rule) (text : String) :
    (r.evaluate (some text)).value = (r.runChecks text).value >>= r.verdict := by
  unfold Evaluation.value
  rw [run_evaluate_some]
  rcases (r.runChecks text).run.run [] with ⟨e | outcomes, later⟩ <;> rfl

theorem passed_verdict {r : Rule} {outcomes : List CheckOutcome} {result : RuleResult}
    (h : r.verdict outcomes = .ok result) : result.passed = true ↔ ∀ o ∈ outcomes, o.met = true := by
  rcases verdict_met h with ⟨hmet, rfl⟩ | ⟨⟨first, hmem, hunmet⟩, o, message, rfl⟩
  · exact iff_of_true rfl hmet
  · apply iff_of_false nofun
    intro hmet
    exact absurd (hmet first hmem) (by simp [hunmet])

/-! ## 2. Texts that satisfy a rule -/

structure Rule.Satisfied (r : Rule) (text : String) : Prop where
  required : ∀ m ∈ r.required, m.Present r.ignoreCase text
  forbidden : ∀ m ∈ r.forbidden, ¬ m.Present r.ignoreCase text
  minLength : ∀ n, r.minLength = some n → n ≤ text.length
  predicate : ∀ p, r.predicate = some p → p text = .ok true

/-- A text satisfies a rule when it meets each of its checks. -/
theorem satisfied_iff {r : Rule} {text : String} :
    r.Satisfied text ↔ ∀ c ∈ r.checks, c.Met r.ignoreCase text := by
  constructor
  · intro h c hc
    rw [mem_checks] at hc
    cases c with
    | required m => exact h.required m hc
    | forbidden m => exact h.forbidden m hc
    | minLength n => exact h.minLength n hc
    | predicate p => exact h.predicate p hc
  · intro h
    exact {
      required := fun m hm => h (.required m) (mem_checks.mpr hm)
      forbidden := fun m hm => h (.forbidden m) (mem_checks.mpr hm)
      minLength := fun n hn => h (.minLength n) (mem_checks.mpr hn)
      predicate := fun p hp => h (.predicate p) (mem_checks.mpr hp) }

/-! ## 3. Rules that make the same checks -/

/-- Markers that ask for the same alternatives in any order, equally often. -/
structure Marker.Alike (m m' : Marker) : Prop where
  minCount_eq : m.minCount = m'.minCount
  mem_patterns : ∀ pattern, pattern ∈ m.patterns ↔ pattern ∈ m'.patterns

namespace Marker.Alike

variable {m m' : Marker} {ignoreCase : Bool} {text : String}

theorem symm (h : m.Alike m') : m'.Alike m :=
  ⟨h.minCount_eq.symm, fun pattern => (h.mem_patterns pattern).symm⟩

theorem present (h : m.Alike m') (hm : m.Present ignoreCase text) : m'.Present ignoreCase text := by
  obtain ⟨pattern, hmem, hoccurs⟩ := hm
  refine ⟨pattern, (h.mem_patterns pattern).mp hmem, ?_⟩
  rw [← h.minCount_eq]
  exact hoccurs

end Marker.Alike

def SameMarkers (l l' : List Marker) : Prop :=
  (∀ m ∈ l, ∃ m' ∈ l', m.Alike m') ∧ ∀ m' ∈ l', ∃ m ∈ l, m'.Alike m

/-- Rules that check the same things; identifiers, targets, messages and diagnostics are free. -/
structure Rule.SameChecks (r r' : Rule) : Prop where
  required : SameMarkers r.required r'.required
  forbidden : SameMarkers r.forbidden r'.forbidden
  minLength : r.minLength = r'.minLength
  ignoreCase : r.ignoreCase = r'.ignoreCase
  predicate : r.predicate = r'.predicate

namespace Rule.SameChecks

variable {r r' : Rule} {text : String}

theorem symm (h : r.SameChecks r') : r'.SameChecks r :=
  ⟨h.required.symm, h.forbidden.symm, h.minLength.symm, h.ignoreCase.symm, h.predicate.symm⟩

/-- Rules with the same checks are satisfied by the same texts. -/
theorem satisfied (h : r.SameChecks r') (hr : r.Satisfied text) : r'.Satisfied text := by
  constructor
  · intro m hm
    obtain ⟨m', hm', halike⟩ := h.required.2 m hm
    rw [← h.ignoreCase]
    exact halike.symm.present (hr.required m' hm')
  · intro m hm hpresent
    obtain ⟨m', hm', halike⟩ := h.forbidden.2 m hm
    rw [← h.ignoreCase] at hpresent
    exact hr.forbidden m' hm' (halike.present hpresent)
  · intro n hn
    exact hr.minLength n (h.minLength.trans hn)
  · intro p hp
    exact hr.predicate p (h.predicate.trans hp)

end Rule.SameChecks

/-! ## 4. Verdicts -/

/-- An evaluation on a text that ends with a result has made all checks of the rule. -/
theorem Rule.Yields.outcomes {r : Rule} {text : String} {result : RuleResult}
    (h : r.Yields (some text) result) :
    ∃ outcomes, List.Forall₂ (Check.Finds r.ignoreCase text) r.checks outcomes ∧
      r.verdict outcomes = .ok result := by
  have hvalue := h.value_eq
  rw [value_evaluate_some] at hvalue
  obtain ⟨outcomes, hchecks, hverdict⟩ := bind_eq_ok.mp hvalue
  exact ⟨outcomes, finds_checks hchecks, hverdict⟩

/-- A rule passes exactly on the units whose text satisfies it. -/
theorem Rule.Yields.passed_iff {r : Rule} {unit : Option String} {result : RuleResult}
    (h : r.Yields unit result) :
    result.passed = true ↔ ∃ text, unit = some text ∧ r.Satisfied text := by
  cases unit with
  | none =>
    obtain rfl : r.missing = result := Except.ok.inj h.value_eq
    exact iff_of_false nofun nofun
  | some text =>
    obtain ⟨outcomes, hpairs, hverdict⟩ := h.outcomes
    have hmet : (∀ o ∈ outcomes, o.met = true) ↔ ∀ c ∈ r.checks, c.Met r.ignoreCase text := by
      clear hverdict
      generalize r.checks = checks at hpairs
      induction hpairs with
      | nil => simp
      | cons hfinds _ ih => rw [List.forall_mem_cons, List.forall_mem_cons, hfinds.met_iff, ih]
    rw [passed_verdict hverdict, hmet, ← satisfied_iff]
    constructor
    · intro hsat
      exact ⟨text, rfl, hsat⟩
    · rintro ⟨text', heq, hsat⟩
      rw [Option.some.inj heq]
      exact hsat

/-- Asking for a marker and forbidding it come to opposite outcomes. -/
theorem met_forbidden {m : Marker} {ignoreCase : Bool} {text : String} {o o' : CheckOutcome}
    (h : Check.Finds ignoreCase text (.required m) o)
    (h' : Check.Finds ignoreCase text (.forbidden m) o') : o'.met = !o.met := by
  rw [Bool.eq_iff_iff, h'.met_iff, Bool.not_eq_true', ← Bool.not_eq_true, h.met_iff]
  rfl

/-- A marker of a rule that can be evaluated can be asked for and can be forbidden. -/
theorem Rule.Yields.swap {r : Rule} {text : String} {result : RuleResult}
    (h : r.Yields (some text) result) {m : Marker} (hm : m ∈ r.required ++ r.forbidden) :
    ∃ o o', Check.Finds r.ignoreCase text (.required m) o ∧
      Check.Finds r.ignoreCase text (.forbidden m) o' ∧ o'.met = !o.met := by
  obtain ⟨outcomes, hpairs, -⟩ := h.outcomes
  have hfinds := exists_of_forall₂ hpairs
  have hcount : ∃ k, (m.count r.ignoreCase text).value = .ok k := by
    rcases List.mem_append.mp hm with hm | hm
    · obtain ⟨o, -, ho⟩ := hfinds (.required m) (mem_checks.mpr hm)
      obtain ⟨k, hk, -⟩ := Check.finds_required_iff.mp ho
      exact ⟨k, hk⟩
    · obtain ⟨o, -, ho⟩ := hfinds (.forbidden m) (mem_checks.mpr hm)
      obtain ⟨k, hk, -⟩ := Check.finds_forbidden_iff.mp ho
      exact ⟨k, hk⟩
  obtain ⟨k, hk⟩ := hcount
  have ho := Check.finds_required_iff.mpr ⟨k, hk, rfl⟩
  have ho' := Check.finds_forbidden_iff.mpr ⟨k, hk, rfl⟩
  exact ⟨_, _, ho, ho', met_forbidden ho ho'⟩

/-- A rule that can be evaluated passes exactly when there is a text and the text satisfies the rule.
Rules that make the same checks agree, whatever they say to the reader, and to forbid a marker of the
rule comes to the opposite of asking for it. -/
theorem passed_iff_satisfied {r : Rule} {unit : Option String} {result : RuleResult}
    (h : r.Yields unit result) :
    (result.passed = true ↔ ∃ text, unit = some text ∧ r.Satisfied text) ∧
      (∀ r' result', r.SameChecks r' → r'.Yields unit result' → result'.passed = result.passed) ∧
      ∀ text, unit = some text → ∀ m ∈ r.required ++ r.forbidden, ∃ o o',
        Check.Finds r.ignoreCase text (.required m) o ∧
          Check.Finds r.ignoreCase text (.forbidden m) o' ∧ o'.met = !o.met := by
  refine ⟨h.passed_iff, ?_, ?_⟩
  · intro r' result' hsame h'
    rw [Bool.eq_iff_iff, h'.passed_iff, h.passed_iff]
    constructor
    · rintro ⟨text, htext, hsat⟩
      exact ⟨text, htext, hsame.symm.satisfied hsat⟩
    · rintro ⟨text, htext, hsat⟩
      exact ⟨text, htext, hsame.satisfied hsat⟩
  · rintro text rfl m hm
    exact h.swap hm

/-- Two alternatives, of which the second one occurs often enough; they can change places and be asked
for twice. -/
theorem passed_iff_satisfied_alternative :
    let m : Marker := { first := "let", others := ["x"], minCount := 2 }
    let m' : Marker := { first := "x", others := ["let"], minCount := 2 }
    let r : Rule := { id := "r", appliesTo := "f", required := [m], minLength := some 4 }
    let r' : Rule := { id := "s", appliesTo := "f", required := [m', m], minLength := some 4 }
    ∃ result result', r.Yields (some "x + x") result ∧ r'.Yields (some "x + x") result' ∧
      r.Satisfied "x + x" ∧ result'.passed = true := by
  intro m m' r r'
  have hyields : r.Yields (some "x + x") { ruleId := "r", name := "r", passed := true } :=
    ⟨[], Compiled.sound_nil, by dsimp only [r, m]; rfl⟩
  have hyields' : r'.Yields (some "x + x") { ruleId := "s", name := "s", passed := true } :=
    ⟨[], Compiled.sound_nil, by dsimp only [r', m, m']; rfl⟩
  have halike : m.Alike m' := ⟨rfl, fun pattern => by simp [m, m', Marker.patterns, or_comm]⟩
  have hsame : r.SameChecks r' := by
    refine ⟨⟨?_, ?_⟩, ⟨nofun, nofun⟩, rfl, rfl, rfl⟩
    · simpa [r, r'] using .inl halike
    · simpa [r, r'] using ⟨halike.symm, rfl, fun _ => Iff.rfl⟩
  obtain ⟨hpassed, hagree, -⟩ := passed_iff_satisfied hyields
  obtain ⟨text, htext, hsat⟩ := hpassed.mp rfl
  rw [← Option.some.inj htext] at hsat
  exact ⟨_, _, hyields, hyields', hsat, hagree r' _ hsame hyields'⟩

end Grading
