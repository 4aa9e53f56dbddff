import Grading.Proofs.Rule.Valid

/-!
# Validation — rules that are read can be evaluated

Evaluating a rule that was read ends with a result of its own, not with an error of the rule, unless
the engine of expressions fails on the text or a bound of the rule has more digits than a message can
hold.
-/

namespace Grading

open Grading.Text

/-! ## 1. How evaluations end -/

/-- With sound expressions kept, the evaluation ends with a good value, or else with an error that is
accounted for; the kept expressions stay sound. -/
def Evaluation.Ends {α : Type} (m : Evaluation α) (good : α → Prop) (failing : Prop) : Prop :=
  ∀ known, Compiled.Sound known → Compiled.Sound (m.run.run known).2 ∧
    match (m.run.run known).1 with
    | .ok a => good a
    | .error _ => failing

namespace Evaluation.Ends

variable {α β : Type} {failing : Prop}

theorem pure {a : α} {good : α → Prop} (h : good a) : Ends (Pure.pure a) good failing :=
  fun _ hknown => ⟨hknown, h⟩

theorem throw {e : EvaluationError} {good : α → Prop} (h : failing) :
    Ends (throw e : Evaluation α) good failing :=
  fun _ hknown => ⟨hknown, h⟩

theorem bind {m : Evaluation α} {f : α → Evaluation β} {good : α → Prop} {good' : β → Prop}
    (hm : Ends m good failing) (hf : ∀ a, good a → Ends (f a) good' failing) :
    Ends (m >>= f) good' failing := by
  intro known hknown
  obtain ⟨hlater, hgood⟩ := hm known hknown
  rw [run_bind]
  rcases hrun : m.run.run known with ⟨e | a, later⟩ <;> rw [hrun] at hlater hgood
  · exact ⟨hlater, hgood⟩
  · exact hf a hgood later hlater

/-- The values for a list correspond to its members. -/
theorem mapM {f : α → Evaluation β} {good : α → β → Prop} {l : List α}
    (hf : ∀ a ∈ l, Ends (f a) (good a) failing) :
    Ends (l.mapM f) (fun bs => (∀ b ∈ bs, ∃ a ∈ l, good a b) ∧ ∀ a ∈ l, ∃ b ∈ bs, good a b)
      failing := by
  induction l with
  | nil => exact .pure ⟨nofun, nofun⟩
  | cons a l ih =>
    rw [List.mapM_cons]
    refine (hf a List.mem_cons_self).bind fun b hb =>
      (ih fun a' ha' => hf a' (List.mem_cons_of_mem _ ha')).bind fun bs hbs => .pure ⟨?_, ?_⟩
    · refine List.forall_mem_cons.mpr ⟨⟨a, List.mem_cons_self, hb⟩, fun b' hb' => ?_⟩
      obtain ⟨a', ha', hgood⟩ := hbs.1 b' hb'
      exact ⟨a', List.mem_cons_of_mem _ ha', hgood⟩
    · refine List.forall_mem_cons.mpr ⟨⟨b, List.mem_cons_self, hb⟩, fun a' ha' => ?_⟩
      obtain ⟨b', hb', hgood⟩ := hbs.2 a' ha'
      exact ⟨b', List.mem_cons_of_mem _ hb', hgood⟩

end Evaluation.Ends

/-! ## 2. Checks -/

/-- The engine of expressions fails on a text: a group of a match of one of the rule's expressions
ends before it begins. -/
def Rule.EngineFails (r : Rule) (text : String) : Prop :=
  ∃ m ∈ r.required ++ r.forbidden, ∃ pattern ∈ m.patterns, ∃ source p,
    expression? pattern = some source ∧ compileFor source r.ignoreCase = .ok p ∧
      Pattern.countMatches p text.toList = none

inductive CheckOutcome.Reports (r : Rule) (text : String) : CheckOutcome → Prop
  | required (m : Marker) (hm : m ∈ r.required) (n : Nat) :
    Reports r text { kind := .required, met := m.minCount ≤ n, marker := some m, observed := some n }
  | forbidden (m : Marker) (hm : m ∈ r.forbidden) (n : Nat) :
    Reports r text { kind := .forbidden, met := n < m.minCount, marker := some m, observed := some n }
  | minLength (n : Int) (hn : r.minLength = some n) :
    Reports r text { kind := .minLength, met := n ≤ text.length, observed := some text.length }

structure Rule.Outcomes (r : Rule) (text : String) (outcomes : List CheckOutcome) : Prop where
  reports : ∀ o ∈ outcomes, o.Reports r text
  required : ∀ m ∈ r.required, ∃ o ∈ outcomes, o.kind = .required ∧ o.marker = some m
  forbidden : ∀ m ∈ r.forbidden, ∃ o ∈ outcomes, o.kind = .forbidden ∧ o.marker = some m
  minLength : r.minLength.isSome → ∃ o ∈ outcomes, o.kind = .minLength ∧ o.marker = none

/-- Counting a pattern that compiles ends, or the engine fails on it. -/
theorem ends_countPattern {ignoreCase : Bool} {pattern text : String} {failing : Prop}
    (hcompiles : Compiles ignoreCase pattern)
    (hfailing : ∀ source p, expression? pattern = some source →
      compileFor source ignoreCase = .ok p → Pattern.countMatches p text.toList = none → failing) :
    (countPattern ignoreCase pattern text).Ends (fun _ => True) failing := by
  unfold countPattern
  split
  · next source hsource =>
    obtain ⟨p, hp⟩ := hcompiles source hsource
    have hcompiled : (compiled source ignoreCase).Ends (fun p' => p' = p) failing := by
      intro known hknown
      obtain ⟨later, hrun, hlater⟩ := run_compiled_of_sound source ignoreCase hknown
      rw [hrun, hp]
      exact ⟨hlater, rfl⟩
    refine hcompiled.bind fun p' hp' => ?_
    rw [hp']
    split
    · exact .pure trivial
    · next hnone => exact .throw (hfailing source p hsource hp hnone)
  · split
    · exact .pure trivial
    · exact .pure trivial

theorem ends_count {r : Rule} (hvalid : r.Valid) (text : String) {m : Marker}
    (hm : m ∈ r.required ++ r.forbidden) :
    (m.count r.ignoreCase text).Ends (fun _ => True) (r.EngineFails text) := by
  have hpatterns : ∀ pattern ∈ m.patterns,
      (countPattern r.ignoreCase pattern text).Ends (fun _ => True) (r.EngineFails text) :=
    fun pattern hpattern => ends_countPattern (hvalid.compiles m hm pattern hpattern)
      fun source p hsource hp hnone => ⟨m, hm, pattern, hpattern, source, p, hsource, hp, hnone⟩
  exact (Evaluation.Ends.mapM hpatterns).bind fun _ _ => .pure trivial

/-- The checks of an accepted rule end with an outcome each, or the engine fails. -/
theorem ends_runChecks {r : Rule} (hvalid : r.Valid) (text : String) :
    (r.runChecks text).Ends (r.Outcomes text) (r.EngineFails text) := by
  have hrequired : ∀ m ∈ r.required, (requiredOutcome r.ignoreCase text m).Ends
      (fun o => o.Reports r text ∧ o.kind = .required ∧ o.marker = some m) (r.EngineFails text) :=
    fun m hm => (ends_count hvalid text (List.mem_append_left _ hm)).bind fun n _ =>
      .pure ⟨.required m hm n, rfl, rfl⟩
  have hforbidden : ∀ m ∈ r.forbidden, (forbiddenOutcome r.ignoreCase text m).Ends
      (fun o => o.Reports r text ∧ o.kind = .forbidden ∧ o.marker = some m) (r.EngineFails text) :=
    fun m hm => (ends_count hvalid text (List.mem_append_right _ hm)).bind fun n _ =>
      .pure ⟨.forbidden m hm n, rfl, rfl⟩
  unfold Rule.runChecks
  refine (Evaluation.Ends.mapM hrequired).bind fun required ⟨hreq, hreq'⟩ =>
    (Evaluation.Ends.mapM hforbidden).bind fun forbidden ⟨hforb, hforb'⟩ => ?_
  -- No predicate can be read, so the third list is empty.
  rw [hvalid.noPredicate]
  have hpredicate : (pure [] : Evaluation (List CheckOutcome)).Ends (· = []) (r.EngineFails text) :=
    .pure rfl
  refine hpredicate.bind fun predicate hempty => .pure ?_
  rw [hempty, List.append_nil]
  refine ⟨fun o ho => ?_, fun m hm => ?_, fun m hm => ?_, fun hlength => ?_⟩
  · rcases List.mem_append.mp ho with ho | ho
    · rcases List.mem_append.mp ho with ho | ho
      · obtain ⟨m, hm, hreports, -⟩ := hreq o ho
        exact hreports
      · obtain ⟨m, hm, hreports, -⟩ := hforb o ho
        exact hreports
    · cases hlength : r.minLength with
      | none =>
        rw [hlength] at ho
        exact nomatch ho
      | some n =>
        rw [hlength] at ho
        rw [List.mem_singleton.mp ho]
        exact .minLength n hlength
  · obtain ⟨o, ho, -, hmember⟩ := hreq' m hm
    exact ⟨o, List.mem_append_left _ (List.mem_append_left _ ho), hmember⟩
  · obtain ⟨o, ho, -, hmember⟩ := hforb' m hm
    exact ⟨o, List.mem_append_left _ (List.mem_append_right _ ho), hmember⟩
  · obtain ⟨n, hn⟩ := Option.isSome_iff_exists.mp hlength
    rw [hn]
    exact ⟨_, List.mem_append_right _ List.mem_cons_self, rfl, rfl⟩

/-! ## 3. Verdicts -/

/-- A bound of the rule has more digits than a message can hold, and the rule has no message of its
own for a check that fails. -/
def Rule.HasLongBound (r : Rule) : Prop :=
  r.fallbackMessage.truthy = false ∧
    ((∃ m ∈ r.required, isTooLongToWrite m.minCount = true) ∨
      ∃ n, r.minLength = some n ∧ isTooLongToWrite n.natAbs = true)

theorem isTooLongToWrite_mono {m n : Nat} (hle : m ≤ n) (h : isTooLongToWrite m = true) :
    isTooLongToWrite n = true := by
  unfold isTooLongToWrite at h ⊢
  exact decide_eq_true (Nat.le_trans (of_decide_eq_true h) hle)

theorem numberText_some {n : Int} (h : ¬isTooLongToWrite n.natAbs = true) :
    numberText (some n) = .ok (Data.intText n) := by
  rw [numberText, if_neg h]

theorem numberText_natCast {n : Nat} (h : ¬isTooLongToWrite n = true) :
    numberText (some (n : Int)) = .ok (Data.intText n) :=
  numberText_some (by rwa [Int.natAbs_natCast])

/-- The message for a check that failed can be written unless the bound of the check is too long:
what was found is less than the bound. -/
theorem defaultMessage_or {r : Rule} {text : String} {o : CheckOutcome} (h : o.Reports r text)
    (hunmet : o.met = false) :
    (∃ message, r.defaultMessage o = .ok message) ∨
      (∃ m ∈ r.required, isTooLongToWrite m.minCount = true) ∨
        ∃ n, r.minLength = some n ∧ isTooLongToWrite n.natAbs = true := by
  -- What was found is no longer than the bound that it misses, so that one length decides.
  cases h with
  | required m hm n =>
    by_cases hlong : isTooLongToWrite m.minCount = true
    · exact .inr (.inl ⟨m, hm, hlong⟩)
    have hfound : n ≤ m.minCount := Nat.le_of_lt (Nat.lt_of_not_le (of_decide_eq_false hunmet))
    have hshort : ¬isTooLongToWrite n = true := fun hn => hlong (isTooLongToWrite_mono hfound hn)
    refine .inl ?_
    unfold Rule.defaultMessage
    dsimp only
    split
    · rw [numberText_natCast hlong, Option.map_some, Int.ofNat_eq_natCast, numberText_natCast hshort]
      exact ⟨_, rfl⟩
    · exact ⟨_, rfl⟩
  | forbidden m hm n => exact .inl ⟨_, rfl⟩
  | minLength n hn =>
    by_cases hlong : isTooLongToWrite n.natAbs = true
    · exact .inr (.inr ⟨n, hn, hlong⟩)
    have hfound : text.length ≤ n.natAbs := by
      have := of_decide_eq_false hunmet
      omega
    have hshort : ¬isTooLongToWrite text.length = true := fun hlength =>
      hlong (isTooLongToWrite_mono hfound hlength)
    refine .inl ?_
    unfold Rule.defaultMessage
    dsimp only
    rw [hn, numberText_some hlong, Option.map_some, Int.ofNat_eq_natCast, numberText_natCast hshort]
    exact ⟨_, rfl⟩

/-- A list of computations succeeds if each of them does. -/
theorem exists_mapM_eq_ok {ε α β : Type} {f : α → Except ε β} {l : List α}
    (h : ∀ a ∈ l, ∃ b, f a = .ok b) : ∃ bs, l.mapM f = .ok bs := by
  induction l with
  | nil => exact ⟨[], rfl⟩
  | cons a l ih =>
    obtain ⟨b, hb⟩ := h a List.mem_cons_self
    obtain ⟨bs, hbs⟩ := ih fun a' ha' => h a' (List.mem_cons_of_mem _ ha')
    exact ⟨b :: bs, by rw [List.mapM_cons, hb, hbs]; rfl⟩

/-- A step that looks at a check of the rule finds its outcome. -/
theorem outcome_of_resolves {r : Rule} {text : String} {outcomes : List CheckOutcome}
    (houtcomes : r.Outcomes text outcomes) {s : DiagnosticStep}
    (hs : s.Resolves r.required r.forbidden r.minLength) : ∃ o, s.outcome outcomes = .ok o := by
  have hlooks : ∃ o ∈ outcomes, s.looksAt o = true := by
    unfold DiagnosticStep.Resolves at hs
    unfold DiagnosticStep.looksAt
    cases hcheck : s.check with
    | required =>
      rw [hcheck] at hs
      obtain ⟨m, hm, hlabel⟩ := hs
      obtain ⟨o, ho, hkind, hmarker⟩ := houtcomes.required m hm
      exact ⟨o, ho, by rw [hkind, hmarker, hlabel]; simp⟩
    | forbidden =>
      rw [hcheck] at hs
      obtain ⟨m, hm, hlabel⟩ := hs
      obtain ⟨o, ho, hkind, hmarker⟩ := houtcomes.forbidden m hm
      exact ⟨o, ho, by rw [hkind, hmarker, hlabel]; simp⟩
    | minLength =>
      rw [hcheck] at hs
      obtain ⟨o, ho, hkind, hmarker⟩ := houtcomes.minLength hs
      exact ⟨o, ho, by rw [hkind, hmarker]; rfl⟩
    | predicate =>
      rw [hcheck] at hs
      exact hs.elim
  obtain ⟨o, ho⟩ := Option.isSome_iff_exists.mp (List.find?_isSome.mpr hlooks)
  exact ⟨o, by rw [DiagnosticStep.outcome, ho]⟩

/-- The outcomes of a valid rule lead to a result, unless one of its bounds is too long. -/
theorem verdict_or {r : Rule} (hvalid : r.Valid) {text : String} {outcomes : List CheckOutcome}
    (h : r.Outcomes text outcomes) : (∃ result, r.verdict outcomes = .ok result) ∨ r.HasLongBound := by
  obtain ⟨steps, hsteps⟩ := exists_mapM_eq_ok
    (f := fun s => do return (s, ← s.outcome outcomes)) (l := r.diagnostics) fun s hs => by
      obtain ⟨o, ho⟩ := outcome_of_resolves h (hvalid.resolves s hs)
      exact ⟨(s, o), by rw [ho]; rfl⟩
  -- All steps find their outcomes, so only the message can fail to be written.
  unfold Rule.verdict
  rw [hsteps]
  dsimp only [bind, Except.bind]
  cases hfirst : outcomes.find? (!·.met) with
  | none => exact .inl ⟨_, rfl⟩
  | some first =>
    dsimp only
    split
    · exact .inl ⟨_, rfl⟩
    · split
      · exact .inl ⟨_, rfl⟩
      · next hfallback =>
        have hunmet : first.met = false := by simpa using List.find?_some hfirst
        rcases defaultMessage_or (h.reports first (List.mem_of_find?_eq_some hfirst)) hunmet with
          ⟨message, hmessage⟩ | hlong
        · exact .inl ⟨_, by rw [hmessage]; rfl⟩
        · exact .inr ⟨Bool.eq_false_iff.mpr hfallback, hlong⟩

/-! ## 4. Rules that are read -/

/-- A rule that is read has expressions that compile as the evaluator compiles them, and steps that
look at its own checks. Evaluating it ends with an internal error only on a text on which the engine
of expressions fails, or if one of its bounds is too long to be written in a message. -/
theorem readRule_evaluates {d : Data} {r : Rule} (hread : readRule d = .ok r) :
    (∀ m ∈ r.required ++ r.forbidden, ∀ pattern ∈ m.patterns, ∀ source,
        expression? pattern = some source → ∃ p, compileFor source r.ignoreCase = .ok p) ∧
      (∀ s ∈ r.diagnostics, s.Resolves r.required r.forbidden r.minLength) ∧
      ∀ e : Evaluator, Compiled.Sound e.compiled → ∀ unit : Option String,
        (e.evaluateRule r unit).1.reason = some .internalError →
          ∃ text, unit = some text ∧ (r.EngineFails text ∨ r.HasLongBound) := by
  have hvalid := valid_readRule hread
  refine ⟨hvalid.compiles, hvalid.resolves, fun e he unit hreason => ?_⟩
  cases unit with
  | none => exact nomatch hreason
  | some text =>
    refine ⟨text, rfl, ?_⟩
    -- The outcomes come from the engine; with them only the text of a bound can fail.
    unfold Evaluator.evaluateRule at hreason
    rw [run_evaluate_some] at hreason
    obtain ⟨-, hends⟩ := ends_runChecks hvalid text e.compiled he
    rcases hrun : (r.runChecks text).run.run e.compiled with ⟨error | outcomes, later⟩ <;>
      rw [hrun] at hends hreason
    · exact .inl hends
    · rcases verdict_or hvalid hends with ⟨result, hresult⟩ | hlong
      · -- A verdict is never an internal error.
        dsimp only at hreason
        rw [hresult] at hreason
        rcases verdict_cases hresult with rfl | ⟨o, message, rfl⟩
        · exact nomatch hreason
        · exact nomatch hreason
      · exact .inr hlong

theorem exists_of_readRule {d : Data} {p : Rule → Prop} [DecidablePred p]
    (h : (readRule d).toOption.any (fun r => decide (p r)) = true) : ∃ r, readRule d = .ok r ∧ p r := by
  cases hread : readRule d with
  | error e =>
    rw [hread] at h
    exact nomatch h
  | ok r =>
    rw [hread] at h
    exact ⟨r, rfl, of_decide_eq_true h⟩

/-- A rule with an expression that a text matches and another one does not, and with a step that then
gives its message. -/
theorem readRule_evaluates_step :
    ∃ r, readRule (.map [(.text "id", .text "r"), (.text "applies_to", .text "f"),
        (.text "required", .list [.text "regex:return +x"]),
        (.text "diagnostics", .list [.map [(.text "required", .text "regex:return +x"),
          (.text "message", .text "m")]])]) = .ok r ∧
      (∀ s ∈ r.diagnostics, s.Resolves r.required r.forbidden r.minLength) ∧
      (Evaluator.evaluateRule {} r (some "return  x")).1.passed = true ∧
      (Evaluator.evaluateRule {} r (some "return y")).1.message.asText? = some "m" ∧
      (Evaluator.evaluateRule {} r (some "return y")).1.reason ≠ some .internalError ∧
      (Evaluator.evaluateRule {} r none).1.reason ≠ some .internalError := by
  obtain ⟨r, hread, hmatched, hmessage, hunmet⟩ := exists_of_readRule
    (p := fun r => (Evaluator.evaluateRule {} r (some "return  x")).1.passed = true ∧
      (Evaluator.evaluateRule {} r (some "return y")).1.message.asText? = some "m" ∧
      (Evaluator.evaluateRule {} r (some "return y")).1.reason = some .checkUnmet)
    (d := .map [(.text "id", .text "r"), (.text "applies_to", .text "f"),
      (.text "required", .list [.text "regex:return +x"]),
      (.text "diagnostics", .list [.map [(.text "required", .text "regex:return +x"),
        (.text "message", .text "m")]])]) (by decide +kernel)
  obtain ⟨-, hresolves, hends⟩ := readRule_evaluates hread
  refine ⟨r, hread, hresolves, hmatched, hmessage, ?_, fun hreason => ?_⟩
  · rw [hunmet]
    decide
  · obtain ⟨text, htext, -⟩ := hends {} nofun none hreason
    exact nomatch htext

/-- An expression of which a group ends before it begins, and a bound that is too long to be written,
are accepted and end with an internal error. -/
theorem internalError_of_readRule :
    (∃ r, readRule (.map [(.text "id", .text "r"), (.text "applies_to", .text "f"),
        (.text "required", .list [.text "regex:((x)|y|z)*+"])]) = .ok r ∧
      (Evaluator.evaluateRule {} r (some "xyz")).1.reason = some .internalError) ∧
    ∃ r, readRule (.map [(.text "id", .text "r"), (.text "applies_to", .text "f"),
        (.text "min_length", .int (Nat.pow 10 digitLimit))]) = .ok r ∧
      (Evaluator.evaluateRule {} r (some "xyz")).1.reason = some .internalError :=
  ⟨exists_of_readRule (by decide +kernel), exists_of_readRule (by decide +kernel)⟩

end Grading
