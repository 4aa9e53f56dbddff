import Grading.Proofs.Rule.Diagnosis
import Grading.Proofs.Rule.Reported

/-!
# Message — what the learner is told of a failure

A failure of a rule that was read says something: its message is a text that is not empty. A rule may
give messages of its own, one for a unit that is missing and one for a check that no step stands for.
They are passed on as they stand in the rule, so that there the message can be a value of any kind.
-/

namespace Grading

/-! ## 1. Messages -/

def Data.Says (d : Data) : Prop := ∃ s, d = .text s ∧ s ≠ ""

/-- The value counts as true but is no text. -/
structure Data.IsForeign (d : Data) : Prop where
  truthy : d.truthy = true
  notText : ∀ s, d ≠ .text s

theorem Data.says_or_isForeign {d : Data} (h : d.truthy = true) : d.Says ∨ d.IsForeign := by
  by_cases htext : ∃ s, d = .text s
  · obtain ⟨s, rfl⟩ := htext
    refine .inl ⟨s, rfl, ?_⟩
    rintro rfl
    exact nomatch h
  · exact .inr ⟨h, fun s hs => htext ⟨s, hs⟩⟩

structure RuleResult.Silent (result : RuleResult) : Prop where
  message : result.message = .null
  reason : result.reason = none
  expected : result.expected = .null
  actual : result.actual = .null

/-- A default message says something. -/
theorem says_defaultMessage {r : Rule} {o : CheckOutcome} {s : String}
    (h : r.defaultMessage o = .ok s) : Data.Says (.text s) := by
  refine ⟨s, rfl, ?_⟩
  unfold Rule.defaultMessage at h
  dsimp only at h
  -- Every message names its target and goes on with words of its own.
  split at h
  · split at h
    · obtain ⟨count, -, h⟩ := bind_eq_ok.mp h
      obtain ⟨found, -, h⟩ := bind_eq_ok.mp h
      obtain rfl := Except.ok.inj h
      simp
    · obtain rfl := Except.ok.inj h
      simp
  · obtain rfl := Except.ok.inj h
    simp
  · obtain ⟨bound, -, h⟩ := bind_eq_ok.mp h
    obtain ⟨found, -, h⟩ := bind_eq_ok.mp h
    obtain rfl := Except.ok.inj h
    simp
  · obtain rfl := Except.ok.inj h
    simp

/-! ## 2. Rules that are read -/

theorem ne_empty_of_fullText? {d : Data} {s : String} (h : fullText? d = some s) : s ≠ "" := by
  rintro rfl
  rw [eq_text_of_fullText? h] at h
  exact nomatch h

/-- The message of an accepted step says something. -/
theorem says_readStep {rule : String} {required forbidden : List Marker} {minLength : Option Int}
    {d : Data} {s : DiagnosticStep} (h : readStep rule required forbidden minLength d = .ok s) :
    Data.Says (.text s.message) := by
  unfold readStep at h
  split at h
  · split at h
    · next message hmessage =>
      have hsays : Data.Says (.text message) := ⟨message, rfl, ne_empty_of_fullText? hmessage⟩
      split at h
      · split at h
        · exact nomatch h
        split at h
        · split at h
          · exact nomatch h
          · obtain rfl := Except.ok.inj h
            exact hsays
        · obtain ⟨label, -, h⟩ := bind_eq_ok.mp h
          obtain rfl := Except.ok.inj h
          exact hsays
      · exact nomatch h
    · exact nomatch h
  · exact nomatch h

structure Rule.SpeaksFor (r : Rule) (es : List (Data × Data)) : Prop where
  missing : r.missingMessage = Data.field es "missing_message"
  fallback : r.fallbackMessage = Data.field es "fallback_message"
  steps : ∀ s ∈ r.diagnostics, Data.Says (.text s.message)

theorem speaksFor_readRule {d : Data} {r : Rule} (h : readRule d = .ok r) :
    ∃ es, d = .map es ∧ r.SpeaksFor es := by
  obtain ⟨es, hmap, hread⟩ := readFrom_of_readRule h
  refine ⟨es, hmap, hread.missing, hread.fallback, fun s hs => ?_⟩
  obtain ⟨step, hstep⟩ := exists_of_readSteps hread.diagnostics s hs
  exact says_readStep hstep

/-- A step that looks at a check of the rule names one of its checks. -/
theorem exists_names_of_resolves {r : Rule} {s : DiagnosticStep}
    (h : s.Resolves r.required r.forbidden r.minLength) : ∃ c ∈ r.checks, s.Names c := by
  unfold DiagnosticStep.Resolves at h
  cases hcheck : s.check with
  | required =>
    rw [hcheck] at h
    obtain ⟨m, hm, hlabel⟩ := h
    refine ⟨.required m, mem_checks.mpr hm, hcheck.symm, fun m' hm' => ?_⟩
    rw [hlabel, Option.some.inj hm']
  | forbidden =>
    rw [hcheck] at h
    obtain ⟨m, hm, hlabel⟩ := h
    refine ⟨.forbidden m, mem_checks.mpr hm, hcheck.symm, fun m' hm' => ?_⟩
    rw [hlabel, Option.some.inj hm']
  | minLength =>
    rw [hcheck] at h
    obtain ⟨n, hn⟩ := Option.isSome_iff_exists.mp h
    exact ⟨.minLength n, mem_checks.mpr hn, hcheck.symm, nofun⟩
  | predicate =>
    rw [hcheck] at h
    exact h.elim

/-! ## 3. Results -/

/-- The message that a mapping gives for the failure of its rule: for a unit that is missing, and for a
check of a unit that is there. -/
def ownMessage (es : List (Data × Data)) : Option String → Data
  | none => Data.field es "missing_message"
  | some _ => Data.field es "fallback_message"

/-- A message says something, or it is the own message of a rule and no text. -/
def SaysOrPassesOn (own message : Data) : Prop :=
  message.Says ∨ message = own ∧ own.IsForeign

theorem saysOrPassesOn_own {own : Data} (h : own.truthy = true) : SaysOrPassesOn own own :=
  own.says_or_isForeign h |>.imp_right fun hforeign => ⟨rfl, hforeign⟩

theorem message_missing {r : Rule} {es : List (Data × Data)} (h : r.SpeaksFor es) :
    SaysOrPassesOn (ownMessage es none) r.missing.message := by
  unfold Rule.missing Data.orElse
  dsimp only
  rw [h.missing]
  split
  · next htruthy => exact saysOrPassesOn_own htruthy
  · exact .inl ⟨_, rfl, by simp⟩

/-- The selected message says something, unless it is one of the rule's own messages passed on
unchecked. -/
theorem message_of_selects {r : Rule} {text : String} {shows : DiagnosticStep → Check → Prop}
    {c : Check} {message : Except EvaluationError Data} {es : List (Data × Data)}
    (h : r.Selects text shows c message) (hspeaks : r.SpeaksFor es) {m : Data}
    (hm : message = .ok m) : SaysOrPassesOn (ownMessage es (some text)) m := by
  cases h with
  | step hs _ =>
    obtain rfl := Except.ok.inj hm
    exact .inl (hspeaks.steps _ hs.mem)
  | fallback _ htruthy _ =>
    obtain rfl := Except.ok.inj hm
    rw [hspeaks.fallback] at htruthy ⊢
    exact saysOrPassesOn_own htruthy
  | @default _ o' _ _ _ _ =>
    cases hdefault : r.defaultMessage o' with
    | error e =>
      rw [hdefault] at hm
      exact nomatch hm
    | ok s =>
      rw [hdefault] at hm
      obtain rfl := Except.ok.inj hm
      exact .inl (says_defaultMessage hdefault)

theorem Rule.Yields.exists_unmet {r : Rule} {text : String} {result : RuleResult}
    (h : r.Yields (some text) result) (hfailed : result.passed = false) :
    ∃ c ∈ r.checks, r.Unmet text c := by
  have hnot : ¬ r.Satisfied text := by
    intro hsat
    have hpassed := h.passed_iff.mpr ⟨text, rfl, hsat⟩
    exact absurd (hfailed.symm.trans hpassed) (by decide)
  rw [satisfied_iff] at hnot
  push Not at hnot
  exact hnot

/-- A failed result says something, unless it passes on one of the rule's own messages. -/
theorem Rule.Yields.message_of_failed {r : Rule} {unit : Option String} {result : RuleResult}
    {es : List (Data × Data)} (h : r.Yields unit result) (hvalid : r.Valid)
    (hspeaks : r.SpeaksFor es) (hfailed : result.passed = false) :
    SaysOrPassesOn (ownMessage es unit) result.message := by
  cases unit with
  | none =>
    obtain rfl : r.missing = result := Except.ok.inj h.value_eq
    exact message_missing hspeaks
  | some text =>
    obtain ⟨outcomes, hpairs, hverdict⟩ := h.outcomes
    obtain ⟨c, o, message, hselects, -, -, -, heq⟩ := verdict_selects hpairs
      (fun s hs => exists_names_of_resolves (hvalid.resolves s hs)) (h.exists_unmet hfailed)
    rw [hverdict] at heq
    cases message with
    | error e => exact nomatch heq
    | ok m =>
      obtain rfl := Except.ok.inj heq
      exact message_of_selects hselects hspeaks rfl

/-- A result that passed says nothing. -/
theorem Rule.Yields.silent {r : Rule} {unit : Option String} {result : RuleResult}
    (h : r.Yields unit result) (hpassed : result.passed = true) : result.Silent := by
  cases unit with
  | none =>
    obtain rfl : r.missing = result := Except.ok.inj h.value_eq
    exact nomatch hpassed
  | some text =>
    obtain ⟨outcomes, -, hverdict⟩ := h.outcomes
    rcases verdict_cases hverdict with rfl | ⟨o, message, rfl⟩
    · exact ⟨rfl, rfl, rfl, rfl⟩
    · exact nomatch hpassed

/-- A rule that is read from a mapping and passes tells nothing else. If it fails it says something,
unless the mapping has a message of its own for that failure which counts as true and is no text; that
one may be passed on as it is. -/
theorem failure_says_or {d : Data} {r : Rule} (hread : readRule d = .ok r) {unit : Option String}
    {result : RuleResult} (h : r.Yields unit result) :
    ∃ es, d = .map es ∧ (result.passed = true → result.Silent) ∧
      (result.passed = false → SaysOrPassesOn (ownMessage es unit) result.message) := by
  obtain ⟨es, rfl, hspeaks⟩ := speaksFor_readRule hread
  exact ⟨es, rfl, h.silent, h.message_of_failed (valid_readRule hread) hspeaks⟩

/-- A check that is not met, with a fallback message that is a text; the number that stands for a unit
that is missing plays no part. -/
theorem failure_says_or_fallback :
    ∃ r result, readRule (.map [(.text "id", .text "r"), (.text "applies_to", .text "f"),
        (.text "missing_message", .int 5), (.text "fallback_message", .text "m"),
        (.text "min_length", .int 2)]) = .ok r ∧
      r.Yields (some "x") result ∧ result.passed = false ∧ result.message.Says := by
  let es := [(Data.text "id", Data.text "r"), (.text "applies_to", .text "f"),
    (.text "missing_message", .int 5), (.text "fallback_message", .text "m"),
    (.text "min_length", .int 2)]
  obtain ⟨r, result, hread, hyields, hfailed⟩ : ∃ r result, readRule (.map es) = .ok r ∧
      r.Yields (some "x") result ∧ result.passed = false :=
    ⟨_, _, rfl, ⟨[], Compiled.sound_nil, rfl⟩, rfl⟩
  refine ⟨r, result, hread, hyields, hfailed, ?_⟩
  obtain ⟨es', hes, -, hmessage⟩ := failure_says_or hread hyields
  obtain rfl := Data.map.inj hes
  rcases hmessage hfailed with hsays | ⟨-, hforeign⟩
  · exact hsays
  · exact absurd rfl (hforeign.notText "m")

/-- A number for a unit that is missing, and a list for a check that is not met, are passed on. -/
theorem foreign_message :
    (∃ r result, readRule (.map [(.text "id", .text "r"), (.text "applies_to", .text "f"),
        (.text "missing_message", .int 5)]) = .ok r ∧
      r.Yields none result ∧ result.passed = false ∧ ¬ result.message.Says) ∧
    ∃ r result, readRule (.map [(.text "id", .text "r"), (.text "applies_to", .text "f"),
        (.text "required", .list [.text "a"]), (.text "fallback_message", .list [.null])]) = .ok r ∧
      r.Yields (some "b") result ∧ result.passed = false ∧ ¬ result.message.Says := by
  constructor
  · refine ⟨_, _, rfl, ⟨[], Compiled.sound_nil, rfl⟩, rfl, ?_⟩
    rintro ⟨s, hs, -⟩
    exact nomatch hs
  · refine ⟨_, _, rfl, ⟨[], Compiled.sound_nil, rfl⟩, rfl, ?_⟩
    rintro ⟨s, hs, -⟩
    exact nomatch hs

end Grading
