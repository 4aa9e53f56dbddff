import Grading.Proofs.Errors
import Grading.Proofs.Rule.Answer
import Grading.Proofs.Rule.Occurrence

/-!
# Check — the checks of a rule and when they are met

A rule makes one check for each of its markers, for its least length and for its predicate. What a
check finds does not depend on the expressions that an evaluator keeps, and whether it is met can be
said of the text alone.
-/

namespace Grading

open Grading.Text

/-! ## 1. What an evaluation comes to -/

/-- What an evaluation comes to when no expression is kept. -/
def Evaluation.value {α : Type} (m : Evaluation α) : Except EvaluationError α := (m.run.run []).1

namespace Evaluation

variable {α β : Type}

theorem Transparent.run_eq {m : Evaluation α} (hm : m.Transparent) {known : Compiled}
    (hknown : Compiled.Sound known) : (m.run.run known).1 = m.value := by
  obtain ⟨v, hv⟩ := hm
  obtain ⟨later, hrun, -⟩ := hv known hknown
  obtain ⟨fresh, hfresh, -⟩ := hv [] Compiled.sound_nil
  rw [value, hrun, hfresh]

theorem value_bind {m : Evaluation α} {f : α → Evaluation β} (hm : m.Transparent)
    (hf : ∀ a, (f a).Transparent) : (m >>= f).value = m.value >>= fun a => (f a).value := by
  obtain ⟨v, hv⟩ := hm
  obtain ⟨later, hrun, hlater⟩ := hv [] Compiled.sound_nil
  unfold value
  rw [run_bind, hrun]
  cases v with
  | error e => rfl
  | ok a => exact (hf a).run_eq hlater

theorem value_mapM {f : α → Evaluation β} (hf : ∀ a, (f a).Transparent) (l : List α) :
    (l.mapM f).value = l.mapM fun a => (f a).value := by
  induction l with
  | nil => rfl
  | cons a l ih =>
    have hrest : ∀ b, Transparent (do let bs ← l.mapM f; return b :: bs) :=
      fun b => (Transparent.mapM hf l).bind fun bs => .pure (b :: bs)
    rw [List.mapM_cons, List.mapM_cons, value_bind (hf a) hrest]
    congr 1
    funext b
    rw [value_bind (Transparent.mapM hf l) fun bs => .pure (b :: bs), ih]
    rfl

/-- What is computed from a value is found exactly when the value is. -/
theorem value_bind_pure_eq_ok {m : Evaluation α} {f : α → β} {b : β} (hm : m.Transparent) :
    (m >>= fun a => pure (f a)).value = .ok b ↔ ∃ a, m.value = .ok a ∧ b = f a := by
  rw [value_bind hm fun a => .pure (f a), bind_eq_ok]
  apply exists_congr
  intro a
  apply and_congr_right
  intro _
  constructor
  · intro h
    exact (Except.ok.inj h).symm
  · rintro rfl
    rfl

end Evaluation

/-! ## 2. Patterns and markers -/

def compared (ignoreCase : Bool) (text : String) : List Char :=
  if ignoreCase then lower text.toList else text.toList

/-- A pattern occurs at least `n` times in a text: an expression has so many matches, and any other
pattern so many occurrences that keep apart. -/
def OccursAtLeast (ignoreCase : Bool) (n : Nat) (pattern text : String) : Prop :=
  match expression? pattern with
  | some source => ∃ p k, compileFor source ignoreCase = .ok p ∧
      p.countMatches text.toList = some k ∧ n ≤ k
  | none => ∃ indices, OccursAt (compared ignoreCase pattern) (compared ignoreCase text) indices ∧
      indices.length = n

theorem value_compiled (source : String) (ignoreCase : Bool) :
    (compiled source ignoreCase).value =
      (compileFor source ignoreCase).mapError (.invalidPattern source) := by
  obtain ⟨later, hrun, -⟩ := run_compiled_of_sound source ignoreCase Compiled.sound_nil
  rw [Evaluation.value, hrun]

def matchCount (text : String) (p : Pattern) : Except EvaluationError Nat :=
  match p.countMatches text.toList with
  | some n => .ok n
  | none => .error .wrongGroupSpan

theorem value_countPattern (ignoreCase : Bool) (pattern text : String) :
    (countPattern ignoreCase pattern text).value = match expression? pattern with
      | some source =>
        (compileFor source ignoreCase).mapError (.invalidPattern source) >>= matchCount text
      | none => .ok (occurrences (compared ignoreCase pattern) (compared ignoreCase text)) := by
  unfold countPattern
  cases expression? pattern with
  | none => cases ignoreCase <;> rfl
  | some source =>
    dsimp only
    rw [Evaluation.value_bind (transparent_compiled source ignoreCase), value_compiled]
    · congr 1
      funext p
      unfold matchCount
      cases p.countMatches text.toList <;> rfl
    · intro p
      split
      · exact .pure _
      · exact .throw _

theorem le_countPattern_iff {ignoreCase : Bool} {pattern text : String} {n k : Nat}
    (h : (countPattern ignoreCase pattern text).value = .ok k) :
    n ≤ k ↔ OccursAtLeast ignoreCase n pattern text := by
  rw [value_countPattern] at h
  unfold OccursAtLeast
  -- Plain text is counted by occurrences, an expression by its matches.
  cases hexpr : expression? pattern with
  | none =>
    rw [hexpr] at h
    obtain rfl := Except.ok.inj h
    exact le_occurrences_iff
  | some source =>
    rw [hexpr] at h
    obtain ⟨p, hcompile, hcount⟩ := bind_eq_ok.mp h
    replace hcompile : compileFor source ignoreCase = .ok p := mapError_eq_ok.mp hcompile
    unfold matchCount at hcount
    split at hcount
    · next k' hmatches =>
      obtain rfl := Except.ok.inj hcount
      constructor
      · intro hle
        exact ⟨p, k', hcompile, hmatches, hle⟩
      · rintro ⟨p', k, hp', hk, hle⟩
        obtain rfl := Except.ok.inj (hcompile.symm.trans hp')
        obtain rfl := Option.some.inj (hmatches.symm.trans hk)
        exact hle
    · exact nomatch hcount

def Marker.Present (m : Marker) (ignoreCase : Bool) (text : String) : Prop :=
  ∃ pattern ∈ m.patterns, OccursAtLeast ignoreCase m.minCount pattern text

theorem le_foldl_max {n : Nat} (counts : List Nat) (least : Nat) :
    n ≤ counts.foldl max least ↔ n ≤ least ∨ ∃ k ∈ counts, n ≤ k := by
  induction counts generalizing least with
  | nil => simp
  | cons k counts ih =>
    have hmax : n ≤ max least k ↔ n ≤ least ∨ n ≤ k := by omega
    rw [List.foldl_cons, ih, hmax, List.exists_mem_cons_iff, or_assoc]

theorem counts_of_count {m : Marker} {ignoreCase : Bool} {text : String} {k : Nat}
    (h : (m.count ignoreCase text).value = .ok k) :
    ∃ counts, List.Forall₂ (fun pattern n => (countPattern ignoreCase pattern text).value = .ok n)
      m.patterns counts ∧ k = counts.foldl max 0 := by
  have hcounts : ∀ p, (countPattern ignoreCase p text).Transparent :=
    fun p => transparent_countPattern ignoreCase p text
  obtain ⟨counts, hvalue, hk⟩ := (Evaluation.value_bind_pure_eq_ok (.mapM hcounts _)).mp h
  rw [Evaluation.value_mapM hcounts] at hvalue
  exact ⟨counts, forall₂_of_mapM hvalue, hk⟩

/-- The number of a marker is the greatest number of times that one of its alternatives occurs. -/
theorem le_count_iff {m : Marker} {ignoreCase : Bool} {text : String} {n k : Nat}
    (h : (m.count ignoreCase text).value = .ok k) :
    n ≤ k ↔ n = 0 ∨ ∃ pattern ∈ m.patterns, OccursAtLeast ignoreCase n pattern text := by
  obtain ⟨counts, hpairs, rfl⟩ := counts_of_count h
  rw [le_foldl_max, Nat.le_zero]
  apply or_congr_right
  clear h
  -- The counts stand for the alternatives one by one.
  generalize m.patterns = patterns at hpairs ⊢
  induction hpairs with
  | nil => simp
  | cons hcount _ ih =>
    rw [List.exists_mem_cons_iff, List.exists_mem_cons_iff, le_countPattern_iff hcount]
    exact or_congr_right ih

theorem minCount_le_iff {m : Marker} {ignoreCase : Bool} {text : String} {k : Nat}
    (h : (m.count ignoreCase text).value = .ok k) :
    m.minCount ≤ k ↔ m.Present ignoreCase text := by
  rw [le_count_iff h]
  exact or_iff_right (Nat.ne_of_gt m.minCount_pos)

/-! ## 3. Checks -/

inductive Check where
  | required (marker : Marker)
  | forbidden (marker : Marker)
  | minLength (bound : Int)
  | predicate (test : Predicate)

namespace Check

def kind : Check → CheckKind
  | .required _ => .required
  | .forbidden _ => .forbidden
  | .minLength _ => .minLength
  | .predicate _ => .predicate

def marker? : Check → Option Marker
  | .required m | .forbidden m => some m
  | .minLength _ | .predicate _ => none

def Met (ignoreCase : Bool) (text : String) : Check → Prop
  | .required m => m.Present ignoreCase text
  | .forbidden m => ¬ m.Present ignoreCase text
  | .minLength n => n ≤ text.length
  | .predicate p => p text = .ok true

def outcome (ignoreCase : Bool) (text : String) : Check → Evaluation CheckOutcome
  | .required m => requiredOutcome ignoreCase text m
  | .forbidden m => forbiddenOutcome ignoreCase text m
  | .minLength n =>
    pure { kind := .minLength, met := n ≤ text.length, observed := some text.length }
  | .predicate p =>
    match p text with
    | .ok met => pure { kind := .predicate, met }
    | .error f => throw (.predicate f)

def Finds (ignoreCase : Bool) (text : String) (c : Check) (o : CheckOutcome) : Prop :=
  (c.outcome ignoreCase text).value = .ok o

theorem transparent_outcome (ignoreCase : Bool) (text : String) (c : Check) :
    (c.outcome ignoreCase text).Transparent := by
  cases c with
  | required m | forbidden m => exact (transparent_count m ignoreCase text).bind fun _ => .pure _
  | minLength n => exact .pure _
  | predicate p =>
    unfold outcome
    dsimp only
    split
    · exact .pure _
    · exact .throw _

variable {ignoreCase : Bool} {text : String} {c : Check} {m : Marker} {p : Predicate} {n : Int}
  {o : CheckOutcome}

theorem finds_required_iff : Finds ignoreCase text (.required m) o ↔
    ∃ k, (m.count ignoreCase text).value = .ok k ∧
      o = { kind := .required, met := m.minCount ≤ k, marker := some m, observed := some k } :=
  Evaluation.value_bind_pure_eq_ok (transparent_count m ignoreCase text)

theorem finds_forbidden_iff : Finds ignoreCase text (.forbidden m) o ↔
    ∃ k, (m.count ignoreCase text).value = .ok k ∧
      o = { kind := .forbidden, met := k < m.minCount, marker := some m, observed := some k } :=
  Evaluation.value_bind_pure_eq_ok (transparent_count m ignoreCase text)

theorem finds_minLength_iff : Finds ignoreCase text (.minLength n) o ↔
    o = { kind := .minLength, met := n ≤ text.length, observed := some text.length } :=
  ⟨fun h => (Except.ok.inj h).symm, fun h => congrArg _ h.symm⟩

theorem finds_predicate_iff : Finds ignoreCase text (.predicate p) o ↔
    ∃ met, p text = .ok met ∧ o = { kind := .predicate, met } := by
  unfold Finds outcome
  dsimp only
  cases p text with
  | error f =>
    constructor
    · intro h
      exact nomatch h
    · rintro ⟨met, h, -⟩
      exact nomatch h
  | ok met =>
    constructor
    · intro h
      exact ⟨met, rfl, (Except.ok.inj h).symm⟩
    · rintro ⟨met', hmet, rfl⟩
      rw [Except.ok.inj hmet]
      rfl

namespace Finds

/-- An outcome tells which check it is of. -/
theorem labels (h : Finds ignoreCase text c o) : o.kind = c.kind ∧ o.marker = c.marker? := by
  cases c with
  | required m =>
    obtain ⟨k, -, rfl⟩ := finds_required_iff.mp h
    exact ⟨rfl, rfl⟩
  | forbidden m =>
    obtain ⟨k, -, rfl⟩ := finds_forbidden_iff.mp h
    exact ⟨rfl, rfl⟩
  | minLength n =>
    rw [finds_minLength_iff.mp h]
    exact ⟨rfl, rfl⟩
  | predicate p =>
    obtain ⟨met, -, rfl⟩ := finds_predicate_iff.mp h
    exact ⟨rfl, rfl⟩

/-- An outcome is met exactly when the text meets the check. -/
theorem met_iff (h : Finds ignoreCase text c o) : o.met = true ↔ c.Met ignoreCase text := by
  cases c with
  | required m =>
    obtain ⟨k, hk, rfl⟩ := finds_required_iff.mp h
    exact decide_eq_true_iff.trans (minCount_le_iff hk)
  | forbidden m =>
    obtain ⟨k, hk, rfl⟩ := finds_forbidden_iff.mp h
    exact decide_eq_true_iff.trans (Nat.not_le.symm.trans (not_congr (minCount_le_iff hk)))
  | minLength n =>
    rw [finds_minLength_iff.mp h]
    exact decide_eq_true_iff
  | predicate p =>
    obtain ⟨met, hmet, rfl⟩ := finds_predicate_iff.mp h
    show met = true ↔ p text = .ok true
    rw [hmet]
    exact ⟨congrArg _, Except.ok.inj⟩

end Finds

end Check

def Rule.checks (r : Rule) : List Check :=
  r.required.map .required ++ r.forbidden.map .forbidden ++ (r.minLength.map .minLength).toList ++
    (r.predicate.map .predicate).toList

theorem mem_checks {r : Rule} {c : Check} : c ∈ r.checks ↔ match c with
    | .required m => m ∈ r.required
    | .forbidden m => m ∈ r.forbidden
    | .minLength n => r.minLength = some n
    | .predicate p => r.predicate = some p := by
  unfold Rule.checks
  cases c <;> simp

theorem runChecks_eq (r : Rule) (text : String) :
    r.runChecks text = r.checks.mapM (·.outcome r.ignoreCase text) := by
  unfold Rule.checks Rule.runChecks
  simp only [List.mapM_append, List.mapM_map, bind_assoc, pure_bind]
  congr 1
  funext required
  congr 1
  funext forbidden
  cases r.minLength <;> cases r.predicate with
  | none => simp [Check.outcome]
  | some p => cases h : p text <;> simp [Check.outcome, h]

/-- Without the cache, running the checks is finding the outcome of each. -/
theorem value_runChecks (r : Rule) (text : String) :
    (r.runChecks text).value = r.checks.mapM fun c => (c.outcome r.ignoreCase text).value := by
  rw [runChecks_eq, Evaluation.value_mapM (Check.transparent_outcome r.ignoreCase text)]

/-- When the checks of a rule can be made, there is one outcome for each of them. -/
theorem finds_checks {r : Rule} {text : String} {outcomes : List CheckOutcome}
    (h : (r.runChecks text).value = .ok outcomes) :
    List.Forall₂ (Check.Finds r.ignoreCase text) r.checks outcomes := by
  rw [value_runChecks] at h
  exact forall₂_of_mapM h

end Grading
