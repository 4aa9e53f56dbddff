import Grading.Proofs.Rule.Check
import Grading.Proofs.Rule.Validation

/-!
# Widening — ignoring case finds no less

In a text of seven-bit characters plain markers of such characters are found at least as often when
case is ignored. An occurrence that case kept apart from a pattern may overlap one that was counted
and take its place, so that the occurrences counted are not the same; but occurrences that keep apart
still do so, and the count says how many there is room for.
-/

namespace Grading

open Grading.Text

/-! ## 1. Seven-bit characters -/

/-- A text of characters that have a small letter of their own, whatever stands beside them. -/
def IsSevenBit (s : String) : Prop := ∀ c ∈ s.toList, c.toNat < 128

theorem lowerFrom_eq_map (before : List Char) {s : List Char} (h : ∀ c ∈ s, c.toNat < 128) :
    lowerFrom before s = s.map lowerChar := by
  induction s generalizing before with
  | nil => rfl
  | cons c r ih =>
    obtain ⟨hc, hr⟩ := List.forall_mem_cons.mp h
    rw [lowerFrom, if_pos hc, ih _ hr]
    rfl

theorem compared_true {s : String} (h : IsSevenBit s) : compared true s = s.toList.map lowerChar :=
  lowerFrom_eq_map [] h

/-! ## 2. Occurrences -/

/-- Occurrences stay where they are when every character is replaced. -/
theorem OccursAt.map {needle text : List Char} {indices : List Nat}
    (h : OccursAt needle text indices) (f : Char → Char) :
    OccursAt (needle.map f) (text.map f) indices := by
  constructor
  · intro i hi
    obtain ⟨hle, hocc⟩ := h.found i hi
    rw [List.length_map, ← List.map_drop]
    exact ⟨hle, hocc.map f⟩
  · rw [List.length_map]
    exact h.apart

/-- A marker whose alternatives are no expressions and hold seven-bit characters only. -/
structure Marker.IsPlain (m : Marker) : Prop where
  noExpression : ∀ pattern ∈ m.patterns, expression? pattern = none
  sevenBit : ∀ pattern ∈ m.patterns, IsSevenBit pattern

section Count

variable {m : Marker} {text : String} (ignoreCase : Bool)

/-- Ignoring case keeps every choice of occurrences that keep apart. -/
theorem OccursAtLeast.widen {n : Nat} {pattern : String} (hplain : expression? pattern = none)
    (hpattern : IsSevenBit pattern) (htext : IsSevenBit text)
    (h : OccursAtLeast ignoreCase n pattern text) : OccursAtLeast true n pattern text := by
  cases ignoreCase with
  | true => exact h
  | false =>
    unfold OccursAtLeast at h ⊢
    rw [hplain] at h ⊢
    obtain ⟨indices, hocc, hlength⟩ := h
    refine ⟨indices, ?_, hlength⟩
    rw [compared_true hpattern, compared_true htext]
    exact hocc.map lowerChar

/-- Without expressions nothing keeps a marker from being counted. -/
theorem exists_count (hm : m.IsPlain) (text : String) :
    ∃ n, (m.count ignoreCase text).value = .ok n := by
  have hcounts : ∀ p, (countPattern ignoreCase p text).Transparent :=
    fun p => transparent_countPattern ignoreCase p text
  obtain ⟨counts, hvalue⟩ := exists_mapM_eq_ok
    (f := fun p => (countPattern ignoreCase p text).value) (l := m.patterns) fun p hp => by
      rw [value_countPattern, hm.noExpression p hp]
      exact ⟨_, rfl⟩
  rw [← Evaluation.value_mapM hcounts] at hvalue
  exact ⟨_, (Evaluation.value_bind_pure_eq_ok (.mapM hcounts _)).mpr ⟨counts, hvalue, rfl⟩⟩

theorem count_le_count {n n' : Nat} (hm : m.IsPlain) (htext : IsSevenBit text)
    (h : (m.count ignoreCase text).value = .ok n) (h' : (m.count true text).value = .ok n') :
    n ≤ n' := by
  rw [le_count_iff h']
  rcases (le_count_iff h).mp (Nat.le_refl n) with hzero | ⟨pattern, hmem, hoccurs⟩
  · exact .inl hzero
  · have hwide := hoccurs.widen ignoreCase (hm.noExpression pattern hmem)
      (hm.sevenBit pattern hmem) htext
    exact .inr ⟨pattern, hmem, hwide⟩

/-- Ignoring case never lowers a count. -/
theorem exists_counts (hm : m.IsPlain) (htext : IsSevenBit text) :
    ∃ n n', (m.count ignoreCase text).value = .ok n ∧ (m.count true text).value = .ok n' ∧
      n ≤ n' := by
  obtain ⟨n, hn⟩ := exists_count ignoreCase hm text
  obtain ⟨n', hn'⟩ := exists_count true hm text
  exact ⟨n, n', hn, hn', count_le_count ignoreCase hm htext hn hn'⟩

end Count

/-! ## 3. Checks -/

/-- What ignoring case may do to the outcome of a check: more of a marker is found, so that the marker
may come to be there; all else stays as it is. -/
structure CheckOutcome.Widens (o o' : CheckOutcome) : Prop where
  kind : o'.kind = o.kind
  marker : o'.marker = o.marker
  observed : ∀ n, o.observed = some n → ∃ n', o'.observed = some n' ∧ n ≤ n'
  required : o.kind = .required → o.met = true → o'.met = true
  forbidden : o.kind = .forbidden → o.met = false → o'.met = false
  unchanged : o.marker = none → o' = o

theorem CheckOutcome.Widens.refl (o : CheckOutcome) : o.Widens o where
  kind := rfl
  marker := rfl
  observed n h := ⟨n, h, Nat.le_refl n⟩
  required _ h := h
  forbidden _ h := h
  unchanged _ := rfl

/-- Two computations that fail with the same error, or succeed with related values. -/
inductive EndsAlike {ε α : Type} (rel : α → α → Prop) : Except ε α → Except ε α → Prop
  | ok {a b : α} (h : rel a b) : EndsAlike rel (.ok a) (.ok b)
  | error (e : ε) : EndsAlike rel (.error e) (.error e)

theorem EndsAlike.mapM {ε α β : Type} {rel : β → β → Prop} {f g : α → Except ε β} {l : List α}
    (h : ∀ a ∈ l, EndsAlike rel (f a) (g a)) :
    EndsAlike (List.Forall₂ rel) (l.mapM f) (l.mapM g) := by
  induction l with
  | nil => exact .ok .nil
  | cons a l ih =>
    obtain ⟨ha, hl⟩ := List.forall_mem_cons.mp h
    rw [List.mapM_cons, List.mapM_cons]
    generalize f a = x, g a = y at ha
    cases ha with
    | error e => exact .error e
    | ok hab =>
      have hrest := ih hl
      generalize l.mapM f = xs, l.mapM g = ys at hrest
      cases hrest with
      | error e => exact .error e
      | ok hbs => exact .ok (.cons hab hbs)

/-- Ignoring case widens the outcome of every check. -/
theorem widens_outcome {ignoreCase : Bool} {text : String} {c : Check}
    (hc : ∀ m, c.marker? = some m → m.IsPlain) (htext : IsSevenBit text) :
    EndsAlike CheckOutcome.Widens (c.outcome ignoreCase text).value (c.outcome true text).value := by
  -- Only the checks of markers look at case; their counts grow.
  cases c with
  | required m =>
    obtain ⟨n, n', hn, hn', hle⟩ := exists_counts ignoreCase (hc m rfl) htext
    have ho := Check.finds_required_iff.mpr ⟨n, hn, rfl⟩
    have ho' := Check.finds_required_iff.mpr ⟨n', hn', rfl⟩
    rw [Check.Finds] at ho ho'
    rw [ho, ho']
    refine .ok ⟨rfl, rfl, fun k hk => ⟨n', rfl, ?_⟩, fun _ hmet => ?_, nofun, nofun⟩
    · rwa [← Option.some.inj hk]
    · exact decide_eq_true (Nat.le_trans (of_decide_eq_true hmet) hle)
  | forbidden m =>
    obtain ⟨n, n', hn, hn', hle⟩ := exists_counts ignoreCase (hc m rfl) htext
    have ho := Check.finds_forbidden_iff.mpr ⟨n, hn, rfl⟩
    have ho' := Check.finds_forbidden_iff.mpr ⟨n', hn', rfl⟩
    rw [Check.Finds] at ho ho'
    rw [ho, ho']
    refine .ok ⟨rfl, rfl, fun k hk => ⟨n', rfl, ?_⟩, nofun, fun _ hmet => ?_, nofun⟩
    · rwa [← Option.some.inj hk]
    · have hunmet : ¬ n < m.minCount := of_decide_eq_false hmet
      exact decide_eq_false (by omega)
  | minLength b => exact .ok (.refl _)
  | predicate p =>
    unfold Check.outcome
    dsimp only
    cases p text with
    | ok met => exact .ok (.refl _)
    | error f => exact .error _

/-! ## 4. Rules -/

def Rule.ignoringCase (r : Rule) : Rule := { r with ignoreCase := true }

/-- Of a rule with plain markers each marker is found at least as often when case is ignored. A marker
that must be there and was stays so, and so does one that must not be there and was; the outcomes of
the other checks are the same, and a check that cannot be made still fails as it did. -/
theorem ignoreCase_widens {r : Rule} {text : String}
    (hmarkers : ∀ m ∈ r.required ++ r.forbidden, m.IsPlain) (htext : IsSevenBit text) :
    (∀ m ∈ r.required ++ r.forbidden, ∃ n n', (m.count r.ignoreCase text).value = .ok n ∧
        (m.count true text).value = .ok n' ∧ n ≤ n') ∧
      ∀ known, Compiled.Sound known →
        EndsAlike (List.Forall₂ CheckOutcome.Widens) ((r.runChecks text).run.run known).1
          ((r.ignoringCase.runChecks text).run.run known).1 := by
  constructor
  · exact fun m hm => exists_counts r.ignoreCase (hmarkers m hm) htext
  · intro known hknown
    rw [(transparent_runChecks r text).run_eq hknown,
      (transparent_runChecks r.ignoringCase text).run_eq hknown, value_runChecks, value_runChecks]
    apply EndsAlike.mapM
    intro c hc
    refine widens_outcome (fun m hm => ?_) htext
    replace hc := mem_checks.mp hc
    cases c with
    | required m' =>
      obtain rfl := Option.some.inj hm
      exact hmarkers m' (List.mem_append_left _ hc)
    | forbidden m' =>
      obtain rfl := Option.some.inj hm
      exact hmarkers m' (List.mem_append_right _ hc)
    | minLength _ => exact nomatch hm
    | predicate _ => exact nomatch hm

/-- The one occurrence that is counted with case, behind the first two characters, overlaps the first
of the two that are counted without. -/
theorem ignoreCase_widens_overlap :
    let m : Marker := { first := "abab", minCount := 2 }
    let r : Rule := { id := "r", appliesTo := "f", forbidden := [m] }
    m.IsPlain ∧ IsSevenBit "aBababab" ∧
      ∃ o', ((r.ignoringCase.runChecks "aBababab").run.run []).1 = .ok [o'] ∧
        CheckOutcome.Widens
          { kind := .forbidden, met := true, marker := some m, observed := some 1 } o' ∧
        o'.met = false := by
  intro m r
  have hexpression : expression? "abab" = none := by decide
  have hm : m.IsPlain := by
    constructor
    · simpa [m, Marker.patterns] using hexpression
    · simp [m, Marker.patterns, IsSevenBit]
  have htext : IsSevenBit "aBababab" := by simp [IsSevenBit]
  have hmarkers : ∀ m' ∈ r.required ++ r.forbidden, m'.IsPlain := by simpa [r] using hm
  have hwide := (ignoreCase_widens hmarkers htext).2 [] Compiled.sound_nil
  have hwith : ((r.runChecks "aBababab").run.run []).1 = .ok
      [{ kind := .forbidden, met := true, marker := some m, observed := some 1 }] := by
    dsimp only [r, m]
    rfl
  have hwithout : ((r.ignoringCase.runChecks "aBababab").run.run []).1 = .ok
      [{ kind := .forbidden, met := false, marker := some m, observed := some 2 }] := by
    dsimp only [r, m, Rule.ignoringCase]
    rfl
  rw [hwith, hwithout] at hwide
  cases hwide with
  | ok h =>
    cases h with
    | cons h _ => exact ⟨hm, htext, _, hwithout, h, rfl⟩

end Grading
