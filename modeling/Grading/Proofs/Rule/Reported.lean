import Grading.Proofs.Errors
import Grading.Proofs.Rule.Valid

/-!
# Reported — the failures of reading a rule that are not told of as its defects

Whatever value a rule is read from, reading it ends with a rule, with a defect that is reported as one
of the rule, or with one of a few failures of the means that reading uses: sorting and looking up,
compiling an expression, writing a number.
-/

namespace Grading

/-! ## 1. Keys -/

inductive KeyFailure (unknown : List Data) : RuleDefect → Prop
  | unsortable {a b : Data} (ha : a ∈ unknown) (hb : b ∈ unknown) (hab : a.less? b = none) :
    KeyFailure unknown (.unsortableKeys (a.unorderedText b))
  | tooLong {key : Data} (hkey : key ∈ unknown) (hlong : key.isTooLong = true) :
    KeyFailure unknown .numberTooLong

/-- A pair that cannot be ordered is a pair of the list. -/
theorem Data.unordered?_eq_some {xs : List Data} {a b : Data} (h : unordered? xs = some (a, b)) :
    a ∈ xs ∧ b ∈ xs ∧ a.less? b = none := by
  induction xs with
  | nil => exact nomatch h
  | cons x xs ih =>
    cases xs with
    | nil => exact nomatch h
    | cons y xs =>
      rw [unordered?] at h
      split at h
      · next hnone =>
        obtain ⟨rfl, rfl⟩ := Prod.mk.inj (Option.some.inj h)
        exact ⟨List.mem_cons_of_mem _ List.mem_cons_self, List.mem_cons_self,
          Option.isNone_iff_eq_none.mp hnone⟩
      · obtain ⟨ha, hb, hab⟩ := ih h
        exact ⟨List.mem_cons_of_mem _ ha, List.mem_cons_of_mem _ hb, hab⟩

theorem Data.mem_insertSorted {a x : Data} {sorted : List Data} :
    x ∈ insertSorted a sorted ↔ x = a ∨ x ∈ sorted := by
  induction sorted with
  | nil => simp [insertSorted]
  | cons b r ih =>
    rw [insertSorted]
    split
    · simp
    · simp only [List.mem_cons, ih]
      tauto

theorem Data.mem_foldl_insertSorted {x : Data} {xs sorted : List Data} :
    x ∈ xs.foldl (fun sorted a => insertSorted a sorted) sorted ↔ x ∈ sorted ∨ x ∈ xs := by
  induction xs generalizing sorted with
  | nil => simp
  | cons a xs ih =>
    rw [List.foldl_cons, ih, mem_insertSorted, List.mem_cons]
    tauto

/-- Sorting fails only for two values without order, and neither adds nor loses a value. -/
theorem Data.sort_eq (xs : List Data) :
    (∃ a ∈ xs, ∃ b ∈ xs, sort xs = .error (a, b) ∧ a.less? b = none) ∨
      ∃ sorted, sort xs = .ok sorted ∧ ∀ x, x ∈ sorted ↔ x ∈ xs := by
  unfold sort
  rcases h : unordered? xs with _ | ⟨a, b⟩
  · refine .inr ⟨_, rfl, fun x => ?_⟩
    rw [mem_foldl_insertSorted]
    simp
  · obtain ⟨ha, hb, hab⟩ := unordered?_eq_some h
    exact .inl ⟨a, ha, b, hb, rfl, hab⟩

theorem Data.isTooLongList_iff {xs : List Data} :
    isTooLongList xs = true ↔ ∃ x ∈ xs, x.isTooLong = true := by
  induction xs with
  | nil => simp [isTooLongList]
  | cons x xs ih => simp [isTooLongList, ih]

theorem fails_written {d : Data} {p : RuleDefect → Prop}
    (h : d.isTooLong = true → p .numberTooLong) : Fails (written d) p := by
  unfold written
  split
  · next hlong => exact .error (h hlong)
  · exact .ok _

/-- A check of the keys fails on unknown keys, or while it writes them down. -/
theorem fails_checkKeys (known : List String) (es : List (Data × Data))
    {defect : String → RuleDefect} {p : RuleDefect → Prop} (hdefect : ∀ keys, p (defect keys))
    (hp : ∀ e, KeyFailure (otherKeys known es) e → p e) :
    Fails (checkKeys known es defect) p := by
  unfold checkKeys
  split
  · exact .ok ()
  rcases Data.sort_eq (otherKeys known es) with ⟨a, ha, b, hb, hsort, hab⟩ | ⟨keys, hsort, hkeys⟩
  · rw [hsort]
    exact .error (hp _ (.unsortable ha hb hab))
  · rw [hsort]
    refine (fails_written fun hlong => ?_).bind fun text _ => .error (hdefect text)
    obtain ⟨key, hkey, hlong⟩ := Data.isTooLongList_iff.mp hlong
    exact hp _ (.tooLong ((hkeys key).mp hkey) hlong)

/-! ## 2. Rules -/

def markerData (es : List (Data × Data)) : List Data :=
  ["required", "forbidden"].flatMap fun key => (Data.field es key).asList?.getD []

def stepData (es : List (Data × Data)) : List Data :=
  (Data.field es "diagnostics").asList?.getD []

/-- What goes wrong in reading a rule from a mapping without being reported as a defect of the rule. -/
inductive ReadFailure (es : List (Data × Data)) : RuleDefect → Prop
  | ruleKeys {e : RuleDefect} (h : KeyFailure (otherKeys ruleKeys es) e) : ReadFailure es e
  | markerKeys {e : RuleDefect} {marker : List (Data × Data)} (hmarker : .map marker ∈ markerData es)
      (h : KeyFailure (otherKeys ["any_of", "pattern", "min_count"] marker) e) : ReadFailure es e
  /-- An expression asks for numbers or switches that are out of range. -/
  | expression {marker count : Data} {patterns : List Data} {rule pattern source kind : String}
      {error : Pattern.Error} (hmarker : marker ∈ markerData es)
      (hparts : markerParts rule marker = .ok (.list patterns, count))
      (hpattern : .text pattern ∈ patterns) (hsource : expression? pattern = some source)
      (hcompile : Pattern.compile source.toList = .error error) (hkind : error.kind? = some kind) :
      ReadFailure es (.markerExpression rule pattern error)
  /-- A label holds a list or a mapping. -/
  | label {step : List (Data × Data)} {kind : CheckKind} {part : String}
      (hstep : .map step ∈ stepData es) (hkind : kind = .required ∨ kind = .forbidden)
      (hlabel : labelKind? (Data.field step kind.text) = some part) :
      ReadFailure es (.labelKind part)
  | labelTooLong {step : List (Data × Data)} {kind : CheckKind}
      (hstep : .map step ∈ stepData es) (hkind : kind = .required ∨ kind = .forbidden)
      (hlong : (Data.field step kind.text).isTooLong = true) : ReadFailure es .numberTooLong
  | nameTooLong (hlong : (Data.field es "name").isTooLong = true) : ReadFailure es .numberTooLong

def Known (es : List (Data × Data)) (e : RuleDefect) : Prop :=
  e.isReported = true ∨ ReadFailure es e

theorem fails_markerParts {es : List (Data × Data)} (rule : String) {d : Data}
    (hd : d ∈ markerData es) : Fails (markerParts rule d) (Known es) := by
  unfold markerParts
  split
  · exact .ok _
  · exact .ok _
  · next entries =>
    refine (fails_checkKeys _ entries (fun _ => .inl rfl) fun e he =>
      .inr (.markerKeys hd he)).bind fun _ _ => ?_
    dsimp only
    split
    · exact .ok _
    · exact .ok _
    · exact .error (.inl rfl)
  · exact .error (.inl rfl)

theorem eq_text_of_fullText? {d : Data} {s : String} (h : fullText? d = some s) : d = .text s := by
  unfold fullText? at h
  split at h
  · split at h
    · exact nomatch h
    · rw [Option.some.inj h]
  · exact nomatch h

theorem fails_readPattern {es : List (Data × Data)} {rule : String} {marker count p : Data}
    {patterns : List Data} (hmarker : marker ∈ markerData es)
    (hparts : markerParts rule marker = .ok (.list patterns, count)) (hp : p ∈ patterns) :
    Fails (readPattern rule p) (Known es) := by
  unfold readPattern
  split
  · exact .error (.inl rfl)
  · next pattern hfull =>
    obtain rfl : p = .text pattern := eq_text_of_fullText? hfull
    split
    · exact .ok _
    · next source hsource =>
      split
      · exact .ok _
      · next error hcompile =>
        refine .error ?_
        -- An error of the notation is reported; the others are not.
        cases hkind : error.kind? with
        | none => exact .inl (by simp [RuleDefect.isReported, RuleDefect.kind, hkind])
        | some kind =>
          exact .inr (.expression hmarker hparts hp hsource hcompile hkind)

/-- A marker is read or fails in a known way. -/
theorem fails_readMarker {es : List (Data × Data)} (rule : String) {d : Data}
    (hd : d ∈ markerData es) : Fails (readMarker rule d) (Known es) := by
  unfold readMarker
  refine (fails_markerParts rule hd).bind ?_
  rintro ⟨patterns, count⟩ hparts
  dsimp only
  split
  · next p ps n =>
    split
    · have hpattern : ∀ q ∈ p :: ps, Fails (readPattern rule q) (Known es) :=
        fun q hq => fails_readPattern hd hparts hq
      refine (hpattern p List.mem_cons_self).bind fun first _ => ?_
      exact (Fails.mapM fun q hq => hpattern q (List.mem_cons_of_mem _ hq)).bind
        fun others _ => .ok _
    · exact .error (.inl rfl)
  · exact .error (.inl rfl)
  · exact .error (.inl rfl)

theorem fails_readMarkers {es : List (Data × Data)} (rule : String) {key : String}
    (hkey : key ∈ ["required", "forbidden"]) : Fails (readMarkers rule key es) (Known es) := by
  unfold readMarkers
  split
  · exact .ok _
  · next xs hxs =>
    refine .mapM fun d hd => fails_readMarker rule ?_
    refine List.mem_flatMap.mpr ⟨key, hkey, ?_⟩
    rwa [hxs]
  · exact .error (.inl rfl)

theorem isTooLong_stepLabel (d : Data) : (stepLabel d).isTooLong = d.isTooLong := by
  cases d <;> rfl

theorem fails_readLabel {es step : List (Data × Data)} (rule : String) {kind : CheckKind}
    (markers : List Marker) (hstep : .map step ∈ stepData es)
    (hkind : kind = .required ∨ kind = .forbidden) :
    Fails (readLabel rule kind markers (Data.field step kind.text)) (Known es) := by
  unfold readLabel
  split
  · next part hpart => exact .error (.inr (.label hstep hkind hpart))
  split
  · split
    · exact .ok _
    · exact .error (.inl rfl)
  · refine (fails_written fun hlong => ?_).bind fun _ _ => .error (.inl rfl)
    rw [isTooLong_stepLabel] at hlong
    exact .inr (.labelTooLong hstep hkind hlong)

/-- A step is read or fails in a known way. -/
theorem fails_readStep {es : List (Data × Data)} (rule : String) (required forbidden : List Marker)
    (minLength : Option Int) {d : Data} (hd : d ∈ stepData es) :
    Fails (readStep rule required forbidden minLength d) (Known es) := by
  unfold readStep
  split
  · next step =>
    split
    · split
      · next kind hkinds =>
        have hkind : kind ∈ stepKinds :=
          List.mem_of_mem_filter (hkinds ▸ List.mem_singleton_self kind)
        split
        · exact .error (.inl rfl)
        split
        · split
          · exact .error (.inl rfl)
          · exact .ok _
        · next hlength =>
          have hmarker := markerKind_of_mem hkind hlength
          exact (fails_readLabel rule _ hd hmarker).bind fun _ _ => .ok _
      · exact .error (.inl rfl)
    · exact .error (.inl rfl)
  · exact .error (.inl rfl)

theorem fails_readSteps {es : List (Data × Data)} (rule : String)
    (required forbidden : List Marker) (minLength : Option Int) :
    Fails (readSteps rule required forbidden minLength (Data.field es "diagnostics")) (Known es) := by
  unfold readSteps
  split
  · exact .ok _
  · split
    · next xs hxs =>
      refine .mapM fun d hd => fails_readStep rule required forbidden minLength ?_
      rw [stepData, hxs]
      exact hd
    · exact .error (.inl rfl)

theorem fails_readMinLength {es : List (Data × Data)} (rule : String) (d : Data) :
    Fails (readMinLength rule d) (Known es) := by
  unfold readMinLength
  split
  · exact .ok _
  · split
    · exact .error (.inl rfl)
    · exact .ok _
  · exact .error (.inl rfl)

/-- A rule is read or fails in a known way. -/
theorem fails_readMap (es : List (Data × Data)) : Fails (readRule (.map es)) (Known es) := by
  unfold readRule
  dsimp only
  split
  · next id _ =>
    refine (fails_checkKeys _ es (fun _ => .inl rfl) fun e he => .inr (.ruleKeys he)).bind
      fun _ _ => ?_
    split
    · refine (fails_readMinLength id _).bind fun minLength _ => ?_
      refine (fails_readMarkers id (by decide)).bind fun required _ => ?_
      refine (fails_readMarkers id (by decide)).bind fun forbidden _ => ?_
      refine (fails_readSteps id required forbidden minLength).bind fun diagnostics _ => ?_
      refine Fails.bind ?_ fun name _ => .ok _
      unfold readName
      split
      · exact fails_written fun hlong => .inr (.nameTooLong hlong)
      · exact .ok _
    · exact .error (.inl rfl)
  · exact .error (.inl rfl)

theorem fails_readRule (d : Data) :
    Fails (readRule d) fun e => e.isReported = true ∨ ∃ es, d = .map es ∧ ReadFailure es e := by
  cases d with
  | map es => exact (fails_readMap es).mono fun e he => he.imp_right fun h => ⟨es, rfl, h⟩
  | _ => exact .error (.inl rfl)

/-! ## 3. All values -/

/-- The kinds of the errors that are not reported as defects of a rule. -/
def failureKinds : List String := ["TypeError", "ValueError", "OverflowError", "RuntimeError"]

theorem KeyFailure.kind_mem {unknown : List Data} {e : RuleDefect} (h : KeyFailure unknown e) :
    e.kind ∈ failureKinds := by
  cases h with
  | unsortable => simp [RuleDefect.kind, failureKinds]
  | tooLong => simp [RuleDefect.kind, failureKinds]

/-- The failures that are not reported are of the kinds listed. -/
theorem ReadFailure.kind_mem {es : List (Data × Data)} {e : RuleDefect} (h : ReadFailure es e) :
    e.kind ∈ failureKinds := by
  cases h with
  | ruleKeys h => exact h.kind_mem
  | markerKeys _ h => exact h.kind_mem
  | @expression _ _ _ _ _ _ _ error _ _ _ _ _ hkind =>
    cases error <;> simp_all [RuleDefect.kind, Pattern.Error.kind?, failureKinds]
  | label => simp [RuleDefect.kind, failureKinds]
  | labelTooLong => simp [RuleDefect.kind, failureKinds]
  | nameTooLong => simp [RuleDefect.kind, failureKinds]

/-- Whatever value a rule is read from, what ends the reading is reported as a defect of the rule or
is one of the failures that the value shows. -/
theorem reported_or_failure {d : Data} {e : RuleDefect} (h : readRule d = .error e) :
    e.kind = "RuleLibraryError" ∨
      e.kind ∈ failureKinds ∧ ∃ es, d = .map es ∧ ReadFailure es e := by
  rcases fails_readRule d e h with hreported | ⟨es, hd, hfailure⟩
  · exact .inl (of_decide_eq_true hreported)
  · exact .inr ⟨hfailure.kind_mem, es, hd, hfailure⟩

/-- A label that is a list. -/
theorem reported_or_failure_label :
    let step := [(Data.text "required", Data.list []), (.text "message", .text "m")]
    let es := [(Data.text "id", Data.text "r"), (.text "applies_to", .text "f"),
      (.text "diagnostics", .list [.map step])]
    ReadFailure es (.labelKind "list") := by
  intro step es
  have h : readRule (.map es) = .error (.labelKind "list") := rfl
  rcases reported_or_failure h with hreported | ⟨-, es', hes, hfailure⟩
  · exact absurd hreported (by decide)
  · obtain rfl := Data.map.inj hes
    exact hfailure

/-- Values whose reading ends with an error of another kind: a label that is a list, keys of two kinds,
a number of repetitions that is out of range. -/
theorem unreported_failures :
    let failure := fun es => ((readRule (.map ([(.text "id", .text "r"),
      (.text "applies_to", .text "f")] ++ es))).mapError RuleDefect.kind).map fun _ => ()
    let step := [(Data.text "required", Data.list []), (.text "message", .text "m")]
    failure [(.text "diagnostics", .list [.map step])] = .error "TypeError" ∧
    failure [(.null, .null), (.int 1, .null)] = .error "TypeError" ∧
    failure [(.text "required", .list [.text "regex:a\x7b4294967296\x7d"])] =
      .error "OverflowError" := by
  decide +kernel

end Grading
