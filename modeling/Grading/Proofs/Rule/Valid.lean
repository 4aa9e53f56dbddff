import Grading.Rule.Read
import Grading.Proofs.Rule.Answer

/-!
# Valid — what is known of a rule that was read

Whatever value a rule is read from, its expressions compile as the evaluator compiles them and its
diagnostics look at checks that it has.
-/

namespace Grading

/-! ## 1. Lists of computations -/

/-- Each result of a list of computations that all succeed is the result of one of them. -/
theorem exists_of_mem_mapM {ε α β : Type} {f : α → Except ε β} {l : List α} {results : List β}
    (h : l.mapM f = .ok results) : ∀ b ∈ results, ∃ a ∈ l, f a = .ok b := by
  intro b hb
  obtain ⟨a, ha, hab⟩ := exists_of_forall₂ (forall₂_of_mapM h).flip b hb
  exact ⟨a, ha, hab⟩

/-! ## 2. Valid rules -/

def Compiles (ignoreCase : Bool) (pattern : String) : Prop :=
  ∀ source, expression? pattern = some source → ∃ p, compileFor source ignoreCase = .ok p

/-- A step that looks at a check of the rule. -/
def DiagnosticStep.Resolves (s : DiagnosticStep) (required forbidden : List Marker)
    (minLength : Option Int) : Prop :=
  match s.check with
  | .required => ∃ m ∈ required, s.marker = some m.label
  | .forbidden => ∃ m ∈ forbidden, s.marker = some m.label
  | .minLength => minLength.isSome
  | .predicate => False

structure Rule.Valid (r : Rule) : Prop where
  compiles : ∀ m ∈ r.required ++ r.forbidden, ∀ pattern ∈ m.patterns, Compiles r.ignoreCase pattern
  resolves : ∀ s ∈ r.diagnostics, s.Resolves r.required r.forbidden r.minLength
  noPredicate : r.predicate = none

/-! ## 3. Reading -/

theorem compiles_readPattern {rule : String} {d : Data} {pattern : String}
    (h : readPattern rule d = .ok pattern) (ignoreCase : Bool) : Compiles ignoreCase pattern := by
  unfold readPattern at h
  split at h
  · exact nomatch h
  · next p =>
    split at h
    · next hnone =>
      obtain rfl := Except.ok.inj h
      intro source hsource
      exact nomatch hnone.symm.trans hsource
    · next source hsome =>
      split at h
      · next c hcompile =>
        obtain rfl := Except.ok.inj h
        intro source' hsource
        obtain rfl := Option.some.inj (hsome.symm.trans hsource)
        -- What was tried when the pattern was read does not depend on the case being ignored.
        exact ⟨_, by rw [compileFor, hcompile]; rfl⟩
      · exact nomatch h

/-- The patterns of an accepted marker compile. -/
theorem compiles_readMarker {rule : String} {d : Data} {m : Marker}
    (h : readMarker rule d = .ok m) (ignoreCase : Bool) :
    ∀ pattern ∈ m.patterns, Compiles ignoreCase pattern := by
  unfold readMarker at h
  obtain ⟨⟨patterns, count⟩, -, h⟩ := bind_eq_ok.mp h
  dsimp only at h
  split at h
  · split at h
    · obtain ⟨first, hfirst, h⟩ := bind_eq_ok.mp h
      obtain ⟨others, hothers, h⟩ := bind_eq_ok.mp h
      obtain rfl := Except.ok.inj h
      refine List.forall_mem_cons.mpr ⟨compiles_readPattern hfirst ignoreCase, fun p hp => ?_⟩
      obtain ⟨d', -, hd'⟩ := exists_of_mem_mapM hothers p hp
      exact compiles_readPattern hd' ignoreCase
    · exact nomatch h
  · exact nomatch h
  · exact nomatch h

theorem compiles_readMarkers {rule key : String} {es : List (Data × Data)} {ms : List Marker}
    (h : readMarkers rule key es = .ok ms) (ignoreCase : Bool) :
    ∀ m ∈ ms, ∀ pattern ∈ m.patterns, Compiles ignoreCase pattern := by
  unfold readMarkers at h
  split at h
  · obtain rfl := Except.ok.inj h
    exact nofun
  · intro m hm
    obtain ⟨d, -, hd⟩ := exists_of_mem_mapM h m hm
    exact compiles_readMarker hd ignoreCase
  · exact nomatch h

theorem exists_of_contains_label {ms : List Marker} {label : String}
    (h : (ms.map Marker.label).contains label = true) : ∃ m ∈ ms, some label = some m.label := by
  obtain ⟨m, hm, hlabel⟩ := List.mem_map.mp (List.contains_iff_mem.mp h)
  exact ⟨m, hm, congrArg some hlabel.symm⟩

theorem exists_of_readLabel {rule label : String} {kind : CheckKind} {markers : List Marker}
    {d : Data} (h : readLabel rule kind markers d = .ok label) :
    ∃ m ∈ markers, some label = some m.label := by
  unfold readLabel at h
  split at h
  · exact nomatch h
  split at h
  · split at h
    · next hlabel =>
      obtain rfl := Except.ok.inj h
      exact exists_of_contains_label hlabel
    · exact nomatch h
  · obtain ⟨_, -, h⟩ := bind_eq_ok.mp h
    exact nomatch h

/-- A step looks at a length or at markers of one of two kinds. -/
theorem markerKind_of_mem {kind : CheckKind} (h : kind ∈ stepKinds) (hlength : kind ≠ .minLength) :
    kind = .required ∨ kind = .forbidden := by
  have hall : ∀ k ∈ stepKinds, k ≠ .minLength → k = .required ∨ k = .forbidden := by decide
  exact hall kind h hlength

/-- An accepted step points at a check of its rule. -/
theorem resolves_readStep {rule : String} {required forbidden : List Marker}
    {minLength : Option Int} {d : Data} {s : DiagnosticStep}
    (h : readStep rule required forbidden minLength d = .ok s) :
    s.Resolves required forbidden minLength := by
  unfold readStep at h
  split at h
  · split at h
    · split at h
      · next es _ message _ _ kind hkinds =>
        have hkind : kind ∈ stepKinds :=
          List.mem_of_mem_filter (hkinds ▸ List.mem_singleton_self kind)
        split at h
        · exact nomatch h
        split at h
        -- A step on the length needs a rule that has one; a step on a marker needs its label.
        · next hlength =>
          split at h
          · exact nomatch h
          · next hsome =>
            obtain rfl := Except.ok.inj h
            subst hlength
            show minLength.isSome = true
            rwa [Bool.not_eq_true, Option.isNone_eq_false_iff] at hsome
        · next hmarker =>
          obtain ⟨label, hlabel, h⟩ := bind_eq_ok.mp h
          obtain rfl := Except.ok.inj h
          have hexists := exists_of_readLabel hlabel
          rcases markerKind_of_mem hkind hmarker with rfl | rfl
          · exact hexists
          · exact hexists
      · exact nomatch h
    · exact nomatch h
  · exact nomatch h

/-- The steps that are read are those of a list, one by one. -/
theorem exists_of_readSteps {rule : String} {required forbidden : List Marker}
    {minLength : Option Int} {d : Data} {steps : List DiagnosticStep}
    (h : readSteps rule required forbidden minLength d = .ok steps) :
    ∀ s ∈ steps, ∃ step, readStep rule required forbidden minLength step = .ok s := by
  unfold readSteps at h
  split at h
  -- Without the key there are no steps.
  · obtain rfl := Except.ok.inj h
    exact nofun
  · split at h
    · intro s hs
      obtain ⟨step, -, hstep⟩ := exists_of_mem_mapM h s hs
      exact ⟨step, hstep⟩
    · exact nomatch h

structure Rule.ReadFrom (r : Rule) (es : List (Data × Data)) : Prop where
  required : readMarkers r.id "required" es = .ok r.required
  forbidden : readMarkers r.id "forbidden" es = .ok r.forbidden
  diagnostics : readSteps r.id r.required r.forbidden r.minLength (Data.field es "diagnostics") =
    .ok r.diagnostics
  missing : r.missingMessage = Data.field es "missing_message"
  fallback : r.fallbackMessage = Data.field es "fallback_message"
  predicate : r.predicate = none

/-- An accepted rule comes from a map and has the parts it was read from. -/
theorem readFrom_of_readRule {d : Data} {r : Rule} (h : readRule d = .ok r) :
    ∃ es, d = .map es ∧ r.ReadFrom es := by
  unfold readRule at h
  split at h
  · next es =>
    refine ⟨es, rfl, ?_⟩
    split at h
    · obtain ⟨-, -, h⟩ := bind_eq_ok.mp h
      split at h
      · obtain ⟨minLength, -, h⟩ := bind_eq_ok.mp h
        obtain ⟨required, hrequired, h⟩ := bind_eq_ok.mp h
        obtain ⟨forbidden, hforbidden, h⟩ := bind_eq_ok.mp h
        obtain ⟨diagnostics, hsteps, h⟩ := bind_eq_ok.mp h
        obtain ⟨name, -, h⟩ := bind_eq_ok.mp h
        obtain rfl := Except.ok.inj h
        exact ⟨hrequired, hforbidden, hsteps, rfl, rfl, rfl⟩
      · exact nomatch h
    · exact nomatch h
  · exact nomatch h

/-- A rule that is read is valid, whatever it is read from. -/
theorem valid_readRule {d : Data} {r : Rule} (h : readRule d = .ok r) : r.Valid := by
  obtain ⟨es, -, hread⟩ := readFrom_of_readRule h
  have hcompiles : ∀ m ∈ r.required ++ r.forbidden, ∀ pattern ∈ m.patterns,
      Compiles r.ignoreCase pattern := fun m hm =>
    (List.mem_append.mp hm).elim (compiles_readMarkers hread.required r.ignoreCase m)
      (compiles_readMarkers hread.forbidden r.ignoreCase m)
  have hresolves : ∀ s ∈ r.diagnostics, s.Resolves r.required r.forbidden r.minLength := by
    intro s hs
    obtain ⟨step, hstep⟩ := exists_of_readSteps hread.diagnostics s hs
    exact resolves_readStep hstep
  exact ⟨hcompiles, hresolves, hread.predicate⟩

end Grading
