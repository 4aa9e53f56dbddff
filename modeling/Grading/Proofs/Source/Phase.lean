import Grading.Proofs.Source.Scan

/-!
# Phase — a scan that begins again in the middle of a text

A scan that begins anew at some index of a text knows nothing of what precedes it. What it yields is
code of the whole text when the scan of the whole text is in plain code there, outside of all
interpolations, and both read the next slash alike.
-/

namespace Grading.Source

open Grading.Text

/-! ## 1. The state at an index -/

def stateAfter (s : State) (rev : List Char) : Nat → List Char → State
  | 0, _ => s
  | _ + 1, [] => s
  | n + 1, c :: r => stateAfter (s.step rev c r.head?).1 (c :: rev) n r

def stateAt (text : List Char) (i : Nat) : State := stateAfter {} [] i text

/-- The scan of the first `m + n` characters is the scan of `m` followed by the scan of `n`. -/
theorem stateAfter_add (s : State) (rev text : List Char) (m n : Nat) :
    stateAfter s rev (m + n) text =
      stateAfter (stateAfter s rev m text) ((text.take m).reverse ++ rev) n (text.drop m) := by
  induction text generalizing s rev m with
  | nil => cases m <;> cases n <;> rfl
  | cons c r ih =>
    cases m with
    | zero => rw [Nat.zero_add]; rfl
    | succ m =>
      rw [Nat.add_right_comm, List.take_succ_cons, List.reverse_cons, List.append_assoc]
      exact ih _ (c :: rev) m

/-- The scan of what is left of a text after `n` characters is part of the whole scan. -/
theorem codeFrom_of_drop {s : State} {rev text : List Char} {i n : Nat} {e : Nat × Char}
    (hmem : e ∈ codeFrom (stateAfter s rev n text) ((text.take n).reverse ++ rev) (i + n)
      (text.drop n)) : e ∈ codeFrom s rev i text := by
  induction text generalizing s rev i n with
  | nil =>
    rw [List.drop_nil] at hmem
    exact nomatch hmem
  | cons c r ih =>
    cases n with
    | zero => exact hmem
    | succ n =>
      rw [List.take_succ_cons, List.reverse_cons, List.append_assoc,
        show i + (n + 1) = i + 1 + n by omega] at hmem
      have hlater : e ∈ codeFrom (s.step rev c r.head?).1 (c :: rev) (i + 1) r := ih hmem
      rcases hstep : s.step rev c r.head? with ⟨t, isCode⟩
      rw [hstep] at hlater
      cases isCode with
      | true =>
        rw [codeFrom_yield hstep]
        exact List.mem_cons_of_mem _ hlater
      | false => rwa [codeFrom_skip hstep]

/-! ## 2. The mask -/

/-- The mask is set exactly at the indices the scan yields. -/
theorem maskFrom_eq_true {s : State} {rev text : List Char} {i k : Nat} :
    (maskFrom s rev text)[k]? = some true ↔ ∃ c, (i + k, c) ∈ codeFrom s rev i text := by
  induction text generalizing s rev i k with
  | nil => exact iff_of_false nofun nofun
  | cons d r ih =>
    rcases hstep : s.step rev d r.head? with ⟨t, isCode⟩
    have hmask : maskFrom s rev (d :: r) = isCode :: maskFrom t (d :: rev) r := by
      rw [maskFrom, hstep]
    rw [hmask]
    cases k with
    | zero =>
      rw [List.getElem?_cons_zero]
      cases isCode with
      | true =>
        rw [codeFrom_yield hstep]
        exact iff_of_true rfl ⟨d, List.mem_cons_self⟩
      | false =>
        -- A character that is not code is passed over, and all later ones have greater indices.
        rw [codeFrom_skip hstep]
        refine iff_of_false nofun fun ⟨c, hc⟩ => ?_
        have := (mem_codeFrom hc).1
        omega
    | succ k =>
      rw [List.getElem?_cons_succ, ih (i := i + 1), Nat.add_right_comm i 1 k, Nat.add_assoc]
      cases isCode with
      | true =>
        rw [codeFrom_yield hstep]
        refine exists_congr fun c => ⟨List.mem_cons_of_mem _, fun h => ?_⟩
        rcases List.mem_cons.mp h with heq | h
        · have := congrArg Prod.fst heq
          dsimp only at this
          omega
        · exact h
      | false => rw [codeFrom_skip hstep]

/-- A character is marked if it is code in the state that the scan has reached before it. -/
theorem step_of_maskFrom {s : State} {rev text : List Char} {k : Nat}
    (h : (maskFrom s rev text)[k]? = some true) :
    ∃ c r, text.drop k = c :: r ∧
      ((stateAfter s rev k text).step ((text.take k).reverse ++ rev) c r.head?).2 = true := by
  induction text generalizing s rev k with
  | nil => exact nomatch h
  | cons c r ih =>
    cases k with
    | zero => exact ⟨c, r, rfl, Option.some.inj h⟩
    | succ k =>
      rw [List.take_succ_cons, List.reverse_cons, List.append_assoc]
      exact ih h

/-- The mask marks the indices that the scan yields. -/
theorem codeMask_eq_true {text : List Char} {i : Nat} :
    (codeMask text)[i]? = some true ↔ ∃ c, (i, c) ∈ codeChars text := by
  unfold codeMask
  rw [maskFrom_eq_true (i := 0), Nat.zero_add]
  rfl

/-! ## 3. States that read alike -/

def Mode.isLiteral : Mode → Bool
  | .code | .lineComment | .blockOpen | .block | .blockClose => false
  | _ => true

/-- States from which every text is read alike: they differ in what precedes at most, and not in
what it makes of the next slash. -/
structure State.Agrees (s t : State) : Prop where
  mode : s.mode = t.mode
  interpolations : s.interpolations = t.interpolations
  admits : s.mode.isLiteral = true ∨ s.preceding.admitsRegex = t.preceding.admitsRegex

def Alike (a b : State × Bool) : Prop := a.2 = b.2 ∧ a.1.Agrees b.1

theorem alike_of_literal {mode : Mode} (hmode : mode.isLiteral = true) (ds : List Nat)
    (p q : Preceding) (isCode : Bool) :
    Alike (⟨mode, ds, p⟩, isCode) (⟨mode, ds, q⟩, isCode) :=
  ⟨rfl, rfl, rfl, .inl hmode⟩

theorem alike_of_admits {p q : Preceding} (h : p.admitsRegex = q.admitsRegex) (mode : Mode)
    (ds : List Nat) (isCode : Bool) : Alike (⟨mode, ds, p⟩, isCode) (⟨mode, ds, q⟩, isCode) :=
  ⟨rfl, rfl, rfl, .inr h⟩

/-- A character read as code leads to alike states when the two scans remember words that agree
on regular expressions. -/
theorem alike_plain {p q : Preceding} {rev rev' : List Char} {c : Char}
    (h : (p.after rev c).admitsRegex = (q.after rev' c).admitsRegex) (mode mode' : Mode)
    (ds : List Nat) :
    Alike (State.plain ⟨mode, ds, p⟩ rev c) (State.plain ⟨mode', ds, q⟩ rev' c) := by
  by_cases hopen : c = '{'
  · subst hopen
    cases ds <;> exact alike_of_admits h _ _ _
  by_cases hclose : c = '}'
  · subst hclose
    rcases ds with _ | ⟨_ | d, ds⟩
    · exact alike_of_admits h _ _ _
    -- The end of an interpolation leads back to the text of a template.
    · exact alike_of_literal rfl _ _ _ _
    · exact alike_of_admits h _ _ _
  · rw [plain_other _ rev hopen hclose, plain_other _ rev' hopen hclose]
    exact alike_of_admits h _ _ _

/-- A character in code leads to the same where both states make the same of the next slash, or
where the character is neither blank nor a slash. Of what precedes it only the word that it ends
matters. -/
theorem alike_code {p q : Preceding} {rev rev' : List Char} {c : Char}
    (hword : wordBefore (c :: rev) = wordBefore (c :: rev'))
    (h : p.admitsRegex = q.admitsRegex ∨ c ≠ '/' ∧ isBlank c = false) (mode mode' : Mode)
    (ds : List Nat) (next : Option Char) :
    Alike (State.code ⟨mode, ds, p⟩ rev c next) (State.code ⟨mode', ds, q⟩ rev' c next) := by
  have hslash : c = '/' → p.admitsRegex = q.admitsRegex :=
    fun hc => h.resolve_right fun hother => hother.1 hc
  -- A character that is not blank is itself what precedes the next one.
  have hafter : (p.after rev c).admitsRegex = (q.after rev' c).admitsRegex := by
    unfold Preceding.after
    by_cases hblank : isBlank c = true
    · rw [if_pos hblank, if_pos hblank]
      exact h.resolve_right fun hother => Bool.false_ne_true (hother.2.symm.trans hblank)
    · rw [if_neg hblank, if_neg hblank]
      split
      · exact congrArg regexKeywords.contains hword
      · rfl
  unfold State.code
  dsimp only
  by_cases hline : (c = '/' && next = some '/') = true
  · rw [if_pos hline, if_pos hline]
    exact alike_of_admits (hslash (by simp_all)) _ _ _
  by_cases hblock : (c = '/' && next = some '*') = true
  · rw [if_neg hline, if_neg hline, if_pos hblock, if_pos hblock]
    exact alike_of_admits (hslash (by simp_all)) _ _ _
  rw [if_neg hline, if_neg hline, if_neg hblock, if_neg hblock]
  have hregex : (c = '/' && next ≠ some '>' && p.admitsRegex) =
      (c = '/' && next ≠ some '>' && q.admitsRegex) := by
    by_cases hc : c = '/'
    · rw [hslash hc]
    · simp only [hc, decide_false, Bool.false_and]
  rw [hregex]
  split
  · exact alike_of_literal rfl _ _ _ _
  · split
    · exact alike_of_literal rfl _ _ _ _
    · split
      · exact alike_of_literal rfl _ _ _ _
      · exact alike_plain hafter _ _ _

/-- States that agree read every character alike. -/
theorem alike_step {s t : State} (h : s.Agrees t) {rev rev' : List Char} {c : Char}
    (hword : wordBefore (c :: rev) = wordBefore (c :: rev')) (next : Option Char) :
    Alike (s.step rev c next) (t.step rev' c next) := by
  obtain ⟨mode, ds, p⟩ := s
  obtain ⟨mode', ds', q⟩ := t
  obtain ⟨rfl, rfl, hadmits⟩ := h
  dsimp only at hadmits
  -- Behind a literal both scans remember its last delimiter, whatever they remembered before.
  have hmark : ∀ d : Char, Alike (State.code ⟨.code, ds, .mark d⟩ rev c next)
      (State.code ⟨.code, ds, .mark d⟩ rev' c next) := fun _ => alike_code hword (.inl rfl) _ _ _ _
  cases mode with
  | code => exact alike_code hword (.inl (hadmits.resolve_left nofun)) _ _ _ _
  | lineComment =>
    unfold State.step
    dsimp only
    split
    · exact alike_code hword (.inl (hadmits.resolve_left nofun)) _ _ _ _
    · exact ⟨rfl, rfl, rfl, hadmits⟩
  | blockOpen => exact ⟨rfl, rfl, rfl, hadmits⟩
  | block =>
    unfold State.step
    dsimp only
    split <;> exact ⟨rfl, rfl, rfl, hadmits⟩
  | blockClose => exact ⟨rfl, rfl, rfl, hadmits⟩
  | quoted quote =>
    unfold State.step State.afterLiteral
    dsimp only
    split
    · exact alike_of_literal rfl _ _ _ _
    · split
      · exact alike_of_admits rfl _ _ _
      · split
        · exact hmark quote
        · exact alike_of_literal rfl _ _ _ _
  | quotedEscape quote => exact alike_of_literal rfl _ _ _ _
  | template =>
    unfold State.step State.afterLiteral
    dsimp only
    split
    · exact alike_of_literal rfl _ _ _ _
    · split
      · exact alike_of_admits rfl _ _ _
      · split <;> exact alike_of_literal rfl _ _ _ _
  | templateEscape => exact alike_of_literal rfl _ _ _ _
  | templateOpen => exact alike_of_admits rfl _ _ _
  | regex inClass =>
    unfold State.step State.afterLiteral
    dsimp only
    split
    · exact alike_of_literal rfl _ _ _ _
    · split
      · exact hmark '/'
      · split
        · exact alike_of_literal rfl _ _ _ _
        · split
          · exact alike_of_literal rfl _ _ _ _
          · split <;> exact alike_of_literal rfl _ _ _ _
  | regexEscape inClass => exact alike_of_literal rfl _ _ _ _
  | regexFlags =>
    unfold State.step State.afterLiteral
    dsimp only
    split
    · exact alike_of_literal rfl _ _ _ _
    · exact hmark '/'

/-- Scans that read the next character alike and go on from states that agree yield the same. -/
theorem codeFrom_alike {s t : State} {rev r : List Char} {c : Char}
    (halike : Alike (s.step rev c r.head?) (t.step rev c r.head?)) (i : Nat)
    (hlater : (s.step rev c r.head?).1.Agrees (t.step rev c r.head?).1 →
      codeFrom (s.step rev c r.head?).1 (c :: rev) (i + 1) r =
        codeFrom (t.step rev c r.head?).1 (c :: rev) (i + 1) r) :
    codeFrom s rev i (c :: r) = codeFrom t rev i (c :: r) := by
  have hrest := hlater halike.2
  have hcode := halike.1
  rcases hs : s.step rev c r.head? with ⟨s', isCode⟩
  rcases ht : t.step rev c r.head? with ⟨t', isCode'⟩
  rw [hs, ht] at hrest hcode
  obtain rfl : isCode = isCode' := hcode
  cases isCode with
  | true => rw [codeFrom_yield hs, codeFrom_yield ht, hrest]
  | false => rw [codeFrom_skip hs, codeFrom_skip ht, hrest]

theorem codeFrom_agrees {s t : State} (h : s.Agrees t) (rev text : List Char) (i : Nat) :
    codeFrom s rev i text = codeFrom t rev i text := by
  induction text generalizing s t rev i with
  | nil => rfl
  | cons c r ih => exact codeFrom_alike (alike_step h rfl r.head?) i fun hagrees => ih hagrees _ _

/-! ## 4. Characters that keep a scan in code -/

def busyChars : List Char := ['/', '\'', '"', '`', '{', '}']

/-- A character that, in code, opens no literal and no comment and is no brace. -/
def isCalm (c : Char) : Bool := !busyChars.contains c

theorem isCalm_of {p : Char → Bool} (hp : busyChars.all (fun c => !p c) = true)
    {c : Char} (hc : p c = true) : isCalm c = true := by
  unfold isCalm
  rw [Bool.not_eq_true', List.contains_eq_mem, decide_eq_false_iff_not]
  intro hmem
  have hnot : (!p c) = true := List.all_eq_true.mp hp c hmem
  rw [hc] at hnot
  exact Bool.false_ne_true hnot

theorem isCalm_of_isBlank {c : Char} (hc : isBlank c = true) : isCalm c = true :=
  isCalm_of (by decide) hc

theorem isCalm_of_isIdentChar {c : Char} (hc : isIdentChar c = true) : isCalm c = true :=
  isCalm_of (by decide) hc

/-- A calm character is yielded and changes nothing but what the scan remembers. -/
theorem step_calm {c : Char} (hc : isCalm c = true) {ds : List Nat} {p : Preceding}
    {rev : List Char} {next : Option Char} :
    State.step ⟨.code, ds, p⟩ rev c next = (⟨.code, ds, p.after rev c⟩, true) := by
  have hother : ∀ d ∈ busyChars, c ≠ d := by
    intro d hd hcd
    have hbusy : busyChars.contains d = true := List.contains_iff_mem.mpr hd
    rw [hcd, isCalm, hbusy] at hc
    exact Bool.false_ne_true hc
  have hcode : State.code ⟨.code, ds, p⟩ rev c next = State.plain ⟨.code, ds, p⟩ rev c :=
    code_plain ⟨hother _ (by decide), hother _ (by decide), hother _ (by decide),
      hother _ (by decide)⟩
  exact hcode.trans (plain_other _ rev (hother _ (by decide)) (hother _ (by decide)))

/-- A character that is code leads to plain code. -/
theorem mode_of_yield {s : State} {rev : List Char} {c : Char} {next : Option Char}
    (h : (s.step rev c next).2 = true) : (s.step rev c next).1.mode = .code := by
  obtain ⟨mode, ds, p⟩ := s
  obtain ⟨reading, hreading⟩ := step_reading mode p rev c next
  rw [hreading] at h ⊢
  cases reading with
  | silent => exact nomatch h
  | opening => exact nomatch h
  | plain p' =>
    unfold Reading.result State.plain at h ⊢
    dsimp only at h ⊢
    split at h
    · rfl
    · exact nomatch h
    · rfl
    · rfl

/-- Calm characters leave a scan in code and inside of the same interpolations. -/
theorem stateAfter_calm {s : State} (hs : s.mode = .code) {rev text : List Char} {n : Nat}
    (hcalm : ∀ c ∈ text.take n, isCalm c = true) :
    (stateAfter s rev n text).mode = .code ∧
      (stateAfter s rev n text).interpolations = s.interpolations := by
  induction text generalizing s rev n with
  | nil => cases n <;> exact ⟨hs, rfl⟩
  | cons c r ih =>
    cases n with
    | zero => exact ⟨hs, rfl⟩
    | succ n =>
      obtain ⟨mode, ds, p⟩ := s
      obtain rfl : mode = .code := hs
      rw [List.take_succ_cons] at hcalm
      unfold stateAfter
      rw [step_calm (hcalm c List.mem_cons_self)]
      exact ih rfl fun d hd => hcalm d (List.mem_cons_of_mem _ hd)

/-- From a character that is code on, calm characters leave the scan of a text in plain code. -/
theorem mode_of_calm {text : List Char} {start stop : Nat}
    (hcode : (codeMask text)[start]? = some true) (hlt : start < stop)
    (hcalm : ∀ c ∈ (text.drop start).take (stop - start), isCalm c = true) :
    (stateAt text stop).mode = .code := by
  obtain ⟨c, r, hdrop, hyield⟩ := step_of_maskFrom hcode
  rw [hdrop, show stop - start = stop - (start + 1) + 1 by omega, List.take_succ_cons] at hcalm
  have hc : isCalm c = true := hcalm c List.mem_cons_self
  have hfirst : (stateAt text (start + 1)).mode = .code := by
    unfold stateAt
    rw [stateAfter_add, hdrop, stateAfter, stateAfter]
    exact mode_of_yield hyield
  have hrest : text.drop (start + 1) = r := by
    rw [← List.drop_drop, hdrop, List.drop_one, List.tail_cons]
  have hstop : stateAt text stop =
      stateAfter (stateAt text (start + 1)) ((text.take (start + 1)).reverse ++ [])
        (stop - (start + 1)) r := by
    rw [← hrest]
    unfold stateAt
    rw [← stateAfter_add, show start + 1 + (stop - (start + 1)) = stop by omega]
  rw [hstop]
  exact (stateAfter_calm hfirst fun d hd => hcalm d (List.mem_cons_of_mem _ hd)).1

/-! ## 5. Scans that begin again -/

/-- A new scan of the text from index `i` on is in phase with the scan of the whole text: the latter
is in plain code there, outside of all interpolations, and the next slash is read alike, or no slash
comes next. -/
structure InPhase (text : List Char) (i : Nat) : Prop where
  mode : (stateAt text i).mode = .code
  outside : (stateAt text i).interpolations = []
  slash : (stateAt text i).preceding.admitsRegex = true ∨
    ((text.drop i).dropWhile isBlank).head? ≠ some '/'

/-- A scan that starts anew yields what the running one does, unless the text starts with a slash
that would be a division. -/
theorem codeFrom_restart {p : Preceding} {text : List Char}
    (h : p.admitsRegex = true ∨ (text.dropWhile isBlank).head? ≠ some '/') (rev : List Char)
    (i : Nat) : codeFrom {} rev i text = codeFrom ⟨.code, [], p⟩ rev i text := by
  induction text generalizing rev i with
  | nil => rfl
  | cons c r ih =>
    rcases h with hadmits | hnext
    · have hagrees : State.Agrees {} ⟨.code, [], p⟩ := ⟨rfl, rfl, .inr hadmits.symm⟩
      exact codeFrom_agrees hagrees rev _ i
    -- The induction passes over blanks up to the first character that is none.
    · by_cases hblank : isBlank c = true
      -- A blank is code and leaves what precedes it.
      · have hstep : ∀ q, State.step ⟨.code, [], q⟩ rev c r.head? = (⟨.code, [], q⟩, true) := by
          intro q
          rw [step_calm (isCalm_of_isBlank hblank), Preceding.after, if_pos hblank]
        rw [codeFrom_yield (hstep p), codeFrom_yield (hstep .start)]
        rw [List.dropWhile_cons_of_pos hblank] at hnext
        rw [← ih (.inr hnext)]
      · rw [List.dropWhile_cons_of_neg hblank, List.head?_cons] at hnext
        have hc : c ≠ '/' := fun heq => hnext (congrArg some heq)
        have halike : Alike (State.step {} rev c r.head?) (State.step ⟨.code, [], p⟩ rev c r.head?) :=
          alike_code rfl (.inr ⟨hc, Bool.eq_false_iff.mpr hblank⟩) _ _ _ _
        exact codeFrom_alike halike i fun hagrees => codeFrom_agrees hagrees _ _ _

/-- What a scan in phase yields is code of the whole text. -/
theorem InPhase.mem_codeChars {text : List Char} {i : Nat} (h : InPhase text i) {e : Nat × Char}
    (he : e ∈ codeChars text i) : e ∈ codeChars text := by
  have hstate : stateAt text i = ⟨.code, [], (stateAt text i).preceding⟩ := by
    rcases hs : stateAt text i with ⟨mode, ds, p⟩
    obtain ⟨hmode, houtside, -⟩ := h
    rw [hs] at hmode houtside
    obtain rfl : mode = .code := hmode
    obtain rfl : ds = [] := houtside
    rfl
  have hscan : e ∈ codeFrom (stateAt text i) (text.take i).reverse i (text.drop i) := by
    rw [hstate, ← codeFrom_restart h.slash]
    exact he
  refine codeFrom_of_drop (n := i) ?_
  rwa [List.take_zero, List.reverse_nil, List.append_nil, List.drop_zero, Nat.zero_add]

end Grading.Source
