import Grading.Source.Scan

/-!
# Scan — what the scan of a text yields

The scan yields characters of the text at their indices, in order. It can be cut before every
character that it yields: what follows is the scan of the remaining text from the state reached
there.
-/

namespace Grading.Source

open Grading.Text

/-! ## 1. One character -/

theorem plain_other (s : State) (rev : List Char) {c : Char} (hopen : c ≠ '{') (hclose : c ≠ '}') :
    s.plain rev c = ({ s with mode := .code, preceding := s.preceding.after rev c }, true) := by
  unfold State.plain
  split
  · exact absurd rfl hopen
  · exact absurd rfl hclose
  · exact absurd rfl hclose
  · rfl

theorem code_plain {s : State} {rev : List Char} {c : Char} {next : Option Char}
    (hquotes : c ≠ '\'' ∧ c ≠ '"' ∧ c ≠ '`' ∧ c ≠ '/') : s.code rev c next = s.plain rev c := by
  obtain ⟨hsingle, hdouble, htick, hslash⟩ := hquotes
  simp [State.code, hsingle, hdouble, htick, hslash]

/-- What the scanner does with one character, whatever interpolations it is inside of: the character
is not code and leaves the interpolations alone, or it opens an interpolation, or it is read as
plain code. -/
inductive Reading where
  | silent (mode : Mode) (preceding : Preceding)
  | opening
  | plain (preceding : Preceding)

def Reading.result (rev : List Char) (c : Char) (interpolations : List Nat) :
    Reading → State × Bool
  | .silent mode preceding => ({ mode, interpolations, preceding }, false)
  | .opening =>
    ({ mode := .code, interpolations := 0 :: interpolations, preceding := .mark '{' }, false)
  | .plain preceding => State.plain { mode := .code, interpolations, preceding } rev c

/-- A step in code reads its character in a way that does not depend on the interpolations
around. -/
theorem code_reading (mode : Mode) (p : Preceding) (rev : List Char) (c : Char)
    (next : Option Char) : ∃ reading : Reading, ∀ ds,
      (State.mk mode ds p).code rev c next = reading.result rev c ds := by
  -- None of the tests looks at the interpolations, so one reading serves them all.
  unfold State.code
  by_cases hline : (c = '/' && next = some '/') = true
  · exact ⟨.silent .lineComment p, fun ds => if_pos hline⟩
  by_cases hblock : (c = '/' && next = some '*') = true
  · refine ⟨.silent .blockOpen p, fun ds => ?_⟩
    rw [if_neg hline, if_pos hblock]
    rfl
  by_cases hregex : (c = '/' && next ≠ some '>' && p.admitsRegex) = true
  · refine ⟨.silent (.regex false) p, fun ds => ?_⟩
    rw [if_neg hline, if_neg hblock, if_pos hregex]
    rfl
  by_cases hquote : (c = '\'' || c = '"') = true
  · refine ⟨.silent (.quoted c) p, fun ds => ?_⟩
    rw [if_neg hline, if_neg hblock, if_neg hregex, if_pos hquote]
    rfl
  by_cases htick : c = '`'
  · refine ⟨.silent .template p, fun ds => ?_⟩
    rw [if_neg hline, if_neg hblock, if_neg hregex, if_neg hquote, if_pos htick]
    rfl
  · refine ⟨.plain p, fun ds => ?_⟩
    rw [if_neg hline, if_neg hblock, if_neg hregex, if_neg hquote, if_neg htick]
    rfl

/-- Every step reads its character in one of a few ways, and which one does not depend on the
interpolations around. -/
theorem step_reading (mode : Mode) (p : Preceding) (rev : List Char) (c : Char)
    (next : Option Char) : ∃ reading : Reading, ∀ ds,
      (State.mk mode ds p).step rev c next = reading.result rev c ds := by
  cases mode with
  | code => exact code_reading .code p rev c next
  | lineComment =>
    -- The line feed that ends the comment is read as code.
    by_cases hend : c = '\n'
    · obtain ⟨reading, hreading⟩ := code_reading .code p rev c next
      exact ⟨reading, fun ds => by
        rw [← hreading ds]
        simp only [State.step, if_pos hend]⟩
    · exact ⟨.silent .lineComment p, fun ds => by
        simp only [State.step, Reading.result, if_neg hend]⟩
  | blockOpen => exact ⟨.silent .block p, fun ds => rfl⟩
  | block =>
    by_cases hend : (c = '*' && next = some '/') = true
    · exact ⟨.silent .blockClose p, fun ds => by
        simp only [State.step, Reading.result, if_pos hend]⟩
    · exact ⟨.silent .block p, fun ds => by
        simp only [State.step, Reading.result, if_neg hend]⟩
  | blockClose => exact ⟨.silent .code p, fun ds => rfl⟩
  | quoted q =>
    by_cases hescape : c = '\\'
    · exact ⟨.silent (.quotedEscape q) p, fun ds => by
        simp only [State.step, Reading.result, if_pos hescape]⟩
    by_cases hclose : c = q
    · exact ⟨.silent .code (.mark q), fun ds => by
        simp only [State.step, Reading.result, if_neg hescape, if_pos hclose, State.afterLiteral]⟩
    -- A string that is not closed ends in front of the line feed, which is read as code.
    by_cases hend : c = '\n'
    · obtain ⟨reading, hreading⟩ := code_reading .code (.mark q) rev c next
      exact ⟨reading, fun ds => by
        rw [← hreading ds]
        simp only [State.step, if_neg hescape, if_neg hclose, if_pos hend, State.afterLiteral]⟩
    · exact ⟨.silent (.quoted q) p, fun ds => by
        simp only [State.step, Reading.result, if_neg hescape, if_neg hclose, if_neg hend]⟩
  | quotedEscape q => exact ⟨.silent (.quoted q) p, fun ds => rfl⟩
  | template =>
    by_cases hescape : c = '\\'
    · exact ⟨.silent .templateEscape p, fun ds => by
        simp only [State.step, Reading.result, if_pos hescape]⟩
    by_cases hclose : c = '`'
    · exact ⟨.silent .code (.mark '`'), fun ds => by
        simp only [State.step, Reading.result, if_neg hescape, if_pos hclose, State.afterLiteral]⟩
    by_cases hopen : (c = '$' && next = some '{') = true
    · exact ⟨.silent .templateOpen p, fun ds => by
        simp only [State.step, Reading.result, if_neg hescape, if_neg hclose, if_pos hopen]⟩
    · exact ⟨.silent .template p, fun ds => by
        simp only [State.step, Reading.result, if_neg hescape, if_neg hclose, if_neg hopen]⟩
  | templateEscape => exact ⟨.silent .template p, fun ds => rfl⟩
  | templateOpen => exact ⟨.opening, fun ds => rfl⟩
  | regex inClass =>
    by_cases hescape : c = '\\'
    · exact ⟨.silent (.regexEscape inClass) p, fun ds => by
        simp only [State.step, Reading.result, if_pos hescape]⟩
    -- So does a regular expression that is not closed.
    by_cases hend : c = '\n'
    · obtain ⟨reading, hreading⟩ := code_reading .code (.mark '/') rev c next
      exact ⟨reading, fun ds => by
        rw [← hreading ds]
        simp only [State.step, if_neg hescape, if_pos hend, State.afterLiteral]⟩
    -- Inside of a class a slash closes nothing.
    by_cases hclass : inClass = true
    · exact ⟨.silent (.regex (c ≠ ']')) p, fun ds => by
        simp only [State.step, Reading.result, if_neg hescape, if_neg hend, if_pos hclass]⟩
    by_cases hopen : c = '['
    · exact ⟨.silent (.regex true) p, fun ds => by
        simp only [State.step, Reading.result, if_neg hescape, if_neg hend, if_neg hclass,
          if_pos hopen]⟩
    by_cases hclose : c = '/'
    · exact ⟨.silent .regexFlags p, fun ds => by
        simp only [State.step, Reading.result, if_neg hescape, if_neg hend, if_neg hclass,
          if_neg hopen, if_pos hclose]⟩
    · exact ⟨.silent (.regex inClass) p, fun ds => by
        simp only [State.step, Reading.result, if_neg hescape, if_neg hend, if_neg hclass,
          if_neg hopen, if_neg hclose]⟩
  | regexEscape inClass => exact ⟨.silent (.regex inClass) p, fun ds => rfl⟩
  | regexFlags =>
    -- The first character that is no flag is read as code.
    by_cases hflag : isWordChar c = true
    · exact ⟨.silent .regexFlags p, fun ds => by
        simp only [State.step, Reading.result, if_pos hflag]⟩
    · obtain ⟨reading, hreading⟩ := code_reading .code (.mark '/') rev c next
      exact ⟨reading, fun ds => by
        rw [← hreading ds]
        simp only [State.step, if_neg hflag, State.afterLiteral]⟩

theorem codeFrom_yield {s t : State} {rev r : List Char} {c : Char}
    (hstep : s.step rev c r.head? = (t, true)) (i : Nat) :
    codeFrom s rev i (c :: r) = (i, c) :: codeFrom t (c :: rev) (i + 1) r := by
  rw [codeFrom, hstep]

theorem codeFrom_skip {s t : State} {rev r : List Char} {c : Char}
    (hstep : s.step rev c r.head? = (t, false)) (i : Nat) :
    codeFrom s rev i (c :: r) = codeFrom t (c :: rev) (i + 1) r := by
  rw [codeFrom, hstep]

/-! ## 2. The indices -/

/-- What is yielded is a character of the text with its own index. -/
theorem mem_codeFrom {s : State} {rev text : List Char} {i j : Nat} {c : Char}
    (hmem : (j, c) ∈ codeFrom s rev i text) : i ≤ j ∧ text[j - i]? = some c := by
  induction text generalizing s rev i with
  | nil => exact nomatch hmem
  | cons d r ih =>
    have hlater : ∀ {t : State}, (j, c) ∈ codeFrom t (d :: rev) (i + 1) r →
        i ≤ j ∧ (d :: r)[j - i]? = some c := fun h => by
      obtain ⟨hle, hget⟩ := ih h
      rw [show j - i = j - (i + 1) + 1 by omega, List.getElem?_cons_succ]
      exact ⟨by omega, hget⟩
    rcases hstep : s.step rev d r.head? with ⟨t, isCode⟩
    cases isCode with
    | true =>
      rw [codeFrom_yield hstep] at hmem
      rcases List.mem_cons.mp hmem with hnow | h
      · obtain ⟨rfl, rfl⟩ := Prod.mk.inj hnow
        exact ⟨Nat.le_refl _, by rw [Nat.sub_self, List.getElem?_cons_zero]⟩
      · exact hlater h
    | false =>
      rw [codeFrom_skip hstep] at hmem
      exact hlater hmem

/-- The indices are yielded in increasing order. -/
theorem codeFrom_pairwise_lt (s : State) (rev text : List Char) (i : Nat) :
    (codeFrom s rev i text).Pairwise (·.1 < ·.1) := by
  induction text generalizing s rev i with
  | nil => exact .nil
  | cons c r ih =>
    rcases hstep : s.step rev c r.head? with ⟨t, isCode⟩
    cases isCode with
    | true =>
      rw [codeFrom_yield hstep]
      exact .cons (fun e he => (mem_codeFrom he).1) (ih t (c :: rev) (i + 1))
    | false =>
      rw [codeFrom_skip hstep]
      exact ih t (c :: rev) (i + 1)

/-! ## 3. Cutting a scan -/

/-- A scan is cut before a character that it yields. -/
theorem codeFrom_cut {s : State} {rev text : List Char} {i j : Nat} {c : Char}
    (hmem : (j, c) ∈ codeFrom s rev i text) :
    ∃ (before : List (Nat × Char)) (pre rest : List Char) (t u : State),
      text = pre ++ c :: rest ∧ j = i + pre.length ∧ (∀ e ∈ before, e.1 < j) ∧
        t.step (pre.reverse ++ rev) c rest.head? = (u, true) ∧
        codeFrom s rev i text = before ++ codeFrom t (pre.reverse ++ rev) j (c :: rest) := by
  -- Induction on the text: the entry is that of the first character, or one behind it.
  induction text generalizing s rev i with
  | nil => exact nomatch hmem
  | cons d r ih =>
    rcases hstep : s.step rev d r.head? with ⟨s', isCode⟩
    cases isCode with
    | true =>
      rw [codeFrom_yield hstep] at hmem ⊢
      rcases List.mem_cons.mp hmem with hnow | hlater
      · obtain ⟨rfl, rfl⟩ := Prod.mk.inj hnow
        exact ⟨[], [], r, s, s', rfl, rfl, nofun, hstep, (codeFrom_yield hstep _).symm⟩
      · obtain ⟨before, pre, rest, t, u, rfl, hj, hbefore, hyield, hscan⟩ := ih hlater
        refine ⟨(i, d) :: before, d :: pre, rest, t, u, rfl, ?_, ?_, ?_, ?_⟩
        · rw [hj, List.length_cons]
          omega
        · intro e he
          rcases List.mem_cons.mp he with rfl | he
          · show i < j
            omega
          · exact hbefore e he
        · rwa [List.reverse_cons, List.append_assoc]
        · rw [hscan, List.reverse_cons, List.append_assoc, List.cons_append]
          rfl
    | false =>
      rw [codeFrom_skip hstep] at hmem ⊢
      obtain ⟨before, pre, rest, t, u, rfl, hj, hbefore, hyield, hscan⟩ := ih hmem
      refine ⟨before, d :: pre, rest, t, u, rfl, ?_, hbefore, ?_, ?_⟩
      · rw [hj, List.length_cons]
        omega
      · rwa [List.reverse_cons, List.append_assoc]
      · rw [hscan, List.reverse_cons, List.append_assoc]
        rfl

theorem codeChars_cut {text : List Char} {j : Nat} {c : Char} (hmem : (j, c) ∈ codeChars text) :
    ∃ (before : List (Nat × Char)) (pre rest : List Char) (t u : State),
      text = pre ++ c :: rest ∧ j = pre.length ∧ (∀ e ∈ before, e.1 < j) ∧
        t.step pre.reverse c rest.head? = (u, true) ∧
        codeChars text = before ++ codeFrom t pre.reverse j (c :: rest) := by
  obtain ⟨before, pre, rest, t, u, htext, hj, hbefore, hyield, hscan⟩ := codeFrom_cut hmem
  rw [List.take_zero, List.reverse_nil, List.append_nil] at hyield hscan
  rw [Nat.zero_add] at hj
  exact ⟨before, pre, rest, t, u, htext, hj, hbefore, hyield, hscan⟩

end Grading.Source
