import Grading.Source.Scan

/-!
# Causal — what comes later never changes what is code

The scan looks one character ahead and no further, and only a slash needs that character to tell
whether it is code itself. So a text that is continued in two ways has the same code in both up to
its last character, whatever the two continuations close or leave open.
-/

namespace Grading.Source

/-! ## 1. One character -/

/-- In code only a slash looks at the next character. -/
theorem code_of_ne_slash (s : State) (rev : List Char) {c : Char} (hc : c ≠ '/')
    (next next' : Option Char) : s.code rev c next = s.code rev c next' := by
  simp [State.code, hc]

/-- The end of a comment and the beginning of an interpolation are told by the next character too, but
neither of the two characters is code. -/
theorem step_snd_of_ne_slash (s : State) (rev : List Char) {c : Char} (hc : c ≠ '/')
    (next next' : Option Char) : (s.step rev c next).2 = (s.step rev c next').2 := by
  have hcode : ∀ t : State, t.code rev c next = t.code rev c next' :=
    fun t => code_of_ne_slash t rev hc next next'
  obtain ⟨mode, ds, p⟩ := s
  cases mode with
  | code | lineComment | quoted | regex | regexFlags => simp only [State.step, hcode]
  | blockOpen | blockClose | quotedEscape | templateEscape | templateOpen | regexEscape => rfl
  | block =>
    simp only [State.step]
    split <;> split <;> rfl
  | template =>
    simp only [State.step]
    split
    · rfl
    split
    · rfl
    split <;> split <;> rfl

/-! ## 2. Whole texts -/

theorem maskFrom_cons (s : State) (rev : List Char) (c : Char) (r : List Char) :
    maskFrom s rev (c :: r) =
      (s.step rev c r.head?).2 :: maskFrom (s.step rev c r.head?).1 (c :: rev) r := rfl

/-- From every state the scan marks what stands before the last character of `a` alike in all
continuations of `a`, and that last character too unless it is a slash. -/
theorem maskFrom_append (s : State) (rev a t t' : List Char) {i : Nat}
    (hi : i + 1 < a.length ∨ i + 1 = a.length ∧ a[i]? ≠ some '/') :
    (maskFrom s rev (a ++ t))[i]? = (maskFrom s rev (a ++ t'))[i]? := by
  induction a generalizing s rev i with
  | nil =>
    rw [List.length_nil] at hi
    omega
  | cons c a ih =>
    rw [List.cons_append, List.cons_append, maskFrom_cons, maskFrom_cons]
    cases a with
    | nil =>
      -- The last character of `a` is followed by different ones.
      obtain rfl : i = 0 := by
        rw [List.length_singleton] at hi
        omega
      have hc : c ≠ '/' := by
        simpa using hi
      have hstep := step_snd_of_ne_slash s rev hc t.head? t'.head?
      simpa using hstep
    | cons d a =>
      have hhead : (d :: a ++ t).head? = (d :: a ++ t').head? := rfl
      rw [hhead]
      cases i with
      | zero => rfl
      | succ i =>
        have hrest : i + 1 < (d :: a).length ∨ i + 1 = (d :: a).length ∧ (d :: a)[i]? ≠ some '/' := by
          simpa using hi
        rw [List.getElem?_cons_succ, List.getElem?_cons_succ]
        exact ih _ _ hrest

/-- The scan is causal: however a text is continued, the same of its characters are code, the last
one excepted when it is a slash. -/
theorem codeMask_causal (s t t' : List Char) (i : Nat)
    (hi : i + 1 < s.length ∨ i + 1 = s.length ∧ s[i]? ≠ some '/') :
    (codeMask (s ++ t))[i]? = (codeMask (s ++ t'))[i]? :=
  maskFrom_append {} [] s t t' hi

/-- A brace in a template within an interpolation, before everything is closed and before the end. -/
theorem codeMask_causal_open :
    let s := "a = `$\x7b f(`\x7d".toList
    (11 + 1 < s.length ∨ 11 + 1 = s.length ∧ s[11]? ≠ some '/') ∧
      (codeMask (s ++ "`) \x7d`; b".toList))[11]? = some false := by
  intro s
  have hi : 11 + 1 < s.length ∨ 11 + 1 = s.length ∧ s[11]? ≠ some '/' := by decide
  have hsame := codeMask_causal s "`) \x7d`; b".toList [] 11 hi
  have hopen : (codeMask (s ++ []))[11]? = some false := by decide
  exact ⟨hi, hsame.trans hopen⟩

/-- A slash at the end does depend on what follows. -/
example : (codeMask "a/".toList)[1]? = some true ∧ (codeMask "a//".toList)[1]? = some false := by
  decide

end Grading.Source
