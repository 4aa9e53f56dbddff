import Grading.Proofs.Source.Indexed
import Grading.Proofs.Source.Scan
import Mathlib.Data.Nat.Init

/-!
# Jumps — what the loop of the scan passes over at once

Where the loop jumps over a literal or a comment, `codeChars` goes through it character by character
and yields nothing. Every jump leads to a greater index, within the text when it is over a string or a
regular expression, and makes no access outside of the text on its way. The look back for a word makes
none either when it begins in the text.
-/

namespace Grading.Source

open Grading.Text

variable {text : List Char} {i j : Nat} {c : Char} {s t : State}

/-! ## 1. The scan from an index on -/

def State.codeAt (s : State) (text : List Char) (i : Nat) : List (Nat × Char) :=
  codeFrom s (text.take i).reverse i (text.drop i)

theorem codeAt_end (h : text.length ≤ i) : s.codeAt text i = [] := by
  unfold State.codeAt
  rw [List.drop_eq_nil_of_le h]
  rfl

theorem codeAt_eq (hc : text[i]? = some c) :
    s.codeAt text i = codeFrom s (text.take i).reverse i (c :: text.drop (i + 1)) := by
  unfold State.codeAt
  rw [List.drop_eq_getElem?_toList_append (i := i), hc]
  rfl

theorem reverse_take_add_one (hc : text[i]? = some c) :
    (text.take (i + 1)).reverse = c :: (text.take i).reverse := by
  rw [List.take_add_one, hc, List.reverse_append]
  rfl

theorem codeAt_skip (hc : text[i]? = some c)
    (hstep : s.step (text.take i).reverse c text[i + 1]? = (t, false)) :
    s.codeAt text i = t.codeAt text (i + 1) := by
  rw [← List.head?_drop] at hstep
  rw [codeAt_eq hc, codeFrom_skip hstep, State.codeAt, reverse_take_add_one hc]

theorem codeAt_yield (hc : text[i]? = some c)
    (hstep : s.step (text.take i).reverse c text[i + 1]? = (t, true)) :
    s.codeAt text i = (i, c) :: t.codeAt text (i + 1) := by
  rw [← List.head?_drop] at hstep
  rw [codeAt_eq hc, codeFrom_yield hstep, State.codeAt, reverse_take_add_one hc]

/-- States that read the next character alike yield the same. -/
theorem codeAt_congr (hc : text[i]? = some c)
    (hstep : ∀ rev next, s.step rev c next = t.step rev c next) :
    s.codeAt text i = t.codeAt text i := by
  rw [codeAt_eq hc, codeAt_eq hc, codeFrom, codeFrom, hstep]

/-- A character that is passed over whatever it is need not be there. -/
theorem codeAt_pass (hstep : ∀ d, text[i]? = some d →
      s.step (text.take i).reverse d text[i + 1]? = (t, false)) :
    s.codeAt text i = t.codeAt text (i + 1) := by
  cases hd : text[i]? with
  | none =>
    have hend : text.length ≤ i := List.getElem?_eq_none_iff.mp hd
    rw [codeAt_end hend, codeAt_end (by omega)]
  | some d => exact codeAt_skip hd (hstep d hd)

/-- What leaves the state alone and is no code is passed over. -/
theorem codeAt_walk (hij : i ≤ j)
    (hstep : ∀ k d, i ≤ k → k < j → text[k]? = some d →
      ∀ rev, s.step rev d text[k + 1]? = (s, false)) :
    s.codeAt text i = s.codeAt text j := by
  induction j, hij using Nat.le_induction with
  | base => rfl
  | succ j hij ih =>
    rw [ih fun k d hk hkj => hstep k d hk (by omega)]
    exact codeAt_pass fun d hd => hstep j d hij (by omega) hd _

/-- A backslash takes the next character with it, if there is one. -/
theorem codeAt_escape (hc : text[i]? = some '\\')
    (hbackslash : ∀ rev next, s.step rev '\\' next = (t, false))
    (hescaped : ∀ rev d next, t.step rev d next = (s, false)) :
    s.codeAt text i = s.codeAt text (i + 2) := by
  rw [codeAt_skip hc (hbackslash _ _)]
  exact codeAt_pass fun d _ => hescaped _ d _

/-- Induction from the end of a text: of an index in the text, what holds of all later ones is known. -/
theorem towards_end {n : Nat} {P : Nat → Prop} (outside : ∀ j, n ≤ j → P j)
    (inside : ∀ j, j < n → (∀ k, j < k → P k) → P j) (j : Nat) : P j := by
  induction hd : n - j using Nat.strong_induction_on generalizing j with
  | h d ih =>
    by_cases hj : j < n
    · exact inside j hj fun k hk => ih (n - k) (by omega) k rfl
    · exact outside j (by omega)

/-! ## 2. Access -/

theorem exists_char (hi : i < text.length) : ∃ c, text[i]? = some c :=
  ⟨text[i], List.getElem?_eq_getElem hi⟩

theorem charAt_natCast (text : List Char) (i : Nat) : charAt text i = text[i]? := by
  unfold charAt
  rw [if_pos (Int.natCast_nonneg i), Int.toNat_natCast]

theorem charAfter_eq (text : List Char) (i : Nat) : charAfter text i = some text[i + 1]? := by
  unfold charAfter
  by_cases h : i + 1 < text.length
  · rw [if_pos h, charAt_natCast, List.getElem?_eq_getElem h]
    rfl
  · rw [if_neg h, List.getElem?_eq_none (by omega)]

theorem opensInterpolation_eq (text : List Char) (i : Nat) (c : Char) :
    opensInterpolation text i c = some (c = '$' && text[i + 1]? = some '{') := by
  unfold opensInterpolation
  by_cases h : c = '$'
  · rw [if_pos h, charAfter_eq]
    simp [h]
  · rw [if_neg h]
    simp [h]

/-- The search gives the first place the word stands at, counted from the start it was given. -/
theorem findFrom_eq_some {word : List Char} {start : Nat} (h : findFrom word text start = some j) :
    start ≤ j ∧ word <+: text.drop j ∧ ∀ k, start ≤ k → k < j → ¬ word <+: text.drop k := by
  obtain ⟨hj, -, hfirst⟩ := List.find?_range_eq_some.mp h
  simp only [Bool.and_eq_true, decide_eq_true_eq, List.isPrefixOf_iff_prefix] at hj
  refine ⟨hj.1, hj.2, fun k hk hkj hword => ?_⟩
  have hnot := hfirst k hkj
  simp [hk, List.isPrefixOf_iff_prefix.mpr hword] at hnot

theorem findFrom_eq_none {word : List Char} {start : Nat} (h : findFrom word text start = none)
    {k : Nat} (hk : start ≤ k) (hlt : k < text.length) : ¬ word <+: text.drop k := by
  intro hword
  have hnot := List.find?_range_eq_none.mp h k hlt
  simp [hk, List.isPrefixOf_iff_prefix.mpr hword] at hnot

/-! ## 3. Strings -/

/-- A jump from index `j`, where the scan is in state `s`, lands in the text and no earlier, in state `t`.
The scan yields nothing on the way. The index may lie past the end of the text already. -/
def Lands (text : List Char) (s : State) (j : Nat) (t : State) (landing : Option Nat) : Prop :=
  ∃ e, landing = some e ∧ min j text.length ≤ e ∧ e ≤ text.length ∧
    s.codeAt text j = t.codeAt text e

namespace Lands

variable {landing : Option Nat} {e : Nat}

theorem intro (hje : j ≤ e) (he : e ≤ text.length) (hscan : s.codeAt text j = t.codeAt text e) :
    Lands text s j t (some e) :=
  ⟨e, rfl, by omega, he, hscan⟩

theorem past_end (hj : text.length ≤ j) : Lands text s j t (some text.length) := by
  refine ⟨text.length, rfl, by omega, Nat.le_refl _, ?_⟩
  rw [codeAt_end hj, codeAt_end (Nat.le_refl _)]

theorem after {u : State} {k : Nat} (h : Lands text u k t landing) (hjk : j ≤ k)
    (hscan : s.codeAt text j = u.codeAt text k) : Lands text s j t landing := by
  obtain ⟨e, he, hle, hlen, hrest⟩ := h
  exact ⟨e, he, by omega, hlen, hscan.trans hrest⟩

end Lands

/-- The jump over a string ends where the scan leaves the string. -/
theorem quotedEnd_lands (text : List Char) (quote : Char) (ds : List Nat) (p : Preceding) (j : Nat) :
    Lands text ⟨.quoted quote, ds, p⟩ j ⟨.code, ds, .mark quote⟩ (quotedEnd text quote j) := by
  induction j using towards_end (n := text.length) with
  | outside j hj =>
    rw [quotedEnd, if_neg (by omega)]
    exact .past_end hj
  | inside j hj ih =>
    obtain ⟨c, hc⟩ := exists_char hj
    rw [quotedEnd, if_pos hj, charAt_natCast, hc]
    simp only [Option.bind_eq_bind, Option.bind_some]
    by_cases hescape : c = '\\'
    · -- The index may pass the end here, where the string ends all the same.
      subst hescape
      rw [if_pos rfl]
      apply (ih (j + 2) (by omega)).after (by omega)
      exact codeAt_escape (t := ⟨.quotedEscape quote, ds, p⟩) hc (fun _ _ => rfl) fun _ _ _ => rfl
    rw [if_neg hescape]
    by_cases hclose : c = quote
    · rw [if_pos hclose]
      refine .intro (Nat.le_succ j) hj (codeAt_skip hc ?_)
      simp only [State.step]
      rw [if_neg hescape, if_pos hclose, State.afterLiteral]
    rw [if_neg hclose]
    by_cases hline : c = '\n'
    · -- The line feed is not part of the string: it is read again, as code.
      rw [if_pos hline]
      refine .intro (Nat.le_refl j) (by omega) (codeAt_congr hc fun rev next => ?_)
      simp only [State.step]
      rw [if_neg hescape, if_neg hclose, if_pos hline, State.afterLiteral]
    · rw [if_neg hline]
      refine (ih (j + 1) (by omega)).after (Nat.le_succ j) (codeAt_skip hc ?_)
      simp only [State.step]
      rw [if_neg hescape, if_neg hclose, if_neg hline]

theorem skipQuoted_spec {quote : Char} (hquote : text[i]? = some quote) (ds : List Nat)
    (p : Preceding) :
    ∃ e, skipQuoted text i = some e ∧ i < e ∧ e ≤ text.length ∧
      (State.mk (.quoted quote) ds p).codeAt text (i + 1) =
        (State.mk .code ds (.mark quote)).codeAt text e := by
  have hi : i < text.length := (List.getElem?_eq_some_iff.mp hquote).1
  obtain ⟨e, he, hle, hlen, hscan⟩ := quotedEnd_lands text quote ds p (i + 1)
  refine ⟨e, ?_, by omega, hlen, hscan⟩
  rw [skipQuoted, charAt_natCast, hquote]
  exact he

/-! ## 4. Regular expressions -/

/-- The jump over the flags of a regular expression ends where the scan is back in code. -/
theorem flagsEnd_lands (ds : List Nat) (p : Preceding) (hj : j ≤ text.length) :
    Lands text ⟨.regexFlags, ds, p⟩ j ⟨.code, ds, .mark '/'⟩ (flagsEnd text j) := by
  induction j using towards_end (n := text.length) with
  | outside j hend =>
    rw [flagsEnd, if_neg (by omega)]
    exact .intro (Nat.le_refl j) hj (by rw [codeAt_end hend, codeAt_end hend])
  | inside j hlt ih =>
    obtain ⟨c, hc⟩ := exists_char hlt
    rw [flagsEnd, if_pos hlt, charAt_natCast, hc]
    simp only [Option.bind_eq_bind, Option.bind_some]
    by_cases hflag : isWordChar c = true
    · rw [if_pos hflag]
      refine (ih (j + 1) (Nat.lt_succ_self j) hlt).after (Nat.le_succ j) (codeAt_skip hc ?_)
      simp only [State.step]
      rw [if_pos hflag]
    · rw [if_neg hflag]
      refine .intro (Nat.le_refl j) hj (codeAt_congr hc fun rev next => ?_)
      simp only [State.step]
      rw [if_neg hflag, State.afterLiteral]

/-- The jump over a regular expression ends where the scan leaves it: escapes and character
classes are read the same way. -/
theorem regexEnd_lands (text : List Char) (inClass : Bool) (ds : List Nat) (p : Preceding)
    (j : Nat) :
    Lands text ⟨.regex inClass, ds, p⟩ j ⟨.code, ds, .mark '/'⟩ (regexEnd text inClass j) := by
  induction j using towards_end (n := text.length) generalizing inClass with
  | outside j hj =>
    rw [regexEnd, if_neg (by omega)]
    exact .past_end hj
  | inside j hj ih =>
    obtain ⟨c, hc⟩ := exists_char hj
    rw [regexEnd, if_pos hj, charAt_natCast, hc]
    simp only [Option.bind_eq_bind, Option.bind_some]
    by_cases hescape : c = '\\'
    · subst hescape
      rw [if_pos rfl]
      apply (ih (j + 2) (by omega) inClass).after (by omega)
      exact codeAt_escape (t := ⟨.regexEscape inClass, ds, p⟩) hc (fun _ _ => rfl) fun _ _ _ => rfl
    rw [if_neg hescape]
    by_cases hline : c = '\n'
    · rw [if_pos hline]
      refine .intro (Nat.le_refl j) (by omega) (codeAt_congr hc fun rev next => ?_)
      simp only [State.step]
      rw [if_neg hescape, if_pos hline, State.afterLiteral]
    rw [if_neg hline]
    -- Any other character belongs to the expression. It leads on in a class or outside of one, and a
    -- slash outside leads to the flags.
    have hon : ∀ inClass', (∀ rev next, State.step ⟨.regex inClass, ds, p⟩ rev c next =
          (⟨.regex inClass', ds, p⟩, false)) →
        Lands text ⟨.regex inClass, ds, p⟩ j ⟨.code, ds, .mark '/'⟩
          (regexEnd text inClass' (j + 1)) :=
      fun inClass' hstep =>
        (ih (j + 1) (by omega) inClass').after (Nat.le_succ j) (codeAt_skip hc (hstep _ _))
    by_cases hclass : inClass = true
    · rw [if_pos hclass]
      apply hon
      intro rev next
      simp only [State.step]
      rw [if_neg hescape, if_neg hline, if_pos hclass]
    rw [if_neg hclass]
    by_cases hopen : c = '['
    · rw [if_pos hopen]
      apply hon
      intro rev next
      simp only [State.step]
      rw [if_neg hescape, if_neg hline, if_neg hclass, if_pos hopen]
    rw [if_neg hopen]
    by_cases hclose : c = '/'
    · rw [if_pos hclose]
      refine (flagsEnd_lands ds p hj).after (Nat.le_succ j) (codeAt_skip hc ?_)
      simp only [State.step]
      rw [if_neg hescape, if_neg hline, if_neg hclass, if_neg hopen, if_pos hclose]
    · rw [if_neg hclose]
      obtain rfl : inClass = false := Bool.eq_false_iff.mpr hclass
      apply hon
      intro rev next
      simp only [State.step]
      rw [if_neg hescape, if_neg hline, if_neg hclass, if_neg hopen, if_neg hclose]

theorem skipRegex_spec (hi : i < text.length) (ds : List Nat) (p : Preceding) :
    ∃ e, skipRegex text i = some e ∧ i < e ∧ e ≤ text.length ∧
      (State.mk (.regex false) ds p).codeAt text (i + 1) =
        (State.mk .code ds (.mark '/')).codeAt text e := by
  obtain ⟨e, he, hle, hlen, hscan⟩ := regexEnd_lands text false ds p (i + 1)
  exact ⟨e, he, by omega, hlen, hscan⟩

/-! ## 5. Comments -/

theorem prefix_drop_singleton {d : Char} : [d] <+: text.drop i ↔ text[i]? = some d := by
  simp [List.prefix_iff_getElem?]

theorem prefix_drop_pair {d d' : Char} :
    [d, d'] <+: text.drop i ↔ text[i]? = some d ∧ text[i + 1]? = some d' := by
  rw [List.prefix_iff_getElem?]
  constructor
  · intro h
    exact ⟨by simpa using h 0 (by simp), by simpa using h 1 (by simp)⟩
  · rintro ⟨hfirst, hsecond⟩ k hk
    match k with
    | 0 => simpa using hfirst
    | 1 => simpa using hsecond

/-- From the second slash of a line comment on. -/
theorem codeAt_lineComment (hslash : text[i]? = some '/') (ds : List Nat) (p : Preceding) :
    (State.mk .lineComment ds p).codeAt text i =
      match findFrom ['\n'] text (i + 1) with
      | none => []
      | some e => (State.mk .code ds p).codeAt text e := by
  -- The comment goes on up to the first line feed behind its second slash.
  have hwalk : ∀ e, i ≤ e → (∀ k, i + 1 ≤ k → k < e → text[k]? ≠ some '\n') →
      (State.mk .lineComment ds p).codeAt text i = (State.mk .lineComment ds p).codeAt text e := by
    intro e hie hno
    apply codeAt_walk hie
    intro k d hik hke hd rev
    have hline : d ≠ '\n' := by
      rintro rfl
      by_cases hki : k = i
      · subst hki
        exact absurd (hslash.symm.trans hd) (by decide)
      · exact hno k (by omega) hke hd
    simp only [State.step]
    rw [if_neg hline]
  split
  · next hnone =>
    have hi : i < text.length := (List.getElem?_eq_some_iff.mp hslash).1
    rw [hwalk text.length (by omega), codeAt_end (Nat.le_refl _)]
    intro k hik hk hfeed
    exact findFrom_eq_none hnone hik hk (prefix_drop_singleton.mpr hfeed)
  · next e hsome =>
    obtain ⟨hle, hfeed, hfirst⟩ := findFrom_eq_some hsome
    rw [hwalk e (by omega)]
    · -- The line feed is code already.
      apply codeAt_congr (prefix_drop_singleton.mp hfeed)
      exact fun _ _ => rfl
    · intro k hik hke hfeed'
      exact hfirst k hik hke (prefix_drop_singleton.mpr hfeed')

/-- From the star that opens a block comment on. -/
theorem codeAt_blockComment (hstar : text[i]? = some '*') (ds : List Nat) (p : Preceding) :
    (State.mk .blockOpen ds p).codeAt text i =
      match findFrom ['*', '/'] text (i + 1) with
      | none => []
      | some e => (State.mk .code ds p).codeAt text (e + 2) := by
  have hopen : (State.mk .blockOpen ds p).codeAt text i =
      (State.mk .block ds p).codeAt text (i + 1) := codeAt_skip hstar rfl
  -- The comment goes on as long as it is not closed.
  have hwalk : ∀ e, i + 1 ≤ e →
      (∀ k, i + 1 ≤ k → k < e → ¬ (text[k]? = some '*' ∧ text[k + 1]? = some '/')) →
      (State.mk .block ds p).codeAt text (i + 1) = (State.mk .block ds p).codeAt text e := by
    intro e hie hno
    apply codeAt_walk hie
    intro k d hik hke hd rev
    have hend : ¬ (d = '*' ∧ text[k + 1]? = some '/') := by
      rintro ⟨rfl, hnext⟩
      exact hno k hik hke ⟨hd, hnext⟩
    simp only [State.step, Bool.and_eq_true, decide_eq_true_eq]
    rw [if_neg hend]
  rw [hopen]
  split
  · next hnone =>
    have hi : i < text.length := (List.getElem?_eq_some_iff.mp hstar).1
    rw [hwalk text.length (by omega), codeAt_end (Nat.le_refl _)]
    intro k hik hk hclose
    exact findFrom_eq_none hnone hik hk (prefix_drop_pair.mpr hclose)
  · next e hsome =>
    obtain ⟨hle, hclose, hfirst⟩ := findFrom_eq_some hsome
    obtain ⟨hstar', hslash⟩ := prefix_drop_pair.mp hclose
    rw [hwalk e hle fun k hik hke h => hfirst k hik hke (prefix_drop_pair.mpr h)]
    have hend : (State.mk .block ds p).codeAt text e =
        (State.mk .blockClose ds p).codeAt text (e + 1) := by
      apply codeAt_skip hstar'
      simp [State.step, hslash]
    rw [hend, codeAt_skip hslash rfl]

/-! ## 6. Looking back -/

/-- The word before an index of the text, and where it begins. -/
theorem wordStart_spec {n : Nat} (hn : n ≤ text.length) :
    ∃ m ≤ n, wordStart text (n - 1 : Int) = some (m - 1 : Int) ∧
      (text.take n).reverse.dropWhile isIdentChar = (text.take m).reverse ∧
      ((text.take n).reverse.takeWhile isIdentChar).reverse = (text.take n).drop m := by
  induction n with
  | zero =>
    refine ⟨0, Nat.le_refl _, ?_, rfl, rfl⟩
    rw [wordStart, if_neg (by omega)]
  | succ n ih =>
    obtain ⟨c, hc⟩ := exists_char hn
    have hindex : ((n + 1 : Nat) : Int) - 1 = (n : Nat) := by omega
    rw [wordStart, if_pos (by omega), hindex, charAt_natCast, hc, reverse_take_add_one hc]
    simp only [Option.bind_eq_bind, Option.bind_some]
    -- The word goes on to the left as long as there are characters of an identifier.
    by_cases hident : isIdentChar c = true
    · obtain ⟨m, hm, hstart, hdrop, htake⟩ := ih (by omega)
      refine ⟨m, by omega, by rw [if_pos hident, hstart], ?_, ?_⟩
      · rw [List.dropWhile_cons_of_pos hident, hdrop]
      · have hlength : m ≤ (text.take n).length := by
          rw [List.length_take]
          omega
        rw [List.takeWhile_cons_of_pos hident, List.reverse_cons, htake, List.take_add_one, hc,
          List.drop_append_of_le_length hlength]
        rfl
    · refine ⟨n + 1, Nat.le_refl _, by rw [if_neg hident, hindex], ?_, ?_⟩
      · rw [List.dropWhile_cons_of_neg hident, reverse_take_add_one hc]
      · rw [List.takeWhile_cons_of_neg hident, List.drop_eq_nil_of_le (List.length_take_le _ _)]
        rfl

/-- The word read backwards from an index is the word the scan remembers there. -/
theorem wordEndingAt_eq (hc : text[i]? = some c) :
    wordEndingAt text i = some (wordBefore (text.take (i + 1)).reverse) := by
  have hi : i + 1 ≤ text.length := (List.getElem?_eq_some_iff.mp hc).1
  obtain ⟨m, hm, hstart, hdrop, htake⟩ := wordStart_spec hi
  have hindex : ((i + 1 : Nat) : Int) - 1 = (i : Nat) := by omega
  have hstop : ((i : Int) + 1).toNat = i + 1 := by omega
  have hbegin : ((m : Int) - 1 + 1).toNat = m := by omega
  rw [hindex] at hstart
  rw [wordEndingAt, hstart]
  simp only [Option.bind_eq_bind, Option.bind_some]
  rw [hstop, hbegin, wordBefore, hdrop, htake]
  cases m with
  | zero => rfl
  | succ k =>
    -- The character before the word lies in the text too.
    obtain ⟨d, hd⟩ : ∃ d, text[k]? = some d := exists_char (by omega)
    have hbefore : ((k + 1 : Nat) : Int) - 1 = (k : Nat) := by omega
    rw [if_pos (by omega), hbefore, charAt_natCast, hd, reverse_take_add_one hd]
    by_cases hdot : d = '.'
    · simp [hdot]
    · simp [hdot]

end Grading.Source
