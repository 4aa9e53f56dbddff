import Grading.Proofs.Source.Delimiters
import Grading.Proofs.Source.Jumps
import Grading.Proofs.Source.Regex

/-!
# Progress — the loop of the scan moves on and stays in the text

Each round of the loop leads to a greater index, so that there are no more rounds than characters. A
word is looked for only behind a character of an identifier that the loop has yielded before, which
keeps all accesses in the text. What the rounds yield is what `codeChars` yields.
-/

namespace Grading.Source

open Grading.Text

variable {text : List Char} {i : Nat} {c : Char}

/-! ## 1. Cursors -/

/-- Index `k` is one at which a character of an identifier has been yielded. -/
def IdentAt (seen : List (Nat × Char)) (k : Int) : Prop :=
  ∃ (i : Nat) (c : Char), k = i ∧ isIdentChar c = true ∧ (i, c) ∈ seen

namespace Cursor

variable {cur : Cursor} {seen : List (Nat × Char)}

def preceding (cur : Cursor) (text : List Char) : Preceding :=
  match cur.previous with
  | none => .start
  | some c =>
    if isIdentChar c then .word (text.take (cur.previousIndex + 1).toNat).reverse else .mark c

def state (cur : Cursor) (text : List Char) : State :=
  ⟨if cur.inTemplate then .template else .code, cur.interpolations, cur.preceding text⟩

/-- The character of an identifier that the cursor remembers has been yielded, at the index that it
remembers. -/
def Recalls (cur : Cursor) (text : List Char) (seen : List (Nat × Char)) : Prop :=
  ∀ c, cur.previous = some c → isIdentChar c = true →
    ∃ k : Nat, cur.previousIndex = k ∧ text[k]? = some c ∧ (k, c) ∈ seen

theorem state_of_code (h : cur.inTemplate = false) :
    cur.state text = ⟨.code, cur.interpolations, cur.preceding text⟩ := by
  rw [state, h]
  rfl

theorem state_of_template (h : cur.inTemplate = true) :
    cur.state text = ⟨.template, cur.interpolations, cur.preceding text⟩ := by
  rw [state, h]
  rfl

theorem preceding_of_mark {q : Char} (h : cur.previous = some q) (hq : isIdentChar q = false) :
    cur.preceding text = .mark q := by
  rw [preceding, h]
  exact if_neg (by rw [hq]; decide)

theorem state_of_mark {q : Char} (hcode : cur.inTemplate = false) (h : cur.previous = some q)
    (hq : isIdentChar q = false) : cur.state text = ⟨.code, cur.interpolations, .mark q⟩ := by
  rw [state_of_code hcode, preceding_of_mark h hq]

theorem recalls_of_mark {q : Char} (h : cur.previous = some q) (hq : isIdentChar q = false) :
    cur.Recalls text seen := by
  intro c hc hident
  obtain rfl : q = c := Option.some.inj (h.symm.trans hc)
  rw [hq] at hident
  exact absurd hident (by decide)

theorem preceding_past (hc : text[cur.index]? = some c) (ds : List Nat) :
    (cur.past c ds).preceding text = (cur.preceding text).after (text.take cur.index).reverse c := by
  unfold preceding past Preceding.after
  by_cases hblank : isBlank c = true
  · simp only [if_pos hblank]
  · simp only [if_neg hblank, ← reverse_take_add_one hc]
    rfl

theorem state_past (hcode : cur.inTemplate = false) (hc : text[cur.index]? = some c)
    (ds : List Nat) :
    (cur.past c ds).state text =
      ⟨.code, ds, (cur.preceding text).after (text.take cur.index).reverse c⟩ := by
  have hcode' : (cur.past c ds).inTemplate = false := hcode
  rw [state_of_code hcode', preceding_past hc]
  rfl

/-- The look-back stays right when the cursor passes a character of code. -/
theorem Recalls.past (h : cur.Recalls text seen) (hc : text[cur.index]? = some c) (ds : List Nat) :
    (cur.past c ds).Recalls text (seen ++ [(cur.index, c)]) := by
  intro d hd hident
  unfold Cursor.past at hd ⊢
  by_cases hblank : isBlank c = true
  · simp only [if_pos hblank] at hd ⊢
    obtain ⟨k, hk, hget, hmem⟩ := h d hd hident
    exact ⟨k, hk, hget, List.mem_append_left _ hmem⟩
  · simp only [if_neg hblank] at hd ⊢
    obtain rfl : c = d := Option.some.inj hd
    exact ⟨cur.index, rfl, hc, by simp⟩

/-- What the look at the text before tells is what the scan remembers. The look goes back from the
character of an identifier that has been yielded. -/
theorem admitsRegex_spec (h : cur.Recalls text seen) :
    ∃ looked : Option Int,
      cur.admitsRegex text = some ((cur.preceding text).admitsRegex, looked) ∧
        ∀ k, looked = some k → IdentAt seen k := by
  unfold admitsRegex preceding
  cases hprevious : cur.previous with
  | none => exact ⟨none, rfl, nofun⟩
  | some c =>
    dsimp only
    by_cases hpreceder : regexPreceders.contains c = true
    · have hident : ¬ isIdentChar c = true := by
        have hc := (mark_of_mem_preceders c (List.contains_iff_mem.mp hpreceder)).2
        rw [hc]
        decide
      rw [if_pos hpreceder, if_neg hident, Preceding.admitsRegex, hpreceder]
      exact ⟨none, rfl, nofun⟩
    rw [if_neg hpreceder]
    by_cases hident : isIdentChar c = true
    · obtain ⟨k, hk, hget, hmem⟩ := h c hprevious hident
      have hstop : ((k : Int) + 1).toNat = k + 1 := by omega
      refine ⟨some k, ?_, fun k' hk' => ⟨k, c, (Option.some.inj hk').symm, hident, hmem⟩⟩
      rw [if_neg (by simp [hident]), if_pos hident, hk, wordEndingAt_eq hget, hstop]
      rfl
    · refine ⟨none, ?_, nofun⟩
      rw [if_pos (by simp [hident]), if_neg hident, Preceding.admitsRegex,
        Bool.eq_false_iff.mpr hpreceder]

theorem opensRegex_spec (h : cur.Recalls text seen) (c : Char) (after : Option Char) :
    ∃ looked : Option Int,
      cur.opensRegex text c after =
          some (c = '/' && after ≠ some '>' && (cur.preceding text).admitsRegex, looked) ∧
        ∀ k, looked = some k → IdentAt seen k := by
  unfold opensRegex
  by_cases hslash : (c = '/' && after ≠ some '>') = true
  · rw [if_pos hslash, hslash, Bool.true_and]
    exact admitsRegex_spec h
  · rw [if_neg hslash, Bool.eq_false_iff.mpr hslash, Bool.false_and]
    exact ⟨none, rfl, nofun⟩

end Cursor

/-! ## 2. Rounds -/

/-- What the scan has still to yield after a round. -/
def Round.rest (r : Round) (text : List Char) : List (Nat × Char) :=
  match r.next with
  | none => []
  | some next => (next.state text).codeAt text next.index

/-- What every round does: it yields what the scan yields and moves on, and looks back from nothing
but a character of an identifier that has been yielded. -/
structure Round.Sound (text : List Char) (seen : List (Nat × Char)) (cur : Cursor) (r : Round) :
    Prop where
  scan : (cur.state text).codeAt text cur.index = r.yielded.toList ++ r.rest text
  moves : ∀ next, r.next = some next → cur.index < next.index
  recalls : ∀ next, r.next = some next → next.Recalls text (seen ++ r.yielded.toList)
  looksBack : ∀ k, r.lookedBack = some k → IdentAt seen k

namespace Round

variable {cur next : Cursor} {seen : List (Nat × Char)} {looked : Option Int}

/-- A round that yields nothing. -/
theorem Sound.silent
    (hscan : (cur.state text).codeAt text cur.index = (next.state text).codeAt text next.index)
    (hmoves : cur.index < next.index) (hrecalls : next.Recalls text seen)
    (hlooked : ∀ k, looked = some k → IdentAt seen k) :
    Sound text seen cur { lookedBack := looked, next := some next } where
  scan := hscan
  moves _ h := Option.some.inj h ▸ hmoves
  recalls _ h := by
    rw [Option.toList_none, List.append_nil]
    exact Option.some.inj h ▸ hrecalls
  looksBack := hlooked

/-- A round at a comment: it goes on behind the end that is found, and ends the loop where none is. -/
theorem Sound.comment {mode : Mode} {found : Option Nat} {behind : Nat → Nat}
    (hcode : cur.inTemplate = false) (hc : text[cur.index]? = some c)
    (hrecalls : cur.Recalls text seen)
    (hopen : State.step ⟨.code, cur.interpolations, cur.preceding text⟩
      (text.take cur.index).reverse c text[cur.index + 1]? =
        (⟨mode, cur.interpolations, cur.preceding text⟩, false))
    (hjump : State.codeAt ⟨mode, cur.interpolations, cur.preceding text⟩ text (cur.index + 1) =
      match found with
      | none => []
      | some e => State.codeAt ⟨.code, cur.interpolations, cur.preceding text⟩ text (behind e))
    (hmoves : ∀ e, found = some e → cur.index < behind e) :
    Sound text seen cur { next := found.map fun e => { cur with index := behind e } } := by
  have hscan := (codeAt_skip hc hopen).trans hjump
  rw [← cur.state_of_code hcode] at hscan
  cases hfound : found with
  | none =>
    rw [hfound] at hscan
    exact { scan := hscan, moves := nofun, recalls := nofun, looksBack := nofun }
  | some e =>
    rw [hfound] at hscan
    exact .silent hscan (hmoves e hfound) hrecalls nofun

/-- A round that yields the character at the cursor. -/
theorem Sound.yielding (hcode : cur.inTemplate = false) (hc : text[cur.index]? = some c)
    (hrecalls : cur.Recalls text seen) {ds : List Nat}
    (hstep : (cur.state text).step (text.take cur.index).reverse c text[cur.index + 1]? =
      (⟨.code, ds, (cur.preceding text).after (text.take cur.index).reverse c⟩, true)) :
    Sound text seen cur { yielded := some (cur.index, c), next := some (cur.past c ds) } where
  scan := by
    rw [← Cursor.state_past hcode hc] at hstep
    exact codeAt_yield hc hstep
  moves _ h := by
    obtain rfl := Option.some.inj h
    exact Nat.lt_succ_self _
  recalls _ h := Option.some.inj h ▸ hrecalls.past hc ds
  looksBack := nofun

/-- The look for a word comes before the round yields. -/
theorem Sound.looking {r : Round} (h : r.Sound text seen cur)
    (hlooked : ∀ k, looked = some k → IdentAt seen k) :
    Sound text seen cur { r with lookedBack := looked } :=
  { h with looksBack := hlooked }

end Round

section

variable {cur : Cursor} {seen : List (Nat × Char)}

/-- A round inside a template is silent: it passes an escape or a character, leaves, or enters an
interpolation. -/
theorem templateRound_sound (htemplate : cur.inTemplate = true) (hc : text[cur.index]? = some c)
    (hrecalls : cur.Recalls text seen) :
    ∃ r, cur.templateRound text c = some r ∧ r.Sound text seen cur := by
  have hstate : cur.state text = ⟨.template, cur.interpolations, cur.preceding text⟩ :=
    Cursor.state_of_template htemplate
  unfold Cursor.templateRound
  dsimp only
  by_cases hescape : c = '\\'
  · subst hescape
    rw [if_pos rfl]
    refine ⟨_, rfl, .silent ?_ (by simp) hrecalls nofun⟩
    show _ = (cur.state text).codeAt text (cur.index + 2)
    rw [hstate]
    exact codeAt_escape (t := ⟨.templateEscape, _, _⟩) hc (fun _ _ => rfl) fun _ _ _ => rfl
  rw [if_neg hescape]
  by_cases hclose : c = '`'
  · rw [if_pos hclose]
    refine ⟨_, rfl, .silent ?_ (by simp) (Cursor.recalls_of_mark rfl (by decide)) nofun⟩
    rw [hstate, codeAt_skip hc (t := ⟨.code, cur.interpolations, .mark '`'⟩)]
    · rfl
    · simp only [State.step]
      rw [if_neg hescape, if_pos hclose, State.afterLiteral]
  rw [if_neg hclose, opensInterpolation_eq]
  simp only [Option.bind_eq_bind, Option.bind_some, Bool.and_eq_true, decide_eq_true_eq]
  by_cases hopen : c = '$' ∧ text[cur.index + 1]? = some '{'
  · rw [if_pos hopen]
    refine ⟨_, rfl, .silent ?_ (by simp) (Cursor.recalls_of_mark rfl (by decide)) nofun⟩
    -- The dollar sign leads to the brace, and the brace into code.
    rw [hstate, codeAt_skip hc (t := ⟨.templateOpen, cur.interpolations, cur.preceding text⟩),
      codeAt_skip hopen.2 (t := ⟨.code, 0 :: cur.interpolations, .mark '{'⟩) rfl]
    · rfl
    · simp only [State.step, Bool.and_eq_true, decide_eq_true_eq]
      rw [if_neg hescape, if_neg hclose, if_pos hopen]
  · rw [if_neg hopen]
    refine ⟨_, rfl, .silent ?_ (by simp) hrecalls nofun⟩
    show _ = (cur.state text).codeAt text (cur.index + 1)
    rw [hstate]
    apply codeAt_skip hc
    simp only [State.step, Bool.and_eq_true, decide_eq_true_eq]
    rw [if_neg hescape, if_neg hclose, if_neg hopen]

/-- A round at a plain character yields it and moves on by one. -/
theorem plainRound_sound (hcode : cur.inTemplate = false) (hc : text[cur.index]? = some c)
    (hrecalls : cur.Recalls text seen)
    (hplain : (cur.state text).step (text.take cur.index).reverse c text[cur.index + 1]? =
      (cur.state text).plain (text.take cur.index).reverse c) :
    (cur.plainRound c).Sound text seen cur := by
  unfold Cursor.plainRound
  dsimp only
  -- In each case but one the character is yielded, and only the interpolations differ.
  have hyields : ∀ ds, (cur.state text).plain (text.take cur.index).reverse c =
      (⟨.code, ds, (cur.preceding text).after (text.take cur.index).reverse c⟩, true) →
      Round.Sound text seen cur { yielded := some (cur.index, c), next := some (cur.past c ds) } :=
    fun ds h => .yielding hcode hc hrecalls (hplain.trans h)
  rw [cur.state_of_code hcode] at hyields
  cases hds : cur.interpolations with
  | nil =>
    apply hyields
    rw [hds]
    rfl
  | cons d ds =>
    dsimp only
    rw [hds] at hyields
    by_cases hopen : c = '{'
    · rw [if_pos hopen]
      apply hyields
      rw [hopen]
      rfl
    rw [if_neg hopen]
    by_cases hclose : c = '}'
    · rw [if_pos hclose]
      cases d with
      | zero =>
        rw [if_pos rfl]
        refine .silent ?_ (by simp) hrecalls nofun
        show _ = State.codeAt ⟨.template, ds, cur.preceding text⟩ text (cur.index + 1)
        apply codeAt_skip hc
        rw [hplain, cur.state_of_code hcode, hds, hclose]
        rfl
      | succ d =>
        rw [if_neg (by simp)]
        apply hyields
        rw [hclose]
        rfl
    · rw [if_neg hclose]
      apply hyields
      exact plain_other _ _ hopen hclose

/-- A round at the start of a literal jumps to its end, and at a plain character it yields. -/
theorem literalRound_sound (hcode : cur.inTemplate = false) (hc : text[cur.index]? = some c)
    (hrecalls : cur.Recalls text seen)
    (hline : ¬ (c = '/' && text[cur.index + 1]? = some '/') = true)
    (hblock : ¬ (c = '/' && text[cur.index + 1]? = some '*') = true) :
    ∃ r, cur.literalRound text c text[cur.index + 1]? = some r ∧ r.Sound text seen cur := by
  have hstate : cur.state text = ⟨.code, cur.interpolations, cur.preceding text⟩ :=
    Cursor.state_of_code hcode
  have hstep : (cur.state text).step (text.take cur.index).reverse c text[cur.index + 1]? =
      (cur.state text).code (text.take cur.index).reverse c text[cur.index + 1]? := by
    rw [hstate]
    rfl
  -- The scan goes through the same tests in the same order; a comment is out of the question by now.
  unfold State.code at hstep
  rw [if_neg hline, if_neg hblock] at hstep
  obtain ⟨looked, hopens, hlooked⟩ := Cursor.opensRegex_spec hrecalls c text[cur.index + 1]?
  have hpreceding : (cur.state text).preceding = cur.preceding text := rfl
  unfold Cursor.literalRound
  dsimp only
  rw [hopens]
  simp only [Option.bind_eq_bind, Option.bind_some, ← hpreceding]
  by_cases hregex : (c = '/' && text[cur.index + 1]? ≠ some '>' &&
      (cur.state text).preceding.admitsRegex) = true
  · rw [if_pos hregex] at hstep ⊢
    have hlt : cur.index < text.length := (List.getElem?_eq_some_iff.mp hc).1
    obtain ⟨e, he, hmoves, -, hskip⟩ := skipRegex_spec hlt cur.interpolations (cur.preceding text)
    rw [he]
    have hnext : ({ cur with index := e, previous := some '/' } : Cursor).state text =
        ⟨.code, cur.interpolations, .mark '/'⟩ := Cursor.state_of_mark hcode rfl (by decide)
    refine ⟨_, rfl, .silent ?_ hmoves (Cursor.recalls_of_mark rfl (by decide)) hlooked⟩
    rw [codeAt_skip hc hstep, hnext]
    exact hskip
  rw [if_neg hregex] at hstep ⊢
  by_cases hquote : (c = '\'' || c = '"') = true
  · rw [if_pos hquote] at hstep ⊢
    have hident : isIdentChar c = false := by
      rw [Bool.or_eq_true, decide_eq_true_eq, decide_eq_true_eq] at hquote
      rcases hquote with rfl | rfl <;> decide
    obtain ⟨e, he, hmoves, -, hskip⟩ := skipQuoted_spec hc cur.interpolations (cur.preceding text)
    rw [he]
    have hnext : ({ cur with index := e, previous := some c } : Cursor).state text =
        ⟨.code, cur.interpolations, .mark c⟩ := Cursor.state_of_mark hcode rfl hident
    refine ⟨_, rfl, .silent ?_ hmoves (Cursor.recalls_of_mark rfl hident) hlooked⟩
    rw [codeAt_skip hc hstep, hnext]
    exact hskip
  rw [if_neg hquote] at hstep ⊢
  by_cases htick : c = '`'
  · rw [if_pos htick] at hstep ⊢
    refine ⟨_, rfl, .silent ?_ (by simp) hrecalls hlooked⟩
    rw [codeAt_skip hc hstep]
    rfl
  · rw [if_neg htick] at hstep ⊢
    exact ⟨_, rfl, (plainRound_sound hcode hc hrecalls hstep).looking hlooked⟩

/-- A round in code is sound, whichever of comment, literal and plain character it meets. -/
theorem codeRound_sound (hcode : cur.inTemplate = false) (hc : text[cur.index]? = some c)
    (hrecalls : cur.Recalls text seen) :
    ∃ r, cur.codeRound text c = some r ∧ r.Sound text seen cur := by
  unfold Cursor.codeRound
  dsimp only
  rw [charAfter_eq]
  simp only [Option.bind_eq_bind, Option.bind_some]
  by_cases hline : (c = '/' && text[cur.index + 1]? = some '/') = true
  · rw [if_pos hline]
    rw [Bool.and_eq_true, decide_eq_true_eq, decide_eq_true_eq] at hline
    obtain ⟨rfl, hnext⟩ := hline
    have hjump := codeAt_lineComment hnext cur.interpolations (cur.preceding text)
    refine ⟨_, rfl, .comment hcode hc hrecalls (by rw [hnext]; rfl) hjump fun e he => ?_⟩
    have hle := (findFrom_eq_some he).1
    omega
  rw [if_neg hline]
  by_cases hblock : (c = '/' && text[cur.index + 1]? = some '*') = true
  · rw [if_pos hblock]
    rw [Bool.and_eq_true, decide_eq_true_eq, decide_eq_true_eq] at hblock
    obtain ⟨rfl, hnext⟩ := hblock
    have hjump := codeAt_blockComment hnext cur.interpolations (cur.preceding text)
    refine ⟨_, rfl, .comment hcode hc hrecalls (by rw [hnext]; rfl) hjump fun e he => ?_⟩
    have hle := (findFrom_eq_some he).1
    omega
  · rw [if_neg hblock]
    exact literalRound_sound hcode hc hrecalls hline hblock

/-- In the text every round is made, and is sound: the step of the loop. -/
theorem round_sound (hlt : cur.index < text.length) (hrecalls : cur.Recalls text seen) :
    ∃ r, cur.round text = some r ∧ r.Sound text seen cur := by
  obtain ⟨c, hc⟩ := exists_char hlt
  unfold Cursor.round
  rw [charAt_natCast, hc]
  simp only [Option.bind_eq_bind, Option.bind_some]
  by_cases htemplate : cur.inTemplate = true
  · rw [if_pos htemplate]
    exact templateRound_sound htemplate hc hrecalls
  · rw [if_neg htemplate]
    exact codeRound_sound (Bool.eq_false_iff.mpr htemplate) hc hrecalls

end

/-! ## 3. The loop -/

/-- What is promised of the rounds that the loop makes from index `i` on, when `seen` has been yielded
before and `left` is what the scan has still to yield. -/
structure Runs (text : List Char) (seen : List (Nat × Char)) (i : Nat) (left : List (Nat × Char))
    (rounds : List (Cursor × Round)) : Prop where
  yields_eq : yields rounds = left
  length_le : rounds.length ≤ text.length - i
  moves : ∀ (here : Cursor) (r : Round), (here, r) ∈ rounds →
    i ≤ here.index ∧ here.index < text.length ∧
      ∀ next, r.next = some next → here.index < next.index
  looksBack : ∀ (before later : List (Cursor × Round)) (here : Cursor) (r : Round),
    rounds = before ++ (here, r) :: later →
      ∀ k, r.lookedBack = some k → IdentAt (seen ++ yields before) k

theorem runs_nil (text : List Char) (seen : List (Nat × Char)) (i : Nat) :
    Runs text seen i [] [] where
  yields_eq := rfl
  length_le := Nat.zero_le _
  moves _ _ h := (List.not_mem_nil h).elim
  looksBack before _ _ _ h := by simp at h

theorem yields_cons (cur : Cursor) (r : Round) (rounds : List (Cursor × Round)) :
    yields ((cur, r) :: rounds) = r.yielded.toList ++ yields rounds := by
  simp only [yields, List.filterMap_cons]
  cases r.yielded <;> rfl

/-- One round in front of those that follow it at greater indices. -/
theorem Runs.cons {seen : List (Nat × Char)} {cur : Cursor} {r : Round} {j : Nat}
    {rounds : List (Cursor × Round)} (hlt : cur.index < text.length) (hr : r.Sound text seen cur)
    (hj : cur.index < j) (h : Runs text (seen ++ r.yielded.toList) j (r.rest text) rounds) :
    Runs text seen cur.index ((cur.state text).codeAt text cur.index) ((cur, r) :: rounds) where
  yields_eq := by rw [yields_cons, hr.scan, h.yields_eq]
  length_le := by
    have hle := h.length_le
    rw [List.length_cons]
    omega
  moves here r' hmem := by
    rcases List.mem_cons.mp hmem with heq | hlater
    · obtain ⟨rfl, rfl⟩ := Prod.mk.inj heq
      exact ⟨Nat.le_refl _, hlt, hr.moves⟩
    · obtain ⟨hle, hin, hon⟩ := h.moves here r' hlater
      exact ⟨by omega, hin, hon⟩
  looksBack before later here r' hsplit k hk := by
    cases before with
    | nil =>
      obtain ⟨heq, -⟩ := List.cons.inj hsplit
      obtain ⟨rfl, rfl⟩ := Prod.mk.inj heq
      show IdentAt (seen ++ []) k
      rw [List.append_nil]
      exact hr.looksBack k hk
    | cons e before =>
      obtain ⟨rfl, hrest⟩ := List.cons.inj hsplit
      rw [yields_cons, ← List.append_assoc]
      exact h.looksBack before later here r' hrest k hk

/-- The loop ends from every cursor that recalls what has been yielded. -/
theorem exists_rounds {seen : List (Nat × Char)} {cur : Cursor} (h : cur.Recalls text seen) :
    ∃ rounds, cur.rounds text = some rounds ∧
      Runs text seen cur.index ((cur.state text).codeAt text cur.index) rounds := by
  -- From the end of the text: a round leads to a greater index, from where the loop is known to end.
  generalize hi : cur.index = i
  induction i using towards_end (n := text.length) generalizing cur seen with
  | outside i hle =>
    subst hi
    refine ⟨[], by rw [Cursor.rounds, if_neg (by omega)], ?_⟩
    rw [codeAt_end hle]
    exact runs_nil text seen _
  | inside i hlt ih =>
    subst hi
    obtain ⟨r, hr, hsound⟩ := round_sound hlt h
    rw [Cursor.rounds, if_pos hlt, hr]
    simp only [Option.bind_eq_bind, Option.bind_some]
    cases hnext : r.next with
    | none =>
      refine ⟨[(cur, r)], rfl, .cons hlt hsound (Nat.lt_succ_self _) ?_⟩
      rw [Round.rest, hnext]
      exact runs_nil text _ _
    | some next =>
      have hmoves := hsound.moves next hnext
      obtain ⟨later, hlater, hruns⟩ := ih next.index hmoves (hsound.recalls next hnext) rfl
      refine ⟨(cur, r) :: later, ?_, .cons hlt hsound hmoves ?_⟩
      · dsimp only
        rw [if_pos hmoves, hlater]
        rfl
      · rw [Round.rest, hnext]
        exact hruns

/-! ## 4. Every scan -/

theorem length_maskFrom (s : State) (rev text : List Char) :
    (maskFrom s rev text).length = text.length := by
  induction text generalizing s rev with
  | nil => rfl
  | cons c r ih => exact congrArg (· + 1) (ih _ _)

/-- From wherever it starts, the loop over a text ends and makes no access outside of the text, whatever
the text is: each round moves on to a greater index, and each look for a word begins at a character of
an identifier that has been yielded before. It yields the code characters, at increasing indices from
the start on, and those of a whole text are what its mask marks. A string or a regular expression is
skipped to a greater index wherever it is taken to open. -/
theorem scan_progresses (text : List Char) (start : Nat) :
    (∃ rounds, indexedScan text start = some rounds ∧
      rounds.length ≤ text.length - start ∧
      yields rounds = codeChars text start ∧
      (∀ cur r, (cur, r) ∈ rounds → start ≤ cur.index ∧ cur.index < text.length ∧
        ∀ next, r.next = some next → cur.index < next.index) ∧
      (∀ before later cur r, rounds = before ++ (cur, r) :: later →
        ∀ k, r.lookedBack = some k → IdentAt (yields before) k)) ∧
    (codeChars text start).Pairwise (·.1 < ·.1) ∧
    (∀ i c, (i, c) ∈ codeChars text start → start ≤ i ∧ i < text.length ∧ text[i]? = some c) ∧
    (codeMask text).length = text.length ∧
    (∀ i, (codeMask text)[i]? = some true ↔ ∃ c, (i, c) ∈ codeChars text) ∧
    (∀ i, i < text.length →
      (∃ j, skipQuoted text i = some j ∧ i < j ∧ j ≤ text.length) ∧
      ∃ j, skipRegex text i = some j ∧ i < j ∧ j ≤ text.length) := by
  have hfresh : Cursor.Recalls { index := start } text [] := nofun
  obtain ⟨rounds, hrounds, hruns⟩ := exists_rounds hfresh
  refine ⟨⟨rounds, hrounds, hruns.length_le, hruns.yields_eq, hruns.moves, ?_⟩, ?_, ?_, ?_, ?_, ?_⟩
  · exact hruns.looksBack
  · exact codeFrom_pairwise_lt _ _ _ _
  · intro i c hmem
    have hc : text[i]? = some c := getElem?_of_mem_codeChars hmem
    exact ⟨(mem_codeFrom hmem).1, (List.getElem?_eq_some_iff.mp hc).1, hc⟩
  · exact length_maskFrom _ _ _
  · exact fun i => codeMask_eq_true
  · intro i hi
    obtain ⟨quote, hquote⟩ := exists_char hi
    obtain ⟨e, he, hlt, hle, -⟩ := skipQuoted_spec hquote [] .start
    obtain ⟨e', he', hlt', hle', -⟩ := skipRegex_spec hi [] .start
    exact ⟨⟨e, he, hlt, hle⟩, e', he', hlt', hle'⟩

/-- A brace that closes nothing, a template and an interpolation that stay open, a string cut off by a
line feed, and a backslash at the end of a character class that stays open. -/
theorem scan_progresses_malformed :
    let text := "\x7d`$\x7b'\nin /[`\\".toList
    ∃ rounds, indexedScan text 0 = some rounds ∧ rounds.length ≤ text.length ∧
      yields rounds = [(0, '\x7d'), (5, '\n'), (6, 'i'), (7, 'n'), (8, ' ')] := by
  intro text
  obtain ⟨rounds, hrounds, hlength, hyields, -⟩ := (scan_progresses text 0).1
  have hcode : codeChars text = [(0, '\x7d'), (5, '\n'), (6, 'i'), (7, 'n'), (8, ' ')] := by
    decide
  exact ⟨rounds, hrounds, hlength, hyields.trans hcode⟩

end Grading.Source
