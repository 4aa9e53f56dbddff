import Grading.Proofs.Source.Opaque

/-!
# Regex — regular expressions are passed over where an expression may begin

A slash in code opens a regular expression or divides. The scan tells the two apart by what stands
before the slash, comments and blanks aside. Where an expression may begin it passes over a complete
regular expression as a whole, flags included; everywhere else the slash is code.
-/

namespace Grading.Source

open Grading.Text

/-! ## 1. Regular expressions -/

inductive RegexPart where
  | single (piece : Piece)
  | oneOf (members : List Piece)
  deriving DecidableEq, Repr

def RegexPart.render : RegexPart → List Char
  | .single piece => piece.render
  | .oneOf members => '[' :: (renderText members ++ [']'])

structure Regex where
  parts : List RegexPart
  flags : List Char := []
  deriving DecidableEq, Repr

def Regex.body (e : Regex) : List Char := e.parts.flatMap RegexPart.render

def Regex.render (e : Regex) : List Char := '/' :: (e.body ++ '/' :: e.flags)

/-- Outside of classes a slash ends the expression, inside it does not. -/
def RegexPart.WellFormed : RegexPart → Prop
  | .single (.plain c) => c ∉ ['/', '[', '\\', '\n']
  | .single (.escaped _) => True
  | .oneOf members => ∀ c, .plain c ∈ members → c ∉ [']', '\\', '\n']

/-- The first character must not make the opening slash a comment or the end of an element. -/
structure Regex.WellFormed (e : Regex) : Prop where
  parts : ∀ part ∈ e.parts, part.WellFormed
  first : e.body.head? ∉ [none, some '/', some '*', some '>']
  flags : ∀ c ∈ e.flags, isWordChar c = true

instance : (part : RegexPart) → Decidable part.WellFormed
  | .single (.plain c) => inferInstanceAs (Decidable (c ∉ ['/', '[', '\\', '\n']))
  | .single (.escaped _) => .isTrue trivial
  | .oneOf members => decidableForallPlain members _

-- Here too the instance for the members of a list is named.
instance (e : Regex) : Decidable e.WellFormed :=
  have : Decidable (∀ c ∈ e.flags, isWordChar c = true) := List.decidableBAll _ e.flags
  decidable_of_iff ((∀ part ∈ e.parts, part.WellFormed) ∧
      e.body.head? ∉ [none, some '/', some '*', some '>'] ∧ ∀ c ∈ e.flags, isWordChar c = true)
    ⟨fun h => ⟨h.1, h.2.1, h.2.2⟩, fun h => ⟨h.parts, h.first, h.flags⟩⟩

/-! ## 2. Regular expressions are passed over -/

variable {ds : List Nat} {p : Preceding}

theorem skips_oneOf {members : List Piece} (ds : List Nat) (p : Preceding)
    (hmembers : ∀ c, .plain c ∈ members → c ∉ [']', '\\', '\n']) (r : List Char) :
    Skips ⟨.regex true, ds, p⟩ (renderText members) r ⟨.regex true, ds, p⟩ := by
  apply Skips.text (fun _ _ => rfl) (fun _ _ _ => rfl)
  intro c rest hrest rev
  have hc := hmembers c (hrest.subset List.mem_cons_self)
  simp only [List.mem_cons, List.not_mem_nil, or_false, not_or] at hc
  obtain ⟨hend, hescape, hline⟩ := hc
  simp [State.step, hend, hescape, hline]

/-- One part of a regular expression, be it a character, an escape or a class, is skipped. -/
theorem skips_part {part : RegexPart} (ds : List Nat) (p : Preceding) (hpart : part.WellFormed)
    (r : List Char) : Skips ⟨.regex false, ds, p⟩ part.render r ⟨.regex false, ds, p⟩ := by
  match part with
  | .single (.plain c) =>
    simp only [RegexPart.WellFormed, List.mem_cons, List.not_mem_nil, or_false, not_or] at hpart
    obtain ⟨hend, hopen, hescape, hline⟩ := hpart
    have hstep : ∀ rev next, State.step ⟨.regex false, ds, p⟩ rev c next =
        (⟨.regex false, ds, p⟩, false) := by
      simp [State.step, hend, hopen, hescape, hline]
    exact .cons (fun rev => hstep rev _) (.refl _ _)
  | .single (.escaped c) =>
    have hsecond : Skips ⟨.regexEscape false, ds, p⟩ [c] r ⟨.regex false, ds, p⟩ :=
      .cons (fun _ => rfl) (.refl _ _)
    exact .cons (fun _ => rfl) hsecond
  | .oneOf members =>
    have hclose : Skips ⟨.regex true, ds, p⟩ [']'] r ⟨.regex false, ds, p⟩ :=
      .cons (fun _ => rfl) (.refl _ _)
    have hmembers := skips_oneOf ds p hpart ([']'] ++ r)
    exact .cons (fun _ => rfl) (hmembers.trans hclose)

theorem skips_parts {parts : List RegexPart} (ds : List Nat) (p : Preceding)
    (hparts : ∀ part ∈ parts, part.WellFormed) (r : List Char) :
    Skips ⟨.regex false, ds, p⟩ (parts.flatMap RegexPart.render) r ⟨.regex false, ds, p⟩ := by
  induction parts with
  | nil => exact .refl _ _
  | cons part parts ih =>
    have hfirst := skips_part ds p (hparts part List.mem_cons_self)
      (parts.flatMap RegexPart.render ++ r)
    have hrest := ih fun part' hpart' => hparts part' (List.mem_cons_of_mem _ hpart')
    rw [List.flatMap_cons]
    exact hfirst.trans hrest

theorem skips_flags {flags : List Char} (ds : List Nat) (p : Preceding)
    (hflags : ∀ c ∈ flags, isWordChar c = true) (r : List Char) :
    Skips ⟨.regexFlags, ds, p⟩ flags r ⟨.regexFlags, ds, p⟩ := by
  induction flags with
  | nil => exact .refl _ _
  | cons c flags ih =>
    have hc : isWordChar c = true := hflags c List.mem_cons_self
    have hrest := ih fun d hd => hflags d (List.mem_cons_of_mem _ hd)
    exact .cons (fun rev => by simp only [State.step, hc, ↓reduceIte]) hrest

theorem head?_render (e : Regex) (he : e.WellFormed) (s : List Char) :
    ∃ d, (e.body ++ '/' :: e.flags ++ s).head? = some d ∧ d ≠ '/' ∧ d ≠ '*' ∧ d ≠ '>' := by
  have hfirst := he.first
  cases hbody : e.body with
  | nil => simp [hbody] at hfirst
  | cons d body =>
    rw [hbody] at hfirst
    exact ⟨d, rfl, by simpa using hfirst⟩

/-- A slash that is taken for an opening one leads past the expression and its flags. -/
theorem skips_regex {e : Regex} (ds : List Nat) (he : e.WellFormed) (hp : p.admitsRegex = true)
    (r : List Char) : Skips ⟨.code, ds, p⟩ e.render r ⟨.regexFlags, ds, p⟩ := by
  obtain ⟨d, hnext, hline, hblock, helement⟩ := head?_render e he r
  have hopen : ∀ rev, State.step ⟨.code, ds, p⟩ rev '/' (e.body ++ '/' :: e.flags ++ r).head? =
      (⟨.regex false, ds, p⟩, false) := by
    intro rev
    rw [hnext]
    simp [State.step, State.code, hline, hblock, helement, hp]
  have hflags := skips_flags ds p he.flags r
  have hclose : Skips ⟨.regex false, ds, p⟩ ('/' :: e.flags) r ⟨.regexFlags, ds, p⟩ :=
    .cons (fun _ => rfl) hflags
  have hparts := skips_parts ds p he.parts ('/' :: e.flags ++ r)
  exact .cons hopen (hparts.trans hclose)

/-- Behind the flags the scan is in code again. -/
theorem codeFrom_regexFlags {s : List Char} (hs : ∀ c, s.head? = some c → isWordChar c = false)
    (rev : List Char) (i : Nat) :
    codeFrom ⟨.regexFlags, ds, p⟩ rev i s = codeFrom ⟨.code, ds, .mark '/'⟩ rev i s := by
  cases s with
  | nil => rfl
  | cons c r =>
    have hc : isWordChar c = false := hs c rfl
    have hstep : State.step ⟨.regexFlags, ds, p⟩ rev c r.head? =
        State.step ⟨.code, ds, .mark '/'⟩ rev c r.head? := by
      simp only [State.step, hc, Bool.false_eq_true, ↓reduceIte, State.afterLiteral]
    rw [codeFrom, codeFrom, hstep]

/-- A slash that is taken for a division is code. -/
theorem mem_codeFrom_division {e : Regex} (he : e.WellFormed) (hp : p.admitsRegex = false)
    (rev : List Char) (i : Nat) (s : List Char) :
    (i, '/') ∈ codeFrom ⟨.code, ds, p⟩ rev i (e.render ++ s) := by
  obtain ⟨d, hnext, hline, hblock, -⟩ := head?_render e he s
  have hplain : State.step ⟨.code, ds, p⟩ rev '/' (e.body ++ '/' :: e.flags ++ s).head? =
      State.plain ⟨.code, ds, p⟩ rev '/' := by
    rw [hnext]
    simp [State.step, State.code, hline, hblock, hp]
  have hyield := hplain.trans (plain_other _ rev (by decide) (by decide))
  have hscan := codeFrom_yield hyield i
  rw [Regex.render, List.cons_append, hscan]
  exact List.mem_cons_self

/-! ## 3. What the scan remembers of the text before -/

/-- What is known of a state that a scan has reached, and of the character that comes next. -/
def State.Expects (s : State) (next : Option Char) : Prop :=
  match s.mode with
  | .blockOpen => next = some '*'
  | .blockClose => next = some '/'
  | .templateOpen => next = some '{'
  | .quoted quote | .quotedEscape quote => quote = '\'' ∨ quote = '"'
  | _ => True

theorem expects_code (s : State) (rev : List Char) (c : Char) (next : Option Char) :
    (s.code rev c next).1.Expects next := by
  unfold State.code
  split
  · trivial
  split
  · next h =>
    simp only [Bool.and_eq_true, decide_eq_true_eq] at h
    exact h.2
  split
  · trivial
  split
  · next h => simpa [State.Expects] using h
  split
  · trivial
  · unfold State.plain
    split <;> trivial

/-- What the scan expects of the next character stays true from step to step. -/
theorem State.Expects.step {s : State} {c : Char} (h : s.Expects (some c)) (rev : List Char)
    (next : Option Char) : (s.step rev c next).1.Expects next := by
  obtain ⟨mode, ds, p⟩ := s
  -- What is read as code expects only what the literal that it opens does.
  have hcode : ∀ t : State, (t.code rev c next).1.Expects next :=
    fun t => expects_code t rev c next
  cases mode with
  | code => exact hcode _
  | lineComment =>
    simp only [State.step]
    split
    · exact hcode _
    · trivial
  | blockOpen | blockClose | templateEscape | templateOpen | regexEscape => trivial
  | block =>
    simp only [State.step]
    split
    · next hclose =>
      simp only [Bool.and_eq_true, decide_eq_true_eq] at hclose
      exact hclose.2
    · trivial
  | quoted quote =>
    simp only [State.step]
    split
    · exact h
    split
    · trivial
    split
    · exact hcode _
    · exact h
  | quotedEscape quote => exact h
  | template =>
    simp only [State.step]
    split
    · trivial
    split
    · trivial
    split
    · next hopen =>
      simp only [Bool.and_eq_true, decide_eq_true_eq] at hopen
      exact hopen.2
    · trivial
  | regex inClass =>
    simp only [State.step]
    split
    · trivial
    split
    · exact hcode _
    split
    · trivial
    split
    · trivial
    split <;> trivial
  | regexFlags =>
    simp only [State.step]
    split
    · trivial
    · exact hcode _

theorem expects_stateAfter {s : State} {text : List Char} (h : s.Expects text.head?)
    (rev : List Char) (n : Nat) : (stateAfter s rev n text).Expects (text.drop n).head? := by
  induction text generalizing s rev n with
  | nil =>
    rw [List.drop_nil]
    cases n <;> exact h
  | cons c r ih =>
    cases n with
    | zero => exact h
    | succ n => exact ih (h.step rev r.head?) (c :: rev) n

def literalEnds : List Char := ['/', '\'', '"', '`']

/-- Whether a character that ends in code tells what comes before a slash: it is neither blank nor
the end of a literal. -/
def isTelling (c : Char) : Bool := !isBlank c && !literalEnds.contains c

/-- A scan that is in code behind a telling character remembers that character. -/
theorem preceding_of_step {s : State} {c : Char} (hs : s.Expects (some c)) (hc : isTelling c = true)
    {rev : List Char} {next : Option Char} (hmode : (s.step rev c next).1.mode = .code) :
    (s.step rev c next).1.preceding = if isIdentChar c then .word (c :: rev) else .mark c := by
  have hblank : isBlank c = false := by
    simp only [isTelling, Bool.and_eq_true, Bool.not_eq_true'] at hc
    exact hc.1
  have hline : c ≠ '\n' := by
    rintro rfl
    exact absurd hblank (by decide)
  obtain ⟨hslash, hsingle, hdouble, htick⟩ : c ≠ '/' ∧ c ≠ '\'' ∧ c ≠ '"' ∧ c ≠ '`' := by
    simpa [isTelling, hblank, literalEnds] using hc
  -- Read as code the character is no delimiter, so it is recorded.
  have hcode : ∀ t : State, (t.code rev c next).1.mode = .code →
      (t.code rev c next).1.preceding = if isIdentChar c then .word (c :: rev) else .mark c := by
    intro t ht
    rw [code_plain ⟨hsingle, hdouble, htick, hslash⟩] at ht ⊢
    have hafter : t.preceding.after rev c = if isIdentChar c then .word (c :: rev) else .mark c := by
      simp [Preceding.after, hblank]
    rw [← hafter]
    unfold State.plain at ht ⊢
    split at ht
    · rfl
    · cases ht
    · rfl
    · rfl
  obtain ⟨mode, ds, p⟩ := s
  cases mode with
  | code => exact hcode _ hmode
  | lineComment => simp [State.step, hline] at hmode
  | blockOpen => cases hmode
  | block =>
    simp only [State.step] at hmode
    split at hmode <;> cases hmode
  | blockClose => exact absurd (Option.some.inj hs) hslash
  | quoted quote =>
    have hquote : c ≠ quote := by
      rcases hs with rfl | rfl
      · exact hsingle
      · exact hdouble
    simp only [State.step, hquote, hline, ↓reduceIte] at hmode
    split at hmode <;> cases hmode
  | quotedEscape quote => cases hmode
  | template =>
    simp only [State.step, htick, ↓reduceIte] at hmode
    split at hmode
    · cases hmode
    split at hmode <;> cases hmode
  | templateEscape => cases hmode
  | templateOpen =>
    -- The brace that opens an interpolation is no code, but it is what precedes.
    obtain rfl : c = '{' := Option.some.inj hs
    rfl
  | regex inClass =>
    simp only [State.step, hline, hslash, ↓reduceIte] at hmode
    split at hmode
    · cases hmode
    split at hmode
    · cases hmode
    split at hmode <;> cases hmode
  | regexEscape inClass => cases hmode
  | regexFlags =>
    simp only [State.step] at hmode ⊢
    split at hmode
    · cases hmode
    · next hflag =>
      rw [if_neg hflag]
      exact hcode _ hmode

/-! ## 4. Where an expression may begin -/

/-- An expression may begin behind the text `q`: a scan begins there, or one of the characters stands
before it after which a slash opens a regular expression, or one of the words, which is whole and not
a property behind a dot. -/
def BeginsExpression (start : Nat) (q : List Char) : Prop :=
  q.length = start ∨ (∃ c ∈ regexPreceders, q.getLast? = some c) ∨
    ∃ r, ∃ w ∈ regexKeywords, q = r ++ w ∧
      ∀ c, r.getLast? = some c → isIdentChar c = false ∧ c ≠ '.'

theorem word_of_mem_keywords :
    ∀ w ∈ regexKeywords, w ≠ [] ∧ ∀ c ∈ w, isIdentChar c = true ∧ isTelling c = true := by
  have hall : ∀ w ∈ regexKeywords,
      w ≠ [] ∧ w.all (fun c => isIdentChar c && isTelling c) = true := by decide
  simpa using hall

theorem mark_of_mem_preceders :
    ∀ c ∈ regexPreceders, isTelling c = true ∧ isIdentChar c = false := by
  have hall : regexPreceders.all (fun c => isTelling c && !isIdentChar c) = true := by decide
  simpa using hall

/-- The word at the end of a text is one of the words when the text ends in one, whole and not behind a
dot. -/
theorem wordBefore_mem_iff (q : List Char) :
    wordBefore q.reverse ∈ regexKeywords ↔ ∃ r, ∃ w ∈ regexKeywords, q = r ++ w ∧
      ∀ c, r.getLast? = some c → isIdentChar c = false ∧ c ≠ '.' := by
  constructor
  -- The word is what is cut off the end; what is left ends with neither a dot nor a character of it.
  · intro h
    have hsplit : q = (q.reverse.dropWhile isIdentChar).reverse ++
        (q.reverse.takeWhile isIdentChar).reverse := by
      rw [← List.reverse_append, List.takeWhile_append_dropWhile, List.reverse_reverse]
    unfold wordBefore at h
    split at h
    · exact absurd rfl (word_of_mem_keywords [] h).1
    · next hdot =>
      refine ⟨_, _, h, hsplit, fun c hc => ?_⟩
      rw [List.getLast?_reverse] at hc
      have hstop := List.head?_dropWhile_not isIdentChar q.reverse
      rw [hc] at hstop
      refine ⟨by simpa using hstop, ?_⟩
      rintro rfl
      obtain ⟨rest, hrest⟩ := List.head?_eq_some_iff.mp hc
      exact hdot rest hrest
  · rintro ⟨r, w, hw, rfl, hr⟩
    have hall : ∀ c ∈ w.reverse, isIdentChar c = true := by
      intro c hc
      exact ((word_of_mem_keywords w hw).2 c (List.mem_reverse.mp hc)).1
    have hword : wordBefore (r ++ w).reverse = w := by
      unfold wordBefore
      rw [List.reverse_append, List.takeWhile_append_of_pos hall, List.dropWhile_append_of_pos hall]
      cases hrev : r.reverse with
      | nil => simp
      | cons c rest =>
        have hlast : r.getLast? = some c := by
          rw [← List.head?_reverse, hrev]
          rfl
        obtain ⟨hc, hdot⟩ := hr c hlast
        simp [hc, hdot]
    rwa [hword]

/-- What a scan remembers of a text that ends in a telling character is that an expression may begin
there, or that none may. -/
theorem admitsRegex_iff {q : List Char} {c : Char} {start : Nat} (hstart : start ≤ q.length) :
    (if isIdentChar c then Preceding.word (c :: q.reverse) else .mark c).admitsRegex = true ↔
      BeginsExpression start (q ++ [c]) := by
  have hlater : (q ++ [c]).length ≠ start := by
    rw [List.length_append, List.length_singleton]
    omega
  have hlast : (q ++ [c]).getLast? = some c := List.getLast?_concat
  have hrev : c :: q.reverse = (q ++ [c]).reverse := by simp
  unfold BeginsExpression
  split
  -- A character of an identifier ends a word and is no mark.
  · next hident =>
    have hmark : ¬ ∃ d ∈ regexPreceders, (q ++ [c]).getLast? = some d := by
      rintro ⟨d, hd, hlast'⟩
      obtain rfl : c = d := Option.some.inj (hlast.symm.trans hlast')
      have hnot := (mark_of_mem_preceders c hd).2
      rw [hident] at hnot
      exact absurd hnot (by decide)
    simp only [hlater, hmark, false_or, Preceding.admitsRegex, List.contains_iff_mem, hrev]
    exact wordBefore_mem_iff _
  -- Any other character is a mark and ends no word.
  · next hident =>
    have hword : ¬ ∃ r, ∃ w ∈ regexKeywords, q ++ [c] = r ++ w ∧
        ∀ d, r.getLast? = some d → isIdentChar d = false ∧ d ≠ '.' := by
      rintro ⟨r, w, hw, hsplit, -⟩
      obtain ⟨hne, hall⟩ := word_of_mem_keywords w hw
      have hend : w.getLast? = some c := by
        rw [← List.getLast?_append_of_ne_nil r hne, ← hsplit, hlast]
      exact hident (hall c (List.mem_of_getLast? hend)).1
    simp only [hlater, hword, false_or, or_false, Preceding.admitsRegex, List.contains_iff_mem, hlast]
    simp

/-- The step by which a scan reaches the end of a text. -/
theorem stateFrom_concat {q r : List Char} {c : Char} {start : Nat} (hstart : start ≤ q.length) :
    ∃ s : State, s.Expects (some c) ∧
      stateFrom (q ++ [c] ++ r) start (q ++ [c]).length = (s.step q.reverse c r.head?).1 := by
  have htake : (q ++ c :: r).take start = q.take start := List.take_append_of_le_length hstart
  have hdrop : (q ++ c :: r).drop start = q.drop start ++ c :: r :=
    List.drop_append_of_le_length hstart
  have hlength : (q ++ [c]).length - start = (q.drop start).length + 1 := by
    rw [List.length_append, List.length_singleton, List.length_drop]
    omega
  have hrev : (q.drop start).reverse ++ (q.take start).reverse = q.reverse := by
    rw [← List.reverse_append, List.take_append_drop]
  have hfresh : State.Expects {} (q.drop start ++ c :: r).head? := trivial
  have hexpects := expects_stateAfter hfresh (q.take start).reverse (q.drop start).length
  rw [List.drop_left] at hexpects
  refine ⟨_, hexpects, ?_⟩
  rw [List.append_assoc, List.singleton_append, stateFrom, htake, hdrop, hlength, stateAfter_add,
    List.take_left, List.drop_left, hrev, stateAfter, stateAfter]

/-- The state of a scan behind a text knows whether an expression may begin there. -/
theorem stateFrom_admitsRegex {q r : List Char} {start : Nat} (hstart : start ≤ q.length)
    (hcode : (stateFrom (q ++ r) start q.length).mode = .code)
    (hq : q.length = start ∨ ∃ c, q.getLast? = some c ∧ isTelling c = true) :
    (stateFrom (q ++ r) start q.length).preceding.admitsRegex = true ↔ BeginsExpression start q := by
  by_cases hfirst : q.length = start
  · have hstate : stateFrom (q ++ r) start q.length = {} := by
      rw [stateFrom, hfirst, Nat.sub_self, stateAfter]
    rw [hstate]
    exact iff_of_true rfl (.inl hfirst)
  · obtain ⟨c, hlast, hc⟩ := hq.resolve_left hfirst
    obtain ⟨q, rfl⟩ := List.getLast?_eq_some_iff.mp hlast
    have hbefore : start ≤ q.length := by
      rw [List.length_append, List.length_singleton] at hstart hfirst
      omega
    obtain ⟨s, hexpects, hstate⟩ := stateFrom_concat (c := c) (r := r) hbefore
    rw [hstate] at hcode ⊢
    rw [preceding_of_step hexpects hc hcode]
    exact admitsRegex_iff hbefore

/-! ## 5. Blanks and comments -/

def Item.IsGap : Item → Prop
  | .chunk code => ∀ c ∈ code, isBlank c = true
  | .lineComment body => '\n' ∉ body
  | .blockComment body => ¬ ['*', '/'] <:+: body
  | .quoted .. => False
  | .template .. => False

def Items.IsGap : Items → Prop
  | .nil => True
  | .cons item rest => item.IsGap ∧ rest.IsGap

/-- Blanks are code and leave what precedes the next slash. -/
theorem codeFrom_blanks {code : List Char} (hcode : ∀ c ∈ code, isBlank c = true) (rev : List Char)
    (i : Nat) (r : List Char) :
    codeFrom ⟨.code, ds, p⟩ rev i (code ++ r) =
      indexed i code ++ codeFrom ⟨.code, ds, p⟩ (code.reverse ++ rev) (i + code.length) r := by
  induction code generalizing rev i with
  | nil => rfl
  | cons c code ih =>
    have hblank : isBlank c = true := hcode c List.mem_cons_self
    have hstep : State.step ⟨.code, ds, p⟩ rev c (code ++ r).head? = (⟨.code, ds, p⟩, true) := by
      rw [step_calm (isCalm_of_isBlank hblank), Preceding.after, if_pos hblank]
    have hrest := ih (fun d hd => hcode d (List.mem_cons_of_mem _ hd)) (c :: rev) (i + 1)
    have hindex : i + (c :: code).length = i + 1 + code.length := by
      rw [List.length_cons]
      omega
    rw [List.cons_append, codeFrom_yield hstep, hrest, hindex, List.reverse_cons, List.append_assoc]
    rfl

/-- An item of a gap yields its own code, and the scan remembers what it did before it. -/
theorem codeFrom_gapItem {item : Item} (hitem : item.IsGap) (rev : List Char) (i : Nat)
    (r : List Char) :
    codeFrom ⟨.code, ds, p⟩ rev i (item.render ++ r) =
      item.code i ++ codeFrom ⟨.code, ds, p⟩ (item.render.reverse ++ rev)
        (i + item.render.length) r := by
  cases item with
  | chunk code => exact codeFrom_blanks hitem rev i r
  | lineComment body =>
    have hkind : (Item.lineComment body).literal? = some .lineComment := rfl
    exact codeFrom_literal hkind hitem ds p rev i r
  | blockComment body =>
    have hkind : (Item.blockComment body).literal? = some .blockComment := rfl
    exact codeFrom_literal hkind hitem ds p rev i r
  | quoted => exact hitem.elim
  | template => exact hitem.elim

theorem codeFrom_gap {gap : Items} (hgap : gap.IsGap) (rev : List Char) (i : Nat) (r : List Char) :
    codeFrom ⟨.code, ds, p⟩ rev i (gap.render ++ r) =
      gap.code i ++ codeFrom ⟨.code, ds, p⟩ (gap.render.reverse ++ rev)
        (i + gap.render.length) r := by
  match gap with
  | .nil => rfl
  | .cons item rest =>
    have hrest := codeFrom_gap hgap.2 (item.render.reverse ++ rev) (i + item.render.length) r
    rw [Items.render, List.append_assoc, codeFrom_gapItem hgap.1, hrest, Items.code,
      List.append_assoc, List.reverse_append, List.append_assoc, List.length_append, Nat.add_assoc]

theorem lt_of_mem_indexed {code : List Char} {i : Nat} {entry : Nat × Char}
    (h : entry ∈ indexed i code) : entry.1 < i + code.length := by
  induction code generalizing i with
  | nil => exact nomatch h
  | cons c code ih =>
    rw [List.length_cons]
    rcases List.mem_cons.mp h with rfl | hlater
    · show i < i + (code.length + 1)
      omega
    · have := ih hlater
      omega

/-- What a gap yields stands inside the gap. -/
theorem lt_of_mem_gap {gap : Items} (hgap : gap.IsGap) {i : Nat} {entry : Nat × Char}
    (h : entry ∈ gap.code i) : entry.1 < i + gap.render.length := by
  match gap with
  | .nil => cases h
  | .cons item rest =>
    rw [Items.render, List.length_append]
    rcases List.mem_append.mp h with hfirst | hrest
    · have hlt : entry.1 < i + item.render.length := by
        cases item with
        | chunk code => exact lt_of_mem_indexed hfirst
        | lineComment body =>
          have hentry := List.mem_singleton.mp hfirst
          simp [hentry, Item.render]
          omega
        | blockComment body => cases hfirst
        | quoted => exact hgap.1.elim
        | template => exact hgap.1.elim
      omega
    · have := lt_of_mem_gap hgap.2 hrest
      omega

/-! ## 6. Regular expressions in a text -/

/-- What precedes an expression is the start of the scan or ends in a telling character. -/
theorem BeginsExpression.telling {q : List Char} {start : Nat} (h : BeginsExpression start q) :
    q.length = start ∨ ∃ c, q.getLast? = some c ∧ isTelling c = true := by
  rcases h with hstart | ⟨c, hc, hlast⟩ | ⟨r, w, hw, rfl, -⟩
  · exact .inl hstart
  · exact .inr ⟨c, hlast, (mark_of_mem_preceders c hc).1⟩
  · obtain ⟨hne, hall⟩ := word_of_mem_keywords w hw
    have hlast : (r ++ w).getLast? = some (w.getLast hne) := by
      rw [List.getLast?_append_of_ne_nil r hne, List.getLast?_eq_some_getLast hne]
    exact .inr ⟨_, hlast, (hall _ (List.getLast_mem hne)).2⟩

/-- A complete regular expression whose flags end before `s` stands in code behind the text `q`, blanks
and comments aside. Where an expression may begin, the scan yields no character of it and goes on in
code behind its flags. Behind all else that tells what precedes, its first slash is code. -/
theorem regex_passed_over {q s : List Char} {gap : Items} {e : Regex} {start : Nat}
    (hstart : start ≤ q.length) (hgap : gap.IsGap) (he : e.WellFormed)
    (hs : ∀ c, s.head? = some c → isWordChar c = false)
    (hcode : (stateFrom (q ++ (gap.render ++ (e.render ++ s))) start q.length).mode = .code) :
    let text := q ++ (gap.render ++ (e.render ++ s))
    let state := stateFrom text start q.length
    let p := q ++ gap.render
    (BeginsExpression start q →
      (∀ entry ∈ codeChars text start,
        entry.1 < p.length ∨ p.length + e.render.length ≤ entry.1) ∧
      ∃ before : List (Nat × Char), (∀ entry ∈ before, entry.1 < p.length) ∧
        codeChars text start = before ++ codeFrom { state with preceding := .mark '/' }
          (e.render.reverse ++ p.reverse) (p.length + e.render.length) s) ∧
    (¬ BeginsExpression start q →
      (∃ c, q.getLast? = some c ∧ isTelling c = true) → (p.length, '/') ∈ codeChars text start) := by
  intro text state p
  obtain ⟨d, r, hcons⟩ : ∃ d r, gap.render ++ (e.render ++ s) = d :: r := by
    cases hrender : gap.render ++ (e.render ++ s) with
    | nil => simp [Regex.render] at hrender
    | cons d r => exact ⟨d, r, rfl⟩
  have hstate : state = ⟨.code, state.interpolations, state.preceding⟩ := by
    rw [← hcode]
  -- The scan up to the expression: what it yields there does not depend on what follows.
  obtain ⟨before, t, hbefore, hcut⟩ := codeChars_append_cons q d hstart
  obtain ⟨hreached, hscan⟩ := hcut r
  rw [← hcons] at hreached hscan
  have hreach : codeChars text start = before ++ gap.code q.length ++
      codeFrom ⟨.code, state.interpolations, state.preceding⟩ p.reverse p.length (e.render ++ s) := by
    rw [hscan, ← hreached]
    change before ++ codeFrom state q.reverse q.length _ = _
    rw [hstate, codeFrom_gap hgap, List.append_assoc, List.reverse_append, List.length_append]
  have hearlier : ∀ entry ∈ before ++ gap.code q.length, entry.1 < p.length := by
    intro entry hentry
    rw [List.length_append]
    rcases List.mem_append.mp hentry with h | h
    · have := hbefore entry h
      omega
    · exact lt_of_mem_gap hgap h
  constructor
  · intro hbegins
    have hadmits : state.preceding.admitsRegex = true :=
      (stateFrom_admitsRegex hstart hcode hbegins.telling).mpr hbegins
    have hskips := skips_regex state.interpolations he hadmits s p.reverse p.length
    have hall : codeChars text start = before ++ gap.code q.length ++
        codeFrom { state with preceding := .mark '/' } (e.render.reverse ++ p.reverse)
          (p.length + e.render.length) s := by
      rw [hreach, hskips, codeFrom_regexFlags hs, hstate]
    refine ⟨fun entry hentry => ?_, _, hearlier, hall⟩
    rw [hall] at hentry
    rcases List.mem_append.mp hentry with h | h
    · exact .inl (hearlier entry h)
    · exact .inr (mem_codeFrom h).1
  · intro hbegins htelling
    have hdivides : state.preceding.admitsRegex = false := by
      rw [Bool.eq_false_iff]
      intro hadmits
      exact hbegins ((stateFrom_admitsRegex hstart hcode (.inr htelling)).mp hadmits)
    rw [hreach]
    exact List.mem_append_right _ (mem_codeFrom_division he hdivides p.reverse p.length s)

/-- A regular expression behind a word and a comment, in an interpolation. -/
theorem regex_passed_over_word :
    let q := "`$\x7b() => \x7b return".toList
    let gap : Items := .cons (.blockComment "\x7d".toList) (.cons (.chunk [' ']) .nil)
    let e : Regex := ⟨[.oneOf [.plain '/', .plain '\x7d'], .single (.escaped '/'),
      .single (.plain '\x7d')], ['g']⟩
    let s := ".test(x) \x7d \x7d`".toList
    gap.IsGap ∧ e.WellFormed ∧
      (stateFrom (q ++ (gap.render ++ (e.render ++ s))) 0 q.length).mode = .code ∧
      BeginsExpression 0 q ∧ ∀ entry ∈ codeChars (q ++ (gap.render ++ (e.render ++ s))),
        entry.1 < 23 ∨ 33 ≤ entry.1 := by
  intro q gap e s
  have hcomment : ¬ ['*', '/'] <:+: ['\x7d'] := by decide
  have hgap : gap.IsGap := ⟨hcomment, List.forall_mem_singleton.mpr rfl, trivial⟩
  have he : e.WellFormed := by decide
  have hs : ∀ c, s.head? = some c → isWordChar c = false := by
    intro c hc
    rw [← Option.some.inj hc]
    decide
  have hcode : (stateFrom (q ++ (gap.render ++ (e.render ++ s))) 0 q.length).mode = .code := by
    decide
  have hbegins : BeginsExpression 0 q := by
    refine .inr (.inr ⟨"`$\x7b() => \x7b ".toList, "return".toList, by decide, by decide, ?_⟩)
    intro c hc
    rw [← Option.some.inj hc]
    decide
  have hpassed := (regex_passed_over (Nat.zero_le _) hgap he hs hcode).1 hbegins
  exact ⟨hgap, he, hcode, hbegins, hpassed.1⟩

/-- Behind an arrow the brace of a regular expression is code: the last character of an arrow is none of
those after which a slash opens one. -/
theorem brace_behind_arrow :
    let p := "s => ".toList
    let e : Regex := ⟨[.single (.plain '\x7d')], []⟩
    e.WellFormed ∧ (stateFrom (p ++ e.render) 0 p.length).mode = .code ∧
      (6, '\x7d') ∈ codeChars (p ++ e.render) := by
  decide

end Grading.Source
