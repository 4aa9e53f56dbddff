import Grading.Proofs.Source.Literal
import Grading.Proofs.Source.Placement

/-!
# Opaque — what a literal holds is indifferent to the text around it

When the body of a complete literal is exchanged for another one, all code around it stays code. The
scan may have begun anywhere before the literal, the text may be malformed, and the literal may stand
in any nesting of interpolations.
-/

namespace Grading.Source

open Grading.Text

/-! ## 1. Scans that have reached a literal -/

def stateFrom (text : List Char) (start i : Nat) : State :=
  stateAfter {} (text.take start).reverse (i - start) (text.drop start)

/-- The scan is in code where a literal begins: it is in plain code, or behind the flags of a regular
expression, which the literal is no part of. -/
def State.InCode (s : State) : Prop := s.mode = .code ∨ s.mode = .regexFlags

instance (s : State) : Decidable s.InCode := inferInstanceAs (Decidable (_ ∨ _))

/-- Behind a regular expression the scan goes on as in plain code. -/
theorem State.InCode.codeFrom_cons {s : State} (h : s.InCode) {c : Char}
    (hc : isWordChar c = false) : ∃ p, ∀ rev i r,
      codeFrom s rev i (c :: r) = codeFrom ⟨.code, s.interpolations, p⟩ rev i (c :: r) := by
  obtain ⟨mode, ds, p⟩ := s
  rcases h with hcode | hflags
  · obtain rfl : mode = .code := hcode
    exact ⟨p, fun _ _ _ => rfl⟩
  · obtain rfl : mode = .regexFlags := hflags
    refine ⟨.mark '/', fun rev i r => ?_⟩
    have hstep : State.step ⟨.regexFlags, ds, p⟩ rev c r.head? =
        State.step ⟨.code, ds, .mark '/'⟩ rev c r.head? := by
      simp only [State.step, hc, Bool.false_eq_true, ↓reduceIte, State.afterLiteral]
    rw [codeFrom, codeFrom, hstep]

/-- A scan can be cut before every character. What it yields before and the state that it reaches do not
depend on what stands behind that character. -/
theorem codeChars_append_cons (q : List Char) (c : Char) {start : Nat} (hstart : start ≤ q.length) :
    ∃ (before : List (Nat × Char)) (t : State), (∀ entry ∈ before, entry.1 < q.length) ∧
      ∀ r, stateFrom (q ++ c :: r) start q.length = t ∧
        codeChars (q ++ c :: r) start = before ++ codeFrom t q.reverse q.length (c :: r) := by
  have htake : ∀ r, (q ++ r).take start = q.take start :=
    fun r => List.take_append_of_le_length hstart
  have hdrop : ∀ r, (q ++ r).drop start = q.drop start ++ r :=
    fun r => List.drop_append_of_le_length hstart
  have hlength : (q.drop start).length = q.length - start := List.length_drop
  have hindex : start + (q.drop start).length = q.length := by omega
  have hrev : (q.drop start).reverse ++ (q.take start).reverse = q.reverse := by
    rw [← List.reverse_append, List.take_append_drop]
  obtain ⟨before, t, hbefore, hcut⟩ :=
    codeFrom_append_cons {} (q.take start).reverse (q.drop start) c start
  rw [hindex] at hbefore hcut
  rw [hrev] at hcut
  refine ⟨before, t, hbefore, fun r => ⟨?_, ?_⟩⟩
  · rw [stateFrom, htake, hdrop, ← hlength]
    exact (hcut r).1
  · rw [codeChars, htake, hdrop]
    exact (hcut r).2

/-! ## 2. Literals -/

variable {kind : Literal} {l l' : Item}

def Literal.all : List Literal :=
  [.quoted '\'', .quoted '"', .lineComment, .blockComment, .template]

theorem mem_all (hkind : l.literal? = some kind) (hwf : l.WellFormed) : kind ∈ Literal.all := by
  cases isLiteral_of_literal? hkind with
  | quoted quote body => rcases hwf.1 with rfl | rfl <;> decide
  | lineComment | blockComment | template => decide

/-- A literal is no part of the flags before it, and no word reaches back over its end. -/
theorem ends_of_mem_all : ∀ k ∈ Literal.all,
    isWordChar k.first = false ∧ isIdentChar k.last = false ∧ k.last ≠ '.' := by
  decide

/-- The line feed of a line comment is the only code character of a literal, and its last one. -/
theorem code_literal (hkind : l.literal? = some kind) (i : Nat) :
    l.code i = if kind = .lineComment then [(i + l.render.length - 1, '\n')] else [] := by
  cases isLiteral_of_literal? hkind with
  | lineComment body =>
    have hlast : i + (Item.lineComment body).render.length - 1 = i + 2 + body.length := by
      simp only [Item.render, List.length_cons, List.length_append, List.length_nil]
      omega
    rw [if_pos rfl, hlast]
    rfl
  | quoted | blockComment | template => rfl

/-! ## 3. The text around a literal -/

/-- Around every literal of a kind the scan of a text yields the same, moved behind the literal by its
length. -/
theorem codeChars_around (hkind : l.literal? = some kind) (hwf : l.WellFormed) (p s : List Char)
    {start : Nat} (hstart : start ≤ p.length)
    (hcode : (stateFrom (p ++ (l.render ++ s)) start p.length).InCode) :
    ∃ before after : List (Nat × Char), (∀ e ∈ before, e.1 < p.length) ∧
      (∀ e ∈ after, p.length ≤ e.1) ∧
      ∀ l' : Item, l'.literal? = some kind → l'.WellFormed →
        codeChars (p ++ (l'.render ++ s)) start =
          before ++ (l'.code p.length ++ moved l'.render.length after) := by
  obtain ⟨before, t, hbefore, hcut⟩ := codeChars_append_cons p kind.first hstart
  -- The state before the literal depends on its first character only.
  have ht : t.InCode := by
    obtain ⟨body, hrender⟩ := render_literal hkind
    rw [hrender, List.cons_append, (hcut _).1] at hcode
    exact hcode
  obtain ⟨hfirst, hlast, hdot⟩ := ends_of_mem_all kind (mem_all hkind hwf)
  obtain ⟨q, hplain⟩ := ht.codeFrom_cons hfirst
  refine ⟨before, codeFrom ⟨.code, t.interpolations, kind.preceding q⟩ (kind.last :: p.reverse)
    p.length s, hbefore, fun e he => (mem_codeFrom he).1, fun l' hkind' hwf' => ?_⟩
  obtain ⟨body, hrender⟩ := render_literal hkind'
  have hcons : l'.render ++ s = kind.first :: (body ++ [kind.last] ++ s) := by
    rw [hrender, List.cons_append]
  have hback : l'.render.reverse ++ p.reverse =
      kind.last :: ((kind.first :: body).reverse ++ p.reverse) := by
    rw [hrender]
    simp
  have hscan : codeFrom t p.reverse p.length (l'.render ++ s) =
      l'.code p.length ++ codeFrom ⟨.code, t.interpolations, kind.preceding q⟩
        (l'.render.reverse ++ p.reverse) (p.length + l'.render.length) s := by
    rw [hcons, hplain, ← hcons]
    exact codeFrom_literal hkind' hwf' t.interpolations q p.reverse p.length s
  have hmoved := codeFrom_moved (s := ⟨.code, t.interpolations, kind.preceding q⟩)
    ⟨rfl, rfl, .inr rfl⟩ hlast hdot [] p.reverse ((kind.first :: body).reverse ++ p.reverse) s
    p.length l'.render.length
  rw [List.nil_append, List.nil_append, ← hback] at hmoved
  rw [hcons, (hcut _).2, ← hcons, hscan, hmoved]

/-- Where a character stands when the `n` characters from index `i` on have been exchanged for `m`. -/
def exchanged (i n m : Nat) (e : Nat × Char) : Nat × Char :=
  if e.1 < i then e else (e.1 + m - n, e.2)

/-- Literals are opaque: when a complete literal that a scan reaches in code is exchanged for another
of its kind, the scan yields the same characters, those before it at the same indices and those behind
it moved by the difference in length. No character of the literal is among them but the line feed that
ends a line comment. -/
theorem codeChars_exchange (hkind : l.literal? = some kind) (hkind' : l'.literal? = some kind)
    (hwf : l.WellFormed) (hwf' : l'.WellFormed) (p s : List Char) {start : Nat}
    (hstart : start ≤ p.length)
    (hcode : (stateFrom (p ++ (l.render ++ s)) start p.length).InCode) :
    codeChars (p ++ (l'.render ++ s)) start =
        (codeChars (p ++ (l.render ++ s)) start).map
          (exchanged p.length l.render.length l'.render.length) ∧
      ∀ e ∈ codeChars (p ++ (l.render ++ s)) start,
        e.1 < p.length ∨ p.length + l.render.length ≤ e.1 ∨
          kind = .lineComment ∧ e = (p.length + l.render.length - 1, '\n') := by
  obtain ⟨before, after, hbefore, hafter, hscan⟩ := codeChars_around hkind hwf p s hstart hcode
  -- A literal has its delimiters, so that there is a last character to it.
  have hsome : 0 < l.render.length := by
    obtain ⟨body, hrender⟩ := render_literal hkind
    rw [hrender, List.length_cons]
    exact Nat.succ_pos _
  rw [hscan l' hkind' hwf', hscan l hkind hwf, code_literal hkind, code_literal hkind']
  constructor
  -- What stands before the literal stays; what stands behind it moves by the difference of the
  -- lengths.
  · have hfirst : before.map (exchanged p.length l.render.length l'.render.length) = before := by
      have hsame : ∀ e ∈ before, exchanged p.length l.render.length l'.render.length e = id e :=
        fun e he => if_pos (hbefore e he)
      rw [List.map_congr_left hsame, List.map_id]
    have hend : exchanged p.length l.render.length l'.render.length
        (p.length + l.render.length - 1, '\n') = (p.length + l'.render.length - 1, '\n') := by
      have hindex : p.length + l.render.length - 1 + l'.render.length - l.render.length =
          p.length + l'.render.length - 1 := by omega
      rw [exchanged, if_neg (by dsimp only; omega), hindex]
    have hrest : (moved l.render.length after).map
        (exchanged p.length l.render.length l'.render.length) = moved l'.render.length after := by
      unfold moved
      rw [List.map_map]
      apply List.map_congr_left
      intro e he
      have hle := hafter e he
      have hindex : e.1 + l.render.length + l'.render.length - l.render.length =
          e.1 + l'.render.length := by omega
      rw [Function.comp_apply, exchanged, if_neg (by dsimp only; omega), hindex]
    rw [List.map_append, List.map_append, hfirst, hrest]
    split
    · rw [List.map_singleton, hend]
    · rfl
  · intro e he
    rcases List.mem_append.mp he with he | he
    · exact .inl (hbefore e he)
    rcases List.mem_append.mp he with he | he
    · split at he
      · next hline => exact .inr (.inr ⟨hline, List.mem_singleton.mp he⟩)
      · exact nomatch he
    · obtain ⟨d, hd, rfl⟩ := List.mem_map.mp he
      have hle := hafter d hd
      refine .inr (.inl ?_)
      dsimp only
      omega

/-- A string right behind the flags of a regular expression, in an interpolation within another, after a
brace that nothing opens. -/
theorem codeChars_exchange_nested :
    let p := "\x7d) `$\x7b(`$\x7b /'/g".toList
    let s := "/2\x7d`; /`".toList
    let l := Item.quoted '\'' [.plain 'a']
    let l' := Item.quoted '\'' [.plain '\x7d', .plain '`', .escaped '\'', .plain '/', .plain '*']
    (stateFrom (p ++ (l.render ++ s)) 0 p.length).InCode ∧
      codeChars (p ++ (l'.render ++ s)) =
        [(0, '\x7d'), (1, ')'), (2, ' '), (6, '('), (10, ' '), (23, '/'), (24, '2'), (27, ';'),
          (28, ' ')] := by
  intro p s l l'
  have hwf : ∀ item ∈ [l, l'], (Items.cons item .nil).WellFormed := by decide
  have hcode : (stateFrom (p ++ (l.render ++ s)) 0 p.length).InCode := by decide
  have hkind : l.literal? = some (.quoted '\'') := rfl
  have hkind' : l'.literal? = some (.quoted '\'') := rfl
  have hsame := (codeChars_exchange hkind hkind' (hwf l (by simp)).1 (hwf l' (by simp)).1 p s
    (Nat.zero_le _) hcode).1
  exact ⟨hcode, hsame.trans (by decide)⟩

end Grading.Source
