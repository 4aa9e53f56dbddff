import Grading.Proofs.Source.Grammar
import Grading.Proofs.Source.Scan

/-!
# Literal — strings, comments and templates are passed over

A literal that is complete is scanned as a whole: of all its characters the scan yields the line feed
of a line comment and no other, and what it remembers behind the literal is settled by the kind of the
literal alone.
-/

namespace Grading.Source

/-! ## 1. Texts that are passed over -/

/-- From state `s` the scan of `a` yields nothing when `r` comes next, and ends in state `t`. -/
def Skips (s : State) (a r : List Char) (t : State) : Prop :=
  ∀ rev i, codeFrom s rev i (a ++ r) = codeFrom t (a.reverse ++ rev) (i + a.length) r

namespace Skips

variable {s t u : State} {a b r : List Char} {c : Char}

theorem refl (s : State) (r : List Char) : Skips s [] r s :=
  fun _ _ => rfl

theorem cons (hstep : ∀ rev, s.step rev c (a ++ r).head? = (t, false)) (h : Skips t a r u) :
    Skips s (c :: a) r u := by
  intro rev i
  have hindex : i + (c :: a).length = i + 1 + a.length := by
    rw [List.length_cons]
    omega
  rw [List.cons_append, codeFrom_skip (hstep rev), h, hindex, List.reverse_cons, List.append_assoc]
  rfl

theorem trans (h : Skips s a (b ++ r) t) (h' : Skips t b r u) : Skips s (a ++ b) r u := by
  intro rev i
  rw [List.append_assoc, h, h', List.reverse_append, List.append_assoc, List.length_append,
    Nat.add_assoc]

/-- A text is passed over in one mode when each of its plain characters keeps the scan in that mode and
a backslash leads into a mode that reads one character and leads back. -/
theorem text {m escape : Mode} {ds : List Nat} {p : Preceding} {text : List Piece}
    (hbackslash : ∀ rev next, (State.mk m ds p).step rev '\\' next = (⟨escape, ds, p⟩, false))
    (hescaped : ∀ rev c next, (State.mk escape ds p).step rev c next = (⟨m, ds, p⟩, false))
    (hplain : ∀ c rest, (.plain c :: rest) <:+ text → ∀ rev,
      (State.mk m ds p).step rev c (renderText rest ++ r).head? = (⟨m, ds, p⟩, false)) :
    Skips ⟨m, ds, p⟩ (renderText text) r ⟨m, ds, p⟩ := by
  induction text with
  | nil => exact .refl _ _
  | cons piece text ih =>
    have hrest := ih fun c rest h => hplain c rest (h.trans (List.suffix_cons piece text))
    cases piece with
    | plain c => exact .cons (hplain c text List.suffix_rfl) hrest
    | escaped c =>
      have hsecond : Skips ⟨escape, ds, p⟩ (c :: renderText text) r ⟨m, ds, p⟩ :=
        .cons (fun rev => hescaped rev c _) hrest
      exact .cons (fun rev => hbackslash rev _) hsecond

end Skips

/-! ## 2. Bodies -/

theorem skips_quoted {quote : Char} {body : List Piece} (ds : List Nat) (p : Preceding)
    (hbody : ∀ c, .plain c ∈ body → c ≠ quote ∧ c ≠ '\\' ∧ c ≠ '\n') (r : List Char) :
    Skips ⟨.quoted quote, ds, p⟩ (renderText body) r ⟨.quoted quote, ds, p⟩ := by
  apply Skips.text (fun _ _ => rfl) (fun _ _ _ => rfl)
  intro c rest hrest rev
  obtain ⟨hend, hescape, hline⟩ := hbody c (hrest.subset List.mem_cons_self)
  simp only [State.step]
  rw [if_neg hescape, if_neg hend, if_neg hline]

/-- The text of a template is skipped, escapes included, as long as no interpolation opens at its
end. -/
theorem skips_templateText {text : List Piece} (ds : List Nat) (p : Preceding)
    (htext : TemplateText text) {r : List Char} (hnext : r.head? ≠ some '{') :
    Skips ⟨.template, ds, p⟩ (renderText text) r ⟨.template, ds, p⟩ := by
  apply Skips.text (fun _ _ => rfl) (fun _ _ _ => rfl)
  intro c rest hrest rev
  obtain ⟨hend, hescape⟩ := htext.plain c (hrest.subset List.mem_cons_self)
  -- A dollar sign before a brace would have to be the last of the text or before a plain brace.
  have hopen : ¬ (c = '$' ∧ (renderText rest ++ r).head? = some '{') := by
    rintro ⟨rfl, hbrace⟩
    match rest with
    | [] => exact hnext hbrace
    | .plain d :: rest =>
      have hd : d = '{' := Option.some.inj hbrace
      subst hd
      have hopening := (List.prefix_append [Piece.plain '$', .plain '{'] rest).isInfix
      exact htext.noOpening (hopening.trans hrest.isInfix)
    | .escaped d :: rest => exact absurd (Option.some.inj hbrace) (by decide)
  simp only [State.step, Bool.and_eq_true, decide_eq_true_eq]
  rw [if_neg hescape, if_neg hend, if_neg hopen]

theorem skips_lineComment {body : List Char} (ds : List Nat) (p : Preceding) (hbody : '\n' ∉ body)
    (r : List Char) : Skips ⟨.lineComment, ds, p⟩ body r ⟨.lineComment, ds, p⟩ := by
  induction body with
  | nil => exact .refl _ _
  | cons c body ih =>
    obtain ⟨hend, hrest⟩ := List.ne_and_not_mem_of_not_mem_cons hbody
    exact .cons (fun rev => by simp [State.step, Ne.symm hend]) (ih hrest)

/-- A block comment is skipped from behind its opening to its first closing. -/
theorem skips_blockComment {body : List Char} (ds : List Nat) (p : Preceding)
    (hbody : ¬ ['*', '/'] <:+: body) (r : List Char) :
    Skips ⟨.block, ds, p⟩ (body ++ ['*', '/']) r ⟨.code, ds, p⟩ := by
  induction body with
  | nil => exact .cons (t := ⟨.blockClose, ds, p⟩) (fun _ => rfl) (.cons (fun _ => rfl) (.refl _ _))
  | cons c body ih =>
    -- A star before a slash would close the comment inside of its body.
    have hopen : ¬ (c = '*' ∧ (body ++ ['*', '/'] ++ r).head? = some '/') := by
      rintro ⟨rfl, hnext⟩
      cases body with
      | nil => exact absurd hnext (by simp)
      | cons d body =>
        have hd : d = '/' := Option.some.inj hnext
        subst hd
        exact hbody (List.prefix_append ['*', '/'] body).isInfix
    have hfirst : ∀ rev, (State.mk .block ds p).step rev c (body ++ ['*', '/'] ++ r).head? =
        (⟨.block, ds, p⟩, false) := by
      intro rev
      simp only [State.step, Bool.and_eq_true, decide_eq_true_eq]
      rw [if_neg hopen]
    exact .cons hfirst (ih fun hin => hbody (List.infix_cons hin))

/-! ## 3. Literals -/

inductive Literal where
  | quoted (quote : Char)
  | lineComment
  | blockComment
  | template
  deriving DecidableEq, Repr

namespace Literal

def first : Literal → Char
  | .quoted quote => quote
  | .lineComment | .blockComment => '/'
  | .template => '`'

def last : Literal → Char
  | .quoted quote => quote
  | .lineComment => '\n'
  | .blockComment => '/'
  | .template => '`'

/-- What precedes the next slash behind a literal with `p` before it: comments do not count. -/
def preceding (p : Preceding) : Literal → Preceding
  | .quoted quote => .mark quote
  | .lineComment | .blockComment => p
  | .template => .mark '`'

end Literal

/-- What kind of literal an item is; code is none, nor is a template with interpolations. -/
def Item.literal? : Item → Option Literal
  | .quoted quote _ => some (.quoted quote)
  | .lineComment _ => some .lineComment
  | .blockComment _ => some .blockComment
  | .template _ .nil => some .template
  | .template _ (.cons ..) => none
  | .chunk _ => none

inductive Item.IsLiteral : Item → Literal → Prop where
  | quoted (quote : Char) (body : List Piece) : IsLiteral (.quoted quote body) (.quoted quote)
  | lineComment (body : List Char) : IsLiteral (.lineComment body) .lineComment
  | blockComment (body : List Char) : IsLiteral (.blockComment body) .blockComment
  | template (text : List Piece) : IsLiteral (.template text .nil) .template

variable {kind : Literal} {item : Item}

/-- An item that counts as a literal is one of the four kinds, with the marks of its kind. -/
theorem isLiteral_of_literal? (h : item.literal? = some kind) : item.IsLiteral kind := by
  cases item with
  | chunk code => exact nomatch h
  | quoted quote body =>
    obtain rfl := Option.some.inj h
    exact .quoted quote body
  | lineComment body =>
    obtain rfl := Option.some.inj h
    exact .lineComment body
  | blockComment body =>
    obtain rfl := Option.some.inj h
    exact .blockComment body
  | template text holes =>
    cases holes with
    | nil =>
      obtain rfl := Option.some.inj h
      exact .template text
    | cons => exact nomatch h

/-- A literal starts and ends with the marks of its kind. -/
theorem render_literal (hkind : item.literal? = some kind) :
    ∃ body, item.render = kind.first :: (body ++ [kind.last]) := by
  cases isLiteral_of_literal? hkind with
  | quoted quote body => exact ⟨renderText body, rfl⟩
  | lineComment body => exact ⟨'/' :: body, rfl⟩
  | blockComment body =>
    exact ⟨'*' :: (body ++ ['*']), by simp [Item.render, Literal.first, Literal.last]⟩
  | template text => exact ⟨renderText text, rfl⟩

/-- From code the scan passes over a literal and yields the line feed of a line comment only. -/
theorem codeFrom_literal (hkind : item.literal? = some kind) (hwf : item.WellFormed) (ds : List Nat)
    (p : Preceding) (rev : List Char) (i : Nat) (r : List Char) :
    codeFrom ⟨.code, ds, p⟩ rev i (item.render ++ r) =
      item.code i ++ codeFrom ⟨.code, ds, kind.preceding p⟩ (item.render.reverse ++ rev)
        (i + item.render.length) r := by
  cases isLiteral_of_literal? hkind with
  | quoted quote body =>
    obtain ⟨hquote, hbody⟩ := hwf
    have hopen : ∀ rev next, State.step ⟨.code, ds, p⟩ rev quote next =
        (⟨.quoted quote, ds, p⟩, false) := by
      rcases hquote with rfl | rfl <;> exact fun _ _ => rfl
    have hclose : ∀ rev next, State.step ⟨.quoted quote, ds, p⟩ rev quote next =
        (⟨.code, ds, .mark quote⟩, false) := by
      rcases hquote with rfl | rfl <;> exact fun _ _ => rfl
    have hrest : Skips ⟨.quoted quote, ds, p⟩ [quote] r ⟨.code, ds, .mark quote⟩ :=
      .cons (fun rev => hclose rev _) (.refl _ _)
    have hskips : Skips ⟨.code, ds, p⟩ (Item.quoted quote body).render r ⟨.code, ds, .mark quote⟩ :=
      .cons (fun rev => hopen rev _) ((skips_quoted ds p hbody _).trans hrest)
    exact hskips rev i
  | lineComment body =>
    have hskips : Skips ⟨.code, ds, p⟩ ('/' :: '/' :: body) ('\n' :: r) ⟨.lineComment, ds, p⟩ :=
      .cons (t := ⟨.lineComment, ds, p⟩) (fun _ => rfl)
        (.cons (fun _ => rfl) (skips_lineComment ds p hwf _))
    have hend : ∀ rev next, State.step ⟨.lineComment, ds, p⟩ rev '\n' next =
        (⟨.code, ds, p⟩, true) := by
      intro rev next
      exact plain_other _ rev (by decide) (by decide)
    -- The comment is skipped up to its line feed, which is yielded.
    have hscan := hskips rev i
    rw [codeFrom_yield (hend _ _)] at hscan
    have hlength : (Item.lineComment body).render.length = ('/' :: '/' :: body).length + 1 := by
      simp [Item.render]
    have hindex : i + ('/' :: '/' :: body).length = i + 2 + body.length := by
      simp only [List.length_cons]
      omega
    have hrender : (Item.lineComment body).render ++ r = ('/' :: '/' :: body) ++ '\n' :: r := by
      simp [Item.render]
    have hreverse : (Item.lineComment body).render.reverse ++ rev =
        '\n' :: (('/' :: '/' :: body).reverse ++ rev) := by
      simp [Item.render]
    rw [hrender, hreverse, hlength, hscan, ← Nat.add_assoc, hindex]
    rfl
  | blockComment body =>
    have hskips : Skips ⟨.code, ds, p⟩ (Item.blockComment body).render r ⟨.code, ds, p⟩ :=
      .cons (t := ⟨.blockOpen, ds, p⟩) (fun _ => rfl)
        (.cons (fun _ => rfl) (skips_blockComment ds p hwf r))
    exact hskips rev i
  | template text =>
    have htick : ('`' :: r).head? ≠ some '{' := by
      simp
    have hrest : Skips ⟨.template, ds, p⟩ ['`'] r ⟨.code, ds, .mark '`'⟩ :=
      .cons (fun _ => rfl) (.refl _ _)
    have hskips : Skips ⟨.code, ds, p⟩ (Item.template text .nil).render r ⟨.code, ds, .mark '`'⟩ :=
      .cons (fun _ => rfl) ((skips_templateText ds p hwf.1 htick).trans hrest)
    exact hskips rev i

end Grading.Source
