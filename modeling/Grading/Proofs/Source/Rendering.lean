import Grading.Proofs.Source.Literal

/-!
# Rendering — scanning undoes rendering

Every item is scanned as a whole: the scan begins and ends in code, yields the code characters of
the item and closes what the item opens. So only the braces of chunks reach the interpolations
around it.
-/

namespace Grading.Source

/-! ## 1. Points of a scan -/

/-- Where a scan is. What precedes the remaining text is left out: it only matters at a slash that
begins no comment. -/
structure Point where
  mode : Mode
  interpolations : List Nat
  index : Nat
  text : List Char

/-- From `a` the scan reaches `b` and yields `out` on the way, whatever precedes `a`. -/
def Point.Leads (a : Point) (out : List (Nat × Char)) (b : Point) : Prop :=
  ∀ p rev, ∃ p' rev', codeFrom ⟨a.mode, a.interpolations, p⟩ rev a.index a.text =
    out ++ codeFrom ⟨b.mode, b.interpolations, p'⟩ rev' b.index b.text

namespace Point.Leads

variable {m m' : Mode} {ds ds' : List Nat} {i : Nat} {c : Char} {r : List Char} {a b d : Point}
  {out out' : List (Nat × Char)}

theorem refl (a : Point) : a.Leads [] a :=
  fun p rev => ⟨p, rev, rfl⟩

theorem trans (h : a.Leads out b) (h' : b.Leads out' d) : a.Leads (out ++ out') d := by
  intro p rev
  obtain ⟨p', rev', hfirst⟩ := h p rev
  obtain ⟨p'', rev'', hrest⟩ := h' p' rev'
  exact ⟨p'', rev'', by rw [hfirst, hrest, List.append_assoc]⟩

theorem at_index {j k : Nat} (h : a.Leads out ⟨m, ds, j, r⟩) (hindex : j = k) :
    a.Leads out ⟨m, ds, k, r⟩ :=
  hindex ▸ h

theorem silent (hstep : ∀ p rev, ∃ p',
    (State.mk m ds p).step rev c r.head? = (⟨m', ds', p'⟩, false)) :
    Point.Leads ⟨m, ds, i, c :: r⟩ [] ⟨m', ds', i + 1, r⟩ := by
  intro p rev
  obtain ⟨p', h⟩ := hstep p rev
  exact ⟨p', c :: rev, codeFrom_skip h i⟩

theorem yield (hstep : ∀ p rev, ∃ p',
    (State.mk m ds p).step rev c r.head? = (⟨m', ds', p'⟩, true)) :
    Point.Leads ⟨m, ds, i, c :: r⟩ [(i, c)] ⟨m', ds', i + 1, r⟩ := by
  intro p rev
  obtain ⟨p', h⟩ := hstep p rev
  exact ⟨p', c :: rev, codeFrom_yield h i⟩

end Point.Leads

/-! ## 2. Chunks -/

/-- What a character in code makes of the interpolations around it; none when it ends one. -/
def readBrace (ds : List Nat) (c : Char) : Option (List Nat) :=
  match ds, c with
  | d :: ds, '{' => some ((d + 1) :: ds)
  | 0 :: _, '}' => none
  | (d + 1) :: ds, '}' => some (d :: ds)
  | ds, _ => some ds

theorem readBrace_other (ds : List Nat) {c : Char} (hopen : c ≠ '{') (hclose : c ≠ '}') :
    readBrace ds c = some ds := by
  unfold readBrace
  split
  · exact absurd rfl hopen
  · exact absurd rfl hclose
  · exact absurd rfl hclose
  · rfl

theorem foldlM_readBrace_nil (code : List Char) : code.foldlM readBrace [] = some [] := by
  induction code with
  | nil => rfl
  | cons c r ih =>
    rw [List.foldlM_cons, show readBrace [] c = some [] from rfl]
    exact ih

/-- Braces that are closed only after they are opened do not end the interpolation. -/
theorem foldlM_readBrace {code : List Char} {d e : Nat} (ds : List Nat)
    (hbegun : ∀ p, p <+: code → p.count '}' ≤ d + p.count '{')
    (hcount : d + code.count '{' = e + code.count '}') :
    code.foldlM readBrace (d :: ds) = some (e :: ds) := by
  induction code generalizing d with
  | nil =>
    rw [List.count_nil, List.count_nil] at hcount
    rw [show d = e by omega]
    rfl
  | cons c r ih =>
    have hhead := hbegun [c] (List.prefix_append [c] r)
    rw [List.foldlM_cons]
    by_cases hopen : c = '{'
    · subst hopen
      rw [show readBrace (d :: ds) '{' = some ((d + 1) :: ds) from rfl]
      refine ih (fun p hp => ?_) ?_
      · have := hbegun ('{' :: p) (List.cons_prefix_cons.mpr ⟨rfl, hp⟩)
        simp at this
        omega
      · simp at hcount
        omega
    · by_cases hclose : c = '}'
      -- The prefix that ends here has a brace to close, so the depth is positive.
      · subst hclose
        obtain ⟨d, rfl⟩ : ∃ k, d = k + 1 := ⟨d - 1, by simp at hhead; omega⟩
        rw [show readBrace ((d + 1) :: ds) '}' = some (d :: ds) from rfl]
        refine ih (fun p hp => ?_) ?_
        · have := hbegun ('}' :: p) (List.cons_prefix_cons.mpr ⟨rfl, hp⟩)
          simp at this
          omega
        · simp at hcount
          omega
      · rw [readBrace_other _ hopen hclose]
        refine ih (fun p hp => ?_) ?_
        · have := hbegun (c :: p) (List.cons_prefix_cons.mpr ⟨rfl, hp⟩)
          rw [List.count_cons_of_ne hopen, List.count_cons_of_ne hclose] at this
          exact this
        · rw [List.count_cons_of_ne hopen, List.count_cons_of_ne hclose] at hcount
          exact hcount

/-- Balanced code leaves the stack of open braces as it found it. -/
theorem Balanced.foldlM_readBrace {code : List Char} (h : Balanced code) (ds : List Nat) :
    code.foldlM readBrace (0 :: ds) = some (0 :: ds) :=
  Grading.Source.foldlM_readBrace ds (fun p hp => by rw [Nat.zero_add]; exact h.2 p hp)
    (by rw [h.1])

theorem plain_readBrace {ds ds' : List Nat} {c : Char} (h : readBrace ds c = some ds') (m : Mode)
    (p : Preceding) (rev : List Char) :
    (State.mk m ds p).plain rev c = (⟨.code, ds', p.after rev c⟩, true) := by
  by_cases hopen : c = '{'
  · subst hopen
    cases ds with
    | nil => rw [← Option.some.inj h]; rfl
    | cons d ds => rw [← Option.some.inj h]; rfl
  · by_cases hclose : c = '}'
    · subst hclose
      match ds with
      | [] => rw [← Option.some.inj h]; rfl
      | 0 :: ds => exact nomatch h
      | (d + 1) :: ds => rw [← Option.some.inj h]; rfl
    · rw [readBrace_other ds hopen hclose] at h
      rw [plain_other _ rev hopen hclose, Option.some.inj h]

open Point (Leads)

/-- Code without quotes and slashes is yielded in full, with its braces read on the stack. -/
theorem chunk_leads {code : List Char} {ds ds' : List Nat}
    (hcode : ∀ c ∈ code, c ≠ '\'' ∧ c ≠ '"' ∧ c ≠ '`' ∧ c ≠ '/')
    (hbraces : code.foldlM readBrace ds = some ds') (i : Nat) (r : List Char) :
    Leads ⟨.code, ds, i, code ++ r⟩ (indexed i code) ⟨.code, ds', i + code.length, r⟩ := by
  induction code generalizing ds i with
  | nil =>
    rw [← Option.some.inj (hbraces : some ds = some ds')]
    exact .refl _
  | cons c code ih =>
    rw [List.foldlM_cons] at hbraces
    obtain ⟨ds₁, hbrace, hrest⟩ := Option.bind_eq_some_iff.mp hbraces
    have hfirst : Leads ⟨.code, ds, i, c :: (code ++ r)⟩ [(i, c)] ⟨.code, ds₁, i + 1, code ++ r⟩ :=
      .yield fun p rev => ⟨_, (code_plain (hcode c List.mem_cons_self)).trans
        (plain_readBrace hbrace .code p rev)⟩
    have h := hfirst.trans (ih (fun d hd => hcode d (List.mem_cons_of_mem _ hd)) hrest (i + 1))
    rw [show i + (c :: code).length = i + 1 + code.length by rw [List.length_cons]; omega]
    exact h

/-! ## 3. Literals and template texts -/

theorem Skips.leads {m m' : Mode} {ds ds' : List Nat} {a r : List Char}
    (h : ∀ p, ∃ p', Skips ⟨m, ds, p⟩ a r ⟨m', ds', p'⟩) (i : Nat) :
    Leads ⟨m, ds, i, a ++ r⟩ [] ⟨m', ds', i + a.length, r⟩ := by
  intro p rev
  obtain ⟨p', hskips⟩ := h p
  exact ⟨p', a.reverse ++ rev, hskips rev i⟩

theorem templateText_leads {text : List Piece} (ds : List Nat) (htext : TemplateText text) (i : Nat)
    {r : List Char} (hnext : r.head? ≠ some '{') :
    Leads ⟨.template, ds, i, renderText text ++ r⟩ []
      ⟨.template, ds, i + (renderText text).length, r⟩ :=
  Skips.leads (fun p => ⟨p, skips_templateText ds p htext hnext⟩) i

/-- A literal is passed over as its kind says, and yields what the item lists as its code. -/
theorem literal_leads {kind : Literal} {item : Item} (hkind : item.literal? = some kind)
    (hwf : item.WellFormed) (ds : List Nat) (i : Nat) (r : List Char) :
    Leads ⟨.code, ds, i, item.render ++ r⟩ (item.code i) ⟨.code, ds, i + item.render.length, r⟩ :=
  fun p rev => ⟨kind.preceding p, item.render.reverse ++ rev,
    codeFrom_literal hkind hwf ds p rev i r⟩

/-! ## 4. Items -/

/-- After the text of a template stands what opens an interpolation or ends the template. -/
theorem holes_head (holes : Holes) (r : List Char) :
    (holes.render ++ '`' :: r).head? ≠ some '{' := by
  cases holes with
  | nil =>
    show some '`' ≠ some '{'
    decide
  | cons =>
    show some '$' ≠ some '{'
    decide

mutual

/-- The scan of one item yields exactly the code the item lists. -/
theorem item_leads (item : Item) (hwf : item.WellFormed) {ds ds' : List Nat}
    (hbraces : item.ownCode.foldlM readBrace ds = some ds') (i : Nat) (r : List Char) :
    Leads ⟨.code, ds, i, item.render ++ r⟩ (item.code i)
      ⟨.code, ds', i + item.render.length, r⟩ := by
  match item with
  | .chunk code => exact chunk_leads hwf hbraces i r
  | .quoted quote body =>
    obtain rfl : ds = ds' := Option.some.inj hbraces
    exact literal_leads rfl hwf ds i r
  | .lineComment body =>
    obtain rfl : ds = ds' := Option.some.inj hbraces
    exact literal_leads rfl hwf ds i r
  | .blockComment body =>
    obtain rfl : ds = ds' := Option.some.inj hbraces
    exact literal_leads rfl hwf ds i r
  | .template text holes =>
    obtain rfl : ds = ds' := Option.some.inj hbraces
    obtain ⟨htext, hholes⟩ := hwf
    -- The backtick, the text up to the first interpolation, and the interpolations with the rest.
    have hopen : Leads ⟨.code, ds, i, '`' :: (renderText text ++ (holes.render ++ '`' :: r))⟩ []
        ⟨.template, ds, i + 1, renderText text ++ (holes.render ++ '`' :: r)⟩ :=
      .silent fun p rev => ⟨p, rfl⟩
    have hfirst := templateText_leads ds htext (i + 1) (holes_head holes r)
    have hrest := holes_leads holes hholes ds (i + 1 + (renderText text).length) r
    rw [show (Item.template text holes).render ++ r =
      '`' :: (renderText text ++ (holes.render ++ '`' :: r)) by simp [Item.render]]
    refine (hopen.trans (hfirst.trans hrest)).at_index ?_
    simp only [Item.render, List.length_cons, List.length_append, List.length_nil]
    omega

/-- The scan of a run of items yields the code of the items, one after the other. -/
theorem items_leads (items : Items) (hwf : items.WellFormed) {ds ds' : List Nat}
    (hbraces : items.ownCode.foldlM readBrace ds = some ds') (i : Nat) (r : List Char) :
    Leads ⟨.code, ds, i, items.render ++ r⟩ (items.code i)
      ⟨.code, ds', i + items.render.length, r⟩ := by
  match items with
  | .nil =>
    obtain rfl : ds = ds' := Option.some.inj hbraces
    exact .refl _
  | .cons item rest =>
    -- The braces of the first item lead to the interpolations that the rest is read in.
    rw [Items.ownCode, List.foldlM_append] at hbraces
    obtain ⟨ds₁, hitem, hrest⟩ := Option.bind_eq_some_iff.mp hbraces
    have h := (item_leads item hwf.1 hitem i (rest.render ++ r)).trans
      (items_leads rest hwf.2 hrest (i + item.render.length) r)
    rw [Items.render, List.append_assoc, List.length_append, ← Nat.add_assoc]
    exact h

/-- The scan of a template yields the code of its interpolations and nothing else. -/
theorem holes_leads (holes : Holes) (hwf : holes.WellFormed) (ds : List Nat) (i : Nat)
    (r : List Char) :
    Leads ⟨.template, ds, i, holes.render ++ '`' :: r⟩ (holes.code i)
      ⟨.code, ds, i + holes.render.length + 1, r⟩ := by
  match holes with
  | .nil => exact .silent fun p rev => ⟨.mark '`', rfl⟩
  | .cons items text rest =>
    obtain ⟨⟨hitems, hbalanced⟩, htext, hrest⟩ := hwf
    have hdollar : Leads ⟨.template, ds, i, '$' :: '{' :: (items.render ++
        '}' :: (renderText text ++ (rest.render ++ '`' :: r)))⟩ []
        ⟨.templateOpen, ds, i + 1, '{' :: (items.render ++
          '}' :: (renderText text ++ (rest.render ++ '`' :: r)))⟩ :=
      .silent fun p rev => ⟨p, rfl⟩
    have hopen : Leads ⟨.templateOpen, ds, i + 1, '{' :: (items.render ++
        '}' :: (renderText text ++ (rest.render ++ '`' :: r)))⟩ []
        ⟨.code, 0 :: ds, i + 2, items.render ++
          '}' :: (renderText text ++ (rest.render ++ '`' :: r))⟩ :=
      .silent fun p rev => ⟨.mark '{', rfl⟩
    -- The braces of the items balance, so the interpolation is still at depth zero after them.
    have hinner := items_leads items hitems (hbalanced.foldlM_readBrace ds) (i + 2)
      ('}' :: (renderText text ++ (rest.render ++ '`' :: r)))
    have hclose : Leads ⟨.code, 0 :: ds, i + 2 + items.render.length,
        '}' :: (renderText text ++ (rest.render ++ '`' :: r))⟩ []
        ⟨.template, ds, i + 2 + items.render.length + 1,
          renderText text ++ (rest.render ++ '`' :: r)⟩ :=
      .silent fun p rev => ⟨p, rfl⟩
    have hafter := templateText_leads ds htext (i + 2 + items.render.length + 1)
      (holes_head rest r)
    have hlast := holes_leads rest hrest ds
      (i + 2 + items.render.length + 1 + (renderText text).length) r
    rw [show (Holes.cons items text rest).render ++ '`' :: r = '$' :: '{' :: (items.render ++
      '}' :: (renderText text ++ (rest.render ++ '`' :: r))) by simp [Holes.render]]
    refine ((hdollar.trans hopen).trans
      (hinner.trans (hclose.trans (hafter.trans hlast)))).at_index ?_
    simp only [Holes.render, List.length_cons, List.length_append]
    omega

end

/-- Scanning the rendering of well-formed items yields exactly their code characters, in order. -/
theorem codeChars_render (items : Items) (hwf : items.WellFormed) :
    codeChars items.render = items.code 0 := by
  obtain ⟨p, rev, hscan⟩ := items_leads items hwf (foldlM_readBrace_nil _) 0 [] .start []
  rw [List.append_nil] at hscan
  show codeFrom {} [] 0 items.render = items.code 0
  rw [hscan]
  exact List.append_nil _

/-- A template with an interpolation that holds a block and a string. -/
theorem codeChars_render_template :
    let inner : Items :=
      .cons (.chunk ['{']) (.cons (.quoted '"' [.plain '}']) (.cons (.chunk ['}']) .nil))
    let items : Items := .cons (.template [.escaped '`'] (.cons inner [.plain '{'] .nil)) .nil
    items.WellFormed ∧ codeChars items.render = [(5, '{'), (9, '}')] := by
  intro inner items
  have hwf : items.WellFormed := by decide
  exact ⟨hwf, codeChars_render items hwf⟩

end Grading.Source
