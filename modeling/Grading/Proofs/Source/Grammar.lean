import Mathlib.Data.List.Infix
import Grading.Source.Scan

/-!
# Grammar — source texts as sequences of items

An item is a chunk of code, a quoted string, a comment or a template. Templates hold items in their
interpolations, to any depth. Each sequence of items has a rendering and, for it, the characters
that are code.
-/

namespace Grading.Source

/-! ## 1. Items -/

inductive Piece where
  | plain (c : Char)
  /-- A backslash and the character after it. -/
  | escaped (c : Char)
  deriving DecidableEq, Repr

mutual

inductive Item where
  | chunk (code : List Char)
  | quoted (quote : Char) (body : List Piece)
  | lineComment (body : List Char)
  | blockComment (body : List Char)
  /-- A template: the text up to the first interpolation, then the interpolations. -/
  | template (text : List Piece) (holes : Holes)

inductive Items where
  | nil
  | cons (item : Item) (rest : Items)

inductive Holes where
  | nil
  | cons (items : Items) (text : List Piece) (rest : Holes)

end

/-! ## 2. Rendering -/

def Piece.render : Piece → List Char
  | .plain c => [c]
  | .escaped c => ['\\', c]

def renderText (text : List Piece) : List Char :=
  text.flatMap Piece.render

mutual

def Item.render : Item → List Char
  | .chunk code => code
  | .quoted quote body => quote :: (renderText body ++ [quote])
  | .lineComment body => '/' :: '/' :: (body ++ ['\n'])
  | .blockComment body => '/' :: '*' :: (body ++ ['*', '/'])
  | .template text holes => '`' :: (renderText text ++ (holes.render ++ ['`']))

def Items.render : Items → List Char
  | .nil => []
  | .cons item rest => item.render ++ rest.render

def Holes.render : Holes → List Char
  | .nil => []
  | .cons items text rest =>
    '$' :: '\x7b' :: (items.render ++ '\x7d' :: (renderText text ++ rest.render))

end

/-! ## 3. Code characters -/

def indexed (i : Nat) : List Char → List (Nat × Char)
  | [] => []
  | c :: r => (i, c) :: indexed (i + 1) r

mutual

/-- The code characters of an item that is rendered from index `i` on: those of chunks and the line
feed that ends a line comment. -/
def Item.code (i : Nat) : Item → List (Nat × Char)
  | .chunk code => indexed i code
  | .lineComment body => [(i + 2 + body.length, '\n')]
  | .template text holes => holes.code (i + 1 + (renderText text).length)
  | .quoted .. => []
  | .blockComment .. => []

def Items.code (i : Nat) : Items → List (Nat × Char)
  | .nil => []
  | .cons item rest => item.code i ++ rest.code (i + item.render.length)

def Holes.code (i : Nat) : Holes → List (Nat × Char)
  | .nil => []
  | .cons items text rest =>
    items.code (i + 2) ++
      rest.code (i + 2 + items.render.length + 1 + (renderText text).length)

end

/-! ## 4. Well-formed items -/

def Item.ownCode : Item → List Char
  | .chunk code => code
  | _ => []

/-- The characters of the chunks among the items themselves, not of those in their interpolations.
-/
def Items.ownCode : Items → List Char
  | .nil => []
  | .cons item rest => item.ownCode ++ rest.ownCode

/-- As many braces are closed as opened, and none before it is opened. -/
def Balanced (code : List Char) : Prop :=
  code.count '{' = code.count '}' ∧ ∀ p, p <+: code → p.count '}' ≤ p.count '{'

/-- A text of a template opens no interpolation and does not end the template. -/
structure TemplateText (text : List Piece) : Prop where
  plain : ∀ c, Piece.plain c ∈ text → c ≠ '`' ∧ c ≠ '\\'
  noOpening : ¬ [Piece.plain '$', Piece.plain '{'] <:+: text

mutual

def Item.WellFormed : Item → Prop
  | .chunk code => ∀ c ∈ code, c ≠ '\'' ∧ c ≠ '"' ∧ c ≠ '`' ∧ c ≠ '/'
  | .quoted quote body =>
    (quote = '\'' ∨ quote = '"') ∧ ∀ c, Piece.plain c ∈ body → c ≠ quote ∧ c ≠ '\\' ∧ c ≠ '\n'
  | .lineComment body => '\n' ∉ body
  | .blockComment body => ¬ ['*', '/'] <:+: body
  | .template text holes => TemplateText text ∧ holes.WellFormed

def Items.WellFormed : Items → Prop
  | .nil => True
  | .cons item rest => item.WellFormed ∧ rest.WellFormed

def Holes.WellFormed : Holes → Prop
  | .nil => True
  | .cons items text rest =>
    (items.WellFormed ∧ Balanced items.ownCode) ∧ TemplateText text ∧ rest.WellFormed

end

/-! ## 5. Deciding well-formedness -/

def Piece.plain? : Piece → Option Char
  | .plain c => some c
  | .escaped _ => none

theorem forall_plain (text : List Piece) (P : Char → Prop) :
    (∀ c ∈ text.filterMap Piece.plain?, P c) ↔ ∀ c, Piece.plain c ∈ text → P c := by
  refine ⟨fun h c hc => h c (List.mem_filterMap.mpr ⟨.plain c, hc, rfl⟩), fun h c hc => ?_⟩
  obtain ⟨piece, hpiece, hplain⟩ := List.mem_filterMap.mp hc
  cases piece with
  | plain d => exact h c (Option.some.inj hplain ▸ hpiece)
  | escaped d => exact nomatch hplain

-- Characters are finitely many, but trying all of them decides nothing in practice: the instance for
-- the members of a list is named.
def decidableForallPlain (text : List Piece) (P : Char → Prop) [DecidablePred P] :
    Decidable (∀ c, Piece.plain c ∈ text → P c) :=
  @decidable_of_iff _ _ (forall_plain text P) (List.decidableBAll P (text.filterMap Piece.plain?))

instance (code : List Char) : Decidable (Balanced code) :=
  decidable_of_iff (code.count '{' = code.count '}' ∧ ∀ p ∈ code.inits, p.count '}' ≤ p.count '{')
    (and_congr_right' (forall_congr' fun p => by rw [List.mem_inits]))

instance (text : List Piece) : Decidable (TemplateText text) :=
  have : Decidable (∀ c, Piece.plain c ∈ text → c ≠ '`' ∧ c ≠ '\\') := decidableForallPlain text _
  decidable_of_iff ((∀ c, Piece.plain c ∈ text → c ≠ '`' ∧ c ≠ '\\') ∧
      ¬ [Piece.plain '$', Piece.plain '{'] <:+: text)
    ⟨fun h => ⟨h.1, h.2⟩, fun h => ⟨h.1, h.2⟩⟩

mutual

def Item.decidableWellFormed : (item : Item) → Decidable item.WellFormed
  | .chunk code => List.decidableBAll _ code
  | .quoted _ body => @instDecidableAnd _ _ inferInstance (decidableForallPlain body _)
  | .lineComment body => inferInstanceAs (Decidable ('\n' ∉ body))
  | .blockComment body => inferInstanceAs (Decidable (¬ ['*', '/'] <:+: body))
  | .template _ holes => @instDecidableAnd _ _ inferInstance holes.decidableWellFormed

def Items.decidableWellFormed : (items : Items) → Decidable items.WellFormed
  | .nil => .isTrue trivial
  | .cons item rest => @instDecidableAnd _ _ item.decidableWellFormed rest.decidableWellFormed

def Holes.decidableWellFormed : (holes : Holes) → Decidable holes.WellFormed
  | .nil => .isTrue trivial
  | .cons items _ rest =>
    @instDecidableAnd _ _ (@instDecidableAnd _ _ items.decidableWellFormed inferInstance)
      (@instDecidableAnd _ _ inferInstance rest.decidableWellFormed)

end

instance (items : Items) : Decidable items.WellFormed := items.decidableWellFormed

end Grading.Source
