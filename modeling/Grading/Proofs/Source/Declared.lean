import Grading.Source.Locate
import Grading.Proofs.Source.Heads
import Grading.Proofs.Source.Placement
import Grading.Proofs.Source.Signature

/-!
# Declared — a declaration at the start of a text is located

A text that begins with a declaration whose body is closed yields that body, whatever follows it:
the head of the declaration is the first one of its kind, and none of a kind that is looked for
earlier stands in the text when the declared name stands nowhere else.
-/

namespace Grading.Source

open Grading.Text

/-! ## 1. A declaration at the start of a text -/

theorem heads_start {kind : UnitKind} {name head rest : List Char} {c : Char}
    (h : kind.head? name (c :: (head ++ rest)) = some rest) :
    ∃ more, heads kind name (c :: (head ++ rest)) = (0, (c :: head).length) :: more := by
  refine ⟨headsFrom (kind.head? name) (c :: head).length 1 (some c) (head ++ rest), ?_⟩
  have hstop : 0 + ((c :: (head ++ rest)).length - rest.length) = (c :: head).length := by
    simp
    omega
  rw [heads, headsFrom, if_pos (by simp), h]
  dsimp only
  rw [hstop]

theorem codeMask_start {c : Char} (hc : isCalm c = true) (r : List Char) :
    (codeMask (c :: r))[0]? = some true := by
  rw [codeMask, maskFrom, step_calm hc]
  rfl

/-- What the first kind of declaration that begins a text settles. -/
theorem firstUnit_start {kind : UnitKind} {name : String} {head rest : List Char} {c : Char}
    (hc : isCalm c = true) (hhead : kind.head? name.toList (c :: (head ++ rest)) = some rest)
    {brace : Nat} (hbody : kind.body? (c :: (head ++ rest)) (c :: head).length = some brace)
    (kinds : List UnitKind) :
    firstUnit name (c :: (head ++ rest)) (codeMask (c :: (head ++ rest))) (kind :: kinds) =
      (blockEnd (c :: (head ++ rest)) brace).map fun close =>
        { name, kind, start := brace + 1, stop := close,
          text := String.ofList
            (((c :: (head ++ rest)).drop (brace + 1)).take (close - (brace + 1))) } := by
  obtain ⟨more, hheads⟩ := heads_start hhead
  rw [firstUnit, hheads, firstBody, if_pos (codeMask_start hc _), hbody]
  dsimp only
  cases blockEnd (c :: (head ++ rest)) brace <;> rfl

theorem firstUnit_absent {name : String} {text : List Char} {mask : List Bool}
    {absent : List UnitKind} (h : ∀ k ∈ absent, heads k name.toList text = [])
    (kinds : List UnitKind) :
    firstUnit name text mask (absent ++ kinds) = firstUnit name text mask kinds := by
  induction absent with
  | nil => rfl
  | cons k absent ih =>
    rw [List.cons_append, firstUnit, h k List.mem_cons_self]
    exact ih fun k hk => h k (List.mem_cons_of_mem _ hk)

def unitAfter (name : String) (kind : UnitKind) (before body : String) : SourceUnit :=
  { name, kind, text := body, start := before.length + 1, stop := before.length + 1 + body.length }

theorem toList_placed (before body rest : String) :
    (before ++ "\x7b" ++ body ++ "\x7d" ++ rest).toList =
      before.toList ++ '{' :: (body.toList ++ '}' :: rest.toList) := by
  simp [String.toList_append]

/-- A declaration at the start of a text, when the search for its body ends at a brace. -/
theorem locate_start {absent later : List UnitKind} {kind : UnitKind}
    {name before body rest : String} {head sig : List Char} {c d : Char} {brace : Nat}
    (hkinds : declarationKinds = absent ++ kind :: later) (hname : IsName name.toList)
    (hc : isCalm c = true) (hbefore : before.toList = (c :: head) ++ d :: sig)
    (habsent : ∀ k ∈ absent,
      heads k name.toList (before ++ "\x7b" ++ body ++ "\x7d" ++ rest).toList = [])
    (hhead : ∀ s, kind.head? name.toList ((c :: head) ++ d :: s) = some (d :: s))
    (hsearch : kind.body? (before ++ "\x7b" ++ body ++ "\x7d" ++ rest).toList (c :: head).length =
      some brace) :
    locate (before ++ "\x7b" ++ body ++ "\x7d" ++ rest) name =
      (blockEnd (before ++ "\x7b" ++ body ++ "\x7d" ++ rest).toList brace).map fun close =>
        { name, kind, start := brace + 1, stop := close,
          text := String.ofList (((before ++ "\x7b" ++ body ++ "\x7d" ++ rest).toList.drop
            (brace + 1)).take (close - (brace + 1))) } := by
  have hsource : (before ++ "\x7b" ++ body ++ "\x7d" ++ rest).toList =
      c :: (head ++ d :: (sig ++ '{' :: (body.toList ++ '}' :: rest.toList))) := by
    rw [toList_placed, hbefore, List.append_assoc]
    rfl
  rw [locate, locateWith, hname.isDeclarable, hkinds, firstUnit_absent habsent]
  rw [hsource] at hsearch ⊢
  exact firstUnit_start hc (hhead _) hsearch later

/-- The unit when that brace is the one of a body that is closed. -/
theorem unit_placed {before body rest : String} (name : String) (kind : UnitKind)
    (hbody : blockEnd ("\x7b" ++ body ++ "\x7d").toList 0 = some (body.length + 1)) :
    ((blockEnd (before ++ "\x7b" ++ body ++ "\x7d" ++ rest).toList before.length).map fun close =>
      ({ name, kind, start := before.length + 1, stop := close,
         text := String.ofList
          (((before ++ "\x7b" ++ body ++ "\x7d" ++ rest).toList.drop (before.length + 1)).take
            (close - (before.length + 1))) } : SourceUnit)) =
      some (unitAfter name kind before body) := by
  have hblock : blockEnd ('{' :: (body.toList ++ ['}'])) 0 = some (body.toList.length + 1) := by
    rw [String.length_toList, ← hbody]
    simp [String.toList_append]
  have hend := blockEnd_placed hblock before.toList rest.toList
  have hcut : (before.toList ++ '{' :: (body.toList ++ '}' :: rest.toList)).drop
      (before.length + 1) = body.toList ++ '}' :: rest.toList := by
    rw [← String.length_toList, List.drop_append, List.drop_of_length_le (Nat.le_succ _),
      Nat.add_sub_cancel_left]
    rfl
  rw [String.length_toList, String.length_toList] at hend
  rw [toList_placed, hend, Option.map_some, hcut, Nat.add_sub_cancel_left,
    List.take_left' String.length_toList, String.ofList_toList]
  rfl

/-- A scan that begins after the head of a declaration yields all that is plain before its body. -/
theorem codeChars_placed {before : String} {head sig : List Char}
    (hbefore : before.toList = head ++ sig) (hplain : IsPlain (sig ++ ['{']))
    (body rest : String) :
    ∃ later, codeChars (before ++ "\x7b" ++ body ++ "\x7d" ++ rest).toList head.length =
      indexed head.length (sig ++ ['{']) ++ later := by
  have htext : (before ++ "\x7b" ++ body ++ "\x7d" ++ rest).toList =
      head ++ ((sig ++ ['{']) ++ (body.toList ++ '}' :: rest.toList)) := by
    rw [toList_placed, hbefore]
    simp
  rw [htext]
  exact codeChars_plain head hplain _

/-! ## 2. Functions -/

def functionSignature (name params : String) (type : Option String) : String :=
  "function " ++ name ++ "(" ++ params ++ ")" ++
    type.elim "" (fun t => ": \x7b" ++ t ++ "\x7d") ++ " "

theorem toList_functionSignature (name params : String) (type : Option String) :
    (functionSignature name params type).toList = ("function ".toList ++ name.toList) ++
      '(' :: (params.toList ++ ')' :: (returnType (type.map String.toList) ++ [' '])) := by
  cases type <;> simp [functionSignature, returnType, String.toList_append]

theorem IsPlain.returnType {type : Option (List Char)} (h : ∀ t ∈ type, IsPlain t) :
    IsPlain (returnType type) := by
  cases type with
  | none => exact isPlain_nil
  | some t => simp [Source.returnType, h t rfl]

/-- A declared function is found, and its unit is exactly the body between its braces. -/
theorem locate_function {name params body rest : String} {type : Option String}
    (hname : IsName name.toList)
    (hbody : blockEnd ("\x7b" ++ body ++ "\x7d").toList 0 = some (body.length + 1))
    (hplain : IsPlain params.toList) (hparams : Paired '(' ')' params.toList)
    (htype : ∀ t ∈ type, IsPlain t.toList ∧ Balanced t.toList) :
    locate (functionSignature name params type ++ "\x7b" ++ body ++ "\x7d" ++ rest) name =
      some (unitAfter name .function (functionSignature name params type) body) := by
  have htype' : ∀ t ∈ type.map String.toList, IsPlain t ∧ Balanced t := by
    intro t ht
    obtain ⟨u, hu, rfl⟩ := Option.map_eq_some_iff.mp ht
    exact htype u hu
  have hreturn := IsPlain.returnType fun t ht => (htype' t ht).1
  have hbefore := toList_functionSignature name params type
  have hsearch : UnitKind.function.body?
      (functionSignature name params type ++ "\x7b" ++ body ++ "\x7d" ++ rest).toList
      ("function ".toList ++ name.toList).length =
        some (functionSignature name params type).length := by
    obtain ⟨more, hscan⟩ := codeChars_placed hbefore (by simp [hplain, hreturn]) body rest
    have hfound := functionBody_signature hparams (fun t ht => (htype' t ht).2)
      ("function ".toList ++ name.toList).length more
    rw [← List.length_append, ← hbefore, String.length_toList] at hfound
    rw [UnitKind.body?, hscan, ← hfound]
    simp
  have hhead : ∀ s, UnitKind.function.head? name.toList
      (("function ".toList ++ name.toList) ++ '(' :: s) = some ('(' :: s) := by
    intro s
    rw [List.append_assoc]
    exact functionHead?_append hname (by decide) s
  have habsent : ∀ k ∈ ([] : List UnitKind), heads k name.toList
      (functionSignature name params type ++ "\x7b" ++ body ++ "\x7d" ++ rest).toList = [] := by
    simp
  exact (locate_start rfl hname (c := 'f') (by decide) hbefore habsent hhead hsearch).trans
    (unit_placed name .function hbody)

/-! ## 3. Classes -/

def classSignature (name heritage : String) : String := "class " ++ name ++ heritage ++ " "

theorem Heritage.cons {heritage : List Char} (h : Heritage heritage) :
    ∃ s, heritage ++ [' '] = ' ' :: s := by
  cases heritage with
  | nil => exact ⟨[], rfl⟩
  | cons c r =>
    obtain rfl : c = ' ' := by simpa using h.apart
    exact ⟨r ++ [' '], rfl⟩

/-- A declared class is found, and its unit is exactly the body between its braces, as long as
its name stands nowhere else. -/
theorem locate_class {name heritage body rest : String} (hname : IsName name.toList)
    (hbody : blockEnd ("\x7b" ++ body ++ "\x7d").toList 0 = some (body.length + 1))
    (h : Heritage heritage.toList) (hheritage : ¬ name.toList <:+: heritage.toList)
    (hinner : ¬ name.toList <:+: body.toList) (hrest : ¬ name.toList <:+: rest.toList) :
    locate (classSignature name heritage ++ "\x7b" ++ body ++ "\x7d" ++ rest) name =
      some (unitAfter name .classDecl (classSignature name heritage) body) := by
  obtain ⟨s, hs⟩ := h.cons
  have hbefore : (classSignature name heritage).toList =
      ("class ".toList ++ name.toList) ++ ' ' :: s := by
    rw [← hs]
    simp [classSignature, String.toList_append]
  have hsearch : UnitKind.classDecl.body?
      (classSignature name heritage ++ "\x7b" ++ body ++ "\x7d" ++ rest).toList
      ("class ".toList ++ name.toList).length = some (classSignature name heritage).length := by
    have hplain : IsPlain (' ' :: s ++ ['{']) := by
      rw [← hs]
      simp [h.plain]
    obtain ⟨more, hscan⟩ := codeChars_placed hbefore hplain body rest
    have hfound := classBody_signature h ("class ".toList ++ name.toList).length more
    rw [hs, ← List.length_append, ← hbefore, String.length_toList] at hfound
    rw [UnitKind.body?, hscan, ← hfound, ← hs]
    simp
  have hhead : ∀ s, UnitKind.classDecl.head? name.toList
      (("class ".toList ++ name.toList) ++ ' ' :: s) = some (' ' :: s) := by
    intro s
    rw [List.append_assoc]
    exact classHead?_append hname (by decide) s
  have hsource : (classSignature name heritage ++ "\x7b" ++ body ++ "\x7d" ++ rest).toList =
      "class ".toList ++ (name.toList ++ ' ' ::
        (s ++ '{' :: (body.toList ++ '}' :: rest.toList))) := by
    rw [toList_placed, hbefore]
    simp
  -- Behind the keyword the name stands in the head only, so that no other kind of head has it.
  have hbehind : ¬ name.toList <:+:
      (classSignature name heritage ++ "\x7b" ++ body ++ "\x7d" ++ rest).toList.drop 7 := by
    have hsig : ¬ name.toList <:+: s := by
      intro hin
      have hin : name.toList <:+: heritage.toList ++ [' '] := hs ▸ List.infix_cons hin
      rcases infix_split (hname.notMem (by decide)) hin with hin | hin
      · exact hheritage hin
      · exact hname.not_infix (by decide) hin
    rw [hsource]
    exact hname.not_infix_drop rfl (hname.not_infix_placed hsig hinner hrest)
  have habsent : ∀ k ∈ [UnitKind.function, UnitKind.assignment], heads k name.toList
      (classSignature name heritage ++ "\x7b" ++ body ++ "\x7d" ++ rest).toList = [] := by
    simp only [List.forall_mem_cons]
    refine ⟨heads_function_eq_nil hbehind, ?_, by simp⟩
    rw [hsource] at hbehind ⊢
    exact heads_assignment_eq_nil (s := ' ' :: (name.toList ++ ' ' ::
      (s ++ '{' :: (body.toList ++ '}' :: rest.toList)))) hbehind
  exact (locate_start rfl hname (c := 'c') (by decide) hbefore habsent hhead hsearch).trans
    (unit_placed name .classDecl hbody)

/-! ## 4. Arrow functions -/

def arrowSignature (name params : String) : String :=
  "const " ++ name ++ " = (" ++ params ++ ") => "

theorem toList_arrowSignature (name params : String) : (arrowSignature name params).toList =
    ("const ".toList ++ name.toList ++ [' ', '=']) ++
      ' ' :: '(' :: (params.toList ++ ") => ".toList) := by
  simp [arrowSignature, String.toList_append]

/-- A search that ends at a brace of the text before the body gives no unit, or one that begins in
that text. -/
theorem locate_arrow {name params body rest : String} (hname : IsName name.toList)
    (hparams : ¬ name.toList <:+: params.toList) (hinner : ¬ name.toList <:+: body.toList)
    (hrest : ¬ name.toList <:+: rest.toList) {brace : Nat}
    (hsearch : UnitKind.assignment.body?
      (arrowSignature name params ++ "\x7b" ++ body ++ "\x7d" ++ rest).toList
      ("const ".toList ++ name.toList ++ [' ', '=']).length = some brace) :
    locate (arrowSignature name params ++ "\x7b" ++ body ++ "\x7d" ++ rest) name =
      (blockEnd (arrowSignature name params ++ "\x7b" ++ body ++ "\x7d" ++ rest).toList
        brace).map fun close =>
        { name, kind := .assignment, start := brace + 1, stop := close,
          text := String.ofList (((arrowSignature name params ++ "\x7b" ++ body ++ "\x7d" ++
            rest).toList.drop (brace + 1)).take (close - (brace + 1))) } := by
  have hbefore := toList_arrowSignature name params
  have hhead : ∀ s, UnitKind.assignment.head? name.toList
      (("const ".toList ++ name.toList ++ [' ', '=']) ++ ' ' :: s) = some (' ' :: s) := by
    intro s
    rw [List.append_assoc, List.append_assoc]
    exact assignmentHead?_append hname s
  have hsource : (arrowSignature name params ++ "\x7b" ++ body ++ "\x7d" ++ rest).toList =
      "const ".toList ++ (name.toList ++ ' ' :: (("= ".toList ++ '(' :: (params.toList ++ ')' ::
        " => ".toList)) ++ '{' :: (body.toList ++ '}' :: rest.toList))) := by
    rw [toList_placed, hbefore]
    simp
  have hsig : ¬ name.toList <:+: "= ".toList ++ '(' :: (params.toList ++ ')' :: " => ".toList) := by
    intro hin
    rcases infix_split (hname.notMem (by decide)) hin with hin | hin
    · exact hname.not_infix (by decide) hin
    rcases infix_split (hname.notMem (by decide)) hin with hin | hin
    · exact hparams hin
    · exact hname.not_infix (by decide) hin
  -- Without the name behind the keyword there is no head of a function.
  have habsent : ∀ k ∈ [UnitKind.function], heads k name.toList
      (arrowSignature name params ++ "\x7b" ++ body ++ "\x7d" ++ rest).toList = [] := by
    rw [List.forall_mem_singleton, hsource]
    exact heads_function_eq_nil
      (hname.not_infix_drop rfl (hname.not_infix_placed hsig hinner hrest))
  exact locate_start rfl hname (c := 'c') (by decide) hbefore habsent hhead hsearch

/-! ## 5. Where the unit of a declaration stands -/

/-- A function or a class at the start of a text has the text between its braces as its unit, for
all parameters, return types and clauses that close their brackets and whatever follows the body. -/
theorem declaration_located (name body rest : String) (hname : IsName name.toList)
    (hbody : blockEnd ("\x7b" ++ body ++ "\x7d").toList 0 = some (body.length + 1)) :
    (∀ (params : String) (type : Option String), IsPlain params.toList →
      Paired '(' ')' params.toList → (∀ t ∈ type, IsPlain t.toList ∧ Balanced t.toList) →
        locate (functionSignature name params type ++ "\x7b" ++ body ++ "\x7d" ++ rest) name =
          some (unitAfter name .function (functionSignature name params type) body)) ∧
    ∀ heritage : String, Heritage heritage.toList → ¬ name.toList <:+: heritage.toList →
      ¬ name.toList <:+: body.toList → ¬ name.toList <:+: rest.toList →
        locate (classSignature name heritage ++ "\x7b" ++ body ++ "\x7d" ++ rest) name =
          some (unitAfter name .classDecl (classSignature name heritage) body) :=
  ⟨fun _ _ hplain hparams htype => locate_function hname hbody hplain hparams htype,
    fun _ h hheritage hinner hrest => locate_class hname hbody h hheritage hinner hrest⟩

/-- A function with braces in its parameters and its return type, and a class with braces in its
clause. -/
theorem declaration_located_nested :
    locate ("function f(a = \x7b b: (1) \x7d): \x7bn: \x7b\x7d\x7d " ++
        "\x7b" ++ "if (a) \x7b;\x7d" ++ "\x7d" ++ " \x7d") "f" =
      some ⟨"f", .function, "if (a) \x7b;\x7d", 37, 47⟩ ∧
    locate "class C extends M(\x7b x: 1; \x7d) \x7bif (a) \x7b;\x7d\x7d \x7d" "C" =
      some ⟨"C", .classDecl, "if (a) \x7b;\x7d", 30, 40⟩ := by
  have hbody : blockEnd ("\x7b" ++ "if (a) \x7b;\x7d" ++ "\x7d").toList 0 =
      some ("if (a) \x7b;\x7d".length + 1) := by decide
  have hfunction := (declaration_located "f" "if (a) \x7b;\x7d" " \x7d" (by decide) hbody).1
    "a = \x7b b: (1) \x7d" (some "n: \x7b\x7d") (by decide) (by decide) (by decide)
  have hclass := (declaration_located "C" "if (a) \x7b;\x7d" " \x7d" (by decide) hbody).2
    " extends M(\x7b x: 1; \x7d)" (by decide) (by decide) (by decide) (by decide)
  exact ⟨hfunction, hclass⟩

/-- An arrow function at the start of a text has the text between its braces as its unit exactly if
no brace of its parameters follows a closing parenthesis or an arrow. -/
theorem arrow_located_iff (name params body rest : String) (hname : IsName name.toList)
    (hbody : blockEnd ("\x7b" ++ body ++ "\x7d").toList 0 = some (body.length + 1))
    (hplain : IsPlain params.toList) (hnested : IsNested params.toList)
    (hparams : ¬ name.toList <:+: params.toList) (hinner : ¬ name.toList <:+: body.toList)
    (hrest : ¬ name.toList <:+: rest.toList) :
    locate (arrowSignature name params ++ "\x7b" ++ body ++ "\x7d" ++ rest) name =
      some (unitAfter name .assignment (arrowSignature name params) body) ↔
        ¬ HasBodyMark params.toList := by
  have hbefore := toList_arrowSignature name params
  have hlength : (arrowSignature name params).length =
      ("const ".toList ++ name.toList ++ [' ', '=']).length +
        (' ' :: '(' :: (params.toList ++ ") => ".toList)).length := by
    rw [← List.length_append, ← hbefore, String.length_toList]
  obtain ⟨more, hscan⟩ := codeChars_placed hbefore (by simp [hplain]) body rest
  have hjoin : ' ' :: '(' :: (params.toList ++ ") => ".toList) ++ ['{'] =
      ' ' :: '(' :: (params.toList ++ ") => \x7b".toList) := by simp
  rw [hjoin] at hscan
  -- The head is found whatever the parameters are; where its body begins is up to the search.
  have hlocate := fun brace => @locate_arrow name params body rest hname hparams hinner hrest brace
  rw [UnitKind.body?, hscan] at hlocate
  rcases valueBody_signature hnested
      (arrowSignature name params ++ "\x7b" ++ body ++ "\x7d" ++ rest).toList
      ("const ".toList ++ name.toList ++ [' ', '=']).length more with
    ⟨hnone, hfound⟩ | ⟨hmark, k, hk, hfound⟩
  · rw [← hlength] at hfound
    refine iff_of_true ?_ hnone
    rw [hlocate _ hfound]
    exact unit_placed name .assignment hbody
  · refine iff_of_false ?_ (not_not_intro hmark)
    rw [hlocate _ hfound]
    intro hunit
    obtain ⟨close, -, hunit⟩ := Option.map_eq_some_iff.mp hunit
    -- A unit that begins inside of the parameters begins too early.
    have hstart := congrArg SourceUnit.start hunit
    change _ + 2 + k + 1 = (arrowSignature name params).length + 1 at hstart
    have hsig : (' ' :: '(' :: (params.toList ++ ") => ".toList)).length =
        params.toList.length + 7 := by simp
    omega

/-- A call in a default value, whose brace follows a comma. -/
theorem arrow_located_iff_call :
    locate "const f = (\x7b a = b(c, \x7b\x7d) \x7d) => \x7bd\x7d;" "f" =
      some ⟨"f", .assignment, "d", 33, 34⟩ :=
  (arrow_located_iff "f" "\x7b a = b(c, \x7b\x7d) \x7d" "d" ";" (by decide) (by decide) (by decide)
    (by decide) (by decide) (by decide) (by decide)).mpr (by decide)

/-- The body of an arrow function in a default value is taken for the body of the declared one. -/
theorem arrow_in_default :
    let params := "\x7b g = () => \x7b\x7d \x7d"
    IsName "f".toList ∧ blockEnd "\x7bd\x7d".toList 0 = some 2 ∧ IsPlain params.toList ∧
      IsNested params.toList ∧ ¬ "f".toList <:+: params.toList ∧ ¬ "f".toList <:+: "d".toList ∧
      ¬ "f".toList <:+: ";".toList ∧
      locate (arrowSignature "f" params ++ "\x7b" ++ "d" ++ "\x7d" ++ ";") "f" =
        some ⟨"f", .assignment, "", 24, 24⟩ := by
  decide

end Grading.Source
