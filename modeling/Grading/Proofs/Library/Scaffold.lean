import Grading.Proofs.Files.Decoding
import Grading.Proofs.Files.Loading
import Grading.Proofs.Library.Register
import Grading.Rule.Scaffold

/-!
# Scaffold — which rule files to begin with can be loaded

A new rule file is loaded just when no two of its units are the same but for the case of their letters.
Then each unit has its rule. Else the file is refused at the first unit that is like one before it. All
that is asked of printer and reader is that the document is read as what was printed.
-/

namespace Grading

open Grading.Files Grading.Text

/-! ## 1. Repeated keys -/

/-- When keys repeat, one of them is the first to do so. -/
theorem exists_first_repeated {α κ : Type} {key : α → κ} {l : List α} (h : ¬(l.map key).Nodup) :
    ∃ before a after, l = before ++ a :: after ∧ (before.map key).Nodup ∧ key a ∈ before.map key := by
  induction l using List.reverseRecOn with
  | nil => exact absurd List.nodup_nil h
  | append_singleton l a ih =>
    by_cases hl : (l.map key).Nodup
    · refine ⟨l, a, [], rfl, hl, ?_⟩
      by_contra hnew
      apply h
      rw [List.map_append, List.map_singleton, (List.perm_append_singleton _ _).nodup_iff]
      exact List.nodup_cons.mpr ⟨hnew, hl⟩
    · obtain ⟨before, b, after, rfl, hbefore, hb⟩ := ih hl
      exact ⟨before, b, after ++ [a], by simp, hbefore, hb⟩

section Rules

variable {path : Path} {ds : List Data} {r : Rule} {rs : List Rule}

/-- Rules whose identifiers are all new are read one by one. -/
theorem readRules_of_nodup (h : List.Forall₂ (fun d r => readRule d = .ok r) ds rs)
    (hids : (rs.map Rule.id).Nodup) : readRules path 0 [] ds = .ok rs := by
  obtain ⟨seen, -, hread⟩ := readRules_append h path 0 [] hids []
  rw [List.append_nil] at hread
  rw [hread, readRules]
  show Except.ok (rs ++ []) = _
  rw [List.append_nil]

/-- The first rule whose identifier came before is refused. -/
theorem readRules_duplicate {before after : List Rule}
    (h : List.Forall₂ (fun d r => readRule d = .ok r) ds (before ++ r :: after))
    (hids : (before.map Rule.id).Nodup) (hrepeated : r.id ∈ before.map Rule.id) :
    readRules path 0 [] ds = .error (.file path (.duplicate r.id)) := by
  have hbefore := List.forall₂_take_append ds before (r :: after) h
  obtain ⟨d, rest, hd, -, hdrop⟩ :=
    List.forall₂_cons_right_iff.mp (List.forall₂_drop_append ds before (r :: after) h)
  obtain ⟨seen, hseen, hread⟩ :=
    readRules_append hbefore path 0 [] hids (d :: rest)
  rw [← List.take_append_drop before.length ds, hdrop, hread, readRules_cons hd,
    if_pos (hseen.mem_iff.mpr hrepeated)]
  rfl

end Rules

/-! ## 2. Files -/

/-- A document is read as the value that it was printed from, and it has plain line breaks. -/
structure ReadsBack (read : DocumentReader) (print : DocumentPrinter) (d : Data) : Prop where
  plain : '\r' ∉ (print d).toList
  inverse : read { text := print d } = .ok d

theorem readDocument_print {read : DocumentReader} {print : DocumentPrinter} {d : Data}
    (h : ReadsBack read print d) {tree : Tree} {path : Path}
    (hread : tree.read path = .ok (encode (print d))) : readDocument read tree path = .ok d :=
  readDocument_eq_ok.mpr ⟨_, stream_encode hread h.plain, h.inverse⟩

/-- A file that can be read and ends as rule files do is the rule file of its own path. -/
theorem ruleFiles?_of_read {tree : Tree} {path : Path} {bytes : List UInt8}
    (hread : tree.read path = .ok bytes) (hend : path.suffix ∈ ruleFileEnds) :
    ruleFiles? tree path = some [path] := by
  have hfind : tree.find path = .ok (.file bytes) := by
    unfold Tree.read at hread
    obtain ⟨e, he, h⟩ := bind_eq_ok.mp hread
    cases e with
    | directory => exact nomatch h
    | file bytes' =>
      obtain rfl := Except.ok.inj h
      exact he
  have hdirectory : tree.isDirectory path = false := by
    unfold Tree.isDirectory
    rw [hfind]
    rfl
  have hfile : tree.isFile path = true := by
    unfold Tree.isFile
    rw [hfind]
  unfold ruleFiles?
  rw [hdirectory, hfile, List.contains_iff_mem.mpr hend]
  rfl

namespace Library

/-- Definitions with new identifiers come behind those that are there, and nothing is told of them. -/
theorem defineAll_of_nodup (exercise : String) (source : Option String) {rules : List Rule}
    (held : List Definition) (h : (held.map Definition.id ++ rules.map Rule.id).Nodup) :
    defineAll exercise source rules held = (held ++ rules.map (⟨·, source⟩), []) := by
  induction rules generalizing held with
  | nil => rw [defineAll, List.map_nil, List.append_nil]
  | cons r rules ih =>
    have hdefine := define_of_new exercise (d := ⟨r, source⟩) (not_mem_left h)
    have hrest := ih (held ++ [⟨r, source⟩]) (by
      rw [List.map_append, List.append_assoc]
      exact h)
    rw [defineAll]
    simp only [hdefine, hrest]
    rw [List.append_assoc]
    rfl

/-- Rules with new identifiers come behind those that the exercise has. -/
theorem add_of_nodup (l : Library) {exercise : String} {rules : List Rule} (source : Option String)
    (h : ((l.rules exercise).map Rule.id ++ rules.map Rule.id).Nodup) :
    (l.add exercise rules source).1.rules exercise = l.rules exercise ++ rules ∧
      (l.add exercise rules source).2 = [] := by
  obtain ⟨hdefinitions, hnotices⟩ := l.add_eq h.of_append_left rules source
  rw [← ids_definitions] at h
  have hdefine := defineAll_of_nodup exercise source _ h
  rw [hdefine] at hdefinitions hnotices
  refine ⟨?_, hnotices⟩
  rw [← rules_definitions, hdefinitions, List.map_append, rules_definitions, List.map_map]
  exact congrArg _ (List.map_id rules)

variable {read : DocumentReader} {tree : Tree} {path : Path}

theorem load_of_read {s : RuleSet} (hfiles : ruleFiles? tree path = some [path])
    (hread : RuleSet.read read tree path = .ok (some s)) :
    load read tree [path] = (.ok (add {} s.exercise s.rules (some path.text)).1,
      (add {} s.exercise s.rules (some path.text)).2) := by
  simp only [load, List.foldlM_cons, List.foldlM_nil, loadPath, hfiles, loadFile, hread]
  rfl

theorem load_of_error {e : LoadError} (hfiles : ruleFiles? tree path = some [path])
    (hread : RuleSet.read read tree path = .error e) : load read tree [path] = (.error e, []) := by
  simp only [load, List.foldlM_cons, List.foldlM_nil, loadPath, hfiles, loadFile, hread]
  rfl

end Library

/-! ## 3. The rule of a unit -/

def lowered (unit : String) : String := String.ofList (lower unit.toList)

def todoMarker : Marker := { first := todo, minCount_pos := Nat.one_pos }

def scaffolded (unit : String) : Rule where
  id := lowered unit ++ "-implementation"
  appliesTo := unit
  name := unit ++ " implementation"
  forbidden := [todoMarker]
  diagnostics := [⟨.forbidden, unit ++ " still contains TODO comments", some todo⟩]

theorem ids_scaffolded (units : List String) :
    (units.map scaffolded).map Rule.id = (units.map lowered).map (· ++ "-implementation") := by
  rw [List.map_map, List.map_map]
  rfl

theorem nodup_ids_scaffolded {units : List String} (h : (units.map lowered).Nodup) :
    ((units.map scaffolded).map Rule.id).Nodup := by
  rw [ids_scaffolded]
  exact h.map fun s t hst => by simpa using hst

theorem fullText?_text {s : String} (h : s ≠ "") : fullText? (.text s) = some s := by
  simp [fullText?, h]

theorem readName_text {s : String} (h : s ≠ "") : readName (.text s) = .ok s := by
  simp [readName, Data.truthy, written, Data.isTooLong, Data.plain, h]

/-- A rule is read when each of its parts is. -/
theorem readRule_map {es : List (Data × Data)} {id appliesTo name : String} {minLength : Option Int}
    {required forbidden : List Marker} {diagnostics : List DiagnosticStep}
    (hid : fullText? (Data.field es "id") = some id)
    (hkeys : checkKeys ruleKeys es (.unknownKeys id) = .ok ())
    (hunit : fullText? (Data.field es "applies_to") = some appliesTo)
    (hlength : readMinLength id (Data.field es "min_length") = .ok minLength)
    (hrequired : readMarkers id "required" es = .ok required)
    (hforbidden : readMarkers id "forbidden" es = .ok forbidden)
    (hsteps : readSteps id required forbidden minLength (Data.field es "diagnostics") =
      .ok diagnostics)
    (hname : readName (Data.field es "name") = .ok name) :
    readRule (.map es) = .ok
      { id, appliesTo, required, forbidden, diagnostics, minLength, name,
        ignoreCase := ((Data.field? es "ignore_case").getD (.bool false)).truthy,
        missingMessage := Data.field es "missing_message",
        fallbackMessage := Data.field es "fallback_message" } := by
  unfold readRule
  simp only [hid, hkeys, hunit, hlength, hrequired, hforbidden, hname]
  show (readSteps id required forbidden minLength (Data.field es "diagnostics") >>= _) = _
  rw [hsteps]
  rfl

theorem readStep_todo (rule : String) {message : String} (h : message ≠ "") :
    readStep rule [] [todoMarker] none
      (.object [("forbidden", .text todo), ("message", .text message)]) =
        .ok ⟨.forbidden, message, some todo⟩ := by
  have hmessage : fullText? (Data.field
      [(.text "forbidden", .text todo), (.text "message", .text message)] "message") = some message :=
    fullText?_text h
  unfold Data.object readStep
  simp only [List.map_cons, List.map_nil, hmessage]
  rfl

/-- The scaffolded rule of a unit passes the check of rules. -/
theorem readRule_scaffoldRule {unit : String} (h : unit ≠ "") :
    readRule (scaffoldRule unit) = .ok (scaffolded unit) := by
  have hid : lowered unit ++ "-implementation" ≠ "" := by simp
  have hname : unit ++ " implementation" ≠ "" := by simp
  have hmessage : unit ++ " still contains TODO comments" ≠ "" := by simp
  have hsteps : readSteps (lowered unit ++ "-implementation") [] [todoMarker] none
      (.list [.object [("forbidden", .text todo),
        ("message", .text (unit ++ " still contains TODO comments"))]]) =
        .ok (scaffolded unit).diagnostics := by
    show [_].mapM _ = _
    rw [List.mapM_cons, readStep_todo _ hmessage]
    rfl
  exact readRule_map (fullText?_text hid) rfl (fullText?_text h) rfl rfl rfl hsteps
    (readName_text hname)

/-! ## 4. The file -/

/-- A rule for a unit with a step that looks at one of its checks. -/
structure Rule.BeginsFor (r : Rule) (unit : String) : Prop where
  appliesTo : r.appliesTo = unit
  resolves : ∃ s ∈ r.diagnostics, s.Resolves r.required r.forbidden r.minLength

theorem forall₂_beginsFor (units : List String) :
    List.Forall₂ (fun unit r => r.BeginsFor unit) units (units.map scaffolded) := by
  rw [List.forall₂_map_right_iff, List.forall₂_same]
  intro unit _
  exact ⟨rfl, _, List.mem_singleton_self _, _, List.mem_singleton_self _, rfl⟩

section

variable {read : DocumentReader} {print : DocumentPrinter} {tree : Tree} {path : Path}
  {exercise : String} {units : List String}

theorem forall₂_readRule (hunits : ∀ u ∈ units, u ≠ "") :
    List.Forall₂ (fun d r => readRule d = .ok r) (units.map scaffoldRule) (units.map scaffolded) := by
  rw [List.forall₂_map_left_iff, List.forall₂_map_right_iff, List.forall₂_same]
  exact fun u hu => readRule_scaffoldRule (hunits u hu)

variable (hexercise : exercise ≠ "") (hunits : ∀ u ∈ units, u ≠ "")
  (hend : path.suffix ∈ ruleFileEnds)
  (hread : tree.read path = .ok (encode (scaffoldFile print exercise units)))
  (hinverse : ReadsBack read print (scaffold exercise units))

include hexercise hread hinverse

theorem read_scaffold : RuleSet.read read tree path =
    (readRules path 0 [] (units.map scaffoldRule)).map fun rules => some ⟨exercise, rules⟩ := by
  unfold RuleSet.read
  rw [readDocument_print hinverse hread]
  exact RuleSet.ofData_map (fullText?_text hexercise) rfl

include hunits hend

/-- With units that differ in more than the case of their letters each unit has its rule. -/
theorem load_scaffold_of_nodup (hnodup : (units.map lowered).Nodup) :
    ∃ l, Library.load read tree [path] = (.ok l, []) ∧
      List.Forall₂ (fun unit r => r.BeginsFor unit) units (l.rules exercise) := by
  have hids := nodup_ids_scaffolded hnodup
  have hset : RuleSet.read read tree path = .ok (some ⟨exercise, units.map scaffolded⟩) := by
    rw [read_scaffold hexercise hread hinverse,
      readRules_of_nodup (forall₂_readRule hunits) hids]
    rfl
  have hload := Library.load_of_read (ruleFiles?_of_read hread hend) hset
  obtain ⟨hheld, hsilent⟩ := Library.add_of_nodup {} (some path.text) hids
  rw [hsilent] at hload
  refine ⟨_, hload, ?_⟩
  -- The library was empty, so its rules are those of the file.
  dsimp only
  rw [hheld]
  exact forall₂_beginsFor units

/-- Behind units that differ in more than the case of their letters, one that is like one of them but
for the case is refused. -/
theorem load_scaffold_duplicate {before after : List String} {unit : String}
    (hsplit : units = before ++ unit :: after) (hnodup : (before.map lowered).Nodup)
    (hlike : lowered unit ∈ before.map lowered) :
    Library.load read tree [path] =
      (.error (.file path (.duplicate (lowered unit ++ "-implementation"))), []) := by
  have hrepeated : (scaffolded unit).id ∈ (before.map scaffolded).map Rule.id := by
    rw [ids_scaffolded]
    exact List.mem_map_of_mem hlike
  have hrules := forall₂_readRule hunits
  rw [hsplit, List.map_append, List.map_append, List.map_cons, List.map_cons] at hrules
  apply Library.load_of_error (ruleFiles?_of_read hread hend)
  rw [read_scaffold hexercise hread hinverse, hsplit, List.map_append, List.map_cons,
    readRules_duplicate hrules (nodup_ids_scaffolded hnodup) hrepeated]
  rfl

theorem load_scaffold_of_not_nodup (h : ¬(units.map lowered).Nodup) : ∃ before unit after,
    units = before ++ unit :: after ∧ (before.map lowered).Nodup ∧ lowered unit ∈ before.map lowered ∧
    Library.load read tree [path] =
      (.error (.file path (.duplicate (lowered unit ++ "-implementation"))), []) := by
  obtain ⟨before, unit, after, hsplit, hnodup, hlike⟩ := exists_first_repeated h
  exact ⟨before, unit, after, hsplit, hnodup, hlike,
    load_scaffold_duplicate hexercise hunits hend hread hinverse hsplit hnodup hlike⟩

end

/-! ## 5. All files -/

/-- Let the document of a new rule file for named units be read as the value that it was printed from.
Then the file is loaded without a warning, with a rule for each unit in order, just when no two of the
units are the same but for the case of their letters. Else it is refused at the first unit that is like
one before it. -/
theorem scaffold_loads_iff {read : DocumentReader} {print : DocumentPrinter} {tree : Tree} {path : Path}
    {exercise : String} {units : List String}
    (hexercise : exercise ≠ "") (hunits : ∀ u ∈ units, u ≠ "") (hend : path.suffix ∈ ruleFileEnds)
    (hread : tree.read path = .ok (encode (scaffoldFile print exercise units)))
    (hinverse : ReadsBack read print (scaffold exercise units)) :
    ((∃ l, Library.load read tree [path] = (.ok l, []) ∧
        List.Forall₂ (fun unit r => r.BeginsFor unit) units (l.rules exercise)) ↔
      (units.map lowered).Nodup) ∧
    (¬(units.map lowered).Nodup → ∃ before unit after,
      units = before ++ unit :: after ∧ (before.map lowered).Nodup ∧ lowered unit ∈ before.map lowered ∧
      Library.load read tree [path] =
        (.error (.file path (.duplicate (lowered unit ++ "-implementation"))), [])) := by
  have hrefused := load_scaffold_of_not_nodup hexercise hunits hend hread hinverse
  refine ⟨⟨?_, load_scaffold_of_nodup hexercise hunits hend hread hinverse⟩, hrefused⟩
  rintro ⟨l, hload, -⟩
  by_contra h
  obtain ⟨before, unit, after, -, -, -, herror⟩ := hrefused h
  rw [hload] at herror
  exact nomatch congrArg Prod.fst herror

def printRule : Data → String
  | .map es =>
    match Data.field es "applies_to" with
    | .text unit => "- id: " ++ lowered unit ++ "-implementation\n  name: " ++ unit ++
      " implementation\n  applies_to: " ++ unit ++ "\n  required: []\n  forbidden:\n  - TODO\n" ++
      "  diagnostics:\n  - forbidden: TODO\n    message: " ++ unit ++ " still contains TODO comments\n"
    | _ => ""
  | _ => ""

/-- A printer of new rule files, as far as their texts need no quotes. -/
def printRules : DocumentPrinter
  | .map es =>
    match Data.field es "exercise", Data.field es "rules" with
    | .text exercise, .list rules =>
      "exercise: " ++ exercise ++ "\nrules:\n" ++ String.join (rules.map printRule)
    | _, _ => ""
  | _ => ""

def readRulesOf (exercise : String) (units : List String) : DocumentReader := fun stream =>
  if stream.text = scaffoldFile printRules exercise units then .ok (scaffold exercise units)
  else .error .malformed

theorem plain_printRule {unit : String} (h : '\r' ∉ unit.toList)
    (hlowered : '\r' ∉ (lowered unit).toList) : '\r' ∉ (printRule (scaffoldRule unit)).toList := by
  show '\r' ∉ ("- id: " ++ lowered unit ++ "-implementation\n  name: " ++ unit ++
    " implementation\n  applies_to: " ++ unit ++ "\n  required: []\n  forbidden:\n  - TODO\n" ++
    "  diagnostics:\n  - forbidden: TODO\n    message: " ++ unit ++
    " still contains TODO comments\n").toList
  simp only [String.toList_append, List.mem_append, h, hlowered, or_false]
  decide +kernel

/-- The plain printer and the reader of its one text are a pair that reads back. -/
theorem readsBack_printRules {exercise : String} {units : List String} (h : '\r' ∉ exercise.toList)
    (hunits : ∀ u ∈ units, '\r' ∉ u.toList ∧ '\r' ∉ (lowered u).toList) :
    ReadsBack (readRulesOf exercise units) printRules (scaffold exercise units) := by
  refine ⟨?_, if_pos rfl⟩
  have hrules : '\r' ∉ (String.join ((units.map scaffoldRule).map printRule)).toList := by
    simp only [String.toList_join, List.mem_flatMap, List.mem_map, not_exists, not_and]
    rintro s ⟨d, ⟨u, hu, rfl⟩, rfl⟩
    exact plain_printRule (hunits u hu).1 (hunits u hu).2
  show '\r' ∉ ("exercise: " ++ exercise ++ "\nrules:\n" ++
    String.join ((units.map scaffoldRule).map printRule)).toList
  simp only [String.toList_append, List.mem_append, h, hrules, or_false]
  decide +kernel

/-- A component and a hook. -/
theorem scaffold_loads_iff_hook :
    let units := ["App", "useApp"]
    let path : Path := ⟨"", ["e.yaml"]⟩
    let file := Entry.file (encode (scaffoldFile printRules "e" units))
    let tree : Tree := { root := "/", entries := [(["e.yaml"], file)] }
    path.suffix ∈ ruleFileEnds ∧ tree.read path = .ok (encode (scaffoldFile printRules "e" units)) ∧
      ReadsBack (readRulesOf "e" units) printRules (scaffold "e" units) ∧
      ∃ l, Library.load (readRulesOf "e" units) tree [path] = (.ok l, []) ∧
        List.Forall₂ (fun unit r => r.BeginsFor unit) units (l.rules "e") := by
  intro units path file tree
  have hend : path.suffix ∈ ruleFileEnds := by decide +kernel
  have hread : tree.read path = .ok (encode (scaffoldFile printRules "e" units)) := rfl
  have hinverse : ReadsBack (readRulesOf "e" units) printRules (scaffold "e" units) :=
    readsBack_printRules (by decide) (by decide +kernel)
  refine ⟨hend, hread, hinverse, ?_⟩
  apply (scaffold_loads_iff (by decide) (by decide) hend hread hinverse).1.mpr
  decide +kernel

/-- A component and a hook that are called alike. -/
theorem scaffold_refused :
    let units := ["App", "app"]
    let path : Path := ⟨"", ["e.yaml"]⟩
    let file := Entry.file (encode (scaffoldFile printRules "e" units))
    let tree : Tree := { root := "/", entries := [(["e.yaml"], file)] }
    path.suffix ∈ ruleFileEnds ∧ tree.read path = .ok (encode (scaffoldFile printRules "e" units)) ∧
      ReadsBack (readRulesOf "e" units) printRules (scaffold "e" units) ∧
      Library.load (readRulesOf "e" units) tree [path] =
        (.error (.file path (.duplicate "app-implementation")), []) := by
  intro units path file tree
  have hend : path.suffix ∈ ruleFileEnds := by decide +kernel
  have hread : tree.read path = .ok (encode (scaffoldFile printRules "e" units)) := rfl
  have hinverse : ReadsBack (readRulesOf "e" units) printRules (scaffold "e" units) :=
    readsBack_printRules (by decide) (by decide +kernel)
  refine ⟨hend, hread, hinverse, ?_⟩
  have hid : lowered "app" ++ "-implementation" = "app-implementation" := by decide +kernel
  have hsplit : units = ["App"] ++ "app" :: [] := rfl
  rw [← hid]
  apply load_scaffold_duplicate (by decide) (by decide) hend hread hinverse hsplit
  · exact List.nodup_singleton _
  · decide +kernel

end Grading
