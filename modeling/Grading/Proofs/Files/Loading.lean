import Mathlib.Data.List.Nodup
import Grading.Config.Load
import Grading.Proofs.Rule.Reported
import Grading.Rule.Load

/-!
# Loading — the failures of loading that are not told of as those of a file

Whatever the bytes of its files are and whatever reads documents and validates configurations, loading a
configuration or a library ends with it, with an error that names the file to blame, or with a failure
that comes from elsewhere: from the reader, from the validator, or from reading one rule. Each of these
failures ends the loading as it is.
-/

namespace Grading

open Grading.Files Grading.Text

variable {read : DocumentReader} {validate : ConfigValidator} {tree : Tree} {path file : Path}
  {f : Fault}

/-! ## 1. Files -/

/-- What goes wrong in reading the value of a file without being a defect of the file: a failure of the
reader on what the file gives to read. -/
def FileFault (read : DocumentReader) (tree : Tree) (path : Path) (f : Fault) : Prop :=
  ∃ stream, tree.stream path = .ok stream ∧ read stream = .error (.fault f)

theorem readDocument_eq_ok {d : Data} : readDocument read tree path = .ok d ↔
    ∃ stream, tree.stream path = .ok stream ∧ read stream = .ok d := by
  unfold readDocument
  simp only [bind_eq_ok, mapError_eq_ok]

theorem readDocument_eq_fault :
    readDocument read tree path = .error (.fault f) ↔ FileFault read tree path f := by
  have hofUnread : ∀ u, FileDefect.ofUnread u = .fault f ↔ u = .fault f := by
    rintro (_ | f') <;> simp [FileDefect.ofUnread]
  unfold readDocument FileFault
  simp only [bind_eq_error, mapError_eq_error, mapError_eq_ok, hofUnread]
  simp

/-! ## 2. Configurations -/

/-- What goes wrong in loading a configuration without being reported as an error of it. -/
inductive ConfigFault (read : DocumentReader) (validate : ConfigValidator) (tree : Tree) (file : Path) :
    Fault → Prop
  | file {f : Fault} (h : FileFault read tree file f) : ConfigFault read validate tree file f
  | entries {stream : TextStream} {d : Data} {es : List (Data × Data)} {f : Fault}
      (hstream : tree.stream file = .ok stream) (hread : read stream = .ok d)
      (hentries : Config.entriesOf d = .ok es)
      (hvalidate : validate (tree.resolve file).parent es = .error (.fault f)) :
      ConfigFault read validate tree file f

namespace Config

theorem entriesOf_ne_fault (d : Data) : entriesOf d ≠ .error (.fault f) := by
  cases d <;> exact nofun

theorem ofData_eq_fault {d : Data} : ofData validate tree file d = .error (.fault f) ↔
    ∃ es, entriesOf d = .ok es ∧ validate (tree.resolve file).parent es = .error (.fault f) := by
  have hofInvalid : ∀ i, ConfigError.ofInvalid file i = .fault f ↔ i = .fault f := by
    rintro (_ | f') <;> simp [ConfigError.ofInvalid]
  unfold ofData
  simp only [bind_eq_error, mapError_eq_error, hofInvalid, exists_eq_right, entriesOf_ne_fault,
    false_or]

/-- A fault of loading a configuration is one of the reader on its file or of the validator on its
entries. -/
theorem load_eq_fault :
    load read validate tree file = .error (.fault f) ↔ ConfigFault read validate tree file f := by
  have hofFile : ∀ d, ConfigError.ofFile file d = .fault f ↔ d = .fault f := by
    rintro (_ | _ | f') <;> simp [ConfigError.ofFile]
  unfold load
  simp only [bind_eq_error, mapError_eq_error, mapError_eq_ok, hofFile, exists_eq_right,
    readDocument_eq_fault, readDocument_eq_ok, ofData_eq_fault]
  constructor
  · rintro (h | ⟨d, ⟨stream, hstream, hread⟩, es, hentries, hvalidate⟩)
    · exact .file h
    · exact .entries hstream hread hentries hvalidate
  · rintro (h | ⟨hstream, hread, hentries, hvalidate⟩)
    · exact .inl h
    · exact .inr ⟨_, ⟨_, hstream, hread⟩, _, hentries, hvalidate⟩

end Config

/-! ## 3. Lists of rules -/

section Rules

variable {d : Data} {ds : List Data} {r : Rule} {rules : List Rule} {seen : List String} {index : Nat}

theorem not_mem_left {α : Type} {a : α} {l l' : List α} (h : (l ++ a :: l').Nodup) : a ∉ l :=
  fun hmem => (List.nodup_append.mp h).2.2 a hmem a List.mem_cons_self rfl

/-- The rules of a file are read in order, each after its id was looked up among those before it. -/
theorem readRules_cons (h : readRule d = .ok r) (path : Path) (index : Nat) (seen : List String)
    (ds : List Data) :
    readRules path index seen (d :: ds) =
      if r.id ∈ seen then .error (.file path (.duplicate r.id))
      else (readRules path (index + 1) (r.id :: seen) ds).map (r :: ·) := by
  rw [readRules, h]
  by_cases hseen : r.id ∈ seen
  · rw [if_pos hseen]
    simp only [pure_bind, List.contains_iff_mem.mpr hseen, if_true]
    rfl
  · rw [if_neg hseen]
    simp only [pure_bind, List.contains_eq_mem, hseen, decide_false, Bool.false_eq_true, if_false]
    rfl

theorem readRules_cons_error {e : RuleDefect} (h : readRule d = .error e) (path : Path) (index : Nat)
    (seen : List String) (ds : List Data) :
    readRules path index seen (d :: ds) =
      .error (if e.isReported then .file path (.rule index e) else .fault ⟨e.kind, e.text⟩) := by
  rw [readRules, h]
  rfl

/-- Rules with new identifiers are read one by one before those behind them. -/
theorem readRules_append (h : List.Forall₂ (fun d r => readRule d = .ok r) ds rules) (path : Path)
    (index : Nat) (seen : List String) (hids : (seen ++ rules.map Rule.id).Nodup) (rest : List Data) :
    ∃ seen', seen'.Perm (seen ++ rules.map Rule.id) ∧
      readRules path index seen (ds ++ rest) =
        (readRules path (index + ds.length) seen' rest).map (rules ++ ·) := by
  induction h generalizing index seen with
  | nil =>
    refine ⟨seen, by simp, ?_⟩
    show _ = Except.map id _
    rw [Except.map_id]
    rfl
  | @cons d r ds rules hd _ ih =>
    obtain ⟨seen', hperm, hread⟩ := ih (index + 1) (r.id :: seen) (List.nodup_middle.mp hids)
    refine ⟨seen', hperm.trans List.perm_middle.symm, ?_⟩
    rw [List.cons_append, readRules_cons hd, if_neg (not_mem_left hids), hread, List.length_cons,
      Nat.add_right_comm, Nat.add_assoc]
    cases readRules path _ seen' rest <;> rfl

/-- What ends the reading of a list is one of its values, behind rules with identifiers of their own: it
is not read as a rule, or as one whose identifier came before. -/
theorem readRules_eq_error {e : LoadError} (h : readRules path index seen ds = .error e)
    (hseen : seen.Nodup) :
    ∃ before d after rules, ds = before ++ d :: after ∧
      List.Forall₂ (fun d r => readRule d = .ok r) before rules ∧
      (seen ++ rules.map Rule.id).Nodup ∧
      ((∃ r, readRule d = .ok r ∧ r.id ∈ seen ++ rules.map Rule.id ∧
          e = .file path (.duplicate r.id)) ∨
        ∃ defect, readRule d = .error defect ∧ e = if defect.isReported
          then .file path (.rule (index + before.length) defect) else .fault ⟨defect.kind, defect.text⟩) := by
  induction ds generalizing index seen with
  | nil => exact nomatch h
  | cons d ds ih =>
    have hids : (seen ++ ([] : List Rule).map Rule.id).Nodup := by simpa using hseen
    cases hd : readRule d with
    | error defect =>
      rw [readRules_cons_error hd] at h
      exact ⟨[], d, ds, [], rfl, .nil, hids, .inr ⟨defect, hd, (Except.error.inj h).symm⟩⟩
    | ok r =>
      rw [readRules_cons hd] at h
      by_cases hold : r.id ∈ seen
      · rw [if_pos hold] at h
        exact ⟨[], d, ds, [], rfl, .nil, hids,
          .inl ⟨r, hd, List.mem_append_left _ hold, (Except.error.inj h).symm⟩⟩
      rw [if_neg hold] at h
      cases hrest : readRules path (index + 1) (r.id :: seen) ds with
      | ok rules =>
        rw [hrest] at h
        exact nomatch h
      | error e' =>
        rw [hrest] at h
        obtain rfl := Except.error.inj h
        obtain ⟨before, d', after, rules, rfl, hbefore, hids, hend⟩ :=
          ih hrest (List.nodup_cons.mpr ⟨hold, hseen⟩)
        have hplace : index + 1 + before.length = index + (d :: before).length := by
          rw [List.length_cons]
          omega
        have hmem : ∀ id, id ∈ r.id :: seen ++ rules.map Rule.id →
            id ∈ seen ++ (r :: rules).map Rule.id := fun _ => List.perm_middle.symm.mem_iff.mp
        refine ⟨d :: before, d', after, r :: rules, rfl, .cons hd hbefore, List.nodup_middle.mpr hids, ?_⟩
        exact hend.imp (fun ⟨r', hr', hold', he⟩ => ⟨r', hr', hmem _ hold', he⟩) (hplace ▸ id)

end Rules

/-! ## 4. Rule files -/

/-- What goes wrong in reading the rules of a file without being reported as a defect of the file: the
first rule that cannot be read, behind rules with identifiers of their own, shows a failure that is not
told of. -/
inductive RuleFault (read : DocumentReader) (tree : Tree) (path : Path) : Fault → Prop
  | rule {stream : TextStream} {file rule : List (Data × Data)} {exercise : String}
      {before after : List Data} {rules : List Rule} {e : RuleDefect}
      (hstream : tree.stream path = .ok stream) (hread : read stream = .ok (.map file))
      (hexercise : fullText? (Data.field file "exercise") = some exercise)
      (hrules : Data.field file "rules" = .list (before ++ .map rule :: after))
      (hbefore : List.Forall₂ (fun d r => readRule d = .ok r) before rules)
      (hids : (rules.map Rule.id).Nodup) (herror : readRule (.map rule) = .error e)
      (hunreported : e.isReported = false) (hfailure : ReadFailure rule e) :
      RuleFault read tree path ⟨e.kind, e.text⟩

/-- The fault of a rule is of a kind that rules fail with unreported. -/
theorem RuleFault.kind_mem (h : RuleFault read tree path f) : f.kind ∈ failureKinds := by
  cases h with
  | rule _ _ _ _ _ _ _ _ hfailure => exact hfailure.kind_mem

namespace RuleSet

theorem ofData_map {es : List (Data × Data)} {ds : List Data} {exercise : String}
    (hexercise : fullText? (Data.field es "exercise") = some exercise)
    (hrules : Data.field es "rules" = .list ds) :
    ofData path (.map es) = (readRules path 0 [] ds).map fun rules => some ⟨exercise, rules⟩ := by
  unfold ofData
  simp only [hexercise, hrules]
  rfl

/-- The value of a file that cannot be read as rules is refused with a defect of the file, unless it is
a mapping with an exercise and a list that cannot be read. -/
theorem ofData_eq_error {d : Data} {e : LoadError} (h : ofData path d = .error e) :
    (∃ defect, e = .file path defect) ∨ ∃ es exercise ds, d = .map es ∧
      fullText? (Data.field es "exercise") = some exercise ∧ Data.field es "rules" = .list ds ∧
      readRules path 0 [] ds = .error e := by
  cases d with
  | map es =>
    cases hexercise : fullText? (Data.field es "exercise") with
    | none =>
      unfold ofData at h
      simp only [hexercise] at h
      exact .inl ⟨_, (Except.error.inj h).symm⟩
    | some exercise =>
      cases hrules : Data.field es "rules" with
      | list ds =>
        rw [ofData_map hexercise hrules] at h
        cases hread : readRules path 0 [] ds with
        | ok rules =>
          rw [hread] at h
          exact nomatch h
        | error e' =>
          rw [hread] at h
          obtain rfl := Except.error.inj h
          exact .inr ⟨es, exercise, ds, rfl, hexercise, hrules, hread⟩
      | null =>
        unfold ofData at h
        simp only [hexercise, hrules] at h
        exact nomatch h
      | _ =>
        unfold ofData at h
        simp only [hexercise, hrules] at h
        exact .inl ⟨_, (Except.error.inj h).symm⟩
  | null => exact nomatch h
  | _ => exact .inl ⟨_, (Except.error.inj h).symm⟩

theorem path_of_read {p : Path} {defect : RuleFileDefect}
    (h : RuleSet.read read tree path = .error (.file p defect)) : p = path := by
  unfold RuleSet.read at h
  rcases bind_eq_error.mp h with hfile | ⟨d, -, hdata⟩
  · obtain ⟨cause, -, hcause⟩ := mapError_eq_error.mp hfile
    cases cause with
    | fault => exact nomatch hcause
    | _ => exact (LoadError.file.inj hcause).1.symm
  · rcases ofData_eq_error hdata with ⟨defect', he⟩ | ⟨_, _, _, -, -, -, hrules⟩
    · exact (LoadError.file.inj he).1
    · obtain ⟨_, _, _, _, -, -, -, hend⟩ := readRules_eq_error hrules List.nodup_nil
      rcases hend with ⟨r, -, -, he⟩ | ⟨defect', -, he⟩
      · exact (LoadError.file.inj he).1
      · split at he
        · exact (LoadError.file.inj he).1
        · exact nomatch he

/-- A fault of reading a rule file is one of the reader on it, or one of reading a rule in it. -/
theorem read_eq_fault : RuleSet.read read tree path = .error (.fault f) ↔
    FileFault read tree path f ∨ RuleFault read tree path f := by
  have hofFile : ∀ d, LoadError.ofFile path d = .fault f ↔ d = .fault f := by
    rintro (_ | _ | f') <;> simp [LoadError.ofFile]
  unfold RuleSet.read
  simp only [bind_eq_error, mapError_eq_error, mapError_eq_ok, hofFile, exists_eq_right,
    readDocument_eq_fault, readDocument_eq_ok]
  refine or_congr_right ⟨?_, ?_⟩
  · rintro ⟨d, ⟨stream, hstream, hread⟩, hdata⟩
    rcases ofData_eq_error hdata with ⟨defect, he⟩ | ⟨es, exercise, ds, rfl, hexercise, hrules, herror⟩
    · exact nomatch he
    · obtain ⟨before, d, after, rules, rfl, hbefore, hids, hend⟩ :=
        readRules_eq_error herror List.nodup_nil
      rcases hend with ⟨r, -, -, he⟩ | ⟨e, he, hf⟩
      · exact nomatch he
      split at hf
      · exact nomatch hf
      next hunreported =>
        obtain rfl := LoadError.fault.inj hf
        -- Only a mapping can fail without a report.
        rcases fails_readRule d e he with hreported | ⟨rule, rfl, hfailure⟩
        · exact absurd hreported hunreported
        · exact .rule hstream hread hexercise hrules hbefore hids he (by simpa using hunreported) hfailure
  · rintro ⟨hstream, hread, hexercise, hrules, hbefore, hids, herror, hunreported, -⟩
    refine ⟨_, ⟨_, hstream, hread⟩, ?_⟩
    obtain ⟨seen, -, hbehind⟩ := readRules_append hbefore path 0 [] hids _
    rw [ofData_map hexercise hrules, hbehind, readRules_cons_error herror, if_neg (by simp [hunreported])]
    rfl

end RuleSet

/-! ## 5. Libraries -/

def ruleFiles (tree : Tree) (paths : List Path) : List Path :=
  paths.flatMap fun p => (ruleFiles? tree p).getD []

/-- The loading of a library gets to a file: all rule files before it are read. -/
def Reaches (read : DocumentReader) (tree : Tree) (paths : List Path) (path : Path) : Prop :=
  ∃ before after, ruleFiles tree paths = before ++ path :: after ∧
    ∀ b ∈ before, ∃ s, RuleSet.read read tree b = .ok s

namespace Library

/-- Loading in steps fails as the checks of the steps do in turn. -/
theorem outcome_foldlM {α : Type} {step : Library → α → Loading Library}
    {check : α → Except LoadError Unit}
    (h : ∀ l a notices, outcome ((step l a).run.run notices).1 = check a) (as : List α) (l : Library)
    (notices : List Notice) :
    outcome ((as.foldlM step l).run.run notices).1 = forM as check := by
  induction as generalizing l notices with
  | nil => rfl
  | cons a as ih =>
    -- The log goes on from step to step, but no step looks at it.
    rw [List.foldlM_cons, List.forM_cons, ← h l a notices, ExceptT.run_bind, StateT.run_bind]
    rcases hstep : (step l a).run.run notices with ⟨e | l', notices'⟩
    · rfl
    · exact ih l' notices'

theorem outcome_loadFile (read : DocumentReader) (tree : Tree) (l : Library) (path : Path)
    (notices : List Notice) :
    outcome ((loadFile read tree l path).run.run notices).1 = outcome (RuleSet.read read tree path) := by
  unfold loadFile
  cases RuleSet.read read tree path with
  | error e => rfl
  | ok s => cases s <;> rfl

theorem outcome_loadPath (read : DocumentReader) (tree : Tree) (l : Library) (path : Path)
    (notices : List Notice) :
    outcome ((loadPath read tree l path).run.run notices).1 =
      forM ((ruleFiles? tree path).getD []) fun p => outcome (RuleSet.read read tree p) := by
  unfold loadPath
  cases ruleFiles? tree path with
  | none => rfl
  | some files => exact outcome_foldlM (outcome_loadFile read tree) files l notices

/-- Loading a library fails as reading its files in turn does. -/
theorem outcome_load (read : DocumentReader) (tree : Tree) (paths : List Path) :
    outcome (load read tree paths).1 =
      forM (ruleFiles tree paths) fun p => outcome (RuleSet.read read tree p) := by
  rw [ruleFiles, forM_flatMap]
  exact outcome_foldlM (outcome_loadPath read tree) paths {} []

/-- The first file that cannot be read decides. -/
theorem load_eq_error {paths : List Path} {e : LoadError} : (load read tree paths).1 = .error e ↔
    ∃ path, Reaches read tree paths path ∧ RuleSet.read read tree path = .error e := by
  rw [← outcome_eq_error, outcome_load, forM_eq_error]
  simp only [outcome_eq_error, outcome_eq_ok]
  constructor
  · rintro ⟨before, path, after, hfiles, hbefore, herror⟩
    exact ⟨path, ⟨before, after, hfiles, hbefore⟩, herror⟩
  · rintro ⟨path, ⟨before, after, hfiles, hbefore⟩, herror⟩
    exact ⟨before, path, after, hfiles, hbefore, herror⟩

end Library

/-! ## 6. All files -/

/-- Whatever the bytes of its files are, what ends the loading of a configuration is reported as an
error of it, unless it is a failure of the reader or of the validator. What ends the loading of a library
is reported as an error of the first file that cannot be read, unless it is a failure of the reader on
that file or of the reading of one of its rules. All these failures do end the loading, as they are. -/
theorem load_reported_or_fault (read : DocumentReader) (validate : ConfigValidator) (tree : Tree) :
    (∀ file, (∀ e, Config.load read validate tree file = .error e →
        e.kind = "ConfigError" ∨ ∃ f, e = .fault f ∧ ConfigFault read validate tree file f) ∧
      ∀ f, ConfigFault read validate tree file f →
        Config.load read validate tree file = .error (.fault f)) ∧
    ∀ paths, (∀ e, (Library.load read tree paths).1 = .error e →
        ∃ path, Reaches read tree paths path ∧ ((∃ d, e = .file path d) ∨ ∃ f, e = .fault f ∧
          (FileFault read tree path f ∨ f.kind ∈ failureKinds ∧ RuleFault read tree path f))) ∧
      ∀ path f, Reaches read tree paths path →
        FileFault read tree path f ∨ RuleFault read tree path f →
          (Library.load read tree paths).1 = .error (.fault f) := by
  refine ⟨fun file => ⟨?_, fun f => Config.load_eq_fault.mpr⟩, fun paths => ⟨?_, ?_⟩⟩
  · rintro e h
    cases e with
    | fault f => exact .inr ⟨f, rfl, Config.load_eq_fault.mp h⟩
    | _ => exact .inl rfl
  · rintro e h
    obtain ⟨path, hreaches, hread⟩ := Library.load_eq_error.mp h
    refine ⟨path, hreaches, ?_⟩
    cases e with
    | file p d =>
      obtain rfl := RuleSet.path_of_read hread
      exact .inl ⟨d, rfl⟩
    | fault f =>
      refine .inr ⟨f, rfl, (RuleSet.read_eq_fault.mp hread).imp_right fun h => ⟨h.kind_mem, h⟩⟩
  · intro path f hreaches hfault
    exact Library.load_eq_error.mpr ⟨path, hreaches, RuleSet.read_eq_fault.mpr hfault⟩

def listLabelFile : Data :=
  .object [("exercise", .text "e"), ("rules", .list [.object [("id", .text "r"),
    ("applies_to", .text "f"), ("diagnostics", .list [.object [("required", .list []),
      ("message", .text "m")]])]])]

/-- A reader of two documents. It fails at a month that there is not, and where what it reads breaks
off. -/
def readFew : DocumentReader := fun stream =>
  match stream.error with
  | some e => .error (.fault ⟨"UnicodeDecodeError", e.text⟩)
  | none =>
    if stream.text = "a: 2024-13-01\n" then .error (.fault ⟨"ValueError", "month must be in 1..12"⟩)
    else if stream.text = "exercise: e\nrules:\n- id: r\n  applies_to: f\n  diagnostics:\n" ++
      "  - required: []\n    message: m\n" then .ok listLabelFile
    else .error .malformed

/-- Files of bytes that are no text, of a month that there is not, and of a label that is a list. -/
def faultyTree : Tree where
  root := "/"
  entries := [(["bytes.yaml"], .file [0xff]), (["date.yaml"], .file (encode "a: 2024-13-01\n")),
    (["rule.yaml"], .file (encode ("exercise: e\nrules:\n- id: r\n  applies_to: f\n" ++
      "  diagnostics:\n  - required: []\n    message: m\n")))]

def takeAll : ConfigValidator := fun base _ => .ok { base }

/-- A month that there is not ends the loading of a configuration, and it is a label that is a list which
ends that of a library. -/
theorem load_reported_or_fault_month :
    Config.load readFew takeAll faultyTree ⟨"", ["date.yaml"]⟩ =
        .error (.fault ⟨"ValueError", "month must be in 1..12"⟩) ∧
      RuleFault readFew faultyTree ⟨"", ["rule.yaml"]⟩ ⟨"TypeError", "unhashable type: 'list'"⟩ := by
  obtain ⟨hconfigs, hlibraries⟩ := load_reported_or_fault readFew takeAll faultyTree
  have hmonth : FileFault readFew faultyTree ⟨"", ["date.yaml"]⟩
      ⟨"ValueError", "month must be in 1..12"⟩ := ⟨{ text := "a: 2024-13-01\n" }, rfl, rfl⟩
  have hlabel : (Library.load readFew faultyTree [⟨"", ["rule.yaml"]⟩]).1 =
      .error (.fault ⟨"TypeError", "unhashable type: 'list'"⟩) :=
    outcome_eq_error.mp (by decide +kernel)
  refine ⟨(hconfigs _).2 _ (.file hmonth), ?_⟩
  obtain ⟨path, ⟨before, after, hfiles, -⟩, hcause⟩ := (hlibraries _).1 _ hlabel
  have hone : ruleFiles faultyTree [⟨"", ["rule.yaml"]⟩] = [⟨"", ["rule.yaml"]⟩] := by decide +kernel
  have hmem : path ∈ ruleFiles faultyTree [⟨"", ["rule.yaml"]⟩] := by simp [hfiles]
  obtain rfl := List.mem_singleton.mp (hone ▸ hmem)
  rcases hcause with ⟨d, hd⟩ | ⟨f, hf, hfile | ⟨-, hrule⟩⟩
  · exact nomatch hd
  · -- The reader does not fail on this file.
    obtain rfl := LoadError.fault.inj hf
    exact absurd (readDocument_eq_fault.mpr hfile) nofun
  · obtain rfl := LoadError.fault.inj hf
    exact hrule

/-- Each of these files ends the loading with an error of another kind. -/
theorem unreported_faults :
    let config := fun name => ((Config.load readFew takeAll faultyTree ⟨"", [name]⟩).mapError
      ConfigError.kind).map fun _ => ()
    let library := fun name => ((Library.load readFew faultyTree [⟨"", [name]⟩]).1.mapError
      LoadError.kind).map fun _ => ()
    config "bytes.yaml" = .error "UnicodeDecodeError" ∧ config "date.yaml" = .error "ValueError" ∧
    library "bytes.yaml" = .error "UnicodeDecodeError" ∧ library "date.yaml" = .error "ValueError" ∧
    library "rule.yaml" = .error "TypeError" := by
  decide +kernel

end Grading
