import Mathlib.Data.List.Induction
import Grading.Proofs.Watch.Loop
import Grading.Watch.DirectoryWatch

/-!
# Held — the files that the notifier holds

A notifier holds the files that were added to it and not removed since; stopping it does not make it
forget them. While the coordinator runs, it holds the files of all sessions. Besides, it may hold
files whose last session ended while watching was stopped.
-/

namespace Grading.Watch

open Grading.Files

/-! ## 1. What is held -/

def Event.hold (file : Path) (held : Bool) (ev : Event) : Bool :=
  if ev = .added file then true else if ev = .removed file then false else held

/-- Whether the notifier holds a file after a log: it was added and not removed since. -/
def holds (file : Path) (log : List Occurrence) : Bool := (calls log).foldl (Event.hold file) false

theorem holds_append (file : Path) (log more : List Occurrence) :
    holds file (log ++ more) = (calls more).foldl (Event.hold file) (holds file log) := by
  unfold holds
  rw [calls_append, List.foldl_append]

theorem foldl_hold {file : Path} {events : List Event} (h : Event.removed file ∉ events)
    (held : Bool) : events.foldl (Event.hold file) held = true ↔
      held = true ∨ Event.added file ∈ events := by
  induction events generalizing held with
  | nil => simp
  | cons ev events ih =>
    obtain ⟨hne, hrest⟩ := not_or.mp (fun hor => h (List.mem_cons.mpr hor))
    rw [List.foldl_cons, ih hrest, List.mem_cons]
    unfold Event.hold
    by_cases hadded : ev = .added file
    · simp [hadded]
    · rw [if_neg hadded, if_neg (Ne.symm hne)]
      simp [Ne.symm hadded]

theorem holds_append_of_not_removed {file : Path} {log more : List Occurrence}
    (h : Event.removed file ∉ calls more) : holds file (log ++ more) = true ↔
      holds file log = true ∨ Event.added file ∈ calls more := by
  rw [holds_append]
  exact foldl_hold h _

namespace Coordinator

variable {N : Type} [Notifier N] {c : Coordinator N} {e : String} {log : List Occurrence}
  {file : Path}

/-! ## 2. The files of the sessions -/

omit [Notifier N] in
def Watches (c : Coordinator N) (file : Path) : Prop := file ∈ c.files.map (·.1)

omit [Notifier N] in
theorem watches_iff : c.Watches file ↔ (c.files.lookup file).isSome = true :=
  (Table.lookup_isSome c.files file).symm

/-- An action keeps which files are watched, but for the first session in a file and the last. -/
theorem watches_act (c : Coordinator N) (a : Action) :
    (∀ file, (c.act a).1.Watches file ↔ c.Watches file) ∨
      (∃ x who, a = .watch x who ∧ c.session? x.id = none ∧
        ∀ file, (c.act a).1.Watches file ↔ file = x.file ∨ c.Watches file) ∨
      ∃ e who s, a = .unwatch e who ∧ c.session? e = some s ∧
        (s.unsubscribe who).subscribers = [] ∧ c.othersAt s = [] ∧
        ∀ file, (c.act a).1.Watches file ↔ file ≠ s.file ∧ c.Watches file := by
  have hkeep : ∀ {d : Coordinator N}, d.files = c.files →
      ∀ file, d.Watches file ↔ c.Watches file := by
    intro d h file
    unfold Watches
    rw [h]
  cases a with
  | watch x who =>
    cases hs : c.session? x.id with
    | some s =>
      refine .inl (hkeep ?_)
      show (c.watch x who).1.files = c.files
      rw [watch_known c x who hs]
      rfl
    | none =>
      refine .inr (.inl ⟨x, who, rfl, hs, fun file => ?_⟩)
      show (c.watch x who).1.Watches file ↔ _
      rw [watches_iff, watches_iff, (watch_new c x who hs).files, Table.lookup_put]
      by_cases hfile : file = x.file <;> simp [hfile]
  | unwatch e who =>
    cases hs : c.session? e with
    | none =>
      refine .inl (hkeep ?_)
      show (c.unwatch e who).1.files = c.files
      rw [unwatch_unknown c who hs]
    | some s =>
      by_cases hlast : (s.unsubscribe who).subscribers = []
      · have hfiles := (unwatch_last_files who hs hlast).1
        by_cases hothers : c.othersAt s = []
        · refine .inr (.inr ⟨e, who, s, rfl, hs, hlast, hothers, fun file => ?_⟩)
          show (c.unwatch e who).1.Watches file ↔ _
          rw [watches_iff, watches_iff, hfiles, if_pos hothers, Table.lookup_erase]
          by_cases hfile : file = s.file <;> simp [hfile]
        -- The exercise leaves its file to the others there.
        · refine .inl fun file => ?_
          show (c.unwatch e who).1.Watches file ↔ _
          rw [watches_iff, watches_iff, hfiles, if_neg hothers, Table.lookup_put]
          by_cases hfile : file = s.file
          · rw [if_pos (beq_iff_eq.mpr hfile), hfile]
            refine iff_of_true rfl ?_
            -- Whoever else is there was there before.
            cases hlookup : c.files.lookup s.file with
            | none => exact absurd (by rw [othersAt, hlookup]; rfl) hothers
            | some ids => rfl
          · rw [if_neg (by simpa using hfile)]
      · refine .inl (hkeep ?_)
        show (c.unwatch e who).1.files = c.files
        rw [unwatch_some c who hs hlast]
        rfl
  | _ => exact .inl (hkeep (files_act (by simp) (by simp)))

/-! ## 3. One action -/

/-- What the notifier holds: the files of all sessions while the coordinator runs, and besides only
files that are left behind. -/
structure Holding (c : Coordinator N) (log : List Occurrence) (left : Path → Prop) : Prop where
  watched : c.running = true → ∀ file, c.Watches file → holds file log = true
  kept : ∀ file, holds file log = true → c.Watches file ∨ left file

def Left (c : Coordinator N) (log : List Occurrence) (left : Path → Prop) (a : Action)
    (file : Path) : Prop :=
  (left file ∧ Event.removed file ∉ calls (c.act a).2) ∨
    (∃ e who, a = .unwatch e who) ∧ c.running = false ∧ holds file log = true ∧
      c.Watches file ∧ ¬ (c.act a).1.Watches file

/-- A file is removed alone, when its last session ends. -/
theorem removed_act {a : Action} (h : Event.removed file ∈ calls (c.act a).2) :
    calls (c.act a).2 = [.removed file] ∧ ¬ (c.act a).1.Watches file := by
  have hasked := asked_act c a
  generalize calls (c.act a).2 = called at hasked h
  cases hasked with
  | removed hs hlast hothers =>
    obtain rfl : file = _ := Event.removed.inj (List.mem_singleton.mp h)
    refine ⟨rfl, ?_⟩
    rw [watches_iff, show (c.act (.unwatch _ _)).1.files = _ from (unwatch_last_files _ hs hlast).1,
      if_pos hothers, Table.lookup_erase]
    simp
  | nothing => exact nomatch h
  | added | addFailed | stopped => exact nomatch List.mem_singleton.mp h
  | started _ htried => exact absurd h (htried.not_removed file)
  | restarted _ htried =>
    exact absurd h (List.not_mem_cons_of_ne_of_not_mem nofun (htried.not_removed file))

/-- A path that was handed to the notifier is watched after the action. -/
theorem added_act {a : Action} (h : Event.added file ∈ calls (c.act a).2) :
    (c.act a).1.Watches file := by
  have hasked := asked_act c a
  generalize calls (c.act a).2 = called at hasked h
  cases hasked with
  | @added x who hs =>
    obtain rfl : file = x.file := Event.added.inj (List.mem_singleton.mp h)
    rw [watches_iff, show (c.act (.watch x who)).1.files = _ from (watch_new c x who hs).files,
      Table.lookup_put]
    simp
  | nothing => exact nomatch h
  | addFailed | removed | stopped => exact nomatch List.mem_singleton.mp h
  | started _ htried =>
    show file ∈ (c.act .start).1.files.map (·.1)
    rw [files_act (a := .start) nofun nofun]
    exact htried.mem_of_added h
  | restarted _ htried =>
    show file ∈ (c.act .retry).1.files.map (·.1)
    rw [files_act (a := .retry) nofun nofun]
    exact htried.mem_of_added ((List.mem_cons.mp h).resolve_left nofun)

/-- A file that is watched anew while the coordinator runs is added. -/
theorem gained_act {a : Action} (hadds : ∀ file, Event.addFailed file ∉ calls (c.act a).2)
    (hrunning : c.running = true) (hbefore : ¬ c.Watches file) (hafter : (c.act a).1.Watches file) :
    Event.added file ∈ calls (c.act a).2 := by
  rcases watches_act c a with hsame | ⟨x, who, rfl, hs, hiff⟩ | ⟨e, who, s, rfl, -, -, -, hiff⟩
  · exact absurd ((hsame file).mp hafter) hbefore
  · obtain rfl := ((hiff file).mp hafter).resolve_right hbefore
    have hasked := asked_act c (.watch x who)
    generalize calls (c.act (.watch x who)).2 = called at hasked hadds
    cases hasked with
    | nothing hwatch =>
      refine absurd ?_ hbefore
      rw [watches_iff]
      have hothers := hwatch x who rfl hs hrunning
      cases hlookup : c.files.lookup x.file with
      | none => exact absurd (by rw [hlookup]; rfl) hothers
      | some ids => rfl
    | added => exact List.mem_cons_self
    | addFailed => exact absurd List.mem_cons_self (hadds x.file)
  · exact absurd ((hiff file).mp hafter).2 hbefore

/-- A file whose last session ends is removed, while the coordinator runs. -/
theorem lost_act {a : Action} (hbefore : c.Watches file) (hafter : ¬ (c.act a).1.Watches file) :
    (∃ e who, a = .unwatch e who) ∧
      (c.running = true → Event.removed file ∈ calls (c.act a).2) := by
  rcases watches_act c a with hsame | ⟨x, who, rfl, -, hiff⟩ |
    ⟨e, who, s, rfl, hs, hlast, hothers, hiff⟩
  · exact absurd ((hsame file).mpr hbefore) hafter
  · exact absurd ((hiff file).mpr (.inr hbefore)) hafter
  · refine ⟨⟨e, who, rfl⟩, fun hrunning => ?_⟩
    obtain rfl : file = s.file := by
      by_contra hne
      exact hafter ((hiff file).mpr ⟨hne, hbefore⟩)
    have hasked := asked_act c (.unwatch e who)
    generalize calls (c.act (.unwatch e who)).2 = called at hasked
    cases hasked with
    | nothing _ hunwatch => exact absurd hothers (hunwatch e who s rfl hs hlast hrunning)
    | removed hs' =>
      obtain rfl := Option.some.inj (hs.symm.trans hs')
      exact List.mem_cons_self

/-- One action keeps the correspondence between what is watched and what the notifier holds. -/
theorem Holding.act {left : Path → Prop} (h : c.Holding log left) {a : Action}
    (hadds : ∀ file, Event.addFailed file ∉ calls (c.act a).2) :
    (c.act a).1.Holding (log ++ (c.act a).2) (c.Left log left a) := by
  refine ⟨fun hrunning file hfile => ?_, fun file hfile => ?_⟩
  -- The file of a session is not removed, so it is held if it was before or is added now.
  · have hnot : Event.removed file ∉ calls (c.act a).2 := fun hmem => (removed_act hmem).2 hfile
    rw [holds_append_of_not_removed hnot]
    -- While watching was stopped nothing is known of the held files: starting adds them all.
    have hstarted : a = .start ∨ c.running = true := by
      rw [running_act] at hrunning
      cases a with
      | start => exact .inl rfl
      | stop runs => exact nomatch hrunning
      | _ => exact .inr hrunning
    rcases hstarted with rfl | hbefore
    · have hbefore : c.Watches file := by
        rw [Watches, files_act (a := .start) nofun nofun] at hfile
        exact hfile
      have hasked := asked_act c .start
      generalize calls (c.act .start).2 = called at hasked hadds
      cases hasked with
      | nothing _ _ hstart => exact .inl (h.watched (hstart rfl) file hbefore)
      | started _ htried => exact .inr (htried.added hadds hbefore)
    · by_cases hwatched : c.Watches file
      · exact .inl (h.watched hbefore file hwatched)
      · exact .inr (gained_act hadds hbefore hwatched hfile)
  -- A file that is held now was not removed: it was held before, or is added.
  · by_cases hmem : Event.removed file ∈ calls (c.act a).2
    · rw [holds_append, (removed_act hmem).1] at hfile
      simp [Event.hold] at hfile
    · rcases (holds_append_of_not_removed hmem).mp hfile with hheld | hadded
      · rcases h.kept file hheld with hwatched | hleft
        · by_cases hafter : (c.act a).1.Watches file
          · exact .inl hafter
          -- Its last session ends, and only a stopped coordinator does not remove it.
          · obtain ⟨hunwatch, hremoved⟩ := lost_act hwatched hafter
            refine .inr (.inr ⟨hunwatch, ?_, hheld, hwatched, hafter⟩)
            exact Bool.eq_false_iff.mpr fun hrunning => hmem (hremoved hrunning)
        · exact .inr (.inl ⟨hleft, hmem⟩)
      · exact .inl (added_act hadded)

/-! ## 4. Histories -/

/-- A file is left behind when its last session ended while watching was stopped and the notifier
held it, and it has not been removed since. -/
def LeftBehind (c : Coordinator N) (actions : List Action) (file : Path) : Prop :=
  ∃ xs e who ys, actions = xs ++ .unwatch e who :: ys ∧
    (c.play xs).1.running = false ∧ holds file (c.play xs).2 = true ∧
    (∃ s ∈ (c.play xs).1.sessions, s.file = file) ∧
    (∀ s ∈ ((c.play xs).1.act (.unwatch e who)).1.sessions, s.file ≠ file) ∧
    Event.removed file ∉ calls ((((c.play xs).1.act (.unwatch e who)).1).play ys).2

omit [Notifier N] in
theorem Holding.mono {left left' : Path → Prop} (h : c.Holding log left)
    (hleft : ∀ file, left file → left' file) : c.Holding log left' :=
  ⟨h.watched, fun file hfile => (h.kept file hfile).imp_right (hleft file)⟩

omit [Notifier N] in
theorem Consistent.watches_iff_session (h : c.Consistent log) :
    c.Watches file ↔ ∃ s ∈ c.sessions, s.file = file :=
  h.filed.mem_keys h.distinct file

/-- Through any history the notifier holds what is watched, and beyond that only what was left
behind. -/
theorem holding_play (hc : c.Consistent []) (hnone : ∀ file, ¬ c.Watches file)
    {actions : List Action} (hadds : ∀ file, Event.addFailed file ∉ calls (c.play actions).2) :
    (c.play actions).1.Holding (c.play actions).2 (c.LeftBehind actions) := by
  -- The last action is split off: what is left behind is told by all actions before it.
  induction actions using List.reverseRecOn with
  | nil => exact ⟨fun _ file hfile => absurd hfile (hnone file), nofun⟩
  | append_singleton actions a ih =>
    simp only [play_snoc, calls_append, List.mem_append, not_or] at hadds ⊢
    have hbefore := hc.play actions
    refine ((ih fun file => (hadds file).1).act fun file => (hadds file).2).mono fun file hleft => ?_
    rcases hleft with ⟨⟨xs, e, who, ys, rfl, hstopped, hheld, hsession, hlast, hkept⟩, hnot⟩ |
      ⟨⟨e, who, rfl⟩, hstopped, hheld, hwatched, hlast⟩
    -- It was left behind before, and is not removed now.
    · refine ⟨xs, e, who, ys ++ [a], by simp, hstopped, hheld, hsession, hlast, ?_⟩
      rw [play_append] at hnot
      rw [play_snoc, calls_append, List.mem_append, not_or]
      exact ⟨hkept, hnot⟩
    -- Its last session ends now.
    · refine ⟨actions, e, who, [], rfl, hstopped, hheld, hbefore.watches_iff_session.mp hwatched,
        fun s hs hfile => hlast ?_, List.not_mem_nil⟩
      exact (hbefore.act _).watches_iff_session.mpr ⟨s, hs, hfile⟩

/-- A path that was left behind is still with the notifier. -/
theorem LeftBehind.holds {actions : List Action} (h : c.LeftBehind actions file) :
    holds file (c.play actions).2 = true := by
  obtain ⟨xs, e, who, ys, rfl, hstopped, hheld, -, -, hkept⟩ := h
  rw [play_append]
  refine (holds_append_of_not_removed ?_).mpr (.inl hheld)
  show Event.removed file ∉ calls (((c.play xs).1.act (.unwatch e who)).2 ++
    (((c.play xs).1.act (.unwatch e who)).1.play ys).2)
  -- A stopped coordinator removes nothing when a session ends.
  have hnone : calls ((c.play xs).1.act (.unwatch e who)).2 = [] := by
    have hasked := asked_act (c.play xs).1 (.unwatch e who)
    generalize calls ((c.play xs).1.act (.unwatch e who)).2 = called at hasked
    cases hasked with
    | nothing => rfl
    | removed _ _ _ hrunning => exact nomatch hstopped.symm.trans hrunning
  rw [calls_append, hnone, List.nil_append]
  exact hkept

/-- After every history in which no file failed to be added, a running coordinator's notifier holds
exactly the files of the sessions, and the files left behind: those whose last session ended while
watching was stopped, and which have not been removed since. -/
theorem held_iff (notifier : N) (settings : WatchSettings) (backoff : Backoff) (chance : Chance)
    (actions : List Action) (file : Path)
    (hadds : ∀ file, Event.addFailed file ∉
      calls ((Coordinator.new notifier settings backoff chance).play actions).2)
    (hrunning :
      ((Coordinator.new notifier settings backoff chance).play actions).1.running = true) :
    let c := (Coordinator.new notifier settings backoff chance).play actions
    holds file c.2 = true ↔ (∃ s ∈ c.1.sessions, s.file = file) ∨
      (Coordinator.new notifier settings backoff chance).LeftBehind actions file := by
  intro c
  have hnew := consistent_new notifier settings backoff chance
  have hholding := holding_play hnew (fun _ => nofun) hadds
  have hsessions : c.1.Watches file ↔ _ := (hnew.play actions).watches_iff_session
  constructor
  · intro hfile
    exact (hholding.kept file hfile).imp_left hsessions.mp
  · rintro (hsession | hleft)
    · exact hholding.watched hrunning file (hsessions.mpr hsession)
    · exact hleft.holds

/-- Of two files one is left behind, the other is the file of a session. -/
theorem held_iff_left :
    let file (name : String) : Path := ⟨"/", ["w", name]⟩
    let c : Coordinator DirectoryWatch := .new {} {} {} []
    let actions : List Action := [.watch ⟨"a", file "a"⟩ "x", .watch ⟨"b", file "b"⟩ "x", .start,
      .stop [], .unwatch "a" none, .start]
    (∀ s ∈ (c.play actions).1.sessions, s.file ≠ file "a") ∧ c.LeftBehind actions (file "a") ∧
      holds (file "b") (c.play actions).2 = true := by
  intro file c actions
  have hadds : ∀ file, Event.addFailed file ∉ calls (c.play actions).2 := by
    have hcalls : calls (c.play actions).2 = [.added (file "a"), .added (file "b"), .started, .stopped,
        .added (file "b"), .started] := by decide +kernel
    rw [hcalls]
    simp
  have hother : ∀ s ∈ (c.play actions).1.sessions, s.file ≠ file "a" := by decide +kernel
  have hiff := fun name => held_iff (N := DirectoryWatch) {} {} {} [] actions (file name) hadds
    (by decide +kernel)
  refine ⟨hother, ?_, (hiff "b").mpr (.inl (by decide +kernel))⟩
  refine ((hiff "a").mp (by decide +kernel)).resolve_left ?_
  rintro ⟨s, hs, hfile⟩
  exact hother s hs hfile

/-- Watching is stopped, the only subscription is taken back, and watching is started again: the
notifier, which never failed, still holds the file. -/
theorem held_despite_unwatch :
    let file : Path := ⟨"/", ["w", "a"]⟩
    let c := (Coordinator.new (N := DirectoryWatch) {} {} {} []).play [.watch ⟨"a", file⟩ "x", .start,
      .stop [], .unwatch "a" none, .start]
    c.1.running = true ∧ (calls c.2).all (fun ev => !ev.isFailure) = true ∧ c.1.watched = [] ∧
      holds file c.2 = true ∧ file ∈ c.1.notifier.files := by
  decide +kernel

end Coordinator

end Grading.Watch
