import Grading.Proofs.Watch.Filed
import Grading.Proofs.Watch.Freshness
import Grading.Proofs.Watch.Unsubscribed

/-!
# Consistent — what every history keeps

Whatever happens to a coordinator, its log accounts for its state, its files are those of its
sessions, the latest token of a session is the one given out last, and a run whose report the runner
still owes is not the one that was published last.
-/

namespace Grading.Watch

open Grading.Files

/-! ## 1. The latest token of a session -/

def Ledger.Current (l : Ledger) : Prop := ∀ e x, l.standing e = some x → x.latest = l.token e

theorem Ledger.Current.advance {l : Ledger} (h : l.Current) (e : String) : (l.advance e).Current := by
  intro d y hy
  by_cases hd : d = e
  · subst hd
    obtain ⟨x, _, rfl⟩ : ∃ x, l.standing d = some x ∧
        ({ x with latest := l.token d + 1 } : Standing) = y := by
      simpa [Ledger.advance, Option.map_eq_some_iff] using hy
    simp [Ledger.advance]
  · have hy : l.standing d = some y := by simpa [Ledger.advance, hd] using hy
    rw [h d y hy]
    simp [Ledger.advance, hd]

theorem Ledger.Current.foldl_advance {l : Ledger} (h : l.Current) (exercises : List String) :
    (exercises.foldl Ledger.advance l).Current := by
  induction exercises generalizing l with
  | nil => exact h
  | cons e es ih => exact ih (h.advance e)

theorem Ledger.Entry.current {l m : Ledger} {occurred : List Occurrence} (h : l.Entry occurred m)
    (hl : l.Current) : m.Current := by
  cases h with
  | none => exact hl
  | opened =>
    intro d y hy
    rcases update_eq_some hy with ⟨rfl, hnow⟩ | hold
    · rw [← Option.some.inj hnow]
      rfl
    · exact hl d y hold
  | @closed e =>
    intro d y hy
    by_cases hd : d = e
    · simp [Ledger.closeSession, hd] at hy
    · have hy : l.standing d = some y := by simpa [Ledger.closeSession, hd] using hy
      rw [hl d y hy]
      simp [Ledger.closeSession, hd]
  | dispatched => exact hl.advance _
  | published =>
    intro d y hy
    rcases update_eq_some hy with ⟨rfl, hnow⟩ | hold
    · obtain ⟨x, hx, rfl⟩ := Option.map_eq_some_iff.mp hnow
      exact hl _ x hx
    · exact hl d y hold
  | outdated exercises => exact hl.foldl_advance exercises

namespace Coordinator

variable {N : Type} [Notifier N] {c : Coordinator N} {s : Session} {e : String}
  {log : List Occurrence}

/-! ## 2. Runs in the runner are not published -/

omit [Notifier N] in
theorem latest_eq_token (h : c.ledger.Current) (hs : c.session? e = some s) :
    s.latest = c.token e :=
  h e s.standing (ledger_standing hs)

/-- A timer that goes off opens a run with the session and the next token, and marks the session
as in progress. -/
theorem goOff_act {run : Run} (h : Occurrence.dispatched run ∈ (c.act (.goOff run.exercise)).2) :
    ∃ s, c.session? run.exercise = some s ∧ s.serial = run.session ∧
      run.token = c.token run.exercise + 1 ∧ (c.act (.goOff run.exercise)).1.session? run.exercise =
        some { s with timer := none, status := .inProgress, latest := run.token } := by
  rcases act_goOff c run.exercise with hact | ⟨s, hs, hact⟩ <;> rw [hact] at h ⊢
  · exact nomatch h
  · obtain ⟨hserial, htoken⟩ : run.session = s.serial ∧ run.token = c.token run.exercise + 1 := by
      obtain ⟨e, k, t⟩ := run
      simpa using List.mem_singleton.mp h
    refine ⟨s, hs, hserial.symm, htoken, ?_⟩
    rw [dispatch_some c hs, htoken]
    show (c.advance _).session? _ = _
    rw [session?_advanced hs (by rfl), if_pos rfl]

/-- A run in flight was in flight before, in the runner if it is there, or is dispatched now. -/
theorem flight_act {a : Action} {f : Flight} (hf : f ∈ (c.act a).1.flights) :
    (∃ g ∈ c.flights, g.run = f.run ∧ (f.stage = .running → g.stage = .running)) ∨
      Occurrence.dispatched f.run ∈ (c.act a).2 := by
  rcases flights_act c a with hkeep | ⟨run, hrun, hflights⟩ | ⟨run, report, rest, -, hflights⟩
  · exact .inl ⟨f, hkeep f hf, rfl, id⟩
  · rw [hflights] at hf
    rcases List.mem_append.mp hf with hold | hnew
    · exact .inl ⟨f, hold, rfl, id⟩
    · rw [List.mem_singleton.mp hnew]
      exact .inr hrun
  · rw [hflights] at hf
    obtain ⟨g, hg, rfl⟩ := List.mem_map.mp hf
    by_cases hrun : g.run = run
    · rw [if_pos hrun]
      exact .inl ⟨g, hg, rfl, nofun⟩
    · rw [if_neg hrun]
      exact .inl ⟨g, hg, rfl, id⟩

omit [Notifier N] in
/-- No run that the runner has not given the report of is the one that was published last. -/
def Unpublished (c : Coordinator N) : Prop :=
  ∀ f ∈ c.flights, f.stage = .running → ∀ s, c.session? f.run.exercise = some s →
    s.serial = f.run.session → s.published ≠ f.run.token

/-- One action keeps it so: a token is published only by the run that leaves the running stage
with it. -/
theorem Unpublished.act (h : c.Unpublished) (hrec : c.Recorded log) (hfiled : c.Filed)
    (hlt : ∀ f ∈ c.flights, f.run.session < c.opened) (a : Action) : (c.act a).1.Unpublished := by
  intro f hf hstage s' hs' hserial
  have hturn := turn_act hrec.distinct hfiled a f.run.exercise
  rw [hs'] at hturn
  rcases flight_act hf with ⟨g, hg, hrun, hrunning⟩ | hnew
  · have hbefore := h g hg (hrunning hstage)
    rw [hrun] at hbefore
    generalize hx : c.session? f.run.exercise = x at hturn
    cases hturn with
    | kept => exact hbefore s' hx hserial
    -- A run in flight is of a session that was opened before.
    | opened => exact absurd hserial (Nat.ne_of_gt (hrun ▸ hlt g hg))
    | @joined _ _ s => exact hbefore s hx hserial
    | @left _ s => exact hbefore s hx hserial
    | @scheduled _ s => exact hbefore s hx hserial
    | @dispatched s => exact hbefore s hx hserial
    | @settled s => exact hbefore s hx hserial
    -- What is published now under the token of a run is the report of that run.
    | @published s run report hexercise _ hsession _ hnew =>
      intro htoken
      obtain rfl : f.run = run := by
        obtain ⟨e, k, t⟩ := run
        obtain ⟨⟨e', k', t'⟩, stage⟩ := f
        exact (Run.mk.injEq ..).mpr ⟨hexercise.symm, hserial.symm.trans hsession, htoken.symm⟩
      -- The run that is published now is in the runner no longer.
      rcases act_finish c f.run report with hact | hact | ⟨_, _, _, _, _, hact⟩
      · rw [hact, hx] at hs'
        exact absurd hnew (by rw [Option.some.inj hs']; exact Nat.lt_irrefl _)
      · rw [hact, show (c.land f.run).session? f.run.exercise = some s from hx] at hs'
        exact absurd hnew (by rw [Option.some.inj hs']; exact Nat.lt_irrefl _)
      · rw [hact] at hf
        obtain ⟨k, -, hfk⟩ := List.mem_map.mp hf
        split at hfk
        · rw [← hfk] at hstage
          exact nomatch hstage
        · next hother => exact hother (by rw [hfk])
  -- A run that is dispatched now has a token that nothing was published under.
  · obtain ⟨ha, htimed⟩ := comesFrom_act hnew
    rw [ha] at hnew hs'
    obtain ⟨s, hs, -, htoken, hs''⟩ := goOff_act hnew
    obtain rfl := Option.some.inj (hs'.symm.trans hs'')
    have hle := (hrec.ledger.standing _ _ (ledger_standing hs)).published_le
    rw [htoken]
    exact Nat.ne_of_lt (Nat.lt_succ_of_le hle)

/-! ## 3. Consistent states -/

theorem play_append (c : Coordinator N) (xs ys : List Action) : c.play (xs ++ ys) =
    (((c.play xs).1.play ys).1, (c.play xs).2 ++ ((c.play xs).1.play ys).2) := by
  induction xs generalizing c with
  | nil => rfl
  | cons x xs ih =>
    show (((c.act x).1.play (xs ++ ys)).1, (c.act x).2 ++ ((c.act x).1.play (xs ++ ys)).2) = _
    rw [ih, ← List.append_assoc]
    rfl

theorem play_snoc (c : Coordinator N) (xs : List Action) (a : Action) : c.play (xs ++ [a]) =
    (((c.play xs).1.act a).1, (c.play xs).2 ++ ((c.play xs).1.act a).2) := by
  rw [play_append, ← List.append_nil ((c.play xs).1.act a).2]
  rfl

omit [Notifier N] in
structure Consistent (c : Coordinator N) (log : List Occurrence) : Prop extends c.Recorded log where
  filed : c.Filed
  current : c.ledger.Current
  opened : ∀ f ∈ c.flights, f.run.session < c.opened
  unpublished : c.Unpublished

namespace Consistent

/-- One action keeps the coordinator consistent with its log. -/
theorem act (h : c.Consistent log) (a : Action) : (c.act a).1.Consistent (log ++ (c.act a).2) :=
  ⟨h.toRecorded.act a, h.filed.act h.distinct a, (entry_act h.distinct a).current h.current,
    session_lt_act h.toRecorded h.opened a,
    h.unpublished.act h.toRecorded h.filed h.opened a⟩

/-- A coordinator stays consistent with its log through any history. -/
theorem play (h : c.Consistent log) (actions : List Action) :
    (c.play actions).1.Consistent (log ++ (c.play actions).2) :=
  invariant_play (fun _ _ a h => h.act a) h actions

omit [Notifier N] in
theorem published_le (h : c.Consistent log) (hs : c.session? e = some s) :
    s.published ≤ c.token e :=
  (h.ledger.standing e _ (ledger_standing hs)).published_le

omit [Notifier N] in
/-- A run in flight has a token that was given out. -/
theorem token_le (h : c.Consistent log) {f : Flight} (hf : f ∈ c.flights) :
    f.run.token ≤ c.token f.run.exercise := by
  refine h.ledger.dispatched_le _ _ (List.mem_filterMap.mpr ⟨_, (h.flights f hf).dispatched, ?_⟩)
  exact if_pos rfl

end Consistent

omit [Notifier N] in
theorem consistent_new (notifier : N) (settings : WatchSettings) (backoff : Backoff)
    (chance : Chance) : (Coordinator.new notifier settings backoff chance).Consistent [] :=
  ⟨recorded_new notifier settings backoff chance, filed_new notifier settings backoff chance, nofun,
    nofun, nofun⟩

end Coordinator

end Grading.Watch
