import Mathlib.Data.Finset.Card
import Mathlib.Data.List.Nodup
import Loggaper.Helper
import Loggaper.Lib.Transition

/-!
# The fresh watchlist

A token of a fresh developer that fails its gates early is watched for a while. `try_add` looks at
the set of watched mints and at a counter under one lock, and counts itself after it has let go of
the lock; the task of a mint that ends leaves the set first and the counter after it.

- `accounted_of_reachable`: set, counter, calls and tasks agree on every run.
- `sound_of_countedInTime`: the cap holds on the runs in which no call takes in its mint while
  another is between the lock and the counter.
- `watches_two_of_one`: two calls that both look before either counts itself.
-/

namespace Loggaper

structure FreshWatchlistConfig where
  enabled : Bool := false
  pollIntervalMs : ℕ := 5000
  maxWaitMs : ℕ := 30_000
  maxConcurrent : ℕ := 50
  deriving DecidableEq

inductive TryAddError
  | disabled
  | duplicate
  | capFull
  deriving DecidableEq

structure FreshWatchlistManager where
  active : Finset Address
  running : ℕ
  deriving DecidableEq

namespace FreshWatchlistManager

def new : FreshWatchlistManager := ⟨∅, 0⟩

/-- `try_add` up to the end of its locked section. -/
def tryAdd (cfg : FreshWatchlistConfig) (m : FreshWatchlistManager) (mint : Address) :
    Except TryAddError FreshWatchlistManager :=
  if !cfg.enabled then .error .disabled
  else if mint ∈ m.active then .error .duplicate
  else if m.running ≥ cfg.maxConcurrent then .error .capFull
  else .ok { m with active := insert mint m.active }

theorem tryAdd_eq_ok {cfg : FreshWatchlistConfig} {m m' : FreshWatchlistManager} {mint : Address}
    (h : m.tryAdd cfg mint = .ok m') :
    mint ∉ m.active ∧ m.running < cfg.maxConcurrent ∧
      m' = { m with active := insert mint m.active } := by
  unfold tryAdd at h
  split_ifs at h with henabled hmint hfull
  cases h
  exact ⟨hmint, not_le.mp hfull, rfl⟩

end FreshWatchlistManager

/-! ## Calls and tasks -/

/-- The watchlist with its calls and tasks between their atomic steps. -/
structure Watchlist where
  manager : FreshWatchlistManager
  /-- Calls that have taken in their mint and not counted it. -/
  adding : List Address
  /-- Mints with a watch task. -/
  watching : List Address
  /-- Tasks that have removed their mint and not uncounted it. -/
  leaving : ℕ
  deriving DecidableEq

inductive WatchEvent
  | tryAdd (mint : Address)
  /-- A call counts its mint and spawns the task. -/
  | count (i : ℕ)
  /-- A task removes its mint. -/
  | remove (i : ℕ)
  /-- A task uncounts its mint. -/
  | uncount
  deriving DecidableEq

namespace Watchlist

def step (cfg : FreshWatchlistConfig) (s : Watchlist) : WatchEvent → Option Watchlist
  | .tryAdd mint =>
    match s.manager.tryAdd cfg mint with
    | .error _ => some s
    | .ok m => some { s with manager := m, adding := s.adding ++ [mint] }
  | .count i =>
    s.adding[i]?.map fun mint => { s with
      manager.running := s.manager.running + 1
      adding := s.adding.eraseIdx i
      watching := s.watching ++ [mint] }
  | .remove i =>
    s.watching[i]?.map fun mint => { s with
      manager.active := s.manager.active.erase mint
      watching := s.watching.eraseIdx i
      leaving := s.leaving + 1 }
  | .uncount =>
    if s.leaving = 0 then none
    else some { s with
      manager.running := s.manager.running - 1
      leaving := s.leaving - 1 }

def empty : Watchlist := ⟨.new, [], [], 0⟩

/-- The watchlist under all interleavings of calls and tasks. -/
def machine (cfg : FreshWatchlistConfig) : Machine Watchlist WatchEvent where
  init s := s = empty
  step := step cfg

/-! ## Set, counter, calls and tasks -/

/-- The watched mints are those of the calls and the tasks, each once; and the counter has each of
them but those still to be counted, besides those still to be uncounted. -/
structure Accounted (s : Watchlist) : Prop where
  nodup : (s.adding ++ s.watching).Nodup
  mem_active : ∀ mint, mint ∈ s.manager.active ↔ mint ∈ s.adding ++ s.watching
  counter : s.manager.running + s.adding.length = s.manager.active.card + s.leaving

/-- Not more mints are watched than configured. -/
def WithinCap (cfg : FreshWatchlistConfig) (s : Watchlist) : Prop :=
  s.manager.active.card ≤ cfg.maxConcurrent

/-- No call takes in its mint while another is between its locked section and its `fetch_add`. -/
def CountedInTime (cfg : FreshWatchlistConfig) (s : Watchlist) : WatchEvent → Prop
  | .tryAdd mint => mint ∉ s.manager.active → s.manager.running < cfg.maxConcurrent →
    s.adding = []
  | _ => True

variable {cfg : FreshWatchlistConfig} {s t : Watchlist}

theorem accounted_empty : empty.Accounted := by
  constructor
  · exact List.nodup_nil
  · intro mint
    simp [empty, FreshWatchlistManager.new]
  · rfl

theorem Accounted.tryAdd (h : s.Accounted) {mint : Address} {m : FreshWatchlistManager}
    (hadd : s.manager.tryAdd cfg mint = .ok m) :
    Accounted { s with manager := m, adding := s.adding ++ [mint] } := by
  obtain ⟨hnew, -, rfl⟩ := FreshWatchlistManager.tryAdd_eq_ok hadd
  have hfresh : mint ∉ s.adding ++ s.watching := fun hmem => hnew ((h.mem_active mint).mpr hmem)
  constructor
  · have hperm : (s.adding ++ [mint] ++ s.watching).Perm (mint :: (s.adding ++ s.watching)) := by
      rw [List.append_assoc]
      exact List.perm_middle
    exact hperm.nodup_iff.mpr (List.nodup_cons.mpr ⟨hfresh, h.nodup⟩)
  · intro a
    have hmem := h.mem_active a
    simp only [List.mem_append, List.mem_singleton, Finset.mem_insert] at hmem ⊢
    tauto
  · have hcounter := h.counter
    simp only [List.length_append, List.length_singleton, Finset.card_insert_of_notMem hnew]
    omega

theorem Accounted.card (h : s.Accounted) :
    s.manager.active.card = s.adding.length + s.watching.length := by
  have hset : s.manager.active = (s.adding ++ s.watching).toFinset := by
    ext mint
    rw [List.mem_toFinset]
    exact h.mem_active mint
  rw [hset, List.toFinset_card_of_nodup h.nodup, List.length_append]

/-- A call counts itself and becomes a task. -/
theorem Accounted.count (h : s.Accounted) {i : ℕ} {mint : Address}
    (hi : s.adding[i]? = some mint) :
    Accounted { s with
      manager.running := s.manager.running + 1
      adding := s.adding.eraseIdx i
      watching := s.watching ++ [mint] } := by
  obtain ⟨hlt, hget⟩ := List.getElem?_eq_some_iff.mp hi
  have hperm : (s.adding.eraseIdx i ++ (s.watching ++ [mint])).Perm (s.adding ++ s.watching) := by
    calc (s.adding.eraseIdx i ++ (s.watching ++ [mint])).Perm
          (mint :: (s.adding.eraseIdx i ++ s.watching)) := by
          rw [← List.append_assoc]
          exact List.perm_append_singleton _ _
      _ = (mint :: s.adding.eraseIdx i) ++ s.watching := rfl
      List.Perm _ (s.adding ++ s.watching) := by
          apply List.Perm.append_right
          rw [← hget]
          exact List.getElem_cons_eraseIdx_perm hlt
  constructor
  · exact hperm.nodup_iff.mpr h.nodup
  · intro a
    rw [h.mem_active a]
    exact hperm.mem_iff.symm
  · have hcounter := h.counter
    have hlen := List.length_eraseIdx_of_lt hlt
    dsimp only
    omega

/-- A task removes its mint. -/
theorem Accounted.remove (h : s.Accounted) {i : ℕ} {mint : Address}
    (hi : s.watching[i]? = some mint) :
    Accounted { s with
      manager.active := s.manager.active.erase mint
      watching := s.watching.eraseIdx i
      leaving := s.leaving + 1 } := by
  obtain ⟨hlt, hget⟩ := List.getElem?_eq_some_iff.mp hi
  have hperm : (s.adding ++ s.watching).Perm (mint :: (s.adding ++ s.watching.eraseIdx i)) := by
    calc (s.adding ++ s.watching).Perm (s.adding ++ mint :: s.watching.eraseIdx i) := by
          apply List.Perm.append_left
          rw [← hget]
          exact (List.getElem_cons_eraseIdx_perm hlt).symm
      List.Perm _ (mint :: (s.adding ++ s.watching.eraseIdx i)) := List.perm_middle
  have hnodup := List.nodup_cons.mp (hperm.nodup_iff.mp h.nodup)
  have hmint : mint ∈ s.manager.active := by
    rw [h.mem_active mint, hperm.mem_iff]
    exact List.mem_cons_self
  constructor
  · exact hnodup.2
  · intro a
    have hmem := (h.mem_active a).trans hperm.mem_iff
    rw [List.mem_cons] at hmem
    rw [Finset.mem_erase, hmem]
    constructor
    · intro ha
      exact ha.2.resolve_left ha.1
    · intro ha
      exact ⟨fun heq => hnodup.1 (heq ▸ ha), .inr ha⟩
  · have hcounter := h.counter
    have hcard := Finset.card_erase_add_one hmint
    dsimp only
    omega

theorem Accounted.step (h : s.Accounted) {e : WatchEvent} (hstep : s.step cfg e = some t) :
    t.Accounted := by
  cases e with
  | tryAdd mint =>
    simp only [Watchlist.step] at hstep
    cases hadd : s.manager.tryAdd cfg mint with
    | error e =>
      rw [hadd] at hstep
      cases hstep
      exact h
    | ok m =>
      rw [hadd] at hstep
      cases hstep
      exact h.tryAdd hadd
  | count i =>
    obtain ⟨mint, hi, rfl⟩ := Option.map_eq_some_iff.mp hstep
    exact h.count hi
  | remove i =>
    obtain ⟨mint, hi, rfl⟩ := Option.map_eq_some_iff.mp hstep
    exact h.remove hi
  | uncount =>
    simp only [Watchlist.step] at hstep
    split_ifs at hstep with hleaving
    cases hstep
    refine ⟨h.nodup, h.mem_active, ?_⟩
    have hcounter := h.counter
    have hcard := h.card
    dsimp only
    omega

/-- **Set and counter agree** on every run. -/
theorem accounted_of_reachable (h : (machine cfg).Reachable s) : s.Accounted := by
  obtain ⟨s₀, es, rfl, hrun⟩ := h
  exact (Machine.Path.of_run hrun).invariant (I := Accounted)
    (fun _ _ _ ha _ hstep => ha.step hstep) accounted_empty

/-! ## The cap -/

theorem WithinCap.step (hs : s.Accounted) (h : s.WithinCap cfg) {e : WatchEvent}
    (hguard : s.CountedInTime cfg e) (hstep : s.step cfg e = some t) : t.WithinCap cfg := by
  cases e with
  | tryAdd mint =>
    simp only [Watchlist.step] at hstep
    cases hadd : s.manager.tryAdd cfg mint with
    | error e =>
      rw [hadd] at hstep
      cases hstep
      exact h
    | ok m =>
      rw [hadd] at hstep
      cases hstep
      obtain ⟨hnew, hroom, rfl⟩ := FreshWatchlistManager.tryAdd_eq_ok hadd
      -- nobody is halfway, so the counter that was read has every mint of the set
      have hadding : s.adding = [] := hguard hnew hroom
      have hcounter := hs.counter
      rw [hadding, List.length_nil, Nat.add_zero] at hcounter
      show (insert mint s.manager.active).card ≤ cfg.maxConcurrent
      rw [Finset.card_insert_of_notMem hnew]
      omega
  | count i =>
    obtain ⟨mint, -, rfl⟩ := Option.map_eq_some_iff.mp hstep
    exact h
  | remove i =>
    obtain ⟨mint, -, rfl⟩ := Option.map_eq_some_iff.mp hstep
    exact (Finset.card_erase_le).trans h
  | uncount =>
    simp only [Watchlist.step] at hstep
    split_ifs at hstep
    cases hstep
    exact h

/-- What the watchlist promises: the cap, one task for each mint, and a counter that counts the
watched mints when no call and no end of a task is halfway. -/
structure Sound (cfg : FreshWatchlistConfig) (s : Watchlist) : Prop where
  cap : s.manager.active.card ≤ cfg.maxConcurrent
  one_task : (s.adding ++ s.watching).Nodup
  counter : s.adding = [] → s.leaving = 0 →
    s.manager.running = s.manager.active.card ∧ s.manager.active = s.watching.toFinset

/-- **The watchlist is sound** on every run whose calls are counted in time. -/
theorem sound_of_countedInTime (h : (machine cfg).ReachableUnder (CountedInTime cfg) s) :
    s.Sound cfg := by
  have hboth : s.Accounted ∧ s.WithinCap cfg := by
    refine h.invariant (I := fun s => s.Accounted ∧ s.WithinCap cfg) ?_ ?_
    · rintro s rfl
      exact ⟨accounted_empty, Nat.zero_le _⟩
    · intro s e t hs hguard hstep
      exact ⟨hs.1.step hstep, hs.2.step hs.1 hguard hstep⟩
  obtain ⟨hacc, hcap⟩ := hboth
  refine ⟨hcap, hacc.nodup, fun hadding hleaving => ?_⟩
  have hcounter := hacc.counter
  rw [hadding, hleaving] at hcounter
  refine ⟨hcounter, ?_⟩
  ext mint
  rw [hacc.mem_active mint, hadding, List.mem_toFinset]
  rfl

/-- A watchlist for one mint. -/
def smallWatch : FreshWatchlistConfig := { enabled := true, maxConcurrent := 1 }

instance (cfg : FreshWatchlistConfig) (s : Watchlist) : DecidablePred (s.CountedInTime cfg)
  | .tryAdd mint => inferInstanceAs (Decidable (mint ∉ s.manager.active → _ → _))
  | .count _ | .remove _ | .uncount => .isTrue trivial

theorem sound_of_countedInTime_oneAfterAnother :
    ∃ s : Watchlist, s.watching = [2] ∧ s.Sound smallWatch := by
  have hrun : (((machine smallWatch).runUnder (CountedInTime smallWatch) empty
      [.tryAdd 1, .count 0, .remove 0, .uncount, .tryAdd 2, .count 0]).any fun s =>
        decide (s.watching = [2])) = true := by
    decide +kernel
  obtain ⟨s, hs, h⟩ := (Option.any_eq_true _ _).mp hrun
  exact ⟨s, of_decide_eq_true h, sound_of_countedInTime ⟨empty, _, rfl, .of_runUnder hs⟩⟩

/-- **The cap is exceeded** when a second call looks before the first has counted itself. -/
theorem watches_two_of_one :
    ∃ s, (machine smallWatch).Reachable s ∧ s.watching = [1, 2] ∧ ¬ s.Sound smallWatch := by
  have hrun : (((machine smallWatch).run empty [.tryAdd 1, .tryAdd 2, .count 0, .count 0]).any
      fun s => decide (s.watching = [1, 2] ∧ s.manager.active.card = 2)) = true := by
    decide +kernel
  obtain ⟨s, hs, h⟩ := (Option.any_eq_true _ _).mp hrun
  obtain ⟨hwatching, hcard⟩ := of_decide_eq_true h
  refine ⟨s, ⟨empty, _, rfl, hs⟩, hwatching, fun hsound => ?_⟩
  have hcap := hsound.cap
  rw [hcard] at hcap
  exact absurd hcap (by decide)

end Watchlist

end Loggaper
