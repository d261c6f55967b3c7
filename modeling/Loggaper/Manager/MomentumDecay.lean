import Loggaper.Lib.Streak
import Loggaper.Manager.Holdings
import Loggaper.Manager.RowHistory

/-!
# The confirmed momentum decay

A close for momentum decay has to be confirmed by several evaluated ticks in a row. The row counts
them in a `u8`, an evaluated tick without decay or with a healthy recovery starts over, and how many
are needed is settled at the tick that closes.

- `decayVerdict`: what an evaluated tick says.
- `decayDiary`: the verdicts of each row since it was opened.
- `momentumDecay_confirmed`: what a queued close has behind it.
-/

namespace Loggaper

section
variable (cfg : SmartBuyConfig) (v : TickView) (p : Position)

/-- The recovery score of the tick, after the flush has been tracked. -/
def recoveryNow : ℤ :=
  let pos := trackFlush cfg v p
  recoveryScore (liveMetricsLite pos v.vel v.profit pos.learningSnapshot cfg.exitV4) v.currentMcap
    pos.flushLowMcap pos.highestMcap

def healthyRecovery : Bool :=
  (trackFlush cfg v p).flushActive && recoveryNow cfg v p ≥ cfg.exitV4.recoveryMinScore

/-- The tape deteriorates, and no flush is recovering. -/
def decayVerdict : Bool := decayNow cfg v p && !healthyRecovery cfg v p

theorem decayStreak_trackDecay :
    (trackDecay cfg v p).decayStreak = Streak.count 255 p.decayStreak (decayVerdict cfg v p) := by
  have hflush : (trackFlush cfg v p).decayStreak = p.decayStreak := by
    unfold trackFlush
    dsimp only
    split_ifs <;> rfl
  show (if decayNow cfg v p = true ∧ ¬ healthyRecovery cfg v p = true then
    min ((trackFlush cfg v p).decayStreak + 1) 255 else 0) = _
  unfold Streak.count decayVerdict
  rw [hflush]
  by_cases hdecay : decayNow cfg v p = true
  · cases hrecovery : healthyRecovery cfg v p <;> simp [hdecay]
  · simp [hdecay]

end

/-- The verdicts of the ticks that the decay rule looks at. -/
def decayDiary : Diary Bool where
  tick m now key p :=
    (evaluatesDecay m.config key.mint m.hasRpc now p).map fun (v, q) => decayVerdict m.config v q
  live _ _ _ _ := none

/-- The row counts its last verdicts, up to 255, while the rule is on. -/
def DecayCounted (cfg : SmartBuyConfig) (verdicts : List Bool) (r : RowMemory) : Prop :=
  r.decay.decayStreak =
    if cfg.exitV4.momentumDecayExitEnabled then min (Streak.streak verdicts) 255 else 0

namespace DecayCounted

variable {cfg : SmartBuyConfig} {verdicts : List Bool} {p q : Position} {v : TickView}

/-- The count after an evaluated tick. -/
theorem evaluated (h : DecayCounted cfg verdicts p.memory) (hsame : q.decay = p.decay) :
    (decayAfter cfg v q).decayStreak =
      if cfg.exitV4.momentumDecayExitEnabled then
        min (Streak.streak (decayVerdict cfg v q :: verdicts)) 255
      else 0 := by
  have hcount : q.decayStreak = _ := (congrArg DecayState.decayStreak hsame).trans h
  unfold decayAfter
  by_cases hon : cfg.exitV4.momentumDecayExitEnabled = true
  · rw [if_pos hon] at hcount ⊢
    rw [if_pos hon]
    show (trackDecay cfg v q).decayStreak = _
    rw [decayStreak_trackDecay, hcount, Streak.count_streak]
  · rw [if_neg hon] at hcount ⊢
    rw [if_neg hon]
    exact hcount

theorem tick (m : PositionManagerActor) (now : ℕ) (key : PositionKey)
    (h : DecayCounted m.config verdicts p.memory) :
    DecayCounted m.config ((decayDiary.tick m now key p).toList ++ verdicts)
      (m.tickRow now key p).pos.memory := by
  show (tickPosition m.config key.mint m.hasRpc now p).pos.decay.decayStreak = _
  have hnote : decayDiary.tick m now key p = (evaluatesDecay m.config key.mint m.hasRpc now p).map
      fun (v, q) => decayVerdict m.config v q := rfl
  rw [hnote]
  cases heval : evaluatesDecay m.config key.mint m.hasRpc now p with
  | none =>
    rw [(tick_unevaluated heval).1]
    exact h
  | some vq =>
    obtain ⟨v, q⟩ := vq
    obtain ⟨hsame, hafter, -⟩ := tick_evaluated heval
    rw [hafter]
    exact h.evaluated hsame

end DecayCounted

theorem decayCounted_opened (cfg : SmartBuyConfig) (order : BuyOrder) (pool : Pool)
    (r : BuyReceipt) (now : ℕ) :
    DecayCounted cfg [] (PositionManagerActor.openedPosition cfg order pool r now).memory := by
  obtain ⟨mcap, hmem⟩ := PositionManagerActor.openedPosition_memory cfg order pool r now
  rw [hmem]
  simp [DecayCounted]

/-- **The count is the streak**, up to 255, on every run. -/
theorem decayCounted_of_reachable {w : Diary.Kept Bool} (h : decayDiary.notes.machine.Reachable w)
    {key : PositionKey} {p : Position} (hp : w.row key = some p) :
    DecayCounted w.actor.config (w.record key) p.memory :=
  Diary.history ⟨decayCounted_opened, fun m now key _ _ h => h.tick m now key,
    fun _ _ _ _ _ h => h⟩ h hp

/-- **What a close for momentum decay has behind it.** On every run and at every tick: a queued
close comes at an evaluated tick, and the last evaluated ticks of the row, as many as this tick
needs and itself included, all saw decay and no healthy recovery. An evaluated tick that did not
resets the count. -/
theorem momentumDecay_confirmed {w : Diary.Kept Bool} (h : decayDiary.notes.machine.Reachable w)
    (now : ℕ) {key : PositionKey} {p : Position} (hp : w.row key = some p) :
    (queuesDecay (w.actor.tickRow now key p).action = true →
      ∃ v q, evaluatesDecay w.actor.config key.mint w.actor.hasRpc now p = some (v, q) ∧
        Streak.Confirmed (decayConfirmNeeded w.actor.config v)
          (decayVerdict w.actor.config v q :: w.record key)) ∧
      ∀ v q, evaluatesDecay w.actor.config key.mint w.actor.hasRpc now p = some (v, q) →
        decayVerdict w.actor.config v q = false →
        (w.actor.tickRow now key p).pos.decayStreak = 0 := by
  have hcount := decayCounted_of_reachable h hp
  constructor
  · intro hqueued
    cases heval : evaluatesDecay w.actor.config key.mint w.actor.hasRpc now p with
    | none =>
      exact absurd hqueued (Bool.eq_false_iff.mp (tick_unevaluated heval).2)
    | some vq =>
      obtain ⟨v, q⟩ := vq
      refine ⟨v, q, rfl, ?_⟩
      obtain ⟨hsame, hafter, hqueues⟩ := tick_evaluated heval
      obtain ⟨hon, hfull⟩ := hqueues.mp hqueued
      have hstreak := hcount.evaluated (v := v) hsame
      rw [decayAfter, if_pos hon, if_pos hon] at hstreak
      rw [Streak.confirmed_iff]
      calc decayConfirmNeeded w.actor.config v
          ≤ (trackDecay w.actor.config v q).decayStreak := hfull
        _ = min (Streak.streak (decayVerdict w.actor.config v q :: w.record key)) 255 := hstreak
        _ ≤ _ := min_le_left _ _
  · intro v q heval hverdict
    obtain ⟨hsame, hafter, -⟩ := tick_evaluated heval
    have hstreak := hcount.evaluated (v := v) hsame
    rw [hverdict, Streak.streak_false, Nat.zero_min, ite_self] at hstreak
    exact (congrArg DecayState.decayStreak hafter).trans hstreak

/-- A quiet tape puts the row into the distribution phase, and two ticks see the decay. -/
def fadedRow : List Event := tapedRow ++ snapshotComes quietSnapshot ++ tickAt 10 ++ tickAt 11

/-- The third tick closes the row, with three ticks of decay behind it. -/
theorem momentumDecay_confirmed_fadedRow :
    ∃ (w : Diary.Kept Bool) (p : Position), w.row smallOrder.key = some p ∧
      queuesDecay (w.actor.tickRow 12 smallOrder.key p).action = true ∧
      ∃ v q, decayConfirmNeeded w.actor.config v = 3 ∧
        Streak.Confirmed 3 (decayVerdict w.actor.config v q :: w.record smallOrder.key) := by
  obtain ⟨w, hw, -, h⟩ := decayDiary.reachable_of_run {} fadedRow
    (fun w => (w.row smallOrder.key).any fun p =>
      queuesDecay (w.actor.tickRow 12 smallOrder.key p).action &&
        (evaluatesDecay w.actor.config 1 w.actor.hasRpc 12 p).all fun (v, _) =>
          decide (decayConfirmNeeded w.actor.config v = 3))
    (by decide +kernel)
  obtain ⟨p, hp, h⟩ := (Option.any_eq_true _ _).mp h
  obtain ⟨hqueued, hneeded⟩ := Bool.and_eq_true_iff.mp h
  obtain ⟨v, q, heval, hconfirmed⟩ := (momentumDecay_confirmed hw 12 hp).1 hqueued
  rw [show evaluatesDecay w.actor.config 1 w.actor.hasRpc 12 p = some (v, q) from heval] at hneeded
  have hthree : decayConfirmNeeded w.actor.config v = 3 := of_decide_eq_true hneeded
  exact ⟨w, p, hp, hqueued, v, q, hthree, hthree ▸ hconfirmed⟩

end Loggaper
