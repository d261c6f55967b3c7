import Loggaper.Manager.EntryFloor

/-!
# The baseline of momentum decay

A row keeps the buyer rates of its last two live snapshots. When it takes over a snapshot, the
metrics are computed before the two are shifted, so the new rate is compared with the one of two
snapshots ago. A tick compares the last two.

- `velDrop`: the comparison that both make.
- `rateDiary`: the rates that a row has taken over since it was opened.
- `sameVerdict_iff`: the snapshots on which the two agree.
-/

namespace Loggaper

/-- The velocity has dropped by more than 30 percent. -/
def velDrop (velNow velPrev : ℚ) : Bool := velPrev > 1 / 100 && velNow < velPrev * (7 / 10)

theorem momentumDecayDetected_eq (velNow velPrev sellPressure volumeDelta : ℚ) :
    momentumDecayDetected velNow velPrev sellPressure volumeDelta =
      (velDrop velNow velPrev && sellPressure > 6 / 5 && volumeDelta < 0) := rfl

/-- The comparison in the metrics of a snapshot. -/
def snapshotVelDrop (live : LivePositionSnapshot) (pos : Position) : Bool :=
  velDrop live.buyersPerSec pos.livePrevBuyersPerSec

/-- The comparison of a tick. -/
def tickVelDrop (pos : Position) : Bool := velDrop pos.liveBuyersPerSec pos.livePrevBuyersPerSec

theorem momentumDecay_snapshotMetrics (v4 : ExitEngineV4Config) (live : LivePositionSnapshot)
    (pos : Position) :
    (snapshotMetrics v4 live pos).momentumDecay =
      ((snapshotVelDrop live pos && live.sellPressureScore > 6 / 5 && live.volumeDelta < 0) ||
        (pos.livePrevVelocity > 1 / 100 &&
          pos.timeKillMcapVelocityPctPerSec pos.enterMcap.toFloat <
            pos.livePrevVelocity * (7 / 10) &&
          live.sellPressureScore > 6 / 5 && live.volumeDelta < 0)) := rfl

theorem velocityDecay_tickVelDrop (v : TickView) (pos : Position) :
    momentumDecayDetected pos.liveBuyersPerSec pos.livePrevBuyersPerSec
        ((pos.learningSnapshot.map (·.sellPressureScore)).getD 0) v.vel =
      (tickVelDrop pos && (pos.learningSnapshot.map (·.sellPressureScore)).getD 0 > 6 / 5 &&
        v.vel < 0) := rfl

/-- A drop to this rate is one from over this line. -/
def dropLine (velNow : ℚ) : ℚ := max (1 / 100) (velNow * (10 / 7))

theorem velDrop_iff (velNow velPrev : ℚ) :
    velDrop velNow velPrev = true ↔ dropLine velNow < velPrev := by
  simp only [velDrop, dropLine, Bool.and_eq_true, decide_eq_true_eq, max_lt_iff]
  constructor
  · intro h
    exact ⟨h.1, by linarith [h.2]⟩
  · intro h
    exact ⟨h.1, by linarith [h.2]⟩

/-- The rates of the snapshots that a row has taken over. -/
def rateDiary : Diary ℚ where
  tick _ _ _ _ := none
  live _ _ live _ := some live.buyersPerSec

/-- The rate of the last snapshot, and of the one before it; zero where there is none. -/
def lastRate (rates : List ℚ) : ℚ := rates.headD 0

def rateBefore (rates : List ℚ) : ℚ := lastRate rates.tail

/-- The row keeps its last two rates. -/
structure RatesTold (rates : List ℚ) (r : RowMemory) : Prop where
  last : r.feed.liveBuyersPerSec = lastRate rates
  before : r.feed.livePrevBuyersPerSec = rateBefore rates

theorem ratesTold_opened (cfg : SmartBuyConfig) (order : BuyOrder) (pool : Pool) (r : BuyReceipt)
    (now : ℕ) :
    RatesTold [] (PositionManagerActor.openedPosition cfg order pool r now).memory := by
  obtain ⟨mcap, hmem⟩ := PositionManagerActor.openedPosition_memory cfg order pool r now
  rw [hmem]
  exact ⟨rfl, rfl⟩

theorem RatesTold.tick {rates : List ℚ} {p : Position} (h : RatesTold rates p.memory)
    (m : PositionManagerActor) (now : ℕ) (key : PositionKey) :
    RatesTold rates (m.tickRow now key p).pos.memory := by
  have hfeed : (m.tickRow now key p).pos.feed = p.feed :=
    feed_tickPosition m.config p key.mint m.hasRpc now
  exact ⟨(congrArg FeedState.liveBuyersPerSec hfeed).trans h.last,
    (congrArg FeedState.livePrevBuyersPerSec hfeed).trans h.before⟩

/-- **The row keeps its last two rates**, on every run. -/
theorem ratesTold_of_reachable {w : Diary.Kept ℚ} (h : rateDiary.notes.machine.Reachable w)
    {key : PositionKey} {p : Position} (hp : w.row key = some p) :
    RatesTold (w.record key) p.memory :=
  Diary.history (D := rateDiary) (I := fun _ => RatesTold)
    ⟨ratesTold_opened, fun m now key _ _ h => h.tick m now key, fun _ _ _ _ _ h => ⟨rfl, h.last⟩⟩
    h hp

/-- **When the snapshot and the tick see the same.** On every run and for every snapshot that a row
takes over: the metrics of the snapshot and the ticks after it come to the same verdict on the drop
of the rate if and only if the last rate and the one before it are on the same side of the line
from which the new rate is a drop. -/
theorem sameVerdict_iff {w : Diary.Kept ℚ} (h : rateDiary.notes.machine.Reachable w)
    {key : PositionKey} {p : Position} (hp : w.row key = some p) (env : TurnEnv)
    (live : LivePositionSnapshot) :
    snapshotVelDrop live p =
        tickVelDrop (PositionManagerActor.applyLive w.actor.config.exitV4 env live p) ↔
      (dropLine live.buyersPerSec < lastRate (w.record key) ↔
        dropLine live.buyersPerSec < rateBefore (w.record key)) := by
  have hrates := ratesTold_of_reachable h hp
  have hsnapshot : snapshotVelDrop live p =
      velDrop live.buyersPerSec (rateBefore (w.record key)) := by
    rw [← hrates.before]
    rfl
  have htick : tickVelDrop (PositionManagerActor.applyLive w.actor.config.exitV4 env live p) =
      velDrop live.buyersPerSec (lastRate (w.record key)) := by
    rw [← hrates.last]
    rfl
  rw [hsnapshot, htick, Bool.eq_iff_iff, velDrop_iff, velDrop_iff]
  exact iff_comm

/-- After a first snapshot with ten buyers in a second the second one, with a single buyer, is no
drop in its own metrics and a drop for the next tick. -/
theorem stale_baseline :
    ∃ (w : Diary.Kept ℚ) (p : Position) (live : LivePositionSnapshot),
      rateDiary.notes.machine.Reachable w ∧ w.row smallOrder.key = some p ∧
      w.record smallOrder.key = [10] ∧ live.buyersPerSec = 1 ∧
      snapshotVelDrop live p = false ∧
      tickVelDrop (PositionManagerActor.applyLive w.actor.config.exitV4 soldEnv live p) = true := by
  obtain ⟨w, hw, -, h⟩ := rateDiary.reachable_of_run {}
    (tapedRow ++ snapshotComes { quietSnapshot with buyersPerSec := 10 })
    (fun w => (w.row smallOrder.key).any fun p : Position =>
      decide (w.record smallOrder.key = [10] ∧ snapshotVelDrop quietSnapshot p = false ∧
        tickVelDrop (PositionManagerActor.applyLive w.actor.config.exitV4 soldEnv quietSnapshot p) =
          true))
    (by decide +kernel)
  obtain ⟨p, hp, h⟩ := (Option.any_eq_true _ _).mp h
  obtain ⟨hrates, hsnapshot, htick⟩ := of_decide_eq_true h
  exact ⟨w, p, quietSnapshot, hw, hp, hrates, rfl, hsnapshot, htick⟩

/-- Two snapshots at the same rate are a baseline for both. -/
theorem sameVerdict_iff_steadyRate :
    ∃ (w : Diary.Kept ℚ) (p : Position), w.record smallOrder.key = [10, 10] ∧
      snapshotVelDrop quietSnapshot p =
        tickVelDrop (PositionManagerActor.applyLive w.actor.config.exitV4 soldEnv quietSnapshot
          p) := by
  obtain ⟨w, hw, -, h⟩ := rateDiary.reachable_of_run {}
    (tapedRow ++ snapshotComes { quietSnapshot with buyersPerSec := 10 } ++
      [.post .tick, .turn { soldEnv with clock := fun _ => 9, instantMs := 100000 }] ++
      snapshotComes { quietSnapshot with buyersPerSec := 10 })
    (fun w => (w.row smallOrder.key).any fun _ : Position =>
      decide (w.record smallOrder.key = [10, 10]))
    (by decide +kernel)
  obtain ⟨p, hp, h⟩ := (Option.any_eq_true _ _).mp h
  have hrates : w.record smallOrder.key = [10, 10] := of_decide_eq_true h
  refine ⟨w, p, hrates, (sameVerdict_iff hw hp soldEnv quietSnapshot).mpr ?_⟩
  rw [hrates]
  exact Iff.rfl

end Loggaper
