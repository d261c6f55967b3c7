import Loggaper.Manager.Holdings
import Loggaper.Manager.Protection
import Loggaper.Manager.RowHistory

/-!
# The profit floor

Four places of a tick write `exit_profit_floor`. The staircase, the smart stop and the market-cap
ceiling only raise it. The activation of the trailing stop assigns it, and lowers a floor over its
own.

- `FloorTick`: the floors of a tick, and whether it activates the trailing stop under a higher
  floor.
- `floor_ratchets_iff`: over the life of a row the floor never falls if and only if no tick does.
- `staircase_floor_lowered`: a tick that does.
-/

namespace Loggaper

section
variable (cfg : SmartBuyConfig) (v : TickView) (p : Position)

/-- The trailing stop is activated under a higher floor. -/
def lowersFloor : Bool :=
  let tp := tpConfig cfg p
  v.profit ≥ tp.trailingActivateProfitPct && !p.trailingActive &&
    decide (tp.trailingFloorProfitPct < p.exitProfitFloor)

/-- The view and the row with which a tick comes to the upgrade. -/
def reachesProtection (mint : Address) (hasRpc : Bool) (now : ℕ) (p : Position) :
    Option (TickView × Position) :=
  if p.isClosing then none
  else
    let (q, v, _) := prepareRow cfg mint hasRpc now p
    match exitsBeforeProtection cfg v q with
    | .next q => some (v, q)
    | .stop _ _ => none

/-! ## One tick -/

/-- **The upgrade keeps the floor** unless it activates the trailing stop under a higher one. -/
theorem floor_upgradeProtection :
    p.exitProfitFloor ≤ (upgradeProtection cfg v p).exitProfitFloor ↔
      lowersFloor cfg v p = false := by
  unfold upgradeProtection lowersFloor
  dsimp only
  by_cases hprofit : v.profit ≥ (tpConfig cfg p).trailingActivateProfitPct
  · rw [if_pos hprofit]
    cases htrailing : p.trailingActive with
    | true => simp
    | false => simp [hprofit]
  · rw [if_neg hprofit]
    simp only [hprofit, decide_false, Bool.false_and, iff_true]
    split_ifs with hsmart
    · exact hsmart.2.le
    · exact le_rfl

/-- A stage before the upgrade that goes on leaves the floor, and one that stops does not lower
it. -/
theorem floor_exitsBeforeProtection :
    p.exitProfitFloor ≤ (exitsBeforeProtection cfg v p).pos.exitProfitFloor ∧
      ∀ q, exitsBeforeProtection cfg v p = .next q → q.exitProfitFloor = p.exitProfitFloor := by
  rw [exitsBeforeProtection_eq]
  have hwrite := stagesWrite_runStages cfg v p
    [.momentumDecay, .timeKill, .stopLoss, .mcapCeiling, .trailing]
  rcases hwrite.floor (by decide) with hsame | ⟨hstop, hle⟩
  · exact ⟨hsame.symm.le, fun q hq => by rw [← hsame, hq]; rfl⟩
  · refine ⟨hle, fun q hq => ?_⟩
    rw [hq] at hstop
    cases hstop

/-- The levels leave the floor. -/
theorem floor_exitsAfterProtection :
    (exitsAfterProtection cfg v p).pos.exitProfitFloor = p.exitProfitFloor := by
  rw [exitsAfterProtection_eq]
  have hwrite := stagesWrite_runStages cfg v p
    (.partialPending :: [TpLevel.tp1, .tp2, .tp3, .tp4, .tp5].map .takeProfit)
  rcases hwrite.floor (by decide) with hsame | ⟨hstop, -⟩
  · exact hsame
  · exact absurd (hwrite.mem_of_stoppedBy hstop) (by decide)

end

/-! ## Floors beside the run -/

/-- The floors of a tick: before it, once the staircase has locked it, and whether the trailing stop
is then activated under a higher one. -/
structure FloorTick where
  before : ℚ
  locked : ℚ
  lowers : Bool
  deriving DecidableEq

def floorTick (cfg : SmartBuyConfig) (mint : Address) (hasRpc : Bool) (now : ℕ) (p : Position) :
    FloorTick where
  before := p.exitProfitFloor
  locked :=
    if p.isClosing then p.exitProfitFloor
    else (prepareRow cfg mint hasRpc now p).1.exitProfitFloor
  lowers := (reachesProtection cfg mint hasRpc now p).any fun (v, q) => lowersFloor cfg v q

/-- The floors of every tick. -/
def floorDiary : Diary FloorTick where
  tick m now key p := some (floorTick m.config key.mint m.hasRpc now p)
  live _ _ _ _ := none

/-- All the floors of a row since it was opened, the newest first: the floor of the row, and for
each of its ticks the locked floor and the one before. -/
def floors (floor : ℚ) (ticks : List FloorTick) : List ℚ :=
  floor :: ticks.flatMap fun t => [t.locked, t.before]

/-- **The floors of one tick.** They rise, unless the tick lowers them. -/
theorem floor_tickPosition (cfg : SmartBuyConfig) (p : Position) (mint : Address) (hasRpc : Bool)
    (now : ℕ) :
    let t := floorTick cfg mint hasRpc now p
    t.before ≤ t.locked ∧
      (t.locked ≤ (tickPosition cfg mint hasRpc now p).pos.exitProfitFloor ↔ t.lowers = false) := by
  dsimp only [floorTick]
  cases hclosing : p.isClosing with
  | true =>
    rw [tickPosition_closing cfg mint hasRpc now hclosing, reachesProtection, if_pos hclosing]
    exact ⟨le_rfl, iff_of_true le_rfl rfl⟩
  | false =>
    simp only [Bool.false_eq_true, if_false]
    refine ⟨(prepared_prepareRow cfg p mint hasRpc now).floor, ?_⟩
    unfold tickPosition reachesProtection
    rw [hclosing]
    simp only [Bool.false_eq_true, if_false]
    generalize prepareRow cfg mint hasRpc now p = prepared
    obtain ⟨q, v, poll⟩ := prepared
    dsimp only
    rw [runExits_eq_protection]
    obtain ⟨hle, hnext⟩ := floor_exitsBeforeProtection cfg v q
    revert hle hnext
    generalize exitsBeforeProtection cfg v q = f
    intro hle hnext
    cases f with
    | stop r a => exact iff_of_true hle rfl
    | next r =>
      rw [← hnext r rfl]
      show r.exitProfitFloor ≤ (exitsAfterProtection cfg v
        (upgradeProtection cfg v r)).pos.exitProfitFloor ↔ lowersFloor cfg v r = false
      rw [floor_exitsAfterProtection]
      exact floor_upgradeProtection cfg v r

/-- The floors never fall if and only if no tick lowers them. -/
def FloorRatchets (floor : ℚ) (ticks : List FloorTick) : Prop :=
  (floors floor ticks).IsChain (· ≥ ·) ↔ ∀ t ∈ ticks, t.lowers = false

theorem floorRatchets_opened (floor : ℚ) : FloorRatchets floor [] := by
  simp [FloorRatchets, floors]

theorem FloorRatchets.tick {ticks : List FloorTick} {p : Position} (m : PositionManagerActor)
    (now : ℕ) (key : PositionKey) (h : FloorRatchets p.exitProfitFloor ticks) :
    FloorRatchets (m.tickRow now key p).pos.exitProfitFloor
      (floorTick m.config key.mint m.hasRpc now p :: ticks) := by
  obtain ⟨hlock, hkeep⟩ := floor_tickPosition m.config p key.mint m.hasRpc now
  unfold FloorRatchets at h ⊢
  have hfloors : floors (m.tickRow now key p).pos.exitProfitFloor
      (floorTick m.config key.mint m.hasRpc now p :: ticks) =
      (m.tickRow now key p).pos.exitProfitFloor ::
        (floorTick m.config key.mint m.hasRpc now p).locked :: floors p.exitProfitFloor ticks := rfl
  rw [hfloors, List.isChain_cons_cons, floors, List.isChain_cons_cons, ← floors, h,
    List.forall_mem_cons]
  constructor
  · intro hchain
    exact ⟨hkeep.mp hchain.1, hchain.2.2⟩
  · intro hticks
    exact ⟨hkeep.mpr hticks.1, hlock, hticks.2⟩

/-- **When the floor is a ratchet.** On every run and for every row: none of the floors of the row
since it was opened is under an earlier one if and only if no tick has activated the trailing stop
of the row while its floor was over the floor of the trailing stop. -/
theorem floor_ratchets_iff {w : Diary.Kept FloorTick} (h : floorDiary.notes.machine.Reachable w)
    {key : PositionKey} {p : Position} (hp : w.row key = some p) :
    (floors p.exitProfitFloor (w.record key)).Pairwise (· ≥ ·) ↔
      ∀ t ∈ w.record key, t.lowers = false := by
  rw [← List.isChain_iff_pairwise]
  exact Diary.history (D := floorDiary)
    (I := fun _ ticks r => FloorRatchets r.exitProfitFloor ticks)
    ⟨fun cfg order pool r now => floorRatchets_opened _, fun m now key _ _ h => h.tick m now key,
      fun _ _ _ _ _ h => h⟩ h hp

/-- Settings whose trailing stop is activated at a profit of 120 percent, with a floor of 25. -/
def lateTrailing : SmartBuyConfig :=
  { exitMcapMedianTicks := 1
    exitV4 := { neutral := { defaultProfileNeutral with trailingActivateProfitPct := 120 } } }

/-- A row that doubles, and in the next tick is up by 130 percent. -/
def doubledRow : List Event :=
  oneFill ++ [turn] ++ mcapTo 60 ++ tickAt 1 ++ mcapTo 69 ++ tickAt 2

/-- The staircase has locked 40 percent, and the trailing stop takes the floor down to 25. -/
theorem staircase_floor_lowered :
    ∃ (w : Diary.Kept FloorTick) (p : Position), floorDiary.notes.machine.Reachable w ∧
      w.row smallOrder.key = some p ∧
      w.record smallOrder.key = [⟨40, 40, true⟩, ⟨-40, 40, false⟩] ∧ p.exitProfitFloor = 25 ∧
      ¬ (floors p.exitProfitFloor (w.record smallOrder.key)).Pairwise (· ≥ ·) := by
  obtain ⟨w, hw, -, h⟩ := floorDiary.reachable_of_run lateTrailing doubledRow
    (fun w => (w.row smallOrder.key).any fun p : Position => decide (
      w.record smallOrder.key = [⟨40, 40, true⟩, ⟨-40, 40, false⟩] ∧ p.exitProfitFloor = 25))
    (by decide +kernel)
  obtain ⟨p, hp, h⟩ := (Option.any_eq_true _ _).mp h
  obtain ⟨hticks, hfloor⟩ := of_decide_eq_true h
  refine ⟨w, p, hw, hp, hticks, hfloor, ?_⟩
  rw [hticks, hfloor]
  decide +kernel

theorem floor_ratchets_iff_doubledRow :
    ∃ (w : Diary.Kept FloorTick) (p : Position), p.exitProfitFloor = 40 ∧
      (floors p.exitProfitFloor (w.record smallOrder.key)).Pairwise (· ≥ ·) := by
  obtain ⟨w, hw, -, h⟩ := floorDiary.reachable_of_run lateTrailing
    (oneFill ++ [turn] ++ mcapTo 60 ++ tickAt 1)
    (fun w => (w.row smallOrder.key).any fun p : Position => decide (
      w.record smallOrder.key = [⟨-40, 40, false⟩] ∧ p.exitProfitFloor = 40))
    (by decide +kernel)
  obtain ⟨p, hp, h⟩ := (Option.any_eq_true _ _).mp h
  obtain ⟨hticks, hfloor⟩ := of_decide_eq_true h
  refine ⟨w, p, hfloor, (floor_ratchets_iff hw hp).mpr ?_⟩
  rw [hticks]
  simp

end Loggaper
