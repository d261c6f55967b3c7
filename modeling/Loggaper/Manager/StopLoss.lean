import Loggaper.Lib.Streak
import Loggaper.Manager.RowHistory

/-!
# The confirmed stop loss

A close for the stop loss has to be confirmed by `sl_confirm_ticks` ticks in a row, counted by a
`u8` in the row. The count stops at 255 and the configured number is a `u32` that is cut to a `u8`
before the comparison.

- `stopVerdict`: what a tick that reaches the stop loss says.
- `verdictNotes`: the verdicts of each row since it was opened, beside the run.
- `stopConfirmed_iff`: the ticks at which the close is queued exactly when it is confirmed.
-/

namespace Loggaper

/-- A close for the stop loss that is no crash. -/
def SellReason.isConfirmedStop : SellReason → Bool
  | .stopLoss crash .. => !crash
  | _ => false

/-- The tick queues a close for a confirmed stop loss. -/
def queuesStop (action : Option SellAction) : Bool := action.any (·.reason.isConfirmedStop)

section
variable (cfg : SmartBuyConfig)

/-- The view and the row with which a tick comes to the count of the stop loss: no earlier exit
has fired, and there is no crash. -/
def reachesStopLoss (mint : Address) (hasRpc : Bool) (now : ℕ) (p : Position) :
    Option (TickView × Position) :=
  if p.isClosing then none
  else
    let (p, v, _) := prepareRow cfg mint hasRpc now p
    match (exitMomentumDecay cfg v p).bind (exitTimeKill cfg v) with
    | .stop _ _ => none
    | .next p =>
      if slCrashTriggered v.slProfit v.profitRaw v.tickDrop cfg.slCrashPnlPct
        cfg.slCrashTickDropPct (inSlGracePeriod v.heldSecs cfg.slGraceSecs) then none
      else some (v, p)

/-- Past the grace period, and at or below the floor in force. -/
def stopVerdict (v : TickView) (p : Position) : Bool :=
  !inSlGracePeriod v.heldSecs cfg.slGraceSecs && decide (v.slProfit ≤ p.exitProfitFloor)

theorem slStreak_eq (v : TickView) (p : Position) :
    slStreak cfg v p = Streak.count 255 p.slBelowFloorStreak (stopVerdict cfg v p) := by
  unfold slStreak stopVerdict Streak.count
  by_cases hgrace : inSlGracePeriod v.heldSecs cfg.slGraceSecs <;> simp [hgrace]

end

/-! ## What a tick does to the count -/

/-- A stage that leaves the count alone and queues no confirmed stop. -/
structure AsideStop (p : Position) (f : Flow) : Prop where
  streak : f.pos.slBelowFloorStreak = p.slBelowFloorStreak
  action : queuesStop f.action = false

theorem SellReason.stage_of_isConfirmedStop (r : SellReason) (h : r.isConfirmedStop = true) :
    r.stage = some .stopLoss := by
  cases r with
  | stopLoss => rfl
  | _ => cases h

/-- The other stages leave the count alone. -/
theorem StagesWrite.asideStop {ss : List ExitStage} {p : Position} {f : Flow}
    (h : StagesWrite ss p f) (hs : .stopLoss ∉ ss) : AsideStop p f :=
  ⟨h.streak hs, h.any_eq_false hs SellReason.stage_of_isConfirmedStop⟩

variable (cfg : SmartBuyConfig) (v : TickView) (p : Position)

theorem asideStop_beforeStopLoss :
    AsideStop p ((exitMomentumDecay cfg v p).bind (exitTimeKill cfg v)) := by
  have htwo : (exitMomentumDecay cfg v p).bind (exitTimeKill cfg v) =
      runStages cfg v [.momentumDecay, .timeKill] p :=
    congrArg (exitMomentumDecay cfg v p).bind (funext fun q => (Flow.bind_next _).symm)
  rw [htwo]
  exact (stagesWrite_runStages cfg v p _).asideStop (by decide)

/-- The exits after the stop loss. -/
def exitsAfterStopLoss (p : Position) : Flow :=
  (exitMcapCeiling cfg v p).bind fun p =>
  (exitTrailing cfg v p).bind fun p =>
  (skipWhilePartialPending (upgradeProtection cfg v p)).bind fun p =>
  (exitTakeProfit cfg .tp1 v p).bind fun p =>
  (exitTakeProfit cfg .tp2 v p).bind fun p =>
  (exitTakeProfit cfg .tp3 v p).bind fun p =>
  (exitTakeProfit cfg .tp4 v p).bind fun p =>
  exitTakeProfit cfg .tp5 v p

theorem exitsAfterStopLoss_eq :
    exitsAfterStopLoss cfg v p = runStages cfg v (exitStages.drop 3) p := by
  simp only [exitsAfterStopLoss, skip_upgradeProtection, Flow.bind_assoc,
    exitTakeProfit_eq_runStages cfg v _ .tp5]
  rfl

theorem asideStop_exitsAfterStopLoss : AsideStop p (exitsAfterStopLoss cfg v p) := by
  rw [exitsAfterStopLoss_eq]
  exact (stagesWrite_runStages cfg v p _).asideStop (by decide)

theorem runExits_eq :
    runExits cfg v p = ((exitMomentumDecay cfg v p).bind (exitTimeKill cfg v)).bind fun p =>
      (exitStopLoss cfg v p).bind (exitsAfterStopLoss cfg v) := by
  unfold runExits
  cases exitMomentumDecay cfg v p <;> rfl

/-- The configured number of ticks, and what the comparison sees of it. -/
def stopTicks : ℕ := max cfg.slConfirmTicks 1

/-- The count at the stop loss, and when it closes. -/
theorem exitStopLoss_of_noCrash
    (hcrash : slCrashTriggered v.slProfit v.profitRaw v.tickDrop cfg.slCrashPnlPct
      cfg.slCrashTickDropPct (inSlGracePeriod v.heldSecs cfg.slGraceSecs) = false) :
    let f := (exitStopLoss cfg v p).bind (exitsAfterStopLoss cfg v)
    f.pos.slBelowFloorStreak = slStreak cfg v p ∧
      (queuesStop f.action = true ↔ inSlGracePeriod v.heldSecs cfg.slGraceSecs = false ∧
        stopTicks cfg % 256 ≤ slStreak cfg v p) := by
  simp only [exitStopLoss, hcrash, Bool.false_eq_true, if_false]
  split_ifs with hfires
  · refine ⟨rfl, iff_of_true rfl ⟨by simpa using hfires.1, hfires.2⟩⟩
  · have haside := asideStop_exitsAfterStopLoss cfg v
      { p with slBelowFloorStreak := slStreak cfg v p }
    refine ⟨haside.streak, iff_of_false ?_ fun h => hfires ⟨by simpa using h.1, h.2⟩⟩
    rw [Flow.bind, haside.action]
    exact Bool.false_ne_true

theorem exitStopLoss_of_crash
    (hcrash : slCrashTriggered v.slProfit v.profitRaw v.tickDrop cfg.slCrashPnlPct
      cfg.slCrashTickDropPct (inSlGracePeriod v.heldSecs cfg.slGraceSecs) = true) :
    AsideStop p ((exitStopLoss cfg v p).bind (exitsAfterStopLoss cfg v)) := by
  simp only [exitStopLoss, hcrash, if_true]
  exact ⟨rfl, rfl⟩

section
variable {cfg p} {mint : Address} {hasRpc : Bool} {now : ℕ} {v : TickView} {q : Position}

/-- A tick that does not come to the count leaves it alone. -/
theorem tick_aside (h : reachesStopLoss cfg mint hasRpc now p = none) :
    let r := tickPosition cfg mint hasRpc now p
    r.pos.slBelowFloorStreak = p.slBelowFloorStreak ∧ queuesStop r.action = false := by
  unfold reachesStopLoss at h
  unfold tickPosition
  split_ifs at h ⊢ with hclosing
  · exact ⟨rfl, rfl⟩
  · have hprepare := (prepared_prepareRow cfg p mint hasRpc now).view
      (f := Position.slBelowFloorStreak) fun _ _ => rfl
    revert h hprepare
    generalize prepareRow cfg mint hasRpc now p = prepared
    obtain ⟨p₁, v, poll⟩ := prepared
    intro h hprepare
    have hfirst := asideStop_beforeStopLoss cfg v p₁
    dsimp only at h hprepare ⊢
    rw [runExits_eq, ← hprepare]
    revert h hfirst
    generalize (exitMomentumDecay cfg v p₁).bind (exitTimeKill cfg v) = first
    intro h hfirst
    cases first with
    | stop q a => exact ⟨hfirst.streak, hfirst.action⟩
    | next q =>
      dsimp only at h
      split_ifs at h with hcrash
      have hrest := exitStopLoss_of_crash cfg v q hcrash
      exact ⟨hrest.streak.trans hfirst.streak, hrest.action⟩

/-- **The count at a tick** that comes to it. -/
theorem tick_reaches (h : reachesStopLoss cfg mint hasRpc now p = some (v, q)) :
    let r := tickPosition cfg mint hasRpc now p
    q.slBelowFloorStreak = p.slBelowFloorStreak ∧ r.pos.slBelowFloorStreak = slStreak cfg v q ∧
      (queuesStop r.action = true ↔ inSlGracePeriod v.heldSecs cfg.slGraceSecs = false ∧
        stopTicks cfg % 256 ≤ slStreak cfg v q) := by
  unfold reachesStopLoss at h
  unfold tickPosition
  split_ifs at h ⊢ with hclosing
  · have hprepare := (prepared_prepareRow cfg p mint hasRpc now).view
      (f := Position.slBelowFloorStreak) fun _ _ => rfl
    revert h hprepare
    generalize prepareRow cfg mint hasRpc now p = prepared
    obtain ⟨p₁, w, poll⟩ := prepared
    intro h hprepare
    have hfirst := asideStop_beforeStopLoss cfg w p₁
    dsimp only at h hprepare ⊢
    rw [runExits_eq, ← hprepare]
    revert h hfirst
    generalize (exitMomentumDecay cfg w p₁).bind (exitTimeKill cfg w) = first
    intro h hfirst
    cases first with
    | stop q a => cases h
    | next q =>
      dsimp only at h
      split_ifs at h with hcrash
      cases h
      obtain ⟨hstreak, haction⟩ := exitStopLoss_of_noCrash cfg v q (by simpa using hcrash)
      exact ⟨hfirst.streak, hstreak, haction⟩

end

/-! ## Verdicts beside the run -/

/-- For each row the verdicts of its ticks since it was opened, the newest first. -/
abbrev Verdicts := PositionKey → List Bool

/-- A tick that comes to the count of a row passes a verdict on it; a fill opens its row without
one. -/
def noteVerdicts (verdicts : Verdicts) (m : PositionManagerActor) (env : TurnEnv) :
    PositionMessage → Unit → Verdicts
  | .tick, _ => fun key =>
    match (AList.lookup key m.positions).bind
      (reachesStopLoss m.config key.mint m.hasRpc (env.clock 0)) with
    | some (v, p) => stopVerdict m.config v p :: verdicts key
    | none => verdicts key
  | .buyCompleted order _ (.ok r), _ =>
    if m.abortsFill env order r then verdicts else Function.update verdicts order.key []
  | _, _ => verdicts

def verdictNotes : Notes Unit Unit Verdicts Empty Unit where
  start verdicts := ∀ key, verdicts key = []
  posted := ()
  left := ()
  spawned _ _ := ()
  answered _ _ _ _ _ := some ()
  turn := noteVerdicts
  outside _ d := d.elim

/-- The manager with the verdicts of its rows. -/
abbrev Judged := Noted Unit Unit Verdicts

/-- The verdicts as a diary. -/
def stopDiary : Diary Bool where
  tick m now key p :=
    (reachesStopLoss m.config key.mint m.hasRpc now p).map fun (v, q) => stopVerdict m.config v q
  live _ _ _ _ := none

theorem noteVerdicts_eq_write : noteVerdicts = stopDiary.write := by
  funext verdicts m env msg a key
  cases msg with
  | tick =>
    simp only [noteVerdicts, Diary.write, stopDiary]
    cases AList.lookup key m.positions with
    | none => rfl
    | some p =>
      simp only [Option.bind_some]
      cases reachesStopLoss m.config key.mint m.hasRpc (env.clock 0) p <;> rfl
  | applyLiveSnapshot mint live =>
    simp only [noteVerdicts, Diary.write, stopDiary]
    cases AList.lookup key m.positions <;> simp
  | buyCompleted order pool r => cases r <;> rfl
  | _ => rfl

theorem verdictNotes_eq : verdictNotes = stopDiary.notes := by
  unfold verdictNotes Diary.notes
  rw [noteVerdicts_eq_write]

/-- The count is the streak, up to 255. -/
theorem stopDiary_counts : stopDiary.Keeps fun _ verdicts r =>
    r.slBelowFloorStreak = min (Streak.streak verdicts) 255 where
  opened cfg order pool r now := by
    obtain ⟨mcap, hmem⟩ := PositionManagerActor.openedPosition_memory cfg order pool r now
    rw [hmem]
    rfl
  tick m now key verdicts p hcount := by
    have hnote : stopDiary.tick m now key p = (reachesStopLoss m.config key.mint m.hasRpc now p).map
        fun (v, q) => stopVerdict m.config v q := rfl
    rw [hnote]
    cases hreach : reachesStopLoss m.config key.mint m.hasRpc now p with
    | none => exact (tick_aside hreach).1.trans hcount
    | some vq =>
      obtain ⟨v, q⟩ := vq
      obtain ⟨hsame, hstreak, -⟩ := tick_reaches hreach
      have hq : q.slBelowFloorStreak = min (Streak.streak verdicts) 255 := hsame.trans hcount
      rw [slStreak_eq, hq, Streak.count_streak] at hstreak
      exact hstreak
  live _ _ _ _ _ hcount := hcount

namespace Judged

variable (w : Judged)

def row (key : PositionKey) : Option Position := AList.lookup key w.actor.positions

/-- Each row counts its last verdicts, up to 255. -/
def Counted : Prop :=
  ∀ key p, w.row key = some p → p.slBelowFloorStreak = min (Streak.streak (w.record key)) 255

/-- At this tick the row queues a close for the stop loss exactly when the tick comes to the count
and the last `sl_confirm_ticks` verdicts, its own included, are positive. -/
def StopConfirmed (now : ℕ) (key : PositionKey) (p : Position) : Prop :=
  let queued := queuesStop (w.actor.tickRow now key p).action
  match reachesStopLoss w.actor.config key.mint w.actor.hasRpc now p with
  | none => queued = false
  | some (v, q) => queued = true ↔ Streak.Confirmed (stopTicks w.actor.config)
      (stopVerdict w.actor.config v q :: w.record key)

/-- The `u8` sees the configured number as it is; or the tick is in the grace period, or its streak
is on the same side of the number and of what the `u8` sees. -/
def StopDecided (now : ℕ) (key : PositionKey) (p : Position) : Prop :=
  let n := stopTicks w.actor.config
  match reachesStopLoss w.actor.config key.mint w.actor.hasRpc now p with
  | none => True
  | some (v, q) =>
    let s := Streak.streak (stopVerdict w.actor.config v q :: w.record key)
    n ≤ 255 ∨ inSlGracePeriod v.heldSecs w.actor.config.slGraceSecs = true ∨ s < n % 256 ∨ n ≤ s

instance (now : ℕ) (key : PositionKey) (p : Position) : Decidable (w.StopConfirmed now key p) :=
  match h : reachesStopLoss w.actor.config key.mint w.actor.hasRpc now p with
  | none =>
    decidable_of_iff (queuesStop (w.actor.tickRow now key p).action = false)
      (by simp [StopConfirmed, h])
  | some (v, q) =>
    decidable_of_iff (queuesStop (w.actor.tickRow now key p).action = true ↔
      Streak.Confirmed (stopTicks w.actor.config)
        (stopVerdict w.actor.config v q :: w.record key)) (by simp [StopConfirmed, h])

variable {w}

/-- **The count is the streak**, up to 255, on every run. -/
theorem counted_of_reachable (h : verdictNotes.machine.Reachable w) : w.Counted := by
  rw [verdictNotes_eq] at h
  exact fun key p hp => Diary.history stopDiary_counts h hp

/-- **When the stop loss waits for its confirmation.** On every run, at every tick and for every
row, a close for the stop loss is queued exactly when it is confirmed, if and only if the number
of ticks fits a `u8` or cutting it makes no difference to the streak of this tick. -/
theorem stopConfirmed_iff (h : verdictNotes.machine.Reachable w) (now : ℕ) {key : PositionKey}
    {p : Position} (hp : w.row key = some p) :
    w.StopConfirmed now key p ↔ w.StopDecided now key p := by
  have hcount := counted_of_reachable h key p hp
  unfold StopConfirmed StopDecided
  cases hreach : reachesStopLoss w.actor.config key.mint w.actor.hasRpc now p with
  | none => exact iff_of_true (tick_aside hreach).2 trivial
  | some vq =>
    obtain ⟨v, q⟩ := vq
    obtain ⟨hsame, -, hqueue⟩ := tick_reaches hreach
    dsimp only
    have hpos : 1 ≤ stopTicks w.actor.config := le_max_right _ _
    have hgrace : inSlGracePeriod v.heldSecs w.actor.config.slGraceSecs = true →
        Streak.streak (stopVerdict w.actor.config v q :: w.record key) = 0 := by
      intro hin
      simp [stopVerdict, hin]
    rw [Streak.confirmed_iff]
    rw [slStreak_eq, hsame, hcount, Streak.count_streak] at hqueue
    show (queuesStop (tickPosition _ _ _ _ _).action = true ↔ _) ↔ _
    rw [hqueue]
    generalize Streak.streak (stopVerdict w.actor.config v q :: w.record key) = s at *
    generalize stopTicks w.actor.config = n at *
    cases hin : inSlGracePeriod v.heldSecs w.actor.config.slGraceSecs with
    | true =>
      have hs := hgrace hin
      simp only [Bool.true_eq_false, false_and, true_or, or_true, iff_true, false_iff]
      omega
    | false =>
      simp only [true_and, Bool.false_eq_true, false_or]
      have hcut : n % 256 < 256 := Nat.mod_lt n (by omega)
      omega

/-- Every run of the manager is one with verdicts beside it. -/
theorem exists_judged {s : System} (h : manager.Reachable s) :
    ∃ w : Judged, verdictNotes.machine.Reachable w ∧ w.forget = s :=
  Notes.exists_noted (N := verdictNotes) (fun _ => rfl) (fun _ _ _ _ => ⟨(), (), rfl⟩) h

/-- A number of ticks that fits a `u8` decides every tick. -/
theorem stopDecided_of_le (hfits : stopTicks w.actor.config ≤ 255) (now : ℕ) (key : PositionKey)
    (p : Position) : w.StopDecided now key p := by
  unfold StopDecided
  split
  · trivial
  · exact .inl hfits

/-! ## A flat row -/

/-- A small manager that waits for this many ticks. -/
def waiting (ticks : ℕ) : Judged where
  actor := { (System.small oneWallet {}).actor with
    config := { smallConfig with slConfirmTicks := ticks } }
  mailbox := []
  tasks := []
  log := []
  record _ := []

theorem waiting_fresh (ticks : ℕ) : verdictNotes.Fresh (waiting ticks) :=
  ⟨⟨rfl, rfl, rfl, rfl, rfl, rfl, rfl⟩, fun _ => rfl⟩

/-- A row at its entry price. -/
def flatRow : List (NotedEvent Empty Unit) := (oneFill ++ [turn]).map (.inside · ())

theorem stopConfirmed_flatRow :
    ∃ (w : Judged) (p : Position), w.row smallOrder.key = some p ∧
      reachesStopLoss w.actor.config 1 w.actor.hasRpc 6 p ≠ none ∧
      w.StopConfirmed 6 smallOrder.key p := by
  have hrun : ((verdictNotes.machine.run (waiting 3) flatRow).any fun w : Judged =>
      (w.row smallOrder.key).any fun p => decide (stopTicks w.actor.config ≤ 255 ∧
        reachesStopLoss w.actor.config 1 w.actor.hasRpc 6 p ≠ none)) = true := by
    decide +kernel
  obtain ⟨w, hw, hrow⟩ := (Option.any_eq_true _ _).mp hrun
  obtain ⟨p, hp, h⟩ := (Option.any_eq_true _ _).mp hrow
  obtain ⟨hfits, hreach⟩ := of_decide_eq_true h
  exact ⟨w, p, hp, hreach, (stopConfirmed_iff ⟨_, _, waiting_fresh 3, hw⟩ 6 hp).mpr
    (stopDecided_of_le hfits 6 _ _)⟩

/-- 256 ticks are cut to none: the row is closed at its entry price, by the first tick past the
grace period. -/
theorem flatRow_stopped :
    ∃ (w : Judged) (p : Position), verdictNotes.machine.Reachable w ∧
      stopTicks w.actor.config = 256 ∧ w.row smallOrder.key = some p ∧
      queuesStop (w.actor.tickRow 6 smallOrder.key p).action = true ∧
      ¬ w.StopConfirmed 6 smallOrder.key p := by
  have hrun : ((verdictNotes.machine.run (waiting 256) flatRow).any fun w : Judged =>
      (w.row smallOrder.key).any fun p => decide (stopTicks w.actor.config = 256 ∧
        queuesStop (w.actor.tickRow 6 smallOrder.key p).action = true ∧
        ¬ w.StopConfirmed 6 smallOrder.key p)) = true := by
    decide +kernel
  obtain ⟨w, hw, hrow⟩ := (Option.any_eq_true _ _).mp hrun
  obtain ⟨p, hp, h⟩ := (Option.any_eq_true _ _).mp hrow
  obtain ⟨hticks, hqueued, hstop⟩ := of_decide_eq_true h
  exact ⟨w, p, ⟨_, _, waiting_fresh 256, hw⟩, hticks, hp, hqueued, hstop⟩

end Judged

end Loggaper
