import Loggaper.Manager.Tick

/-!
# What the parts of a tick write

A tick prepares a row, and then the exits look at it one after the other until one of them stops
the turn. Each part writes a few fields of the row. What a rule has to know about the other parts
is read off from that, once for all rules.

- `Prepared`: what the part before the exits does to a row.
- `ExitStage`, `runStages`: the exits as a list of stages.
- `StagesWrite`: what a list of stages does to a row, and for which reasons it stops.
-/

namespace Loggaper

/-! ## Groups of fields -/

/-- What the live feed and the fill have left. -/
structure FeedState where
  liveBuyersPerSec : ℚ
  livePrevBuyersPerSec : ℚ
  liveScoreEntryFloor : ℤ

/-- The session high, the live score and the phase. -/
structure ScoreState where
  highestMcap : ℚ
  liveScore : ℤ
  exitPhase : PositionPhase

/-- The memory of the decay rule. -/
structure DecayState where
  decayStreak : ℕ
  flushActive : Bool
  flushLowMcap : ℚ
  recoveryScore : ℤ

namespace Position

variable (pos : Position)

def feed : FeedState :=
  ⟨pos.liveBuyersPerSec, pos.livePrevBuyersPerSec, pos.liveScoreEntryFloor⟩

def score : ScoreState := ⟨pos.highestMcap, pos.liveScore, pos.exitPhase⟩

def decay : DecayState :=
  ⟨pos.decayStreak, pos.flushActive, pos.flushLowMcap, pos.recoveryScore⟩

end Position

/-! ## Before the exits -/

/-- The fields that the part before the exits writes. -/
structure Samples where
  highestMcap : ℚ
  exitProfitFloor : ℚ
  tkLastSecs : ℕ
  tkLastMcap : ℚ
  tkPrevSecs : ℕ
  tkPrevMcap : ℚ
  lastTimeKillTier : String
  lastTimeKillAfterSecs : ℕ
  exitProfile : ExitProfile
  holdMode : Bool
  exitPhase : PositionPhase
  liveScore : ℤ
  livePrevVelocity : ℚ
  lastLiveScoreAt : ℕ
  peakProfitPct : ℚ
  exitMcapTicks : List ℚ
  slPrevRawMcap : Option ℚ
  lastExitMcapPollAt : ℕ

def Position.samples (pos : Position) : Samples where
  highestMcap := pos.highestMcap
  exitProfitFloor := pos.exitProfitFloor
  tkLastSecs := pos.tkLastSecs
  tkLastMcap := pos.tkLastMcap
  tkPrevSecs := pos.tkPrevSecs
  tkPrevMcap := pos.tkPrevMcap
  lastTimeKillTier := pos.lastTimeKillTier
  lastTimeKillAfterSecs := pos.lastTimeKillAfterSecs
  exitProfile := pos.exitProfile
  holdMode := pos.holdMode
  exitPhase := pos.exitPhase
  liveScore := pos.liveScore
  livePrevVelocity := pos.livePrevVelocity
  lastLiveScoreAt := pos.lastLiveScoreAt
  peakProfitPct := pos.peakProfitPct
  exitMcapTicks := pos.exitMcapTicks
  slPrevRawMcap := pos.slPrevRawMcap
  lastExitMcapPollAt := pos.lastExitMcapPollAt

def Position.withSamples (pos : Position) (s : Samples) : Position :=
  { pos with
    highestMcap := s.highestMcap
    exitProfitFloor := s.exitProfitFloor
    tkLastSecs := s.tkLastSecs
    tkLastMcap := s.tkLastMcap
    tkPrevSecs := s.tkPrevSecs
    tkPrevMcap := s.tkPrevMcap
    lastTimeKillTier := s.lastTimeKillTier
    lastTimeKillAfterSecs := s.lastTimeKillAfterSecs
    exitProfile := s.exitProfile
    holdMode := s.holdMode
    exitPhase := s.exitPhase
    liveScore := s.liveScore
    livePrevVelocity := s.livePrevVelocity
    lastLiveScoreAt := s.lastLiveScoreAt
    peakProfitPct := s.peakProfitPct
    exitMcapTicks := s.exitMcapTicks
    slPrevRawMcap := s.slPrevRawMcap
    lastExitMcapPollAt := s.lastExitMcapPollAt }

/-- Only samples are written, and the profit floor is not lowered. -/
structure Prepared (p q : Position) : Prop where
  row : q = p.withSamples q.samples
  floor : p.exitProfitFloor ≤ q.exitProfitFloor

namespace Prepared

variable {p q r : Position}

theorem refl (p : Position) : Prepared p p := ⟨rfl, le_rfl⟩

theorem trans (h : Prepared p q) (h' : Prepared q r) : Prepared p r := by
  refine ⟨?_, h.floor.trans h'.floor⟩
  calc r = q.withSamples r.samples := h'.row
    _ = (p.withSamples q.samples).withSamples r.samples :=
      congrArg (fun pos : Position => pos.withSamples r.samples) h.row
    _ = p.withSamples r.samples := rfl

/-- What does not read the samples stays. -/
theorem view {α : Type*} {f : Position → α} (h : Prepared p q)
    (hf : ∀ pos s, f (Position.withSamples pos s) = f pos) : f q = f p :=
  (congrArg f h.row).trans (hf p q.samples)

end Prepared

section
variable (cfg : SmartBuyConfig) (v : TickView) (p : Position)

theorem prepared_pollExitMcap (mint : Address) (hasRpc : Bool) (now : ℕ) :
    Prepared p (pollExitMcap mint hasRpc now p).1 := by
  unfold pollExitMcap
  dsimp only
  split_ifs <;> exact ⟨rfl, le_rfl⟩

theorem prepared_sampleMcap (now : ℕ) : Prepared p (sampleMcap cfg now p) := by
  have hpush (mcap : ℚ) (n : ℕ) (q : Position) : Prepared q (q.pushExitMcapTick mcap n) := by
    unfold Position.pushExitMcapTick
    split_ifs <;> exact ⟨rfl, le_rfl⟩
  have hhigh (mcap : ℚ) (q : Position) : Prepared q (noteHighestMcap mcap q) := by
    unfold noteHighestMcap
    split_ifs <;> exact ⟨rfl, le_rfl⟩
  have hnote (mcap : ℚ) (q : Position) : Prepared q (q.timeKillNoteMcapSample now mcap) := by
    unfold Position.timeKillNoteMcapSample
    split_ifs <;> exact ⟨rfl, le_rfl⟩
  exact ((hpush _ _ _).trans (hhigh _ _)).trans (hnote _ _)

theorem prepared_observe (now : ℕ) : Prepared p (observe cfg now p).1 := by
  have hpeak (profit : ℚ) (q : Position) : Prepared q (notePeakProfit profit q) := by
    unfold notePeakProfit
    split_ifs <;> exact ⟨rfl, le_rfl⟩
  have hprev (mcap : Option ℚ) (q : Position) : Prepared q { q with slPrevRawMcap := mcap } :=
    ⟨rfl, le_rfl⟩
  exact (prepared_sampleMcap cfg p now).trans ((hprev _ _).trans (hpeak _ _))

theorem prepared_refreshLiveLite : Prepared p (refreshLiveLite cfg v p) := by
  unfold refreshLiveLite
  dsimp only
  split_ifs <;> exact ⟨rfl, le_rfl⟩

/-- The staircase only raises the floor. -/
theorem prepared_lockStaircase : Prepared p (lockStaircase cfg p) := by
  unfold lockStaircase
  split
  · cases profitLockStaircaseFloor p.peakProfitPct with
    | none => exact .refl p
    | some floor =>
      dsimp only
      split_ifs with hlow
      · exact ⟨rfl, hlow.le⟩
      · exact .refl p
  · exact .refl p

theorem prepared_prepareRow (mint : Address) (hasRpc : Bool) (now : ℕ) :
    Prepared p (prepareRow cfg mint hasRpc now p).1 := by
  have hwindow (v : TickView) (q : Position) : Prepared q (noteTimeKillWindow cfg v q) :=
    ⟨rfl, le_rfl⟩
  have hlite (v : TickView) (q : Position) := prepared_refreshLiveLite cfg v q
  exact (prepared_pollExitMcap p mint hasRpc now).trans
    ((prepared_observe cfg _ now).trans
      ((hlite _ _).trans ((prepared_lockStaircase cfg _).trans (hwindow _ _))))

end

/-! ## The exits as stages -/

theorem Flow.bind_next (f : Flow) : f.bind .next = f := by
  cases f <;> rfl

theorem Flow.bind_assoc (f : Flow) (g h : Position → Flow) :
    (f.bind g).bind h = f.bind fun p => (g p).bind h := by
  cases f <;> rfl

/-- The exits, the upgrade of the protection and the guard before the levels among them. -/
inductive ExitStage
  | momentumDecay
  | timeKill
  | stopLoss
  | mcapCeiling
  | trailing
  | protection
  | partialPending
  | takeProfit (n : TpLevel)
  deriving DecidableEq

/-- The stage that queues a sell for this reason. -/
def SellReason.stage : SellReason → Option ExitStage
  | .momentumDecay .. => some .momentumDecay
  | .timeKill => some .timeKill
  | .stopLoss .. => some .stopLoss
  | .mcapCeiling _ => some .mcapCeiling
  | .trailingExit _ => some .trailing
  | .takeProfit n .. => some (.takeProfit n)
  | .fillMcapAbort .. => none

/-- The stages in the order of the source. -/
def exitStages : List ExitStage :=
  [.momentumDecay, .timeKill, .stopLoss, .mcapCeiling, .trailing, .protection, .partialPending,
    .takeProfit .tp1, .takeProfit .tp2, .takeProfit .tp3, .takeProfit .tp4, .takeProfit .tp5]

section
variable (cfg : SmartBuyConfig) (v : TickView) (p : Position)

def runStage (p : Position) : ExitStage → Flow
  | .momentumDecay => exitMomentumDecay cfg v p
  | .timeKill => exitTimeKill cfg v p
  | .stopLoss => exitStopLoss cfg v p
  | .mcapCeiling => exitMcapCeiling cfg v p
  | .trailing => exitTrailing cfg v p
  | .protection => .next (upgradeProtection cfg v p)
  | .partialPending => skipWhilePartialPending p
  | .takeProfit n => exitTakeProfit cfg n v p

def runStages : List ExitStage → Position → Flow
  | [], p => .next p
  | s :: ss, p => (runStage cfg v p s).bind (runStages ss)

theorem exitTakeProfit_eq_runStages (n : TpLevel) :
    exitTakeProfit cfg n v p = runStages cfg v [.takeProfit n] p := (Flow.bind_next _).symm

/-- The upgrade and the guard are two stages. -/
theorem skip_upgradeProtection :
    skipWhilePartialPending (upgradeProtection cfg v p) =
      (Flow.next (upgradeProtection cfg v p)).bind skipWhilePartialPending := rfl

/-- **The exits are the stages.** -/
theorem runExits_eq_runStages : runExits cfg v p = runStages cfg v exitStages p := by
  simp only [runExits, skip_upgradeProtection, Flow.bind_assoc,
    exitTakeProfit_eq_runStages cfg v _ .tp5]
  rfl

end

/-! ## What the stages write -/

/-- The fields that the exits write. -/
structure Marks where
  exitProfitFloor : ℚ
  tp1Triggered : Bool
  tp2Triggered : Bool
  tp3Triggered : Bool
  tp4Triggered : Bool
  tp5Triggered : Bool
  mcapCeilingTriggered : Bool
  trailingActive : Bool
  isClosing : Bool
  pendingPartialSell : Bool
  slBelowFloorStreak : ℕ
  decayStreak : ℕ
  flushActive : Bool
  flushLowMcap : ℚ
  recoveryScore : ℤ
  useJupiterExitMcap : Bool

def Position.marks (pos : Position) : Marks where
  exitProfitFloor := pos.exitProfitFloor
  tp1Triggered := pos.tp1Triggered
  tp2Triggered := pos.tp2Triggered
  tp3Triggered := pos.tp3Triggered
  tp4Triggered := pos.tp4Triggered
  tp5Triggered := pos.tp5Triggered
  mcapCeilingTriggered := pos.mcapCeilingTriggered
  trailingActive := pos.trailingActive
  isClosing := pos.isClosing
  pendingPartialSell := pos.pendingPartialSell
  slBelowFloorStreak := pos.slBelowFloorStreak
  decayStreak := pos.decayStreak
  flushActive := pos.flushActive
  flushLowMcap := pos.flushLowMcap
  recoveryScore := pos.recoveryScore
  useJupiterExitMcap := pos.useJupiterExitMcap

def Position.withMarks (pos : Position) (m : Marks) : Position :=
  { pos with
    exitProfitFloor := m.exitProfitFloor
    tp1Triggered := m.tp1Triggered
    tp2Triggered := m.tp2Triggered
    tp3Triggered := m.tp3Triggered
    tp4Triggered := m.tp4Triggered
    tp5Triggered := m.tp5Triggered
    mcapCeilingTriggered := m.mcapCeilingTriggered
    trailingActive := m.trailingActive
    isClosing := m.isClosing
    pendingPartialSell := m.pendingPartialSell
    slBelowFloorStreak := m.slBelowFloorStreak
    decayStreak := m.decayStreak
    flushActive := m.flushActive
    flushLowMcap := m.flushLowMcap
    recoveryScore := m.recoveryScore
    useJupiterExitMcap := m.useJupiterExitMcap }

/-- Only marks are written. -/
def Marked (p q : Position) : Prop := q = p.withMarks q.marks

namespace Marked

variable {p q r : Position}

theorem trans (h : Marked p q) (h' : Marked q r) : Marked p r := by
  calc r = q.withMarks r.marks := h'
    _ = (p.withMarks q.marks).withMarks r.marks :=
      congrArg (fun pos : Position => pos.withMarks r.marks) h
    _ = p.withMarks r.marks := rfl

theorem close (h : Marked p q) : Marked p { q with isClosing := true } := h.trans rfl

/-- What does not read the marks stays. -/
theorem view {α : Type*} {f : Position → α} (h : Marked p q)
    (hf : ∀ pos m, f (Position.withMarks pos m) = f pos) : f q = f p :=
  (congrArg f h).trans (hf p q.marks)

end Marked

/-- The stage that has stopped the turn with a sell. -/
def Flow.stoppedBy (f : Flow) : Option ExitStage := f.action.bind (·.reason.stage)

/-- **What a list of stages can do to a row.** Besides the marks that one stage alone writes, a row
that is on Jupiter's price stays on it, the ceiling only raises the profit floor, and the turn is
stopped for the reason of one of the stages. -/
structure StagesWrite (ss : List ExitStage) (p : Position) (f : Flow) : Prop where
  marked : Marked p f.pos
  decay : .momentumDecay ∉ ss → f.pos.decay = p.decay
  streak : .stopLoss ∉ ss → f.pos.slBelowFloorStreak = p.slBelowFloorStreak
  jupiter : p.useJupiterExitMcap = true → f.pos.useJupiterExitMcap = true
  floor : .protection ∉ ss → f.pos.exitProfitFloor = p.exitProfitFloor ∨
    f.stoppedBy = some .mcapCeiling ∧ p.exitProfitFloor ≤ f.pos.exitProfitFloor
  action : ∀ a ∈ f.action, ∃ s ∈ ss, a.reason.stage = some s

namespace StagesWrite

variable {ss : List ExitStage} {p : Position} {f : Flow}

theorem next_self (ss : List ExitStage) (p : Position) : StagesWrite ss p (.next p) :=
  ⟨rfl, fun _ => rfl, fun _ => rfl, id, fun _ => .inl rfl, fun a ha => by cases ha⟩

/-- A stage that does nothing but close. -/
theorem close {s : ExitStage} {a : SellAction} (h : a.reason.stage = some s) :
    StagesWrite [s] p (.stop { p with isClosing := true } (some a)) := by
  refine ⟨rfl, fun _ => rfl, fun _ => rfl, id, fun _ => .inl rfl, fun a' ha' => ?_⟩
  cases ha'
  exact ⟨s, List.mem_singleton_self s, h⟩

theorem cons {s : ExitStage} {g : Position → Flow} (hf : StagesWrite [s] p f)
    (hg : ∀ q, StagesWrite ss q (g q)) : StagesWrite (s :: ss) p (f.bind g) := by
  have hhead {t : ExitStage} (ht : t ∉ s :: ss) : t ∉ [s] := fun hmem =>
    ht (List.mem_cons.mpr (.inl (List.mem_singleton.mp hmem)))
  have htail {t : ExitStage} (ht : t ∉ s :: ss) : t ∉ ss := fun hmem =>
    ht (List.mem_cons_of_mem s hmem)
  cases f with
  | stop q a =>
    refine ⟨hf.marked, fun h => hf.decay (hhead h), fun h => hf.streak (hhead h), hf.jupiter,
      fun h => hf.floor (hhead h), fun a' ha' => ?_⟩
    obtain ⟨t, ht, hstage⟩ := hf.action a' ha'
    exact ⟨t, List.mem_cons.mpr (.inl (List.mem_singleton.mp ht)), hstage⟩
  | next q =>
    have hrest := hg q
    refine ⟨hf.marked.trans hrest.marked,
      fun h => (hrest.decay (htail h)).trans (hf.decay (hhead h)),
      fun h => (hrest.streak (htail h)).trans (hf.streak (hhead h)),
      fun h => hrest.jupiter (hf.jupiter h), fun h => ?_, fun a ha => ?_⟩
    · have hq : q.exitProfitFloor = p.exitProfitFloor := by
        rcases hf.floor (hhead h) with hsame | ⟨hstop, -⟩
        · exact hsame
        · cases hstop
      rw [← hq]
      exact hrest.floor (htail h)
    · obtain ⟨t, ht, hstage⟩ := hrest.action a ha
      exact ⟨t, List.mem_cons_of_mem s ht, hstage⟩

/-- The turn is stopped by one of the stages. -/
theorem mem_of_stoppedBy (h : StagesWrite ss p f) {s : ExitStage} (hs : f.stoppedBy = some s) :
    s ∈ ss := by
  unfold Flow.stoppedBy at hs
  obtain ⟨a, ha, hstage⟩ := Option.bind_eq_some_iff.mp hs
  obtain ⟨t, ht, htstage⟩ := h.action a ha
  rw [hstage] at htstage
  cases htstage
  exact ht

/-- No sell is queued for the reason of a stage that is not among them. -/
theorem any_eq_false (h : StagesWrite ss p f) {s : ExitStage} (hs : s ∉ ss)
    {P : SellReason → Bool} (hP : ∀ r, P r = true → r.stage = some s) :
    f.action.any (P ·.reason) = false := by
  by_contra hany
  obtain ⟨a, ha, hreason⟩ := (Option.any_eq_true _ _).mp (by simpa using hany)
  exact hs (h.mem_of_stoppedBy (Option.bind_eq_some_iff.mpr ⟨a, ha, hP _ hreason⟩))

end StagesWrite

open StagesWrite

section
variable (cfg : SmartBuyConfig) (v : TickView) (p : Position)

/-- The decay rule leaves the marks of the others, and so does its flush. -/
theorem marked_trackFlush :
    let q := trackFlush cfg v p
    Marked p q ∧ q.slBelowFloorStreak = p.slBelowFloorStreak ∧
      q.useJupiterExitMcap = p.useJupiterExitMcap ∧ q.exitProfitFloor = p.exitProfitFloor := by
  unfold trackFlush
  dsimp only
  split_ifs <;> exact ⟨rfl, rfl, rfl, rfl⟩

theorem marked_trackDecay :
    let q := trackDecay cfg v p
    Marked p q ∧ q.slBelowFloorStreak = p.slBelowFloorStreak ∧
      q.useJupiterExitMcap = p.useJupiterExitMcap ∧ q.exitProfitFloor = p.exitProfitFloor := by
  have hflush := marked_trackFlush cfg v p
  unfold trackDecay
  dsimp only at hflush ⊢
  revert hflush
  generalize trackFlush cfg v p = q
  intro hflush
  exact ⟨hflush.1.trans rfl, hflush.2⟩

theorem stagesWrite_exitMomentumDecay :
    StagesWrite [.momentumDecay] p (exitMomentumDecay cfg v p) := by
  have hmem : ExitStage.momentumDecay ∈ [ExitStage.momentumDecay] := List.mem_singleton_self _
  have htrack := marked_trackDecay cfg v p
  unfold exitMomentumDecay
  revert htrack
  generalize trackDecay cfg v p = q
  rintro ⟨hmarked, hstreak, hjupiter, hfloor⟩
  dsimp only
  split_ifs
  · exact ⟨hmarked.close, fun h => absurd hmem h, fun _ => hstreak, hjupiter.trans,
      fun _ => .inl hfloor, fun a ha => ⟨_, hmem, by cases ha; rfl⟩⟩
  · exact ⟨hmarked.close, fun h => absurd hmem h, fun _ => hstreak, hjupiter.trans,
      fun _ => .inl hfloor, fun a ha => ⟨_, hmem, by cases ha; rfl⟩⟩
  · exact ⟨hmarked, fun h => absurd hmem h, fun _ => hstreak, hjupiter.trans,
      fun _ => .inl hfloor, fun a ha => by cases ha⟩
  · exact next_self _ p

theorem stagesWrite_exitTimeKill : StagesWrite [.timeKill] p (exitTimeKill cfg v p) := by
  unfold exitTimeKill
  split_ifs
  · exact close rfl
  · exact next_self _ p

theorem stagesWrite_exitStopLoss : StagesWrite [.stopLoss] p (exitStopLoss cfg v p) := by
  have hmem : ExitStage.stopLoss ∈ [ExitStage.stopLoss] := List.mem_singleton_self _
  unfold exitStopLoss
  dsimp only
  split_ifs
  · exact close rfl
  · exact ⟨rfl, fun _ => rfl, fun h => absurd hmem h, id, fun _ => .inl rfl,
      fun a ha => ⟨_, hmem, by cases ha; rfl⟩⟩
  · exact ⟨rfl, fun _ => rfl, fun h => absurd hmem h, id, fun _ => .inl rfl,
      fun a ha => by cases ha⟩

/-- The ceiling puts the row on Jupiter's price and takes the larger of two floors. -/
theorem stagesWrite_exitMcapCeiling : StagesWrite [.mcapCeiling] p (exitMcapCeiling cfg v p) := by
  unfold exitMcapCeiling
  dsimp only
  split
  · refine ⟨rfl, fun _ => rfl, fun _ => rfl, fun _ => rfl, fun _ => .inr ⟨rfl, ?_⟩,
      fun a ha => ⟨_, List.mem_singleton_self _, by cases ha; rfl⟩⟩
    show p.exitProfitFloor ≤ if p.trailingActive then p.exitProfitFloor
      else max p.exitProfitFloor (tpConfig cfg p).trailingFloorProfitPct
    split_ifs
    · exact le_rfl
    · exact le_max_left _ _
  · exact next_self _ p

theorem stagesWrite_exitTrailing : StagesWrite [.trailing] p (exitTrailing cfg v p) := by
  unfold exitTrailing
  dsimp only
  split
  · exact close rfl
  · exact next_self _ p

theorem stagesWrite_upgradeProtection :
    StagesWrite [.protection] p (.next (upgradeProtection cfg v p)) := by
  have hmem : ExitStage.protection ∈ [ExitStage.protection] := List.mem_singleton_self _
  unfold upgradeProtection
  dsimp only
  split_ifs <;> exact ⟨rfl, fun _ => rfl, fun _ => rfl, id, fun h => absurd hmem h,
    fun a ha => by cases ha⟩

theorem stagesWrite_skipWhilePartialPending :
    StagesWrite [.partialPending] p (skipWhilePartialPending p) := by
  unfold skipWhilePartialPending
  split_ifs
  · exact ⟨rfl, fun _ => rfl, fun _ => rfl, id, fun _ => .inl rfl, fun a ha => by cases ha⟩
  · exact next_self _ p

theorem stagesWrite_exitTakeProfit (n : TpLevel) :
    StagesWrite [.takeProfit n] p (exitTakeProfit cfg n v p) := by
  unfold exitTakeProfit
  dsimp only
  split
  · have haction (a : SellAction) (pct : ℚ) (state : Option (ExitProfile × PositionPhase))
        (sell : ℚ) (ha : a ∈ some (⟨sell, .takeProfit n pct state, false⟩ : SellAction)) :
        ∃ s ∈ [ExitStage.takeProfit n], a.reason.stage = some s :=
      ⟨_, List.mem_singleton_self _, by cases ha; rfl⟩
    cases n <;> exact ⟨rfl, fun _ => rfl, fun _ => rfl, id, fun _ => .inl rfl,
      fun a ha => haction a _ _ _ ha⟩
  · exact next_self _ p

/-- Every stage writes its own marks only. -/
theorem stagesWrite_runStage (s : ExitStage) : StagesWrite [s] p (runStage cfg v p s) := by
  cases s with
  | momentumDecay => exact stagesWrite_exitMomentumDecay cfg v p
  | timeKill => exact stagesWrite_exitTimeKill cfg v p
  | stopLoss => exact stagesWrite_exitStopLoss cfg v p
  | mcapCeiling => exact stagesWrite_exitMcapCeiling cfg v p
  | trailing => exact stagesWrite_exitTrailing cfg v p
  | protection => exact stagesWrite_upgradeProtection cfg v p
  | partialPending => exact stagesWrite_skipWhilePartialPending p
  | takeProfit n => exact stagesWrite_exitTakeProfit cfg v p n

/-- **What the stages write**, one after the other. -/
theorem stagesWrite_runStages (ss : List ExitStage) :
    StagesWrite ss p (runStages cfg v ss p) := by
  induction ss generalizing p with
  | nil => exact next_self [] p
  | cons s ss ih => exact (stagesWrite_runStage cfg v p s).cons ih

theorem stagesWrite_runExits : StagesWrite exitStages p (runExits cfg v p) := by
  rw [runExits_eq_runStages]
  exact stagesWrite_runStages cfg v p exitStages

end

end Loggaper
