import Loggaper.Manager.Stages

/-!
# What a tick leaves alone

A tick writes neither the live tape nor Jupiter's quote of a row. It can put a row on Jupiter's
price, at the market-cap ceiling, and takes none off it. Three groups of fields carry the exits from
one tick to the next: only the live feed writes the first, only the part before the exits writes the
session high with the live score and the phase, and only the decay rule writes its memory.

- `keepsFeeds_tickPosition`, `feed_tickPosition`, `score_tickPosition`: what every tick leaves.
- `evaluatesDecay`: the ticks that the decay rule looks at.
- `tick_unevaluated`, `tick_evaluated`: what a tick makes of the memory of the decay rule.
-/

namespace Loggaper

/-! ## Tapes and quotes -/

/-- Tapes and quote stay, and a row on Jupiter's price stays on it. -/
structure KeepsFeeds (p q : Position) : Prop where
  liveTapePrev : q.liveTapePrev = p.liveTapePrev
  liveTapeCurr : q.liveTapeCurr = p.liveTapeCurr
  exitMcapJupiter : q.exitMcapJupiter = p.exitMcapJupiter
  useJupiterExitMcap : p.useJupiterExitMcap = true → q.useJupiterExitMcap = true

namespace KeepsFeeds

variable {p q r : Position}

theorem refl (p : Position) : KeepsFeeds p p := ⟨rfl, rfl, rfl, id⟩

theorem trans (h : KeepsFeeds p q) (h' : KeepsFeeds q r) : KeepsFeeds p r :=
  ⟨h'.liveTapePrev.trans h.liveTapePrev, h'.liveTapeCurr.trans h.liveTapeCurr,
    h'.exitMcapJupiter.trans h.exitMcapJupiter,
    fun hu => h'.useJupiterExitMcap (h.useJupiterExitMcap hu)⟩

end KeepsFeeds

/-- The samples are neither tape nor quote. -/
theorem Prepared.keepsFeeds {p q : Position} (h : Prepared p q) : KeepsFeeds p q :=
  ⟨h.view fun _ _ => rfl, h.view fun _ _ => rfl, h.view fun _ _ => rfl,
    (h.view (f := Position.useJupiterExitMcap) fun _ _ => rfl).trans⟩

/-- Of the marks only the price source is looked at here, and no stage takes a row off Jupiter. -/
theorem StagesWrite.keepsFeeds {ss : List ExitStage} {p : Position} {f : Flow}
    (h : StagesWrite ss p f) : KeepsFeeds p f.pos :=
  ⟨h.marked.view fun _ _ => rfl, h.marked.view fun _ _ => rfl, h.marked.view fun _ _ => rfl,
    h.jupiter⟩

/-- **What a tick leaves.** -/
theorem keepsFeeds_tickPosition (cfg : SmartBuyConfig) (p : Position) (mint : Address)
    (hasRpc : Bool) (now : ℕ) : KeepsFeeds p (tickPosition cfg mint hasRpc now p).pos := by
  unfold tickPosition
  split_ifs
  · exact .refl p
  · exact (prepared_prepareRow cfg p mint hasRpc now).keepsFeeds.trans
      (stagesWrite_runExits cfg _ _).keepsFeeds

/-- A tick leaves what the live feed has written. -/
theorem feed_tickPosition (cfg : SmartBuyConfig) (p : Position) (mint : Address) (hasRpc : Bool)
    (now : ℕ) : (tickPosition cfg mint hasRpc now p).pos.feed = p.feed := by
  have hprepared := prepared_prepareRow cfg p mint hasRpc now
  unfold tickPosition
  split_ifs
  · rfl
  · exact ((stagesWrite_runExits cfg _ _).marked.view fun _ _ => rfl).trans
      (hprepared.view fun _ _ => rfl)

/-! ## Session high, score and phase -/

section
variable (cfg : SmartBuyConfig) (p : Position)

/-- The market cap of the view is the one that the session high has been compared with. -/
theorem currentMcap_observe (now : ℕ) :
    (observe cfg now p).2.currentMcap =
      (p.pushExitMcapTick p.exitRawMcap cfg.exitMcapMedianTicks).filteredMarketCap
        cfg.exitMcapBandLowRatio cfg.exitMcapBandHighRatio := by
  have hhigh (mcap low high : ℚ) (q : Position) :
      (noteHighestMcap mcap q).filteredMarketCap low high = q.filteredMarketCap low high := by
    unfold noteHighestMcap
    split_ifs <;> rfl
  have hnote (mcap low high : ℚ) (q : Position) :
      (q.timeKillNoteMcapSample now mcap).filteredMarketCap low high =
        q.filteredMarketCap low high := by
    unfold Position.timeKillNoteMcapSample
    split_ifs <;> rfl
  calc (observe cfg now p).2.currentMcap
      = (sampleMcap cfg now p).filteredMarketCap cfg.exitMcapBandLowRatio
          cfg.exitMcapBandHighRatio := rfl
    _ = _ := (hnote _ _ _ _).trans (hhigh _ _ _ _)

/-- A view raises the session high to its market cap, and leaves score and phase. -/
theorem score_observe (now : ℕ) :
    (observe cfg now p).1.score =
      { p.score with highestMcap := max p.highestMcap (observe cfg now p).2.currentMcap } := by
  have hpush (mcap : ℚ) (n : ℕ) : (p.pushExitMcapTick mcap n).score = p.score := by
    unfold Position.pushExitMcapTick
    split_ifs <;> rfl
  have hhigh (mcap : ℚ) (q : Position) :
      (noteHighestMcap mcap q).score = { q.score with highestMcap := max q.highestMcap mcap } := by
    unfold noteHighestMcap
    split_ifs with h
    · rw [max_eq_right (le_of_lt h)]
      rfl
    · rw [max_eq_left (not_lt.mp h)]
      rfl
  have hnote (mcap : ℚ) (q : Position) : (q.timeKillNoteMcapSample now mcap).score = q.score := by
    unfold Position.timeKillNoteMcapSample
    split_ifs <;> rfl
  have hpeak (profit : ℚ) (q : Position) : (notePeakProfit profit q).score = q.score := by
    unfold notePeakProfit
    split_ifs <;> rfl
  have hhighest (mcap : ℚ) (n : ℕ) : (p.pushExitMcapTick mcap n).highestMcap = p.highestMcap :=
    congrArg ScoreState.highestMcap (hpush mcap n)
  rw [currentMcap_observe]
  calc (observe cfg now p).1.score
      = (sampleMcap cfg now p).score := hpeak _ _
    _ = _ := (hnote _ _).trans (hhigh _ _)
    _ = _ := by rw [hpush, hhighest]

theorem score_pollExitMcap (mint : Address) (hasRpc : Bool) (now : ℕ) :
    (pollExitMcap mint hasRpc now p).1.score = p.score := by
  unfold pollExitMcap
  dsimp only
  split_ifs <;> rfl

/-- What the lite refresh starts from. -/
def observed (mint : Address) (hasRpc : Bool) (now : ℕ) (p : Position) : Position × TickView :=
  observe cfg now (pollExitMcap mint hasRpc now p).1

/-- The row that comes to the exits has the session high, score and phase of the lite refresh. -/
theorem score_prepareRow (mint : Address) (hasRpc : Bool) (now : ℕ) :
    (prepareRow cfg mint hasRpc now p).1.score =
        (refreshLiveLite cfg (observed cfg mint hasRpc now p).2
          (observed cfg mint hasRpc now p).1).score ∧
      (prepareRow cfg mint hasRpc now p).2.1 = (observed cfg mint hasRpc now p).2 := by
  have hlock (q : Position) : (lockStaircase cfg q).score = q.score := by
    unfold lockStaircase
    split
    · cases profitLockStaircaseFloor q.peakProfitPct with
      | none => rfl
      | some floor =>
        dsimp only
        split <;> rfl
    · rfl
  exact ⟨hlock _, rfl⟩

theorem score_observed (mint : Address) (hasRpc : Bool) (now : ℕ) :
    (observed cfg mint hasRpc now p).1.score =
      { p.score with
        highestMcap := max p.highestMcap (observed cfg mint hasRpc now p).2.currentMcap } := by
  have hpoll := score_pollExitMcap p mint hasRpc now
  have hhigh : (pollExitMcap mint hasRpc now p).1.highestMcap = p.highestMcap :=
    congrArg ScoreState.highestMcap hpoll
  unfold observed
  rw [score_observe, hpoll, hhigh]

/-- The session high with which the row comes to the exits. -/
theorem highestMcap_prepareRow (mint : Address) (hasRpc : Bool) (now : ℕ) :
    (prepareRow cfg mint hasRpc now p).1.highestMcap =
      max p.highestMcap (prepareRow cfg mint hasRpc now p).2.1.currentMcap := by
  have hlite (v : TickView) (q : Position) :
      (refreshLiveLite cfg v q).highestMcap = q.highestMcap := by
    unfold refreshLiveLite
    dsimp only
    split_ifs <;> rfl
  obtain ⟨hscore, hview⟩ := score_prepareRow cfg p mint hasRpc now
  rw [hview]
  calc (prepareRow cfg mint hasRpc now p).1.highestMcap
      = (refreshLiveLite cfg (observed cfg mint hasRpc now p).2
          (observed cfg mint hasRpc now p).1).highestMcap := congrArg ScoreState.highestMcap hscore
    _ = (observed cfg mint hasRpc now p).1.highestMcap := hlite _ _
    _ = max p.highestMcap (observed cfg mint hasRpc now p).2.currentMcap :=
      congrArg ScoreState.highestMcap (score_observed cfg p mint hasRpc now)

end

/-- The exits leave the session high, score and phase. -/
theorem score_tickPosition (cfg : SmartBuyConfig) {p : Position} (mint : Address) (hasRpc : Bool)
    (now : ℕ) (h : p.isClosing = false) : (tickPosition cfg mint hasRpc now p).pos.score =
      (prepareRow cfg mint hasRpc now p).1.score := by
  unfold tickPosition
  rw [if_neg (by simp [h])]
  exact (stagesWrite_runExits cfg _ _).marked.view fun _ _ => rfl

/-- The session high does not fall. -/
theorem highestMcap_tickPosition (cfg : SmartBuyConfig) (p : Position) (mint : Address)
    (hasRpc : Bool) (now : ℕ) :
    p.highestMcap ≤ (tickPosition cfg mint hasRpc now p).pos.highestMcap := by
  cases hclosing : p.isClosing with
  | true =>
    unfold tickPosition
    rw [if_pos hclosing]
  | false =>
    have hscore := score_tickPosition cfg mint hasRpc now hclosing
    calc p.highestMcap
        ≤ (prepareRow cfg mint hasRpc now p).1.highestMcap :=
          (le_max_left _ _).trans_eq (highestMcap_prepareRow cfg p mint hasRpc now).symm
      _ = _ := (congrArg ScoreState.highestMcap hscore).symm

/-! ## The decay rule -/

/-- A close for momentum decay. -/
def SellReason.isMomentumDecay : SellReason → Bool
  | .momentumDecay .. => true
  | _ => false

def queuesDecay (action : Option SellAction) : Bool := action.any (·.reason.isMomentumDecay)

theorem SellReason.stage_of_isMomentumDecay (r : SellReason) (h : r.isMomentumDecay = true) :
    r.stage = some .momentumDecay := by
  cases r with
  | momentumDecay => rfl
  | _ => cases h

variable (cfg : SmartBuyConfig) (v : TickView) (p : Position)

theorem runExits_eq_decay :
    runExits cfg v p =
      (exitMomentumDecay cfg v p).bind (runStages cfg v exitStages.tail) :=
  runExits_eq_runStages cfg v p

/-- The later stages leave the memory of the rule, and do not close for it. -/
theorem decay_runStages :
    let f := runStages cfg v exitStages.tail p
    f.pos.decay = p.decay ∧ queuesDecay f.action = false := by
  have hwrite := stagesWrite_runStages cfg v p exitStages.tail
  have hnot : ExitStage.momentumDecay ∉ exitStages.tail := by decide
  exact ⟨hwrite.decay hnot, hwrite.any_eq_false hnot SellReason.stage_of_isMomentumDecay⟩

/-- The view and the row with which a tick comes to the decay rule: past the grace period, with a
live tape. -/
def evaluatesDecay (mint : Address) (hasRpc : Bool) (now : ℕ) (p : Position) :
    Option (TickView × Position) :=
  if p.isClosing then none
  else
    let (q, v, _) := prepareRow cfg mint hasRpc now p
    if cfg.exitV4.enabled ∧ ¬ v.inGrace ∧ q.liveTapeCurr.isSome then some (v, q) else none

/-- The rule is on and its count is full. -/
def decayFull : Prop :=
  cfg.exitV4.momentumDecayExitEnabled = true ∧
    decayConfirmNeeded cfg v ≤ (trackDecay cfg v p).decayStreak

/-- The memory of the rule after it has looked at a row. -/
def decayAfter : DecayState :=
  if cfg.exitV4.momentumDecayExitEnabled then (trackDecay cfg v p).decay else p.decay

theorem runExits_unevaluated (h : ¬ (cfg.exitV4.enabled ∧ ¬ v.inGrace ∧ p.liveTapeCurr.isSome)) :
    let f := runExits cfg v p
    f.pos.decay = p.decay ∧ queuesDecay f.action = false := by
  have hskip : exitMomentumDecay cfg v p = .next p := by
    unfold exitMomentumDecay
    rw [if_neg fun hc => h ⟨hc.1, hc.2.2⟩]
  rw [runExits_eq_decay, hskip]
  exact decay_runStages cfg v p

theorem runExits_evaluated (h : cfg.exitV4.enabled ∧ ¬ v.inGrace ∧ p.liveTapeCurr.isSome) :
    let f := runExits cfg v p
    f.pos.decay = decayAfter cfg v p ∧ (queuesDecay f.action = true ↔ decayFull cfg v p) := by
  rw [runExits_eq_decay]
  unfold exitMomentumDecay
  by_cases hon : cfg.exitV4.momentumDecayExitEnabled = true
  · rw [if_pos ⟨h.1, hon, h.2⟩]
    dsimp only
    by_cases hfull : (trackDecay cfg v p).decayStreak ≥ decayConfirmNeeded cfg v
    · rw [if_pos hfull, decayAfter, if_pos hon]
      exact ⟨rfl, iff_of_true rfl ⟨hon, hfull⟩⟩
    · rw [if_neg hfull, decayAfter, if_pos hon]
      obtain ⟨hdecay, hqueues⟩ := decay_runStages cfg v (trackDecay cfg v p)
      exact ⟨hdecay, iff_of_false (Bool.eq_false_iff.mp hqueues) fun hc => hfull hc.2⟩
  · rw [if_neg fun hc => hon hc.2.1, decayAfter, if_neg hon]
    obtain ⟨hdecay, hqueues⟩ := decay_runStages cfg v p
    exact ⟨hdecay, iff_of_false (Bool.eq_false_iff.mp hqueues) fun hc => hon hc.1⟩

variable {cfg p} {mint : Address} {hasRpc : Bool} {now : ℕ}

theorem evaluatesDecay_eq_some {v : TickView} {q : Position}
    (h : evaluatesDecay cfg mint hasRpc now p = some (v, q)) :
    p.isClosing = false ∧ q = (prepareRow cfg mint hasRpc now p).1 ∧
      v = (prepareRow cfg mint hasRpc now p).2.1 := by
  unfold evaluatesDecay at h
  split_ifs at h with hclosing
  dsimp only at h
  split_ifs at h
  cases h
  exact ⟨by simpa using hclosing, rfl, rfl⟩

/-- **A tick that the rule does not look at** leaves its memory. -/
theorem tick_unevaluated (h : evaluatesDecay cfg mint hasRpc now p = none) :
    let r := tickPosition cfg mint hasRpc now p
    r.pos.decay = p.decay ∧ queuesDecay r.action = false := by
  unfold evaluatesDecay at h
  unfold tickPosition
  split_ifs at h ⊢ with hclosing
  · exact ⟨rfl, rfl⟩
  · have hprepared := prepared_prepareRow cfg p mint hasRpc now
    revert h hprepared
    generalize prepareRow cfg mint hasRpc now p = prepared
    obtain ⟨q, v, poll⟩ := prepared
    intro h hprepared
    dsimp only at h hprepared ⊢
    split_ifs at h with heval
    obtain ⟨hdecay, hqueues⟩ := runExits_unevaluated cfg v q heval
    exact ⟨hdecay.trans (hprepared.view fun _ _ => rfl), hqueues⟩

/-- **A tick that the rule looks at.** -/
theorem tick_evaluated {v : TickView} {q : Position}
    (h : evaluatesDecay cfg mint hasRpc now p = some (v, q)) :
    let r := tickPosition cfg mint hasRpc now p
    q.decay = p.decay ∧ r.pos.decay = decayAfter cfg v q ∧
      (queuesDecay r.action = true ↔ decayFull cfg v q) := by
  unfold evaluatesDecay at h
  unfold tickPosition
  split_ifs at h ⊢ with hclosing
  · have hprepared := prepared_prepareRow cfg p mint hasRpc now
    revert h hprepared
    generalize prepareRow cfg mint hasRpc now p = prepared
    obtain ⟨q', v', poll⟩ := prepared
    intro h hprepared
    dsimp only at h hprepared ⊢
    split_ifs at h with heval
    cases h
    exact ⟨hprepared.view fun _ _ => rfl, runExits_evaluated cfg v q heval⟩

end Loggaper
