import Loggaper.Manager.Holdings
import Loggaper.Manager.RowHistory

/-!
# The floor of the live score

A fill, a live snapshot and the refresh without a tape write the live score of a row, each of them
at or above the floor that the entry has set. A floor over `phase_distribution_max_score` then
leaves one way into the distribution phase, momentum decay, and switches off the decay that the
phase alone would report.

- `Floored`: the floor and the score, kept by every run.
- `liveScore_floored`: what follows for the distribution phase.
-/

namespace Loggaper

/-- The distribution phase with a low score, one of the two kinds of decay. -/
def distributionDecay (cfg : SmartBuyConfig) (pos : Position) : Bool :=
  pos.exitPhase = .distribution && pos.liveScore ≤ cfg.exitV4.phaseDistributionMaxScore

/-- The metrics with which a row takes over a live snapshot. -/
def snapshotMetrics (v4 : ExitEngineV4Config) (live : LivePositionSnapshot) (pos : Position) :
    LiveMetrics :=
  liveMetricsFromSnapshot live pos.livePrevBuyersPerSec
    (pos.timeKillMcapVelocityPctPerSec pos.enterMcap.toFloat) pos.livePrevVelocity
    ((pos.learningSnapshot.map (·.velocityPct)).getD 0) pos.pnl v4

/-- The metrics of the refresh without a tape. -/
def tickMetrics (cfg : SmartBuyConfig) (mint : Address) (hasRpc : Bool) (now : ℕ) (pos : Position) :
    LiveMetrics :=
  let (q, v) := observed cfg mint hasRpc now pos
  liveMetricsLite q v.vel v.profit q.learningSnapshot cfg.exitV4

theorem decayNow_eq (cfg : SmartBuyConfig) (v : TickView) (pos : Position) :
    decayNow cfg v pos =
      let velocityDecay := momentumDecayDetected pos.liveBuyersPerSec pos.livePrevBuyersPerSec
        ((pos.learningSnapshot.map (·.sellPressureScore)).getD 0) v.vel
      let earlyGreen := v.heldSecs < cfg.exitV4.decayEarlyHoldSecs &&
        v.mcapPnlPct ≥ cfg.exitV4.decayEarlyMcapProfitMinPct
      if earlyGreen ∧ distributionDecay cfg pos ∧ ¬ velocityDecay then false
      else velocityDecay || distributionDecay cfg pos := rfl

/-! ## The floor -/

/-- The entry has set the floor, and the score is not under it. -/
structure Floored (cfg : SmartBuyConfig) (r : RowMemory) : Prop where
  floor : cfg.exitV4.enabled = true →
    r.feed.liveScoreEntryFloor = entryLiveScoreFloor r.learningSnapshot
  le_score : cfg.exitV4.enabled = true → r.feed.liveScoreEntryFloor ≤ r.score.liveScore

section
variable (cfg : SmartBuyConfig) (v : TickView) (p : Position)

/-- The refresh without a tape leaves the score or lifts it to the floor. -/
theorem liveScore_refreshLiveLite :
    (refreshLiveLite cfg v p).liveScore = p.liveScore ∨
      p.liveScoreEntryFloor ≤ (refreshLiveLite cfg v p).liveScore := by
  unfold refreshLiveLite
  dsimp only
  split_ifs
  · exact .inr (le_max_right _ _)
  · exact .inl rfl

theorem feed_observed (mint : Address) (hasRpc : Bool) (now : ℕ) :
    (observed cfg mint hasRpc now p).1.feed = p.feed :=
  ((prepared_pollExitMcap p mint hasRpc now).trans (prepared_observe cfg _ now)).view fun _ _ => rfl

end

theorem floored_opened (cfg : SmartBuyConfig) (order : BuyOrder) (pool : Pool) (r : BuyReceipt)
    (now : ℕ) : Floored cfg (PositionManagerActor.openedPosition cfg order pool r now).memory := by
  obtain ⟨mcap, hmem⟩ := PositionManagerActor.openedPosition_memory cfg order pool r now
  rw [hmem]
  refine ⟨fun hv4 => ?_, fun hv4 => ?_⟩
  · simp only [hv4, if_true]
  · simp only [hv4, if_true, le_refl]

/-- Fields that stay, a score that stays or comes up to the floor. -/
theorem Floored.of_score {cfg : SmartBuyConfig} {p q : Position} (h : Floored cfg p.memory)
    (hfeed : q.feed = p.feed) (hbooks : q.books = p.books)
    (hscore : q.liveScore = p.liveScore ∨ p.liveScoreEntryFloor ≤ q.liveScore) :
    Floored cfg q.memory := by
  have hfloor : q.liveScoreEntryFloor = p.liveScoreEntryFloor :=
    congrArg FeedState.liveScoreEntryFloor hfeed
  have hsnap : q.learningSnapshot = p.learningSnapshot :=
    congrArg Books.learningSnapshot hbooks
  refine ⟨fun hv4 => ?_, fun hv4 => ?_⟩
  · show q.liveScoreEntryFloor = entryLiveScoreFloor q.learningSnapshot
    rw [hfloor, hsnap]
    exact h.floor hv4
  · show q.liveScoreEntryFloor ≤ q.liveScore
    rw [hfloor]
    rcases hscore with hsame | hle
    · exact hsame ▸ h.le_score hv4
    · exact hle

theorem Floored.prepareRow {cfg : SmartBuyConfig} {p : Position} (h : Floored cfg p.memory)
    (mint : Address) (hasRpc : Bool) (now : ℕ) :
    Floored cfg (prepareRow cfg mint hasRpc now p).1.memory := by
  refine h.of_score ((prepared_prepareRow cfg p mint hasRpc now).view fun _ _ => rfl)
    (prepared_prepareRow cfg p mint hasRpc now).sameRow.books ?_
  have hlite := congrArg ScoreState.liveScore (score_prepareRow cfg p mint hasRpc now).1
  have hscore : (observed cfg mint hasRpc now p).1.liveScore = p.liveScore :=
    congrArg ScoreState.liveScore (score_observed cfg p mint hasRpc now)
  have hfloor : (observed cfg mint hasRpc now p).1.liveScoreEntryFloor = p.liveScoreEntryFloor :=
    congrArg FeedState.liveScoreEntryFloor (feed_observed cfg p mint hasRpc now)
  rcases liveScore_refreshLiveLite cfg (observed cfg mint hasRpc now p).2
    (observed cfg mint hasRpc now p).1 with hsame | hle
  · exact .inl (hlite.trans (hsame.trans hscore))
  · exact .inr (hfloor.symm.trans_le (hle.trans_eq hlite.symm))

theorem Floored.tick {cfg : SmartBuyConfig} {p : Position} (h : Floored cfg p.memory)
    (mint : Address) (hasRpc : Bool) (now : ℕ) :
    Floored cfg (tickPosition cfg mint hasRpc now p).pos.memory := by
  cases hclosing : p.isClosing with
  | true =>
    rw [tickPosition_closing cfg mint hasRpc now hclosing]
    exact h
  | false =>
    have hprepared := prepared_prepareRow cfg p mint hasRpc now
    have hfeed := hprepared.view (f := Position.feed) fun _ _ => rfl
    exact (h.prepareRow mint hasRpc now).of_score
      ((feed_tickPosition cfg p mint hasRpc now).trans hfeed.symm)
      ((tickPosition_spec cfg mint hasRpc now p).books.trans hprepared.sameRow.books.symm)
      (.inl (congrArg ScoreState.liveScore (score_tickPosition cfg mint hasRpc now hclosing)))

theorem Floored.live {cfg : SmartBuyConfig} {p : Position} (h : Floored cfg p.memory)
    (env : TurnEnv) (live : LivePositionSnapshot) :
    Floored cfg (PositionManagerActor.applyLive cfg.exitV4 env live p).memory :=
  ⟨h.floor, fun _ => le_max_right _ _⟩

/-- **The score is not under the floor**, on every run. -/
theorem floored_of_reachable {s : System} (h : manager.Reachable s) {key : PositionKey}
    {p : Position} (hp : s.row key = some p) : Floored s.actor.config p.memory :=
  row_invariant ⟨floored_opened, fun m now key _ _ h => h.tick key.mint m.hasRpc now,
    fun _ env live _ _ h => h.live env live⟩ h hp

/-! ## The distribution phase -/

theorem transition_distribution {current : PositionPhase} {liveScore : ℤ} {momentumDecay : Bool}
    {profit : ℚ} {v4 : ExitEngineV4Config} (hscore : v4.phaseDistributionMaxScore < liveScore)
    (h : transitionPositionPhase current liveScore momentumDecay profit v4 = .distribution) :
    momentumDecay = true := by
  unfold transitionPositionPhase at h
  split_ifs at h with hexpand hdist
  rcases hdist with hdecay | hlow
  · exact hdecay
  · exact absurd hlow (not_le.mpr hscore)

/-- The step changes the row of the key on metrics that report momentum decay. -/
inductive System.ReportsDecay (s : System) (key : PositionKey) (p : Position) : Event → Prop
  | snapshot {env : TurnEnv} {live : LivePositionSnapshot} :
      s.taken (.turn env) = some (.applyLiveSnapshot key.mint live) →
      (snapshotMetrics s.actor.config.exitV4 live p).momentumDecay = true →
      ReportsDecay s key p (.turn env)
  | tick {env : TurnEnv} :
      s.taken (.turn env) = some .tick →
      (tickMetrics s.actor.config key.mint s.actor.hasRpc (env.clock 0) p).momentumDecay = true →
      ReportsDecay s key p (.turn env)

/-- A tick that brings a row over its floor into the distribution phase reports momentum decay. -/
theorem tick_distribution {cfg : SmartBuyConfig} {p : Position} {mint : Address} {hasRpc : Bool}
    {now : ℕ} (hmax : cfg.exitV4.phaseDistributionMaxScore < p.liveScoreEntryFloor)
    (hphase : p.exitPhase ≠ .distribution)
    (h : (tickPosition cfg mint hasRpc now p).pos.exitPhase = .distribution) :
    (tickMetrics cfg mint hasRpc now p).momentumDecay = true := by
  cases hclosing : p.isClosing with
  | true =>
    rw [tickPosition_closing cfg mint hasRpc now hclosing] at h
    exact absurd h hphase
  | false =>
    have hscore := (score_tickPosition cfg mint hasRpc now hclosing).trans
      (score_prepareRow cfg p mint hasRpc now).1
    have hsame : (observed cfg mint hasRpc now p).1.exitPhase = p.exitPhase :=
      congrArg ScoreState.exitPhase (score_observed cfg p mint hasRpc now)
    have hfloor : (observed cfg mint hasRpc now p).1.liveScoreEntryFloor = p.liveScoreEntryFloor :=
      congrArg FeedState.liveScoreEntryFloor (feed_observed cfg p mint hasRpc now)
    have h' := (congrArg ScoreState.exitPhase hscore).symm.trans h
    unfold tickMetrics
    revert h' hsame hfloor
    generalize observed cfg mint hasRpc now p = obs
    obtain ⟨q, v⟩ := obs
    intro hsame hfloor h'
    dsimp only at hsame hfloor h' ⊢
    unfold refreshLiveLite at h'
    split_ifs at h' with hdue
    · refine transition_distribution ?_ h'
      exact (hmax.trans_eq hfloor.symm).trans_le (le_max_right _ _)
    · exact absurd (hsame.symm.trans h') hphase

theorem live_distribution {v4 : ExitEngineV4Config} {env : TurnEnv} {live : LivePositionSnapshot}
    {p : Position} (hmax : v4.phaseDistributionMaxScore < p.liveScoreEntryFloor)
    (hphase : p.exitPhase ≠ .distribution)
    (h : (PositionManagerActor.applyLive v4 env live p).exitPhase = .distribution) :
    (snapshotMetrics v4 live p).momentumDecay = true := by
  unfold PositionManagerActor.applyLive at h
  dsimp only at h
  split_ifs at h with hgrace
  · exact absurd h hphase
  · exact transition_distribution (hmax.trans_le (le_max_right _ _)) h

/-- **Where the distribution phase comes from.** -/
theorem distribution_step {s t : System} {e : Event} {key : PositionKey} {q : Position}
    (hstep : s.step e = some t) (hq : t.row key = some q)
    (hmax : s.actor.config.exitV4.phaseDistributionMaxScore < q.liveScoreEntryFloor)
    (hphase : q.exitPhase = .distribution) :
    ∃ p, s.row key = some p ∧ (p.exitPhase = .distribution ∨ s.ReportsDecay key p e) := by
  by_cases he : ∀ env, e ≠ .turn env
  · have hrows : t.row key = s.row key := congrArg _ (System.step_idle hstep he).2.1
    exact ⟨q, hrows ▸ hq, .inl hphase⟩
  push Not at he
  obtain ⟨env, rfl⟩ := he
  obtain ⟨msg, rest, hbox, rfl⟩ := System.step_turn hstep
  have htaken : s.taken (.turn env) = some msg := by simp [System.taken, hbox]
  rcases PositionManagerActor.rowChange_or_opened hq with
    ⟨p, hp, hchange⟩ | ⟨order, pool, r, -, -, -, rfl⟩
  · refine ⟨p, hp, ?_⟩
    by_cases hbefore : p.exitPhase = .distribution
    · exact .inl hbefore
    refine .inr ?_
    cases hchange with
    | live => exact .snapshot htaken (live_distribution hmax hbefore hphase)
    | ticked =>
      have hfloor : (s.actor.tickRow (env.clock 0) key p).pos.liveScoreEntryFloor =
          p.liveScoreEntryFloor :=
        congrArg FeedState.liveScoreEntryFloor (feed_tickPosition s.actor.config p _ _ _)
      exact .tick htaken (tick_distribution (hfloor ▸ hmax) hbefore hphase)
    | exitMcap =>
      unfold PositionManagerActor.applyExitMcap at hphase
      split_ifs at hphase <;> exact absurd hphase hbefore
    | sellFailed =>
      unfold PositionManagerActor.rowAfterSellError at hphase
      split_ifs at hphase <;> exact absurd hphase hbefore
    | _ => exact absurd hphase hbefore
  · obtain ⟨mcap, hmem⟩ := PositionManagerActor.openedPosition_memory s.actor.config order pool r
      (env.clock 0)
    have hopened := congrArg (fun r : RowMemory => r.score.exitPhase) hmem
    exact absurd (hopened.symm.trans hphase) (by simp)

/-- **What the floor keeps out.** In every state that the manager reaches with V4 on, each row has
the floor of its entry and no lower score. When the floor is over `phase_distribution_max_score`,
no tick sees the decay of the distribution phase, and the phase is entered only on metrics that
report momentum decay. -/
theorem liveScore_floored {s : System} (h : manager.Reachable s)
    (hv4 : s.actor.config.exitV4.enabled = true) (key : PositionKey) :
    (∀ p, s.row key = some p →
      p.liveScoreEntryFloor = entryLiveScoreFloor p.learningSnapshot ∧
        p.liveScoreEntryFloor ≤ p.liveScore ∧
        (s.actor.config.exitV4.phaseDistributionMaxScore < p.liveScoreEntryFloor →
          ∀ now, distributionDecay s.actor.config
            (prepareRow s.actor.config key.mint s.actor.hasRpc now p).1 = false)) ∧
      ∀ e t q, s.step e = some t → t.row key = some q →
        s.actor.config.exitV4.phaseDistributionMaxScore < q.liveScoreEntryFloor →
        q.exitPhase = .distribution →
        ∃ p, s.row key = some p ∧ (p.exitPhase = .distribution ∨ s.ReportsDecay key p e) := by
  refine ⟨fun p hp => ?_, fun e t q hstep hq hmax hphase => distribution_step hstep hq hmax hphase⟩
  have hrow := floored_of_reachable h hp
  refine ⟨hrow.floor hv4, hrow.le_score hv4, fun hmax now => ?_⟩
  have hprepared := hrow.prepareRow key.mint s.actor.hasRpc now
  have hfloor : (prepareRow s.actor.config key.mint s.actor.hasRpc now p).1.liveScoreEntryFloor =
      p.liveScoreEntryFloor :=
    (prepared_prepareRow s.actor.config p key.mint s.actor.hasRpc now).view fun _ _ => rfl
  have hscore := (hmax.trans_eq hfloor.symm).trans_le (hprepared.le_score hv4)
  simp only [distributionDecay, Bool.and_eq_false_iff, decide_eq_false_iff_not]
  exact .inr (not_le.mpr hscore)

/-- An entry score of 10. -/
def scoredEntry : LearningTradeSnapshot where
  entryMcapSol := 30
  smartWalletCount := 2
  velocityPct := 1
  bundleSimilar := 0
  bundleIdentical := 0
  buyerCount := 20
  buyToSellRatio := 4
  scoreTotal := 10
  tier := "B"
  sellPressureScore := 1
  smartWalletEarlyExits := 0
  hasMomentumGood := false

/-- A signal with this entry, up to the turn that opens its row. -/
def scoredFill : List Event :=
  [.post (.initiateBuy (smallPool 1) (1 / 10) .a none [] (some scoredEntry)), turn,
    .resume 0 .go, turn, .resume 0 .go, turn, filled 0 1000, turn]

theorem liveScore_floored_scoredFill :
    ∃ (s : System) (p : Position), s.row smallOrder.key = some p ∧ p.liveScoreEntryFloor = 5 ∧
      5 ≤ p.liveScore ∧ ∀ now, distributionDecay s.actor.config
        (prepareRow s.actor.config 1 s.actor.hasRpc now p).1 = false := by
  have hrun : ((manager.run (.smallOf {}) scoredFill).any fun s : System =>
      s.actor.config.exitV4.enabled && (s.row smallOrder.key).any fun p =>
        decide (p.liveScoreEntryFloor = 5 ∧
          s.actor.config.exitV4.phaseDistributionMaxScore < p.liveScoreEntryFloor)) = true := by
    decide +kernel
  obtain ⟨s, hs, h⟩ := (Option.any_eq_true _ _).mp hrun
  obtain ⟨hv4, hrow⟩ := Bool.and_eq_true_iff.mp h
  obtain ⟨p, hp, h⟩ := (Option.any_eq_true _ _).mp hrow
  obtain ⟨hfloor, hmax⟩ := of_decide_eq_true h
  obtain ⟨-, hscore, hquiet⟩ :=
    (liveScore_floored ⟨_, _, System.smallOf_fresh {}, hs⟩ hv4 smallOrder.key).1 p hp
  exact ⟨s, p, hp, hfloor, hfloor ▸ hscore, hquiet hmax⟩

end Loggaper
