import Mathlib.Order.Bounds.Basic
import Loggaper.Autobuy.ExitFilter
import Loggaper.Manager.MomentumDecay

/-!
# Flush tracking

A drawdown of `flush_drop_pct` from the session high opens a flush, which ends when the market cap
is back within a percent of the high. The low is written in the branch of the deep drawdown only,
and the low of a flush that has ended stays on the row, yet while a flush is active the low is the
least market cap that its ticks have seen.

- `flushDiary`: what the evaluated ticks have seen of each row since it was opened.
- `FlushOpen`: a flush, as its ticks saw it.
- `flush_tracked`: every run and every tick.
- `flush_near_high`: a flush that goes on within a percent of the high.
-/

namespace Loggaper

/-- What an evaluated tick sees. -/
structure FlushTick where
  mcap : ℚ
  high : ℚ
  /-- A flush was active before the tick. -/
  active : Bool
  deriving DecidableEq

namespace FlushTick

variable (t : FlushTick)

/-- In percent of the session high. -/
def drawdown : ℚ := if t.high > 0 then (t.high - t.mcap) / t.high * 100 else 0

/-- Within a percent of the session high. -/
def NearHigh : Prop := t.mcap ≥ t.high * (99 / 100)

instance : Decidable t.NearHigh := inferInstanceAs (Decidable (_ ≥ _))

end FlushTick

def flushTick (v : TickView) (q : Position) : FlushTick :=
  ⟨v.currentMcap, q.highestMcap, q.flushActive⟩

/-- What the ticks that the decay rule looks at see. -/
def flushDiary : Diary FlushTick where
  tick m now key p :=
    (evaluatesDecay m.config key.mint m.hasRpc now p).map fun (v, q) => flushTick v q
  live _ _ _ _ := none

/-- The newest ticks are those of a flush: its first one had the drop, the later ones found it
active and were within a percent of the high only while they still had the drop, and `low` is the
least market cap of them all. -/
def FlushOpen (drop low : ℚ) (ticks : List FlushTick) : Prop :=
  ∃ since opening before, ticks = since ++ opening :: before ∧
    opening.active = false ∧ drop ≤ opening.drawdown ∧
    (∀ t ∈ since, t.active = true ∧ (t.NearHigh → drop ≤ t.drawdown)) ∧
    IsLeast {m | m ∈ (since ++ [opening]).map FlushTick.mcap} low

namespace FlushOpen

variable {drop low : ℚ} {ticks : List FlushTick} {t : FlushTick}

theorem opens (hactive : t.active = false) (hdeep : drop ≤ t.drawdown) :
    FlushOpen drop t.mcap (t :: ticks) := by
  refine ⟨[], t, ticks, rfl, hactive, hdeep, by simp, ?_⟩
  simp

/-- A tick that finds the flush active belongs to it. -/
theorem goesOn (h : FlushOpen drop low ticks) (hactive : t.active = true)
    (hnear : t.NearHigh → drop ≤ t.drawdown) : FlushOpen drop (min t.mcap low) (t :: ticks) := by
  obtain ⟨since, opening, before, rfl, hopening, hdeep, hsince, hleast⟩ := h
  refine ⟨t :: since, opening, before, rfl, hopening, hdeep, ?_, ?_⟩
  · intro u hu
    rcases List.mem_cons.mp hu with rfl | hu
    · exact ⟨hactive, hnear⟩
    · exact hsince u hu
  · have hcons : {m | m ∈ (t :: since ++ [opening]).map FlushTick.mcap} =
        insert t.mcap {m | m ∈ (since ++ [opening]).map FlushTick.mcap} := by
      ext m
      simp
    rw [hcons]
    exact hleast.insert t.mcap

end FlushOpen

/-! ## One tick -/

/-- The rule is on, and the low is no higher than the drop below the session high. -/
structure ActiveFlush (cfg : SmartBuyConfig) (ticks : List FlushTick) (high low : ℚ) : Prop where
  isOn : cfg.exitV4.momentumDecayExitEnabled = true
  drop : cfg.exitV4.flushDropPct ≤ 100
  under : low ≤ high * (1 - cfg.exitV4.flushDropPct / 100)
  flush : FlushOpen cfg.exitV4.flushDropPct low ticks

theorem ActiveFlush.rise {cfg : SmartBuyConfig} {ticks : List FlushTick} {high high' low : ℚ}
    (h : ActiveFlush cfg ticks high low) (hle : high ≤ high') :
    ActiveFlush cfg ticks high' low := by
  refine ⟨h.isOn, h.drop, h.under.trans ?_, h.flush⟩
  have hdrop := h.drop
  have hrest : 0 ≤ 1 - cfg.exitV4.flushDropPct / 100 := by linarith
  gcongr

section
variable {cfg : SmartBuyConfig} {v : TickView} {q : Position} {ticks : List FlushTick}

/-- A positive drawdown needs a high, and is at most the whole of it. -/
theorem FlushTick.deep_le {t : FlushTick} {drop : ℚ} (hdrop : 0 < drop) (hmcap : 0 ≤ t.mcap)
    (h : drop ≤ t.drawdown) : drop ≤ 100 ∧ t.mcap ≤ t.high * (1 - drop / 100) := by
  unfold drawdown at h
  split_ifs at h with hhigh
  · have hmul : drop / 100 * t.high ≤ t.high - t.mcap := by
      rw [← le_div_iff₀ hhigh]
      linarith
    have hfull : drop / 100 * t.high ≤ 1 * t.high := by linarith
    have hle := le_of_mul_le_mul_right hfull hhigh
    exact ⟨by linarith, by linarith⟩
  · exact absurd hdrop (not_lt.mpr h)

/-- A drawdown short of the drop leaves the market cap over every low. -/
theorem FlushTick.shallow_gt {t : FlushTick} {drop : ℚ} (hhigh : 0 < t.high)
    (h : t.drawdown < drop) : t.high * (1 - drop / 100) < t.mcap := by
  unfold drawdown at h
  rw [if_pos hhigh] at h
  have hmul : t.high - t.mcap < drop / 100 * t.high := by
    rw [← div_lt_iff₀ hhigh]
    linarith
  linarith

/-- **The flush of one evaluated tick.** -/
theorem ActiveFlush.track (hdrop : 0 < cfg.exitV4.flushDropPct) (hmcap : 0 ≤ v.currentMcap)
    (hon : cfg.exitV4.momentumDecayExitEnabled = true)
    (h : q.flushActive = true → ActiveFlush cfg ticks q.highestMcap q.flushLowMcap)
    (hactive : (trackFlush cfg v q).flushActive = true) :
    ActiveFlush cfg (flushTick v q :: ticks) q.highestMcap (trackFlush cfg v q).flushLowMcap := by
  have htrack : trackFlush cfg v q =
      if (flushTick v q).drawdown ≥ cfg.exitV4.flushDropPct then
        if ¬ q.flushActive then { q with flushActive := true, flushLowMcap := v.currentMcap }
        else if v.currentMcap < q.flushLowMcap then { q with flushLowMcap := v.currentMcap }
        else q
      else if (flushTick v q).NearHigh then { q with flushActive := false }
      else q := rfl
  rw [htrack] at hactive ⊢
  by_cases hdeep : (flushTick v q).drawdown ≥ cfg.exitV4.flushDropPct
  · rw [if_pos hdeep] at hactive ⊢
    obtain ⟨hwhole, hunder⟩ := FlushTick.deep_le hdrop hmcap hdeep
    cases hbefore : q.flushActive with
    | false =>
      rw [if_pos (by simp)]
      exact ⟨hon, hwhole, hunder, FlushOpen.opens hbefore hdeep⟩
    | true =>
      have hflush := h hbefore
      have hgoes := hflush.flush.goesOn (t := flushTick v q) hbefore fun _ => hdeep
      rw [if_neg (by simp)]
      by_cases hlower : v.currentMcap < q.flushLowMcap
      · rw [if_pos hlower]
        rw [show min (flushTick v q).mcap q.flushLowMcap = v.currentMcap from
          min_eq_left hlower.le] at hgoes
        exact ⟨hon, hwhole, hunder, hgoes⟩
      · rw [if_neg hlower]
        rw [show min (flushTick v q).mcap q.flushLowMcap = q.flushLowMcap from
          min_eq_right (not_lt.mp hlower)] at hgoes
        exact ⟨hon, hwhole, hflush.under, hgoes⟩
  · rw [if_neg hdeep] at hactive ⊢
    by_cases hnear : (flushTick v q).NearHigh
    · rw [if_pos hnear] at hactive
      cases hactive
    · rw [if_neg hnear] at hactive ⊢
      have hflush := h hactive
      have hgoes := hflush.flush.goesOn (t := flushTick v q) hactive fun hc => absurd hc hnear
      -- a high of nothing would be reached by every market cap
      have hhigh : 0 < q.highestMcap := by
        by_contra hnone
        refine hnear ?_
        show v.currentMcap ≥ q.highestMcap * (99 / 100)
        linarith
      have hover : q.flushLowMcap ≤ v.currentMcap :=
        hflush.under.trans (FlushTick.shallow_gt (t := flushTick v q) hhigh (not_le.mp hdeep)).le
      rw [show min (flushTick v q).mcap q.flushLowMcap = q.flushLowMcap from
        min_eq_right hover] at hgoes
      exact ⟨hon, hflush.drop, hflush.under, hgoes⟩

end

/-- The recovery score reads the low that the tick leaves. -/
theorem recoveryNow_eq (cfg : SmartBuyConfig) (v : TickView) (q : Position) :
    recoveryNow cfg v q = recoveryScore
      (liveMetricsLite q v.vel v.profit q.learningSnapshot cfg.exitV4) v.currentMcap
      (trackFlush cfg v q).flushLowMcap q.highestMcap := by
  have hmarked : Marked q (trackFlush cfg v q) := (marked_trackFlush cfg v q).1
  have hmetrics : liveMetricsLite (trackFlush cfg v q) v.vel v.profit
      (trackFlush cfg v q).learningSnapshot cfg.exitV4 =
      liveMetricsLite q v.vel v.profit q.learningSnapshot cfg.exitV4 :=
    hmarked.view (f := fun pos => liveMetricsLite pos v.vel v.profit pos.learningSnapshot
      cfg.exitV4) fun _ _ => rfl
  have hhigh : (trackFlush cfg v q).highestMcap = q.highestMcap := hmarked.view fun _ _ => rfl
  unfold recoveryNow
  dsimp only
  rw [hmetrics, hhigh]

/-! ## Runs -/

/-- An active flush is one that the ticks saw. -/
structure FlushTold (cfg : SmartBuyConfig) (ticks : List FlushTick) (r : RowMemory) : Prop where
  high : 0 ≤ r.score.highestMcap
  active : 0 < cfg.exitV4.flushDropPct → r.decay.flushActive = true →
    ActiveFlush cfg ticks r.score.highestMcap r.decay.flushLowMcap

theorem flushTold_opened (cfg : SmartBuyConfig) (order : BuyOrder) (pool : Pool) (r : BuyReceipt)
    (now : ℕ) :
    FlushTold cfg [] (PositionManagerActor.openedPosition cfg order pool r now).memory := by
  obtain ⟨mcap, hmem⟩ := PositionManagerActor.openedPosition_memory cfg order pool r now
  rw [hmem]
  exact ⟨mcap.toFloat_nonneg, fun _ hactive => by cases hactive⟩

theorem currentMcap_nonneg (cfg : SmartBuyConfig) (mint : Address) (hasRpc : Bool) (now : ℕ)
    (p : Position) : 0 ≤ (prepareRow cfg mint hasRpc now p).2.1.currentMcap := by
  rw [(score_prepareRow cfg p mint hasRpc now).2]
  unfold observed
  rw [currentMcap_observe]
  exact filteredExitMcap_nonneg _ _ _ _

namespace FlushTold

variable {cfg : SmartBuyConfig} {ticks : List FlushTick} {p q : Position} {v : TickView}
  {mint : Address} {hasRpc : Bool} {now : ℕ}

/-- The flush after an evaluated tick. -/
theorem evaluated (h : FlushTold cfg ticks p.memory) (hdrop : 0 < cfg.exitV4.flushDropPct)
    (heval : evaluatesDecay cfg mint hasRpc now p = some (v, q))
    (hactive : (decayAfter cfg v q).flushActive = true) :
    ActiveFlush cfg (flushTick v q :: ticks) q.highestMcap (decayAfter cfg v q).flushLowMcap := by
  obtain ⟨hsame, -, -⟩ := tick_evaluated heval
  obtain ⟨-, hq, hv⟩ := evaluatesDecay_eq_some heval
  have hrise : p.highestMcap ≤ q.highestMcap := by
    rw [hq, highestMcap_prepareRow]
    exact le_max_left _ _
  have hmcap : 0 ≤ v.currentMcap := hv ▸ currentMcap_nonneg cfg mint hasRpc now p
  have hbefore (hq : q.flushActive = true) :
      ActiveFlush cfg ticks q.highestMcap q.flushLowMcap := by
    have hp : p.flushActive = true := (congrArg DecayState.flushActive hsame).symm.trans hq
    have hlow : q.flushLowMcap = p.flushLowMcap := congrArg DecayState.flushLowMcap hsame
    rw [hlow]
    exact (h.active hdrop hp).rise hrise
  unfold decayAfter at hactive ⊢
  by_cases hon : cfg.exitV4.momentumDecayExitEnabled = true
  · rw [if_pos hon] at hactive ⊢
    exact ActiveFlush.track hdrop hmcap hon hbefore hactive
  · rw [if_neg hon] at hactive
    exact absurd (hbefore hactive).isOn hon

theorem tick (m : PositionManagerActor) (now : ℕ) (key : PositionKey)
    (h : FlushTold m.config ticks p.memory) :
    FlushTold m.config ((flushDiary.tick m now key p).toList ++ ticks)
      (m.tickRow now key p).pos.memory := by
  have hrise := highestMcap_tickPosition m.config p key.mint m.hasRpc now
  refine ⟨h.high.trans hrise, fun hdrop hactive => ?_⟩
  have hnote : flushDiary.tick m now key p = (evaluatesDecay m.config key.mint m.hasRpc now p).map
      fun (v, q) => flushTick v q := rfl
  rw [hnote]
  cases heval : evaluatesDecay m.config key.mint m.hasRpc now p with
  | none =>
    have hsame := (tick_unevaluated heval).1
    have hp : p.flushActive = true := (congrArg DecayState.flushActive hsame).symm.trans hactive
    have hlow : (m.tickRow now key p).pos.flushLowMcap = p.flushLowMcap :=
      congrArg DecayState.flushLowMcap hsame
    show ActiveFlush m.config ticks _ (m.tickRow now key p).pos.flushLowMcap
    rw [hlow]
    exact (h.active hdrop hp).rise hrise
  | some vq =>
    obtain ⟨v, q⟩ := vq
    obtain ⟨-, hafter, -⟩ := tick_evaluated heval
    obtain ⟨hclosing, hq, -⟩ := evaluatesDecay_eq_some heval
    have hhigh : (m.tickRow now key p).pos.highestMcap = q.highestMcap := by
      rw [hq]
      exact congrArg ScoreState.highestMcap
        (score_tickPosition m.config key.mint m.hasRpc now hclosing)
    have hlow : (m.tickRow now key p).pos.flushLowMcap =
        (decayAfter m.config v q).flushLowMcap := congrArg DecayState.flushLowMcap hafter
    show ActiveFlush m.config (flushTick v q :: ticks) (m.tickRow now key p).pos.highestMcap
      (m.tickRow now key p).pos.flushLowMcap
    rw [hhigh, hlow]
    exact h.evaluated hdrop heval ((congrArg DecayState.flushActive hafter).symm.trans hactive)

end FlushTold

/-- **An active flush is one that the ticks saw**, on every run. -/
theorem flushTold_of_reachable {w : Diary.Kept FlushTick}
    (h : flushDiary.notes.machine.Reachable w) {key : PositionKey} {p : Position}
    (hp : w.row key = some p) : FlushTold w.actor.config (w.record key) p.memory :=
  Diary.history ⟨flushTold_opened, fun m now key _ _ h => h.tick m now key,
    fun _ _ _ _ _ h => ⟨h.high, h.active⟩⟩ h hp

/-- **The flush and its low.** On every run, while a flush of a row is active, it opened at a tick
with the drop, its low is the least market cap of its ticks, and the later ones were within a
percent of the high only while they still had the drop. The recovery score of a tick is taken
against the low of the flush that this tick leaves. -/
theorem flush_tracked {w : Diary.Kept FlushTick} (h : flushDiary.notes.machine.Reachable w)
    (hdrop : 0 < w.actor.config.exitV4.flushDropPct) {key : PositionKey} {p : Position}
    (hp : w.row key = some p) :
    (p.flushActive = true →
      FlushOpen w.actor.config.exitV4.flushDropPct p.flushLowMcap (w.record key)) ∧
      ∀ now v q, evaluatesDecay w.actor.config key.mint w.actor.hasRpc now p = some (v, q) →
        w.actor.config.exitV4.momentumDecayExitEnabled = true →
        let r := (w.actor.tickRow now key p).pos
        r.recoveryScore = recoveryScore
            (liveMetricsLite q v.vel v.profit q.learningSnapshot w.actor.config.exitV4)
            v.currentMcap r.flushLowMcap r.highestMcap ∧
          (r.flushActive = true → FlushOpen w.actor.config.exitV4.flushDropPct r.flushLowMcap
            (flushTick v q :: w.record key)) := by
  have htold := flushTold_of_reachable h hp
  refine ⟨fun hactive => (htold.active hdrop hactive).flush, fun now v q heval hon => ?_⟩
  obtain ⟨-, hafter, -⟩ := tick_evaluated heval
  obtain ⟨hclosing, hq, -⟩ := evaluatesDecay_eq_some heval
  have hhigh : (w.actor.tickRow now key p).pos.highestMcap = q.highestMcap := by
    rw [hq]
    exact congrArg ScoreState.highestMcap
      (score_tickPosition w.actor.config key.mint w.actor.hasRpc now hclosing)
  have hlow := congrArg DecayState.flushLowMcap hafter
  constructor
  · show (w.actor.tickRow now key p).pos.recoveryScore = recoveryScore _ _
      (w.actor.tickRow now key p).pos.flushLowMcap (w.actor.tickRow now key p).pos.highestMcap
    rw [hhigh, show (w.actor.tickRow now key p).pos.recoveryScore = _ from
      congrArg DecayState.recoveryScore hafter, show (w.actor.tickRow now key p).pos.flushLowMcap =
        _ from hlow, decayAfter, if_pos hon]
    exact recoveryNow_eq w.actor.config v q
  · intro hactive
    have hflush := htold.evaluated hdrop heval
      ((congrArg DecayState.flushActive hafter).symm.trans hactive)
    rw [← hlow] at hflush
    exact hflush.flush

/-- A row that rises to 40 SOL and falls back to 31, over three ticks with a tape. -/
def flushedRow : List Event :=
  tapedRow ++ snapshotComes quietSnapshot ++ mcapTo 40 ++ tickAt 10 ++ mcapTo 31 ++ tickAt 11 ++
    mcapTo (61 / 2) ++ tickAt 12

/-- Settings without a median over market-cap samples. -/
def flushConfig (drop : ℚ) : SmartBuyConfig :=
  { exitMcapMedianTicks := 1, exitV4 := { flushDropPct := drop } }

theorem flush_tracked_flushedRow :
    ∃ (w : Diary.Kept FlushTick) (p : Position), w.row smallOrder.key = some p ∧
      (w.record smallOrder.key).map (·.mcap) = [61 / 2, 31, 40] ∧ p.flushLowMcap = 61 / 2 ∧
      FlushOpen 18 p.flushLowMcap (w.record smallOrder.key) := by
  obtain ⟨w, hw, hcfg, h⟩ := flushDiary.reachable_of_run (flushConfig 18) flushedRow
    (fun w => (w.row smallOrder.key).any fun p : Position => decide (p.flushActive = true ∧
      (w.record smallOrder.key).map (·.mcap) = [61 / 2, 31, 40] ∧ p.flushLowMcap = 61 / 2))
    (by decide +kernel)
  have hdrop : w.actor.config.exitV4.flushDropPct = 18 := by rw [hcfg]; rfl
  obtain ⟨p, hp, h⟩ := (Option.any_eq_true _ _).mp h
  obtain ⟨hactive, hticks, hlow⟩ := of_decide_eq_true h
  have hflush := (flush_tracked hw (by rw [hdrop]; norm_num) hp).1 hactive
  exact ⟨w, p, hp, hticks, hlow, hdrop ▸ hflush⟩

/-- A drop of half a percent, and a row two thirds of a percent below its high. -/
theorem flush_near_high :
    ∃ (w : Diary.Kept FlushTick) (p : Position) (newest opening : FlushTick),
      flushDiary.notes.machine.Reachable w ∧ 0 < w.actor.config.exitV4.flushDropPct ∧
      w.row smallOrder.key = some p ∧ p.flushActive = true ∧
      w.record smallOrder.key = [newest, opening] ∧ opening.active = false ∧
      newest.active = true ∧ newest.NearHigh := by
  obtain ⟨w, hw, hcfg, h⟩ := flushDiary.reachable_of_run (flushConfig (1 / 2))
    (tapedRow ++ snapshotComes quietSnapshot ++ mcapTo (149 / 5) ++ tickAt 10 ++ tickAt 11)
    (fun w => (w.row smallOrder.key).any fun p : Position => decide (p.flushActive = true ∧
      w.record smallOrder.key = [⟨149 / 5, 30, true⟩, ⟨149 / 5, 30, false⟩]))
    (by decide +kernel)
  have hdrop : w.actor.config.exitV4.flushDropPct = 1 / 2 := by rw [hcfg]; rfl
  obtain ⟨p, hp, h⟩ := (Option.any_eq_true _ _).mp h
  obtain ⟨hactive, hticks⟩ := of_decide_eq_true h
  refine ⟨w, p, _, _, hw, hdrop ▸ one_half_pos, hp, hactive, hticks, rfl, rfl, ?_⟩
  decide +kernel

end Loggaper
