import Loggaper.Manager.Tick

/-!
# The time-kill window

Ten cues of a row vote for a strong or for a weak window. Nine of them go one way: a row with more
of what the cue measures has no fewer strong and no more weak votes. The stagnation vote does not,
since it goes to a market cap that stands still and not to one that falls.

- `timeKillWindowProfile_eq`: the window from the two counts.
- `timeKillWindow_mono`: the stronger of two rows has no shorter window, unless the weaker one falls
  while the stronger one stands still.
- `falling_outlives_flat`: two rows that differ in this only.
-/

namespace Loggaper

/-- One vote. -/
def vote (p : Prop) [Decidable p] : ℕ := if p then 1 else 0

theorem vote_le {p q : Prop} [Decidable p] [Decidable q] (h : p → q) : vote p ≤ vote q := by
  unfold vote
  by_cases hp : p
  · rw [if_pos hp, if_pos (h hp)]
  · rw [if_neg hp]
    exact Nat.zero_le _

/-- What a row shows when its window is chosen. -/
structure WindowCues where
  heldSecs : ℕ
  smart : ℕ
  buyers : ℕ
  b2s : ℚ
  velocity : ℚ
  profit : ℚ
  peakDrawdown : ℚ

def Position.windowCues (pos : Position) (profit currentMcap : ℚ) (heldSecs : ℕ) : WindowCues where
  heldSecs := heldSecs
  smart := pos.tkEntrySmart
  buyers := pos.tkEntryBuyers
  b2s := pos.tkEntryB2s
  velocity := pos.timeKillMcapVelocityPctPerSec pos.enterMcap.toFloat
  profit := profit
  peakDrawdown :=
    if pos.highestMcap > 0 then (pos.highestMcap - currentMcap) / pos.highestMcap else 0

namespace WindowCues

variable (cfg : SmartBuyConfig) (c : WindowCues)

def strong : ℕ :=
  vote (c.smart ≥ 1) + vote (c.buyers ≥ cfg.timeKillStrongMinBuyers)
    + vote (c.b2s ≥ cfg.timeKillStrongMinB2s)
    + vote (c.heldSecs ≥ 6 ∧ c.velocity ≥ cfg.timeKillVelStrong)
    + vote (c.profit ≥ cfg.timeKillEarlyGreenPct)

/-- A market cap that stands still after some seconds. -/
def Stagnant : Prop := c.heldSecs ≥ 8 ∧ |c.velocity| ≤ cfg.timeKillVelFlat

instance : Decidable (c.Stagnant cfg) := inferInstanceAs (Decidable (_ ∧ _))

def weak : ℕ :=
  vote (c.smart = 0) + vote (c.buyers > 0 ∧ c.buyers < cfg.timeKillWeakMaxBuyers)
    + vote (c.b2s > 0 ∧ c.b2s < cfg.timeKillWeakMaxB2s) + vote (c.Stagnant cfg)
    + vote (c.peakDrawdown ≥ cfg.timeKillPeakDdForWeak ∧ c.profit < cfg.timeKillMinProfitPct)

end WindowCues

section
variable (cfg : SmartBuyConfig)

/-- The clamped windows. -/
def weakWindow : ℕ := min (max cfg.timeKillWeakSecs 18) 28

def neutralWindow : ℕ := min (max cfg.timeKillNeutralSecs 20) 45

def strongWindow : ℕ := min (max cfg.timeKillStrongSecs 45) 80

/-- The window that two counts of votes choose. -/
def windowOf (strong weak : ℕ) : ℕ :=
  if strong ≥ 4 ∧ weak ≤ 1 then strongWindow cfg
  else if weak ≥ 3 ∧ strong ≤ 1 then weakWindow cfg
  else neutralWindow cfg

/-- **The window from the votes.** -/
theorem timeKillWindowProfile_eq (pos : Position) (profit currentMcap : ℚ) (heldSecs : ℕ) :
    (timeKillWindowProfile cfg pos profit currentMcap heldSecs).1 =
      if cfg.timeKillAdaptive then
        let cues := pos.windowCues profit currentMcap heldSecs
        windowOf cfg (cues.strong cfg) (cues.weak cfg)
      else cfg.timeKillSecs := by
  unfold timeKillWindowProfile
  by_cases hadaptive : cfg.timeKillAdaptive
  · simp only [hadaptive, not_true_eq_false, if_false, if_true]
    show (if (Position.windowCues pos profit currentMcap heldSecs).strong cfg ≥ 4 ∧
        (Position.windowCues pos profit currentMcap heldSecs).weak cfg ≤ 1 then _
      else if _ then _ else _ : ℕ × String).1 = _
    unfold windowOf
    by_cases hstrong : (Position.windowCues pos profit currentMcap heldSecs).strong cfg ≥ 4 ∧
        (Position.windowCues pos profit currentMcap heldSecs).weak cfg ≤ 1
    · rw [if_pos hstrong, if_pos hstrong]
      rfl
    · rw [if_neg hstrong, if_neg hstrong]
      by_cases hweak : (Position.windowCues pos profit currentMcap heldSecs).weak cfg ≥ 3 ∧
          (Position.windowCues pos profit currentMcap heldSecs).strong cfg ≤ 1
      · rw [if_pos hweak]
        exact congrArg Prod.fst (if_pos hweak)
      · rw [if_neg hweak]
        exact congrArg Prod.fst (if_neg hweak)
  · simp [hadaptive]

end

/-! ## Stronger rows -/

/-- The second row is held as long and shows at least as much of every cue. -/
structure WindowCues.Stronger (c c' : WindowCues) : Prop where
  heldSecs : c'.heldSecs = c.heldSecs
  smart : c.smart ≤ c'.smart
  buyers : c.buyers ≤ c'.buyers
  b2s : c.b2s ≤ c'.b2s
  velocity : c.velocity ≤ c'.velocity
  profit : c.profit ≤ c'.profit
  peakDrawdown : c'.peakDrawdown ≤ c.peakDrawdown

namespace WindowCues.Stronger

variable {cfg : SmartBuyConfig} {c c' : WindowCues}

theorem strong_le (h : c.Stronger c') : c.strong cfg ≤ c'.strong cfg := by
  unfold strong
  have hsmart : vote (c.smart ≥ 1) ≤ vote (c'.smart ≥ 1) :=
    vote_le fun hc => le_trans hc h.smart
  have hbuyers : vote (c.buyers ≥ cfg.timeKillStrongMinBuyers) ≤
      vote (c'.buyers ≥ cfg.timeKillStrongMinBuyers) :=
    vote_le fun hc => le_trans hc h.buyers
  have hb2s : vote (c.b2s ≥ cfg.timeKillStrongMinB2s) ≤ vote (c'.b2s ≥ cfg.timeKillStrongMinB2s) :=
    vote_le fun hc => le_trans hc h.b2s
  have hvelocity : vote (c.heldSecs ≥ 6 ∧ c.velocity ≥ cfg.timeKillVelStrong) ≤
      vote (c'.heldSecs ≥ 6 ∧ c'.velocity ≥ cfg.timeKillVelStrong) :=
    vote_le fun hc => ⟨h.heldSecs ▸ hc.1, le_trans hc.2 h.velocity⟩
  have hprofit : vote (c.profit ≥ cfg.timeKillEarlyGreenPct) ≤
      vote (c'.profit ≥ cfg.timeKillEarlyGreenPct) :=
    vote_le fun hc => le_trans hc h.profit
  omega

/-- Where the stagnation vote goes the same way as the others. -/
theorem weak_le (h : c.Stronger c') (hbuyers : 0 < c.buyers) (hb2s : 0 < c.b2s)
    (hstagnant : c'.Stagnant cfg → c.Stagnant cfg) : c'.weak cfg ≤ c.weak cfg := by
  unfold weak
  have hsmart : vote (c'.smart = 0) ≤ vote (c.smart = 0) :=
    vote_le fun hc => Nat.le_zero.mp (hc ▸ h.smart)
  have hbuyers' : vote (c'.buyers > 0 ∧ c'.buyers < cfg.timeKillWeakMaxBuyers) ≤
      vote (c.buyers > 0 ∧ c.buyers < cfg.timeKillWeakMaxBuyers) :=
    vote_le fun hc => ⟨hbuyers, h.buyers.trans_lt hc.2⟩
  have hb2s' : vote (c'.b2s > 0 ∧ c'.b2s < cfg.timeKillWeakMaxB2s) ≤
      vote (c.b2s > 0 ∧ c.b2s < cfg.timeKillWeakMaxB2s) :=
    vote_le fun hc => ⟨hb2s, h.b2s.trans_lt hc.2⟩
  have hstagnant' : vote (c'.Stagnant cfg) ≤ vote (c.Stagnant cfg) := vote_le hstagnant
  have hdrawdown :
      vote (c'.peakDrawdown ≥ cfg.timeKillPeakDdForWeak ∧ c'.profit < cfg.timeKillMinProfitPct) ≤
      vote (c.peakDrawdown ≥ cfg.timeKillPeakDdForWeak ∧ c.profit < cfg.timeKillMinProfitPct) :=
    vote_le fun hc => ⟨le_trans hc.1 h.peakDrawdown, h.profit.trans_lt hc.2⟩
  omega

/-- A row that does not fall out of the flat band is stagnant when the stronger one is. -/
theorem stagnant (h : c.Stronger c') (hband : ¬ c.velocity < -cfg.timeKillVelFlat)
    (hc : c'.Stagnant cfg) : c.Stagnant cfg := by
  obtain ⟨hheld, hvelocity⟩ := hc
  rw [abs_le] at hvelocity
  refine ⟨h.heldSecs ▸ hheld, abs_le.mpr ⟨not_lt.mp hband, h.velocity.trans hvelocity.2⟩⟩

end WindowCues.Stronger

theorem windowOf_mono {cfg : SmartBuyConfig} (hweak : weakWindow cfg ≤ neutralWindow cfg)
    (hstrong : neutralWindow cfg ≤ strongWindow cfg) {strong strong' weak weak' : ℕ}
    (hs : strong ≤ strong') (hw : weak' ≤ weak) :
    windowOf cfg strong weak ≤ windowOf cfg strong' weak' := by
  unfold windowOf
  split_ifs <;> omega

/-- **The stronger row has no shorter window**, unless the weaker one falls faster than
`time_kill_vel_flat` while the stronger one stands still. -/
theorem timeKillWindow_mono (cfg : SmartBuyConfig) (p p' : Position) (profit profit' mcap mcap' : ℚ)
    (heldSecs : ℕ) (hweak : weakWindow cfg ≤ neutralWindow cfg)
    (hstrong : neutralWindow cfg ≤ strongWindow cfg) (hbuyers : 0 < p.tkEntryBuyers)
    (hb2s : 0 < p.tkEntryB2s)
    (h : (p.windowCues profit mcap heldSecs).Stronger (p'.windowCues profit' mcap' heldSecs))
    (hfall : ¬ ((p.windowCues profit mcap heldSecs).velocity < -cfg.timeKillVelFlat ∧
      (p'.windowCues profit' mcap' heldSecs).Stagnant cfg)) :
    (timeKillWindowProfile cfg p profit mcap heldSecs).1 ≤
      (timeKillWindowProfile cfg p' profit' mcap' heldSecs).1 := by
  rw [timeKillWindowProfile_eq, timeKillWindowProfile_eq]
  by_cases hadaptive : cfg.timeKillAdaptive
  · simp only [hadaptive, if_true]
    refine windowOf_mono hweak hstrong h.strong_le (h.weak_le hbuyers hb2s fun hc => ?_)
    exact h.stagnant (fun hfalls => hfall ⟨hfalls, hc⟩) hc
  · simp only [hadaptive, Bool.false_eq_true, if_false]
    exact le_rfl

/-! ## A falling row -/

/-- A row of 20 buyers and no smart wallet, entered at 30 SOL, that has come to 48 SOL from this
market cap in the last second. -/
def movingRow (prevMcap : ℚ) : Position :=
  { Position.new "wallet_1" ⟨1, .fromFloatNative 30⟩ (.fromFloatNative 1000) 0 none with
    highestMcap := 60, tkEntryBuyers := 20, tkEntryB2s := 4
    tkPrevSecs := 9, tkPrevMcap := prevMcap, tkLastSecs := 10, tkLastMcap := 48 }

/-- A fifth of the market cap lost in a second is 32 seconds, standing still is 22. -/
theorem falling_outlives_flat :
    ∃ (p p' : Position) (profit profit' mcap mcap' : ℚ) (heldSecs : ℕ),
      weakWindow {} ≤ neutralWindow {} ∧ neutralWindow {} ≤ strongWindow {} ∧
      p.tkEntryBuyers ≠ 0 ∧ p.tkEntryB2s ≠ 0 ∧ p'.tkEntryBuyers ≠ 0 ∧ p'.tkEntryB2s ≠ 0 ∧
      (p.windowCues profit mcap heldSecs).Stronger (p'.windowCues profit' mcap' heldSecs) ∧
      (p.windowCues profit mcap heldSecs).velocity = -40 ∧
      (p'.windowCues profit' mcap' heldSecs).velocity = 0 ∧
      (timeKillWindowProfile {} p profit mcap heldSecs).1 = 32 ∧
      (timeKillWindowProfile {} p' profit' mcap' heldSecs).1 = 22 := by
  refine ⟨movingRow 60, movingRow 48, 60, 60, 48, 48, 10, by decide, by decide, by decide,
    by decide, by decide, by decide, ?_, by decide +kernel, by decide +kernel, ?_, ?_⟩
  · constructor <;> decide +kernel
  · decide +kernel
  · decide +kernel

theorem timeKillWindow_mono_movingRow :
    (timeKillWindowProfile {} (movingRow 48) 60 48 10).1 ≤
      (timeKillWindowProfile {} (movingRow 40) 60 48 10).1 :=
  timeKillWindow_mono {} (movingRow 48) (movingRow 40) 60 60 48 48 10 (by decide) (by decide)
    (by decide) (by decide) (by constructor <;> decide +kernel) (by decide +kernel)

end Loggaper
