import Loggaper.Lib.Transition
import Loggaper.Scoring.StrategyController

/-!
# The pause of the risk gate

Two rules write the end of the pause when a position closes. The regime rule moves it to a later
moment only; the loss-streak rule writes it as it comes: an earlier end, or one that is past already
where the pause is so long that the sum wraps.

- `pausedUntilUnix_notePositionClosed`: what a close makes of the end of the pause.
- `neverShortened_iff`: the sequences of operations along which no pause is cut short.
-/

namespace Loggaper

/-- What the manager asks of its risk gate. -/
inductive StrategyEvent
  | gate (currentlyOpen : UInt32)
  | opened
  | closed (pnlSol : ℚ)

namespace StrategyController

variable (c : StrategyController)

def step (c : StrategyController) : StrategyEvent × ℕ → StrategyController
  | (.gate currentlyOpen, now) => (c.canOpen currentlyOpen now).2
  | (.opened, now) => c.notePositionOpened now
  | (.closed pnlSol, now) => c.notePositionClosed pnlSol now

/-- The controller after some operations. -/
def after (es : List (StrategyEvent × ℕ)) : StrategyController := es.foldl step c

@[simp] theorem after_nil : c.after [] = c := rfl

@[simp] theorem after_append (es fs : List (StrategyEvent × ℕ)) :
    c.after (es ++ fs) = (c.after es).after fs := List.foldl_append

@[simp] theorem after_singleton (e : StrategyEvent × ℕ) : c.after [e] = c.step e := rfl

/-! ## The two rules -/

/-- A close with this result reaches the limit of the loss streak. -/
def streakPauses (pnlSol : ℚ) : Bool :=
  !decide (pnlSol > 0) && decide (c.lossStreak + 1 ≥ c.cfg.lossStreakLimit)

/-- The outcomes in the window, with a new one. -/
def outcomesWith (win : Bool) : List Bool :=
  (c.recentOutcomes ++ [win]).drop
    ((c.recentOutcomes ++ [win]).length - c.cfg.marketRegimeWindow.toNat)

/-- With this outcome too many of the last ones are losses. -/
def regimePauses (win : Bool) : Bool :=
  c.cfg.marketRegimePause &&
    decide ((c.outcomesWith win).length ≥ max c.cfg.marketRegimeWindow.toNat 1) &&
    decide (((c.outcomesWith win).countP (! ·) : ℚ) / (c.outcomesWith win).length ≥
      c.cfg.marketRegimeLossRatio)

@[simp] theorem pausedUntilUnix_rollDayIfNeeded (now : ℕ) :
    (c.rollDayIfNeeded now).pausedUntilUnix = c.pausedUntilUnix := by
  simp only [rollDayIfNeeded]
  split_ifs <;> rfl

@[simp] theorem lossStreak_rollDayIfNeeded (now : ℕ) :
    (c.rollDayIfNeeded now).lossStreak = c.lossStreak := by
  simp only [rollDayIfNeeded]
  split_ifs <;> rfl

@[simp] theorem recentOutcomes_rollDayIfNeeded (now : ℕ) :
    (c.rollDayIfNeeded now).recentOutcomes = c.recentOutcomes := by
  simp only [rollDayIfNeeded]
  split_ifs <;> rfl

@[simp] theorem pausedUntilUnix_canOpen (n : UInt32) (now : ℕ) :
    (c.canOpen n now).2.pausedUntilUnix = c.pausedUntilUnix := by
  simp only [canOpen]
  split_ifs <;> simp

@[simp] theorem pausedUntilUnix_notePositionOpened (now : ℕ) :
    (c.notePositionOpened now).pausedUntilUnix = c.pausedUntilUnix := by
  simp [notePositionOpened]

theorem pausedUntilUnix_noteRegime (win : Bool) (now : ℕ) :
    (c.noteRegime win now).pausedUntilUnix =
      if c.regimePauses win then max (wrapU64 (now + c.cfg.marketRegimePauseSecs)) c.pausedUntilUnix
      else c.pausedUntilUnix := by
  have hnote : c.noteRegime win now =
      if c.cfg.marketRegimePause ∧
          (c.outcomesWith win).length ≥ max c.cfg.marketRegimeWindow.toNat 1 then
        if ((c.outcomesWith win).countP (! ·) : ℚ) / (c.outcomesWith win).length ≥
            c.cfg.marketRegimeLossRatio then
          { c with
            recentOutcomes := c.outcomesWith win
            pausedUntilUnix := max (wrapU64 (now + c.cfg.marketRegimePauseSecs)) c.pausedUntilUnix }
        else { c with recentOutcomes := c.outcomesWith win }
      else { c with recentOutcomes := c.outcomesWith win } := rfl
  rw [hnote, regimePauses]
  generalize c.outcomesWith win = outcomes
  by_cases hfull : c.cfg.marketRegimePause ∧
      outcomes.length ≥ max c.cfg.marketRegimeWindow.toNat 1
  · by_cases hbad : (outcomes.countP (! ·) : ℚ) / outcomes.length ≥ c.cfg.marketRegimeLossRatio
    · simp [hfull.1, hfull.2, hbad]
    · simp [hfull.1, hfull.2, hbad]
  · rw [if_neg hfull]
    have hnot : (c.cfg.marketRegimePause &&
        decide (outcomes.length ≥ max c.cfg.marketRegimeWindow.toNat 1)) = false := by
      simpa using hfull
    rw [hnot]
    rfl

/-- **What a close makes of the pause**: the loss-streak rule first, then the regime rule. -/
theorem pausedUntilUnix_notePositionClosed (pnlSol : ℚ) (now : ℕ) :
    (c.notePositionClosed pnlSol now).pausedUntilUnix =
      let paused :=
        if c.streakPauses pnlSol then wrapU64 (now + c.cfg.lossStreakPauseSecs)
        else c.pausedUntilUnix
      if c.regimePauses (decide (pnlSol > 0)) then
        max (wrapU64 (now + c.cfg.marketRegimePauseSecs)) paused
      else paused := by
  have hregime (c' : StrategyController) (hcfg : c'.cfg = c.cfg)
      (hrecent : c'.recentOutcomes = c.recentOutcomes) :
      c'.regimePauses = c.regimePauses := by
    obtain ⟨cfg, day, trades, pnl, streak, paused, recent, reason⟩ := c
    obtain ⟨cfg', day', trades', pnl', streak', paused', recent', reason'⟩ := c'
    subst hcfg hrecent
    rfl
  simp only [notePositionClosed, pausedUntilUnix_noteRegime]
  by_cases hwin : pnlSol > 0
  · simp only [hwin, decide_true, if_true]
    rw [hregime _ (by simp) (by simp)]
    simp [streakPauses, hwin]
  · simp only [hwin, decide_false, Bool.false_eq_true, if_false]
    by_cases hstreak : c.lossStreak + 1 ≥ c.cfg.lossStreakLimit
    · simp only [lossStreak_rollDayIfNeeded, rollDayIfNeeded_cfg, hstreak, if_true]
      rw [hregime _ (by simp) (by simp)]
      simp [streakPauses, hwin, hstreak]
    · simp only [lossStreak_rollDayIfNeeded, rollDayIfNeeded_cfg, hstreak, if_false]
      rw [hregime _ (by simp) (by simp)]
      simp [streakPauses, hwin, hstreak]

/-! ## Pauses that are cut short -/

/-- The operation does not cut the pause short: a close that reaches the limit of the loss streak
finds no later end of the pause than its own, as the sum wraps, or than that of the regime rule, if
this one pauses too. -/
def KeepsPause : StrategyEvent × ℕ → Prop
  | (.closed pnlSol, now) => c.streakPauses pnlSol = true →
    c.pausedUntilUnix ≤ wrapU64 (now + c.cfg.lossStreakPauseSecs) ∨
      c.regimePauses false = true ∧
        c.pausedUntilUnix ≤ wrapU64 (now + c.cfg.marketRegimePauseSecs)
  | _ => True

/-- One operation leaves the end of the pause or moves it on exactly when it keeps it. -/
theorem pausedUntilUnix_le_step_iff (e : StrategyEvent × ℕ) :
    c.pausedUntilUnix ≤ (c.step e).pausedUntilUnix ↔ c.KeepsPause e := by
  obtain ⟨e, now⟩ := e
  cases e with
  | gate n => simp [step, KeepsPause]
  | opened => simp [step, KeepsPause]
  | closed pnlSol =>
    simp only [step, KeepsPause, pausedUntilUnix_notePositionClosed]
    by_cases hstreak : c.streakPauses pnlSol = true
    · have hloss : decide (pnlSol > 0) = false := by
        simp only [streakPauses, Bool.and_eq_true, Bool.not_eq_true'] at hstreak
        exact hstreak.1
      simp only [hstreak, if_true, hloss, true_implies]
      by_cases hregime : c.regimePauses false = true
      · simp only [hregime, if_true, true_and]
        rw [le_max_iff]
        exact or_comm
      · simp [hregime]
    · simp only [hstreak, Bool.false_eq_true, if_false, false_implies, iff_true]
      split_ifs
      · exact le_max_right _ _
      · exact le_rfl

/-- Along these operations the end of the pause never moves back. -/
def NeverShortened (es : List (StrategyEvent × ℕ)) : Prop :=
  ∀ pre mid, pre ++ mid <+: es →
    (c.after pre).pausedUntilUnix ≤ (c.after (pre ++ mid)).pausedUntilUnix

/-- Operations that keep the pause one by one keep it over any stretch. -/
theorem neverShortened_of_along {es : List (StrategyEvent × ℕ)}
    (h : Along (fun pre e => (c.after pre).KeepsPause e) es) : c.NeverShortened es := by
  intro pre mid hpre
  induction mid using List.reverseRecOn with
  | nil => rw [List.append_nil]
  | append_singleton mid e ih =>
    rw [← List.append_assoc] at hpre ⊢
    have hkeeps : (c.after (pre ++ mid)).KeepsPause e := h (pre ++ mid) e hpre
    have hstep := (pausedUntilUnix_le_step_iff _ _).mpr hkeeps
    refine (ih ((List.prefix_append _ _).trans hpre)).trans ?_
    rw [after_append _ (pre ++ mid), after_singleton]
    exact hstep

/-- **When no pause is shortened.** From any controller and under any configuration, a sequence of
operations never moves the end of the pause back if and only if each of its closes keeps it. -/
theorem neverShortened_iff (es : List (StrategyEvent × ℕ)) :
    c.NeverShortened es ↔ Along (fun pre e => (c.after pre).KeepsPause e) es := by
  constructor
  · intro h pre e hpre
    have hle := h pre [e] hpre
    rw [after_append, after_singleton] at hle
    exact (pausedUntilUnix_le_step_iff _ _).mp hle
  · exact c.neverShortened_of_along

/-- Ten losses make a bad regime and a pause of two hours. After three wins a streak of five losses
cuts it down to half an hour. -/
def lossesAfterRegime : List (StrategyEvent × ℕ) :=
  (List.replicate 10 (.closed (-1), 0)) ++ List.replicate 3 (.closed 1, 60) ++
    List.replicate 5 (.closed (-1), 120)

theorem pause_cut_short :
    (lossesAfterRegime.map Prod.snd).Pairwise (· ≤ ·) ∧
      ¬ (StrategyController.new { marketRegimePauseSecs := 7200 } 0).NeverShortened
        lossesAfterRegime := by
  refine ⟨by decide, fun h => ?_⟩
  have hle := h (lossesAfterRegime.take 17) (lossesAfterRegime.drop 17) (by
    rw [List.take_append_drop])
  revert hle
  decide +kernel

end StrategyController

end Loggaper
