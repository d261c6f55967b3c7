import Loggaper.Manager.Holdings
import Loggaper.Manager.Protection
import Loggaper.Manager.RowHistory

/-!
# The take-profit ladder

The thresholds in force come from the profile and the phase of the moment, and change from tick to
tick. A level fires only where no level before it in the tick did, so under ascending thresholds a
level that fires has every lower one behind it, whenever that one fired and under whichever profile.

- `Ladder`: a triggered level has all the lower ones triggered.
- `levelDiary`: the levels that have queued a sell since the row was opened.
- `takeProfit_ladder`: every run.
-/

namespace Loggaper

def TpLevel.rank : TpLevel → ℕ
  | .tp1 => 1
  | .tp2 => 2
  | .tp3 => 3
  | .tp4 => 4
  | .tp5 => 5

theorem TpLevel.eq_of_rank {m n : TpLevel} (h : m.rank = n.rank) : m = n := by
  cases m <;> cases n <;> first | rfl | cases h

/-- A higher level does not fire at a lower profit. -/
def ExitTpProfile.Ascending (p : ExitTpProfile) : Prop :=
  ∀ m n : TpLevel, m.rank ≤ n.rank → p.pct m ≤ p.pct n

/-- Every profile that the settings can put in force is ascending. -/
structure SmartBuyConfig.Ascending (cfg : SmartBuyConfig) : Prop where
  profiles : cfg.exitV4.enabled = true → ∀ e, (cfg.exitV4.profileParams e).Ascending
  plain : cfg.exitV4.enabled = false → cfg.plainProfile.Ascending

theorem ExitTpProfile.Ascending.applyPhaseToTp {p : ExitTpProfile} (h : p.Ascending)
    (phase : PositionPhase) : (applyPhaseToTp p phase).Ascending := by
  intro m n hmn
  have hsame (k : TpLevel) : (Loggaper.applyPhaseToTp p phase).pct k = p.pct k := by
    cases phase <;> cases k <;> rfl
  rw [hsame, hsame]
  exact h m n hmn

theorem SmartBuyConfig.Ascending.tpConfig {cfg : SmartBuyConfig} (h : cfg.Ascending)
    (p : Position) : (tpConfig cfg p).Ascending := by
  unfold Loggaper.tpConfig
  split_ifs with hv4
  · exact (h.profiles hv4 _).applyPhaseToTp _
  · exact h.plain (by simpa using hv4)

/-! ## The levels of one tick -/

section
variable (cfg : SmartBuyConfig) (v : TickView)

/-- A level fires at its threshold; where it does not fire, it has fired or the profit is lower. -/
theorem exitTakeProfit_cases (n : TpLevel) (p : Position) :
    (∃ q a, exitTakeProfit cfg n v p = .stop q (some a) ∧
      a.reason.stage = some (.takeProfit n) ∧ (tpConfig cfg p).pct n ≤ v.profit) ∨
      (exitTakeProfit cfg n v p = .next p ∧
        ((tpConfig cfg p).pct n ≤ v.profit → p.tpTriggered n = true)) := by
  unfold exitTakeProfit
  dsimp only
  by_cases hfires : v.profit ≥ (tpConfig cfg p).pct n ∧ ¬ p.tpTriggered n = true
  · rw [if_pos hfires]
    exact .inl ⟨_, _, rfl, rfl, hfires.1⟩
  · rw [if_neg hfires]
    refine .inr ⟨rfl, fun hprofit => ?_⟩
    by_contra htriggered
    exact hfires ⟨hprofit, htriggered⟩

/-- **The level that fires** in a tick has every lower one triggered. -/
theorem takeProfits_fires {p : Position} (hcfg : (tpConfig cfg p).Ascending)
    (levels : List TpLevel) (hsorted : levels.Pairwise fun m n => m.rank < n.rank) {n : TpLevel}
    (h : (runStages cfg v (levels.map .takeProfit) p).stoppedBy = some (.takeProfit n)) :
    (tpConfig cfg p).pct n ≤ v.profit ∧ n ∈ levels ∧
      ∀ m ∈ levels, m.rank < n.rank → p.tpTriggered m = true := by
  induction levels with
  | nil => cases h
  | cons k levels ih =>
    obtain ⟨hfirst, hrest⟩ := List.pairwise_cons.mp hsorted
    rw [List.map_cons, runStages, runStage] at h
    rcases exitTakeProfit_cases cfg v k p with ⟨q, a, hstop, hstage, hprofit⟩ | ⟨hnext, hkept⟩
    · rw [hstop] at h
      have hk : n = k := by
        have hsame : a.reason.stage = some (.takeProfit n) := h
        rw [hstage] at hsame
        cases hsame
        rfl
      subst hk
      refine ⟨hprofit, List.mem_cons_self, fun m hm hlt => ?_⟩
      rcases List.mem_cons.mp hm with rfl | hm
      · exact absurd hlt (lt_irrefl _)
      · exact absurd (hfirst m hm) hlt.asymm
    · rw [hnext] at h
      obtain ⟨hprofit, hmem, hlower⟩ := ih hrest h
      refine ⟨hprofit, List.mem_cons_of_mem k hmem, fun m hm hlt => ?_⟩
      rcases List.mem_cons.mp hm with rfl | hm
      · exact hkept ((hcfg m n hlt.le).trans hprofit)
      · exact hlower m hm hlt

/-- The stages before the protection is upgraded go on with the flags of the row. -/
theorem stageSpec_exitsBeforeProtection (p : Position) :
    StageSpec cfg p (exitsBeforeProtection cfg v p) := by
  unfold exitsBeforeProtection
  refine (stageSpec_exitMomentumDecay cfg v p).bind fun p₁ _ _ => ?_
  refine (stageSpec_exitTimeKill cfg v p₁).bind fun p₂ _ _ => ?_
  refine (stageSpec_exitStopLoss cfg v p₂).bind fun p₃ _ _ => ?_
  refine (stageSpec_exitMcapCeiling cfg v p₃).bind fun p₄ _ _ => ?_
  exact stageSpec_exitTrailing cfg v p₄

theorem runExits_fires {p : Position} (hcfg : cfg.Ascending) {n : TpLevel}
    (h : (runExits cfg v p).stoppedBy = some (.takeProfit n)) {m : TpLevel}
    (hlt : m.rank < n.rank) : p.triggered (.tp m) = true := by
  rw [runExits_eq_protection] at h
  have hstage := stageSpec_exitsBeforeProtection cfg v p
  have hwrite := stagesWrite_runStages cfg v p
    [.momentumDecay, .timeKill, .stopLoss, .mcapCeiling, .trailing]
  rw [← exitsBeforeProtection_eq] at hwrite
  revert h hstage hwrite
  generalize exitsBeforeProtection cfg v p = f
  intro h hstage hwrite
  cases f with
  | stop q a => exact absurd (hwrite.mem_of_stoppedBy h) (by simp)
  | next q =>
    have hrow : SameRow p (upgradeProtection cfg v q) :=
      SameRow.trans hstage (sameRow_upgradeProtection cfg v q)
    have hlevels : (runStages cfg v ([TpLevel.tp1, .tp2, .tp3, .tp4, .tp5].map .takeProfit)
        (upgradeProtection cfg v q)).stoppedBy = some (.takeProfit n) := by
      rw [Flow.bind, exitsAfterProtection_eq, runStages, runStage] at h
      unfold skipWhilePartialPending at h
      split_ifs at h
      · cases h
      · exact h
    obtain ⟨-, -, hlower⟩ := takeProfits_fires cfg v (hcfg.tpConfig _) _ (by decide) hlevels
    have htriggered := hlower m (by cases m <;> decide) hlt
    rw [← hrow.triggered]
    exact htriggered

end

/-- The level for which a tick queues a sell. -/
def tickLevel (r : TickResult) : Option SellLevel := r.action.bind (·.reason.level)

theorem tick_fires {cfg : SmartBuyConfig} {p : Position} (hcfg : cfg.Ascending) (mint : Address)
    (hasRpc : Bool) (now : ℕ) {n : TpLevel}
    (h : tickLevel (tickPosition cfg mint hasRpc now p) = some (.tp n)) {m : TpLevel}
    (hlt : m.rank < n.rank) : p.triggered (.tp m) = true := by
  unfold tickLevel tickPosition at h
  split_ifs at h
  · cases h
  · obtain ⟨a, ha, hlevel⟩ := Option.bind_eq_some_iff.mp h
    rw [← (prepared_prepareRow cfg p mint hasRpc now).sameRow.triggered]
    exact runExits_fires cfg _ hcfg
      (Option.bind_eq_some_iff.mpr ⟨a, ha, SellReason.stage_of_level hlevel⟩) hlt

/-! ## Levels beside the run -/

/-- A triggered level has all the lower ones triggered. -/
def Ladder (triggered : SellLevel → Bool) : Prop :=
  ∀ m n : TpLevel, m.rank ≤ n.rank → triggered (.tp n) = true → triggered (.tp m) = true

/-- The levels for which the ticks of a row queue a sell. -/
def levelDiary : Diary SellLevel where
  tick m now key p := tickLevel (m.tickRow now key p)
  live _ _ _ _ := none

/-- The levels that have fired are triggered, and each has fired once. -/
structure LevelsTold (levels : List SellLevel) (triggered : SellLevel → Bool) : Prop where
  nodup : levels.Nodup
  triggered : ∀ l ∈ levels, triggered l = true

theorem LevelsTold.tick {cfg : SmartBuyConfig} {levels : List SellLevel} {p : Position}
    (h : LevelsTold levels p.triggered) (mint : Address) (hasRpc : Bool) (now : ℕ) :
    let r := tickPosition cfg mint hasRpc now p
    LevelsTold ((tickLevel r).toList ++ levels) r.pos.triggered := by
  have hspec := tickPosition_spec cfg mint hasRpc now p
  dsimp only [tickLevel]
  generalize tickPosition cfg mint hasRpc now p = r at *
  obtain ⟨q, a, poll⟩ := r
  dsimp only at hspec ⊢
  cases hspec with
  | quiet hsame =>
    rw [hsame.triggered]
    exact h
  | close hbooks hflags hlevel =>
    have hsame : q.triggered = p.triggered := congrArg SellFlags.triggered hflags
    simp only [Option.bind_some, hlevel, hsame]
    exact h
  | lockIn l hbooks hflags hlevel hpending hfresh hpct =>
    have hset : q.triggered = Function.update p.triggered l true :=
      congrArg SellFlags.triggered hflags
    simp only [Option.bind_some, hlevel, hset]
    constructor
    · refine List.nodup_cons.mpr ⟨fun hmem => ?_, h.nodup⟩
      rw [h.triggered l hmem] at hfresh
      cases hfresh
    · intro l' hl'
      by_cases heq : l' = l
      · rw [heq, Function.update_self]
      · rw [Function.update_of_ne heq]
        rcases List.mem_cons.mp hl' with hhead | htail
        · exact absurd hhead heq
        · exact h.triggered l' htail

theorem Ladder.tick {cfg : SmartBuyConfig} (hcfg : cfg.Ascending) {p : Position}
    (h : Ladder p.triggered) (mint : Address) (hasRpc : Bool) (now : ℕ) :
    Ladder (tickPosition cfg mint hasRpc now p).pos.triggered := by
  have hspec := tickPosition_spec cfg mint hasRpc now p
  have hfires := fun n m => tick_fires (p := p) hcfg mint hasRpc now (n := n) (m := m)
  revert hspec hfires
  generalize tickPosition cfg mint hasRpc now p = r
  obtain ⟨q, a, poll⟩ := r
  dsimp only [tickLevel]
  intro hspec hfires
  cases hspec with
  | quiet hsame =>
    rw [hsame.triggered]
    exact h
  | close hbooks hflags hlevel =>
    rw [show q.triggered = p.triggered from congrArg SellFlags.triggered hflags]
    exact h
  | lockIn l hbooks hflags hlevel hpending hfresh hpct =>
    rw [show q.triggered = Function.update p.triggered l true from
      congrArg SellFlags.triggered hflags]
    intro m n hmn hn
    by_cases hm : SellLevel.tp m = l
    · rw [hm, Function.update_self]
    rw [Function.update_of_ne hm]
    by_cases hnl : SellLevel.tp n = l
    · subst hnl
      refine hfires n m hlevel (lt_of_le_of_ne hmn fun hrank => hm ?_)
      rw [TpLevel.eq_of_rank hrank]
    · rw [Function.update_of_ne hnl] at hn
      exact h m n hmn hn

/-- A row opens with no level triggered. -/
theorem triggered_opened (cfg : SmartBuyConfig) (order : BuyOrder) (pool : Pool) (r : BuyReceipt)
    (now : ℕ) (l : SellLevel) :
    (PositionManagerActor.openedPosition cfg order pool r now).triggered l = false := by
  obtain ⟨mcap, hmem⟩ := PositionManagerActor.openedPosition_memory cfg order pool r now
  exact congrFun (congrArg RowMemory.triggered hmem) l

section
variable {w : Diary.Kept SellLevel} {key : PositionKey} {p : Position}

theorem ladder_of_reachable (h : levelDiary.notes.machine.Reachable w)
    (hcfg : w.actor.config.Ascending) (hp : w.row key = some p) : Ladder p.triggered := by
  have hkeeps : levelDiary.Keeps fun cfg _ r => cfg.Ascending → Ladder r.triggered := by
    constructor
    · intro cfg order pool r now _ m n _ hn
      exact absurd hn (Bool.eq_false_iff.mp (triggered_opened cfg order pool r now (.tp n)))
    · intro m now key levels p hkept hcfg
      exact (hkept hcfg).tick hcfg key.mint m.hasRpc now
    · intro m env live levels p hkept
      exact hkept
  exact Diary.history hkeeps h hp hcfg

theorem levelsTold_of_reachable (h : levelDiary.notes.machine.Reachable w)
    (hp : w.row key = some p) : LevelsTold (w.record key) p.triggered := by
  have hkeeps : levelDiary.Keeps fun _ levels r => LevelsTold levels r.triggered := by
    constructor
    · intro cfg order pool r now
      exact ⟨List.nodup_nil, fun l hl => absurd hl List.not_mem_nil⟩
    · intro m now key levels p hkept
      exact hkept.tick key.mint m.hasRpc now
    · intro m env live levels p hkept
      exact hkept
  exact Diary.history hkeeps h hp

/-- **The take-profit ladder.** On every run under ascending thresholds and for every row: a
triggered level has all the lower ones triggered, no level has queued a second sell since the row
was opened or will queue one at the next tick, and a tick queues at most one sell. -/
theorem takeProfit_ladder (h : levelDiary.notes.machine.Reachable w)
    (hcfg : w.actor.config.Ascending) (hp : w.row key = some p) :
    Ladder p.triggered ∧ (w.record key).Nodup ∧
      ∀ env, ((tickLevel (w.actor.tickRow (env.clock 0) key p)).toList ++ w.record key).Nodup ∧
        ((queuedSells key).ofTasks (w.actor.tick env).spawned).card ≤ 1 := by
  have htold := levelsTold_of_reachable h hp
  refine ⟨ladder_of_reachable h hcfg hp, htold.nodup,
    fun env => ⟨(htold.tick key.mint _ _).nodup, ?_⟩⟩
  rw [PositionManagerActor.queuedSells_tick,
    show AList.lookup key w.actor.positions = some p from hp]
  show Multiset.card (Option.elim (Option.map _ (w.actor.tickRow (env.clock 0) key p).action) 0
    fun x => {x}) ≤ 1
  cases (w.actor.tickRow (env.clock 0) key p).action with
  | none => simp
  | some a => simp

end

def climbingConfig : SmartBuyConfig := { exitMcapMedianTicks := 1 }

theorem climbing_ascending : climbingConfig.Ascending := by
  constructor
  · intro _ e m n hmn
    cases e <;> cases m <;> cases n <;> first | decide +kernel | exact absurd hmn (by decide)
  · intro _ m n hmn
    cases m <;> cases n <;> first | decide +kernel | exact absurd hmn (by decide)

/-- The first level fires and is sold, then the second one. -/
def climbingRow : List Event :=
  oneFill ++ [turn] ++ mcapTo 40 ++ tickAt 1 ++ [.resume 0 .go, turn] ++ mcapTo 50 ++ tickAt 2

theorem takeProfit_ladder_climbingRow :
    ∃ (w : Diary.Kept SellLevel) (p : Position),
      w.record smallOrder.key = [.tp .tp2, .tp .tp1] ∧ Ladder p.triggered ∧
      (w.record smallOrder.key).Nodup := by
  obtain ⟨w, hw, hcfg, h⟩ := levelDiary.reachable_of_run climbingConfig climbingRow
    (fun w => (w.row smallOrder.key).any fun _ : Position => decide (
      w.record smallOrder.key = [.tp .tp2, .tp .tp1]))
    (by decide +kernel)
  obtain ⟨p, hp, h⟩ := (Option.any_eq_true _ _).mp h
  have hladder := takeProfit_ladder hw (hcfg ▸ climbing_ascending) hp
  exact ⟨w, p, of_decide_eq_true h, hladder.1, hladder.2.1⟩

end Loggaper
