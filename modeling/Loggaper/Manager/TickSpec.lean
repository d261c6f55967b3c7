import Loggaper.Manager.Stages

/-!
# What one tick can do to a row

The exits read the tape, the clock and the configuration in many ways, but they can change the
sell flags of a row in three ways only. Every invariant about queued sells is derived from this.

- `TickSpec`: nothing, one full close, or the partial sell of one level.
- `tickPosition_spec`: every turn of every row meets it.
-/

namespace Loggaper

/-- The fields that only fills and sells write. -/
structure Books where
  walletId : String
  pool : Pool
  initialHoldings : Amount
  holdings : Amount
  enterMcap : Amount
  entryTime : ℕ
  totalReturned : ℚ
  spentSol : ℚ
  devAddress : Option Address
  earlyBuyers : List Address
  learningSnapshot : Option LearningTradeSnapshot

def Position.books (pos : Position) : Books where
  walletId := pos.walletId
  pool := pos.pool
  initialHoldings := pos.initialHoldings
  holdings := pos.holdings
  enterMcap := pos.enterMcap
  entryTime := pos.entryTime
  totalReturned := pos.totalReturned
  spentSol := pos.spentSol
  devAddress := pos.devAddress
  earlyBuyers := pos.earlyBuyers
  learningSnapshot := pos.learningSnapshot

/-- The flags that say which sells are out. -/
structure SellFlags where
  isClosing : Bool
  pendingPartialSell : Bool
  triggered : SellLevel → Bool

def Position.flags (pos : Position) : SellFlags :=
  ⟨pos.isClosing, pos.pendingPartialSell, pos.triggered⟩

/-- A full close is queued. -/
def SellFlags.close (f : SellFlags) : SellFlags := { f with isClosing := true }

/-- The partial sell of a level is queued. -/
def SellFlags.lockIn (f : SellFlags) (l : SellLevel) : SellFlags :=
  { f with pendingPartialSell := true, triggered := Function.update f.triggered l true }

/-- Neither the books nor the flags change. -/
structure SameRow (p q : Position) : Prop where
  books : q.books = p.books
  flags : q.flags = p.flags

namespace SameRow

variable {p q r : Position}

theorem refl (p : Position) : SameRow p p := ⟨rfl, rfl⟩

theorem trans (h₁ : SameRow p q) (h₂ : SameRow q r) : SameRow p r :=
  ⟨h₂.books.trans h₁.books, h₂.flags.trans h₁.flags⟩

theorem pendingPartialSell (h : SameRow p q) : q.pendingPartialSell = p.pendingPartialSell :=
  congrArg SellFlags.pendingPartialSell h.flags

theorem triggered (h : SameRow p q) : q.triggered = p.triggered :=
  congrArg SellFlags.triggered h.flags

end SameRow

variable (cfg : SmartBuyConfig)

/-- **What a turn can do.** It leaves books and flags alone, or it queues a full close, or it
queues the partial sell of a level that was not triggered while no partial sell was pending. -/
inductive TickSpec (p : Position) : Position → Option SellAction → Prop
  | quiet {q : Position} : SameRow p q → TickSpec p q none
  | close {q : Position} {r : SellReason} {urgent : Bool} :
      q.books = p.books → q.flags = p.flags.close → r.level = none →
      TickSpec p q (some ⟨100, r, urgent⟩)
  | lockIn {q : Position} {r : SellReason} {pct : ℚ} (l : SellLevel) :
      q.books = p.books → q.flags = p.flags.lockIn l → r.level = some l →
      p.pendingPartialSell = false → p.triggered l = false → (cfg.PartialLevels → pct < 100) →
      TickSpec p q (some ⟨pct, r, false⟩)

theorem TickSpec.books {cfg : SmartBuyConfig} {p q : Position} {a : Option SellAction}
    (h : TickSpec cfg p q a) : q.books = p.books := by
  cases h with
  | quiet hsame => exact hsame.books
  | close hbooks _ _ => exact hbooks
  | lockIn _ hbooks _ _ _ _ _ => exact hbooks

theorem TickSpec.of_sameRow {cfg : SmartBuyConfig} {p p' q : Position} {a : Option SellAction}
    (hp : SameRow p p') (h : TickSpec cfg p' q a) : TickSpec cfg p q a := by
  cases h with
  | quiet hq => exact .quiet (hp.trans hq)
  | close hb hf hr => exact .close (hb.trans hp.books) (by rw [hf, hp.flags]) hr
  | lockIn l hb hf hr hpend htrig hpct =>
    refine .lockIn l (hb.trans hp.books) (by rw [hf, hp.flags]) hr ?_ ?_ hpct
    · rw [← hp.pendingPartialSell, hpend]
    · rw [← hp.triggered, htrig]

/-- A stage that goes on has changed neither books nor flags; one that stops meets `TickSpec`. -/
def StageSpec (p : Position) : Flow → Prop
  | .next q => SameRow p q
  | .stop q a => TickSpec cfg p q a

theorem StageSpec.bind {cfg : SmartBuyConfig} {p : Position} {f : Flow} {g : Position → Flow}
    (hf : StageSpec cfg p f) (hg : ∀ q, f = .next q → SameRow p q → StageSpec cfg q (g q)) :
    StageSpec cfg p (f.bind g) := by
  cases f with
  | stop q a => exact hf
  | next q =>
    have hq : SameRow p q := hf
    have hgq := hg q rfl hq
    rw [Flow.bind]
    revert hgq
    cases g q with
    | next r => exact fun h => hq.trans h
    | stop r a => exact fun h => h.of_sameRow hq

theorem StageSpec.tickSpec {cfg : SmartBuyConfig} {p : Position} {f : Flow}
    (h : StageSpec cfg p f) : TickSpec cfg p f.pos f.action := by
  cases f with
  | next q => exact .quiet h
  | stop q a => exact h

/-! ## The stages -/

/-- The part before the exits changes neither. -/
theorem Prepared.sameRow {p q : Position} (h : Prepared p q) : SameRow p q :=
  ⟨h.view fun _ _ => rfl, h.view fun _ _ => rfl⟩

theorem sameRow_trackDecay (v : TickView) (p : Position) : SameRow p (trackDecay cfg v p) := by
  have hflush : SameRow p (trackFlush cfg v p) := by
    simp only [trackFlush]
    split_ifs <;> exact ⟨rfl, rfl⟩
  exact hflush.trans ⟨rfl, rfl⟩

theorem sameRow_upgradeProtection (v : TickView) (p : Position) :
    SameRow p (upgradeProtection cfg v p) := by
  simp only [upgradeProtection]
  split_ifs <;> exact ⟨rfl, rfl⟩

theorem stageSpec_exitMomentumDecay (v : TickView) (p : Position) :
    StageSpec cfg p (exitMomentumDecay cfg v p) := by
  have h := sameRow_trackDecay cfg v p
  simp only [exitMomentumDecay]
  split
  · split
    · exact TickSpec.of_sameRow h (TickSpec.close rfl rfl rfl)
    · exact h
  · exact SameRow.refl p

theorem stageSpec_exitTimeKill (v : TickView) (p : Position) :
    StageSpec cfg p (exitTimeKill cfg v p) := by
  simp only [exitTimeKill]
  split
  · exact TickSpec.close rfl rfl rfl
  · exact SameRow.refl p

theorem stageSpec_exitStopLoss (v : TickView) (p : Position) :
    StageSpec cfg p (exitStopLoss cfg v p) := by
  simp only [exitStopLoss]
  split
  · exact TickSpec.close rfl rfl rfl
  · split
    · exact TickSpec.close rfl rfl rfl
    · exact SameRow.mk rfl rfl

theorem stageSpec_exitMcapCeiling (v : TickView) (p : Position) :
    StageSpec cfg p (exitMcapCeiling cfg v p) := by
  simp only [exitMcapCeiling]
  split
  · rename_i h
    refine TickSpec.lockIn .ceiling rfl ?_ rfl (by simpa using h.2.2.2)
      (by simpa [Position.triggered] using h.2.2.1) ?_
    · simp only [Position.flags, SellFlags.lockIn, SellFlags.mk.injEq, true_and]
      funext l
      cases l with
      | ceiling => rfl
      | tp n => cases n <;> rfl
    · intro _
      exact (min_le_right _ _).trans_lt (by norm_num)
  · exact SameRow.refl p

theorem stageSpec_exitTrailing (v : TickView) (p : Position) :
    StageSpec cfg p (exitTrailing cfg v p) := by
  simp only [exitTrailing]
  split
  · exact TickSpec.close rfl rfl rfl
  · exact SameRow.refl p

theorem tpConfig_partial {cfg : SmartBuyConfig} (h : cfg.PartialLevels) (p : Position) :
    (tpConfig cfg p).Partial := by
  unfold tpConfig
  split_ifs
  · exact (h.profileParams _).applyPhaseToTp _
  · exact h.plain

theorem tpSellPct_lt {cfg : SmartBuyConfig} (h : cfg.PartialLevels) (p : Position) (n : TpLevel) :
    tpSellPct cfg p n < 100 := by
  have ht := tpConfig_partial h p
  have hbase : (tpConfig cfg p).sellPct n < 100 := by
    cases n with
    | tp1 => exact ht.tp1
    | tp2 => exact ht.tp2
    | tp3 => exact ht.tp3
    | tp4 => exact ht.tp4
    | tp5 => exact ht.tp5
  unfold tpSellPct
  split_ifs
  · exact adaptiveMoonbagSellPct_lt hbase _ _
  · exact hbase

theorem flags_setTpTriggered (p : Position) (n : TpLevel) :
    Position.flags { p.setTpTriggered n with pendingPartialSell := true } =
      p.flags.lockIn (.tp n) := by
  have hc : (p.setTpTriggered n).isClosing = p.isClosing := by cases n <;> rfl
  simp only [Position.flags, SellFlags.lockIn, hc, SellFlags.mk.injEq, true_and]
  funext l
  cases l with
  | ceiling => cases n <;> rfl
  | tp m => cases n <;> cases m <;> rfl

/-- With no partial sell pending, a level fires only when it has not fired before. -/
theorem stageSpec_exitTakeProfit (n : TpLevel) (v : TickView) {p : Position}
    (hp : p.pendingPartialSell = false) : StageSpec cfg p (exitTakeProfit cfg n v p) := by
  have hbooks :
      Position.books { p.setTpTriggered n with pendingPartialSell := true } = p.books := by
    cases n <;> rfl
  simp only [exitTakeProfit]
  split
  · rename_i h
    exact TickSpec.lockIn (.tp n) hbooks (flags_setTpTriggered p n) rfl hp
      (by simpa [Position.triggered] using h.2) fun hcfg => tpSellPct_lt hcfg p n
  · exact SameRow.refl p

theorem stageSpec_runExits (v : TickView) (p : Position) : StageSpec cfg p (runExits cfg v p) := by
  unfold runExits
  refine (stageSpec_exitMomentumDecay cfg v p).bind fun p₁ _ _ => ?_
  refine (stageSpec_exitTimeKill cfg v p₁).bind fun p₂ _ _ => ?_
  refine (stageSpec_exitStopLoss cfg v p₂).bind fun p₃ _ _ => ?_
  refine (stageSpec_exitMcapCeiling cfg v p₃).bind fun p₄ _ _ => ?_
  refine (stageSpec_exitTrailing cfg v p₄).bind fun p₅ _ _ => ?_
  have hup := sameRow_upgradeProtection cfg v p₅
  have hskip : StageSpec cfg p₅ (skipWhilePartialPending (upgradeProtection cfg v p₅)) := by
    unfold skipWhilePartialPending
    split_ifs
    · exact .quiet hup
    · exact hup
  refine hskip.bind fun p₆ h₆ _ => ?_
  -- past the guard no partial sell is pending, and no later stage that goes on changes that
  have hp₆ : p₆.pendingPartialSell = false := by
    unfold skipWhilePartialPending at h₆
    split_ifs at h₆ with hpend
    cases h₆
    simpa using hpend
  refine (stageSpec_exitTakeProfit cfg .tp1 v hp₆).bind fun p₇ _ h₇ => ?_
  have hp₇ := h₇.pendingPartialSell.trans hp₆
  refine (stageSpec_exitTakeProfit cfg .tp2 v hp₇).bind fun p₈ _ h₈ => ?_
  have hp₈ := h₈.pendingPartialSell.trans hp₇
  refine (stageSpec_exitTakeProfit cfg .tp3 v hp₈).bind fun p₉ _ h₉ => ?_
  have hp₉ := h₉.pendingPartialSell.trans hp₈
  refine (stageSpec_exitTakeProfit cfg .tp4 v hp₉).bind fun p₁₀ _ h₁₀ => ?_
  exact stageSpec_exitTakeProfit cfg .tp5 v (h₁₀.pendingPartialSell.trans hp₉)

/-- A closing row is left as it is. -/
theorem tickPosition_closing (mint : Address) (hasRpc : Bool) (now : ℕ) {p : Position}
    (h : p.isClosing = true) : tickPosition cfg mint hasRpc now p = ⟨p, none, none⟩ := by
  simp [tickPosition, h]

/-- **One turn.** Whatever the configuration, the clock and the tape, the turn of a row meets
`TickSpec`. -/
theorem tickPosition_spec (mint : Address) (hasRpc : Bool) (now : ℕ) (p : Position) :
    TickSpec cfg p (tickPosition cfg mint hasRpc now p).pos
      (tickPosition cfg mint hasRpc now p).action := by
  unfold tickPosition
  split_ifs with hc
  · exact .quiet (.refl p)
  · have hrow := (prepared_prepareRow cfg p mint hasRpc now).sameRow
    exact (stageSpec_runExits cfg _ _).tickSpec.of_sameRow hrow

/-- A row that asks for a sell was not closing. -/
theorem isClosing_of_action (mint : Address) (hasRpc : Bool) (now : ℕ) {p : Position}
    {a : SellAction} (h : (tickPosition cfg mint hasRpc now p).action = some a) :
    p.isClosing = false := by
  by_contra hc
  rw [tickPosition_closing cfg mint hasRpc now (by simpa using hc)] at h
  exact absurd h (by simp)

end Loggaper
