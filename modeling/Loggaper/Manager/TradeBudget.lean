import Loggaper.Manager.Buys

/-!
# The daily trade budget

The gate asks the day's counter before it lets a signal through, and the accepted signal counts at
once. Both readings of the clock may lie on different sides of midnight, and every operation of the
controller rolls the day on its own.

- `Budget`: what the counter says about the signals accepted so far.
- `accepted_le_maxTradesPerDay`: on every run whose clock does not go back, at most
  `max_trades_per_day` signals are accepted in one UTC day.
-/

namespace Loggaper

theorem currentDay_mono {t t' : ℕ} (h : t ≤ t') : currentDay t ≤ currentDay t' := by
  simp only [currentDay]
  omega

/-! ## The counter of the day -/

namespace StrategyController

variable (c : StrategyController)

/-- Day and counter. -/
def budget : ℕ × UInt32 := (c.dayUnix, c.dailyTrades)

theorem budget_rollDayIfNeeded (now : ℕ) :
    (c.rollDayIfNeeded now).budget =
      if currentDay now = c.dayUnix then c.budget else (currentDay now, 0) := by
  unfold rollDayIfNeeded
  by_cases h : currentDay now = c.dayUnix <;> simp [h, budget]

theorem dayUnix_rollDayIfNeeded (now : ℕ) : (c.rollDayIfNeeded now).dayUnix = currentDay now := by
  simp only [rollDayIfNeeded]
  split_ifs with h
  · rfl
  · exact (not_not.mp h).symm

@[simp] theorem budget_canOpen (n : UInt32) (now : ℕ) :
    (c.canOpen n now).2.budget = (c.rollDayIfNeeded now).budget := by
  simp only [canOpen]
  split_ifs <;> rfl

@[simp] theorem budget_noteRegime (win : Bool) (now : ℕ) :
    (c.noteRegime win now).budget = c.budget := by
  simp only [noteRegime]
  split_ifs <;> rfl

@[simp] theorem budget_notePositionClosed (pnlSol : ℚ) (now : ℕ) :
    (c.notePositionClosed pnlSol now).budget = (c.rollDayIfNeeded now).budget := by
  simp only [notePositionClosed, budget_noteRegime]
  split_ifs <;> rfl

/-- An allowed signal finds budget left. -/
theorem dailyTrades_lt_of_canOpen {n : UInt32} {now : ℕ} (h : (c.canOpen n now).1 = .allow) :
    (c.canOpen n now).2.dailyTrades < c.cfg.maxTradesPerDay := by
  simp only [canOpen, rollDayIfNeeded_cfg] at h ⊢
  split_ifs at h ⊢ with h₁ h₂ h₃ h₄ h₅
  simpa using h₂

end StrategyController

/-- A signal that was accepted: when the gate let it through, and when it was counted. -/
structure Acceptance where
  gateAt : ℕ
  countedAt : ℕ

/-- How many of the signals were accepted on a day, by one reading of their time. -/
def acceptedOn (moment : Acceptance → ℕ) (day : ℕ) (as : List Acceptance) : ℕ :=
  as.countP fun a => currentDay (moment a) == day

theorem acceptedOn_append (moment : Acceptance → ℕ) (day : ℕ) (as : List Acceptance)
    (a : Acceptance) :
    acceptedOn moment day (as ++ [a]) =
      acceptedOn moment day as + if currentDay (moment a) = day then 1 else 0 := by
  simp [acceptedOn, List.countP_append, List.countP_cons]

/-- **The counter covers the accepted signals.** No day has more than the limit, the counter's own
day has at most as many as it says, and no later day has any. -/
structure Budget (moment : Acceptance → ℕ) (c : StrategyController) (as : List Acceptance) :
    Prop where
  counter_le : c.dailyTrades.toNat ≤ c.cfg.maxTradesPerDay.toNat
  accepted_le : ∀ day, acceptedOn moment day as ≤ c.cfg.maxTradesPerDay.toNat
  today_le : acceptedOn moment c.dayUnix as ≤ c.dailyTrades.toNat
  past : ∀ a ∈ as, currentDay (moment a) ≤ c.dayUnix

namespace Budget

variable {moment : Acceptance → ℕ} {c c' : StrategyController} {as : List Acceptance}

theorem congr (h : Budget moment c as) (hcfg : c'.cfg = c.cfg) (hb : c'.budget = c.budget) :
    Budget moment c' as := by
  obtain ⟨hday, htrades⟩ := Prod.mk.inj hb
  constructor
  · rw [htrades, hcfg]; exact h.counter_le
  · rw [hcfg]; exact h.accepted_le
  · rw [hday, htrades]; exact h.today_le
  · rw [hday]; exact h.past

theorem none_later (h : Budget moment c as) {day : ℕ} (hday : c.dayUnix < day) :
    acceptedOn moment day as = 0 := by
  rw [acceptedOn, List.countP_eq_zero]
  intro a ha
  have := h.past a ha
  simp only [beq_iff_eq]
  omega

/-- A new day starts with nothing accepted on it. -/
theorem roll (h : Budget moment c as) {now : ℕ} (hnow : c.dayUnix ≤ currentDay now) :
    Budget moment (c.rollDayIfNeeded now) as := by
  by_cases hday : currentDay now = c.dayUnix
  · apply h.congr (c.rollDayIfNeeded_cfg now)
    rw [StrategyController.budget_rollDayIfNeeded, if_pos hday]
  · have hroll : c.rollDayIfNeeded now =
        { c with dayUnix := currentDay now, dailyTrades := 0, dailyPnlSol := 0 } := if_pos hday
    have hlater : c.dayUnix < currentDay now := by omega
    rw [hroll]
    exact {
      counter_le := Nat.zero_le _
      accepted_le := h.accepted_le
      today_le := (h.none_later hlater).le
      past := fun a ha => (h.past a ha).trans hnow }

/-- **One accepted signal.** It passes the gate below the limit and is counted on the day of the
gate or on a later one. -/
theorem accept (h : Budget moment c as) (hlt : c.dailyTrades < c.cfg.maxTradesPerDay)
    {a : Acceptance} (hgate : c.dayUnix = currentDay a.gateAt)
    (hm : a.gateAt ≤ moment a ∧ moment a ≤ a.countedAt) :
    Budget moment (c.notePositionOpened a.countedAt) (as ++ [a]) := by
  have hlo : c.dayUnix ≤ currentDay (moment a) := hgate ▸ currentDay_mono hm.1
  have hhi : currentDay (moment a) ≤ currentDay a.countedAt := currentDay_mono hm.2
  have hlt' : c.dailyTrades.toNat < c.cfg.maxTradesPerDay.toNat := UInt32.lt_iff_toNat_lt.mp hlt
  have hroll : Budget moment (c.rollDayIfNeeded a.countedAt) as := h.roll (hlo.trans hhi)
  set r := c.rollDayIfNeeded a.countedAt with hr
  have hrlt : r.dailyTrades.toNat < c.cfg.maxTradesPerDay.toNat := by
    rw [hr, StrategyController.rollDayIfNeeded]
    split_ifs
    · exact hlt'.trans_le' (Nat.zero_le _)
    · exact hlt'
  have hrday : r.dayUnix = currentDay a.countedAt := c.dayUnix_rollDayIfNeeded a.countedAt
  have hone : (r.dailyTrades + 1).toNat = r.dailyTrades.toNat + 1 := by
    have := c.cfg.maxTradesPerDay.toNat_lt
    rw [UInt32.toNat_add]
    exact Nat.mod_eq_of_lt (by simp; omega)
  -- before the signal its day has room: it is the gate's day, or a day with nothing on it
  have hroom : acceptedOn moment (currentDay (moment a)) as < c.cfg.maxTradesPerDay.toNat := by
    rcases hlo.eq_or_lt with hsame | hlater
    · exact (hsame ▸ h.today_le).trans_lt hlt'
    · rw [h.none_later hlater]
      exact hlt'.trans_le' (Nat.zero_le _)
  constructor
  · show (r.dailyTrades + 1).toNat ≤ r.cfg.maxTradesPerDay.toNat
    rw [hone, hr, StrategyController.rollDayIfNeeded_cfg]
    exact hrlt
  · intro day
    show _ ≤ r.cfg.maxTradesPerDay.toNat
    rw [hr, StrategyController.rollDayIfNeeded_cfg, acceptedOn_append]
    split_ifs with hday
    · exact hday ▸ hroom
    · exact h.accepted_le day
  · show acceptedOn moment r.dayUnix (as ++ [a]) ≤ (r.dailyTrades + 1).toNat
    rw [acceptedOn_append, hone]
    have := hroll.today_le
    split_ifs <;> omega
  · intro b hb
    show currentDay (moment b) ≤ r.dayUnix
    rcases List.mem_append.mp hb with hb | hb
    · exact hroll.past b hb
    · rw [List.mem_singleton.mp hb, hrday]
      exact hhi

end Budget

/-! ## What a turn does to the controller -/

namespace PositionManagerActor

variable (m : PositionManagerActor)

/-- The signal that a message makes the manager accept. -/
def acceptance (env : TurnEnv) : PositionMessage → Option Acceptance
  | .initiateBuy pool .. =>
    if m.acceptsSignal env pool.mint then some ⟨env.clock 1, env.clock 2⟩ else none
  | _ => none

/-- The controller of an outcome has at most rolled its day. -/
def Rolled (env : TurnEnv) (o : Outcome) : Prop :=
  o.actor.strategy.cfg = m.strategy.cfg ∧
    (o.actor.strategy.budget = m.strategy.budget ∨
      ∃ i, o.actor.strategy.budget = (m.strategy.rollDayIfNeeded (env.clock i)).budget)

variable {m} {env : TurnEnv}

theorem Rolled.of_eq {o : Outcome} (h : o.actor.strategy = m.strategy) : m.Rolled env o := by
  rw [Rolled, h]
  exact ⟨rfl, .inl rfl⟩

theorem rolled_initiateBuy {pool : Pool} {amountSol : ℚ} {tier : Tier} {dev : Option Address}
    {early : List Address} {snap : Option LearningTradeSnapshot}
    (h : m.acceptsSignal env pool.mint = false) :
    m.Rolled env (m.initiateBuy env pool amountSol tier dev early snap) := by
  have hgate : m.Rolled env { m with strategy := (m.strategyGate env).2 }.idle :=
    ⟨m.strategy.canOpen_cfg _ _, .inr ⟨1, m.strategy.budget_canOpen _ _⟩⟩
  have hstrategy (c : CurveQuarantineCache) :
      (strategyGate { m with curveQuarantine := c } env) = m.strategyGate env := rfl
  simp only [initiateBuy, hstrategy]
  split_ifs with hp hd hq hs hw
  · exact .of_eq rfl
  · exact .of_eq rfl
  · exact .of_eq rfl
  · exact hgate
  · exact hgate
  · simp_all [acceptsSignal]

theorem rolled_notePositionClosed {o : Outcome} {pnlSol : ℚ} {i : ℕ}
    (h : o.actor.strategy = m.strategy.notePositionClosed pnlSol (env.clock i)) :
    m.Rolled env o := by
  rw [Rolled, h]
  exact ⟨m.strategy.notePositionClosed_cfg _ _, .inr ⟨i, m.strategy.budget_notePositionClosed _ _⟩⟩

theorem rolled_applyBuyResult (order : BuyOrder) (pool : Pool)
    (result : Except BrokerError BuyReceipt) :
    m.Rolled env (m.applyBuyResult env order pool result) := by
  cases result with
  | error e =>
    apply Rolled.of_eq
    show ((m.forgetWalletBuy order.key).applyBuyError order.mint e).strategy = m.strategy
    unfold applyBuyError
    split_ifs <;> rfl
  | ok receipt =>
    simp only [applyBuyResult]
    split
    · split
      · exact rolled_notePositionClosed (i := 1) rfl
      · exact .of_eq rfl
    · exact .of_eq rfl

theorem strategy_maybeFinalizeClosedMint (mint : Address) :
    (m.maybeFinalizeClosedMint mint).strategy = m.strategy := by
  unfold maybeFinalizeClosedMint
  split_ifs <;> rfl

theorem rolled_executeSell (key : PositionKey) (percent : ℚ) (reason : SellReason) :
    m.Rolled env (m.executeSell env key percent reason) := by
  simp only [executeSell]
  split
  · split
    · exact .of_eq rfl
    · split_ifs
      · exact .of_eq rfl
      · apply rolled_notePositionClosed (i := 0)
        show StrategyController.notePositionClosed _ _ _ = _
        rw [strategy_maybeFinalizeClosedMint]
  · exact .of_eq rfl

theorem strategy_refreshDueSnapshots : (m.refreshDueSnapshots env).1.strategy = m.strategy := by
  unfold refreshDueSnapshots
  split_ifs <;> rfl

/-- A turn that accepts no signal at most rolls the day. -/
theorem rolled_handle {msg : PositionMessage} (h : m.acceptance env msg = none) :
    m.Rolled env (m.handle env msg) := by
  cases msg with
  | initiateBuy pool amountSol tier dev early snap =>
    apply rolled_initiateBuy
    simpa [acceptance] using h
  | buyCompleted order pool result => exact rolled_applyBuyResult order pool result
  | executeSell key percent reason => exact rolled_executeSell key percent reason
  | executeBuy order =>
    apply Rolled.of_eq
    simp only [handle, executeBuy]
    split_ifs
    · rfl
    · rfl
    · rfl
    · split <;> rfl
  | abandonPosition mint walletId =>
    apply Rolled.of_eq
    simp only [handle, abandonPosition, strategy_maybeFinalizeClosedMint]
  | tick => exact .of_eq strategy_refreshDueSnapshots
  | _ => exact .of_eq rfl

/-- An accepted signal goes through the gate and is counted. -/
theorem handle_acceptance {msg : PositionMessage} {a : Acceptance}
    (h : m.acceptance env msg = some a) :
    a = ⟨env.clock 1, env.clock 2⟩ ∧ (m.strategyGate env).1 = .allow ∧
      (m.handle env msg).actor.strategy =
        (m.strategyGate env).2.notePositionOpened (env.clock 2) := by
  cases msg with
  | initiateBuy pool amountSol tier dev early snap =>
    simp only [acceptance, Option.ite_none_right_eq_some, Option.some.injEq] at h
    obtain ⟨haccept, rfl⟩ := h
    simp only [acceptsSignal, Bool.and_eq_true, Bool.not_eq_true', beq_iff_eq] at haccept
    obtain ⟨⟨⟨⟨hp, hd⟩, hq⟩, hs⟩, hw⟩ := haccept
    refine ⟨rfl, hs, ?_⟩
    have hstrategy (c : CurveQuarantineCache) :
        (strategyGate { m with curveQuarantine := c } env) = m.strategyGate env := rfl
    simp only [handle, initiateBuy, hstrategy]
    rw [if_neg (by simp [hp]), if_neg (by simp [hd]), if_neg (by simp [hq]),
      if_neg (by simp [hs]), if_neg (by simp [hw])]
  | _ => cases h

end PositionManagerActor

/-! ## Runs -/

/-- The signal that an event makes the manager accept. -/
def System.acceptance (s : System) : Event → Option Acceptance
  | .turn env => s.mailbox.head?.bind (s.actor.acceptance env)
  | _ => none

/-- The signals accepted along a run. -/
def acceptances (s : System) (es : List Event) : List Acceptance :=
  manager.trace System.acceptance s es

/-- The wall clock does not go back: not within a turn, and not from one turn to a later one. -/
structure ClockGoesOn (now : ℕ) (es : List Event) : Prop where
  within : ∀ env, .turn env ∈ es → now ≤ env.clock 0 ∧ Monotone env.clock
  across : es.Pairwise fun e f =>
    ∀ env env', e = .turn env → f = .turn env' → ∀ i, env.clock i ≤ env'.clock 0

theorem ClockGoesOn.tail {now : ℕ} {e : Event} {es : List Event} (h : ClockGoesOn now (e :: es)) :
    ClockGoesOn now es :=
  ⟨fun env henv => h.within env (List.mem_cons_of_mem _ henv), h.across.of_cons⟩

/-- The clock goes on from any reading of the first turn. -/
theorem ClockGoesOn.after {now : ℕ} {env : TurnEnv} {es : List Event}
    (h : ClockGoesOn now (.turn env :: es)) (i : ℕ) : ClockGoesOn (env.clock i) es where
  within env' henv' :=
    ⟨List.rel_of_pairwise_cons h.across henv' env env' rfl rfl i,
      (h.within env' (List.mem_cons_of_mem _ henv')).2⟩
  across := h.across.of_cons

namespace Budget

variable {moment : Acceptance → ℕ} {s t : System} {as : List Acceptance}

/-- Outside the turns nothing is accepted and the controller rests. -/
theorem step_idle (h : Budget moment s.actor.strategy as) {e : Event} (he : ∀ env, e ≠ .turn env)
    (hstep : s.step e = some t) :
    t.actor.strategy = s.actor.strategy ∧
      Budget moment t.actor.strategy (as ++ (s.acceptance e).toList) := by
  obtain ⟨-, -, -, -, -, hs⟩ := System.step_idle hstep he
  have hnone : s.acceptance e = none := by
    cases e with
    | turn env => exact absurd rfl (he env)
    | _ => rfl
  rw [hs, hnone]
  simpa using h

/-- A turn keeps the budget, and leaves the controller on its day or on the day of a reading. -/
theorem step_turn (h : Budget moment s.actor.strategy as) {env : TurnEnv} {now : ℕ}
    (hmoment : ∀ a : Acceptance, a.gateAt ≤ a.countedAt →
      a.gateAt ≤ moment a ∧ moment a ≤ a.countedAt)
    (hnow : s.actor.strategy.dayUnix ≤ currentDay now) (hle : now ≤ env.clock 0)
    (hmono : Monotone env.clock) (hstep : s.step (.turn env) = some t) :
    Budget moment t.actor.strategy (as ++ (s.acceptance (.turn env)).toList) ∧
      t.actor.strategy.cfg = s.actor.strategy.cfg ∧
      ∃ i, t.actor.strategy.dayUnix ≤ currentDay (env.clock i) := by
  obtain ⟨msg, rest, hbox, rfl⟩ := System.step_turn hstep
  have hreading (i : ℕ) : s.actor.strategy.dayUnix ≤ currentDay (env.clock i) :=
    hnow.trans (currentDay_mono (hle.trans (hmono (Nat.zero_le i))))
  have haccept : s.acceptance (.turn env) = s.actor.acceptance env msg := by
    simp [System.acceptance, hbox]
  rw [haccept]
  cases hmsg : s.actor.acceptance env msg with
  | none =>
    rw [Option.toList_none, List.append_nil]
    obtain ⟨hcfg, hbudget | ⟨i, hbudget⟩⟩ := PositionManagerActor.rolled_handle hmsg
    · exact ⟨h.congr hcfg hbudget, hcfg, 0, (Prod.mk.inj hbudget).1.trans_le (hreading 0)⟩
    · have hday := (Prod.mk.inj hbudget).1.trans (s.actor.strategy.dayUnix_rollDayIfNeeded _)
      refine ⟨(h.roll (hreading i)).congr ?_ hbudget, hcfg, i, hday.le⟩
      rw [hcfg, StrategyController.rollDayIfNeeded_cfg]
  | some a =>
    obtain ⟨rfl, hallow, hstrategy⟩ := PositionManagerActor.handle_acceptance hmsg
    have hcfg : (s.actor.strategyGate env).2.cfg = s.actor.strategy.cfg :=
      s.actor.strategy.canOpen_cfg _ _
    have hbudget : (s.actor.strategyGate env).2.budget =
        (s.actor.strategy.rollDayIfNeeded (env.clock 1)).budget :=
      s.actor.strategy.budget_canOpen _ _
    have hday : (s.actor.strategyGate env).2.dayUnix = currentDay (env.clock 1) :=
      (Prod.mk.inj hbudget).1.trans (s.actor.strategy.dayUnix_rollDayIfNeeded _)
    have hgate : Budget moment (s.actor.strategyGate env).2 as := by
      apply (h.roll (hreading 1)).congr _ hbudget
      rw [hcfg, StrategyController.rollDayIfNeeded_cfg]
    have hlt : (s.actor.strategyGate env).2.dailyTrades <
        (s.actor.strategyGate env).2.cfg.maxTradesPerDay := by
      rw [hcfg]
      exact s.actor.strategy.dailyTrades_lt_of_canOpen hallow
    rw [hstrategy]
    refine ⟨?_, ?_, 2, (StrategyController.dayUnix_rollDayIfNeeded _ _).le⟩
    · exact hgate.accept hlt hday (hmoment ⟨env.clock 1, env.clock 2⟩ (hmono (by omega)))
    · rw [StrategyController.notePositionOpened_cfg, hcfg]

theorem acceptance_of_stuck {e : Event} (h : s.step e = none) : s.acceptance e = none := by
  cases e with
  | turn env =>
    cases hbox : s.mailbox with
    | nil => simp [System.acceptance, hbox]
    | cons msg rest => simp [System.step, hbox] at h
  | _ => rfl

/-- **Run lemma.** The counter covers the signals that a run accepts. -/
theorem run {es : List Event} {now : ℕ}
    (hmoment : ∀ a : Acceptance, a.gateAt ≤ a.countedAt →
      a.gateAt ≤ moment a ∧ moment a ≤ a.countedAt)
    (h : Budget moment s.actor.strategy as) (hnow : s.actor.strategy.dayUnix ≤ currentDay now)
    (hclock : ClockGoesOn now es) :
    ∃ c, c.cfg = s.actor.strategy.cfg ∧ Budget moment c (as ++ acceptances s es) := by
  induction es generalizing s as now with
  | nil => exact ⟨s.actor.strategy, rfl, by simpa [acceptances, Machine.trace] using h⟩
  | cons e es ih =>
    rw [acceptances, Machine.trace, ← List.append_assoc]
    cases hstep : manager.step s e with
    | none =>
      have hnone : s.acceptance e = none := acceptance_of_stuck hstep
      exact ⟨s.actor.strategy, rfl, by simpa [hnone] using h⟩
    | some t =>
      by_cases hturn : ∃ env, e = .turn env
      · obtain ⟨env, rfl⟩ := hturn
        obtain ⟨hle, hmono⟩ := hclock.within env (List.mem_cons_self ..)
        obtain ⟨ht, hcfg, i, hday⟩ := h.step_turn hmoment hnow hle hmono hstep
        rw [← hcfg]
        exact ih ht hday (hclock.after i)
      · obtain ⟨hs, ht⟩ := h.step_idle (fun env he => hturn ⟨env, he⟩) hstep
        rw [← hs]
        exact ih ht (hs ▸ hnow) hclock.tail

end Budget

/-- **The daily budget.** A fresh controller, any run of the manager with a clock that does not go
back: of the signals accepted, at most `max_trades_per_day` pass the gate in one UTC day, and at
most as many are counted in one. -/
theorem accepted_le_maxTradesPerDay (s : System) (es : List Event) (cfg : StrategyConfig)
    (now day : ℕ) (h : s.actor.strategy = .new cfg now) (hclock : ClockGoesOn now es) :
    acceptedOn (·.gateAt) day (acceptances s es) ≤ cfg.maxTradesPerDay.toNat ∧
      acceptedOn (·.countedAt) day (acceptances s es) ≤ cfg.maxTradesPerDay.toNat := by
  have hfresh (moment : Acceptance → ℕ) : Budget moment s.actor.strategy [] := by
    rw [h]
    exact ⟨Nat.zero_le _, fun _ => Nat.zero_le _, Nat.zero_le _, by simp⟩
  have hnow : s.actor.strategy.dayUnix ≤ currentDay now := by rw [h]; exact le_rfl
  constructor
  · obtain ⟨c, hcfg, hc⟩ :=
      (hfresh (·.gateAt)).run (fun a ha => ⟨le_rfl, ha⟩) hnow hclock
    have := hc.accepted_le day
    rwa [hcfg, h] at this
  · obtain ⟨c, hcfg, hc⟩ :=
      (hfresh (·.countedAt)).run (fun a ha => ⟨ha, le_rfl⟩) hnow hclock
    have := hc.accepted_le day
    rwa [hcfg, h] at this

/-- A turn that reads the same second throughout. -/
def turnAt (now : ℕ) : Event := .turn { soldEnv with clock := fun _ => now }

/-- Three signals, taken at the last two seconds of a day and at the first of the next. -/
def midnightRun : List Event :=
  [signal 1, signal 2, signal 3, turnAt 86398, turnAt 86399, turnAt 86400]

theorem midnightRun_clock : ClockGoesOn 0 midnightRun where
  within env henv := by
    simp only [midnightRun, signal, turnAt, List.mem_cons, Event.turn.injEq, reduceCtorEq,
      List.not_mem_nil, false_or, or_false] at henv
    rcases henv with rfl | rfl | rfl <;> exact ⟨Nat.zero_le _, monotone_const⟩
  across := by
    simp [midnightRun, signal, turnAt]

/-- With a budget of one, the second signal before midnight is dropped and the next day's passes. -/
theorem accepted_around_midnight :
    (acceptances (.small oneWallet { maxTradesPerDay := 1 }) midnightRun).map (·.gateAt) =
        [86398, 86400] ∧
      acceptedOn (·.gateAt) 0
          (acceptances (.small oneWallet { maxTradesPerDay := 1 }) midnightRun) ≤
        (1 : UInt32).toNat :=
  ⟨by decide +kernel,
    (accepted_le_maxTradesPerDay _ _ { maxTradesPerDay := 1 } 0 0 rfl midnightRun_clock).1⟩

end Loggaper
