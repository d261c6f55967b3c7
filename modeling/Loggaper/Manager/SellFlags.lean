import Loggaper.Manager.Holdings

/-!
# Flags and queued sells

`is_closing` and `pending_partial_sell` stand for the sells of a row that are scheduled and not
executed, and the trigger flags for the levels that have been queued.

- `flagsTell_path`: at most one full close and one partial sell are scheduled for a row, each only
  while its flag is set, on every run that keeps the two kinds of sell apart where the error branch
  does not: there it clears both flags, whatever is queued.
- `failed_level_stays_triggered`: the error branch never takes back the trigger of a level.
-/

namespace Loggaper

open PositionManagerActor

/-! ## Flags tell the queue -/

/-- The sell is a full close. -/
def isFull (sell : ℚ × SellReason) : Prop := 100 ≤ sell.1

instance : DecidablePred isFull := fun sell => inferInstanceAs (Decidable (100 ≤ sell.1))

def fullQueued (queue : Multiset (ℚ × SellReason)) : ℕ := queue.countP isFull

def partQueued (queue : Multiset (ℚ × SellReason)) : ℕ := queue.countP fun sell => ¬ isFull sell

@[simp] theorem fullQueued_zero : fullQueued 0 = 0 := rfl

@[simp] theorem partQueued_zero : partQueued 0 = 0 := rfl

@[simp] theorem fullQueued_add (q₁ q₂ : Multiset (ℚ × SellReason)) :
    fullQueued (q₁ + q₂) = fullQueued q₁ + fullQueued q₂ := by
  simp [fullQueued]

@[simp] theorem partQueued_add (q₁ q₂ : Multiset (ℚ × SellReason)) :
    partQueued (q₁ + q₂) = partQueued q₁ + partQueued q₂ := by
  simp [partQueued]

theorem fullQueued_singleton (percent : ℚ) (reason : SellReason) :
    fullQueued {(percent, reason)} = if 100 ≤ percent then 1 else 0 := by
  by_cases h : 100 ≤ percent
  · rw [if_pos h]
    exact Multiset.countP_cons_of_pos (p := isFull) 0 h
  · rw [if_neg h]
    exact Multiset.countP_cons_of_neg (p := isFull) 0 h

theorem partQueued_singleton (percent : ℚ) (reason : SellReason) :
    partQueued {(percent, reason)} = if 100 ≤ percent then 0 else 1 := by
  by_cases h : 100 ≤ percent
  · rw [if_pos h]
    exact Multiset.countP_cons_of_neg (p := fun sell => ¬ isFull sell) 0 (not_not_intro h)
  · rw [if_neg h]
    exact Multiset.countP_cons_of_pos (p := fun sell => ¬ isFull sell) 0 h

/-- At most one full close and one partial sell are queued, each only while its flag is set. -/
def FlagsTell (row : Option Position) (queue : Multiset (ℚ × SellReason)) : Prop :=
  ∀ pos ∈ row, fullQueued queue ≤ pos.isClosing.toNat ∧
    partQueued queue ≤ pos.pendingPartialSell.toNat

@[simp] theorem flagsTell_none (queue : Multiset (ℚ × SellReason)) : FlagsTell none queue :=
  fun _ hpos => absurd hpos (by simp)

@[simp] theorem flagsTell_some {pos : Position} {queue : Multiset (ℚ × SellReason)} :
    FlagsTell (some pos) queue ↔ fullQueued queue ≤ pos.isClosing.toNat ∧
      partQueued queue ≤ pos.pendingPartialSell.toNat := by
  simp [FlagsTell]

theorem FlagsTell.of_le {pos : Position} {queue queue' : Multiset (ℚ × SellReason)}
    (h : FlagsTell (some pos) queue) (hle : queue' ≤ queue) : FlagsTell (some pos) queue' := by
  rw [flagsTell_some] at h ⊢
  exact ⟨(Multiset.countP_le_of_le _ hle).trans h.1, (Multiset.countP_le_of_le _ hle).trans h.2⟩

theorem partQueued_eq_zero {queue : Multiset (ℚ × SellReason)} (h : ∀ sell ∈ queue, isFull sell) :
    partQueued queue = 0 :=
  Multiset.countP_eq_zero.mpr fun sell hsell => not_not_intro (h sell hsell)

theorem fullQueued_eq_zero {queue : Multiset (ℚ × SellReason)} (h : ∀ sell ∈ queue, ¬ isFull sell) :
    fullQueued queue = 0 :=
  Multiset.countP_eq_zero.mpr h

/-- The error clears both flags of the row. -/
def clearsBoth (e : BrokerError) (percent : ℚ) : Bool := e.requiresManualSell || 100 ≤ percent

/-- The error that the broker answers to a sell in this turn. -/
def TurnEnv.sellError (env : TurnEnv) : Option BrokerError :=
  match env.sell with
  | .error e => some e
  | .ok _ => none

/-- A turn that keeps the two kinds of sell apart: a fill comes while no sell of its key is queued,
and an error clears both flags of a row while only sells of its own kind are queued. -/
def System.TurnApart (s : System) (env : TurnEnv) : PositionMessage → Prop
  | .buyCompleted order _ (.ok _) => (queuedSells order.key).total s = 0
  | .executeSell key percent _ =>
    ∀ e ∈ env.sellError, (s.row key).isSome = true → clearsBoth e percent = true →
      ∀ sell ∈ (queuedSells key).total s, isFull sell ↔ 100 ≤ percent
  | _ => True

/-- The step keeps the two kinds of sell apart. -/
def System.SellsApart (s : System) : Event → Prop
  | .turn env => ∀ msg ∈ s.mailbox.head?, s.TurnApart env msg
  | _ => True

instance (s : System) (env : TurnEnv) : DecidablePred (s.TurnApart env)
  | .buyCompleted order _ (.ok _) =>
    inferInstanceAs (Decidable ((queuedSells order.key).total s = 0))
  | .executeSell key percent _ =>
    inferInstanceAs (Decidable (∀ e ∈ env.sellError, (s.row key).isSome = true →
      clearsBoth e percent = true →
        ∀ sell ∈ (queuedSells key).total s, isFull sell ↔ 100 ≤ percent))
  | .buyCompleted _ _ (.error _) | .updatePool _ | .updateTokenBucket _ | .applyLiveSnapshot ..
  | .setPaused _ | .initiateBuy .. | .clearPendingMint _ | .executeBuy _ | .abandonPosition ..
  | .tick | .applyExitMcapRefresh .. => .isTrue trivial

instance (s : System) : DecidablePred s.SellsApart
  | .turn env => inferInstanceAs (Decidable (∀ msg ∈ s.mailbox.head?, s.TurnApart env msg))
  | .post _ | .patchWallets _ | .resume .. => .isTrue trivial

/-- One turn of a row keeps flags and queue in step. -/
theorem FlagsTell.turn {cfg : SmartBuyConfig} {env : TurnEnv} {key : PositionKey}
    {msg : PositionMessage} {row row' : Option Position} {rest queued : Multiset (ℚ × SellReason)}
    {new : List Effect} (hcfg : cfg.PartialLevels)
    (h : FlagsTell row ((queuedSells key).ofMessage msg + rest))
    (hturn : RowTurn cfg env key msg row row' queued new)
    (hapart : ∀ percent reason e, msg = .executeSell key percent reason → env.sell = .error e →
      row.isSome = true → clearsBoth e percent = true →
      ∀ sell ∈ (queuedSells key).ofMessage msg + rest, isFull sell ↔ 100 ≤ percent) :
    FlagsTell row' (rest + queued) := by
  cases hturn with
  | absent => exact flagsTell_none _
  | closed hsell hge => exact flagsTell_none _
  | abandoned => exact flagsTell_none _
  | @kept msg p q hsame hflags =>
    have hrest := h.of_le (Multiset.le_add_left rest _)
    rw [flagsTell_some] at hrest ⊢
    have hc : q.isClosing = p.isClosing := congrArg SellFlags.isClosing hflags
    have hp : q.pendingPartialSell = p.pendingPartialSell :=
      congrArg SellFlags.pendingPartialSell hflags
    rwa [add_zero, hc, hp]
  | @queued p q a hopen hspec =>
    -- a tick carries no sell
    have hmsg : (queuedSells key).ofMessage .tick = 0 := rfl
    rw [hmsg, zero_add, flagsTell_some, hopen] at h
    rw [flagsTell_some, fullQueued_add, partQueued_add, fullQueued_singleton, partQueued_singleton]
    cases hspec with
    | close hb hf hr =>
      have hc : q.isClosing = true := congrArg SellFlags.isClosing hf
      have hp : q.pendingPartialSell = p.pendingPartialSell :=
        congrArg SellFlags.pendingPartialSell hf
      rw [hc, hp, if_pos le_rfl, if_pos le_rfl]
      exact ⟨by simpa using h.1, by simpa using h.2⟩
    | lockIn l hb hf hr hpend htrig hpct =>
      have hc : q.isClosing = p.isClosing := congrArg SellFlags.isClosing hf
      have hp : q.pendingPartialSell = true := congrArg SellFlags.pendingPartialSell hf
      have hpart := not_le.mpr (hpct hcfg)
      rw [hpend] at h
      rw [hc, hp, hopen, if_neg hpart, if_neg hpart]
      exact ⟨by simpa using h.1, by simpa using h.2⟩
  | @failed p percent reason e hsell =>
    have hmsg : (queuedSells key).ofMessage (.executeSell key percent reason) =
      {(percent, reason)} := if_pos rfl
    have hkind := hapart percent reason e rfl hsell rfl
    rw [hmsg] at h hkind
    rw [flagsTell_some, fullQueued_add, partQueued_add, fullQueued_singleton,
      partQueued_singleton] at h
    have hclosing := Bool.toNat_le p.isClosing
    have hpending := Bool.toNat_le p.pendingPartialSell
    rw [add_zero, flagsTell_some]
    by_cases hboth : clearsBoth e percent = true
    · -- both flags go, and what is queued besides the failed sell is of its kind
      have hrest : ∀ sell ∈ rest, isFull sell ↔ 100 ≤ percent := fun sell hsell =>
        hkind hboth sell (Multiset.mem_add.mpr (.inr hsell))
      have hflags : (rowAfterSellError e percent p).isClosing = false ∧
          (rowAfterSellError e percent p).pendingPartialSell = false := by
        unfold rowAfterSellError
        simp only [clearsBoth, Bool.or_eq_true, decide_eq_true_eq] at hboth
        split_ifs with h₁ h₂
        · exact ⟨rfl, rfl⟩
        · exact ⟨rfl, rfl⟩
        · exact absurd hboth (by simp [h₁, not_le.mpr (not_le.mp h₂)])
      rw [hflags.1, hflags.2]
      by_cases hpct : 100 ≤ percent
      · rw [if_pos hpct, if_pos hpct] at h
        have := partQueued_eq_zero fun sell hsell => (hrest sell hsell).mpr hpct
        exact ⟨by simp; omega, by simp; omega⟩
      · rw [if_neg hpct, if_neg hpct] at h
        have := fullQueued_eq_zero fun sell hsell hfull => hpct ((hrest sell hsell).mp hfull)
        exact ⟨by simp; omega, by simp; omega⟩
    · -- only a partial sell can fail without clearing both flags
      simp only [clearsBoth, Bool.or_eq_true, decide_eq_true_eq, not_or] at hboth
      rw [if_neg hboth.2, if_neg hboth.2] at h
      rw [rowAfterSellError, if_neg hboth.1, if_neg hboth.2]
      exact ⟨by simpa using h.1, by simp; omega⟩
  | @sold p percent reason r hsell hlt =>
    have hmsg : (queuedSells key).ofMessage (.executeSell key percent reason) =
      {(percent, reason)} := if_pos rfl
    rw [hmsg, flagsTell_some, fullQueued_add, partQueued_add, fullQueued_singleton,
      partQueued_singleton, if_neg (not_le.mpr hlt), if_neg (not_le.mpr hlt)] at h
    rw [add_zero, flagsTell_some]
    have := Bool.toNat_le p.pendingPartialSell
    refine ⟨by simpa [rowAfterPartialSell] using h.1, ?_⟩
    simp only [rowAfterPartialSell, Bool.toNat_false]
    omega

/-! ## Runs -/

/-- The flags of every row tell its queue. -/
def System.FlagsTell (s : System) : Prop :=
  ∀ key, Loggaper.FlagsTell (s.row key) ((queuedSells key).total s)

theorem flagsTell_zero (row : Option Position) : FlagsTell row 0 :=
  fun _ _ => ⟨Nat.zero_le _, Nat.zero_le _⟩

/-- A fill that comes while no sell of its key is queued leaves none queued. -/
theorem queuedSells_fill {s t : System} {env : TurnEnv} {key : PositionKey}
    {msg : PositionMessage} {rest : List PositionMessage} (hbox : s.mailbox = msg :: rest)
    (hfill : msg.fills key = true) (hg : s.SellsApart (.turn env))
    (h : s.step (.turn env) = some t) : (queuedSells key).total t = 0 := by
  unfold PositionMessage.fills at hfill
  split at hfill
  · rename_i order pool r
    have hkey : order.key = key := by simpa using hfill
    have hzero : (queuedSells key).total s = 0 := by
      rw [← hkey]
      exact hg _ (by rw [hbox]; rfl)
    obtain ⟨hs, ht⟩ := (queuedSells key).total_turn hbox h
    have hmsg : (queuedSells key).ofMessage (.buyCompleted order pool (.ok r)) = 0 := rfl
    rw [hzero, hmsg, zero_add] at hs
    rw [ht, ← hs, zero_add]
    exact s.actor.queuedSells_applyBuyResult key env order pool (.ok r)
  · cases hfill

theorem flagsTell_step {s t : System} {e : Event} (hcfg : s.actor.config.PartialLevels)
    (hs : s.FlagsTell) (hg : s.SellsApart e) (h : s.step e = some t) : t.FlagsTell := by
  intro key
  by_cases hfill : ∀ msg ∈ s.taken e, msg.fills key = false
  · rcases row_step h hfill with ⟨hrow, -, -, hqueue⟩ | hturn
    · rw [hrow, hqueue]
      exact hs key
    · obtain ⟨env, msg, rest, queued, effects, rfl, htaken, -, hturn, hqueue, hqueue'⟩ := hturn
      rw [hqueue']
      refine FlagsTell.turn hcfg (hqueue ▸ hs key) hturn
        fun percent reason err hmsg hsell hrow => ?_
      have hapart := hg msg htaken
      rw [hmsg] at hapart
      rw [← hqueue]
      exact hapart err (by simp [TurnEnv.sellError, hsell]) hrow
  · push Not at hfill
    obtain ⟨msg, htaken, hmsg⟩ := hfill
    cases e with
    | turn env =>
      obtain ⟨msg', rest, hbox, -⟩ := System.step_turn h
      have : msg = msg' := by simpa [System.taken, hbox, eq_comm] using htaken
      subst this
      rw [queuedSells_fill hbox (by simpa using hmsg) hg h]
      exact flagsTell_zero _
    | _ => exact absurd htaken (by simp [System.taken])

/-- **Flags tell the queue.** Under a configuration whose levels sell less than the whole, every run
that keeps the two kinds of sell apart has at most one full close and one partial sell scheduled for
a row, each only while its flag is set. -/
theorem flagsTell_path {s₀ s : System} {es : List Event} (h₀ : s₀.Fresh)
    (hcfg : s₀.actor.config.PartialLevels) (h : manager.Path System.SellsApart s₀ es s) :
    s.FlagsTell := by
  have hstart : s₀.FlagsTell := by
    intro key pos hpos
    simp [System.row, h₀.positions] at hpos
  exact (h.invariant (I := fun u => u.actor.config.PartialLevels ∧ u.FlagsTell)
    (fun _ _ _ hu hg hstep => ⟨config_step hstep ▸ hu.1, flagsTell_step hu.1 hu.2 hg hstep⟩)
    ⟨hcfg, hstart⟩).2

/-- A turn whose sell ends in a broker error. -/
def failedEnv : TurnEnv := { soldEnv with sell := .error (.custom "") }

def failedTurn : Event := .turn failedEnv

/-- The market cap of mint 1 changes. -/
def mcapTo (sol : ℚ) : List Event := [.post (.updatePool ⟨1, .fromFloatNative sol⟩), turn]

/-- A tick at this second. -/
def tickAt (now : ℕ) : List Event :=
  [.post .tick, .turn { soldEnv with clock := fun _ => now }]

/-- A row at 40 SOL, a third over its entry. -/
def risenRow : List Event := oneFill ++ [turn] ++ mcapTo 40

/-- The first take-profit level is queued and delayed; the market cap falls back, the time-kill
queues a full close, and the broker fails it. -/
def failedClose : List Event :=
  risenRow ++ tickAt 1 ++ mcapTo 30 ++ tickAt 100 ++ [.resume 1 .go, failedTurn]

/-- After the failed close a partial sell is queued with its flag down, and when the market cap
rises again a second one is queued beside it. -/
theorem failedClose_frees_partial :
    (∃ s, manager.Reachable s ∧ (s.row smallOrder.key).map (·.pendingPartialSell) = some false ∧
        partQueued ((queuedSells smallOrder.key).total s) = 1) ∧
      ∃ s, manager.Reachable s ∧ (s.row smallOrder.key).isSome ∧
        partQueued ((queuedSells smallOrder.key).total s) = 2 := by
  constructor
  · obtain ⟨s, hs, h⟩ := reachable_of_run oneWallet {} failedClose
      (fun s => decide ((s.row smallOrder.key).map (·.pendingPartialSell) = some false ∧
        partQueued ((queuedSells smallOrder.key).total s) = 1))
      (by decide +kernel)
    exact ⟨s, hs, of_decide_eq_true h⟩
  · obtain ⟨s, hs, h⟩ := reachable_of_run oneWallet {}
      (failedClose ++ mcapTo 60 ++ tickAt 101)
      (fun s => decide ((s.row smallOrder.key).isSome ∧
        partQueued ((queuedSells smallOrder.key).total s) = 2))
      (by decide +kernel)
    exact ⟨s, hs, of_decide_eq_true h⟩

theorem smallConfig_partialLevels : smallConfig.PartialLevels := by
  constructor <;> constructor <;> decide +kernel

theorem flagsTell_path_risenRow :
    ∃ s : System, partQueued ((queuedSells smallOrder.key).total s) = 1 ∧ s.FlagsTell := by
  have hrun : ((manager.runUnder System.SellsApart (.small oneWallet {})
      (risenRow ++ tickAt 1)).any fun s : System =>
        decide (partQueued ((queuedSells smallOrder.key).total s) = 1)) = true := by
    decide +kernel
  obtain ⟨s, hs, h⟩ := (Option.any_eq_true _ _).mp hrun
  exact ⟨s, of_decide_eq_true h,
    flagsTell_path (System.small_fresh _ _) smallConfig_partialLevels (.of_runUnder hs)⟩

/-! ## A level that has fired -/

/-- The step takes no fill of the key. -/
def System.NoFill (key : PositionKey) (s : System) (e : Event) : Prop :=
  ∀ msg ∈ s.taken e, msg.fills key = false

instance (key : PositionKey) (s : System) (e : Event) : Decidable (s.NoFill key e) :=
  inferInstanceAs (Decidable (∀ msg ∈ s.taken e, _))

/-- Every turn keeps the levels that have fired. -/
theorem RowTurn.triggered {cfg : SmartBuyConfig} {env : TurnEnv} {key : PositionKey}
    {msg : PositionMessage} {p q : Position} {queued : Multiset (ℚ × SellReason)}
    {new : List Effect} {l : SellLevel} (h : RowTurn cfg env key msg (some p) (some q) queued new)
    (hl : p.triggered l = true) : q.triggered l = true := by
  cases h with
  | kept hsame hflags =>
    have : q.triggered = p.triggered := congrArg SellFlags.triggered hflags
    rw [this, hl]
  | queued hopen hspec =>
    cases hspec with
    | close hb hf hr =>
      have : q.triggered = p.triggered := congrArg SellFlags.triggered hf
      rw [this, hl]
    | lockIn l' hb hf hr hpend htrig hpct =>
      have : q.triggered = Function.update p.triggered l' true := congrArg SellFlags.triggered hf
      rw [this]
      by_cases hll : l = l'
      · rw [hll, Function.update_self]
      · rw [Function.update_of_ne hll, hl]
  | failed hsell =>
    unfold rowAfterSellError
    cases l with
    | ceiling => split_ifs <;> exact hl
    | tp n => cases n <;> split_ifs <;> exact hl
  | sold hsell hlt =>
    cases l with
    | ceiling => exact hl
    | tp n => cases n <;> exact hl

theorem triggered_step {s t : System} {e : Event} {key : PositionKey} {l : SellLevel}
    (hg : s.NoFill key e) (h : s.step e = some t)
    (hl : ∀ p ∈ s.row key, p.triggered l = true) : ∀ q ∈ t.row key, q.triggered l = true := by
  intro q hq
  rcases row_step h hg with
    ⟨hrow, -, -, -⟩ | ⟨env, msg, rest, queued, effects, -, -, -, hturn, -, -⟩
  · rw [hrow] at hq
    exact hl q hq
  · rw [Option.mem_def.mp hq] at hturn
    cases hrow : s.row key with
    | none =>
      rw [hrow] at hturn
      cases hturn
    | some p =>
      rw [hrow] at hturn
      exact hturn.triggered (hl p hrow)

theorem triggered_path {s t : System} {es : List Event} {key : PositionKey} {l : SellLevel}
    (h : manager.Path (System.NoFill key) s es t) (hl : ∀ p ∈ s.row key, p.triggered l = true) :
    ∀ q ∈ t.row key, q.triggered l = true :=
  h.invariant (I := fun u => ∀ p ∈ u.row key, p.triggered l = true)
    (fun _ _ _ hu hg hstep => triggered_step hg hstep hu) hl

/-- The level that the row's turn queues in a tick at this second. -/
def System.firedLevel (s : System) (key : PositionKey) (now : ℕ) : Option SellLevel := do
  let p ← s.row key
  let a ← (s.actor.tickRow now key p).action
  a.reason.level

/-- A level fires once: not before, and set in the row that the tick leaves. -/
theorem firedLevel_spec {s : System} {key : PositionKey} {now : ℕ} {l : SellLevel}
    (h : s.firedLevel key now = some l) :
    ∃ p, s.row key = some p ∧ p.triggered l = false ∧
      (s.actor.tickRow now key p).pos.triggered l = true := by
  simp only [System.firedLevel, Option.bind_eq_bind, Option.bind_eq_some_iff] at h
  obtain ⟨p, hp, a, ha, hl⟩ := h
  refine ⟨p, hp, ?_⟩
  have hspec := tickPosition_spec s.actor.config key.mint s.actor.hasRpc now p
  rw [tickRow] at ha ⊢
  rw [ha] at hspec
  generalize (tickPosition s.actor.config key.mint s.actor.hasRpc now p).pos = q at hspec ⊢
  cases hspec with
  | close hb hf hr => rw [hr] at hl; cases hl
  | lockIn l' hb hf hr hpend htrig hpct =>
    rw [hr] at hl
    cases hl
    have : q.triggered = Function.update p.triggered l true := congrArg SellFlags.triggered hf
    exact ⟨htrig, by rw [this, Function.update_self]⟩

/-- A row whose level has fired never fires it again. -/
theorem fired_path {s t : System} {es : List Event} {key : PositionKey} {l : SellLevel}
    (h : manager.Path (System.NoFill key) s es t) (hl : ∀ p ∈ s.row key, p.triggered l = true) :
    (∀ q ∈ t.row key, q.triggered l = true) ∧ ∀ now, t.firedLevel key now ≠ some l := by
  have htrig := triggered_path h hl
  refine ⟨htrig, fun now hfired => ?_⟩
  obtain ⟨q, hq, hfalse, -⟩ := firedLevel_spec hfired
  rw [htrig q hq] at hfalse
  cases hfalse

/-- The tick that fires a level leaves it triggered. -/
theorem triggered_tick {s s₁ : System} {env : TurnEnv} {key : PositionKey} {l : SellLevel}
    (htick : s.taken (.turn env) = some .tick)
    (hfired : s.firedLevel key (env.clock 0) = some l) (h : s.step (.turn env) = some s₁) :
    ∀ q ∈ s₁.row key, q.triggered l = true := by
  obtain ⟨p, hp, -, htrue⟩ := firedLevel_spec hfired
  obtain ⟨rest, hbox⟩ := System.mailbox_of_taken htick
  obtain ⟨msg, rest', hbox', rfl⟩ := System.step_turn h
  rw [hbox] at hbox'
  cases hbox'
  intro q hq
  have hrow : AList.lookup key (s.actor.tick env).actor.positions = some q := hq
  simp only [tick, processPositions, KeyedMap.lookup_mapVals, positions_refreshDue,
    tickRow_refreshDue, Option.map_eq_some_iff] at hrow
  obtain ⟨p', hp', rfl⟩ := hrow
  rw [System.row, hp'] at hp
  cases hp
  exact htrue

/-- **A failed level is not retried.** A tick fires a level of a row, which was not triggered
before. When a sell of the row then ends in a broker error, the level is still triggered, and it
stays so for as long as the row lives: no later tick fires it again. -/
theorem failed_level_stays_triggered {s s₁ t u : System} {env env' : TurnEnv} {key : PositionKey}
    {l : SellLevel} {percent : ℚ} {reason : SellReason} {err : BrokerError} {es : List Event}
    (htick : s.taken (.turn env) = some .tick)
    (hfired : s.firedLevel key (env.clock 0) = some l) (h₁ : s.step (.turn env) = some s₁)
    (h : manager.Path (System.NoFill key) s₁ es t)
    (hsell : t.taken (.turn env') = some (.executeSell key percent reason))
    (hfind : t.actor.findsRow key = true) (herr : env'.sell = .error err)
    (h₂ : t.step (.turn env') = some u) :
    ∃ p q, s.row key = some p ∧ p.triggered l = false ∧
      u.row key = some q ∧ q.triggered l = true ∧
      ∀ fs v, manager.Path (System.NoFill key) u fs v →
        (∀ q' ∈ v.row key, q'.triggered l = true) ∧ ∀ now, v.firedLevel key now ≠ some l := by
  obtain ⟨p, hp, hfalse, -⟩ := firedLevel_spec hfired
  have ht := triggered_path h (triggered_tick htick hfired h₁)
  have hg : t.NoFill key (.turn env') := by
    intro msg hmsg
    rw [hsell, Option.mem_some_iff] at hmsg
    subst hmsg
    rfl
  have hu := triggered_step hg h₂ ht
  have hrow : ∃ q, u.row key = some q := by
    obtain ⟨pos, hpos⟩ := exists_row_of_findsRow hfind
    obtain ⟨rest, hbox⟩ := System.mailbox_of_taken hsell
    obtain ⟨msg, rest', hbox', rfl⟩ := System.step_turn h₂
    rw [hbox] at hbox'
    cases hbox'
    refine ⟨rowAfterSellError err percent pos, ?_⟩
    rw [System.row, handle, executeSell_error hfind hpos herr]
    exact AList.lookup_insert _
  obtain ⟨q, hq⟩ := hrow
  exact ⟨p, q, hp, hfalse, hq, hu q hq, fun fs v hv => fired_path hv hu⟩

/-- The first take-profit level fires, its sell fails, and the next tick, at the same market cap,
does not fire it again. -/
theorem failed_level_is_lost :
    ∃ s u, manager.Reachable s ∧ manager.run s [turn, .resume 0 .go, failedTurn] = some u ∧
      s.taken turn = some .tick ∧ s.firedLevel smallOrder.key 0 = some (.tp .tp1) ∧
      (u.row smallOrder.key).map (·.pool) = (s.row smallOrder.key).map (·.pool) ∧
      (u.row smallOrder.key).map (·.triggered (.tp .tp1)) = some true ∧
      u.firedLevel smallOrder.key 0 = none := by
  obtain ⟨s, hs, h⟩ := reachable_of_run oneWallet {} (risenRow ++ [.post .tick])
    (fun s => (manager.run s [turn, .resume 0 .go, failedTurn]).any fun u : System =>
      decide (s.taken turn = some .tick ∧ s.firedLevel smallOrder.key 0 = some (.tp .tp1) ∧
        (u.row smallOrder.key).map (·.pool) = (s.row smallOrder.key).map (·.pool) ∧
        (u.row smallOrder.key).map (·.triggered (.tp .tp1)) = some true ∧
        u.firedLevel smallOrder.key 0 = none))
    (by decide +kernel)
  obtain ⟨u, hu, h⟩ := (Option.any_eq_true _ _).mp h
  exact ⟨s, u, hs, hu, of_decide_eq_true h⟩

theorem failed_level_stays_triggered_risenRow :
    ∃ u : System, ∃ q, u.row smallOrder.key = some q ∧ q.triggered (.tp .tp1) = true ∧
      ∀ now, u.firedLevel smallOrder.key now ≠ some (.tp .tp1) := by
  have hrun : ((manager.run (.small oneWallet {}) (risenRow ++ [.post .tick])).any fun s : System =>
      decide (s.taken turn = some .tick ∧ s.firedLevel smallOrder.key 0 = some (.tp .tp1)) &&
      (s.step turn).any fun s₁ : System =>
      (manager.runUnder (System.NoFill smallOrder.key) s₁ [.resume 0 .go]).any fun t : System =>
      decide (t.taken failedTurn =
        some (.executeSell smallOrder.key 30 (.takeProfit .tp1 30 none)) ∧
          t.actor.findsRow smallOrder.key = true) && (t.step failedTurn).isSome) = true := by
    decide +kernel
  simp only [Option.any_eq_true, Bool.and_eq_true, decide_eq_true_eq,
    Option.isSome_iff_exists] at hrun
  obtain ⟨s, -, ⟨htick, hfired⟩, s₁, h₁, t, ht, ⟨hsell, hfind⟩, u, hu⟩ := hrun
  obtain ⟨p, q, -, -, hq, htrig, hlater⟩ := failed_level_stays_triggered htick hfired h₁
    (.of_runUnder ht) hsell hfind rfl hu
  exact ⟨u, q, hq, htrig, (hlater [] u (.nil u)).2⟩

end Loggaper
