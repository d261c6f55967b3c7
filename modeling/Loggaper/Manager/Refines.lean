import Loggaper.Abstract.Desk
import Loggaper.Manager.Turns

/-!
# The manager refines the buying desk

Rows, pending and closed mints are the desk's own. An order waits while its `ExecuteBuy` is in the
fan-out or in the mailbox, and runs from the spawn of `broker.buy` until its `BuyCompleted` is
taken. Each step of the manager is one move of the desk (`desk_step`), so a path of the manager
under a guard is a path of the desk (`desk_path`).
-/

namespace Loggaper

/-! ## Orders in flight -/

/-- Orders that have not reached the broker. -/
def waitingOrders : InFlight PositionKey where
  ofMessage
    | .executeBuy order => {order.key}
    | _ => 0
  external msg h := by cases msg <;> first | rfl | cases h
  bought _ _ _ _ := rfl
  refreshed _ _ _ := rfl
  live _ _ := rfl

/-- Orders at the broker, until their result is taken. -/
def runningOrders : InFlight PositionKey where
  ofMessage
    | .buyCompleted order _ _ => {order.key}
    | _ => 0
  external msg h := by cases msg <;> first | rfl | cases h
  bought _ _ _ _ := rfl
  refreshed _ _ _ := rfl
  live _ _ := rfl

/-- Mints of which some order has filled. -/
def boughtMints (log : List Effect) : Finset Address :=
  (log.filterMap fun
    | .buyConfirmed key _ => some key.mint
    | _ => none).toFinset

@[simp] theorem boughtMints_append (l₁ l₂ : List Effect) :
    boughtMints (l₁ ++ l₂) = boughtMints l₁ ∪ boughtMints l₂ := by
  simp [boughtMints]

theorem boughtMints_quiet {l : List Effect} (h : ∀ e ∈ l, e.isQuiet = true) :
    boughtMints l = ∅ := by
  induction l with
  | nil => rfl
  | cons e l ih =>
    have he := h e List.mem_cons_self
    have hl := ih fun e' he' => h e' (List.mem_cons_of_mem e he')
    cases e <;> first | exact hl | cases he

theorem boughtMints_confirmed (key : PositionKey) (r : BuyReceipt) {l : List Effect}
    (h : ∀ e ∈ l, e.isQuiet = true) : boughtMints (.buyConfirmed key r :: l) = {key.mint} := by
  have hl := boughtMints_quiet h
  simp only [boughtMints] at hl ⊢
  simp [hl]

theorem InFlight.ofTasks_eq_zero {α : Type*} (f : InFlight α) {ts : List Task}
    (h : ∀ t ∈ ts, f.ofTask t = 0) : f.ofTasks ts = 0 := by
  induction ts with
  | nil => rfl
  | cons t ts ih => simp [h t, ih fun t' ht' => h t' (List.mem_cons_of_mem t ht')]

theorem waitingOrders_quiet {ts : List Task} (h : ∀ t ∈ ts, t.isQuiet = true) :
    waitingOrders.ofTasks ts = 0 :=
  waitingOrders.ofTasks_eq_zero fun t ht => by
    have := h t ht
    cases t <;> first | rfl | cases this

theorem runningOrders_quiet {ts : List Task} (h : ∀ t ∈ ts, t.isQuiet = true) :
    runningOrders.ofTasks ts = 0 :=
  runningOrders.ofTasks_eq_zero fun t ht => by
    have := h t ht
    cases t <;> first | rfl | cases this

theorem waitingOrders_fanOut (m : PositionManagerActor) (pool : Pool) (amountSol : ℚ) (tier : Tier)
    (dev : Option Address) (early : List Address) (snap : Option LearningTradeSnapshot) :
    waitingOrders.ofTask (.fanOut (m.fanOutMessages pool amountSol tier dev early snap)) =
      (m.orderedKeys pool.mint : Multiset PositionKey) := by
  simp only [InFlight.ofTask, PositionManagerActor.fanOutMessages,
    PositionManagerActor.orderedKeys]
  induction m.wallets.enabledWallets with
  | nil => rfl
  | cons w ws ih =>
    simp only [List.map_cons, List.cons_append, List.sum_cons, ih]
    rfl

theorem runningOrders_fanOut (m : PositionManagerActor) (pool : Pool) (amountSol : ℚ) (tier : Tier)
    (dev : Option Address) (early : List Address) (snap : Option LearningTradeSnapshot) :
    runningOrders.ofTask (.fanOut (m.fanOutMessages pool amountSol tier dev early snap)) = 0 := by
  simp only [InFlight.ofTask, PositionManagerActor.fanOutMessages]
  induction m.wallets.enabledWallets with
  | nil => rfl
  | cons w ws ih =>
    simp only [List.map_cons, List.cons_append, List.sum_cons, ih]
    rfl

theorem orderedKeys_nodup (m : PositionManagerActor) (mint : Address) :
    (m.orderedKeys mint).Nodup := by
  have h := m.wallets.enabledWallets_nodup
  unfold PositionManagerActor.orderedKeys
  refine List.Nodup.of_map PositionKey.walletId ?_
  simpa [Function.comp_def] using h

theorem mint_of_mem_orderedKeys {m : PositionManagerActor} {mint : Address} {k : PositionKey}
    (h : k ∈ m.orderedKeys mint) : k.mint = mint := by
  simp only [PositionManagerActor.orderedKeys, List.mem_map] at h
  obtain ⟨w, -, rfl⟩ := h
  rfl

/-! ## The abstraction -/

/-- A desk with these gates, orders and fills. -/
def GateView.toDesk (v : GateView) (waiting running : Multiset PositionKey)
    (bought : Finset Address) : Desk PositionKey Address :=
  ⟨v.rows, v.pending, v.closed, waiting, running, bought⟩

/-- The desk that a state of the manager stands for. -/
def System.desk (s : System) : Desk PositionKey Address :=
  s.actor.view.toDesk (waitingOrders.total s) (runningOrders.total s) (boughtMints s.log)

/-- The cap on open mints, as the gate compares it. -/
def StrategyConfig.allowsOpen (limits : StrategyConfig) (n : ℕ) : Bool :=
  UInt32.ofNat n < limits.maxOpenPositions

/-- The buying desk behind a manager with these limits. -/
abbrev buyingDesk (limits : StrategyConfig) :
    Machine (Desk PositionKey Address) (Desk.Move PositionKey Address) :=
  Desk.machine PositionKey.mint limits.allowsOpen

/-- The move that a turn stands for. -/
def PositionManagerActor.turnMove (m : PositionManagerActor) (env : TurnEnv) :
    PositionMessage → Desk.Move PositionKey Address
  | .initiateBuy pool _ _ _ _ _ =>
    if m.acceptsSignal env pool.mint then .accept pool.mint (m.orderedKeys pool.mint) else .idle
  | .clearPendingMint mint => .clear mint
  | .executeBuy order => if m.issuesBuy order then .issue order.key else .drop order.key
  | .buyCompleted order _ (.error e) => .fail order.key (refusesMint e)
  | .buyCompleted order _ (.ok r) =>
    if m.abortsFill env order r then .abort order.key else .fill order.key
  | .executeSell key percent _ => if m.closesRow env key percent then .close key else .idle
  | .abandonPosition mint walletId => .abandon mint (m.abandonedKeys mint walletId)
  | _ => .idle

/-- The move that a step stands for. -/
def System.deskMove (s : System) : Event → Desk.Move PositionKey Address
  | .turn env =>
    match s.mailbox with
    | [] => .idle
    | msg :: _ => s.actor.turnMove env msg
  | _ => .idle

theorem finalize_toDesk (v : GateView) (w r : Multiset PositionKey) (b : Finset Address)
    (m : Address) :
    (v.toDesk w r b).finalize PositionKey.mint m = (v.finalize m).toDesk w r b := by
  have hopen : (v.toDesk w r b).openMints PositionKey.mint = v.openMints := rfl
  unfold Desk.finalize GateView.finalize
  rw [hopen]
  by_cases h : m ∈ v.openMints
  · rw [if_pos h, if_pos h]
  · rw [if_neg h, if_neg h]
    rfl

theorem accepts_of_acceptsSignal {m : PositionManagerActor} {env : TurnEnv} {mint : Address}
    (h : m.acceptsSignal env mint = true) (w r : Multiset PositionKey) (b : Finset Address) :
    (m.view.toDesk w r b).Accepts PositionKey.mint m.view.limits.allowsOpen mint := by
  simp only [PositionManagerActor.acceptsSignal, PositionManagerActor.isDuplicateSignal,
    Bool.and_eq_true, Bool.not_eq_true', Bool.or_eq_false_iff, decide_eq_false_iff_not,
    beq_iff_eq] at h
  obtain ⟨⟨⟨⟨-, ⟨hany, hpend⟩, hclosed⟩, -⟩, hgate⟩, -⟩ := h
  refine ⟨fun ho => ?_, hpend, hclosed, ?_⟩
  · rw [m.anyPositionForMint_iff.mpr ho] at hany
    cases hany
  · exact decide_eq_true (m.strategy.lt_cap_of_canOpen hgate)

open PositionManagerActor in
/-- **One turn is one move.** From what the rest of the system carries (`w`, `r`) and the message,
the turn's outcome is the desk's move. -/
theorem desk_turn (m : PositionManagerActor) (env : TurnEnv) (msg : PositionMessage)
    (w r : Multiset PositionKey) (b : Finset Address) :
    Desk.step PositionKey.mint m.view.limits.allowsOpen
        (m.view.toDesk (waitingOrders.ofMessage msg + w) (runningOrders.ofMessage msg + r) b)
        (m.turnMove env msg) =
      some ((m.handle env msg).actor.view.toDesk
        (w + waitingOrders.ofTasks (m.handle env msg).spawned)
        (r + runningOrders.ofTasks (m.handle env msg).spawned)
        (b ∪ boughtMints (m.handle env msg).effects)) := by
  -- a quiet outcome only sets the gates
  have hquiet {o : Outcome} {v : GateView} (h : Quiet o v) :
      o.actor.view.toDesk (w + waitingOrders.ofTasks o.spawned)
        (r + runningOrders.ofTasks o.spawned) (b ∪ boughtMints o.effects) = v.toDesk w r b := by
    rw [h.view, waitingOrders_quiet h.spawned, runningOrders_quiet h.spawned,
      boughtMints_quiet h.effects, add_zero, add_zero, Finset.union_empty]
  have hfilled {k : PositionKey} {o : Outcome} {v : GateView} (h : Filled k o v) :
      o.actor.view.toDesk (w + waitingOrders.ofTasks o.spawned)
        (r + runningOrders.ofTasks o.spawned) (b ∪ boughtMints o.effects) =
        v.toDesk w r (insert k.mint b) := by
    obtain ⟨receipt, rest, heffects, hrest⟩ := h.effects
    rw [h.view, waitingOrders_quiet h.spawned, runningOrders_quiet h.spawned, heffects,
      boughtMints_confirmed k receipt hrest, add_zero, add_zero, Finset.union_comm,
      ← Finset.insert_eq]
  cases msg with
  | updatePool pool =>
    rw [handle, hquiet (m.quiet_updatePool pool)]
    simp [Desk.step, turnMove, waitingOrders, runningOrders]
  | updateTokenBucket pool =>
    rw [handle, hquiet (m.quiet_updateTokenBucket env pool)]
    simp [Desk.step, turnMove, waitingOrders, runningOrders]
  | applyLiveSnapshot mint live =>
    rw [handle, hquiet (m.quiet_applyLiveSnapshot env mint live)]
    simp [Desk.step, turnMove, waitingOrders, runningOrders]
  | setPaused paused =>
    rw [handle, hquiet (m.quiet_setPaused paused)]
    simp [Desk.step, turnMove, waitingOrders, runningOrders]
  | tick =>
    rw [handle, hquiet (m.quiet_tick env)]
    simp [Desk.step, turnMove, waitingOrders, runningOrders]
  | applyExitMcapRefresh mint mcap useJupiter =>
    rw [handle, hquiet (m.quiet_applyExitMcapRefresh mint mcap useJupiter)]
    simp [Desk.step, turnMove, waitingOrders, runningOrders]
  | clearPendingMint mint =>
    rw [handle, hquiet (m.view_clearPendingMint mint)]
    simp [Desk.step, turnMove, waitingOrders, runningOrders, GateView.toDesk]
  | initiateBuy pool amountSol tier dev early snap =>
    by_cases h : m.acceptsSignal env pool.mint = true
    · obtain ⟨hview, hspawned, heffects⟩ := m.initiateBuy_accepted amountSol tier dev early
        snap h
      have hw : waitingOrders.ofTasks
          [.fanOut (m.fanOutMessages pool amountSol tier dev early snap)] =
          (m.orderedKeys pool.mint : Multiset PositionKey) := by
        rw [InFlight.ofTasks_cons, waitingOrders_fanOut, InFlight.ofTasks_nil, add_zero]
      have hr : runningOrders.ofTasks
          [.fanOut (m.fanOutMessages pool amountSol tier dev early snap)] = 0 := by
        rw [InFlight.ofTasks_cons, runningOrders_fanOut, InFlight.ofTasks_nil, add_zero]
      rw [handle, hview, hspawned, heffects, hw, hr, turnMove, if_pos h, Desk.step, if_pos]
      · simp [waitingOrders, runningOrders, GateView.toDesk, boughtMints]
      · exact ⟨accepts_of_acceptsSignal h _ _ _, orderedKeys_nodup m _,
          fun k hk => mint_of_mem_orderedKeys hk⟩
    · rw [Bool.not_eq_true] at h
      rw [handle, hquiet (m.initiateBuy_dropped h)]
      simp [Desk.step, turnMove, waitingOrders, runningOrders, h]
  | executeBuy order =>
    by_cases h : m.issuesBuy order = true
    · obtain ⟨hrow, hview, pool, hspawned, heffects⟩ := m.executeBuy_issued h
      rw [handle, hview, hspawned, heffects, turnMove, if_pos h, Desk.step, if_pos]
      · simp [waitingOrders, runningOrders, GateView.toDesk, boughtMints, InFlight.ofTask]
      · exact ⟨by simp [waitingOrders, GateView.toDesk], hrow⟩
    · rw [Bool.not_eq_true] at h
      rw [handle, hquiet (m.executeBuy_dropped h)]
      simp [Desk.step, turnMove, waitingOrders, runningOrders, h, GateView.toDesk]
  | buyCompleted order pool result =>
    cases result with
    | error e =>
      rw [handle, hquiet (m.quiet_applyBuyError env order pool e), turnMove, Desk.step, if_pos]
      · cases refusesMint e with
        | false => simp [waitingOrders, runningOrders, GateView.toDesk]
        | true =>
          simp only [if_true, ← finalize_toDesk]
          simp [waitingOrders, runningOrders, GateView.toDesk, BuyOrder.key]
      · simp [runningOrders, GateView.toDesk]
    | ok receipt =>
      by_cases h : m.abortsFill env order receipt = true
      · rw [handle, hfilled (m.filled_aborted h), turnMove, if_pos h, Desk.step, if_pos]
        · simp [waitingOrders, runningOrders, GateView.toDesk]
        · simp [runningOrders, GateView.toDesk]
      · rw [Bool.not_eq_true] at h
        rw [handle, hfilled (m.filled_opened h), turnMove, h, if_neg Bool.false_ne_true, Desk.step,
          if_pos]
        · simp [waitingOrders, runningOrders, GateView.toDesk]
        · simp [runningOrders, GateView.toDesk]
  | executeSell key percent reason =>
    by_cases h : m.closesRow env key percent = true
    · obtain ⟨hrow, hclose⟩ := m.quiet_executeSell_closes reason h
      rw [handle, hquiet hclose, turnMove, if_pos h, Desk.step, if_pos, ← finalize_toDesk]
      · simp [waitingOrders, runningOrders, GateView.toDesk]
      · exact hrow
    · rw [Bool.not_eq_true] at h
      rw [handle, hquiet (m.quiet_executeSell_keeps h)]
      simp [Desk.step, turnMove, waitingOrders, runningOrders, h]
  | abandonPosition mint walletId =>
    rw [handle, hquiet (m.quiet_abandonPosition mint walletId), turnMove, Desk.step, if_pos,
      ← finalize_toDesk]
    · simp [waitingOrders, runningOrders, GateView.toDesk]
    · exact fun k hk => (m.mem_abandonedKeys.mp hk).2.1

/-! ## Steps and paths -/

/-- **One step is one move of the desk.** -/
theorem desk_step {s t : System} {e : Event} (h : s.step e = some t) :
    (buyingDesk s.actor.view.limits).step s.desk (s.deskMove e) = some t.desk ∧
      t.actor.view.limits = s.actor.view.limits := by
  by_cases he : ∀ env, e ≠ .turn env
  · obtain ⟨hlog, hpos, hpend, hclosed, -, hstrat⟩ := System.step_idle h he
    have hview : t.actor.view = s.actor.view := by
      simp only [PositionManagerActor.view, hpos, hpend, hclosed, hstrat]
    have hdesk : t.desk = s.desk := by
      simp only [System.desk, hview, hlog, waitingOrders.total_idle h he,
        runningOrders.total_idle h he]
    have hmove : s.deskMove e = .idle := by
      cases e <;> first | rfl | exact absurd rfl (he _)
    rw [hmove, hdesk, hview]
    exact ⟨rfl, rfl⟩
  · push Not at he
    obtain ⟨env, rfl⟩ := he
    obtain ⟨msg, rest, hbox, ht⟩ := System.step_turn h
    obtain ⟨hws, hwt⟩ := waitingOrders.total_turn hbox h
    obtain ⟨hrs, hrt⟩ := runningOrders.total_turn hbox h
    have hmove : s.deskMove (.turn env) = s.actor.turnMove env msg := by
      simp [System.deskMove, hbox]
    have hturn := desk_turn s.actor env msg
      (waitingOrders.ofMailbox rest + waitingOrders.ofTasks s.tasks)
      (runningOrders.ofMailbox rest + runningOrders.ofTasks s.tasks) (boughtMints s.log)
    rw [← add_assoc, ← hws, ← add_assoc, ← hrs, ← hwt, ← hrt] at hturn
    subst ht
    refine ⟨?_, PositionManagerActor.limits_turn _ _ _⟩
    rw [hmove, System.desk, System.desk, boughtMints_append]
    exact hturn

/-- A step of the manager whose move meets a guard of the desk. -/
def System.Meets (H : Desk PositionKey Address → Desk.Move PositionKey Address → Prop) (s : System)
    (e : Event) : Prop :=
  H s.desk (s.deskMove e)

instance (H : Desk PositionKey Address → Desk.Move PositionKey Address → Prop)
    [∀ d a, Decidable (H d a)] (s : System) (e : Event) : Decidable (System.Meets H s e) :=
  inferInstanceAs (Decidable (H s.desk (s.deskMove e)))

/-- **The simulation.** A path of the manager under a guard of the desk is a path of the desk. -/
theorem desk_path {H : Desk PositionKey Address → Desk.Move PositionKey Address → Prop}
    {s t : System} {es : List Event} (h : manager.Path (System.Meets H) s es t) :
    ∃ as, (buyingDesk s.actor.view.limits).Path H s.desk as t.desk := by
  refine h.simulates (I := fun u => u.actor.view.limits = s.actor.view.limits) ?_ ?_ rfl
  · intro u e v hu _ hstep
    rw [(desk_step hstep).2, hu]
  · intro u e v hu hg hstep
    refine ⟨u.deskMove e, hg, ?_⟩
    rw [← hu]
    exact (desk_step hstep).1

/-- The strategy limits never change. -/
theorem limits_path {G : System → Event → Prop} {s t : System} {es : List Event}
    (h : manager.Path G s es t) : t.actor.strategy.cfg = s.actor.strategy.cfg :=
  h.invariant (I := fun u => u.actor.strategy.cfg = s.actor.strategy.cfg)
    (fun _ _ _ hu _ hstep => (desk_step hstep).2.trans hu) rfl

/-- A fresh manager is an empty desk. -/
theorem desk_fresh {s : System} (h : s.Fresh) : s.desk = ⟨∅, ∅, ∅, 0, 0, ∅⟩ := by
  simp [System.desk, GateView.toDesk, PositionManagerActor.view, InFlight.total, h.positions,
    h.pendingMints, h.closedMints, h.mailbox, h.tasks, h.log, boughtMints]

end Loggaper
