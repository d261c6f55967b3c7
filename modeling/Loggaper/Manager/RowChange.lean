import Loggaper.Manager.Rows
import Loggaper.Manager.TickFrames

/-!
# Where a row comes from

Each row after a turn is the row of its key before the turn, changed in one of a few ways, or the
row that a fill opens. What an invariant says about the fields of rows is derived from this.

- `RowChange`: the ways.
- `rowChange_or_opened`: every row after every turn is one of them.
-/

namespace Loggaper

open PositionManagerActor in
/-- **How a turn changes a row that it keeps.** -/
inductive RowChange (m : PositionManagerActor) (env : TurnEnv) (key : PositionKey) (p : Position) :
    PositionMessage → Position → Prop
  | same {msg : PositionMessage} : RowChange m env key p msg p
  | pool {pool : Pool} :
      key.mint = pool.mint → RowChange m env key p (.updatePool pool) { p with pool := pool }
  | bucket {pool : Pool} :
      key.mint = pool.mint → RowChange m env key p (.updateTokenBucket pool) { p with pool := pool }
  | live {live : LivePositionSnapshot} :
      RowChange m env key p (.applyLiveSnapshot key.mint live)
        (applyLive m.config.exitV4 env live p)
  | exitMcap {mcap : ℚ} {useJupiter : Bool} :
      RowChange m env key p (.applyExitMcapRefresh key.mint mcap useJupiter)
        (applyExitMcap mcap useJupiter p)
  | ticked : RowChange m env key p .tick (m.tickRow (env.clock 0) key p).pos
  | sellFailed {percent : ℚ} {reason : SellReason} {e : BrokerError} :
      RowChange m env key p (.executeSell key percent reason) (rowAfterSellError e percent p)
  | soldPart {percent : ℚ} {reason : SellReason} {r : SellReceipt} :
      RowChange m env key p (.executeSell key percent reason)
        (rowAfterPartialSell r (p.sellQty percent) p)

namespace RowChange

variable {m : PositionManagerActor} {env : TurnEnv} {key : PositionKey} {p q : Position}
  {msg : PositionMessage}

/-- What the signal told about a row stays. -/
theorem signal_kept (h : RowChange m env key p msg q) :
    q.entryTime = p.entryTime ∧ q.devAddress = p.devAddress ∧ q.earlyBuyers = p.earlyBuyers := by
  cases h with
  | ticked =>
    have hbooks := (tickPosition_spec m.config key.mint m.hasRpc (env.clock 0) p).books
    exact ⟨congrArg Books.entryTime hbooks, congrArg Books.devAddress hbooks,
      congrArg Books.earlyBuyers hbooks⟩
  | exitMcap =>
    unfold PositionManagerActor.applyExitMcap
    split_ifs <;> exact ⟨rfl, rfl, rfl⟩
  | sellFailed =>
    unfold PositionManagerActor.rowAfterSellError
    split_ifs <;> exact ⟨rfl, rfl, rfl⟩
  | _ => exact ⟨rfl, rfl, rfl⟩

/-- Only a refreshed price writes the quote, and only it and a tick put a row on Jupiter's price. -/
theorem quote_kept (h : RowChange m env key p msg q)
    (hmsg : ∀ mint mcap useJupiter, msg ≠ .applyExitMcapRefresh mint mcap useJupiter) :
    q.exitMcapJupiter = p.exitMcapJupiter ∧
      (msg = .tick ∨ q.useJupiterExitMcap = p.useJupiterExitMcap) := by
  cases h with
  | exitMcap => exact absurd rfl (hmsg _ _ _)
  | ticked =>
    exact ⟨(keepsFeeds_tickPosition m.config p key.mint m.hasRpc (env.clock 0)).exitMcapJupiter,
      .inl rfl⟩
  | sellFailed =>
    unfold PositionManagerActor.rowAfterSellError
    split_ifs <;> exact ⟨rfl, .inr rfl⟩
  | _ => exact ⟨rfl, .inr rfl⟩

/-- Only a live snapshot writes the tape. -/
theorem tape_kept (h : RowChange m env key p msg q)
    (hmsg : ∀ mint live, msg ≠ .applyLiveSnapshot mint live) :
    q.liveTapeCurr = p.liveTapeCurr := by
  cases h with
  | live => exact absurd rfl (hmsg _ _)
  | ticked =>
    exact (keepsFeeds_tickPosition m.config p key.mint m.hasRpc (env.clock 0)).liveTapeCurr
  | exitMcap =>
    unfold PositionManagerActor.applyExitMcap
    split_ifs <;> rfl
  | sellFailed =>
    unfold PositionManagerActor.rowAfterSellError
    split_ifs <;> rfl
  | _ => rfl

end RowChange

/-! ## Where a row comes from -/

/-- The fields that the signal and the tape and price feeds write are the same. -/
structure SameSource (p q : Position) : Prop where
  entryTime : q.entryTime = p.entryTime
  devAddress : q.devAddress = p.devAddress
  earlyBuyers : q.earlyBuyers = p.earlyBuyers
  liveTapePrev : q.liveTapePrev = p.liveTapePrev
  liveTapeCurr : q.liveTapeCurr = p.liveTapeCurr
  useJupiterExitMcap : q.useJupiterExitMcap = p.useJupiterExitMcap
  exitMcapJupiter : q.exitMcapJupiter = p.exitMcapJupiter

namespace PositionManagerActor

section
variable (cfg : SmartBuyConfig) (order : BuyOrder) (pool : Pool) (r : BuyReceipt) (now : ℕ)

theorem sameSource_openedPosition :
    SameSource
      { Position.new order.walletId pool (.fromFloatNative r.tokensReceived) now
          (entryBaselineMcap cfg order.learningSnapshot r) with
        devAddress := order.devAddress
        earlyBuyers := order.earlyBuyers }
      (openedPosition cfg order pool r now) := by
  obtain ⟨_, _, _, _, _, _, _, _, _, _, _, hopened⟩ := exists_openedPosition cfg order pool r now
  rw [hopened]
  exact ⟨rfl, rfl, rfl, rfl, rfl, rfl, rfl⟩

/-- A row opens with what its signal told. -/
theorem openedPosition_signal :
    let q := openedPosition cfg order pool r now
    q.entryTime = now ∧ q.devAddress = order.devAddress ∧ q.earlyBuyers = order.earlyBuyers := by
  have hsource := sameSource_openedPosition cfg order pool r now
  exact ⟨hsource.entryTime, hsource.devAddress, hsource.earlyBuyers⟩

/-- A row opens without a tape and without a quote. -/
theorem openedPosition_feeds :
    let q := openedPosition cfg order pool r now
    q.liveTapePrev = none ∧ q.liveTapeCurr = none ∧ q.useJupiterExitMcap = false ∧
      q.exitMcapJupiter = none := by
  have hsource := sameSource_openedPosition cfg order pool r now
  exact ⟨hsource.liveTapePrev, hsource.liveTapeCurr, hsource.useJupiterExitMcap,
    hsource.exitMcapJupiter⟩

end

variable (m : PositionManagerActor) (env : TurnEnv) (key : PositionKey)

theorem lookup_tick :
    AList.lookup key (m.tick env).actor.positions =
      (AList.lookup key m.positions).map fun p => (m.tickRow (env.clock 0) key p).pos := by
  simp only [tick, processPositions, KeyedMap.lookup_mapVals, positions_refreshDue,
    tickRow_refreshDue]

/-- A fill that is kept opens its row. -/
theorem applyBuyResult_opens (order : BuyOrder) (pool : Pool) (r : BuyReceipt) :
    (m.abortsFill env order r = true ∧
        (m.applyBuyResult env order pool (.ok r)).actor.positions = m.positions) ∨
      (m.abortsFill env order r = false ∧
        (m.applyBuyResult env order pool (.ok r)).actor.positions =
          m.positions.insert order.key (openedPosition m.config order pool r (env.clock 0))) := by
  rcases m.applyBuyResult_ok env order pool r with
    ⟨habort, spike, sr, -, -, heq⟩ | ⟨hkeep, sold, -, heq⟩
  · exact .inl ⟨habort, by rw [heq]; rfl⟩
  · exact .inr ⟨hkeep, by rw [heq]; rfl⟩

variable {m env key} {q : Position}

/-- The row of the key is changed in this way, when there is one. -/
theorem rowChange_of_map {msg : PositionMessage} {rows : KeyedMap PositionKey Position}
    (f : Position → Position)
    (hrows : AList.lookup key rows = (AList.lookup key m.positions).map f)
    (hf : ∀ p, RowChange m env key p msg (f p)) (h : AList.lookup key rows = some q) :
    ∃ p, AList.lookup key m.positions = some p ∧ RowChange m env key p msg q := by
  rw [hrows] at h
  obtain ⟨p, hp, rfl⟩ := Option.map_eq_some_iff.mp h
  exact ⟨p, hp, hf p⟩

theorem rowChange_of_same {msg : PositionMessage} {rows : KeyedMap PositionKey Position}
    (hrows : AList.lookup key rows = AList.lookup key m.positions)
    (h : AList.lookup key rows = some q) :
    ∃ p, AList.lookup key m.positions = some p ∧ RowChange m env key p msg q :=
  ⟨q, hrows.symm.trans h, .same⟩

theorem rowChange_executeSell {k : PositionKey} {percent : ℚ} {reason : SellReason}
    (h : AList.lookup key (m.executeSell env k percent reason).actor.positions = some q) :
    ∃ p, AList.lookup key m.positions = some p ∧
      RowChange m env key p (.executeSell k percent reason) q := by
  by_cases hk : k = key
  · subst hk
    cases hfind : m.findsRow k with
    | false =>
      rw [executeSell_idle hfind] at h
      exact ⟨q, h, .same⟩
    | true =>
      obtain ⟨p, hp⟩ := exists_row_of_findsRow hfind
      refine ⟨p, hp, ?_⟩
      cases hsell : env.sell with
      | error e =>
        rw [executeSell_error hfind hp hsell] at h
        simp only [AList.lookup_insert, Option.some.injEq] at h
        exact h ▸ .sellFailed
      | ok r =>
        by_cases hpct : percent < 100
        · rw [executeSell_part hfind hp hsell hpct] at h
          simp only [AList.lookup_insert, Option.some.injEq] at h
          exact h ▸ .soldPart
        · rw [executeSell_full hfind hp hsell (not_lt.mp hpct)] at h
          simp only [Outcome.after, recordClose, positions_maybeFinalizeClosedMint,
            AList.lookup_erase, reduceCtorEq] at h
  · exact rowChange_of_same (m.executeSell_other key env percent reason hk).1 h

/-- **Where a row comes from.** -/
theorem rowChange_or_opened {msg : PositionMessage}
    (h : AList.lookup key (m.handle env msg).actor.positions = some q) :
    (∃ p, AList.lookup key m.positions = some p ∧ RowChange m env key p msg q) ∨
      ∃ order pool r, msg = .buyCompleted order pool (.ok r) ∧ m.abortsFill env order r = false ∧
        key = order.key ∧ q = openedPosition m.config order pool r (env.clock 0) := by
  cases msg with
  | updatePool pool =>
    refine .inl (rowChange_of_map _ (lookup_updateRows _ key pool.mint _) (fun p => ?_) h)
    split_ifs with hmint
    · exact .pool hmint
    · exact .same
  | updateTokenBucket pool =>
    refine .inl (rowChange_of_map _ (lookup_updateRows _ key pool.mint _) (fun p => ?_) h)
    split_ifs with hmint
    · exact .bucket hmint
    · exact .same
  | applyLiveSnapshot mint live =>
    refine .inl (rowChange_of_map _ (lookup_updateRows _ key mint _) (fun p => ?_) h)
    split_ifs with hmint
    · subst hmint; exact .live
    · exact .same
  | applyExitMcapRefresh mint mcap useJupiter =>
    refine .inl (rowChange_of_map _ (lookup_updateRows _ key mint _) (fun p => ?_) h)
    split_ifs with hmint
    · subst hmint; exact .exitMcap
    · exact .same
  | tick => exact .inl (rowChange_of_map _ (m.lookup_tick env key) (fun p => .ticked) h)
  | setPaused paused => exact .inl (rowChange_of_same rfl h)
  | clearPendingMint mint => exact .inl (rowChange_of_same rfl h)
  | initiateBuy pool amountSol tier dev early snap =>
    have hrows := (m.initiateBuy_rows key env pool amountSol tier dev early snap).1
    exact .inl (rowChange_of_same (congrArg _ hrows) h)
  | executeBuy order =>
    exact .inl (rowChange_of_same (congrArg _ (m.executeBuy_rows key order).1) h)
  | executeSell k percent reason => exact .inl (rowChange_executeSell h)
  | abandonPosition mint walletId =>
    simp only [handle, abandonPosition, positions_maybeFinalizeClosedMint,
      KeyedMap.lookup_eraseAll] at h
    split_ifs at h
    exact .inl ⟨q, h, .same⟩
  | buyCompleted order pool result =>
    cases result with
    | error e =>
      refine .inl (rowChange_of_same ?_ h)
      exact (m.applyBuyResult_other key env pool (by intro r hr; cases hr)).1
    | ok r =>
      rcases m.applyBuyResult_opens env order pool r with ⟨-, hrows⟩ | ⟨hkeep, hrows⟩
      · exact .inl (rowChange_of_same (congrArg _ hrows) h)
      · rw [handle, hrows, KeyedMap.lookup_insert_eq] at h
        split_ifs at h with hkey
        · exact .inr ⟨order, pool, r, rfl, hkeep, hkey, by simpa using h.symm⟩
        · exact .inl ⟨q, h, .same⟩

end PositionManagerActor

end Loggaper
