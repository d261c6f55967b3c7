import Loggaper.Launchpads.Pump.Ledger
import Mathlib.Data.List.TakeWhile

/-!
# Traders and buckets over a stream

Each wallet that trades a launched token gets one row, with the role of its first trade, and the
bucket stays. A second launch event at the same address replaces the bucket, and with it every row.

Main result: `tradersKept_of_notRelaunched`.
-/

namespace Loggaper

section
variable (poolPda : Address → Address) (key : Address)

/-- The event launches the token of this address. -/
def launchAt : Slot × PumpEvent → Bool
  | (_, .create e) => poolPda e.mint == key
  | (_, .trade _) => false

/-- The trade of this address, when the event is one. -/
def tradeAt : Slot × PumpEvent → Option (Slot × TradeEvent)
  | (_, .create _) => none
  | (slot, .trade e) => if poolPda e.mint = key then some (slot, e) else none

/-- The trades of an address that the storage processes: those after its first launch. -/
def processedTrades (es : List (Slot × PumpEvent)) : List (Slot × TradeEvent) :=
  (es.dropWhile fun e => !launchAt poolPda key e).filterMap (tradeAt poolPda key)

end

/-- No token is launched a second time. -/
def NotRelaunched (poolPda : Address → Address) : List (Slot × PumpEvent) → Prop :=
  Along fun pre e => ∀ c, e.2 = .create c → ∀ e' ∈ pre, launchAt poolPda (poolPda c.mint) e' = false

/-- The rows of a bucket against the trades that it has processed. -/
structure RowsFaithful (sniperThreshold : UInt64) (b : TokenBucket)
    (trades : List (Slot × TradeEvent)) (s : Swarm) : Prop where
  addresses : (s.traders.map Prod.fst).Nodup
  /-- Each row has a first trade, and its type is the role at that trade. -/
  first_trade : ∀ row ∈ s.traders, ∃ t ∈ trades.find? (·.2.user == row.1),
    (row.2.traderType = .creator ↔ row.1 ∈ b.pool.creators) ∧
      (row.1 ∉ b.pool.creators →
        (row.2.traderType = .sniper ↔ t.1 - b.createdAt < sniperThreshold))
  /-- Each trade has a row. -/
  complete : ∀ t ∈ trades, t.2.user ∈ s.traders.map Prod.fst

/-- The type of an account stays. -/
def Trader.SameType (t t' : Trader) : Prop := t'.traderType = t.traderType

/-- The same bucket, later: rows keep their addresses and types. -/
structure TokenBucket.KeptBy (b b' : TokenBucket) : Prop where
  createdAt : b'.createdAt = b.createdAt
  mint : b'.pool.mint = b.pool.mint
  creators : b'.pool.creators = b.pool.creators
  traders : ∀ s ∈ b.swarm, ∃ s' ∈ b'.swarm,
    Grows Trader.SameType s.traders s'.traders

/-- **Traders are kept.** After every prefix each bucket has a running swarm whose rows are faithful
to the trades since the launch, and no bucket of a prefix is replaced later. -/
structure TradersKept (poolPda : Address → Address) (sniperThreshold : UInt64)
    (es : List (Slot × PumpEvent)) : Prop where
  rows : ∀ pre, pre <+: es → ∀ key,
    ∀ b ∈ AList.lookup key (PumpLaunchpadStorage.afterEvents poolPda sniperThreshold pre).tokens,
      ∃ s ∈ b.swarm, RowsFaithful sniperThreshold b (processedTrades poolPda key pre) s
  kept : ∀ pre pre', pre <+: pre' → pre' <+: es → ∀ key,
    ∀ b ∈ AList.lookup key (PumpLaunchpadStorage.afterEvents poolPda sniperThreshold pre).tokens,
      ∃ b' ∈
          AList.lookup key (PumpLaunchpadStorage.afterEvents poolPda sniperThreshold pre').tokens,
        b.KeptBy b'

/-! ## The rows of a history -/

namespace TokenHistory

variable (sniperThreshold : UInt64) (h : TokenHistory)

/-- **The type of a row is the role at its first trade.** -/
theorem account_traderType (user : Address) :
    ((h.bucket sniperThreshold).account user).map (·.traderType) =
      (h.trades.find? (·.2.user == user)).map fun t => h.role sniperThreshold t.1 user := by
  induction h using trades_induction with
  | launch createdAt mint creator => rfl
  | trade h t ih =>
    rw [account_concat, List.find?_append]
    by_cases hu : user = t.2.user
    · have htidy := h.openAccount_tidy sniperThreshold t.1 t.2.user
      have htype := (htidy.after_spec t.2).2.2.1
      subst hu
      rw [if_pos rfl, Option.map_some, htype, openAccount]
      cases hacc : (h.bucket sniperThreshold).account t.2.user with
      | none =>
        -- the wallet's first trade
        rw [hacc, Option.map_none, eq_comm, Option.map_eq_none_iff] at ih
        rw [ih]
        simp [Trader.empty, role]
      | some trader =>
        rw [hacc] at ih
        obtain ⟨first, hfirst, htrader⟩ := Option.map_eq_some_iff.mp ih.symm
        rw [hfirst]
        exact congrArg some htrader.symm
    · rw [if_neg hu, ih, List.find?_singleton, if_neg (by simpa using Ne.symm hu), Option.or_none]
      rfl

/-- Each row of the swarm is an account. -/
theorem account_of_mem {row : Address × Trader} (hrow : row ∈ (h.swarm sniperThreshold).traders) :
    (h.bucket sniperThreshold).account row.1 = some row.2 := by
  rw [account_bucket]
  exact lookup_of_mem (h.bucket_spec sniperThreshold).2.2.2.2.addresses hrow

/-- The wallets of the swarm are those that have traded. -/
theorem mem_addresses_iff {user : Address} :
    user ∈ (h.swarm sniperThreshold).traders.map Prod.fst ↔ ∃ t ∈ h.trades, t.2.user = user := by
  induction h using trades_induction with
  | launch createdAt mint creator => simp [swarm, Swarm.new]
  | trade h t ih =>
    rw [swarm_concat, Swarm.after, mem_keys_upsert, ih]
    simp only [List.mem_append, List.mem_singleton, or_and_right, exists_or, exists_eq_left]
    rw [or_comm, eq_comm]

/-- The first trade of a row gave it its type. -/
theorem first_trade_of_mem {row : Address × Trader}
    (hrow : row ∈ (h.swarm sniperThreshold).traders) :
    ∃ first, h.trades.find? (·.2.user == row.1) = some first ∧
      h.role sniperThreshold first.1 row.1 = row.2.traderType := by
  have htype := h.account_traderType sniperThreshold row.1
  rw [h.account_of_mem sniperThreshold hrow] at htype
  exact Option.map_eq_some_iff.mp htype.symm

theorem traderType_eq_creator_iff {row : Address × Trader}
    (hrow : row ∈ (h.swarm sniperThreshold).traders) :
    row.2.traderType = .creator ↔ row.1 = h.creator := by
  obtain ⟨first, -, hrole⟩ := h.first_trade_of_mem sniperThreshold hrow
  rw [← hrole]
  exact h.role_eq_creator_iff sniperThreshold

/-- **Rows of a history.** -/
theorem rowsFaithful :
    RowsFaithful sniperThreshold (h.bucket sniperThreshold) h.trades (h.swarm sniperThreshold) := by
  obtain ⟨hcreated, -, hcreators, -, htidy⟩ := h.bucket_spec sniperThreshold
  refine ⟨htidy.addresses, fun row hrow => ?_, fun t ht => ?_⟩
  · obtain ⟨first, hfirst, hrole⟩ := h.first_trade_of_mem sniperThreshold hrow
    refine ⟨first, hfirst, ?_, ?_⟩
    · rw [hcreators, List.mem_singleton]
      exact h.traderType_eq_creator_iff sniperThreshold hrow
    · intro hnot
      rw [hcreators, List.mem_singleton] at hnot
      rw [hcreated, ← hrole]
      exact h.role_eq_sniper_iff sniperThreshold hnot
  · exact (h.mem_addresses_iff sniperThreshold).mpr ⟨t, ht, rfl⟩

/-- A trade keeps the bucket. -/
theorem keptBy_concat (t : Slot × TradeEvent) :
    (h.bucket sniperThreshold).KeptBy
      (bucket sniperThreshold { h with trades := h.trades ++ [t] }) := by
  obtain ⟨hcreated, hmint, hcreators, hswarm, htidy⟩ := h.bucket_spec sniperThreshold
  obtain ⟨hcreated', hmint', hcreators', hswarm', -⟩ :=
    bucket_spec sniperThreshold { h with trades := h.trades ++ [t] }
  refine ⟨by rw [hcreated, hcreated'], by rw [hmint, hmint'], by rw [hcreators, hcreators'], ?_⟩
  intro s hs
  rw [hswarm, Option.mem_some_iff] at hs
  subst hs
  refine ⟨_, hswarm', ?_⟩
  rw [swarm_concat]
  apply Grows.upsert (R := Trader.SameType) (fun _ => rfl)
  intro trader htrader
  exact ((htidy.rows _ htrader).after_spec t.2).2.2.1

end TokenHistory

namespace TokenBucket.KeptBy

variable {b b' b'' : TokenBucket}

theorem refl (b : TokenBucket) : b.KeptBy b :=
  ⟨rfl, rfl, rfl, fun s hs => ⟨s, hs, Grows.refl (R := Trader.SameType) (fun _ => rfl) _⟩⟩

theorem trans (h : b.KeptBy b') (h' : b'.KeptBy b'') : b.KeptBy b'' := by
  refine ⟨h'.createdAt.trans h.createdAt, h'.mint.trans h.mint, h'.creators.trans h.creators, ?_⟩
  intro s hs
  obtain ⟨s', hs', hgrow⟩ := h.traders s hs
  obtain ⟨s'', hs'', hgrow'⟩ := h'.traders s' hs'
  exact ⟨s'', hs'', hgrow.trans (fun _ _ _ h h' => Eq.trans h' h) hgrow'⟩

end TokenBucket.KeptBy

/-! ## Streams without a second launch -/

section
variable (poolPda : Address → Address) (sniperThreshold : UInt64) {es : List (Slot × PumpEvent)}

/-- **An address has a history** exactly when an event has launched its token. -/
theorem isSome_of (key : Address) :
    (TokenHistory.of poolPda key es).isSome = es.any (launchAt poolPda key) := by
  induction es using List.reverseRecOn with
  | nil => rfl
  | append_singleton es e ih =>
    obtain ⟨slot, e⟩ := e
    rw [TokenHistory.of_concat, List.any_append, ← ih]
    cases e with
    | create c =>
      by_cases hkey : poolPda c.mint = key <;> simp [TokenHistory.step, launchAt, hkey]
    | trade t =>
      by_cases hkey : poolPda t.mint = key <;> simp [TokenHistory.step, launchAt, hkey]

theorem tradeAt_of_launchAt {key : Address} {e : Slot × PumpEvent}
    (h : launchAt poolPda key e = true) : tradeAt poolPda key e = none := by
  obtain ⟨slot, e⟩ := e
  cases e with
  | create c => rfl
  | trade t => cases h

theorem dropWhile_launchAt {key : Address} (h : ∀ e ∈ es, launchAt poolPda key e = false) :
    es.dropWhile (fun e => !launchAt poolPda key e) = [] := by
  rw [List.dropWhile_eq_nil_iff]
  intro e he
  simp [h e he]

theorem processedTrades_concat (key : Address) (e : Slot × PumpEvent) :
    processedTrades poolPda key (es ++ [e]) =
      if es.any (launchAt poolPda key) then
        processedTrades poolPda key es ++ (tradeAt poolPda key e).toList
      else [] := by
  rw [processedTrades, List.dropWhile_append]
  by_cases hany : es.any (launchAt poolPda key) = true
  · have hne : (es.dropWhile fun e => !launchAt poolPda key e).isEmpty = false := by
      rw [List.isEmpty_eq_false_iff, Ne, List.dropWhile_eq_nil_iff]
      intro hall
      obtain ⟨e', he', hl⟩ := List.any_eq_true.mp hany
      have hnot := hall e' he'
      rw [hl] at hnot
      cases hnot
    rw [if_pos hany, hne, if_neg (by simp), List.filterMap_append, processedTrades]
    cases htrade : tradeAt poolPda key e <;> simp [htrade]
  · rw [if_neg hany]
    have hnone : ∀ e ∈ es, launchAt poolPda key e = false := by simpa using hany
    rw [dropWhile_launchAt poolPda hnone, List.isEmpty_nil, if_pos rfl]
    by_cases hl : launchAt poolPda key e = true
    · simp [hl, tradeAt_of_launchAt poolPda hl]
    · simp [hl]

/-- A history starts with a launch. -/
theorem any_launchAt {key : Address} {h : TokenHistory}
    (hof : TokenHistory.of poolPda key es = some h) : es.any (launchAt poolPda key) = true := by
  rw [← isSome_of, hof]
  rfl

/-- Without a second launch the history holds all processed trades. -/
theorem NotRelaunched.trades_eq (h : NotRelaunched poolPda es) (key : Address) :
    ∀ hist ∈ TokenHistory.of poolPda key es, hist.trades = processedTrades poolPda key es := by
  induction es using List.reverseRecOn with
  | nil => simp
  | append_singleton es e ih =>
    obtain ⟨hes, he⟩ := Along.append_singleton.mp h
    have ih := ih hes
    intro hist hhist
    rw [TokenHistory.of_concat] at hhist
    rw [processedTrades_concat]
    obtain ⟨slot, e⟩ := e
    cases e with
    | create c =>
      simp only [TokenHistory.step] at hhist
      split_ifs at hhist with hkey
      · -- the first launch
        subst hkey
        cases hhist
        have hany : ¬ es.any (launchAt poolPda (poolPda c.mint)) = true := by
          simpa using fun slot' e' he' => he c rfl (slot', e') he'
        rw [if_neg hany]
      · rw [if_pos (any_launchAt poolPda hhist), ih hist hhist]
        exact (List.append_nil _).symm
    | trade t =>
      simp only [TokenHistory.step] at hhist
      split_ifs at hhist with hkey
      · obtain ⟨hist', hof, rfl⟩ := Option.mem_map.mp hhist
        rw [if_pos (any_launchAt poolPda hof), ← ih hist' hof]
        simp [tradeAt, hkey]
      · rw [if_pos (any_launchAt poolPda hhist), ih hist hhist]
        simp [tradeAt, hkey]

/-- One more event either leaves a history or adds a trade to it. -/
theorem NotRelaunched.of_concat {e : Slot × PumpEvent} (h : NotRelaunched poolPda (es ++ [e]))
    {key : Address} {hist : TokenHistory} (hof : TokenHistory.of poolPda key es = some hist) :
    TokenHistory.of poolPda key (es ++ [e]) = some hist ∨
      ∃ slot t, e = (slot, .trade t) ∧ poolPda t.mint = key ∧
        TokenHistory.of poolPda key (es ++ [e]) =
          some { hist with trades := hist.trades ++ [(slot, t)] } := by
  rw [TokenHistory.of_concat, hof]
  obtain ⟨slot, e⟩ := e
  cases e with
  | create c =>
    by_cases hkey : poolPda c.mint = key
    · subst hkey
      obtain ⟨e', he', hl⟩ := List.any_eq_true.mp (any_launchAt poolPda hof)
      have hfresh := (Along.append_singleton.mp h).2 c rfl e' he'
      rw [hl] at hfresh
      cases hfresh
    · exact .inl (if_neg hkey)
  | trade t =>
    by_cases hkey : poolPda t.mint = key
    · exact .inr ⟨slot, t, rfl, hkey, if_pos hkey⟩
    · exact .inl (if_neg hkey)

/-- **What every trade keeps of a history, the stream keeps.** -/
theorem NotRelaunched.related {R : TokenHistory → TokenHistory → Prop} (hrefl : ∀ h, R h h)
    (htrans : ∀ h h' h'', R h h' → R h' h'' → R h h'') {rest : List (Slot × PumpEvent)}
    (hstep : ∀ pre slot t hist, pre ++ [(slot, .trade t)] <+: es ++ rest →
      TokenHistory.of poolPda (poolPda t.mint) pre = some hist →
      R hist { hist with trades := hist.trades ++ [(slot, t)] })
    (h : NotRelaunched poolPda (es ++ rest)) {key : Address} {hist : TokenHistory}
    (hof : TokenHistory.of poolPda key es = some hist) :
    ∃ hist', TokenHistory.of poolPda key (es ++ rest) = some hist' ∧ R hist hist' := by
  induction rest using List.reverseRecOn with
  | nil =>
    rw [List.append_nil]
    exact ⟨hist, hof, hrefl hist⟩
  | append_singleton rest e ih =>
    rw [← List.append_assoc] at h hstep ⊢
    obtain ⟨hist', hof', hrel⟩ :=
      ih (fun pre slot t hist hpre => hstep pre slot t hist (hpre.trans (List.prefix_append _ _)))
        (Along.append_singleton.mp h).1
    rcases NotRelaunched.of_concat poolPda h hof' with hsame | ⟨slot, t, rfl, rfl, hnext⟩
    · exact ⟨hist', hsame, hrel⟩
    · exact ⟨_, hnext, htrans _ _ _ hrel (hstep _ slot t hist' List.prefix_rfl hof')⟩

/-- **Traders are kept while no token is launched again.** -/
theorem tradersKept_of_notRelaunched (h : NotRelaunched poolPda es) :
    TradersKept poolPda sniperThreshold es := by
  constructor
  · intro pre hpre key b hb
    rw [PumpLaunchpadStorage.lookup_afterEvents] at hb
    obtain ⟨hist, hof, rfl⟩ := Option.mem_map.mp hb
    refine ⟨_, (hist.bucket_spec sniperThreshold).2.2.2.1, ?_⟩
    have hpre : NotRelaunched poolPda pre := h.of_prefix hpre
    rw [← hpre.trades_eq poolPda key hist hof]
    exact hist.rowsFaithful sniperThreshold
  · intro pre pre' hlonger hpre' key b hb
    obtain ⟨rest, rfl⟩ := hlonger
    rw [PumpLaunchpadStorage.lookup_afterEvents] at hb ⊢
    obtain ⟨hist, hof, rfl⟩ := Option.mem_map.mp hb
    obtain ⟨hist', hof', hkept⟩ := NotRelaunched.related poolPda
      (R := fun h h' => (h.bucket sniperThreshold).KeptBy (h'.bucket sniperThreshold))
      (fun _ => .refl _) (fun _ _ _ => .trans)
      (fun _ slot t hist _ _ => hist.keptBy_concat sniperThreshold (slot, t))
      (h.of_prefix hpre') hof
    exact ⟨_, Option.mem_map.mpr ⟨hist', hof', rfl⟩, hkept⟩

end

/-! ## Two streams -/

theorem NotRelaunched.launch {poolPda : Address → Address} (slot : Slot) (e : PumpEvent) :
    NotRelaunched poolPda [(slot, e)] := by
  refine Along.append_singleton.mpr ⟨Along.nil, ?_⟩
  intro c _ e' he'
  cases he'

theorem NotRelaunched.trade {poolPda : Address → Address} {es : List (Slot × PumpEvent)}
    (h : NotRelaunched poolPda es) (slot : Slot) (t : TradeEvent) :
    NotRelaunched poolPda (es ++ [(slot, .trade t)]) := by
  refine Along.append_singleton.mpr ⟨h, ?_⟩
  intro c hc
  cases hc

/-- A launch, a sniper's buy, and a later sell of the same wallet. -/
theorem tradersKept_of_sniper :
    TradersKept id 10 [(100, launchOfSeven), (101, .trade (tradeOfSeven true 9 5 1)),
      (130, .trade (tradeOfSeven false 9 5 1))] :=
  tradersKept_of_notRelaunched id 10
    (((NotRelaunched.launch 100 launchOfSeven).trade 101 _).trade 130 _)

/-- **A second launch loses the traders.** The bucket is replaced, and wallet 9 has no row. -/
theorem traders_lost :
    ¬ TradersKept id 10 [(100, launchOfSeven), (101, .trade (tradeOfSeven true 9 5 1)),
      (102, launchOfSeven)] := by
  intro h
  obtain ⟨b', hb', hkept⟩ := h.kept
    [(100, launchOfSeven), (101, .trade (tradeOfSeven true 9 5 1))] _
    (List.prefix_append _ [(102, launchOfSeven)]) List.prefix_rfl 7 _ rfl
  cases hb'
  exact absurd hkept.createdAt (by decide)

end Loggaper
