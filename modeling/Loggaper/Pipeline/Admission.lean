import Loggaper.Pipeline.Entry
import Loggaper.Pipeline.FreshWatchlist

/-!
# From a launch to a buy signal

A launch goes through the filters for its developer: the quote mint, the blacklist, the cheap count
of the developer's coins and the history. What they let through is scored at once, or, where only
immature statistics stand against it, watched for a while first. The database may fail at any
question.

Main result: `launch_justified`, what a signal says about the developer.
-/

namespace Loggaper

/-! ## The creator filter -/

/-- The statistics of a creator with those that only the filter reads. -/
structure CreatorHistory extends CreatorStatistics where
  medianMarketCapSol : ℚ
  averageBuyTraderSizeSol : ℚ

structure CreatorStatisticsFilter where
  minTotalCoins : Option ℕ := none
  maxTotalCoins : Option ℕ := none
  /-- Developers with more coins than this are spam. -/
  spamSkipCoins : Option ℕ := some 100
  /-- Public keys. -/
  spamDevWhitelist : List String := []
  minMedianMarketCap : Option ℚ := none
  minTraderPnlAverage : Option ℚ := none
  minTotalHoldersAverage : Option ℚ := none
  minAverageVolume : Option ℚ := none
  minMedianTotalTrades : Option ℚ := none
  minAverageUniqueBuyToSellRatio : Option ℚ := none
  minAverageBuyTraderSize : Option ℚ := none

namespace CreatorStatisticsFilter

variable (flt : CreatorStatisticsFilter) (s : CreatorHistory)

def isSpamDevWhitelisted (dev : String) : Bool := flt.spamDevWhitelist.any (· == dev)

/-- Each configured bound, and whether the history fails it. -/
def checks : List (String × Bool) :=
  [ ("min_total_coins", flt.minTotalCoins.any (s.totalCoins < ·)),
    ("max_total_coins", flt.maxTotalCoins.any (· < s.totalCoins)),
    ("min_median_market_cap", flt.minMedianMarketCap.any (s.medianMarketCapSol < ·)),
    ("min_trader_pnl_average", flt.minTraderPnlAverage.any (s.traderPnlAverage < ·)),
    ("min_total_holders_average",
      flt.minTotalHoldersAverage.any ((s.totalHoldersAverage : ℚ) < ·)),
    ("min_average_volume", flt.minAverageVolume.any (s.averageVolume < ·)),
    ("min_median_total_trades", flt.minMedianTotalTrades.any ((s.medianTotalTrades : ℚ) < ·)),
    ("min_average_unique_buy_to_sell_ratio",
      flt.minAverageUniqueBuyToSellRatio.any (s.averageUniqueBuyToSellRatio < ·)),
    ("min_average_buy_trader_size",
      flt.minAverageBuyTraderSize.any (s.averageBuyTraderSizeSol < ·)) ]

/-- The bounds that the history fails. -/
def rejectReasons : List String := ((flt.checks s).filter Prod.snd).map Prod.fst

def filter : Bool := (flt.rejectReasons s).isEmpty

theorem isSpamDevWhitelisted_eq_false_iff {dev : String} :
    flt.isSpamDevWhitelisted dev = false ↔ dev ∉ flt.spamDevWhitelist := by
  simp only [isSpamDevWhitelisted, List.any_eq_false, beq_iff_eq]
  constructor
  · intro h hmem
    exact h dev hmem rfl
  · rintro h _ hmem rfl
    exact h hmem

end CreatorStatisticsFilter

/-- Bounds that a developer's first coin fails for its age. -/
def earlyStats : List String :=
  ["min_median_market_cap", "min_trader_pnl_average", "min_total_holders_average",
    "min_average_volume", "min_median_total_trades"]

def isEarlyStatsOnlyReject (reasons : List String) : Bool :=
  !reasons.isEmpty && reasons.all earlyStats.contains

/-! ## The filters -/

/-- The bytes of an address are read from the lowest one on. -/
def nativeSolQuoteMint : Address :=
  0x0100000000f0a098553beb1adc39c4da35c01846637f68fb8481abfe57889b06

/-- Old events leave the quote mint at the system program. -/
def legacySolQuoteMint : Address := 0

def GeneralCreate.isNativeSolQuote (create : GeneralCreate) : Bool :=
  create.quoteMint == nativeSolQuoteMint || create.quoteMint == legacySolQuoteMint

structure ActiveDevBlacklist where
  reason : String
  expiresAt : ℤ

/-- The label of a skip for the blacklist. -/
def ActiveDevBlacklist.label (active : ActiveDevBlacklist) : String :=
  if active.expiresAt = 0 || textStartsWith active.reason "dev_blacklist_permanent:" then
    "dev_blacklist_permanent"
  else "dev_blacklist"

structure LaunchConfig extends EntryConfig where
  blacklistEnabled : Bool := true
  creatorConfig : CreatorStatisticsFilter := {}
  freshWatchlist : FreshWatchlistConfig := {}

/-- What the database and the watchlist answer. -/
structure FilterAnswers where
  blacklisted : Except String (Option ActiveDevBlacklist)
  /-- The developer's rows in the table of coins. -/
  coins : Except String ℕ
  history : Except String (Option CreatorHistory)
  priorCoins : Except String ℕ
  watchlist : FreshWatchlistManager

/-- The count stops after one coin more than the cap. -/
def countCreatorCoinsCapped (coins cap : ℕ) : ℕ := min coins (cap + 1)

theorem cap_lt_countCreatorCoinsCapped_iff {coins cap : ℕ} :
    cap < countCreatorCoinsCapped coins cap ↔ cap < coins := by
  unfold countCreatorCoinsCapped
  omega

inductive Admission
  | rejected (skip : Skip)
  /-- Rejected without a row in the log, or watched already. -/
  | dropped
  | watched
  | scored (devStats : Option CreatorStatistics) (isSpamDev : Bool)

section
variable (cfg : LaunchConfig) (pubkey : Address → String) (create : GeneralCreate)
  (ans : FilterAnswers)

/-- A lookup that fails lets the developer through. -/
def blacklistSkip : Option Skip :=
  match cfg.blacklistEnabled, ans.blacklisted with
  | true, .ok (some active) => some ⟨"filter_dev_blacklist", active.label⟩
  | _, _ => none

/-- A count that fails leaves the developer to the history. -/
def isSpamDev : Bool :=
  match cfg.creatorConfig.spamSkipCoins, ans.coins with
  | some cap, .ok coins => decide (cap < countCreatorCoinsCapped coins cap) &&
      !cfg.creatorConfig.isSpamDevWhitelisted (pubkey create.user)
  | _, _ => false

/-- A history that fails the filter: the watchlist may take the developer's first coin. -/
def admitFailing (s : CreatorHistory) : Admission :=
  let reasons := cfg.creatorConfig.rejectReasons s
  match ans.priorCoins with
  | .error _ => .dropped
  | .ok prior =>
    if cfg.freshWatchlist.enabled && cfg.scoring.tierB.enabled && prior == 0 &&
        isEarlyStatsOnlyReject reasons then
      match ans.watchlist.tryAdd cfg.freshWatchlist create.mint with
      | .ok _ => .watched
      | .error .duplicate => .dropped
      | .error _ => .rejected ⟨"filter_creator", "creator_config_rejected"⟩
    else .rejected ⟨"filter_creator", "creator_config_rejected"⟩

def admitHistory : Admission :=
  match ans.history with
  | .error msg => .rejected ⟨"filter_db", msg⟩
  | .ok (some s) =>
    if cfg.creatorConfig.filter s then .scored (some s.toCreatorStatistics) false
    else admitFailing cfg create ans s
  | .ok none =>
    if cfg.scoring.tierB.enabled then .scored none false
    else .rejected ⟨"filter_no_history", "no_creator_history"⟩

def admission : Admission :=
  if !create.isNativeSolQuote then .rejected ⟨"filter_quote_mint", "unsupported_quote_mint"⟩
  else
    match blacklistSkip cfg ans with
    | some skip => .rejected skip
    | none =>
      if isSpamDev cfg pubkey create ans then .scored none true else admitHistory cfg create ans

end

/-! ## The launch -/

/-- One poll of the watchlist, with what was learned by then. -/
structure WatchPoll where
  patch : FeatureThresholdPatch
  sample : WatchSample

/-- What the actors answer from the launch on. -/
structure LaunchAnswers where
  filters : FilterAnswers
  bucket : TokenBucket
  /-- The polls until the deadline; one that finds no bucket says nothing. -/
  polls : List WatchPoll
  entry : EntryAnswers

section
variable (tanh : ℚ → ℚ) (cfg : LaunchConfig) (pubkey : Address → String) (create : GeneralCreate)
  (ans : LaunchAnswers)

/-- Whether a poll of the watchlist passes before its deadline. -/
def watchPasses (initialMcapSol : ℚ) : Bool :=
  ans.polls.any fun poll => tierBPollPasses
    (pollBGates tanh cfg.scoring poll.patch create.mint create.user initialMcapSol poll.sample)

def pipelineInput (devStats : Option CreatorStatistics) (isSpamDev fromFreshWatchlist : Bool) :
    ScoringPipelineInput :=
  ⟨create.mint, create.user, devStats, isSpamDev, ans.bucket, fromFreshWatchlist⟩

/-- The task of a watched mint: the pipeline again, as a developer without statistics. -/
def watchTask : Option EntryOutcome := do
  let initialMcapSol ← ans.bucket.poolMcap
  if watchPasses tanh cfg create ans initialMcapSol then
    runScoringAndBuy tanh cfg.toEntryConfig (pipelineInput create ans none false true) ans.entry
  else some (.skipped ⟨"fresh_watchlist", "watchlist_rejected"⟩)

def handleCreate : Option EntryOutcome :=
  match admission cfg pubkey create ans.filters with
  | .rejected skip => some (.skipped skip)
  | .dropped => none
  | .watched => watchTask tanh cfg create ans
  | .scored devStats isSpamDev =>
    runScoringAndBuy tanh cfg.toEntryConfig (pipelineInput create ans devStats isSpamDev false)
      ans.entry

end

/-! ## What a signal says about the developer -/

section
variable {tanh : ℚ → ℚ} {cfg : LaunchConfig} {pubkey : Address → String} {create : GeneralCreate}

/-- The lane that a launch takes through the filters, with the tiers at its end. -/
inductive Lane (tanh : ℚ → ℚ) (cfg : LaunchConfig) (pubkey : Address → String)
    (create : GeneralCreate) (ans : LaunchAnswers) : Tier → Prop
  /-- More coins than the cap: the history is not asked for, the tape decides. -/
  | spam {tier : Tier} (cap coins : ℕ) (hcap : cfg.creatorConfig.spamSkipCoins = some cap)
      (hcoins : ans.filters.coins = .ok coins) (hmany : cap < coins)
      (hlist : pubkey create.user ∉ cfg.creatorConfig.spamDevWhitelist)
      (htier : tier = .aPlus ∨ tier = .a)
      (hlive : cfg.mode = .live → cfg.gates.spamDevRequireAPlus = true → tier = .aPlus) :
      Lane tanh cfg pubkey create ans tier
  /-- A history that meets every bound. -/
  | ranked {tier : Tier} (s : CreatorHistory) (hhistory : ans.filters.history = .ok (some s))
      (hbounds : cfg.creatorConfig.rejectReasons s = []) (htier : tier = .aPlus ∨ tier = .a) :
      Lane tanh cfg pubkey create ans tier
  /-- No history. -/
  | fresh (hhistory : ans.filters.history = .ok none)
      (hlane : cfg.scoring.tierB.enabled = true) :
      Lane tanh cfg pubkey create ans .b
  /-- A first coin that fails early statistics only, and whose gates passed while it was watched. -/
  | watched (s : CreatorHistory) (poll : WatchPoll) (initialMcapSol : ℚ)
      (hhistory : ans.filters.history = .ok (some s)) (hprior : ans.filters.priorCoins = .ok 0)
      (hreasons : cfg.creatorConfig.rejectReasons s ≠ [])
      (hearly : cfg.creatorConfig.rejectReasons s ⊆ earlyStats)
      (hnew : create.mint ∉ ans.filters.watchlist.active) (hpoll : poll ∈ ans.polls)
      (hpasses : tierBPollPasses (pollBGates tanh cfg.scoring poll.patch create.mint create.user
        initialMcapSol poll.sample) = true) :
      Lane tanh cfg pubkey create ans .b

variable {ans : FilterAnswers}

theorem isSpamDev_eq_true_iff : isSpamDev cfg pubkey create ans = true ↔
    ∃ cap coins, cfg.creatorConfig.spamSkipCoins = some cap ∧ ans.coins = .ok coins ∧
      cap < coins ∧ pubkey create.user ∉ cfg.creatorConfig.spamDevWhitelist := by
  unfold isSpamDev
  cases hcap : cfg.creatorConfig.spamSkipCoins with
  | none => simp
  | some cap =>
    cases hcoins : ans.coins with
    | error e => simp
    | ok coins =>
      simp [cap_lt_countCreatorCoinsCapped_iff,
        CreatorStatisticsFilter.isSpamDevWhitelisted_eq_false_iff]

theorem isEarlyStatsOnlyReject_iff {reasons : List String} :
    isEarlyStatsOnlyReject reasons = true ↔ reasons ≠ [] ∧ reasons ⊆ earlyStats := by
  simp only [isEarlyStatsOnlyReject, Bool.and_eq_true, Bool.not_eq_true', List.isEmpty_eq_false_iff,
    List.all_eq_true, List.contains_iff_mem]
  rfl

theorem admitFailing_ne_scored {s : CreatorHistory} {devStats : Option CreatorStatistics}
    {spam : Bool} : admitFailing cfg create ans s ≠ .scored devStats spam := by
  unfold admitFailing
  cases ans.priorCoins with
  | error e => exact Admission.noConfusion
  | ok prior =>
    dsimp only
    split_ifs
    · cases ans.watchlist.tryAdd cfg.freshWatchlist create.mint with
      | ok m => exact Admission.noConfusion
      | error e => cases e <;> exact Admission.noConfusion
    · exact Admission.noConfusion

/-- Only a first coin that fails early statistics is watched. -/
theorem admitFailing_eq_watched {s : CreatorHistory}
    (h : admitFailing cfg create ans s = .watched) :
    ans.priorCoins = .ok 0 ∧ cfg.scoring.tierB.enabled = true ∧
      cfg.creatorConfig.rejectReasons s ≠ [] ∧ cfg.creatorConfig.rejectReasons s ⊆ earlyStats ∧
      create.mint ∉ ans.watchlist.active := by
  unfold admitFailing at h
  cases hprior : ans.priorCoins with
  | error e =>
    rw [hprior] at h
    cases h
  | ok prior =>
    rw [hprior] at h
    dsimp only at h
    split_ifs at h with heligible
    simp only [Bool.and_eq_true, beq_iff_eq] at heligible
    obtain ⟨⟨⟨-, hlane⟩, hzero⟩, hearly⟩ := heligible
    obtain ⟨hreasons, hsub⟩ := isEarlyStatsOnlyReject_iff.mp hearly
    cases hadd : ans.watchlist.tryAdd cfg.freshWatchlist create.mint with
    | error e =>
      rw [hadd] at h
      cases e <;> cases h
    | ok m =>
      exact ⟨by rw [hzero], hlane, hreasons, hsub, (FreshWatchlistManager.tryAdd_eq_ok hadd).1⟩

/-- How the history lets a launch through. -/
theorem admitHistory_eq_scored {devStats : Option CreatorStatistics} {spam : Bool}
    (h : admitHistory cfg create ans = .scored devStats spam) :
    spam = false ∧ ((∃ s, ans.history = .ok (some s) ∧ devStats = some s.toCreatorStatistics ∧
        cfg.creatorConfig.rejectReasons s = []) ∨
      ans.history = .ok none ∧ devStats = none ∧ cfg.scoring.tierB.enabled = true) := by
  unfold admitHistory at h
  cases hhistory : ans.history with
  | error e =>
    rw [hhistory] at h
    cases h
  | ok history =>
    rw [hhistory] at h
    cases history with
    | none =>
      dsimp only at h
      split_ifs at h with hlane
      cases h
      exact ⟨rfl, .inr ⟨rfl, rfl, hlane⟩⟩
    | some s =>
      dsimp only at h
      split_ifs at h with hfilter
      · cases h
        exact ⟨rfl, .inl ⟨s, rfl, rfl, List.isEmpty_iff.mp hfilter⟩⟩
      · exact absurd h admitFailing_ne_scored

theorem admitHistory_eq_watched (h : admitHistory cfg create ans = .watched) :
    ∃ s, ans.history = .ok (some s) ∧ admitFailing cfg create ans s = .watched := by
  unfold admitHistory at h
  cases hhistory : ans.history with
  | error e =>
    rw [hhistory] at h
    cases h
  | ok history =>
    rw [hhistory] at h
    cases history with
    | none =>
      dsimp only at h
      split_ifs at h
    | some s =>
      dsimp only at h
      split_ifs at h
      exact ⟨s, rfl, h⟩

/-- A launch that the cheap filters have nothing against. -/
structure CleanLaunch (cfg : LaunchConfig) (create : GeneralCreate) (ans : FilterAnswers) :
    Prop where
  quote : create.quoteMint = nativeSolQuoteMint ∨ create.quoteMint = legacySolQuoteMint
  not_blacklisted : cfg.blacklistEnabled = true → ∀ active, ans.blacklisted ≠ .ok (some active)

theorem not_blacklisted_of_skip (h : blacklistSkip cfg ans = none)
    (henabled : cfg.blacklistEnabled = true) (active : ActiveDevBlacklist) :
    ans.blacklisted ≠ .ok (some active) := by
  intro hactive
  rw [blacklistSkip, henabled, hactive] at h
  cases h

theorem admission_spec {a : Admission} (h : admission cfg pubkey create ans = a)
    (hin : ∀ skip, a ≠ .rejected skip) :
    CleanLaunch cfg create ans ∧
      (isSpamDev cfg pubkey create ans = true ∧ a = .scored none true ∨
        admitHistory cfg create ans = a) := by
  unfold admission at h
  cases hquote : create.isNativeSolQuote with
  | false =>
    rw [hquote] at h
    exact absurd h.symm (hin _)
  | true =>
    rw [hquote] at h
    simp only [GeneralCreate.isNativeSolQuote, Bool.or_eq_true, beq_iff_eq] at hquote
    cases hskip : blacklistSkip cfg ans with
    | some skip =>
      rw [hskip] at h
      exact absurd h.symm (hin _)
    | none =>
      rw [hskip] at h
      refine ⟨⟨hquote, not_blacklisted_of_skip hskip⟩, ?_⟩
      cases hspam : isSpamDev cfg pubkey create ans with
      | true =>
        rw [hspam] at h
        exact .inl ⟨rfl, h.symm⟩
      | false =>
        rw [hspam] at h
        exact .inr h

/-- A tier outside of the lane of fresh developers. -/
theorem tier_of_not_fresh {tier : Tier} (hskip : tier ≠ .skip) (hb : tier ≠ .b) :
    tier = .aPlus ∨ tier = .a := by
  cases tier with
  | aPlus => exact .inl rfl
  | a => exact .inr rfl
  | b => exact absurd rfl hb
  | skip => exact absurd rfl hskip

/-- **A signal is justified.** Whatever the actors and the database answer: the launch is clean, the
amount keeps to the operator's cap and to the size of the tier, and the developer has come through
one of four lanes, each with its own tiers. A live A+ names a smart wallet, and a live A has
moved. -/
theorem launch_justified {ans : LaunchAnswers} {msg : PositionMessage}
    (h : handleCreate tanh cfg pubkey create ans = some (.sent msg)) :
    ∃ pool amountSol tier buyers snap,
      msg = .initiateBuy pool amountSol tier (some create.user) buyers (some snap) ∧
      CleanLaunch cfg create ans.filters ∧ Lane tanh cfg pubkey create ans tier ∧
      SoundSignal cfg.toEntryConfig ans.entry amountSol tier snap := by
  unfold handleCreate at h
  cases had : admission cfg pubkey create ans.filters with
  | rejected skip =>
    rw [had] at h
    cases h
  | dropped =>
    rw [had] at h
    cases h
  | watched =>
    rw [had] at h
    obtain ⟨hclean, hway⟩ := admission_spec had fun _ => Admission.noConfusion
    have hhistory : admitHistory cfg create ans.filters = .watched :=
      hway.resolve_left fun hspam => Admission.noConfusion hspam.2
    obtain ⟨s, hs, hfailing⟩ := admitHistory_eq_watched hhistory
    obtain ⟨hprior, hlane, hreasons, hearly, hnew⟩ := admitFailing_eq_watched hfailing
    obtain ⟨initialMcapSol, -, h⟩ := Option.bind_eq_some_iff.mp h
    split_ifs at h with hpasses
    · obtain ⟨poll, hpoll, hpasses⟩ := List.any_eq_true.mp hpasses
      obtain ⟨pool, amountSol, tier, buyers, snap, hmsg, hjust⟩ := justified_of_sent h
      obtain rfl : tier = .b := hjust.lane.mpr ⟨rfl, hlane, rfl⟩
      exact ⟨pool, amountSol, .b, buyers, snap, hmsg, hclean,
        .watched s poll initialMcapSol hs hprior hreasons hearly hnew hpoll hpasses,
        hjust.toSoundSignal⟩
    · cases h
  | scored devStats spam =>
    rw [had] at h
    obtain ⟨hclean, hway⟩ := admission_spec had fun _ => Admission.noConfusion
    obtain ⟨pool, amountSol, tier, buyers, snap, hmsg, hjust⟩ := justified_of_sent h
    refine ⟨pool, amountSol, tier, buyers, snap, hmsg, hclean, ?_, hjust.toSoundSignal⟩
    rcases hway with ⟨hspam, hscored⟩ | hhistory
    · cases hscored
      obtain ⟨cap, coins, hcap, hcoins, hmany, hlist⟩ := isSpamDev_eq_true_iff.mp hspam
      have hb : tier ≠ .b := fun hb => Bool.noConfusion (hjust.lane.mp hb).not_spam
      exact .spam cap coins hcap hcoins hmany hlist (tier_of_not_fresh hjust.not_skip hb)
        fun hlive => hjust.spam hlive rfl
    · obtain ⟨rfl, ⟨s, hs, rfl, hbounds⟩ | ⟨hs, rfl, hlane⟩⟩ := admitHistory_eq_scored hhistory
      · have hb : tier ≠ .b := fun hb => Option.some_ne_none _ (hjust.lane.mp hb).no_stats
        exact .ranked s hs hbounds (tier_of_not_fresh hjust.not_skip hb)
      · obtain rfl : tier = .b := hjust.lane.mpr ⟨rfl, hlane, rfl⟩
        exact .fresh hs hlane

end

/-- A trader who has paid 1.2 SOL and holds tokens. -/
def earlyHolder : Trader := ⟨.fromRaw 1_000_000 6, 0, .fromRaw 1_200_000_000 9, 0, 0, 0, .regular⟩

/-- Ten wallets buy, and the market cap grows from 50 to 60 SOL. -/
def growingAnswers : LaunchAnswers where
  filters := ⟨.ok none, .ok 3, .ok none, .ok 0, .new⟩
  bucket := .new (.new 7 8) 0
  polls := []
  entry :=
    { window := fun i => some ⟨.new (.new 7 8) 0,
        ⟨10, 10, 0, 12, 0, 0, if i = 0 then 50 else 60⟩⟩
      confirm := fun _ => none
      recheck := fun _ => none
      patch := {}
      regulars := (List.range 10).map fun i => (BitVec.ofNat 256 (100 + i), earlyHolder)
      snipers := []
      trader := fun _ => none
      devRanker := ∅
      rankedAt := 0
      counting := ∅
      countedAt := 0
      listing := ∅
      listedAt := 0
      operatorCap := 1 / 10 }

/-- A live bot without the gate on one-sided markets. -/
def laneOpen : LaunchConfig := { scoring := { antiRug := { entryGateEnabled := false } } }

theorem launch_justified_fresh :
    ∃ msg, handleCreate (fun _ => 0) laneOpen (fun _ => "dev") ⟨7, 8, none, 0⟩ growingAnswers =
        some (.sent msg) ∧
      ∃ pool amountSol tier buyers snap,
        msg = .initiateBuy pool amountSol tier (some 8) buyers (some snap) ∧
        CleanLaunch laneOpen ⟨7, 8, none, 0⟩ growingAnswers.filters ∧
        Lane (fun _ => 0) laneOpen (fun _ => "dev") ⟨7, 8, none, 0⟩ growingAnswers tier ∧
        SoundSignal laneOpen.toEntryConfig growingAnswers.entry amountSol tier snap := by
  have hsent : ((handleCreate (fun _ => 0) laneOpen (fun _ => "dev") ⟨7, 8, none, 0⟩
      growingAnswers).any fun outcome => outcome.signal?.isSome) = true := by
    decide +kernel
  obtain ⟨outcome, houtcome, hsome⟩ := (Option.any_eq_true _ _).mp hsent
  cases outcome with
  | skipped skip => cases hsome
  | sent msg => exact ⟨msg, houtcome, launch_justified houtcome⟩

end Loggaper
