import Loggaper.Manager.CloseReason
import Loggaper.Manager.Outcomes
import Loggaper.Pipeline.Admission
import Mathlib.Data.List.MinMax

/-!
# Banned developers

A stop loss may put the developer of its token on a table, for good or until a time. The row is
inserted by a task of its own, which may take any time and may fail. Each launch asks the table for
the latest row of its developer that still counts.

Main result: `devBans_exact`, which launches are turned down after any run.
-/

namespace Loggaper

/-! ## The table -/

/-- An address stands for its text. -/
structure DevBlacklistEntry where
  devWallet : Address
  reason : String
  mint : Address
  pnlSol : ℚ
  closeReason : String
  createdAt : ℤ
  expiresAt : ℤ
  deriving DecidableEq

/-- `expiresAt` of a row that never expires. -/
def devBlacklistNeverExpires : ℤ := 0

namespace DevBlacklistEntry

/-- The row turns down a launch at this time. -/
def Blocks (dev : Address) (now : ℤ) (e : DevBlacklistEntry) : Prop :=
  e.devWallet = dev ∧ (e.expiresAt = devBlacklistNeverExpires ∨ now < e.expiresAt)

instance (dev : Address) (now : ℤ) (e : DevBlacklistEntry) : Decidable (e.Blocks dev now) :=
  inferInstanceAs (Decidable (_ ∧ _))

def active (e : DevBlacklistEntry) : ActiveDevBlacklist := ⟨e.reason, e.expiresAt⟩

end DevBlacklistEntry

/-- The latest row that still counts. Of rows of the same second the database returns any. -/
def activeForDev (table : List DevBlacklistEntry) (dev : Address) (now : ℤ) (tie : ℕ) :
    Option ActiveDevBlacklist :=
  let rows := table.filter (·.Blocks dev now)
  let latest := rows.filter fun e => rows.all (·.createdAt ≤ e.createdAt)
  latest[tie % latest.length]?.map (·.active)

theorem isSome_activeForDev_iff (table : List DevBlacklistEntry) (dev : Address) (now : ℤ)
    (tie : ℕ) :
    (activeForDev table dev now tie).isSome = true ↔ ∃ e ∈ table, e.Blocks dev now := by
  simp only [activeForDev, Option.isSome_map]
  set rows := table.filter (·.Blocks dev now) with hrows
  set latest := rows.filter fun e => rows.all (·.createdAt ≤ e.createdAt) with hlatest
  have hmem (e : DevBlacklistEntry) : e ∈ rows ↔ e ∈ table ∧ e.Blocks dev now := by
    rw [hrows, List.mem_filter, decide_eq_true_eq]
  constructor
  · intro h
    obtain ⟨e, he⟩ := Option.isSome_iff_exists.mp h
    exact ⟨e, (hmem e).mp (List.mem_of_mem_filter (List.mem_of_getElem? he))⟩
  · rintro ⟨e, he⟩
    obtain ⟨top, htop⟩ : ∃ top, top ∈ List.argmax (·.createdAt) rows :=
      Option.ne_none_iff_exists'.mp
        (mt List.argmax_eq_none.mp (List.ne_nil_of_mem ((hmem e).mpr he)))
    have hin : top ∈ latest := by
      rw [hlatest, List.mem_filter]
      exact ⟨List.argmax_mem htop,
        List.all_eq_true.mpr fun e' he' => decide_eq_true (List.le_of_mem_argmax he' htop)⟩
    rw [isSome_getElem?]
    exact Nat.mod_lt _ (List.length_pos_of_mem hin)

/-! ## The bans of the manager -/

structure DevBanConfig extends DevBlacklistConfig where
  cooldownSecs : ℤ := 7 * 24 * 3600

/-- The end of a cooldown is an `i64` sum, which wraps. -/
def DevBlacklistTier.expiresAt (cfg : DevBanConfig) (closedAt : ℤ) : DevBlacklistTier → ℤ
  | permanentRug => devBlacklistNeverExpires
  | timed => asI64 (closedAt + cfg.cooldownSecs)

namespace PositionManagerActor

variable (m : PositionManagerActor) (cfg : DevBanConfig) (env : TurnEnv)

/-- The row that a close inserts. The time is a reading of the clock of its own. -/
def banOf (key : PositionKey) (reason : SellReason) (pos : Position) (totalReturned : ℚ) :
    Option DevBlacklistEntry := do
  let dev ← pos.devAddress
  let pnlPctSol := closedPnlPctSol pos totalReturned
  let tier ← classifyDevBlacklist reason.text pnlPctSol cfg.toDevBlacklistConfig
  some {
    devWallet := dev
    reason := buildBlacklistReason tier reason.text pnlPctSol
    mint := key.mint
    pnlSol := closedPnlSol pos totalReturned
    closeReason := reason.text
    createdAt := asI64 (env.clock 2)
    expiresAt := tier.expiresAt cfg (asI64 (env.clock 2)) }

/-- The insert that a turn spawns. -/
def spawnedBan : PositionMessage → Option DevBlacklistEntry
  | .executeSell key percent reason =>
    match AList.lookup key m.positions, env.sell with
    | some pos, .ok r =>
      if m.closesRow env key percent then
        banOf cfg env key reason pos (pos.totalReturned + r.solReceivedActual)
      else none
    | _, _ => none
  | _ => none

end PositionManagerActor

/-- The manager, the inserts under way and the table. -/
structure BanSystem where
  sys : System
  inserts : List DevBlacklistEntry
  table : List DevBlacklistEntry

inductive BanEvent
  | manager (e : Event)
  /-- An insert ends. -/
  | inserted (i : ℕ) (ok : Bool)

namespace BanSystem

def spawned (cfg : DevBanConfig) (s : BanSystem) : BanEvent → Option DevBlacklistEntry
  | .manager (.turn env) => s.sys.mailbox.head?.bind (s.sys.actor.spawnedBan cfg env)
  | _ => none

def step (cfg : DevBanConfig) (s : BanSystem) : BanEvent → Option BanSystem
  | .manager e => (s.sys.step e).map fun t =>
      ⟨t, s.inserts ++ (s.spawned cfg (.manager e)).toList, s.table⟩
  | .inserted i ok => s.inserts[i]?.map fun row =>
      { s with
        inserts := s.inserts.eraseIdx i
        table := if ok then s.table ++ [row] else s.table }

end BanSystem

def banMachine (cfg : DevBanConfig) : Machine BanSystem BanEvent where
  init s := s.sys.Fresh ∧ s.inserts = []
  step := BanSystem.step cfg

/-! ## What a ban is about -/

/-- A close that bans, with what its exit saw. -/
structure DevBan where
  dev : Address
  mint : Address
  reason : SellReason
  tier : DevBlacklistTier
  pnlSol : ℚ
  pnlPctSol : ℚ
  closedAt : ℤ

namespace DevBan

/-- For good, or until the cooldown is over. A sum that wraps ends in the past, or at the second
that stands for never. -/
def Blocks (cfg : DevBanConfig) (dev : Address) (now : ℤ) (b : DevBan) : Prop :=
  b.dev = dev ∧ (b.tier.expiresAt cfg b.closedAt = devBlacklistNeverExpires ∨
    now < b.tier.expiresAt cfg b.closedAt)

def row (cfg : DevBanConfig) (b : DevBan) : DevBlacklistEntry where
  devWallet := b.dev
  reason := buildBlacklistReason b.tier b.reason.text b.pnlPctSol
  mint := b.mint
  pnlSol := b.pnlSol
  closeReason := b.reason.text
  createdAt := b.closedAt
  expiresAt := b.tier.expiresAt cfg b.closedAt

end DevBan

namespace PositionManagerActor

variable (m : PositionManagerActor) (cfg : DevBanConfig) (env : TurnEnv)

/-- The close of a row that bans its developer. -/
def devBanOf (key : PositionKey) (reason : SellReason) (pos : Position) (totalReturned : ℚ) :
    Option DevBan := do
  let dev ← pos.devAddress
  let pnlPctSol := closedPnlPctSol pos totalReturned
  let tier ← reason.devTier cfg.toDevBlacklistConfig pnlPctSol
  some ⟨dev, key.mint, reason, tier, closedPnlSol pos totalReturned, pnlPctSol,
    asI64 (env.clock 2)⟩

/-- The ban of a turn: a confirmed sell that ends a stopped row. -/
def devBan : PositionMessage → Option DevBan
  | .executeSell key percent reason =>
    match AList.lookup key m.positions, env.sell with
    | some pos, .ok r =>
      if m.closesRow env key percent then
        devBanOf cfg env key reason pos (pos.totalReturned + r.solReceivedActual)
      else none
    | _, _ => none
  | _ => none

theorem banOf_eq (key : PositionKey) (reason : SellReason) (pos : Position) (totalReturned : ℚ) :
    banOf cfg env key reason pos totalReturned =
      (devBanOf cfg env key reason pos totalReturned).map (DevBan.row cfg) := by
  simp only [banOf, devBanOf, classify_text]
  cases pos.devAddress with
  | none => rfl
  | some dev =>
    cases reason.devTier cfg.toDevBlacklistConfig (closedPnlPctSol pos totalReturned) with
    | none => rfl
    | some tier => simp only [Option.bind_eq_bind, Option.bind_some, Option.map_some, DevBan.row]

/-- The text of the reason loses nothing that the ban depends on. -/
theorem spawnedBan_eq (msg : PositionMessage) :
    m.spawnedBan cfg env msg = (m.devBan cfg env msg).map (DevBan.row cfg) := by
  cases msg with
  | executeSell key percent reason =>
    simp only [spawnedBan, devBan]
    cases AList.lookup key m.positions with
    | none => rfl
    | some pos =>
      cases env.sell with
      | error e => rfl
      | ok r =>
        cases m.closesRow env key percent with
        | true => exact banOf_eq cfg env key reason pos _
        | false => rfl
  | _ => rfl

end PositionManagerActor

namespace BanSystem

variable {cfg : DevBanConfig} {s t : BanSystem}

def devBan (cfg : DevBanConfig) (s : BanSystem) : BanEvent → Option DevBan
  | .manager (.turn env) => s.sys.mailbox.head?.bind (s.sys.actor.devBan cfg env)
  | _ => none

theorem spawned_eq (e : BanEvent) : s.spawned cfg e = (s.devBan cfg e).map (DevBan.row cfg) := by
  cases e with
  | inserted i ok => rfl
  | manager e =>
    cases e with
    | turn env =>
      simp only [spawned, devBan]
      cases s.sys.mailbox.head? with
      | none => rfl
      | some msg => exact s.sys.actor.spawnedBan_eq cfg env msg
    | _ => rfl

end BanSystem

/-- The bans of a run. -/
def devBans (cfg : DevBanConfig) (s : BanSystem) (es : List BanEvent) : List DevBan :=
  (banMachine cfg).trace (BanSystem.devBan cfg) s es

def BanEvent.isLost : BanEvent → Bool
  | .inserted _ ok => !ok
  | .manager _ => false

/-! ## A run -/

/-- Where the bans of a run are at its end. -/
structure BansKept (cfg : DevBanConfig) (s t : BanSystem) (started landed lost under : List DevBan)
    (es : List BanEvent) : Prop where
  table : t.table = s.table ++ landed.map (DevBan.row cfg)
  inserts : t.inserts = under.map (DevBan.row cfg)
  perm : (landed ++ lost ++ under).Perm (started ++ devBans cfg s es)
  lost : lost.length = es.countP BanEvent.isLost

/-- **A ban is inserted once**, unless its insert fails. -/
theorem bansKept_path {cfg : DevBanConfig} {s t : BanSystem} {es : List BanEvent}
    (h : (banMachine cfg).Path Machine.free s es t) (started : List DevBan)
    (hstarted : s.inserts = started.map (DevBan.row cfg)) :
    ∃ landed lost under, BansKept cfg s t started landed lost under es := by
  induction h generalizing started with
  | nil s => exact ⟨[], [], started, by simp, hstarted, by simp [devBans, Machine.trace], rfl⟩
  | @cons s u t e es _ hstep _ ih =>
    have htrace : devBans cfg s (e :: es) = (s.devBan cfg e).toList ++ devBans cfg u es :=
      (banMachine cfg).trace_cons _ hstep es
    cases e with
    | manager e =>
      obtain ⟨sys, -, rfl⟩ := Option.map_eq_some_iff.mp hstep
      obtain ⟨landed, lost, under, hkept⟩ := ih (started ++ (s.devBan cfg (.manager e)).toList) (by
        rw [hstarted, s.spawned_eq, List.map_append, Option.toList_map])
      refine ⟨landed, lost, under, hkept.table, hkept.inserts, ?_, hkept.lost⟩
      rw [htrace, ← List.append_assoc]
      exact hkept.perm
    | inserted i ok =>
      obtain ⟨row, hrow, rfl⟩ := Option.map_eq_some_iff.mp hstep
      rw [hstarted, List.getElem?_map, Option.map_eq_some_iff] at hrow
      obtain ⟨b, hb, rfl⟩ := hrow
      obtain ⟨hi, rfl⟩ := List.getElem?_eq_some_iff.mp hb
      obtain ⟨landed, lost, under, hkept⟩ := ih (started.eraseIdx i) (by
        rw [hstarted, List.eraseIdx_map])
      have hperm : (started[i] :: (landed ++ lost ++ under)).Perm
          (started ++ devBans cfg s (.inserted i ok :: es)) := by
        rw [htrace]
        exact (hkept.perm.cons _).trans
          ((List.getElem_cons_eraseIdx_perm hi).append_right (devBans cfg _ es))
      cases ok with
      | true =>
        refine ⟨started[i] :: landed, lost, under, ?_, hkept.inserts, hperm, hkept.lost⟩
        rw [hkept.table]
        simp
      | false =>
        refine ⟨landed, started[i] :: lost, under, hkept.table, hkept.inserts, ?_, ?_⟩
        · rw [List.append_assoc, List.cons_append]
          rw [List.append_assoc] at hperm
          exact List.perm_middle.trans hperm
        · rw [List.length_cons, hkept.lost]
          simp [BanEvent.isLost]

/-! ## The launches that are turned down -/

section
variable {cfg : LaunchConfig} {pubkey : Address → String} {create : GeneralCreate}
  {ans : FilterAnswers}

theorem admitFailing_stage {s : CreatorHistory} {skip : Skip}
    (h : admitFailing cfg create ans s = .rejected skip) : skip.stage = "filter_creator" := by
  unfold admitFailing at h
  cases hprior : ans.priorCoins with
  | error e => simp [hprior] at h
  | ok prior =>
    simp only [hprior] at h
    split_ifs at h
    · cases hadd : ans.watchlist.tryAdd cfg.freshWatchlist create.mint with
      | ok watchlist => simp [hadd] at h
      | error e =>
        cases e with
        | duplicate => simp [hadd] at h
        | _ =>
          simp only [hadd, Admission.rejected.injEq] at h
          subst h
          rfl
    · cases h
      rfl

theorem admitHistory_stage {skip : Skip} (h : admitHistory cfg create ans = .rejected skip) :
    skip.stage ∈ ["filter_db", "filter_creator", "filter_no_history"] := by
  unfold admitHistory at h
  cases hhistory : ans.history with
  | error msg =>
    simp only [hhistory, Admission.rejected.injEq] at h
    subst h
    exact List.mem_cons_self
  | ok known =>
    cases known with
    | some s =>
      simp only [hhistory] at h
      split_ifs at h
      rw [admitFailing_stage h]
      decide
    | none =>
      simp only [hhistory] at h
      split_ifs at h
      cases h
      decide

/-- **The gate.** A launch is turned down for its developer when the gate is on, the quote is SOL
and the table has an answer. -/
theorem admission_blacklisted_iff :
    (∃ label, admission cfg pubkey create ans = .rejected ⟨"filter_dev_blacklist", label⟩) ↔
      cfg.blacklistEnabled = true ∧ create.isNativeSolQuote = true ∧
        ∃ active, ans.blacklisted = .ok (some active) := by
  constructor
  · rintro ⟨label, h⟩
    have hquote : create.isNativeSolQuote = true := by
      by_contra hother
      rw [Bool.not_eq_true] at hother
      simp [admission, hother] at h
    by_contra hnone
    have hpass : blacklistSkip cfg ans = none := by
      unfold blacklistSkip
      split
      case h_1 active henabled hanswer => exact absurd ⟨henabled, hquote, active, hanswer⟩ hnone
      case h_2 => rfl
    simp only [admission, hquote, hpass, Bool.not_true, Bool.false_eq_true, if_false] at h
    split_ifs at h
    have hstage := admitHistory_stage h
    simp at hstage
  · rintro ⟨henabled, hquote, active, h⟩
    have hskip : blacklistSkip cfg ans = some ⟨"filter_dev_blacklist", active.label⟩ := by
      rw [blacklistSkip, henabled, h]
    refine ⟨active.label, ?_⟩
    simp only [admission, hquote, hskip, Bool.not_true, Bool.false_eq_true, if_false]

end

theorem DevBan.blocks_row_iff {cfg : DevBanConfig} {dev : Address} {now : ℤ} {b : DevBan} :
    (b.row cfg).Blocks dev now ↔ b.Blocks cfg dev now := Iff.rfl

/-- **Who is turned down.** After any run of the manager, in which the inserts of bans end at any
time and in any order, or fail: a gate that is on and whose lookup succeeds turns down, of the
launches that are quoted in SOL, exactly those of the developers of a row that was there before and
of a stop loss of the run whose insert has landed. A rug spike counts for good and any other stop
loss until its cooldown is over; of the closes of a run only stop losses count, and each is inserted
once. -/
theorem devBans_exact (cfg : DevBanConfig) {s t : BanSystem} {es : List BanEvent}
    (hidle : s.inserts = []) (h : (banMachine cfg).Path Machine.free s es t) :
    ∃ landed lost under : List DevBan,
      (landed ++ lost ++ under).Perm (devBans cfg s es) ∧
      under.length = t.inserts.length ∧ lost.length = es.countP BanEvent.isLost ∧
      ∀ (launch : LaunchConfig) (pubkey : Address → String) (create : GeneralCreate)
        (ans : FilterAnswers) (now : ℤ) (tie : ℕ),
        -- the lookup fails or answers with what the table has
        (∀ found, ans.blacklisted = .ok found → found = activeForDev t.table create.user now tie) →
        ((∃ label, admission launch pubkey create ans =
            .rejected ⟨"filter_dev_blacklist", label⟩) ↔
          launch.blacklistEnabled = true ∧ create.isNativeSolQuote = true ∧
          (∃ found, ans.blacklisted = .ok found) ∧
          ((∃ e ∈ s.table, e.Blocks create.user now) ∨
            ∃ b ∈ landed, b.Blocks cfg create.user now)) := by
  obtain ⟨landed, lost, under, hkept⟩ := bansKept_path h [] hidle
  have hunder : under.length = t.inserts.length := by rw [hkept.inserts, List.length_map]
  refine ⟨landed, lost, under, hkept.perm, hunder, hkept.lost, ?_⟩
  intro launch pubkey create ans now tie hanswer
  have htable : (∃ e ∈ t.table, e.Blocks create.user now) ↔
      (∃ e ∈ s.table, e.Blocks create.user now) ∨ ∃ b ∈ landed, b.Blocks cfg create.user now := by
    simp only [hkept.table, List.mem_append, List.mem_map, or_and_right, exists_or]
    refine or_congr_right ⟨?_, ?_⟩
    · rintro ⟨_, ⟨b, hb, rfl⟩, hblocks⟩
      exact ⟨b, hb, DevBan.blocks_row_iff.mp hblocks⟩
    · rintro ⟨b, hb, hblocks⟩
      exact ⟨b.row cfg, ⟨b, hb, rfl⟩, DevBan.blocks_row_iff.mpr hblocks⟩
  have hfound : (∃ active, ans.blacklisted = .ok (some active)) ↔
      (∃ found, ans.blacklisted = .ok found) ∧ ∃ e ∈ t.table, e.Blocks create.user now := by
    rw [← isSome_activeForDev_iff t.table create.user now tie]
    constructor
    · rintro ⟨active, hactive⟩
      exact ⟨⟨_, hactive⟩, by rw [← hanswer _ hactive]; rfl⟩
    · rintro ⟨⟨found, hok⟩, hsome⟩
      rw [← hanswer found hok] at hsome
      obtain ⟨active, rfl⟩ := Option.isSome_iff_exists.mp hsome
      exact ⟨active, hok⟩
  rw [admission_blacklisted_iff, hfound, htable]

/-- A token of developer 8 is bought, and a crash stops it. -/
def crashing : BanSystem where
  sys := { System.small oneWallet {} with
    mailbox := [
      .buyCompleted ⟨1, "wallet_1", 1 / 10, some 8, [], none⟩ (smallPool 1)
        (.ok ⟨1 / 10, 1000, none, none⟩),
      .executeSell ⟨1, "wallet_1"⟩ 100
        (.stopLoss true (-75) (-30) (-75) (-75) 30 8 none (some 70))] }
  inserts := []
  table := []

def crashRun : List BanEvent := [.manager turn, .manager turn, .inserted 0 true]

/-- A launch of developer 8, whatever the time and the rest of the answers. -/
theorem devBans_exact_crashed :
    ∃ t, (banMachine {}).run crashing crashRun = some t ∧ ∀ now tie,
      ∃ label, admission {} (fun _ => "dev") ⟨7, 8, none, 0⟩
        ⟨.ok (activeForDev t.table 8 now tie), .ok 3, .ok none, .ok 0, .new⟩ =
          .rejected ⟨"filter_dev_blacklist", label⟩ := by
  have hrun : ((banMachine {}).run crashing crashRun).any (fun t => t.inserts.isEmpty) = true := by
    decide +kernel
  obtain ⟨t, ht, hinserts⟩ := (Option.any_eq_true _ _).mp hrun
  obtain ⟨landed, lost, under, hperm, hunder, hlost, hgate⟩ := devBans_exact {} rfl (.of_run ht)
  have hnone : lost ++ under = [] := by
    rw [List.isEmpty_iff.mp hinserts, List.length_nil] at hunder
    have hkept : crashRun.countP BanEvent.isLost = 0 := by decide
    rw [hkept] at hlost
    rw [List.length_eq_zero_iff.mp hunder, List.length_eq_zero_iff.mp hlost, List.append_nil]
  rw [List.append_assoc, hnone, List.append_nil] at hperm
  have hban : (devBans {} crashing crashRun).any (fun b => b.dev = 8 ∧ b.tier = .permanentRug) =
      true := by
    decide +kernel
  obtain ⟨b, hb, hrug⟩ := List.any_eq_true.mp hban
  obtain ⟨hdev, htier⟩ := of_decide_eq_true hrug
  refine ⟨t, ht, fun now tie => ?_⟩
  refine (hgate _ _ ⟨7, 8, none, 0⟩ _ now tie fun found hfound => ?_).mpr
    ⟨rfl, rfl, ⟨_, rfl⟩, .inr ⟨b, hperm.mem_iff.mpr hb, ?_⟩⟩
  · exact (Except.ok.inj hfound).symm
  · rw [DevBan.Blocks, htier]
    exact ⟨hdev, .inl rfl⟩

end Loggaper
