import Loggaper.Manager.Noted
import Loggaper.Manager.RowChange
import Loggaper.Manager.SellFlags
import Loggaper.Manager.TickFrames

/-!
# The history of a row

A diary says what is written down about a row when a tick or a live snapshot changes it. The
history of a row is what has been written since the fill that opened it, the newest first. What an
opened row meets with nothing written, and ticks and snapshots keep, every row of every run meets
with its history.

- `RowMemory`: the fields of a row that no other message writes.
- `Diary.history`: the rule.
- `row_invariant`: the same for what needs no history.
-/

namespace Loggaper

/-- The part of a row that only fills, ticks and live snapshots write. -/
structure RowMemory where
  feed : FeedState
  score : ScoreState
  decay : DecayState
  slBelowFloorStreak : ℕ
  exitProfitFloor : ℚ
  triggered : SellLevel → Bool
  learningSnapshot : Option LearningTradeSnapshot

def Position.memory (pos : Position) : RowMemory :=
  ⟨pos.feed, pos.score, pos.decay, pos.slBelowFloorStreak, pos.exitProfitFloor, pos.triggered,
    pos.learningSnapshot⟩

theorem RowChange.memory_kept {m : PositionManagerActor} {env : TurnEnv} {key : PositionKey}
    {p q : Position} {msg : PositionMessage} (h : RowChange m env key p msg q) (htick : msg ≠ .tick)
    (hlive : ∀ mint live, msg ≠ .applyLiveSnapshot mint live) : q.memory = p.memory := by
  cases h with
  | ticked => exact absurd rfl htick
  | live => exact absurd rfl (hlive _ _)
  | exitMcap =>
    unfold PositionManagerActor.applyExitMcap
    split_ifs <;> rfl
  | sellFailed =>
    unfold PositionManagerActor.rowAfterSellError
    split_ifs <;> rfl
  | _ => rfl

theorem memory_pushExitMcapTick (pos : Position) (mcap : ℚ) (n : ℕ) :
    (pos.pushExitMcapTick mcap n).memory = pos.memory := by
  unfold Position.pushExitMcapTick
  split_ifs <;> rfl

theorem triggered_none {pos : Position} (hceiling : pos.mcapCeilingTriggered = false)
    (htp : ∀ n, pos.tpTriggered n = false) : pos.triggered = fun _ => false := by
  funext l
  cases l with
  | ceiling => exact hceiling
  | tp n => exact htp n

theorem memory_new (walletId : String) (pool : Pool) (amount : Amount) (now : ℕ) (fill : Option ℚ) :
    (Position.new walletId pool amount now fill).memory =
      { feed := ⟨0, 0, 1⟩
        score := ⟨(Position.new walletId pool amount now fill).enterMcap.toFloat, 0, .exploration⟩
        decay := ⟨0, false, 0, 0⟩
        slBelowFloorStreak := 0
        exitProfitFloor := -16
        triggered := fun _ => false
        learningSnapshot := none } := by
  have htriggered : (Position.new walletId pool amount now fill).triggered = fun _ => false :=
    triggered_none rfl fun n => by cases n <;> rfl
  simp only [Position.memory, htriggered]
  rfl

namespace PositionManagerActor

/-- The part of `openedPosition` before the settings of the signal. -/
def pricedRow (cfg : SmartBuyConfig) (order : BuyOrder) (pool : Pool) (r : BuyReceipt) (now : ℕ) :
    Position :=
  let baseline := entryBaselineMcap cfg order.learningSnapshot r
  let pos := Position.new order.walletId pool (Amount.fromFloatNative r.tokensReceived) now baseline
  match baseline.filter (0 < ·) with
  | some entryMcap =>
    { ({ pos with exitMcapTicks := [] }).pushExitMcapTick entryMcap cfg.exitMcapMedianTicks with
      slPrevRawMcap := some entryMcap }
  | none => pos

theorem memory_pricedRow (cfg : SmartBuyConfig) (order : BuyOrder) (pool : Pool) (r : BuyReceipt)
    (now : ℕ) : (pricedRow cfg order pool r now).memory =
      (Position.new order.walletId pool (Amount.fromFloatNative r.tokensReceived) now
        (entryBaselineMcap cfg order.learningSnapshot r)).memory := by
  unfold pricedRow
  dsimp only
  split
  · exact memory_pushExitMcapTick _ _ _
  · rfl

/-- The memory of a row that a fill opens. -/
theorem openedPosition_memory (cfg : SmartBuyConfig) (order : BuyOrder) (pool : Pool)
    (r : BuyReceipt) (now : ℕ) :
    ∃ mcap : Amount, (openedPosition cfg order pool r now).memory =
      { feed := ⟨0, 0,
          if cfg.exitV4.enabled then entryLiveScoreFloor order.learningSnapshot else 1⟩
        score := ⟨mcap.toFloat,
          if cfg.exitV4.enabled then entryLiveScoreFloor order.learningSnapshot else 0,
          .exploration⟩
        decay := ⟨0, false, 0, 0⟩
        slBelowFloorStreak := 0
        exitProfitFloor := cfg.exitProfitFloor
        triggered := fun _ => false
        learningSnapshot := order.learningSnapshot } := by
  have hsettings : (openedPosition cfg order pool r now).memory =
      let priced := (pricedRow cfg order pool r now).memory
      { priced with
        feed.liveScoreEntryFloor :=
          if cfg.exitV4.enabled then entryLiveScoreFloor order.learningSnapshot
          else priced.feed.liveScoreEntryFloor
        score.liveScore :=
          if cfg.exitV4.enabled then entryLiveScoreFloor order.learningSnapshot
          else priced.score.liveScore
        score.exitPhase := if cfg.exitV4.enabled then .exploration else priced.score.exitPhase
        exitProfitFloor := cfg.exitProfitFloor
        learningSnapshot := order.learningSnapshot } := by
    refine (memory_pushExitMcapTick _ _ _).trans ?_
    by_cases hv4 : cfg.exitV4.enabled = true
    · simp only [if_pos hv4]
      rfl
    · simp only [if_neg hv4]
      rfl
  refine ⟨(Position.new order.walletId pool (Amount.fromFloatNative r.tokensReceived) now
    (entryBaselineMcap cfg order.learningSnapshot r)).enterMcap, ?_⟩
  rw [hsettings, memory_pricedRow, memory_new]
  simp only [ite_self]

end PositionManagerActor

/-- What is written down about a row. -/
structure Diary (τ : Type*) where
  /-- When a tick of this second comes to the row. -/
  tick : PositionManagerActor → ℕ → PositionKey → Position → Option τ
  /-- When a live snapshot comes to the row. -/
  live : PositionManagerActor → TurnEnv → LivePositionSnapshot → Position → Option τ

/-- What has been written about each row since it was opened, the newest first. -/
abbrev Histories (τ : Type*) := PositionKey → List τ

/-- The row of a key in a noted manager. -/
def Noted.row {α β γ : Type*} (w : Noted α β γ) (key : PositionKey) : Option Position :=
  AList.lookup key w.actor.positions

namespace Diary

variable {τ : Type*} (D : Diary τ)

def write (h : Histories τ) (m : PositionManagerActor) (env : TurnEnv) :
    PositionMessage → Unit → Histories τ
  | .tick, _ => fun key =>
    ((AList.lookup key m.positions).bind (D.tick m (env.clock 0) key)).toList ++ h key
  | .applyLiveSnapshot mint live, _ => fun key =>
    if key.mint = mint then
      ((AList.lookup key m.positions).bind (D.live m env live)).toList ++ h key
    else h key
  | .buyCompleted order _ (.ok r), _ =>
    if m.abortsFill env order r then h else Function.update h order.key []
  | _, _ => h

def notes : Notes Unit Unit (Histories τ) Empty Unit where
  start h := ∀ key, h key = []
  posted := ()
  left := ()
  spawned _ _ := ()
  answered _ _ _ _ _ := some ()
  turn := D.write
  outside _ d := d.elim

/-- The manager with the histories of its rows. -/
abbrev Kept (τ : Type*) := Noted Unit Unit (Histories τ)

/-- An opened row meets `I` with an empty history, and ticks and snapshots keep it. -/
structure Keeps (I : SmartBuyConfig → List τ → RowMemory → Prop) : Prop where
  opened (cfg : SmartBuyConfig) (order : BuyOrder) (pool : Pool) (r : BuyReceipt) (now : ℕ) :
    I cfg [] (PositionManagerActor.openedPosition cfg order pool r now).memory
  tick (m : PositionManagerActor) (now : ℕ) (key : PositionKey) (h : List τ) (p : Position) :
    I m.config h p.memory →
      I m.config ((D.tick m now key p).toList ++ h) (m.tickRow now key p).pos.memory
  live (m : PositionManagerActor) (env : TurnEnv) (live : LivePositionSnapshot) (h : List τ)
    (p : Position) : I m.config h p.memory →
      I m.config ((D.live m env live p).toList ++ h)
        (PositionManagerActor.applyLive m.config.exitV4 env live p).memory

variable {D} {I : SmartBuyConfig → List τ → RowMemory → Prop} {w w' : Kept τ}

/-- Every row meets `I` with its history. -/
def Meets (I : SmartBuyConfig → List τ → RowMemory → Prop) (w : Kept τ) : Prop :=
  ∀ key p, w.row key = some p → I w.actor.config (w.record key) p.memory

theorem write_kept {h : Histories τ} {m : PositionManagerActor} {env : TurnEnv}
    {msg : PositionMessage} (htick : msg ≠ .tick)
    (hlive : ∀ mint live, msg ≠ .applyLiveSnapshot mint live)
    (hfill : ∀ order pool r, msg ≠ .buyCompleted order pool (.ok r)) (a : Unit) :
    D.write h m env msg a = h := by
  unfold write
  split
  · exact absurd rfl htick
  · exact absurd rfl (hlive _ _)
  · exact absurd rfl (hfill _ _ _)
  · rfl

theorem Meets.tick (hI : D.Keeps I) (h : Meets I w) {env : TurnEnv} {key : PositionKey}
    {q : Position} (hq : AList.lookup key (w.actor.handle env .tick).actor.positions = some q) :
    I w.actor.config (D.write w.record w.actor env .tick () key) q.memory := by
  have hq' : AList.lookup key (w.actor.tick env).actor.positions = some q := hq
  rw [PositionManagerActor.lookup_tick] at hq'
  obtain ⟨p, hp, rfl⟩ := Option.map_eq_some_iff.mp hq'
  simp only [write, hp, Option.bind_some]
  exact hI.tick w.actor (env.clock 0) key (w.record key) p (h key p hp)

theorem Meets.live (hI : D.Keeps I) (h : Meets I w) {env : TurnEnv} {mint : Address}
    {live : LivePositionSnapshot} {key : PositionKey} {q : Position}
    (hq : AList.lookup key (w.actor.handle env (.applyLiveSnapshot mint live)).actor.positions =
      some q) :
    I w.actor.config (D.write w.record w.actor env (.applyLiveSnapshot mint live) () key)
      q.memory := by
  have hq' := PositionManagerActor.lookup_updateRows w.actor key mint
    (PositionManagerActor.applyLive w.actor.config.exitV4 env live)
  rw [show AList.lookup key (w.actor.updateRows mint _).positions = some q from hq] at hq'
  obtain ⟨p, hp, hpq⟩ := Option.map_eq_some_iff.mp hq'.symm
  simp only [write, hp, Option.bind_some]
  by_cases hmint : key.mint = mint
  · rw [if_pos hmint] at hpq ⊢
    subst hpq
    exact hI.live w.actor env live (w.record key) p (h key p hp)
  · rw [if_neg hmint] at hpq ⊢
    subst hpq
    exact h key p hp

/-- A fill opens its row with an empty history, and leaves the others. -/
theorem Meets.fill (hI : D.Keeps I) (h : Meets I w) {env : TurnEnv} {order : BuyOrder}
    {pool : Pool} {r : BuyReceipt} {key : PositionKey} {q : Position}
    (hq : AList.lookup key (w.actor.handle env (.buyCompleted order pool (.ok r))).actor.positions =
      some q) :
    I w.actor.config (D.write w.record w.actor env (.buyCompleted order pool (.ok r)) () key)
      q.memory := by
  have hq' : AList.lookup key
      (w.actor.applyBuyResult env order pool (.ok r)).actor.positions = some q := hq
  rcases w.actor.applyBuyResult_opens env order pool r with ⟨habort, hrows⟩ | ⟨hkeep, hrows⟩
  · simp only [write, habort, if_true]
    rw [hrows] at hq'
    exact h key q hq'
  · simp only [write, hkeep, Bool.false_eq_true, if_false]
    rw [hrows, KeyedMap.lookup_insert_eq] at hq'
    rw [Function.update_apply]
    split_ifs at hq' ⊢
    · rw [← Option.some.inj hq']
      exact hI.opened w.actor.config order pool r (env.clock 0)
    · exact h key q hq'

/-- Another message leaves histories and memories. -/
theorem Meets.other (h : Meets I w) {env : TurnEnv} {msg : PositionMessage} (htick : msg ≠ .tick)
    (hlive : ∀ mint live, msg ≠ .applyLiveSnapshot mint live)
    (hfill : ∀ order pool r, msg ≠ .buyCompleted order pool (.ok r)) {key : PositionKey}
    {q : Position} (hq : AList.lookup key (w.actor.handle env msg).actor.positions = some q) :
    I w.actor.config (D.write w.record w.actor env msg () key) q.memory := by
  rw [write_kept htick hlive hfill]
  rcases PositionManagerActor.rowChange_or_opened hq with
    ⟨p, hp, hchange⟩ | ⟨order, pool, r, hmsg, -, -, -⟩
  · rw [hchange.memory_kept htick hlive]
    exact h key p hp
  · exact absurd hmsg (hfill order pool r)

theorem Meets.turn (hI : D.Keeps I) (h : Meets I w) {env : TurnEnv} (msg : PositionMessage)
    {key : PositionKey} {q : Position}
    (hq : AList.lookup key (w.actor.handle env msg).actor.positions = some q) :
    I w.actor.config (D.write w.record w.actor env msg () key) q.memory := by
  by_cases htick : msg = .tick
  · subst htick
    exact h.tick hI hq
  by_cases hlive : ∀ mint live, msg ≠ .applyLiveSnapshot mint live
  · by_cases hfill : ∀ order pool r, msg ≠ .buyCompleted order pool (.ok r)
    · exact h.other htick hlive hfill hq
    · push Not at hfill
      obtain ⟨order, pool, r, rfl⟩ := hfill
      exact h.fill hI hq
  · push Not at hlive
    obtain ⟨mint, live, rfl⟩ := hlive
    exact h.live hI hq

theorem Meets.step (hI : D.Keeps I) (h : Meets I w) {e : NotedEvent Empty Unit}
    (hstep : D.notes.step w e = some w') : Meets I w' := by
  cases e with
  | outside d => exact d.elim
  | inside e x =>
    cases e with
    | post msg =>
      obtain ⟨-, rfl⟩ := Notes.step_post hstep
      exact h
    | patchWallets entries =>
      cases hstep
      exact h
    | resume i answer =>
      obtain ⟨task, b, left, msg, a, -, -, -, rfl⟩ := Notes.step_resume hstep
      exact h
    | turn env =>
      obtain ⟨msg, a, rest, -, rfl⟩ := Notes.step_turn hstep
      intro key q hq
      show I (w.actor.handle env msg).actor.config _ _
      rw [PositionManagerActor.config_handle]
      exact h.turn hI msg hq

theorem meets_fresh (h : D.notes.Fresh w) : Meets I w := by
  intro key p hp
  rw [Noted.row, h.lookup] at hp
  cases hp

/-- **The history rule.** What opened rows meet and ticks and snapshots keep, every row of every
run meets with its history. -/
theorem history (hI : D.Keeps I) (h : D.notes.machine.Reachable w) {key : PositionKey}
    {p : Position} (hp : w.row key = some p) : I w.actor.config (w.record key) p.memory := by
  obtain ⟨w₀, es, hfresh, hrun⟩ := h
  exact (Machine.Path.of_run hrun).invariant (I := Meets I)
    (fun _ _ _ hm _ hstep => hm.step hI hstep) (meets_fresh hfresh) key p hp

/-- A run keeps the settings. -/
theorem config_run {es : List (NotedEvent Empty Unit)} (h : D.notes.machine.run w es = some w') :
    w'.actor.config = w.actor.config :=
  (Machine.Path.of_run h).invariant (I := fun u => u.actor.config = w.actor.config)
    (fun u e u' hu _ hstep => by
      cases e with
      | outside d => exact d.elim
      | inside e x => exact (config_step (Notes.step_forget hstep)).trans hu) rfl

/-- Every run of the manager is one with histories beside it. -/
theorem exists_kept (D : Diary τ) {s : System} (h : manager.Reachable s) :
    ∃ w : Kept τ, D.notes.machine.Reachable w ∧ w.forget = s := by
  have hstart : D.notes.start fun _ => [] := fun _ => rfl
  exact Notes.exists_noted hstart (fun _ _ _ _ => ⟨(), (), rfl⟩) h

/-- Nothing is written. -/
def blank : Diary Empty := ⟨fun _ _ _ _ => none, fun _ _ _ _ => none⟩

end Diary

/-- **The rule without a history.** -/
theorem row_invariant {I : SmartBuyConfig → RowMemory → Prop}
    (hI : Diary.blank.Keeps fun cfg _ => I cfg) {s : System} (h : manager.Reachable s)
    {key : PositionKey} {p : Position} (hp : s.row key = some p) : I s.actor.config p.memory := by
  obtain ⟨w, hw, rfl⟩ := Diary.blank.exists_kept h
  exact Diary.history hI hw hp

/-! ## A small manager -/

/-- A fresh manager with these settings. -/
def System.smallOf (cfg : SmartBuyConfig) : System :=
  { System.small oneWallet {} with
    actor := { (System.small oneWallet {}).actor with config := cfg } }

theorem System.smallOf_fresh (cfg : SmartBuyConfig) : (System.smallOf cfg).Fresh :=
  ⟨rfl, rfl, rfl, rfl, rfl, rfl, rfl⟩

/-- With no history yet. -/
def Diary.Kept.of (τ : Type*) (s : System) : Diary.Kept τ := ⟨s.actor, [], [], s.log, fun _ => []⟩

/-- What a run with histories comes to. -/
theorem Diary.reachable_of_run {τ : Type*} (D : Diary τ) (cfg : SmartBuyConfig) (es : List Event)
    (p : Kept τ → Bool)
    (h : (D.notes.machine.run (Kept.of τ (.smallOf cfg)) (es.map (.inside · ()))).any p = true) :
    ∃ w, D.notes.machine.Reachable w ∧ w.actor.config = cfg ∧ p w = true := by
  obtain ⟨w, hw, hp⟩ := (Option.any_eq_true _ _).mp h
  have hfresh : D.notes.Fresh (Kept.of τ (.smallOf cfg)) :=
    ⟨System.smallOf_fresh cfg, fun _ => rfl⟩
  exact ⟨w, ⟨_, _, hfresh, hw⟩, D.config_run hw, hp⟩

/-- A tape on which nothing happens. -/
def quietSnapshot : LivePositionSnapshot where
  tape := ⟨20, 10, 5, 10, 0, 0, 30⟩
  buyersPerSec := 1
  holderGrowthRate := 0
  volumeDelta := 0
  liquidityDelta := 0
  smartWalletCount := 0
  smartWalletExits := 0
  buySellRatio := 1
  sellPressureScore := 1
  bundleSimilar := 0
  bundleIdentical := 0
  mcapSol := 30

/-- A row at its entry price whose bucket is known, after its first tick at second 8. -/
def tapedRow : List Event :=
  oneFill ++ [turn, .post (.updateTokenBucket (smallPool 1)), turn] ++ tickAt 8

/-- The oldest task is a live snapshot: this is its answer, taken over at second 9. -/
def snapshotComes (live : LivePositionSnapshot) : List Event :=
  [.resume 0 (.live live), .turn { soldEnv with clock := fun _ => 9 }]

end Loggaper
