import Loggaper.Lib.Transition
import Loggaper.Persistence.WriteQueue
import Loggaper.Pipeline.Admission
import Loggaper.Setup.Waiter

/-!
# Trades are recorded after their token

The main loop spawns a task for each launch, which saves the token and notifies the waiter, and one
for each trade, which waits for its token, asks the swarm for the trader and hands the rows to the
write queue. The tasks go on in any order and after any delay. The state also remembers what has
come and how far it got.

- `recorder_order`: no row of a token is handed over before its save has ended, and each trade of
  a launched token is recorded once.
-/

namespace Loggaper

open DatabaseCreateWaiter

/-! ## Rows -/

/-- The source keeps both addresses as text. -/
structure TraderEntry where
  traderAddress : Address
  coinAddress : Address
  realizedPnl : ℚ
  slot : ℕ
  isBuy : Bool
  marketCap : Currency
  currency : Currency
  role : TraderType

def Trader.pnlPercent (t : Trader) : ℚ :=
  if t.totalSpent.raw = 0 then 0 else t.realizedPnl / t.totalSpent.raw * 100

namespace TradeAction

def mint : TradeAction → Address
  | buy b => b.mint
  | sell s => s.mint

def trader : TradeAction → Address
  | buy b => b.user
  | sell s => s.user

def size : TradeAction → Currency
  | buy b => b.spent
  | sell s => s.received

def isBuy : TradeAction → Bool
  | buy _ => true
  | sell _ => false

end TradeAction

/-- A trade with the market cap of its bucket's pool. The swarm of the bucket is shared. -/
structure SeenTrade where
  slot : ℕ
  action : TradeAction
  marketCap : Currency

/-- The account that the swarm answers with. -/
def SeenTrade.entry (t : SeenTrade) (trader : Trader) : TraderEntry where
  traderAddress := t.action.trader
  coinAddress := t.action.mint
  realizedPnl := trader.pnlPercent
  slot := t.slot
  isBuy := t.action.isBuy
  marketCap := t.marketCap
  currency := t.action.size
  role := trader.traderType

/-- What the write queue is handed for a trade. -/
def SeenTrade.ops (pubkey : Address → String) (t : SeenTrade) (trader : Trader) :
    List (WriteOp TraderEntry) :=
  [.tape (pubkey t.action.mint) t.marketCap.amount.toFloat "trade", .trade (t.entry trader)]

/-! ## The tasks -/

structure Recorder where
  /-- Tokens whose `save_token` is under way. -/
  saving : List Address
  /-- Saved, and the waiter is not notified yet. -/
  notifying : List Address
  /-- Trades that have not asked the waiter yet. -/
  asking : List SeenTrade
  /-- Trades that wait, with the numbers of their channels. -/
  waiting : List (ReplyTx × SeenTrade)
  /-- What has reached the waiter's mailbox, and how much of it the waiter has handled. -/
  requests : List WaiterRequest
  handled : ℕ
  /-- What the write queue has been handed. -/
  ops : List (WriteOp TraderEntry)
  launched : List Address
  /-- Tokens whose save has ended, with a row or an error. -/
  attempted : List Address
  seen : List SeenTrade
  recorded : List (SeenTrade × Trader)
  /-- Trades of wallets that the swarm does not know. -/
  unknown : List SeenTrade

inductive RecorderEvent
  | launch (create : GeneralCreate)
  | trade (t : SeenTrade)
  /-- `save_token` ends; an error is only printed. -/
  | saved (i : ℕ) (ok : Bool)
  | notified (i : ℕ)
  | asked (i : ℕ)
  /-- The waiter takes a message. -/
  | handle
  /-- A trade that has been answered goes on, and this is what the swarm says. -/
  | goesOn (i : ℕ) (found : Option Trader)

namespace Recorder

def empty : Recorder := ⟨[], [], [], [], [], 0, [], [], [], [], [], []⟩

/-- The channels that the waiter has answered. -/
def answered (s : Recorder) : List ReplyTx := answers (s.requests.take s.handled)

def step (pubkey : Address → String) (s : Recorder) : RecorderEvent → Option Recorder
  | .launch create =>
    if create.isNativeSolQuote then
      some { s with
        saving := s.saving ++ [create.mint]
        launched := s.launched ++ [create.mint] }
    else some s
  | .trade t => some { s with asking := s.asking ++ [t], seen := s.seen ++ [t] }
  | .saved i _ => s.saving[i]?.map fun mint =>
      { s with
        saving := s.saving.eraseIdx i
        notifying := s.notifying ++ [mint]
        attempted := s.attempted ++ [mint] }
  | .notified i => s.notifying[i]?.map fun mint =>
      { s with
        notifying := s.notifying.eraseIdx i
        requests := s.requests ++ [.notifyCreated mint] }
  | .asked i => s.asking[i]?.map fun t =>
      { s with
        asking := s.asking.eraseIdx i
        waiting := s.waiting ++ [(s.requests.length, t)]
        requests := s.requests ++ [.waitFor t.action.mint] }
  | .handle =>
    if s.handled < s.requests.length then some { s with handled := s.handled + 1 } else none
  | .goesOn i found => do
    let (channel, t) ← s.waiting[i]?
    if channel ∈ s.answered then
      let s := { s with waiting := s.waiting.eraseIdx i }
      match found with
      | some trader => some { s with
          ops := s.ops ++ t.ops pubkey trader
          recorded := s.recorded ++ [(t, trader)] }
      | none => some { s with unknown := s.unknown ++ [t] }
    else none

end Recorder

def recorder (pubkey : Address → String) : Machine Recorder RecorderEvent where
  init s := s = .empty
  step := Recorder.step pubkey

namespace Recorder

variable {pubkey : Address → String} {s t : Recorder}

/-! ## The steps -/

/-- What each step of a task does. -/
inductive Move (pubkey : Address → String) (s : Recorder) : Recorder → Prop
  | skip : Move pubkey s s
  | launch (mint : Address) :
      Move pubkey s { s with saving := s.saving ++ [mint], launched := s.launched ++ [mint] }
  | trade (t : SeenTrade) :
      Move pubkey s { s with asking := s.asking ++ [t], seen := s.seen ++ [t] }
  | saved (i : ℕ) (mint : Address) (h : s.saving[i]? = some mint) :
      Move pubkey s { s with
        saving := s.saving.eraseIdx i
        notifying := s.notifying ++ [mint]
        attempted := s.attempted ++ [mint] }
  | notified (i : ℕ) (mint : Address) (h : s.notifying[i]? = some mint) :
      Move pubkey s { s with
        notifying := s.notifying.eraseIdx i
        requests := s.requests ++ [.notifyCreated mint] }
  | asked (i : ℕ) (t : SeenTrade) (h : s.asking[i]? = some t) :
      Move pubkey s { s with
        asking := s.asking.eraseIdx i
        waiting := s.waiting ++ [(s.requests.length, t)]
        requests := s.requests ++ [.waitFor t.action.mint] }
  | handle (h : s.handled < s.requests.length) : Move pubkey s { s with handled := s.handled + 1 }
  | recorded (i : ℕ) (channel : ReplyTx) (t : SeenTrade) (trader : Trader)
      (h : s.waiting[i]? = some (channel, t)) (hanswered : channel ∈ s.answered) :
      Move pubkey s { s with
        waiting := s.waiting.eraseIdx i
        ops := s.ops ++ t.ops pubkey trader
        recorded := s.recorded ++ [(t, trader)] }
  | unknown (i : ℕ) (channel : ReplyTx) (t : SeenTrade) (h : s.waiting[i]? = some (channel, t))
      (hanswered : channel ∈ s.answered) :
      Move pubkey s { s with waiting := s.waiting.eraseIdx i, unknown := s.unknown ++ [t] }

theorem move_of_step {e : RecorderEvent} (h : s.step pubkey e = some t) : s.Move pubkey t := by
  cases e with
  | launch create =>
    simp only [step] at h
    split_ifs at h
    · cases h
      exact .launch _
    · cases h
      exact .skip
  | trade t =>
    cases h
    exact .trade t
  | saved i ok =>
    obtain ⟨mint, hmint, rfl⟩ := Option.map_eq_some_iff.mp h
    exact .saved i mint hmint
  | notified i =>
    obtain ⟨mint, hmint, rfl⟩ := Option.map_eq_some_iff.mp h
    exact .notified i mint hmint
  | asked i =>
    obtain ⟨t, ht, rfl⟩ := Option.map_eq_some_iff.mp h
    exact .asked i t ht
  | handle =>
    simp only [step] at h
    split_ifs at h with hlt
    cases h
    exact .handle hlt
  | goesOn i found =>
    simp only [step, Option.bind_eq_bind, Option.bind_eq_some_iff] at h
    obtain ⟨⟨channel, t⟩, hwaiting, h⟩ := h
    dsimp only at h
    split_ifs at h with hanswered
    cases found with
    | some trader =>
      cases h
      exact .recorded i channel t trader hwaiting hanswered
    | none =>
      cases h
      exact .unknown i channel t hwaiting hanswered

/-! ## Where everything is -/

theorem cons_eraseIdx_perm {α : Type*} {l : List α} {i : ℕ} {a : α} (h : l[i]? = some a) :
    (a :: l.eraseIdx i).Perm l := by
  obtain ⟨hi, rfl⟩ := List.getElem?_eq_some_iff.mp h
  exact List.getElem_cons_eraseIdx_perm hi

/-- The trades that have gone on. -/
def done (s : Recorder) : List SeenTrade := s.recorded.map Prod.fst ++ s.unknown

structure Ordered (pubkey : Address → String) (s : Recorder) : Prop where
  launched : (s.saving ++ s.attempted).Perm s.launched
  /-- A token whose save has ended is about to be notified, or has been. -/
  notified : ∀ mint, mint ∈ s.attempted ↔ mint ∈ s.notifying ∨ .notifyCreated mint ∈ s.requests
  handled : s.handled ≤ s.requests.length
  channels : ∀ p ∈ s.waiting, s.requests[p.1]? = some (.waitFor p.2.action.mint)
  seen : (s.asking ++ (s.waiting.map Prod.snd ++ s.done)).Perm s.seen
  done : ∀ t ∈ s.done, t.action.mint ∈ s.attempted
  ops : s.ops = s.recorded.flatMap fun p => p.1.ops pubkey p.2

theorem ordered_empty : Ordered pubkey empty where
  launched := .nil
  notified := by simp [empty]
  handled := le_rfl
  channels := by simp [empty]
  seen := .nil
  done := by simp [empty, Recorder.done]
  ops := rfl

/-- A waiting trade is answered when the waiter has handled its wait and a notification. -/
theorem Ordered.mem_answered_iff (h : Ordered pubkey s) {p : ReplyTx × SeenTrade}
    (hp : p ∈ s.waiting) : p.1 ∈ s.answered ↔
      p.1 < s.handled ∧ .notifyCreated p.2.action.mint ∈ s.requests.take s.handled := by
  have hchannel := h.channels p hp
  rw [answered, ← List.count_pos_iff]
  by_cases hlt : p.1 < s.handled
  · have htake : (s.requests.take s.handled)[p.1]? = some (.waitFor p.2.action.mint) := by
      rw [List.getElem?_take_of_lt hlt, hchannel]
    rw [count_answersOf htake]
    split_ifs with hnotified
    · simp [hlt, hnotified]
    · simp [hnotified]
  · have htake (a : Address) : (s.requests.take s.handled)[p.1]? ≠ some (.waitFor a) := by
      rw [List.getElem?_take_eq_none (not_lt.mp hlt)]
      exact Option.some_ne_none _ |>.symm
    rw [count_answersOf_none htake]
    simp [hlt]

/-- **An answered trade's token has been saved**, or the save has failed. -/
theorem Ordered.attempted_of_answered (h : Ordered pubkey s) {p : ReplyTx × SeenTrade}
    (hp : p ∈ s.waiting) (hanswered : p.1 ∈ s.answered) : p.2.action.mint ∈ s.attempted :=
  (h.notified _).mpr (.inr (List.mem_of_mem_take ((h.mem_answered_iff hp).mp hanswered).2))

theorem channels_append (h : Ordered pubkey s) (request : WaiterRequest) :
    ∀ p ∈ s.waiting, (s.requests ++ [request])[p.1]? = some (.waitFor p.2.action.mint) := by
  intro p hp
  have hchannel := h.channels p hp
  obtain ⟨hlt, -⟩ := List.getElem?_eq_some_iff.mp hchannel
  rw [List.getElem?_append_left hlt, hchannel]

/-- A trade goes on. -/
theorem Ordered.goesOn (h : Ordered pubkey s) {i : ℕ} {channel : ReplyTx} {t : SeenTrade}
    (hwaiting : s.waiting[i]? = some (channel, t)) (hanswered : channel ∈ s.answered)
    {done' : List SeenTrade} (hdone : done'.Perm (t :: s.done)) :
    (∀ p ∈ s.waiting.eraseIdx i, s.requests[p.1]? = some (.waitFor p.2.action.mint)) ∧
      (s.asking ++ ((s.waiting.eraseIdx i).map Prod.snd ++ done')).Perm s.seen ∧
      ∀ u ∈ done', u.action.mint ∈ s.attempted := by
  have hmoved : ((s.waiting.eraseIdx i).map Prod.snd ++ done').Perm
      (s.waiting.map Prod.snd ++ s.done) :=
    ((hdone.append_left _).trans List.perm_middle).trans
      (((cons_eraseIdx_perm hwaiting).map Prod.snd).append_right s.done)
  refine ⟨fun p hp => h.channels p (List.mem_of_mem_eraseIdx hp),
    (hmoved.append_left _).trans h.seen, ?_⟩
  intro u hu
  rcases List.mem_cons.mp (hdone.subset hu) with rfl | hold
  · exact h.attempted_of_answered (List.mem_of_getElem? hwaiting) hanswered
  · exact h.done u hold

theorem Ordered.move (h : Ordered pubkey s) (hmove : s.Move pubkey t) : Ordered pubkey t := by
  cases hmove with
  | skip => exact h
  | launch mint =>
    refine { h with launched := ?_ }
    show (s.saving ++ [mint] ++ s.attempted).Perm (s.launched ++ [mint])
    rw [List.append_assoc]
    exact (List.perm_middle.trans (h.launched.cons mint)).trans
      (List.perm_append_singleton _ _).symm
  | trade t =>
    refine { h with seen := ?_ }
    rw [List.append_assoc]
    exact (List.perm_middle.trans (h.seen.cons t)).trans (List.perm_append_singleton _ _).symm
  | saved i mint hi =>
    refine { h with launched := ?_, notified := ?_, done := ?_ }
    · rw [← List.append_assoc]
      refine (List.perm_append_singleton _ _).trans ?_
      exact ((cons_eraseIdx_perm hi).append_right s.attempted).trans h.launched
    · intro other
      have hold := h.notified other
      simp only [List.mem_append, List.mem_singleton, hold]
      tauto
    · intro t ht
      exact List.mem_append_left _ (h.done t ht)
  | notified i mint hi =>
    refine { h with notified := ?_, handled := ?_, channels := channels_append h _ }
    · intro other
      have hperm := (cons_eraseIdx_perm hi).mem_iff (a := other)
      rw [List.mem_cons] at hperm
      rw [h.notified other, ← hperm]
      simp only [List.mem_append, List.mem_singleton, WaiterRequest.notifyCreated.injEq]
      tauto
    · rw [List.length_append]
      exact h.handled.trans (Nat.le_add_right _ _)
  | asked i t hi =>
    refine { h with notified := ?_, handled := ?_, channels := ?_, seen := ?_ }
    · intro other
      rw [h.notified other]
      simp
    · rw [List.length_append]
      exact h.handled.trans (Nat.le_add_right _ _)
    · intro p hp
      rcases List.mem_append.mp hp with hold | hnew
      · exact channels_append h _ p hold
      · rw [List.mem_singleton] at hnew
        subst hnew
        exact List.getElem?_concat_length
    · refine (List.Perm.append_left _ ?_).trans ((List.perm_middle (a := t)).trans
        (((cons_eraseIdx_perm hi).append_right _).trans h.seen))
      rw [List.map_append, List.append_assoc]
      exact List.perm_middle
  | handle hlt => exact { h with handled := hlt }
  | recorded i channel t trader hwaiting hanswered =>
    have hdone : ((s.recorded ++ [(t, trader)]).map Prod.fst ++ s.unknown).Perm (t :: s.done) := by
      rw [List.map_append, List.append_assoc]
      exact List.perm_middle
    obtain ⟨hchannels, hseen, hgone⟩ := h.goesOn hwaiting hanswered hdone
    exact { h with channels := hchannels, seen := hseen, done := hgone, ops := by simp [h.ops] }
  | unknown i channel t hwaiting hanswered =>
    have hdone : (s.recorded.map Prod.fst ++ (s.unknown ++ [t])).Perm (t :: s.done) := by
      rw [← List.append_assoc]
      exact List.perm_append_singleton t s.done
    obtain ⟨hchannels, hseen, hgone⟩ := h.goesOn hwaiting hanswered hdone
    exact { h with channels := hchannels, seen := hseen, done := hgone }

theorem ordered_path {es : List RecorderEvent}
    (h : (recorder pubkey).Path Machine.free .empty es t) : Ordered pubkey t :=
  h.invariant (fun _ _ _ hs _ hstep => hs.move (move_of_step hstep)) ordered_empty

/-- Every task has gone on as far as it can. -/
structure Settled (s : Recorder) : Prop where
  saving : s.saving = []
  notifying : s.notifying = []
  asking : s.asking = []
  handled : s.handled = s.requests.length
  waiting : ∀ p ∈ s.waiting, p.1 ∉ s.answered

/-- What waits for good is a trade of a token that has not been launched. -/
theorem Ordered.waiting_of_settled (h : Ordered pubkey s) (hs : s.Settled) :
    ∀ p ∈ s.waiting, p.2.action.mint ∉ s.launched := by
  intro p hp hlaunched
  have hattempted : p.2.action.mint ∈ s.attempted := by
    have hmem := h.launched.mem_iff.mpr hlaunched
    rwa [hs.saving, List.nil_append] at hmem
  have hnotified := (h.notified _).mp hattempted
  rw [hs.notifying] at hnotified
  obtain ⟨hlt, -⟩ := List.getElem?_eq_some_iff.mp (h.channels p hp)
  refine hs.waiting p hp ((h.mem_answered_iff hp).mpr ⟨hs.handled ▸ hlt, ?_⟩)
  rw [hs.handled, List.take_length]
  exact hnotified.resolve_left List.not_mem_nil

end Recorder

/-- **Trades are recorded after their token.** In every run: what the queue has been handed is the
rows of the trades that went on, each trade of the feed is at one place, and the save of its token
had ended when it went on. When every task has gone on as far as it can, the trades that went on
are those of launched tokens. -/
theorem recorder_order {pubkey : Address → String} {t : Recorder} {es : List RecorderEvent}
    (h : (recorder pubkey).Path Machine.free .empty es t) :
    t.ops = (t.recorded.flatMap fun p => p.1.ops pubkey p.2) ∧
      (t.asking ++ (t.waiting.map Prod.snd ++ t.done)).Perm t.seen ∧
      (∀ u ∈ t.done, u.action.mint ∈ t.attempted) ∧
      (t.Settled → t.done.Perm (t.seen.filter fun u => u.action.mint ∈ t.launched)) := by
  have hordered := Recorder.ordered_path h
  refine ⟨hordered.ops, hordered.seen, hordered.done, fun hs => ?_⟩
  have hdone : (t.done.filter fun u => u.action.mint ∈ t.launched) = t.done := by
    rw [List.filter_eq_self]
    intro u hu
    exact decide_eq_true (hordered.launched.subset (List.mem_append_right _ (hordered.done u hu)))
  have hwaiting : ((t.waiting.map Prod.snd).filter fun u => u.action.mint ∈ t.launched) = [] := by
    rw [List.filter_eq_nil_iff]
    intro u hu
    obtain ⟨p, hp, rfl⟩ := List.mem_map.mp hu
    simpa using hordered.waiting_of_settled hs p hp
  have hfilter := hordered.seen.filter fun u => u.action.mint ∈ t.launched
  rwa [hs.asking, List.nil_append, List.filter_append, hwaiting, hdone, List.nil_append] at hfilter

/-- Wallet 9 buys token 7 for one SOL. -/
def firstTrade : SeenTrade where
  slot := 5
  action := .buy ⟨7, 9, .fromRaw 1000 6, .native (.fromRaw 1000000000 9)⟩
  marketCap := .native (.fromRaw 30000000000 9)

/-- The trade asks before its token is launched, and a trade of another token waits for good. -/
def tradeFirst : List RecorderEvent :=
  [.trade firstTrade,
    .trade { firstTrade with action := .buy ⟨3, 9, .fromRaw 1 6, .native (.fromRaw 1 9)⟩ },
    .asked 0, .asked 0, .handle, .launch ⟨7, 8, none, 0⟩, .saved 0 true, .handle, .notified 0,
    .handle, .goesOn 0 (some (.empty .regular 6 9))]

theorem recorder_order_tradeFirst :
    ∃ t, (recorder fun _ => "mint").run .empty tradeFirst = some t ∧ t.Settled ∧
      t.done.Perm (t.seen.filter fun u => u.action.mint ∈ t.launched) ∧ t.done.length = 1 := by
  have hrun : ((recorder fun _ => "mint").run .empty tradeFirst).any (fun t =>
      decide (t.saving.isEmpty ∧ t.notifying.isEmpty ∧ t.asking.isEmpty ∧
        t.handled = t.requests.length ∧ (∀ p ∈ t.waiting, p.1 ∉ t.answered) ∧
        t.done.length = 1)) = true := by
    decide +kernel
  obtain ⟨t, ht, hcheck⟩ := (Option.any_eq_true _ _).mp hrun
  obtain ⟨hsaving, hnotifying, hasking, hhandled, hwaiting, hlength⟩ := of_decide_eq_true hcheck
  have hsettled : t.Settled :=
    ⟨List.isEmpty_iff.mp hsaving, List.isEmpty_iff.mp hnotifying, List.isEmpty_iff.mp hasking,
      hhandled, hwaiting⟩
  exact ⟨t, ht, hsettled, (recorder_order (.of_run ht)).2.2.2 hsettled, hlength⟩

end Loggaper
