import Loggaper.Manager.Closings
import Loggaper.Manager.RowChange
import Loggaper.Scoring.DevRanker
import Loggaper.Scoring.SmartMoney

/-!
# One outcome for each token

Signals are gated by mint and closes are told by row, each from a task of its own. A mint that two
wallets hold and sell is two outcomes for its developer and two trades for each early buyer.

- `bookkept_path`: on every run, what has been told and the controller's record of losses are
  those of the run's closings.
- `oneOutcome_of_singleClose`: every mint is at most one outcome, on every run in which a confirmed
  sell ends at most one fill of each mint.
- `twoWallets_count_twice`: a run of two wallets and one signal.
-/

namespace Loggaper

/-! ## Registries that hear the notes -/

/-- The ranking takes a note, with the time of its arrival. -/
def DevRanker.hear (r : DevRanker) (note : Effect × ℕ) : DevRanker :=
  match note.1 with
  | .noteOutcome _ dev pnlPct => r.updateOutcome dev (.classify pnlPct) note.2
  | _ => r

def SmartMoney.hear (r : SmartMoney) (note : Effect × ℕ) : SmartMoney :=
  match note.1 with
  | .noteTradeOutcome _ buyers pnlPct => r.updateOutcomes buyers pnlPct note.2
  | _ => r

/-- The outcomes of the developer in one effect. -/
def Effect.outcomesOf (dev : Address) : Effect → ℕ
  | .noteOutcome _ d _ => if d = dev then 1 else 0
  | _ => 0

/-- The trades of the wallet in one effect. -/
def Effect.tradesOf (wallet : Address) : Effect → ℕ
  | .noteTradeOutcome _ buyers _ => buyers.count wallet
  | _ => 0

def DevRanker.tokens (dev : Address) : Tally DevRanker.hear where
  count r := (r.record dev).totalTokens
  adds note := note.1.outcomesOf dev
  count_step r note := by
    obtain ⟨e, now⟩ := note
    cases e with
    | noteOutcome key d pnlPct =>
      simp only [hear, Effect.outcomesOf, totalTokens_updateOutcome]
      by_cases h : dev = d
      · subst h; simp
      · simp [h, Ne.symm h]
    | _ => simp [hear, Effect.outcomesOf]

def SmartMoney.tradesHeard (wallet : Address) : Tally SmartMoney.hear where
  count r := (r.record wallet).trades
  adds note := note.1.tradesOf wallet
  count_step r note := by
    obtain ⟨e, now⟩ := note
    cases e with
    | noteTradeOutcome key buyers pnlPct => exact r.trades_updateOutcomes buyers pnlPct now wallet
    | _ => simp [hear, Effect.tradesOf]

/-- A note about a mint. -/
def ofMint (mint : Address) (note : Effect × ℕ) : Bool := note.1.key.mint == mint

/-- What the effects of one mint add. -/
def mintShare (f : Effect → ℕ) (mint : Address) (log : List Effect) : ℕ :=
  ((log.filter fun e => e.key.mint == mint).map f).sum

section
variable {σ : Type*} {hear : σ → Effect × ℕ → σ} (t : Tally hear) {f : Effect → ℕ}
  {mint : Address} {heard : List (Effect × ℕ)} {log : List Effect}

theorem total_ofMint (hadds : ∀ note, t.adds note = f note.1) (mint : Address)
    (heard : List (Effect × ℕ)) :
    t.total (heard.filter (ofMint mint)) = mintShare f mint (heard.map Prod.fst) := by
  have hf : t.adds = f ∘ Prod.fst := funext hadds
  simp only [Tally.total, mintShare, hf, List.filter_map, List.map_map]
  rfl

theorem mintShare_le (h : (heard.map Prod.fst).Subperm log) :
    mintShare f mint (heard.map Prod.fst) ≤ mintShare f mint log := by
  obtain ⟨es, hperm, hsub⟩ := h
  have hsum : mintShare f mint es = mintShare f mint (heard.map Prod.fst) :=
    ((hperm.filter _).map f).sum_eq
  rw [← hsum]
  exact ((hsub.filter _).map f).sum_le_sum fun n _ => Nat.zero_le n

theorem mintShare_perm (h : (heard.map Prod.fst).Perm log) :
    mintShare f mint (heard.map Prod.fst) = mintShare f mint log :=
  ((h.filter _).map f).sum_eq

end

/-! ## The books of the closings -/

def System.closing (s : System) : Event → Option Closing
  | .turn env => s.mailbox.head?.bind (s.actor.closing env)
  | _ => none

/-- The closings of a run. -/
def closings (s : System) (es : List Event) : List Closing := manager.trace System.closing s es

/-- What has been told, and the record of losses, after some closings. -/
structure Bookkept (start : LossRecord) (limits : StrategyConfig) (s : System)
    (cs : List Closing) : Prop where
  told_eq : told s.log = cs.flatMap Closing.notes
  record : s.actor.strategy.lossRecord =
    (cs.map fun c => decide (c.pnlSol > 0)).foldl (LossRecord.note limits) start
  limits_eq : s.actor.strategy.cfg = limits

theorem Bookkept.step {start : LossRecord} {limits : StrategyConfig} {s t : System}
    {cs : List Closing} {e : Event} (h : Bookkept start limits s cs) (hstep : s.step e = some t) :
    Bookkept start limits t (cs ++ (s.closing e).toList) := by
  have hlimits : t.actor.strategy.cfg = limits := (desk_step hstep).2.trans h.limits_eq
  by_cases he : ∀ env, e ≠ .turn env
  · obtain ⟨hlog, -, -, -, -, hstrategy⟩ := System.step_idle hstep he
    have hnone : s.closing e = none := by
      cases e with
      | turn env => exact absurd rfl (he env)
      | _ => rfl
    rw [hnone, Option.toList_none, List.append_nil]
    exact ⟨by rw [hlog, h.told_eq], by rw [hstrategy, h.record], hlimits⟩
  · push Not at he
    obtain ⟨env, rfl⟩ := he
    obtain ⟨msg, rest, hbox, rfl⟩ := System.step_turn hstep
    have hclosing : s.closing (.turn env) = s.actor.closing env msg := by
      simp [System.closing, hbox]
    have htells := s.actor.tells_handle env msg
    rw [hclosing]
    refine ⟨?_, ?_, hlimits⟩
    · rw [told_append, h.told_eq, htells.notes]
      cases s.actor.closing env msg <;> simp
    · rw [htells.record, h.limits_eq, h.record]
      cases s.actor.closing env msg <;> simp

/-- **The books of a run.** -/
theorem bookkept_path {G : System → Event → Prop} {s t : System} {es : List Event}
    (hfresh : s.Fresh) (h : manager.Path G s es t) :
    Bookkept s.actor.strategy.lossRecord s.actor.strategy.cfg t (closings s es) := by
  have hstart : Bookkept s.actor.strategy.lossRecord s.actor.strategy.cfg s [] :=
    ⟨by rw [hfresh.log]; rfl, rfl, rfl⟩
  exact h.invariant_trace (I := Bookkept s.actor.strategy.lossRecord s.actor.strategy.cfg)
    (fun _ _ _ _ hu _ hstep => hu.step hstep) hstart

/-! ## What the closings of one mint add -/

theorem sum_told {f : Effect → ℕ} (hf : ∀ e, e.isNote = false → f e = 0) (l : List Effect) :
    ((told l).map f).sum = (l.map f).sum := by
  induction l with
  | nil => rfl
  | cons e l ih =>
    cases he : e.isNote with
    | true => simpa [told, he] using ih
    | false => simpa [told, he, hf e he] using ih

theorem filter_notes (c : Closing) (mint : Address) :
    (c.notes.filter fun e => e.key.mint == mint) = if c.key.mint = mint then c.notes else [] := by
  by_cases h : c.key.mint = mint
  · rw [if_pos h, List.filter_eq_self]
    intro e he
    simp [key_of_mem_notes he, h]
  · rw [if_neg h, List.filter_eq_nil_iff]
    intro e he
    simp [key_of_mem_notes he, h]

/-- The share of a mint, closing by closing. -/
theorem mintShare_eq {f : Effect → ℕ} (hf : ∀ e, e.isNote = false → f e = 0) {mint : Address}
    {log : List Effect} {cs : List Closing} (h : told log = cs.flatMap Closing.notes) :
    mintShare f mint log =
      ((cs.filter fun c => c.key.mint == mint).map fun c => (c.notes.map f).sum).sum := by
  have hnotes : told (log.filter fun e => e.key.mint == mint) =
      (told log).filter fun e => e.key.mint == mint := by
    simp only [told, List.filter_filter]
    exact List.filter_congr fun e _ => Bool.and_comm _ _
  rw [mintShare, ← sum_told hf, hnotes, h]
  clear h hnotes
  induction cs with
  | nil => rfl
  | cons c cs ih =>
    rw [List.flatMap_cons, List.filter_append, List.map_append, List.sum_append, ih, filter_notes,
      List.filter_cons]
    by_cases hmint : c.key.mint = mint
    · simp [hmint]
    · simp [hmint]

theorem Closing.sum_outcomesOf (c : Closing) (dev : Address) :
    (c.notes.map (Effect.outcomesOf dev)).sum = if c.dev = some dev then 1 else 0 := by
  have hbuyers : (c.buyersNote.map (Effect.outcomesOf dev)).sum = 0 := by
    unfold buyersNote
    split_ifs <;> rfl
  rw [notes, List.cons_append, List.map_cons, List.map_append, List.sum_cons, List.sum_append,
    hbuyers, devNote]
  cases c.dev with
  | none => rfl
  | some d => by_cases h : d = dev <;> simp [Effect.outcomesOf, h]

theorem Closing.sum_tradesOf (c : Closing) (wallet : Address) :
    (c.notes.map (Effect.tradesOf wallet)).sum = c.buyers.count wallet := by
  have hdev : (c.devNote.map (Effect.tradesOf wallet)).sum = 0 := by
    unfold devNote
    cases c.dev <;> rfl
  rw [notes, List.cons_append, List.map_cons, List.map_append, List.sum_cons, List.sum_append,
    hdev, buyersNote]
  by_cases h : c.buyers = []
  · simp [h, Effect.tradesOf]
  · simp [h, Effect.tradesOf]

/-- A mint that is closed once has at most one closing. -/
theorem filter_mint_of_nodup {cs : List Closing} (h : (cs.map (·.key.mint)).Nodup)
    (mint : Address) :
    (cs.filter fun c => c.key.mint == mint) = [] ∨
      ∃ c ∈ cs, c.key.mint = mint ∧ (cs.filter fun c => c.key.mint == mint) = [c] := by
  induction cs with
  | nil => exact .inl rfl
  | cons c cs ih =>
    rw [List.map_cons, List.nodup_cons] at h
    by_cases hmint : c.key.mint = mint
    · have hrest : (cs.filter fun c => c.key.mint == mint) = [] := by
        rw [List.filter_eq_nil_iff]
        intro c' hc' heq
        exact h.1 (List.mem_map.mpr ⟨c', hc', by rw [beq_iff_eq.mp heq, hmint]⟩)
      exact .inr ⟨c, List.mem_cons_self, hmint, by simp [hmint, hrest]⟩
    · rw [List.filter_cons, if_neg (by simp [hmint])]
      rcases ih h.2 with hnil | ⟨c', hc', hmint', hsingle⟩
      · exact .inl hnil
      · exact .inr ⟨c', List.mem_cons_of_mem c hc', hmint', hsingle⟩

/-! ## The early buyers of a signal -/

/-- Orders between their signal and the turn that takes their result. -/
def ordersInFlight : InFlight BuyOrder where
  ofMessage
    | .executeBuy order => {order}
    | .buyCompleted order _ _ => {order}
    | _ => 0
  external msg h := by cases msg <;> first | rfl | cases h
  bought _ _ _ _ := rfl
  refreshed _ _ _ := rfl
  live _ _ := rfl

/-- The early buyers that a signal names. -/
def PositionMessage.earlyBuyers : PositionMessage → List Address
  | initiateBuy _ _ _ _ early _ => early
  | _ => []

theorem earlyBuyers_fanOut {m : PositionManagerActor} {pool : Pool} {amountSol : ℚ} {tier : Tier}
    {dev : Option Address} {early : List Address} {snap : Option LearningTradeSnapshot}
    {order : BuyOrder}
    (h : order ∈ ordersInFlight.ofTask
      (.fanOut (m.fanOutMessages pool amountSol tier dev early snap))) :
    order.earlyBuyers = early := by
  simp only [InFlight.ofTask, PositionManagerActor.fanOutMessages] at h
  generalize m.wallets.enabledWallets = ws at h
  induction ws with
  | nil => simp [ordersInFlight] at h
  | cons w ws ih =>
    simp only [List.map_cons, List.cons_append, List.sum_cons, Multiset.mem_add] at h
    rcases h with h | h
    · rw [Multiset.mem_singleton.mp h]
    · exact ih h

/-- The orders that a turn spawns are the order of its message, or those of its signal. -/
theorem earlyBuyers_spawned {m : PositionManagerActor} {env : TurnEnv} {msg : PositionMessage}
    {order : BuyOrder} (h : order ∈ ordersInFlight.ofTasks (m.handle env msg).spawned) :
    order ∈ ordersInFlight.ofMessage msg ∨ order.earlyBuyers = msg.earlyBuyers := by
  obtain ⟨task, htask, horder⟩ := ordersInFlight.mem_ofTasks h
  rcases m.spawned_cases htask with
    hquiet | ⟨order', pool, rfl, rfl⟩ | ⟨pool, amountSol, tier, dev, early, snap, rfl, rfl⟩
  · cases task with
    | fanOut left => cases hquiet
    | buy order pool => cases hquiet
    | _ => exact absurd horder (Multiset.notMem_zero _)
  · exact .inl horder
  · exact .inr (earlyBuyers_fanOut horder)

/-- The messages that a fan-out still has to send. -/
def Task.pending : Task → List PositionMessage
  | .fanOut left => left
  | _ => []

/-- A task that sends no signal. -/
def Task.NoSignal (task : Task) : Prop := ∀ msg ∈ task.pending, msg.earlyBuyers = []

theorem noSignal_of_isQuiet {task : Task} (h : task.isQuiet = true) : task.NoSignal := by
  intro msg hmsg
  cases task with
  | fanOut left => cases h
  | _ => simp [Task.pending] at hmsg

theorem Task.NoSignal.resume {task : Task} {answer : Answer} {left : Option Task}
    {msg : PositionMessage} (hnone : task.NoSignal)
    (h : task.resume answer = some (left, msg)) :
    msg.earlyBuyers = [] ∧ ∀ t ∈ left, t.NoSignal := by
  unfold Task.resume at h
  split at h
  · rename_i m ms
    cases h
    refine ⟨hnone _ List.mem_cons_self, fun t ht m' hm' => ?_⟩
    split_ifs at ht
    · cases ht
    · cases ht
      exact hnone m' (List.mem_cons_of_mem _ hm')
  all_goals
    cases h
    try exact ⟨rfl, by simp⟩

/-- No task that a turn spawns sends a signal. -/
theorem noSignal_spawned {m : PositionManagerActor} {env : TurnEnv} {msg : PositionMessage} :
    ∀ task ∈ (m.handle env msg).spawned, task.NoSignal := by
  intro task htask
  rcases m.spawned_cases htask with
    hquiet | ⟨order, pool, rfl, rfl⟩ | ⟨pool, amountSol, tier, dev, early, snap, rfl, rfl⟩
  · exact noSignal_of_isQuiet hquiet
  · intro msg hmsg
    simp [Task.pending] at hmsg
  · intro msg hmsg
    simp only [Task.pending, PositionManagerActor.fanOutMessages, List.mem_append, List.mem_map,
      List.mem_singleton] at hmsg
    rcases hmsg with ⟨w, -, rfl⟩ | rfl
    · rfl
    · rfl

/-- No list of early buyers names a wallet twice: not in a row, an order or a signal. -/
structure System.DistinctBuyers (s : System) : Prop where
  rows : ∀ key p, s.row key = some p → p.earlyBuyers.Nodup
  orders : ∀ order ∈ ordersInFlight.total s, order.earlyBuyers.Nodup
  signals : ∀ msg ∈ s.mailbox, msg.earlyBuyers.Nodup
  tasks : ∀ task ∈ s.tasks, task.NoSignal

/-- The early buyers that a posted signal names. -/
def Event.earlyBuyers : Event → List Address
  | .post msg => msg.earlyBuyers
  | _ => []

theorem distinctBuyers_fresh {s : System} (h : s.Fresh) : s.DistinctBuyers := by
  constructor
  · intro key p hp
    rw [System.row, h.positions] at hp
    cases hp
  · intro order horder
    simp [InFlight.total, h.mailbox, h.tasks] at horder
  · intro msg hmsg
    simp [h.mailbox] at hmsg
  · intro task htask
    simp [h.tasks] at htask

theorem System.DistinctBuyers.step {s t : System} {e : Event} (h : s.DistinctBuyers)
    (he : e.earlyBuyers.Nodup) (hstep : s.step e = some t) : t.DistinctBuyers := by
  cases e with
  | post msg =>
    have horders := ordersInFlight.total_idle hstep (by simp)
    obtain ⟨-, rfl⟩ := System.step_post hstep
    refine ⟨h.rows, fun order ho => h.orders order (horders ▸ ho), fun m hm => ?_, h.tasks⟩
    rcases List.mem_append.mp hm with hm | hm
    · exact h.signals m hm
    · rw [List.mem_singleton.mp hm]
      exact he
  | patchWallets entries =>
    have horders := ordersInFlight.total_idle hstep (by simp)
    cases hstep
    exact ⟨h.rows, fun order ho => h.orders order (horders ▸ ho), h.signals, h.tasks⟩
  | resume i answer =>
    have horders := ordersInFlight.total_idle hstep (by simp)
    obtain ⟨task, left, msg, htask, hres, rfl⟩ := System.step_resume hstep
    obtain ⟨hmsg, hleft⟩ := (h.tasks task (List.mem_of_getElem? htask)).resume hres
    refine ⟨h.rows, fun order ho => h.orders order (horders ▸ ho), fun m hm => ?_, fun t ht => ?_⟩
    · rcases List.mem_append.mp hm with hm | hm
      · exact h.signals m hm
      · rw [List.mem_singleton.mp hm, hmsg]
        exact List.nodup_nil
    · rcases List.mem_append.mp ht with ht | ht
      · exact hleft t (Option.mem_toList.mp ht)
      · exact h.tasks t (List.mem_of_mem_eraseIdx ht)
  | turn env =>
    obtain ⟨msg, rest, hbox, ht⟩ := System.step_turn hstep
    obtain ⟨hs, ht'⟩ := ordersInFlight.total_turn hbox hstep
    have hmsg : ∀ order ∈ ordersInFlight.ofMessage msg, order.earlyBuyers.Nodup := by
      intro order ho
      refine h.orders order ?_
      rw [hs, add_assoc]
      exact Multiset.mem_add.mpr (.inl ho)
    refine ⟨fun key q hq => ?_, fun order ho => ?_, fun m hm => ?_, fun task htask => ?_⟩
    · subst ht
      rcases PositionManagerActor.rowChange_or_opened hq with
        ⟨p, hp, hchange⟩ | ⟨order, pool, r, rfl, -, -, rfl⟩
      · rw [hchange.signal_kept.2.2]
        exact h.rows key p hp
      · rw [(PositionManagerActor.openedPosition_signal _ _ _ _ _).2.2]
        exact hmsg order (Multiset.mem_singleton_self order)
    · rw [ht'] at ho
      rcases Multiset.mem_add.mp ho with ho | ho
      · refine h.orders order ?_
        rw [hs, add_assoc]
        exact Multiset.mem_add.mpr (.inr ho)
      · rcases earlyBuyers_spawned ho with ho | ho
        · exact hmsg order ho
        · rw [ho]
          exact h.signals msg (by simp [hbox])
    · subst ht
      exact h.signals m (by rw [hbox]; exact List.mem_cons_of_mem _ hm)
    · subst ht
      rcases List.mem_append.mp htask with htask | htask
      · exact h.tasks task htask
      · exact noSignal_spawned task htask

/-! ## One outcome for each mint -/

/-- The row behind a closing. -/
theorem buyers_of_closing {m : PositionManagerActor} {env : TurnEnv} {msg : PositionMessage}
    {c : Closing} (h : m.closing env msg = some c) :
    c.buyers = [] ∨ ∃ p, AList.lookup c.key m.positions = some p ∧ c.buyers = p.earlyBuyers := by
  unfold PositionManagerActor.closing at h
  split at h
  · split at h
    · rename_i p r hp _
      split_ifs at h
      cases h
      cases hsmart : m.hasSmartMoney with
      | false => exact .inl (by simp [PositionManagerActor.rowClosing, hsmart])
      | true => exact .inr ⟨p, hp, by simp [PositionManagerActor.rowClosing, hsmart]⟩
    · cases h
  · split at h
    · split_ifs at h
      cases h
      exact .inl rfl
    · cases h
  · cases h

/-- The controller has heard of a close. -/
def Effect.isClose : Effect → Bool
  | .notePositionClosed .. => true
  | _ => false

/-- A signal names distinct early buyers, and a confirmed sell ends a fill of a mint only when none
has ended a fill of that mint before. -/
def System.SingleClose (s : System) (e : Event) : Prop :=
  e.earlyBuyers.Nodup ∧
    ∀ c ∈ s.closing e, ∀ note ∈ s.log, note.isClose = true → note.key.mint ≠ c.key.mint

instance (s : System) (e : Event) : Decidable (s.SingleClose e) :=
  inferInstanceAs (Decidable (_ ∧ _))

/-- Every mint has at most one closing, and it names no early buyer twice. -/
structure ClosedOnce (cs : List Closing) : Prop where
  mints : (cs.map (·.key.mint)).Nodup
  buyers : ∀ c ∈ cs, c.buyers.Nodup

theorem ClosedOnce.step {s : System} {cs : List Closing} {e : Event} (h : ClosedOnce cs)
    (htold : told s.log = cs.flatMap Closing.notes) (hdistinct : s.DistinctBuyers)
    (hguard : s.SingleClose e) : ClosedOnce (cs ++ (s.closing e).toList) := by
  cases hclosing : s.closing e with
  | none => simpa using h
  | some c =>
    have hnew : ∀ c' ∈ cs, c'.key.mint ≠ c.key.mint := by
      intro c' hc'
      have hnote : Effect.notePositionClosed c'.key c'.pnlSol ∈ told s.log := by
        rw [htold]
        exact List.mem_flatMap.mpr ⟨c', hc', by simp [Closing.notes]⟩
      exact hguard.2 c hclosing _ (List.mem_of_mem_filter hnote) rfl
    constructor
    · rw [Option.toList_some, List.map_append, List.map_singleton, List.nodup_append]
      refine ⟨h.mints, List.nodup_singleton _, ?_⟩
      intro mint hmint mint' hmint' heq
      obtain ⟨c', hc', rfl⟩ := List.mem_map.mp hmint
      rw [List.mem_singleton] at hmint'
      exact hnew c' hc' (heq.trans hmint')
    · intro c' hc'
      rcases List.mem_append.mp hc' with hc' | hc'
      · exact h.buyers c' hc'
      · rw [Option.toList_some, List.mem_singleton] at hc'
        subst hc'
        cases e with
        | turn env =>
          obtain ⟨msg, -, hclosing⟩ := Option.bind_eq_some_iff.mp hclosing
          rcases buyers_of_closing hclosing with hnil | ⟨p, hp, hbuyers⟩
          · rw [hnil]; exact List.nodup_nil
          · rw [hbuyers]; exact hdistinct.rows _ p hp
        | _ => cases hclosing

namespace ClosedOnce

variable {cs : List Closing} {log : List Effect}

theorem outcomes_le (h : ClosedOnce cs) (htold : told log = cs.flatMap Closing.notes)
    (dev mint : Address) : mintShare (Effect.outcomesOf dev) mint log ≤ 1 := by
  rw [mintShare_eq (by intro e he; cases e <;> first | rfl | cases he) htold]
  rcases filter_mint_of_nodup h.mints mint with hnil | ⟨c, -, -, hsingle⟩
  · simp [hnil]
  · rw [hsingle, List.map_singleton, List.sum_singleton, Closing.sum_outcomesOf]
    split_ifs <;> simp

theorem outcomes_eq (h : ClosedOnce cs) (htold : told log = cs.flatMap Closing.notes)
    {dev mint : Address} (hclosed : ∃ c ∈ cs, c.key.mint = mint ∧ c.dev = some dev) :
    mintShare (Effect.outcomesOf dev) mint log = 1 := by
  obtain ⟨c, hc, hmint, hdev⟩ := hclosed
  have hmem : c ∈ cs.filter fun c => c.key.mint == mint :=
    List.mem_filter.mpr ⟨hc, by simp [hmint]⟩
  rw [mintShare_eq (by intro e he; cases e <;> first | rfl | cases he) htold]
  rcases filter_mint_of_nodup h.mints mint with hnil | ⟨c', -, -, hsingle⟩
  · rw [hnil] at hmem
    cases hmem
  · rw [hsingle, List.mem_singleton] at hmem
    subst hmem
    rw [hsingle, List.map_singleton, List.sum_singleton, Closing.sum_outcomesOf, if_pos hdev]

theorem trades_le (h : ClosedOnce cs) (htold : told log = cs.flatMap Closing.notes)
    (wallet mint : Address) : mintShare (Effect.tradesOf wallet) mint log ≤ 1 := by
  rw [mintShare_eq (by intro e he; cases e <;> first | rfl | cases he) htold]
  rcases filter_mint_of_nodup h.mints mint with hnil | ⟨c, hc, -, hsingle⟩
  · simp [hnil]
  · rw [hsingle, List.map_singleton, List.sum_singleton, Closing.sum_tradesOf]
    exact List.nodup_iff_count_le_one.mp (h.buyers c hc) wallet

theorem losses_le (h : ClosedOnce cs) (mint : Address) :
    cs.countP (fun c => c.key.mint == mint && c.isLoss) ≤ 1 := by
  have hsplit : cs.countP (fun c => c.key.mint == mint && c.isLoss) =
      (cs.filter fun c => c.key.mint == mint).countP Closing.isLoss := by
    rw [List.countP_filter]
    exact List.countP_congr fun c _ => by rw [Bool.and_comm]
  rw [hsplit]
  rcases filter_mint_of_nodup h.mints mint with hnil | ⟨c, -, -, hsingle⟩
  · simp [hnil]
  · rw [hsingle]
    exact List.countP_le_length

end ClosedOnce

/-- What the notes of a mint have added to a counter. -/
theorem heard_share {σ : Type*} {hear : σ → Effect × ℕ → σ} (tally : Tally hear) {f : Effect → ℕ}
    (hadds : ∀ note, tally.adds note = f note.1) (mint : Address) {heard : List (Effect × ℕ)}
    {log : List Effect} (h : (heard.map Prod.fst).Subperm log) (r : σ) :
    ∃ k ≤ mintShare f mint log,
      tally.count (heard.foldl hear r) =
        tally.count ((heard.filter fun n => !ofMint mint n).foldl hear r) + UInt64.ofNat k ∧
      ((heard.map Prod.fst).Perm log → k = mintShare f mint log) := by
  refine ⟨mintShare f mint (heard.map Prod.fst), mintShare_le h, ?_, mintShare_perm⟩
  rw [tally.split r (ofMint mint) heard, total_ofMint tally hadds]

/-- **One outcome.** What a run has added for a mint, whatever the order in which its notes arrive,
and whether or not all of them have arrived. -/
structure OneOutcome (mint : Address) (s : System) (es : List Event) (t : System) : Prop where
  developer : ∀ (r : DevRanker) (heard : List (Effect × ℕ)) (dev : Address),
    (heard.map Prod.fst).Subperm t.log → ∃ k ≤ 1,
      ((heard.foldl .hear r).record dev).totalTokens =
        (((heard.filter fun n => !ofMint mint n).foldl .hear r).record dev).totalTokens +
          UInt64.ofNat k ∧
      ((heard.map Prod.fst).Perm t.log →
        (∃ c ∈ closings s es, c.key.mint = mint ∧ c.dev = some dev) → k = 1)
  buyers : ∀ (r : SmartMoney) (heard : List (Effect × ℕ)) (wallet : Address),
    (heard.map Prod.fst).Subperm t.log → ∃ k ≤ 1,
      ((heard.foldl .hear r).record wallet).trades =
        (((heard.filter fun n => !ofMint mint n).foldl .hear r).record wallet).trades +
          UInt64.ofNat k
  losses : (closings s es).countP (fun c => c.key.mint == mint && c.isLoss) ≤ 1
  record : t.actor.strategy.lossRecord =
    ((closings s es).map fun c => decide (c.pnlSol > 0)).foldl
      (LossRecord.note s.actor.strategy.cfg) s.actor.strategy.lossRecord

/-- **One outcome for each token.** In every run whose signals name distinct early buyers, and in
which a confirmed sell ends at most one fill of each mint. -/
theorem oneOutcome_of_singleClose {s t : System} {es : List Event} (hfresh : s.Fresh)
    (h : manager.Path System.SingleClose s es t) (mint : Address) : OneOutcome mint s es t := by
  have hstart : Bookkept s.actor.strategy.lossRecord s.actor.strategy.cfg s [] :=
    bookkept_path hfresh (.nil (G := System.SingleClose) s)
  obtain ⟨hbooks, -, honce⟩ := h.invariant_trace (f := System.closing)
    (I := fun u cs => Bookkept s.actor.strategy.lossRecord s.actor.strategy.cfg u cs ∧
      u.DistinctBuyers ∧ ClosedOnce cs)
    (fun u e v cs hu hg hstep => ⟨hu.1.step hstep, hu.2.1.step hg.1 hstep,
      hu.2.2.step hu.1.told_eq hu.2.1 hg⟩)
    ⟨hstart, distinctBuyers_fresh hfresh, List.nodup_nil, by simp⟩
  rw [List.nil_append] at hbooks honce
  refine ⟨fun r heard dev hheard => ?_, fun r heard wallet hheard => ?_, honce.losses_le mint,
    hbooks.record⟩
  · obtain ⟨k, hk, hcount, hall⟩ :=
      heard_share (DevRanker.tokens dev) (f := Effect.outcomesOf dev) (fun _ => rfl) mint hheard r
    refine ⟨k, hk.trans (honce.outcomes_le hbooks.told_eq dev mint), hcount, ?_⟩
    intro hperm hclosed
    rw [hall hperm]
    exact honce.outcomes_eq hbooks.told_eq hclosed
  · obtain ⟨k, hk, hcount, -⟩ :=
      heard_share (SmartMoney.tradesHeard wallet) (f := Effect.tradesOf wallet) (fun _ => rfl) mint
        hheard r
    exact ⟨k, hk.trans (honce.trades_le hbooks.told_eq wallet mint), hcount⟩

/-! ## Two wallets -/

/-- A fresh manager that keeps both registries. -/
def System.ranked (wallets : WalletRegistry) : System :=
  let s := System.small wallets {}
  { s with actor := { s.actor with hasDevRanker := true, hasSmartMoney := true } }

theorem System.ranked_fresh (wallets : WalletRegistry) : (System.ranked wallets).Fresh :=
  ⟨rfl, rfl, rfl, rfl, rfl, rfl, rfl⟩

/-- A signal on mint 1 of developer 9, with one early buyer. -/
def namedSignal : Event := .post (.initiateBuy (smallPool 1) (1 / 10) .a (some 9) [7] none)

/-- Both wallets buy, and a tick 100 seconds later queues a full sell of each row. -/
def bothQueued : List Event :=
  [namedSignal, turn, .resume 0 .go, turn, .resume 0 .go, turn, .resume 0 .go, turn,
    filled 0 1000, turn, filled 0 1000, turn, .post .tick, turnAt 100]

/-- The first of the two sells. -/
def oneSold : List Event := bothQueued ++ [.resume 0 .go, turnAt 100]

def bothSold : List Event := oneSold ++ [.resume 0 .go, turnAt 100]

/-- One signal, two wallets: two outcomes for the developer, two trades for the early buyer, and a
loss streak of two. -/
theorem twoWallets_count_twice :
    ∃ t, manager.run (System.ranked twoWallets) bothSold = some t ∧
      (((t.log.map (·, 0)).foldl DevRanker.hear ∅).record 9).totalTokens = 2 ∧
      (((t.log.map (·, 0)).foldl SmartMoney.hear ∅).record 7).trades = 2 ∧
      t.actor.strategy.lossStreak = 2 ∧ ¬ OneOutcome 1 (System.ranked twoWallets) bothSold t := by
  have hrun : (manager.run (System.ranked twoWallets) bothSold).any (fun t =>
      decide ((((t.log.map (·, 0)).foldl DevRanker.hear ∅).record 9).totalTokens = 2 ∧
        ((((t.log.map (·, 0)).filter fun n => !ofMint 1 n).foldl DevRanker.hear
          ∅).record 9).totalTokens = 0 ∧
        (((t.log.map (·, 0)).foldl SmartMoney.hear ∅).record 7).trades = 2 ∧
        t.actor.strategy.lossStreak = 2)) = true := by decide +kernel
  obtain ⟨t, ht, h⟩ := (Option.any_eq_true _ _).mp hrun
  obtain ⟨htokens, hothers, htrades, hstreak⟩ := of_decide_eq_true h
  refine ⟨t, ht, htokens, htrades, hstreak, fun hone => ?_⟩
  have hheard : ((t.log.map (·, 0)).map Prod.fst).Subperm t.log := by
    rw [List.map_map, Function.comp_def, List.map_id']
  obtain ⟨k, hk, hcount, -⟩ := hone.developer ∅ (t.log.map (·, 0)) 9 hheard
  rw [htokens, hothers] at hcount
  rcases Nat.le_one_iff_eq_zero_or_eq_one.mp hk with rfl | rfl
  · exact absurd hcount (by decide)
  · exact absurd hcount (by decide)

theorem oneOutcome_of_singleClose_oneSold :
    ∃ t, (∃ c ∈ closings (System.ranked twoWallets) oneSold, c.key.mint = 1 ∧ c.dev = some 9) ∧
      OneOutcome 1 (System.ranked twoWallets) oneSold t := by
  have hrun : (manager.runUnder System.SingleClose (System.ranked twoWallets) oneSold).isSome =
      true := by decide +kernel
  have hclosed : (closings (System.ranked twoWallets) oneSold).any
      (fun c => c.key.mint == 1 && c.dev == some 9) = true := by decide +kernel
  obtain ⟨t, ht⟩ := Option.isSome_iff_exists.mp hrun
  obtain ⟨c, hc, h⟩ := List.any_eq_true.mp hclosed
  simp only [Bool.and_eq_true, beq_iff_eq] at h
  exact ⟨t, ⟨c, hc, h⟩,
    oneOutcome_of_singleClose (System.ranked_fresh twoWallets) (.of_runUnder ht) 1⟩

end Loggaper
