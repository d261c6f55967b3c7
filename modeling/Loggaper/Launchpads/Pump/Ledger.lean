import Loggaper.Launchpads.Pump.History

/-!
# Holdings against the ledger of the stream

A bucket subtracts its launch slot from the slot of a trade, and the tokens of a sell from the
seller's holdings. Neither subtraction is guarded, and the stream is partial: a wallet may sell
what it got by transfer, or what it bought before a second launch event replaced the swarm.

Main result: `neverUnderflows_iff_covered`. No subtraction of a stream underflows and no holdings
wrap exactly when the stream itself covers every sell.
-/

namespace Loggaper

/-- What a trade adds to the holdings of its user. -/
def TradeEvent.delta (e : TradeEvent) : ℤ :=
  if e.isBuy then e.tokenAmount.toNat else -e.tokenAmount.toNat

/-- What the trades since the launch leave a wallet with. -/
def TokenHistory.net (h : TokenHistory) (user : Address) : ℤ :=
  ((h.trades.filter fun t => t.2.user == user).map fun t => t.2.delta).sum

namespace TokenBucket

variable (b : TokenBucket)

/-- The row of a wallet. -/
def account (user : Address) : Option Trader := b.swarm.bind fun s => s.traders.lookup user

def holdingsOf (user : Address) : ℕ := (b.account user).elim 0 (·.currentHoldings.raw)

/-- A trade of this bucket underflows neither subtraction, changes the user's holdings by its
tokens, and leaves the swarm running. -/
structure TradesSoundly (sniperThreshold : UInt64) (slot : Slot) (e : TradeEvent) : Prop where
  slot_le : b.createdAt ≤ slot
  sell_le : e.isBuy = false → e.tokenAmount.toNat ≤ b.holdingsOf e.user
  no_wrap : ((b.trade sniperThreshold slot e).holdingsOf e.user : ℤ) = b.holdingsOf e.user + e.delta
  running : (b.trade sniperThreshold slot e).swarm.isSome = true

end TokenBucket

section
variable (poolPda : Address → Address) (sniperThreshold : UInt64)

/-- Every trade that finds its token is sound, whatever came before it. -/
def NeverUnderflows : List (Slot × PumpEvent) → Prop :=
  Along fun pre e => ∀ t, e.2 = .trade t →
    ∀ b ∈ (PumpLaunchpadStorage.afterEvents poolPda sniperThreshold pre).bucket poolPda t.mint,
      b.TradesSoundly sniperThreshold e.1 t

/-- **The stream covers its sells.** No trade lies before the latest launch of its token, and with
each trade the wallet's balance since that launch stays a `u64`. -/
def Covered : List (Slot × PumpEvent) → Prop :=
  Along fun pre e => ∀ t, e.2 = .trade t →
    ∀ h ∈ TokenHistory.of poolPda (poolPda t.mint) pre,
      h.createdAt ≤ e.1 ∧ 0 ≤ h.net t.user + t.delta ∧ h.net t.user + t.delta < 2 ^ 64

end

/-! ## One trade -/

namespace TokenHistory

variable (sniperThreshold : UInt64) (h : TokenHistory)

theorem net_concat (t : Slot × TradeEvent) (user : Address) :
    net { h with trades := h.trades ++ [t] } user =
      h.net user + if t.2.user = user then t.2.delta else 0 := by
  simp only [net, List.filter_append, List.map_append, List.sum_append]
  by_cases ht : t.2.user = user <;> simp [ht]

theorem account_bucket (user : Address) :
    (h.bucket sniperThreshold).account user = (h.swarm sniperThreshold).traders.lookup user := by
  rw [TokenBucket.account, (h.bucket_spec sniperThreshold).2.2.2.1]
  rfl

/-- The account that a trade of a wallet changes: its row, or an empty one with its role. -/
def openAccount (slot : Slot) (user : Address) : Trader :=
  ((h.bucket sniperThreshold).account user).getD
    (.empty (h.role sniperThreshold slot user) precision 9)

/-- A trade changes the account of its user only. -/
theorem account_concat (t : Slot × TradeEvent) (user : Address) :
    (bucket sniperThreshold { h with trades := h.trades ++ [t] }).account user =
      if user = t.2.user then
        some (Trader.after t.2 (h.openAccount sniperThreshold t.1 t.2.user))
      else (h.bucket sniperThreshold).account user := by
  rw [account_bucket, swarm_concat, openAccount, account_bucket, account_bucket, Swarm.after,
    lookup_upsert]

theorem account_tidy {user : Address} {trader : Trader}
    (ha : (h.bucket sniperThreshold).account user = some trader) : trader.Tidy := by
  rw [account_bucket] at ha
  exact (h.bucket_spec sniperThreshold).2.2.2.2.rows (user, trader) (mem_of_lookup user ha)

theorem openAccount_tidy (slot : Slot) (user : Address) :
    (h.openAccount sniperThreshold slot user).Tidy := by
  unfold openAccount
  cases ha : (h.bucket sniperThreshold).account user with
  | none => exact Trader.empty_tidy _
  | some trader => exact h.account_tidy sniperThreshold ha

theorem openAccount_holdings (slot : Slot) (user : Address) :
    (h.openAccount sniperThreshold slot user).currentHoldings.raw =
      (h.bucket sniperThreshold).holdingsOf user := by
  unfold openAccount TokenBucket.holdingsOf
  cases (h.bucket sniperThreshold).account user <;> rfl

/-- A wallet's holdings after a trade. -/
theorem holdingsOf_concat (t : Slot × TradeEvent) (user : Address) :
    (bucket sniperThreshold { h with trades := h.trades ++ [t] }).holdingsOf user =
      if user = t.2.user then
        (Trader.after t.2 (h.openAccount sniperThreshold t.1 t.2.user)).currentHoldings.raw
      else (h.bucket sniperThreshold).holdingsOf user := by
  rw [TokenBucket.holdingsOf, account_concat]
  split_ifs <;> rfl

/-- **One trade.** Where the holdings are the balance of the stream, a trade is sound exactly when
the stream covers it. -/
theorem tradesSoundly_iff {slot : Slot} {e : TradeEvent}
    (hnet : ((h.bucket sniperThreshold).holdingsOf e.user : ℤ) = h.net e.user) :
    (h.bucket sniperThreshold).TradesSoundly sniperThreshold slot e ↔
      h.createdAt ≤ slot ∧ 0 ≤ h.net e.user + e.delta ∧ h.net e.user + e.delta < 2 ^ 64 := by
  have htidy := h.openAccount_tidy sniperThreshold slot e.user
  have hopen := h.openAccount_holdings sniperThreshold slot e.user
  obtain ⟨-, -, -, hafter, -⟩ := htidy.after_spec e
  have hlt : (h.bucket sniperThreshold).holdingsOf e.user < 2 ^ 64 := hopen ▸ htidy.holdings_lt
  have ha : e.tokenAmount.toNat < 2 ^ 64 := e.tokenAmount.toNat_lt
  have hnew : ((h.bucket sniperThreshold).trade sniperThreshold slot e).holdingsOf e.user =
      (Trader.after e (h.openAccount sniperThreshold slot e.user)).currentHoldings.raw := by
    rw [← bucket_concat sniperThreshold h (slot, e), holdingsOf_concat, if_pos rfl]
  have hslot := (h.bucket_spec sniperThreshold).1
  have hrunning :
      ((h.bucket sniperThreshold).trade sniperThreshold slot e).swarm.isSome = true := by
    rw [← bucket_concat sniperThreshold h (slot, e), (bucket_spec sniperThreshold _).2.2.2.1]
    rfl
  rw [hopen] at hafter
  rw [← hnet]
  cases hside : e.isBuy with
  | true =>
    have hdelta : e.delta = e.tokenAmount.toNat := if_pos hside
    have henters : (h.openAccount sniperThreshold slot e.user).entersBuy e = true ↔
        ((h.bucket sniperThreshold).holdingsOf e.user + e.tokenAmount.toNat) % 2 ^ 64 ≠ 0 := by
      rw [Trader.entersBuy, hside, hopen, Bool.true_and, bne_iff_ne]
    rw [hside, if_pos rfl] at hafter
    constructor
    · intro hs
      have hwrap := hs.no_wrap
      rw [hnew, hafter, hdelta] at hwrap
      rw [hdelta]
      refine ⟨hslot ▸ hs.slot_le, by omega, ?_⟩
      split_ifs at hwrap <;> omega
    · rintro ⟨hle, hpos, hfits⟩
      rw [hdelta] at hpos hfits
      refine ⟨hslot ▸ hle, by simp [hside], ?_, hrunning⟩
      rw [hnew, hafter, hdelta]
      by_cases hzero : (h.openAccount sniperThreshold slot e.user).entersBuy e = true
      · rw [if_pos hzero]
        omega
      · have hsum := mt henters.mpr hzero
        rw [if_neg hzero]
        omega
  | false =>
    have hdelta : e.delta = -e.tokenAmount.toNat := if_neg (by simp [hside])
    rw [hside, if_neg (by simp)] at hafter
    constructor
    · intro hs
      have hle := hs.sell_le hside
      rw [hdelta]
      exact ⟨hslot ▸ hs.slot_le, by omega, by omega⟩
    · rintro ⟨hle, hpos, -⟩
      rw [hdelta] at hpos
      refine ⟨hslot ▸ hle, fun _ => by omega, ?_, hrunning⟩
      rw [hnew, hafter, hdelta]
      omega

/-- A sound trade leaves every wallet with its balance. -/
theorem holdingsOf_concat_eq_net {slot : Slot} {e : TradeEvent}
    (hnet : ∀ user, ((h.bucket sniperThreshold).holdingsOf user : ℤ) = h.net user)
    (hs : (h.bucket sniperThreshold).TradesSoundly sniperThreshold slot e) (user : Address) :
    ((bucket sniperThreshold { h with trades := h.trades ++ [(slot, e)] }).holdingsOf user : ℤ) =
      net { h with trades := h.trades ++ [(slot, e)] } user := by
  rw [net_concat]
  by_cases hu : e.user = user
  · subst hu
    rw [bucket_concat, hs.no_wrap, hnet, if_pos rfl]
  · rw [holdingsOf_concat, if_neg (Ne.symm hu), if_neg hu, hnet, add_zero]

end TokenHistory

/-! ## Streams -/

section
variable (poolPda : Address → Address) (sniperThreshold : UInt64)

/-- While the stream covers its sells, every wallet holds its balance. -/
theorem Covered.holdingsOf_eq_net {es : List (Slot × PumpEvent)} (hc : Covered poolPda es)
    (key : Address) : ∀ h ∈ TokenHistory.of poolPda key es, ∀ user,
      ((h.bucket sniperThreshold).holdingsOf user : ℤ) = h.net user := by
  induction es using List.reverseRecOn with
  | nil => simp
  | append_singleton es e ih =>
    obtain ⟨hes, he⟩ := Along.append_singleton.mp hc
    obtain ⟨slot, e⟩ := e
    have ih := ih hes
    intro h hh user
    rw [TokenHistory.of_concat] at hh
    cases e with
    | create c =>
      simp only [TokenHistory.step] at hh
      split_ifs at hh
      · cases hh
        rfl
      · exact ih h hh user
    | trade t =>
      simp only [TokenHistory.step] at hh
      split_ifs at hh with hkey
      · obtain ⟨h', hof, rfl⟩ := Option.mem_map.mp hh
        subst hkey
        have hsound := (h'.tradesSoundly_iff sniperThreshold (ih h' hof t.user)).mpr
          (he t rfl h' hof)
        exact h'.holdingsOf_concat_eq_net sniperThreshold (ih h' hof) hsound user
      · exact ih h hh user

/-- **When no subtraction underflows.** -/
theorem neverUnderflows_iff_covered (es : List (Slot × PumpEvent)) :
    NeverUnderflows poolPda sniperThreshold es ↔ Covered poolPda es := by
  apply Along.congr
  intro pre e hpre
  have hcov : Covered poolPda pre := hpre
  apply forall₂_congr
  intro t _
  rw [PumpLaunchpadStorage.bucket_afterEvents]
  simp only [Option.mem_map, forall_exists_index, and_imp, forall_apply_eq_imp_iff₂]
  apply forall₂_congr
  intro h hh
  have hnet := hcov.holdingsOf_eq_net poolPda sniperThreshold _ h hh t.user
  exact h.tradesSoundly_iff sniperThreshold hnet

end

/-! ## A sell of tokens that came by transfer -/

/-- The launch of mint 7 by wallet 8. -/
def launchOfSeven : PumpEvent := .create ⟨"", "", "", 7, 8, 8, false, 0⟩

/-- A trade of mint 7 that leaves the launch reserves. -/
def tradeOfSeven (isBuy : Bool) (user : Address) (tokens lamports : UInt64) : TradeEvent :=
  ⟨7, lamports, tokens, isBuy, user, 30_000_000_000, 1_073_000_000_000_000, 0, 793_100_000_000_000⟩

/-- **Two underflows.** Wallet 9 sells five tokens that it never bought; and a trade carries a slot
before the launch. -/
theorem underflows :
    ¬ NeverUnderflows id 10 [(100, launchOfSeven), (101, .trade (tradeOfSeven false 9 5 1))] ∧
      ¬ NeverUnderflows id 10 [(100, launchOfSeven), (99, .trade (tradeOfSeven true 9 5 1))] := by
  constructor
  · intro h
    have hsound := h [(100, launchOfSeven)] _ List.prefix_rfl _ rfl _ rfl
    exact absurd (hsound.sell_le rfl) (by decide)
  · intro h
    have hsound := h [(100, launchOfSeven)] _ List.prefix_rfl _ rfl _ rfl
    exact absurd hsound.slot_le (by decide)

end Loggaper
