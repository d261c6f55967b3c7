import Loggaper.Lib.ConstantProduct
import Loggaper.Solana.CurveSales

/-!
# The clamp is the inverse of the curve

`pump_sol_out_for_tokens` and `pump_max_sellable_tokens_for_sol` are the payout and the capacity of
a constant-product curve: on `u64` reserves no `u128` operation saturates. So the clamp cuts a sell
down to the largest amount within the safety cap.

- `sellClampExact`: the two functions, on every curve with reserves.
- `sellsWithinCap`: every amount that a sell submits to a curve it has read is within the cap.
-/

namespace Loggaper

open Attempt ConstantProduct

/-! ## The two functions -/

/-- The virtual reserves of a curve that trades: positive `u64`. -/
structure BondingCurveState.Trades (curve : BondingCurveState) : Prop where
  sol_pos : 0 < curve.virtualSolReserves
  sol_le : curve.virtualSolReserves ≤ u64Max
  token_pos : 0 < curve.virtualTokenReserves
  token_le : curve.virtualTokenReserves ≤ u64Max

/-- What the two functions of a curve have to do with each other, on `u64` amounts. -/
structure SellClampExact (curve : BondingCurveState) : Prop where
  adjoint : ∀ t ≤ u64Max, ∀ target ≤ u64Max,
    pumpSolOutForTokens t curve ≤ target ↔ t ≤ pumpMaxSellableTokensForSol target curve
  rounds_up : ∀ t ≤ u64Max, pumpSolOutForTokens t curve =
    (curve.virtualSolReserves * t) ⌈/⌉ (curve.virtualTokenReserves + t)
  mono : ∀ s t, s ≤ t → t ≤ u64Max → pumpSolOutForTokens s curve ≤ pumpSolOutForTokens t curve
  le_reserves : ∀ t ≤ u64Max, pumpSolOutForTokens t curve ≤ curve.virtualSolReserves
  -- no operation reaches a limit of its type
  product_fits : curve.virtualSolReserves * curve.virtualTokenReserves < u128Max
  sum_fits : ∀ t ≤ u64Max, curve.virtualTokenReserves + t < u128Max
  payout_fits : ∀ t ≤ u64Max, curve.virtualSolReserves * curve.virtualTokenReserves /
    (curve.virtualTokenReserves + t) ≤ curve.virtualSolReserves

namespace BondingCurveState.Trades

variable {curve : BondingCurveState} (h : curve.Trades)
include h

theorem product_lt : curve.virtualSolReserves * curve.virtualTokenReserves < u128Max := by
  calc curve.virtualSolReserves * curve.virtualTokenReserves ≤ u64Max * u64Max :=
        Nat.mul_le_mul h.sol_le h.token_le
    _ < u128Max := by decide

theorem sum_lt {t : ℕ} (ht : t ≤ u64Max) : curve.virtualTokenReserves + t < u128Max := by
  calc curve.virtualTokenReserves + t ≤ u64Max + u64Max := Nat.add_le_add h.token_le ht
    _ < u128Max := by decide

theorem solOut_eq {t : ℕ} (ht : t ≤ u64Max) :
    pumpSolOutForTokens t curve =
      payout curve.virtualSolReserves curve.virtualTokenReserves t := by
  have hsol := h.sol_pos
  have htoken := h.token_pos
  have hproduct : satMul128 curve.virtualSolReserves curve.virtualTokenReserves =
      curve.virtualSolReserves * curve.virtualTokenReserves := min_eq_left h.product_lt.le
  have hsum : satAdd128 curve.virtualTokenReserves t = curve.virtualTokenReserves + t :=
    min_eq_left (h.sum_lt ht).le
  have hle := payout_le curve.virtualSolReserves curve.virtualTokenReserves t
  by_cases hzero : t = 0
  · subst hzero
    rw [payout_zero htoken, pumpSolOutForTokens, if_pos (.inl rfl)]
  · rw [pumpSolOutForTokens, if_neg (by omega)]
    dsimp only
    rw [hsum, if_neg (by omega), hproduct]
    exact min_eq_left (hle.trans h.sol_le)

/-- Below the reserves, what the source returns is the capacity, cut to `u64`. -/
theorem maxSellable_eq {target : ℕ} (hlt : target < curve.virtualSolReserves) :
    pumpMaxSellableTokensForSol target curve =
      min (capacity curve.virtualSolReserves curve.virtualTokenReserves target) u64Max := by
  have htoken := h.token_pos
  have hproduct : satMul128 curve.virtualSolReserves curve.virtualTokenReserves =
      curve.virtualSolReserves * curve.virtualTokenReserves := min_eq_left h.product_lt.le
  unfold pumpMaxSellableTokensForSol capacity
  by_cases hzero : target = 0
  · subst hzero
    have hsol : 0 < curve.virtualSolReserves := h.sol_pos
    rw [if_pos (.inl rfl), Nat.sub_zero, Nat.mul_div_cancel_left _ hsol, Nat.sub_self]
    rfl
  · rw [if_neg (by omega), if_neg (by omega), hproduct]
    dsimp only
    split_ifs with hcut
    · rw [Nat.sub_eq_zero_of_le hcut, Nat.zero_min]
    · rfl

/-- **The clamp is the inverse of the curve.** -/
theorem clampExact : SellClampExact curve := by
  have htoken := h.token_pos
  have heq : ∀ t ≤ u64Max, pumpSolOutForTokens t curve =
      payout curve.virtualSolReserves curve.virtualTokenReserves t := fun _ => h.solOut_eq
  constructor
  · intro t ht target htarget
    rw [heq t ht]
    rcases lt_or_ge target curve.virtualSolReserves with hlt | hge
    · rw [h.maxSellable_eq hlt, payout_le_iff htoken hlt, le_min_iff, and_iff_left ht]
    · -- no amount pays more than the reserves
      have hsol := h.sol_pos
      have hall : pumpMaxSellableTokensForSol target curve = u64Max := by
        rw [pumpMaxSellableTokensForSol, if_neg (by omega), if_pos hge]
      rw [hall]
      exact iff_of_true ((payout_le _ _ _).trans hge) ht
  · intro t ht
    rw [heq t ht, payout_eq_ceilDiv htoken]
  · intro s t hst ht
    rw [heq s (hst.trans ht), heq t ht]
    exact payout_mono htoken hst
  · intro t ht
    rw [heq t ht]
    exact payout_le _ _ _
  · exact h.product_lt
  · exact fun t => h.sum_lt
  · intro t _
    apply Nat.div_le_of_le_mul
    rw [Nat.mul_comm]
    exact Nat.mul_le_mul_right _ (Nat.le_add_right _ t)

end BondingCurveState.Trades

/-! ## What is submitted after clamping -/

theorem readU64_le (data : List UInt8) (off : ℕ) : readU64 data off ≤ u64Max :=
  Nat.le_pred_of_lt (readU64_lt data off)

/-- An account's curve trades, or pays nothing. -/
theorem trades_or_pays_nothing {data : List UInt8} {curve : BondingCurveState}
    (h : decodeBondingCurve data = .ok curve) :
    curve.Trades ∨ ∀ t, pumpSolOutForTokens t curve = 0 := by
  unfold decodeBondingCurve at h
  split_ifs at h
  cases h
  by_cases hsol : readU64 data 16 = 0
  · exact .inr fun t => if_pos (.inr (.inl hsol))
  · by_cases htoken : readU64 data 8 = 0
    · exact .inr fun t => if_pos (.inr (.inr htoken))
    · exact .inl ⟨Nat.pos_of_ne_zero hsol, readU64_le _ _, Nat.pos_of_ne_zero htoken,
        readU64_le _ _⟩

/-- The payout of the amount is at most 90% of the SOL that the curve holds, in whole lamports. -/
def WithinCap (curve : BondingCurveState) (t : ℕ) : Prop :=
  pumpSolOutForTokens t curve ≤ curve.realSolReserves * 90 / 100

/-- The safety cap of the source is that bound. -/
theorem withinCap_iff {curve : BondingCurveState} {t : ℕ} :
    WithinCap curve t ↔ ¬ exceedsSafetyCap t curve := not_lt.symm

theorem maxSellable_le (target : ℕ) (curve : BondingCurveState) :
    pumpMaxSellableTokensForSol target curve ≤ u64Max := by
  unfold pumpMaxSellableTokensForSol
  dsimp only
  split_ifs <;> omega

theorem realSol_le {data : List UInt8} {curve : BondingCurveState}
    (h : decodeBondingCurve data = .ok curve) : curve.realSolReserves ≤ u64Max := by
  unfold decodeBondingCurve at h
  split_ifs at h
  cases h
  exact readU64_le _ _

/-- What the capacity of the cap leaves is within the cap. -/
theorem withinCap_of_le {data : List UInt8} {curve : BondingCurveState}
    (h : decodeBondingCurve data = .ok curve) {t : ℕ}
    (ht : t ≤ pumpMaxSellableTokensForSol (safetyCapLamports curve) curve) : WithinCap curve t := by
  have ht' : t ≤ u64Max := ht.trans (maxSellable_le _ _)
  have hcap : safetyCapLamports curve ≤ u64Max := by
    have hreal := realSol_le h
    unfold safetyCapLamports
    omega
  rcases trades_or_pays_nothing h with htrades | hnothing
  · exact (htrades.clampExact.adjoint t ht' _ hcap).mpr ht
  · rw [WithinCap, hnothing]
    exact Nat.zero_le _

theorem withinCap_firstLeg {data : List UInt8} {curve : BondingCurveState}
    (h : decodeBondingCurve data = .ok curve) (amountRaw : ℕ) :
    WithinCap curve (firstLeg amountRaw (some curve)).1 := by
  unfold firstLeg
  dsimp only
  split_ifs with hcap
  · exact withinCap_of_le h (min_le_left _ _)
  · exact withinCap_iff.mpr hcap

theorem withinCap_clampLeg {data : List UInt8} {curve : BondingCurveState}
    (h : decodeBondingCurve data = .ok curve) (preRaw : ℕ) :
    WithinCap curve (clampLeg preRaw curve).1 := by
  unfold clampLeg
  split_ifs with hcap
  · exact withinCap_of_le h (min_le_left _ _)
  · by_cases hexceeds : exceedsSafetyCap preRaw curve
    · -- the clamp leaves the amount as it is
      have hsame : preRaw ≤ clampedAmount preRaw curve :=
        not_lt.mp fun hlt => hcap ⟨hexceeds, hlt⟩
      exact withinCap_of_le h (hsame.trans (min_le_left _ _))
    · exact withinCap_iff.mpr hexceeds

/-! ## Every run of a sell -/

/-- What an instruction sells to the curve. -/
def Instruction.curveSale : Instruction → Option ℕ
  | .pumpSell _ _ _ _ tokenAmountIn _ _ => some tokenAmountIn
  | _ => none

/-- What a submission sells to the curve. -/
def Query.curveSales : Query → List ℕ
  | .sendTransaction _ (.signed ixs _) _ => ixs.filterMap Instruction.curveSale
  | _ => []

/-- What a reading of the curve's account shows: a curve, or nothing that can be read. -/
def shownCurve (b : SolanaBroker) (mint : Address) :
    Exchange NodeAnswer → Option (Option BondingCurveState)
  | ⟨.getAccount a, r⟩ =>
    if a = b.boundingCurve mint then
      match r with
      | .ok (some account) => some (decodeBondingCurve account.data).toOption
      | _ => some none
    else none
  | _ => none

/-- The curve as the last reading of it shows it. -/
def lastCurve (b : SolanaBroker) (mint : Address) (h : Record) : Option BondingCurveState :=
  h.foldl (fun last x => (shownCurve b mint x).getD last) none

/-- Each amount that is submitted to the curve is within the cap of its last reading. A curve that
could not be read has no cap. -/
def SellsWithinCap (b : SolanaBroker) (mint : Address) (h : Record) : Prop :=
  ∀ g x, g ++ [x] <+: h → ∀ t ∈ x.query.curveSales, ∀ curve ∈ lastCurve b mint g,
    WithinCap curve t

/-- The last reading of the curve, and whether what was submitted so far was within the cap. -/
structure CurveWatch where
  curve : Option BondingCurveState
  capped : Prop

namespace CurveWatch

section
variable (b : SolanaBroker) (mint : Address)

def note (s : CurveWatch) (x : Exchange NodeAnswer) : CurveWatch where
  curve := (shownCurve b mint x).getD s.curve
  capped := s.capped ∧ ∀ t ∈ x.query.curveSales, ∀ curve ∈ s.curve, WithinCap curve t

def start : CurveWatch := ⟨none, True⟩

def of (h : Record) : CurveWatch := h.foldl (note b mint) start

theorem of_append (h : Record) (x : Exchange NodeAnswer) :
    of b mint (h ++ [x]) = (of b mint h).note b mint x := by
  simp [of]

theorem of_curve (h : Record) : (of b mint h).curve = lastCurve b mint h := by
  induction h using List.reverseRecOn with
  | nil => rfl
  | append_singleton h x ih => simp [of_append, note, lastCurve, ih]

theorem sellsWithinCap_of_capped {h : Record} (hcapped : (of b mint h).capped) :
    SellsWithinCap b mint h := by
  induction h using List.reverseRecOn with
  | nil =>
    intro g x hg
    simp at hg
  | append_singleton h y ih =>
    rw [of_append] at hcapped
    intro g x hg t ht curve hcurve
    rcases List.prefix_concat_iff.mp hg with hlast | hearlier
    · obtain ⟨rfl, rfl⟩ := List.append_singleton_inj.mp hlast
      exact hcapped.2 t ht curve (of_curve b mint g ▸ hcurve)
    · exact ih hcapped.1 g x hearlier t ht curve hcurve

end

variable {b : SolanaBroker} {mint : Address}

/-- The last reading is this one, and everything so far was within the cap. -/
def Holds (curve : Option BondingCurveState) (s : CurveWatch) : Prop := s.capped ∧ s.curve = curve

/-- A part that sells nothing to the curve. -/
theorem wp_noSale {α : Type} {p : Call α} (hp : Asks (fun q => q.curveSales = []) p)
    {s : CurveWatch} (hs : s.capped) : wp (note b mint) p (fun _ t => t.capped) s := by
  apply wp_of_asks _ hp hs
  intro q a s hq hs
  exact ⟨hs, by simp [show (Exchange.mk (A := NodeAnswer) q a).query.curveSales = [] from hq]⟩

/-- A question that reads no account and sells within the cap of the curve. -/
def Keeps (curve : Option BondingCurveState) (q : Query) : Prop :=
  (∀ a, q ≠ .getAccount a) ∧ ∀ t ∈ q.curveSales, ∀ c ∈ curve, WithinCap c t

/-- A part that goes by one reading. -/
theorem wp_holds {α : Type} {curve : Option BondingCurveState} {p : Call α}
    (hp : Asks (Keeps curve) p) {s : CurveWatch} (hs : Holds curve s) :
    wp (note b mint) p (fun _ => Holds curve) s := by
  apply wp_of_asks _ hp hs
  intro q a s hq hs
  obtain ⟨hcapped, rfl⟩ := hs
  refine ⟨⟨hcapped, hq.2⟩, ?_⟩
  have hnone : shownCurve b mint ⟨q, a⟩ = none := by
    cases q with
    | getAccount address => exact absurd rfl (hq.1 address)
    | _ => rfl
  simp [note, hnone]

theorem fetchBondingCurveState_holds {s : CurveWatch} (hs : s.capped) :
    wp (note b mint) (fetchBondingCurveState b mint)
      (fun r t => Holds r.toOption t ∧
        ∀ curve, r = .ok curve → ∃ data, decodeBondingCurve data = .ok curve) s := by
  apply wp_ask
  intro (resp : Except String (Option Account))
  have hcapped : (s.note b mint ⟨.getAccount (b.boundingCurve mint), resp⟩).capped :=
    ⟨hs, fun _ ht => by cases ht⟩
  cases resp with
  | error e => exact ⟨⟨hcapped, by simp [note, shownCurve, Except.toOption]⟩, by simp⟩
  | ok account =>
    cases account with
    | none => exact ⟨⟨hcapped, by simp [note, shownCurve, Except.toOption]⟩, by simp⟩
    | some account =>
      show wp _ (orThrow id (decodeBondingCurve account.data)) _ _
      cases hdec : decodeBondingCurve account.data with
      | error e => exact ⟨⟨hcapped, by simp [note, shownCurve, hdec, Except.toOption]⟩, by simp⟩
      | ok curve =>
        refine ⟨⟨hcapped, by simp [note, shownCurve, hdec, Except.toOption]⟩, ?_⟩
        intro c hc
        cases hc
        exact ⟨account.data, hdec⟩

end CurveWatch

/-! ## What sells nothing to the curve -/

/-- No curve sale among the questions. -/
def NoSale {α : Type} (p : Call α) : Prop := Asks (fun q => q.curveSales = []) p

theorem noSale_of_reads {α : Type} {p : Call α} (hp : Asks Query.Reads p) : NoSale p := by
  apply asks_mono _ hp
  intro q hq
  cases q with
  | sendTransaction label tx skip => exact hq.elim
  | _ => rfl

section
variable (b : SolanaBroker)

theorem noSale_sendVersionedJupiterWithRetries (build : JupiterSwapBuild) (label : String) :
    NoSale (sendVersionedJupiterWithRetries b build label) := by
  apply asks_retry
  intro left again hagain
  apply asks_bind (asks_question (by rfl))
  intro hash
  apply asks_bind (asks_orThrow _ _)
  intro blockhash
  apply asks_bind (asks_question (by rfl))
  intro signed
  apply asks_bind (asks_orThrow _ _)
  intro u
  apply asks_bind (asks_question (by rfl))
  rintro ⟨(msg | sig), lands⟩
  · cases again with
    | none => trivial
    | some rest => exact hagain rest rfl
  · apply asks_bind (asks_waitUntilSignatureConfirmedOk (by rfl) (by rfl))
    intro u
    trivial

theorem noSale_jupiterExecuteV2Order (build : JupiterSwapBuild) (requestId : String) :
    NoSale (jupiterExecuteV2Order build requestId) := by
  apply asks_bind (noSale_of_reads (reads_decodeSwapTransaction _ _))
  intro u
  apply asks_bind (asks_question (by rfl))
  intro signed
  apply asks_bind (asks_orThrow _ _)
  intro u
  apply asks_bind (asks_question (by rfl))
  intro sent
  apply asks_bind (asks_orThrow _ _)
  intro resp
  split
  · split
    · trivial
    · apply asks_bind (asks_question (by rfl))
      intro parsed
      exact asks_orThrow _ _
  · trivial

theorem noSale_jupiterSendSwapBuild (build : JupiterSwapBuild) :
    NoSale (jupiterSendSwapBuild b build) := by
  unfold jupiterSendSwapBuild
  cases build.v2RequestId with
  | some requestId => exact noSale_jupiterExecuteV2Order build requestId
  | none =>
    apply asks_bind (noSale_of_reads (reads_decodeSwapTransaction _ _))
    intro u
    exact noSale_sendVersionedJupiterWithRetries b build _

theorem noSale_jupiterBuildSwapExactIn (mint : Address) (raw bps : ℕ) (opts : JupiterQuoteOpts) :
    NoSale (jupiterBuildSwapExactIn mint raw bps opts) :=
  noSale_of_reads (reads_jupiterBuildSwapExactInMints _)

theorem noSale_jupiterQuoteSwapBuildPostGraduation (mint : Address) (raw bps : ℕ) :
    NoSale (jupiterQuoteSwapBuildPostGraduation mint raw bps) := by
  apply asks_bind (asks_inspect (noSale_jupiterBuildSwapExactIn mint raw bps _))
  intro answer
  cases answer with
  | error e =>
    dsimp only
    split
    · apply asks_bind (asks_inspect
        (noSale_of_reads (reads_jupiterBuildSwapV2OrderExactIn mint raw bps _)))
      intro answer
      cases answer with
      | error e => exact noSale_jupiterBuildSwapExactIn mint raw bps _
      | ok build => trivial
    · trivial
  | ok build => trivial

theorem noSale_jupiterRetryBuildAfterPump6005 (mint : Address) (raw bps : ℕ) (hadExclude : Bool) :
    NoSale (jupiterRetryBuildAfterPump6005 mint raw bps hadExclude) := by
  cases hadExclude with
  | false => exact noSale_jupiterBuildSwapExactIn mint raw bps _
  | true =>
    apply asks_bind (asks_inspect (noSale_jupiterBuildSwapExactIn mint raw bps _))
    intro answer
    cases answer with
    | error e => exact noSale_jupiterBuildSwapExactIn mint raw bps _
    | ok build => trivial

/-- No instruction of a close sells to the curve. -/
@[simp] theorem curveSales_close (sale : Sale) :
    (computeBudgetPrelude b ++ [closeAccountIx b sale]).filterMap Instruction.curveSale = [] := by
  unfold computeBudgetPrelude
  split <;> split <;> rfl

theorem noSale_sendClose (sale : Sale) (label : String) :
    NoSale (sendWithRetries b (computeBudgetPrelude b ++ [closeAccountIx b sale]) label) :=
  asks_sendWithRetries b rfl (fun _ => curveSales_close b sale) (fun _ => rfl) rfl

theorem noSale_closeEmptyAta (sale : Sale) : NoSale (closeEmptyAta b sale) := by
  apply asks_bind (asks_inspect (noSale_of_reads (reads_fetchTokenAccountRaw sale.ata)))
  rintro (e | _ | raw)
  · trivial
  · apply asks_bind (asks_inspect (noSale_sendClose b sale closeAtaLabel))
    intro answer
    cases answer with
    | error e => trivial
    | ok sig =>
      apply asks_bind (noSale_of_reads (reads_walletNetSolOrFallback sig 0))
      intro closeDelta
      trivial
  · trivial

theorem noSale_jupiterSellChunkOnce (sale : Sale) (preRaw raw : ℕ) (closeAfter : Bool) (bps : ℕ)
    (allowPumpV1Only : Bool) :
    NoSale (jupiterSellChunkOnce b sale preRaw raw closeAfter bps allowPumpV1Only) := by
  have hbuild : NoSale (if allowPumpV1Only then jupiterQuoteSwapBuildAllowPumpV1 sale.mint raw bps
      else jupiterQuoteSwapBuildPostGraduation sale.mint raw bps) := by
    split
    · exact noSale_jupiterBuildSwapExactIn sale.mint raw bps _
    · exact noSale_jupiterQuoteSwapBuildPostGraduation sale.mint raw bps
  have hsubmit (build : JupiterSwapBuild) : NoSale (jupiterSubmitChunk b sale raw bps build) := by
    apply asks_bind (asks_inspect (noSale_jupiterSendSwapBuild b build))
    intro answer
    cases answer with
    | error e =>
      dsimp only
      split
      · apply asks_bind (noSale_jupiterRetryBuildAfterPump6005 sale.mint raw bps _)
        intro build'
        apply asks_bind (noSale_jupiterSendSwapBuild b build')
        intro sig
        trivial
      · trivial
    | ok sig => trivial
  have hclose : NoSale (if closeAfter then closeEmptyAta b sale else pure none) := by
    split
    · exact noSale_closeEmptyAta b sale
    · trivial
  apply asks_bind hbuild
  intro build
  apply asks_bind (hsubmit build)
  intro ⟨build, sig⟩
  apply asks_bind (noSale_of_reads (reads_pollAtaConfirmsSell _ _ _ _ _ _))
  intro u
  apply asks_bind (noSale_of_reads (reads_walletNetSolOrFallback _ _))
  intro solActual
  apply asks_bind hclose
  intro close
  apply asks_bind (asks_question (by rfl))
  intro u
  trivial

theorem noSale_jupiterSellOverSteps {once : ℕ → Bool → Call SellReceipt}
    (honce : ∀ bps allow, NoSale (once bps allow)) (maxSlip : ℕ) (steps : List ℕ) :
    NoSale (jupiterSellOverSteps once maxSlip steps) := by
  induction steps with
  | nil => exact honce maxSlip true
  | cons bps rest ih =>
    apply asks_bind (asks_inspect (honce bps false))
    intro answer
    cases answer with
    | error e =>
      dsimp only
      split
      · exact ih
      · trivial
    | ok r => trivial

theorem noSale_jupiterSellChunk (sale : Sale) (preRaw raw : ℕ) (closeAfter : Bool) (bps : ℕ) :
    NoSale (jupiterSellChunk b sale preRaw raw closeAfter bps) := by
  unfold jupiterSellChunk
  split
  · trivial
  · exact noSale_jupiterSellOverSteps
      (fun bps allow => noSale_jupiterSellChunkOnce b sale preRaw raw closeAfter bps allow) _ _

theorem noSale_jupiterSellChunks (sale : Sale) (doCloseAta : Bool) (chunks : List ℕ) (preRaw : ℕ)
    (total : SellReceipt) : NoSale (jupiterSellChunks b sale doCloseAta chunks preRaw total) := by
  induction chunks generalizing preRaw total with
  | nil => trivial
  | cons raw rest ih =>
    apply asks_bind (noSale_jupiterSellChunk b sale preRaw raw _ _)
    intro r
    exact ih _ _

theorem noSale_sellTokensPostGraduation (sale : Sale) (preRaw raw : ℕ) (doCloseAta : Bool) :
    NoSale (sellTokensPostGraduation b sale preRaw raw doCloseAta) := by
  have hparts (parts : List ℕ) (lastErr : Option BrokerError) :
      NoSale (jupiterSellInParts b sale preRaw raw doCloseAta parts lastErr) := by
    induction parts generalizing lastErr with
    | nil => trivial
    | cons n rest ih =>
      apply asks_bind (asks_inspect (noSale_jupiterSellChunks b sale doCloseAta _ preRaw _))
      intro answer
      cases answer with
      | error e => exact ih _
      | ok r => trivial
  exact hparts _ _

/-! ## The legs on the curve -/

variable {b}

@[simp] theorem curveSales_prelude :
    (computeBudgetPrelude b).filterMap Instruction.curveSale = [] := by
  unfold computeBudgetPrelude
  split <;> split <;> rfl

theorem curveSales_sellLeg (sale : Sale) (creator : Address) (raw : ℕ) (cashback : Bool) :
    (computeBudgetPrelude b ++ [sellInstruction b sale creator raw cashback]).filterMap
      Instruction.curveSale = [raw] := by
  simp [sellInstruction, Instruction.curveSale]

theorem curveSales_sellInstructions (sale : Sale) (pool : PoolView)
    (curve : Option BondingCurveState) (raw : ℕ) (doCloseAta : Bool) :
    (sellInstructions b sale pool curve raw doCloseAta).filterMap Instruction.curveSale =
      if raw > 0 then [raw] else [] := by
  unfold sellInstructions
  split_ifs <;> simp [Instruction.curveSale, sellInstruction, closeAccountIx]

variable {sale : Sale} {s : CurveWatch}

/-- The watch is kept by a leg that sells within the cap of the last reading. -/
theorem wp_sendWithRetries {curve : Option BondingCurveState} {ixs : List Instruction}
    {label : String} (hs : s.Holds curve)
    (hixs : ∀ t ∈ ixs.filterMap Instruction.curveSale, ∀ c ∈ curve, WithinCap c t) :
    wp (CurveWatch.note b sale.mint) (sendWithRetries b ixs label) (fun _ t => t.capped) s := by
  have hasks : Asks (CurveWatch.Keeps curve) (sendWithRetries b ixs label) := by
    apply asks_sendWithRetries
    · exact ⟨nofun, nofun⟩
    · exact fun blockhash => ⟨nofun, hixs⟩
    · exact fun sig => ⟨nofun, nofun⟩
    · exact ⟨nofun, nofun⟩
  exact wp_mono (fun r t ht => ht.1) (CurveWatch.wp_holds hasks hs)

/-- What sells nothing, then the rest. -/
theorem wp_bind_noSale {α β : Type} {p : Call α} {f : α → Call β} (hp : NoSale p) (hs : s.capped)
    (rest : ∀ a t, t.capped →
      wp (CurveWatch.note b sale.mint) (f a) (fun _ t => t.capped) t) :
    wp (CurveWatch.note b sale.mint) (p >>= f) (fun _ t => t.capped) s :=
  wp_bind (CurveWatch.wp_noSale hp hs) rest fun _ _ ht => ht

theorem drainLegs_capped (pool : PoolView) (left : ℕ) (total : SellReceipt) (hs : s.capped) :
    wp (CurveWatch.note b sale.mint) (drainLegs b sale pool left total)
      (fun _ t => t.capped) s := by
  have hjupiter (preRaw : ℕ) (total : SellReceipt) {s : CurveWatch} (hs : s.capped) :
      wp (CurveWatch.note b sale.mint) (do
        let jup ← sellTokensPostGraduation b sale preRaw preRaw true
        pure (total.add jup)) (fun _ t => t.capped) s := by
    apply wp_bind_noSale (noSale_sellTokensPostGraduation b sale preRaw preRaw true) hs
    intro jup t ht
    exact ht
  induction left generalizing total s with
  | zero => exact hs
  | succ left ih =>
    apply wp_bind_noSale (noSale_of_reads (reads_fetchTokenAccountRawOrZero sale.ata)) hs
    intro preRaw s hs
    dsimp only
    split
    · exact hs
    · apply wp_inspect (CurveWatch.fetchBondingCurveState_holds hs)
      intro answer s hread
      obtain ⟨hs, hcurve⟩ := hread
      cases answer with
      | error e => exact hs.1
      | ok curve =>
        obtain ⟨data, hdec⟩ := hcurve curve rfl
        dsimp only
        split
        · exact hjupiter preRaw total hs.1
        · split
          · exact hs.1
          · have hsales : ∀ t ∈ (computeBudgetPrelude b ++ [sellInstruction b sale curve.creator
                (clampLeg preRaw curve).1 curve.isCashbackCoin]).filterMap Instruction.curveSale,
                ∀ c ∈ some curve, WithinCap c t := by
              intro t ht c hc
              cases hc
              rw [curveSales_sellLeg, List.mem_singleton] at ht
              rw [ht]
              exact withinCap_clampLeg hdec preRaw
            apply wp_inspect (wp_sendWithRetries hs hsales)
            intro answer s hs
            cases answer with
            | error e =>
              dsimp only
              split
              · exact hjupiter preRaw total hs
              · exact hs
            | ok sig =>
              apply wp_bind_noSale (noSale_of_reads (reads_pollAtaConfirmsSell _ _ _ _ _ _)) hs
              intro u s hs
              apply wp_bind_noSale (noSale_of_reads (reads_walletNetSolOrFallback _ _)) hs
              intro legActual s hs
              split
              · apply wp_bind_noSale
                  (noSale_of_reads (reads_fetchTokenAccountRawOrZero sale.ata)) hs
                intro after s hs
                split
                · exact hs
                · exact ih _ hs
              · exact ih _ hs

theorem drainPumpAtaAfterClampedFullExit_capped (pool : PoolView) (sig : Signature)
    (hs : s.capped) :
    wp (CurveWatch.note b sale.mint) (drainPumpAtaAfterClampedFullExit b sale pool sig)
      (fun _ t => t.capped) s := by
  apply wp_bind (drainLegs_capped pool maxDrainLegs _ hs) _ fun _ _ ht => ht
  intro total s hs
  apply wp_bind_noSale (noSale_of_reads (reads_fetchTokenAccountRawOrZero sale.ata)) hs
  intro rem s hs
  split
  · apply wp_bind_noSale (noSale_sendClose b sale _) hs
    intro csig s hs
    apply wp_bind_noSale (noSale_of_reads (reads_pollAtaConfirmsSell _ _ _ _ _ _)) hs
    intro u s hs
    apply wp_bind_noSale (noSale_of_reads (reads_walletNetSolOrFallback _ _)) hs
    intro closeActual s hs
    exact hs
  · exact hs

/-! ## `sell` -/

theorem sellOnCurve_capped (pool : PoolView) {curve : Option BondingCurveState} {raw : ℕ}
    (sellWasClamped closeAccountAfter : Bool) (hraw : ∀ c ∈ curve, WithinCap c raw)
    (hs : s.Holds curve) :
    wp (CurveWatch.note b sale.mint)
      (sellOnCurve b sale pool curve raw sellWasClamped closeAccountAfter)
      (fun _ t => t.capped) s := by
  unfold sellOnCurve
  dsimp only
  split
  · exact hs.1
  · have hbalance : Asks (CurveWatch.Keeps curve) (fetchTokenAccountRawOrZero sale.ata) :=
      asks_fetchTokenAccountRawOrZero ⟨nofun, nofun⟩
    apply wp_bind (CurveWatch.wp_holds hbalance hs) _ fun _ _ ht => ht.1
    intro preSellRaw s hs
    have hsales : ∀ t ∈ (sellInstructions b sale pool curve raw
        (closeAccountAfter && !sellWasClamped)).filterMap Instruction.curveSale,
        ∀ c ∈ curve, WithinCap c t := by
      intro t ht c hc
      rw [curveSales_sellInstructions] at ht
      split_ifs at ht
      · rw [List.mem_singleton.mp ht]
        exact hraw c hc
      · cases ht
    apply wp_inspect (wp_sendWithRetries hs hsales)
    intro answer s hs
    cases answer with
    | error e =>
      dsimp only
      split
      · exact CurveWatch.wp_noSale (noSale_sellTokensPostGraduation b sale _ _ _) hs
      · exact hs
    | ok sig =>
      apply wp_bind_noSale (noSale_of_reads (reads_pollAtaConfirmsSell _ _ _ _ _ _)) hs
      intro u s hs
      apply wp_bind_noSale (noSale_of_reads (reads_walletNetSolOrFallback _ _)) hs
      intro actual s hs
      split
      · apply wp_bind (drainPumpAtaAfterClampedFullExit_capped pool sig hs) _ fun _ _ ht => ht
        intro drained s hs
        exact hs
      · exact hs

theorem curveStateOpt_holds (hs : s.capped) :
    wp (CurveWatch.note b sale.mint) (curveStateOpt b sale.mint)
      (fun r t => ∃ curve, r = .ok curve ∧ t.Holds curve ∧
        ∀ c ∈ curve, ∃ data, decodeBondingCurve data = .ok c) s := by
  apply wp_inspect (CurveWatch.fetchBondingCurveState_holds hs)
  intro answer s hread
  obtain ⟨hs, hcurve⟩ := hread
  cases answer with
  | error e => exact ⟨none, rfl, hs, by simp⟩
  | ok curve =>
    refine ⟨some curve, rfl, hs, ?_⟩
    intro c hc
    cases hc
    exact hcurve curve rfl

theorem sellAmount_capped (pool : PoolView) (amount : ℚ) (closeAccountAfter : Bool)
    (hs : s.capped) :
    wp (CurveWatch.note b sale.mint) (sellAmount b sale pool amount closeAccountAfter)
      (fun _ t => t.capped) s := by
  apply wp_bind (curveStateOpt_holds hs)
  · intro curve s ⟨curve', hcurve, hs, hdec⟩
    cases hcurve
    dsimp only
    split
    · apply wp_bind_noSale (noSale_of_reads (reads_fetchTokenAccountRawOrZero sale.ata)) hs.1
      intro preRaw s hs
      exact CurveWatch.wp_noSale (noSale_sellTokensPostGraduation b sale _ _ _) hs
    · apply sellOnCurve_capped pool _ _ _ hs
      intro c hc
      obtain ⟨data, hdata⟩ := hdec c hc
      have hsome : curve = some c := hc
      subst hsome
      exact withinCap_firstLeg hdata _
  · intro e t ⟨curve, hcurve, _, _⟩
    cases hcurve

theorem sell_capped (mint : Address) (tokenAmount : ℚ) (pool : PoolView)
    (closeAccountAfter : Bool) (hs : s.capped) :
    wp (CurveWatch.note b mint) (sell b mint tokenAmount pool closeAccountAfter)
      (fun _ t => t.capped) s := by
  apply wp_bind (CurveWatch.wp_noSale (noSale_of_reads (reads_fetchMintTokenKind mint)) hs) _
    fun _ _ ht => ht
  intro mintToken s hs
  apply wp_bind (CurveWatch.wp_noSale (noSale_of_reads (reads_actualTokenAmount _ _ _)) hs) _
    fun _ _ ht => ht
  intro amount s hs
  split
  · exact hs
  · have hmint : mint = (b.saleOf mint mintToken ((b.execCfg.slippageBps : ℚ) / 10_000)).mint := rfl
    rw [hmint]
    exact sellAmount_capped pool amount closeAccountAfter hs

end

/-- **Within the cap.** Every run of a sell submits to the curve what 90% of its SOL can pay. -/
theorem sellsWithinCap (b : SolanaBroker) (mint : Address) (tokenAmount : ℚ) (pool : PoolView)
    (closeAccountAfter : Bool) (E : World) :
    SellsWithinCap b mint (exec E (sell b mint tokenAmount pool closeAccountAfter)).2 :=
  CurveWatch.sellsWithinCap_of_capped b mint
    (wp_exec E
      (sell_capped (s := CurveWatch.start) mint tokenAmount pool closeAccountAfter trivial))

/-- **The clamp is exact**, and what it leaves is within the cap. -/
theorem clamp_inverts_curve :
    (∀ curve : BondingCurveState, curve.Trades → SellClampExact curve) ∧
      ∀ b mint tokenAmount pool closeAccountAfter E,
        SellsWithinCap b mint (exec E (sell b mint tokenAmount pool closeAccountAfter)).2 :=
  ⟨fun _ h => h.clampExact, sellsWithinCap⟩

/-- A curve as it is launched: 30 SOL against 1,073,000,000 tokens. -/
def launchCurve : BondingCurveState where
  virtualTokenReserves := 1_073_000_000_000_000
  virtualSolReserves := 30_000_000_000
  realTokenReserves := 793_100_000_000_000
  realSolReserves := 0
  creator := 5
  isCashbackCoin := false
  curveComplete := false

theorem clamp_inverts_launchCurve :
    SellClampExact launchCurve ∧ SellsWithinCap defaultBroker 7
      (exec (sellWorld 400_000 (fun _ => accountsOf openCurve) landing fun _ => executed)
        (sell defaultBroker 7 (1 / 5) ⟨1, 5⟩ false)).2 :=
  ⟨clamp_inverts_curve.1 launchCurve ⟨by decide, by decide, by decide, by decide⟩,
    clamp_inverts_curve.2 _ _ _ _ _ _⟩

end Loggaper
