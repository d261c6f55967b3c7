import Loggaper.Solana.Buy

/-!
# `SolanaBroker::sell`

A sell goes to the bonding curve in one transaction, or through Jupiter as a whole and then in
four chunks, each chunk over the slippage steps and again after a 6005. A full exit whose first
leg was clamped to the curve's liquidity goes on with a drain of the token account.
-/

namespace Loggaper

open Attempt

/-- What the legs of one sell share. -/
structure Sale where
  mint : Address
  ata : Address
  mintToken : MintTokenKind
  slip : ℚ
  deriving DecidableEq, Repr

/-- The sale of a mint from the wallet's token account. -/
def SolanaBroker.saleOf (b : SolanaBroker) (mint : Address) (mintToken : MintTokenKind)
    (slip : ℚ) : Sale :=
  ⟨mint, b.ataAddress mint mintToken, mintToken, slip⟩

section
variable (b : SolanaBroker)

/-! ## Jupiter -/

/-- Exclude Pump; without a route an order; without an order a quote with Pump. -/
def jupiterQuoteSwapBuildPostGraduation (mint : Address) (chunkRaw slippageBps : ℕ) :
    Call JupiterSwapBuild := do
  match ← inspect (jupiterBuildSwapExactIn mint chunkRaw slippageBps .postGraduation) with
  | .ok build => pure build
  | .error e =>
    if isJupiterNoRoutesFound e then
      match ← inspect (jupiterBuildSwapV2OrderExactIn mint chunkRaw slippageBps
        (some jupiterExcludePumpDexes)) with
      | .ok build => pure build
      | .error _ => jupiterBuildSwapExactIn mint chunkRaw slippageBps .postGraduationAllowPump
    else throw e

/-- The last resort after the slippage steps. -/
def jupiterQuoteSwapBuildAllowPumpV1 (mint : Address) (chunkRaw slippageBps : ℕ) :
    Call JupiterSwapBuild :=
  jupiterBuildSwapExactIn mint chunkRaw slippageBps .postGraduationAllowPump

/-- Direct routes only, after an on-chain 6005. -/
def jupiterRetryBuildAfterPump6005 (mint : Address) (chunkRaw slippageBps : ℕ)
    (hadExcludeOnFirstQuote : Bool) : Call JupiterSwapBuild :=
  let allowPump :=
    jupiterBuildSwapExactIn mint chunkRaw slippageBps .postGraduationAllowPumpDirect
  if hadExcludeOnFirstQuote then do
    match ← inspect (jupiterBuildSwapExactIn mint chunkRaw slippageBps
      .postGraduationDirectOnly) with
    | .ok build => pure build
    | .error _ => allowPump
  else allowPump

def jupiterSendSwapBuild (build : JupiterSwapBuild) : Call Signature :=
  match build.v2RequestId with
  | some requestId => jupiterExecuteV2Order build requestId
  | none => do
    decodeSwapTransaction "Jupiter swapTransaction" build.swapTransactionB64
    sendVersionedJupiterWithRetries b build "SELL-JUPITER"

/-- Once, twice and three times the base, up to 35%, without repeats. -/
def jupiterSlippageSteps (baseBps : ℕ) : List ℕ :=
  [1, 2, 3].foldl (fun steps mul =>
    let bps := min (baseBps * mul) 3500
    if bps ∈ steps then steps else steps ++ [bps]) []

/-- The label of the transaction that only closes an emptied account. -/
def closeAtaLabel : String := "CLOSE-ATA"

def closeAccountIx (sale : Sale) : Instruction :=
  .closeAccount sale.mintToken sale.ata b.walletAddress b.walletAddress

/-- Close the account when it is empty. Whatever goes wrong here is passed over; the result is
the SOL and the signature of the close. -/
def closeEmptyAta (sale : Sale) : Call (Option (ℚ × Signature)) := do
  match ← inspect (fetchTokenAccountRaw sale.ata) with
  | .ok 0 =>
    match ← inspect (sendWithRetries b (computeBudgetPrelude b ++ [closeAccountIx b sale])
      closeAtaLabel) with
    | .ok sig =>
      let closeDelta ← walletNetSolOrFallback sig 0
      pure (some (closeDelta, sig))
    | .error _ => pure none
  | _ => pure none

/-- Submit a build; after a 6005 once more with a build over direct routes. -/
def jupiterSubmitChunk (sale : Sale) (chunkRaw slippageBps : ℕ) (build : JupiterSwapBuild) :
    Call (JupiterSwapBuild × Signature) := do
  match ← inspect (jupiterSendSwapBuild b build) with
  | .ok sig => pure (build, sig)
  | .error e =>
    if isCurveCompleteFailure e then
      let build ← jupiterRetryBuildAfterPump6005 sale.mint chunkRaw slippageBps
        build.usedExcludePumpDexes
      let sig ← jupiterSendSwapBuild b build
      pure (build, sig)
    else throw e

def jupiterSellChunkOnce (sale : Sale) (preSellRaw chunkRaw : ℕ) (closeAtaAfter : Bool)
    (slippageBps : ℕ) (allowPumpV1Only : Bool) : Call SellReceipt := do
  let build ←
    (if allowPumpV1Only then jupiterQuoteSwapBuildAllowPumpV1 sale.mint chunkRaw slippageBps
      else jupiterQuoteSwapBuildPostGraduation sale.mint chunkRaw slippageBps)
  let (build, sig) ← jupiterSubmitChunk b sale chunkRaw slippageBps build
  pollAtaConfirmsSell sale.ata preSellRaw chunkRaw false sale.mint 90
  let solGross := (build.outLamports : ℚ) / 10 ^ 9
  let solEstimated := max (solGross * (1 - sale.slip)) 0
  let solActual ← walletNetSolOrFallback sig solEstimated
  let close ← (if closeAtaAfter then closeEmptyAta b sale else pure none)
  let (solActual, lastSig) := match close with
    | some (closeDelta, closeSig) => (solActual + closeDelta, closeSig)
    | none => (solActual, sig)
  Ask.addBalance solActual
  pure ⟨solActual, solEstimated, some lastSig⟩

/-- The next slippage step after each slippage error; then any route at the last step. -/
def jupiterSellOverSteps (once : (slippageBps : ℕ) → (allowPumpV1Only : Bool) → Call SellReceipt)
    (maxSlip : ℕ) : List ℕ → Call SellReceipt
  | [] => once maxSlip true
  | slipBps :: rest => do
    match ← inspect (once slipBps false) with
    | .ok r => pure r
    | .error e =>
      if isJupiterSlippage e then jupiterSellOverSteps once maxSlip rest else throw e

def jupiterSellChunk (sale : Sale) (preSellRaw chunkRaw : ℕ) (closeAtaAfter : Bool)
    (slippageBps : ℕ) : Call SellReceipt :=
  if chunkRaw = 0 then
    throw (.custom s!"{addressText sale.mint}: Jupiter chunk amount is zero")
  else
    let slipSteps := jupiterSlippageSteps slippageBps
    jupiterSellOverSteps (jupiterSellChunkOnce b sale preSellRaw chunkRaw closeAtaAfter)
      (slipSteps.getLastD slippageBps) slipSteps

/-- Equal chunks with the rest in the last one, or one chunk when they would be too small. -/
def jupiterChunkAmounts (totalRaw parts : ℕ) : List ℕ :=
  if totalRaw = 0 then []
  else if parts ≤ 1 ∨ totalRaw < parts * 50_000 then [totalRaw]
  else
    let base := totalRaw / parts
    List.replicate (parts - 1) base ++ [totalRaw - base * (parts - 1)]

/-- Add the receipts of two legs; a leg without a signature keeps the one before it. -/
def SellReceipt.add (r s : SellReceipt) : SellReceipt where
  solReceivedActual := r.solReceivedActual + s.solReceivedActual
  solReceivedEstimated := r.solReceivedEstimated + s.solReceivedEstimated
  signature := s.signature.or r.signature

/-- Sell the chunks in order; the first error ends it. The account is closed after the last. -/
def jupiterSellChunks (sale : Sale) (doCloseAta : Bool) :
    (chunks : List ℕ) → (preRaw : ℕ) → (total : SellReceipt) → Call SellReceipt
  | [], _, total => pure total
  | chunkRaw :: rest, preRaw, total => do
    let r ← jupiterSellChunk b sale preRaw chunkRaw (doCloseAta && rest.isEmpty)
      (slippageBpsU16 b)
    jupiterSellChunks sale doCloseAta rest (preRaw - chunkRaw) (total.add r)

/-- Try each number of parts with the balance that was read before the first try. -/
def jupiterSellInParts (sale : Sale) (preSellRaw soldRaw : ℕ) (doCloseAta : Bool) :
    (partsList : List ℕ) → (lastErr : Option BrokerError) → Call SellReceipt
  | [], lastErr =>
    throw (.jupiterSellExhausted (s!"{addressText sale.mint}: Jupiter sell exhausted after " ++
      s!"exclude→v2→v1-allow-pump, slippage retries, and 4-way split (raw={soldRaw}): " ++
      (lastErr.map BrokerError.text).getD "unknown"))
  | parts :: rest, _ => do
    match ← inspect (jupiterSellChunks b sale doCloseAta (jupiterChunkAmounts soldRaw parts)
      preSellRaw ⟨0, 0, none⟩) with
    | .ok r => pure r
    | .error e => jupiterSellInParts sale preSellRaw soldRaw doCloseAta rest (some e)

/-- Full or partial exit through Jupiter. -/
def sellTokensPostGraduation (sale : Sale) (preSellRaw soldRaw : ℕ) (doCloseAta : Bool) :
    Call SellReceipt :=
  jupiterSellInParts b sale preSellRaw soldRaw doCloseAta [1, 4] none

/-! ## The drain of a clamped full exit -/

def sellInstruction (sale : Sale) (creator : Address) (tokenAmountRaw : ℕ)
    (cashbackEnabled : Bool) : Instruction :=
  .pumpSell sale.mint b.walletAddress creator sale.mintToken tokenAmountRaw 0 cashbackEnabled

/-- A leg of the drain is clamped when that makes it smaller. -/
def clampLeg (preRaw : ℕ) (curve : BondingCurveState) : ℕ × Bool :=
  if exceedsSafetyCap preRaw curve ∧ clampedAmount preRaw curve < preRaw then
    (clampedAmount preRaw curve, true)
  else (preRaw, false)

def maxDrainLegs : ℕ := 50

/-- What a sell of the amount is expected to pay, less the configured slippage. -/
def expectedSolAfterSlip (sale : Sale) (pool : PoolView) (curve : Option BondingCurveState)
    (tokenAmountRaw : ℕ) : ℚ :=
  let expectedSol : ℚ := match curve with
    | some c => (pumpSolOutForTokens tokenAmountRaw c : ℚ) / 10 ^ 9
    | none => (tokenAmountRaw : ℚ) / 10 ^ 6 * max pool.price 0
  max (expectedSol * (1 - sale.slip)) 0

/-- The legs of the drain. Each way to stop before the account is empty ends the loop without an
error: an unreadable curve, nothing sellable, dust, or the last leg. -/
def drainLegs (sale : Sale) (pool : PoolView) :
    (left : ℕ) → (total : SellReceipt) → Call SellReceipt
  | 0, total => pure total
  | left + 1, total => do
    let leg := maxDrainLegs - (left + 1)
    let preRaw ← fetchTokenAccountRawOrZero sale.ata
    if preRaw = 0 then pure total
    else
      match ← inspect (fetchBondingCurveState b sale.mint) with
      | .error _ => pure total
      | .ok curve =>
        if curve.curveComplete then
          let jup ← sellTokensPostGraduation b sale preRaw preRaw true
          pure (total.add jup)
        else
          let (tokenAmountRaw, legClamped) := clampLeg preRaw curve
          if tokenAmountRaw = 0 then pure total
          else
            match ← inspect (sendWithRetries b
              (computeBudgetPrelude b ++
                [sellInstruction b sale curve.creator tokenAmountRaw curve.isCashbackCoin])
              s!"SELL-DRAIN-{leg}") with
            | .error e =>
              if isCurveCompleteFailure e then
                let jup ← sellTokensPostGraduation b sale preRaw preRaw true
                pure (total.add jup)
              else throw e
            | .ok sig =>
              pollAtaConfirmsSell sale.ata preRaw tokenAmountRaw false sale.mint 45
              let estimated := expectedSolAfterSlip sale pool (some curve) tokenAmountRaw
              let legActual ← walletNetSolOrFallback sig estimated
              let total := total.add ⟨legActual, estimated, some sig⟩
              if !legClamped && preRaw - sellRawDeltaSlack preRaw ≤ tokenAmountRaw then
                let after ← fetchTokenAccountRawOrZero sale.ata
                if 0 < after ∧ after ≤ 1000 then pure total
                else drainLegs sale pool left total
              else drainLegs sale pool left total

/-- Drain the account, then close it if the last reading says that it is empty. A failed reading
counts as empty, and a remainder only gives a warning. -/
def drainPumpAtaAfterClampedFullExit (sale : Sale) (pool : PoolView)
    (firstConfirmedSig : Signature) : Call SellReceipt := do
  let total ← drainLegs b sale pool maxDrainLegs ⟨0, 0, some firstConfirmedSig⟩
  let rem ← fetchTokenAccountRawOrZero sale.ata
  if rem = 0 then
    let csig ← sendWithRetries b (computeBudgetPrelude b ++ [closeAccountIx b sale])
      "SELL-CLOSE-ATA"
    pollAtaConfirmsSell sale.ata 0 1 true sale.mint 30
    let closeActual ← walletNetSolOrFallback csig 0
    pure (total.add ⟨closeActual, 0, some csig⟩)
  else pure total

/-! ## `sell` -/

/-- The amount to sell, in tokens: on a full exit what the account holds, else what the manager
asks for, or what the trade stream tracked when it asks for nothing. -/
def actualTokenAmount (sale : Sale) (tokenAmount : ℚ) (closeAccountAfter : Bool) : Call ℚ := do
  if closeAccountAfter then
    match ← inspect (fetchTokenAccountRawWithDecimals sale.ata) with
    | .ok (raw, decimals) => pure (if raw > 0 then (raw : ℚ) / pow10U64 decimals else 0)
    | .error _ => pure (max tokenAmount 0)
  else if tokenAmount > 0 then pure tokenAmount
  else
    match ← Ask.trackedTokens sale.mint with
    | some tokens => pure tokens
    | none =>
      throw (.custom "Calculated token amount is 0 and no WS-tracked balance found.")

/-- The raw amount of the first leg, and whether the curve's liquidity clamped it. -/
def firstLeg (amountRaw : ℕ) : Option BondingCurveState → ℕ × Bool
  | some curve =>
    if exceedsSafetyCap amountRaw curve then (clampedAmount amountRaw curve, true)
    else (amountRaw, false)
  | none => (amountRaw, false)

/-- Near the market cap ceiling on-curve sells often come back with 6005. -/
def jupiterSellMcapSol : ℚ := 250

/-- The token is off the curve, or close to leaving it. -/
def routeJupiterNotPump : Option BondingCurveState → Bool
  | some curve => curve.curveComplete || decide (jupiterSellMcapSol ≤ bondingCurveMcapSol curve)
  | none => false

/-- The curve when it can be read. -/
def curveStateOpt (mint : Address) : Call (Option BondingCurveState) := do
  match ← inspect (fetchBondingCurveState b mint) with
  | .ok curve => pure (some curve)
  | .error _ => pure none

def sellInstructions (sale : Sale) (pool : PoolView) (curve : Option BondingCurveState)
    (tokenAmountRaw : ℕ) (doCloseAta : Bool) : List Instruction :=
  computeBudgetPrelude b ++
    (if tokenAmountRaw > 0 then
      [sellInstruction b sale ((curve.map BondingCurveState.creator).getD pool.creator)
        tokenAmountRaw ((curve.map BondingCurveState.isCashbackCoin).getD false)] else []) ++
    if doCloseAta then [closeAccountIx b sale] else []

/-- The first leg on the curve, with the Jupiter retry after a 6005, and the drain. -/
def sellOnCurve (sale : Sale) (pool : PoolView) (curve : Option BondingCurveState)
    (tokenAmountRaw : ℕ) (sellWasClamped closeAccountAfter : Bool) : Call SellReceipt := do
  let doCloseAta := closeAccountAfter && !sellWasClamped
  let ixs := sellInstructions b sale pool curve tokenAmountRaw doCloseAta
  if ixs = [] ∨ (tokenAmountRaw = 0 ∧ !doCloseAta) then
    throw (.custom (s!"{addressText sale.mint}: nothing to send (no tokens to sell after clamp " ++
      "and no close requested)"))
  else
    let preSellRaw ← fetchTokenAccountRawOrZero sale.ata
    match ← inspect (sendWithRetries b ixs "SELL") with
    | .error e =>
      if isCurveCompleteFailure e ∧ tokenAmountRaw ≠ 0 then
        sellTokensPostGraduation b sale preSellRaw tokenAmountRaw doCloseAta
      else throw e
    | .ok sig =>
      pollAtaConfirmsSell sale.ata preSellRaw tokenAmountRaw doCloseAta sale.mint 45
      let estimated := expectedSolAfterSlip sale pool curve tokenAmountRaw
      let actual ← walletNetSolOrFallback sig estimated
      let first : SellReceipt := ⟨actual, estimated, some sig⟩
      if closeAccountAfter && sellWasClamped then
        let drained ← drainPumpAtaAfterClampedFullExit b sale pool sig
        pure (first.add drained)
      else pure first

/-- The sell once the amount is known. -/
def sellAmount (sale : Sale) (pool : PoolView) (amount : ℚ) (closeAccountAfter : Bool) :
    Call SellReceipt := do
  let curve ← curveStateOpt b sale.mint
  let (tokenAmountRaw, sellWasClamped) := firstLeg (roundU64 (amount * 1_000_000)) curve
  if routeJupiterNotPump curve ∧ tokenAmountRaw > 0 then
    let preRaw ← fetchTokenAccountRawOrZero sale.ata
    sellTokensPostGraduation b sale preRaw tokenAmountRaw (closeAccountAfter && !sellWasClamped)
  else sellOnCurve b sale pool curve tokenAmountRaw sellWasClamped closeAccountAfter

def sell (mint : Address) (tokenAmount : ℚ) (pool : PoolView) (closeAccountAfter : Bool) :
    Call SellReceipt := do
  let mintToken ← fetchMintTokenKind mint
  let sale := b.saleOf mint mintToken ((b.execCfg.slippageBps : ℚ) / 10_000)
  let amount ← actualTokenAmount sale tokenAmount closeAccountAfter
  if !closeAccountAfter ∧ amount ≤ 0 then
    throw (.custom
      "Calculated token amount is 0. Position might not be updated via WS yet.")
  else sellAmount b sale pool amount closeAccountAfter

end

end Loggaper
