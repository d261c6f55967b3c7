import Loggaper.Solana.PumpBrocker

/-!
# `SolanaBroker::buy`

A purchase on the bonding curve, or through Jupiter when the curve is complete: known from the
account before the submission, or from the 6005 that the submission comes back with.
-/

namespace Loggaper

open Attempt

section
variable (b : SolanaBroker)

/-- At most 50%, as a `u16`. -/
def slippageBpsU16 : ℕ := min b.execCfg.slippageBps 5000

/-- Quote without the Pump venues; without a route, quote with them. -/
def jupiterBuyBuildPostGraduation (mint : Address) (solLamports slippageBps : ℕ) :
    Call (JupiterSwapBuild × Bool) := do
  match ← inspect (jupiterBuildSwapWsolToMintExactIn mint solLamports slippageBps
    .postGraduation) with
  | .ok build => pure (build, false)
  | .error e =>
    if isJupiterNoRoutesFound e then
      match ← inspect (jupiterBuildSwapWsolToMintExactIn mint solLamports slippageBps
        .postGraduationAllowPump) with
      | .ok build => pure (build, true)
      | .error e =>
        if isJupiterNoRoutesFound e then
          throw (.custom (s!"post_grad_no_route: {addressText mint} no Jupiter buy route " ++
            "(excluded+allow-pump NO_ROUTES)"))
        else throw e
    else throw e

/-- `10u64.pow(decimals)`, which wraps. -/
def pow10U64 (decimals : ℕ) : ℕ := 10 ^ decimals % 2 ^ 64

/-- The tokens of a Jupiter purchase: the growth of the account, else the quoted amount. -/
def jupiterTokensReceived (ata : Address) (preRaw outRaw : ℕ) : Call ℚ := do
  match ← inspect (pollTokenBalanceIncrease ata preRaw increasePolls none none) with
  | .ok (postRaw, decimals) => pure (((postRaw - preRaw : ℕ) : ℚ) / pow10U64 decimals)
  | .error _ =>
    match ← inspect (fetchTokenAccountRawWithDecimals ata) with
    | .ok (_, decimals) => pure (max ((outRaw : ℚ) / 10 ^ decimals) 0)
    | .error _ => pure (max ((outRaw : ℚ) / 1_000_000) 0)

/-- Entry after the curve is complete: SOL to token through Jupiter. -/
def buyTokensPostGraduation (mint : Address) (amountSol : ℚ) (mintToken : MintTokenKind) :
    Call BuyReceipt := do
  let solLamports := roundU64 (amountSol * 1_000_000_000)
  if solLamports = 0 then
    throw (.custom "Jupiter BUY: amount_sol rounds to 0 lamports")
  else
    let ata := b.ataAddress mint mintToken
    let preRaw ← fetchTokenAccountRawOrZero ata
    let (build, usedFallback) ←
      jupiterBuyBuildPostGraduation mint solLamports (slippageBpsU16 b)
    decodeSwapTransaction "Jupiter swapTransaction" build.swapTransactionB64
    match ← inspect (sendVersionedJupiterWithRetries b build "BUY-JUPITER") with
    | .error e =>
      if isCurveCompleteFailure e then
        throw (.custom (s!"post_grad_no_route: {addressText mint} BUY route hit bonding curve " ++
          s!"6005 (fallback={usedFallback})"))
      else throw e
    | .ok sig =>
      Ask.addBalance (-amountSol)
      let tokens ← jupiterTokensReceived ata preRaw build.outLamports
      pure {
        solSpent := amountSol
        tokensReceived := tokens
        signature := some sig
        entryMcapFillSol := none }

/-- The bonding curve said that it is complete; an unreadable curve counts as not complete. -/
def curveIsComplete (mint : Address) : Call Bool := do
  match ← inspect (fetchBondingCurveState b mint) with
  | .ok curve => pure curve.curveComplete
  | .error _ => pure false

/-- The creator that the curve account names, else the cached one. -/
def creatorForVault (mint : Address) (pool : PoolView) : Call Address := do
  match ← inspect (fetchBondingCurveState b mint) with
  | .ok curve => pure curve.creator
  | .error _ => pure pool.creator

/-- The tokens that the slippage floor promises. -/
def minTokenOutF (amountSol : ℚ) (pool : PoolView) : ℚ :=
  let priceSolPerToken := max pool.price minPositive
  let expectedTokens := amountSol / priceSolPerToken
  let slip := (b.execCfg.slippageBps : ℚ) / 10_000
  expectedTokens * max (1 - slip) 0

/-- The floor in base units, as the instruction carries it. -/
def minTokenOut (amountSol : ℚ) (pool : PoolView) : ℕ :=
  roundU64 (max (minTokenOutF b amountSol pool) 0 * 10 ^ 6)

def buyInstructions (mint creator : Address) (mintToken : MintTokenKind) (amountSol : ℚ)
    (pool : PoolView) : List Instruction :=
  computeBudgetPrelude b ++
    [.createIdempotent mint b.walletAddress b.walletAddress mintToken,
      .pumpBuyExactIn mint b.walletAddress creator mintToken (roundU64 (amountSol * 10 ^ 9))
        (minTokenOut b amountSol pool)]

/-- The growth of the account, else the slippage floor. -/
def actualTokensReceived (ata : Address) (preRaw : ℕ) (minTokenOut : ℚ) : Call ℚ := do
  match ← inspect (pollTokenBalanceIncrease ata preRaw increasePolls none none) with
  | .ok (postRaw, decimals) => pure (((postRaw - preRaw : ℕ) : ℚ) / pow10U64 decimals)
  | .error _ => pure minTokenOut

/-- The market cap after the fill, when the curve can be read. -/
def entryMcapFillSol (mint : Address) : Call (Option ℚ) := do
  match ← inspect (fetchBondingCurveState b mint) with
  | .ok curve =>
    let m := bondingCurveMcapSol curve
    pure (if m > 0 then some m else none)
  | .error _ => pure none

/-- What a confirmed purchase on the curve reports. -/
def buyReceipt (mint ata : Address) (preRaw : ℕ) (amountSol : ℚ) (pool : PoolView)
    (sig : Signature) : Call BuyReceipt := do
  Ask.addBalance (-amountSol)
  let tokens ← actualTokensReceived ata preRaw (minTokenOutF b amountSol pool)
  let entryMcap ← entryMcapFillSol b mint
  pure {
    solSpent := amountSol
    tokensReceived := tokens
    signature := some sig
    entryMcapFillSol := entryMcap }

/-- The purchase on the curve, once the mint is known. -/
def buyOnCurve (mint : Address) (amountSol : ℚ) (pool : PoolView) (mintToken : MintTokenKind) :
    Call BuyReceipt := do
  let ata := b.ataAddress mint mintToken
  let preRaw ← fetchTokenAccountRawOrZero ata
  let creator ← creatorForVault b mint pool
  match ← inspect (sendWithRetries b (buyInstructions b mint creator mintToken amountSol pool)
    "BUY") with
  | .error e =>
    if isCurveCompleteFailure e then buyTokensPostGraduation b mint amountSol mintToken
    else throw e
  | .ok sig => buyReceipt b mint ata preRaw amountSol pool sig

def buy (mint : Address) (amountSol : ℚ) (pool : PoolView) : Call BuyReceipt := do
  let bal ← Ask.balance
  if bal < amountSol then throw (.insufficientBalance bal amountSol)
  else
    waitForAccountVisible mint "BUY mint"
    let mintToken ← fetchMintTokenKind mint
    if ← curveIsComplete b mint then buyTokensPostGraduation b mint amountSol mintToken
    else buyOnCurve b mint amountSol pool mintToken

end

end Loggaper
