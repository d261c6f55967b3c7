import Loggaper.Solana.BondingCurve
import Loggaper.Solana.JupiterSell

/-!
# The live broker

`SolanaBroker::buy` and `SolanaBroker::sell` with everything that they call: submission with
retries, confirmation, the polls of the token account, the Jupiter routes with their slippage
steps and chunks, and the drain of a clamped full exit.

A polling loop sleeps between its rounds, so its timeout bounds the number of rounds; `again` is
the rest of the loop, and `none` when the sleeps alone have used the timeout up.
-/

namespace Loggaper

open Attempt

structure LiveExecutionConfig where
  slippageBps : ℕ
  priorityFeeMicroLamports : ℕ
  computeUnitLimit : ℕ
  maxRetries : ℕ
  skipPreflight : Bool
  deriving DecidableEq, Repr

/-- The defaults of the yaml block. -/
def LiveExecutionConfig.default : LiveExecutionConfig where
  slippageBps := 500
  priorityFeeMicroLamports := 200_000
  computeUnitLimit := 200_000
  maxRetries := 3
  skipPreflight := false

structure SolanaBroker where
  walletAddress : Address
  execCfg : LiveExecutionConfig
  /-- The derived address of the wallet's token account for a mint. -/
  ataAddress : Address → MintTokenKind → Address
  /-- The derived address of the mint's bonding curve account. -/
  boundingCurve : Address → Address

/-- What the live broker reads of a pool besides its mint. -/
structure PoolView where
  price : ℚ
  creator : Address
  deriving DecidableEq, Repr

/-- `f64::MIN_POSITIVE`. -/
def minPositive : ℚ := 1 / 2 ^ 1022

/-- `Duration` in whole seconds, as `{:?}` prints it. -/
def secsText (secs : ℕ) : String := s!"{secs}s"

/-! ## Reading accounts -/

/-- Raw token amount and decimals of a token account. -/
def fetchTokenAccountRawWithDecimals (ata : Address) : Call (ℕ × ℕ) := do
  let resp ← Ask.getTokenAccountBalance ata
  let value ← orThrow
    (fun e => .custom s!"get_token_account_balance {addressText ata}: {e}") resp
  let raw ← orThrow (fun e => .custom s!"parse token amount {addressText ata}: {e}") value.amount
  pure (raw, value.decimals)

def fetchTokenAccountRaw (ata : Address) : Call ℕ := do
  let (raw, _) ← fetchTokenAccountRawWithDecimals ata
  pure raw

/-- `fetch_token_account_raw(..).await.unwrap_or(0)`. -/
def fetchTokenAccountRawOrZero (ata : Address) : Call ℕ := do
  match ← inspect (fetchTokenAccountRaw ata) with
  | .ok raw => pure raw
  | .error _ => pure 0

/-- Run the rest of a polling loop, unless its timeout has passed. -/
def untilTimeout {α : Type} (label : String) (timeoutMs : ℕ) (timedOut : Elapsed → BrokerError)
    (again : Option (Call α)) : Call α := do
  let elapsed ← Ask.elapsed label
  match again with
  | some rest => if timeoutMs ≤ elapsed.ms then throw (timedOut elapsed) else rest
  | none => throw (timedOut elapsed)

/-- A transport failure or a throttled node. -/
def isTransientRpcError (msg : String) : Bool :=
  ["429", "too many requests", "503", "502", "504", "timed out", "timeout", "connection reset",
    "broken pipe", "temporarily unavailable", "error sending request", "connection closed",
    "dns"].any (textContains msg.toLower)

/-- Not indexed yet, or already gone. -/
def isRpcAccountMissing (msg : String) : Bool :=
  ["accountnotfound", "account not found", "could not find account",
    "mint account not found"].any (textContains msg.toLower)

/-- Three and a half seconds in steps of 300 ms. -/
def visiblePolls : ℕ := 12

/-- Poll until the account is visible. -/
def waitForAccountVisible (address : Address) (label : String) : Call Unit :=
  retry (fun left again => do
    let attempts := visiblePolls + 1 - left
    let notVisible (elapsed : Elapsed) : BrokerError :=
      .mintNotOnChain (addressText address)
        (if 3 ≤ attempts then
          s!"{label}: not visible on RPC after {attempts} polls in {elapsed.debug}"
        else s!"{label}: timeout 3.5s before min_polls")
    match ← Ask.getAccount address with
    | .ok (some _) => pure ()
    | .ok none => untilTimeout label 3500 notVisible again
    | .error msg =>
      if !isRpcAccountMissing msg && !isTransientRpcError msg then
        throw (.custom
          s!"{label}: get_account_with_commitment {addressText address} failed: {msg}")
      else untilTimeout label 3500 notVisible again) visiblePolls

def fetchMintTokenKind (mint : Address) : Call MintTokenKind := do
  let mintStr := addressText mint
  let resp ← Ask.getAccount mint
  match ← orThrow (fun e => .custom s!"get_account mint {mintStr}: {e}") resp with
  | none =>
    throw (.mintNotOnChain mintStr "fetch_mint_token_kind: account empty at confirmed")
  | some acc =>
    if acc.owner = "TokenkegQfeZyiNwAJbNbGKPFXCWuBvf9Ss623VQ5DA" then pure .legacySpl
    else if acc.owner = "TokenzQdBNbLqP5VEhdkAS6EPFLC1PHnBqCXEpPxuEb" then pure .token2022
    else throw (.custom (s!"mint {mintStr} owner {acc.owner} is not SPL Token (Tokenkeg) or " ++
      "Token-2022 (Tokenz)"))

section
variable (b : SolanaBroker)

def fetchBondingCurveState (mint : Address) : Call BondingCurveState := do
  let curve := b.boundingCurve mint
  let resp ← Ask.getAccount curve
  match ← orThrow (fun e => .custom s!"get_account bonding_curve {addressText curve}: {e}")
    resp with
  | none => throw (.custom s!"bonding curve {addressText curve} not found")
  | some account => orThrow id (decodeBondingCurve account.data)

/-! ## Submitting and confirming -/

def computeBudgetPrelude : List Instruction :=
  (if b.execCfg.priorityFeeMicroLamports > 0 then
    [.computeUnitPrice b.execCfg.priorityFeeMicroLamports] else []) ++
  if b.execCfg.computeUnitLimit > 0 then [.computeUnitLimit b.execCfg.computeUnitLimit] else []

/-- Ninety seconds in steps of at least 150 ms. -/
def confirmPolls : ℕ := 600

/-- Poll the status of a signature. An error of the poll itself ends the wait. -/
def waitUntilSignatureConfirmedOk (signature : Signature) (label : String) : Call Unit :=
  retry (fun _ again => do
    let resp ← Ask.getSignatureStatus label signature
    match ← orThrow (fun e => .custom s!"{label}: get_signature_statuses: {e}") resp with
    | some status =>
      match status.err with
      | some err => throw (.transactionFailed s!"{label}: on-chain transaction error: {err}")
      | none =>
        orThrow (fun e => .transactionFailed s!"{label}: on-chain transaction status: {e}")
          status.status
    | none =>
      untilTimeout label 90_000 (fun _ => .transactionFailed
        (s!"{label}: timed out after {secsText 90} waiting for confirmed success " ++
          s!"(sig={signature})")) again) confirmPolls

/-- The configured retries, and at least six tries. -/
def maxRetries : ℕ := max (max b.execCfg.maxRetries 1) 6

/-- The end of a round of submission: confirm what was acknowledged, and go on after an error. -/
def afterSubmission (label : String) (reply : Except String Signature)
    (again : Option (Call Signature)) : Call Signature :=
  match reply with
  | .ok sig => do
    waitUntilSignatureConfirmedOk sig label
    pure sig
  | .error msg =>
    match again with
    | none => throw (.transactionFailed msg)
    | some rest => rest

/-- Sign over a fresh blockhash and broadcast, again after each error of the broadcast. -/
def sendWithRetries (ixs : List Instruction) (label : String) : Call Signature :=
  retry (fun _ again => do
    match ← Ask.getLatestBlockhash label with
    | .error e =>
      match again with
      | none => throw (.custom
          s!"{label}: blockhash fetch failed after {maxRetries b} attempts: {e}")
      | some rest => rest
    | .ok blockhash =>
      let sent ← Ask.sendTransaction label (.signed ixs blockhash) b.execCfg.skipPreflight
      afterSubmission label sent.reply again) (maxRetries b - 1)

/-- The same for a transaction built by Jupiter; a failed blockhash ends it. -/
def sendVersionedJupiterWithRetries (build : JupiterSwapBuild) (label : String) :
    Call Signature :=
  retry (fun _ again => do
    let blockhash ← orThrow (fun e => .custom s!"{label}: get_latest_blockhash: {e}")
      (← Ask.getLatestBlockhash label)
    let signed ← Ask.signSwapTransaction label build.swapTransactionB64
    orThrow (fun e => .custom s!"{label}: VersionedTransaction::try_new: {e}") signed
    let sent ← Ask.sendTransaction label
      (.swap build.request build.swapTransactionB64 (some blockhash)) b.execCfg.skipPreflight
    afterSubmission label sent.reply again) (maxRetries b - 1)

/-- The submission failed because the curve is complete. -/
def isCurveCompleteFailure : BrokerError → Bool
  | .transactionFailed msg => isBondingCurveCompletePumpError msg
  | _ => false

def walletNetSolOrFallback (sig : Signature) (fallbackSol : ℚ) : Call ℚ := do
  match ← Ask.walletNetSol sig with
  | .ok v => pure v
  | .error _ => pure fallbackSol

/-! ## Polls of the token account -/

/-- Fifteen seconds in steps of 400 ms. -/
def increasePolls : ℕ := 38

/-- Poll until the balance exceeds `preRaw`. -/
def pollTokenBalanceIncrease (ata : Address) (preRaw : ℕ) :
    (left : ℕ) → (lastSeen : Option (ℕ × ℕ)) → (lastErr : Option String) → Call (ℕ × ℕ)
  | left, lastSeen, lastErr => do
    let attempts := increasePolls + 1 - left
    let result ← inspect (fetchTokenAccountRawWithDecimals ata)
    let seen := match result with
      | .ok r => some r
      | .error _ => lastSeen
    let err := match result with
      | .ok _ => lastErr
      | .error e => some e.text
    let timedOut : BrokerError :=
      match seen with
      | some (raw, _) =>
        if raw = preRaw then .custom (s!"ATA {addressText ata} balance did not increase after " ++
          s!"{attempts} polls in {secsText 15} (pre={preRaw}, post={raw})")
        else .custom (s!"ATA {addressText ata} balance read failed after {attempts} polls in " ++
          s!"{secsText 15}: " ++ err.getD "no successful read")
      | none => .custom (s!"ATA {addressText ata} balance read failed after {attempts} polls in " ++
          s!"{secsText 15}: " ++ err.getD "no successful read")
    let rest : Option (Call (ℕ × ℕ)) := match left with
      | 0 => none
      | left + 1 => some (pollTokenBalanceIncrease ata preRaw left seen err)
    match result with
    | .ok (raw, decimals) =>
      if raw > preRaw then pure (raw, decimals)
      else untilTimeout "poll_token_balance_increase" 15_000 (fun _ => timedOut) rest
    | .error _ => untilTimeout "poll_token_balance_increase" 15_000 (fun _ => timedOut) rest

/-- The drop below `soldRaw` that a poll tolerates: 0.01%, at least 1 and at most 100 units. -/
def sellRawDeltaSlack (soldRaw : ℕ) : ℕ :=
  if soldRaw = 0 then 0 else min (max (soldRaw / 10_000) 1) 100

/-- The drop that proves a sell. -/
def minDrop (soldRaw : ℕ) : ℕ :=
  max (soldRaw - sellRawDeltaSlack soldRaw) (if soldRaw > 0 then 1 else 0)

/-- Rounds of a poll of the token account: one each 400 ms. -/
def ataPolls (timeoutSecs : ℕ) : ℕ := (timeoutSecs * 1000 + 399) / 400

/-- After a confirmed sell: wait until the account shows the drop from `preRaw`, or is gone. -/
def pollAtaConfirmsSell (ata : Address) (preRaw soldRaw : ℕ) (expectAtaClosed : Bool)
    (mint : Address) (timeoutSecs : ℕ) : Call Unit :=
  retry (fun left again => do
    let attempts := ataPolls timeoutSecs + 1 - left
    let m := addressText mint
    let a := addressText ata
    let waitOn (e : BrokerError) : Call Unit :=
      untilTimeout "poll_ata_confirms_sell" (timeoutSecs * 1000) (fun _ => e) again
    if expectAtaClosed then
      match ← Ask.getAccount ata with
      | .ok none => pure ()
      | .ok (some _) =>
        waitOn (.transactionFailed (s!"{m}: expected ATA {a} to close after full SELL; still " ++
          s!"present after {attempts} polls in {secsText timeoutSecs} (pre_raw={preRaw}, " ++
          s!"sold_raw={soldRaw})"))
      | .error msg => waitOn (.custom s!"{m}: get_account ATA {a} after full SELL: {msg}")
    else
      match ← inspect (fetchTokenAccountRawWithDecimals ata) with
      | .ok (postRaw, _) =>
        let drop := preRaw - postRaw
        if drop ≥ minDrop soldRaw then pure ()
        else waitOn (.transactionFailed (s!"{m}: ATA {a} balance did not drop enough after " ++
          s!"confirmed SELL: pre_raw={preRaw} post_raw={postRaw} delta={drop} " ++
          s!"need>={minDrop soldRaw} sold_raw={soldRaw} after {attempts} polls in " ++
          s!"{secsText timeoutSecs}"))
      | .error e => waitOn (.custom s!"{m}: token balance read ATA {a} after SELL: {e.text}"))
    (ataPolls timeoutSecs)

end

end Loggaper
