import Loggaper.Solana.Node

/-!
# The Jupiter Swap API

Quotes, swap transactions and orders for tokens that have left the bonding curve, and the
predicates by which the broker tells their errors apart.
-/

namespace Loggaper

open Attempt

def JupiterQuoteOpts.postGraduation : JupiterQuoteOpts := ⟨some jupiterExcludePumpDexes, false⟩

def JupiterQuoteOpts.postGraduationDirectOnly : JupiterQuoteOpts :=
  ⟨some jupiterExcludePumpDexes, true⟩

/-- May route through Pump; a 6005 is guarded when the transaction is sent. -/
def JupiterQuoteOpts.postGraduationAllowPump : JupiterQuoteOpts := ⟨none, false⟩

def JupiterQuoteOpts.postGraduationAllowPumpDirect : JupiterQuoteOpts := ⟨none, true⟩

/-! ## Kinds of errors -/

def isJupiterNoRoutesFound : BrokerError → Bool
  | .custom msg => textContains msg "NO_ROUTES_FOUND" || textContains msg "No routes found"
  | _ => false

/-- On-chain or `/execute` slippage. The search is over the whole text of the error. -/
def isJupiterSlippage : BrokerError → Bool
  | .transactionFailed msg =>
    textContains msg "15001" || textContains msg.toLower "slippage tolerance exceeded" ||
      textContains msg.toLower "slippage"
  | _ => false

/-- Pump answers `BondingCurveComplete`. -/
def isBondingCurveCompletePumpError (msg : String) : Bool := textContains msg "Custom(6005)"

/-! ## Requests -/

/-- The text is a `u64`. -/
def parseU64 (s : String) : Option ℕ :=
  let digits := match s.toList with
    | '+' :: cs => cs
    | cs => cs
  if digits = [] ∨ digits.any fun c => !c.isDigit then none
  else
    let n := digits.foldl (fun n c => 10 * n + (c.toNat - '0'.toNat)) 0
    if n ≤ u64Max then some n else none

def jupiterHttpJson (op : String) : HttpReply → Except BrokerError JsonObject
  | .requestError e => .error (.custom s!"Jupiter {op} request: {e}")
  | .httpStatus status body => .error (.custom s!"Jupiter {op} HTTP {status}: {body}")
  | .badJson e body => .error (.custom s!"Jupiter {op} JSON: {e}; body={body}")
  | .json v => .ok v

structure JupiterSwapBuild where
  swapTransactionB64 : String
  outLamports : ℕ
  /-- Set when the order is to be submitted through Jupiter. -/
  v2RequestId : Option String
  usedExcludePumpDexes : Bool
  /-- What the transaction was built for. -/
  request : SwapRequest

def jupiterFetchQuoteExactIn (request : SwapRequest) : Call JsonObject := do
  let reply ← Ask.jupiterQuote request
  let quote ← orThrow id (jupiterHttpJson "quote" reply)
  match quote "error" with
  | some err => throw (.custom s!"Jupiter quote error: {err.text}")
  | none => pure quote

def parseOutAmountLamports (quote : JsonObject) : ℕ :=
  (((quote "outAmount").bind JsonValue.asStr).bind parseU64).getD 0

/-- A quote, then the swap transaction for it. -/
def jupiterBuildSwapExactInMints (request : SwapRequest) : Call JupiterSwapBuild := do
  let quote ← jupiterFetchQuoteExactIn request
  let reply ← Ask.jupiterSwap request
  let swap ← orThrow id (jupiterHttpJson "swap" reply)
  match (swap "swapTransaction").bind JsonValue.asStr with
  | none => throw (.custom "Jupiter swap: missing swapTransaction")
  | some swapTransactionB64 =>
    pure {
      swapTransactionB64 := swapTransactionB64
      outLamports := parseOutAmountLamports quote
      v2RequestId := none
      usedExcludePumpDexes := request.opts.excludeDexes.isSome
      request := request }

/-- Token to wrapped SOL. -/
def jupiterBuildSwapExactIn (inputMint : Address) (amountRaw slippageBps : ℕ)
    (opts : JupiterQuoteOpts) : Call JupiterSwapBuild :=
  jupiterBuildSwapExactInMints ⟨.token inputMint, .wsol, amountRaw, slippageBps, opts⟩

/-- Wrapped SOL to token. -/
def jupiterBuildSwapWsolToMintExactIn (outputMint : Address) (solLamportsIn slippageBps : ℕ)
    (opts : JupiterQuoteOpts) : Call JupiterSwapBuild :=
  jupiterBuildSwapExactInMints ⟨.wsol, .token outputMint, solLamportsIn, slippageBps, opts⟩

/-- The string of a JSON value, unless it is empty. -/
def nonEmptyStr (v : Option JsonValue) : Option String :=
  (v.bind JsonValue.asStr).filter fun s => s != ""

/-- `GET /swap/v2/order`. -/
def jupiterBuildSwapV2OrderExactIn (inputMint : Address) (amountRaw slippageBps : ℕ)
    (excludeDexes : Option String) : Call JupiterSwapBuild := do
  let request : SwapRequest :=
    ⟨.token inputMint, .wsol, amountRaw, slippageBps, ⟨excludeDexes, false⟩⟩
  let reply ← Ask.jupiterOrder request
  let order ← orThrow id (jupiterHttpJson "order" reply)
  match nonEmptyStr (order "error") with
  | some err => throw (.custom s!"Jupiter EMPTY_ORDER: {err}")
  | none =>
    match nonEmptyStr (order "transaction") with
    | none =>
      let code := ((order "errorCode").map JsonValue.text).getD ""
      let msg := (((order "errorMessage").or (order "error")).map JsonValue.text).getD ""
      throw (.custom
        s!"Jupiter EMPTY_ORDER: empty transaction (errorCode={code}, message={msg})")
    | some swapTransactionB64 =>
      match nonEmptyStr (order "requestId") with
      | none => throw (.custom "Jupiter order: missing requestId")
      | some requestId =>
        pure {
          swapTransactionB64 := swapTransactionB64
          outLamports := parseOutAmountLamports order
          v2RequestId := some requestId
          usedExcludePumpDexes := excludeDexes.isSome
          request := request }

def swapDecodeError (what : String) : SwapDecodeError → BrokerError
  | .base64 e => .custom s!"{what} base64: {e}"
  | .bincode e => .custom s!"Jupiter swapTransaction decode (bincode): {e}"

/-- Decode the payload; `what` names it in the error. -/
def decodeSwapTransaction (what payload : String) : Call Unit := do
  let decoded ← Ask.decodeSwapTransaction payload
  orThrow (swapDecodeError what) decoded

/-- What `/execute` reports about an order it was given. -/
def executeError (resp : JsonObject) : BrokerError :=
  let status := ((resp "status").bind JsonValue.asStr).getD ""
  let err := (((resp "error").or (resp "errorMessage")).bind JsonValue.asStr).getD "unknown"
  let code := ((resp "code").map JsonValue.text).getD "?"
  .transactionFailed s!"Jupiter execute status={status} code={code}: {err}"

/-- Sign an order and submit it through Jupiter; its blockhash is not refreshed. -/
def jupiterExecuteV2Order (build : JupiterSwapBuild) (requestId : String) : Call Signature := do
  decodeSwapTransaction "Jupiter order tx" build.swapTransactionB64
  let signed ← Ask.signSwapTransaction "Jupiter order sign" build.swapTransactionB64
  orThrow (fun e => .custom s!"Jupiter order sign: VersionedTransaction::try_new: {e}") signed
  let sent ← Ask.jupiterExecute requestId
    (.swap build.request build.swapTransactionB64 none)
  let resp ← orThrow id (jupiterHttpJson "execute" sent.reply)
  if ((resp "status").bind JsonValue.asStr).getD "" = "Success" then
    match (resp "signature").bind JsonValue.asStr with
    | none => throw (.custom "Jupiter execute: missing signature")
    | some sigStr => do
      let parsed ← Ask.parseSignature sigStr
      orThrow (fun e => .custom s!"Jupiter execute: bad signature: {e}") parsed
  else
    throw (executeError resp)

end Loggaper
