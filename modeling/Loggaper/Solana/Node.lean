import Loggaper.Autobuy.Broker
import Loggaper.Lib.Interact

/-!
# The node, the Jupiter API and the chain

What the live broker asks of the world, as the questions of a `Prog`. The world answers as it
likes. A submitted transaction gets two answers that need not agree: the *reply* that the broker
sees, and whether the transaction *lands*, i.e. executes on the chain, which it does not see.

The questions that submit and confirm a transaction carry the label that the broker gives to it
in its log. Decoding and signing a transaction, and parsing a signature, are questions too: they
belong to other libraries, and they can fail.
-/

namespace Loggaper

def base58Alphabet : List Char :=
  "123456789ABCDEFGHJKLMNPQRSTUVWXYZabcdefghijkmnopqrstuvwxyz".toList

/-- The base-58 digits of `n`, the last one first, at most `fuel` of them. -/
def base58Digits : (fuel n : ℕ) → List Char
  | 0, _ => []
  | fuel + 1, n =>
    if n = 0 then [] else base58Alphabet.getD (n % 58) '1' :: base58Digits fuel (n / 58)

/-- The leading zero bytes of a 32-byte number, each of which is written `1`. -/
def leadingZeroBytes (n : ℕ) : ℕ :=
  ((List.range 32).takeWhile fun i => n / 256 ^ (31 - i) = 0).length

/-- `Address::to_string`: base 58. -/
def addressText (a : Address) : String :=
  String.ofList (List.replicate (leadingZeroBytes a.toNat) '1' ++ (base58Digits 44 a.toNat).reverse)

/-- The base-58 text of a transaction signature. -/
abbrev Signature := String

abbrev Blockhash := String

/-- Legacy SPL or Token-2022, from the owner of the mint account. -/
inductive MintTokenKind
  | legacySpl
  | token2022
  deriving DecidableEq, Repr

/-! ## Transactions -/

inductive Instruction
  | computeUnitPrice (price : ℕ)
  | computeUnitLimit (limit : ℕ)
  /-- Create the associated token account unless it exists. -/
  | createIdempotent (mint payer owner : Address) (program : MintTokenKind)
  | pumpBuyExactIn (mint user creator : Address) (program : MintTokenKind)
      (solAmountIn minTokenOut : ℕ)
  | pumpSell (mint user creator : Address) (program : MintTokenKind)
      (tokenAmountIn minSolOut : ℕ) (cashbackEnabled : Bool)
  | closeAccount (program : MintTokenKind) (ata destination authority : Address)
  deriving DecidableEq, Repr

/-- One side of a swap: wrapped SOL or the token. -/
inductive SwapMint
  | wsol
  | token (mint : Address)
  deriving DecidableEq, Repr

/-- Labels of the on-curve and pump AMM hops. -/
def jupiterExcludePumpDexes : String := "Pump.fun,Pump.fun+Amm"

structure JupiterQuoteOpts where
  excludeDexes : Option String
  onlyDirectRoutes : Bool
  deriving DecidableEq, Repr

/-- An `ExactIn` swap: `amountRaw` units of the input mint go out. -/
structure SwapRequest where
  inputMint : SwapMint
  outputMint : SwapMint
  amountRaw : ℕ
  slippageBps : ℕ
  opts : JupiterQuoteOpts
  deriving DecidableEq, Repr

inductive Transaction
  /-- Instructions of the broker, signed over a blockhash. -/
  | signed (ixs : List Instruction) (blockhash : Blockhash)
  /-- A transaction built by Jupiter for a request. The broker puts in a fresh blockhash, except
  into an order that Jupiter itself submits. -/
  | swap (request : SwapRequest) (swapTransaction : String) (blockhash : Option Blockhash)
  deriving DecidableEq, Repr

/-- The raw units of `mint` that an instruction takes out of the token account. -/
def Instruction.tokensOut (mint : Address) : Instruction → ℕ
  | .pumpSell m _ _ _ tokenAmountIn _ _ => if m = mint then tokenAmountIn else 0
  | _ => 0

/-- The raw units of `mint` that leave the token account when the transaction executes. -/
def Transaction.tokensOut (mint : Address) : Transaction → ℕ
  | .signed ixs _ => (ixs.map (Instruction.tokensOut mint)).sum
  | .swap request _ _ => if request.inputMint = .token mint then request.amountRaw else 0

/-! ## Answers -/

structure Account where
  owner : String
  data : List UInt8
  deriving DecidableEq, Repr

/-- `UiTokenAmount`: the text of the raw amount, parsed or not, and the decimals. -/
structure TokenAmount where
  amount : Except String ℕ
  decimals : ℕ

/-- A status that the node reports for a signature. Every such status satisfies `processed`
commitment, so the broker accepts it unless it carries an error. -/
structure TransactionStatus where
  err : Option String
  status : Except String Unit

/-- The reply to a submission, and whether the transaction lands. -/
structure Sent (ρ : Type) where
  reply : ρ
  landed : Bool

/-- A JSON value as the broker reads it: its string, when it is one, and its text. -/
structure JsonValue where
  asStr : Option String
  text : String

/-- A JSON object: `value.get(key)`. -/
abbrev JsonObject := String → Option JsonValue

inductive HttpReply
  | requestError (e : String)
  | httpStatus (status body : String)
  | badJson (e body : String)
  | json (v : JsonObject)

inductive SwapDecodeError
  | base64 (e : String)
  | bincode (e : String)

/-- A measured duration and how it prints. -/
structure Elapsed where
  ms : ℕ
  debug : String

/-! ## Questions -/

inductive Query
  /-- The broker's own cached SOL balance, which other tasks refresh. -/
  | balance
  | addBalance (delta : ℚ)
  /-- Tokens of a mint that the trade stream has tracked. -/
  | trackedTokens (mint : Address)
  | getAccount (address : Address)
  | getTokenAccountBalance (ata : Address)
  | getLatestBlockhash (label : String)
  | sendTransaction (label : String) (tx : Transaction) (skipPreflight : Bool)
  | getSignatureStatus (label : String) (signature : Signature)
  /-- The time since a polling loop began. -/
  | elapsed (label : String)
  /-- Net SOL of the wallet in a confirmed transaction, from its metadata. -/
  | walletNetSol (signature : Signature)
  | jupiterQuote (request : SwapRequest)
  | jupiterSwap (request : SwapRequest)
  | jupiterOrder (request : SwapRequest)
  /-- Submit a signed order through Jupiter. -/
  | jupiterExecute (requestId : String) (tx : Transaction)
  | decodeSwapTransaction (swapTransaction : String)
  | signSwapTransaction (label swapTransaction : String)
  | parseSignature (text : String)
  deriving DecidableEq

/-- What each question is answered with. -/
def NodeAnswer : Query → Type
  | .balance => ℚ
  | .addBalance _ => Unit
  | .trackedTokens _ => Option ℚ
  | .getAccount _ => Except String (Option Account)
  | .getTokenAccountBalance _ => Except String TokenAmount
  | .getLatestBlockhash _ => Except String Blockhash
  | .sendTransaction _ _ _ => Sent (Except String Signature)
  | .getSignatureStatus _ _ => Except String (Option TransactionStatus)
  | .elapsed _ => Elapsed
  | .walletNetSol _ => Except String ℚ
  | .jupiterQuote _ => HttpReply
  | .jupiterSwap _ => HttpReply
  | .jupiterOrder _ => HttpReply
  | .jupiterExecute _ _ => Sent HttpReply
  | .decodeSwapTransaction _ => Except SwapDecodeError Unit
  | .signSwapTransaction _ _ => Except String Unit
  | .parseSignature _ => Except String Signature

/-- A call of the broker. -/
abbrev Call := Attempt BrokerError NodeAnswer

/-! ## Asking, with the type of the answer -/

namespace Ask

open Attempt

abbrev balance : Call ℚ := question (A := NodeAnswer) .balance

abbrev addBalance (delta : ℚ) : Call Unit := question (A := NodeAnswer) (.addBalance delta)

abbrev trackedTokens (mint : Address) : Call (Option ℚ) :=
  question (A := NodeAnswer) (.trackedTokens mint)

abbrev getAccount (address : Address) : Call (Except String (Option Account)) :=
  question (A := NodeAnswer) (.getAccount address)

abbrev getTokenAccountBalance (ata : Address) : Call (Except String TokenAmount) :=
  question (A := NodeAnswer) (.getTokenAccountBalance ata)

abbrev getLatestBlockhash (label : String) : Call (Except String Blockhash) :=
  question (A := NodeAnswer) (.getLatestBlockhash label)

abbrev sendTransaction (label : String) (tx : Transaction) (skipPreflight : Bool) :
    Call (Sent (Except String Signature)) :=
  question (A := NodeAnswer) (.sendTransaction label tx skipPreflight)

abbrev getSignatureStatus (label : String) (signature : Signature) :
    Call (Except String (Option TransactionStatus)) :=
  question (A := NodeAnswer) (.getSignatureStatus label signature)

abbrev elapsed (label : String) : Call Elapsed := question (A := NodeAnswer) (.elapsed label)

abbrev walletNetSol (signature : Signature) : Call (Except String ℚ) :=
  question (A := NodeAnswer) (.walletNetSol signature)

abbrev jupiterQuote (request : SwapRequest) : Call HttpReply :=
  question (A := NodeAnswer) (.jupiterQuote request)

abbrev jupiterSwap (request : SwapRequest) : Call HttpReply :=
  question (A := NodeAnswer) (.jupiterSwap request)

abbrev jupiterOrder (request : SwapRequest) : Call HttpReply :=
  question (A := NodeAnswer) (.jupiterOrder request)

abbrev jupiterExecute (requestId : String) (tx : Transaction) : Call (Sent HttpReply) :=
  question (A := NodeAnswer) (.jupiterExecute requestId tx)

abbrev decodeSwapTransaction (swapTransaction : String) : Call (Except SwapDecodeError Unit) :=
  question (A := NodeAnswer) (.decodeSwapTransaction swapTransaction)

abbrev signSwapTransaction (label swapTransaction : String) : Call (Except String Unit) :=
  question (A := NodeAnswer) (.signSwapTransaction label swapTransaction)

abbrev parseSignature (text : String) : Call (Except String Signature) :=
  question (A := NodeAnswer) (.parseSignature text)

end Ask

/-- The node, Jupiter and the chain. -/
abbrev World := Environment NodeAnswer

abbrev Record := List (Exchange NodeAnswer)

/-! ## Scripted worlds -/

/-- The submissions on the record. -/
def submissions (h : Record) : ℕ :=
  h.countP fun x => match x.query with
    | .sendTransaction _ _ _ => true
    | .jupiterExecute _ _ => true
    | _ => false

/-- What a scripted world leaves open. Its clock has always run out, its Jupiter always has a
route, and it decodes and signs everything. -/
structure Script where
  account : Record → Address → Except String (Option Account)
  tokens : Record → Except String TokenAmount
  send : Record → Sent (Except String Signature)
  status : Record → Except String (Option TransactionStatus)

/-- A reply of Jupiter with a quoted amount and a transaction. -/
def routeReply : HttpReply := .json fun key =>
  if key = "outAmount" then some ⟨some "1", "1"⟩
  else if key = "swapTransaction" then some ⟨some "tx", "tx"⟩ else none

def Script.world (s : Script) : World := fun h q => match q with
  | .balance => (10 : ℚ)
  | .addBalance _ => ()
  | .trackedTokens _ => none
  | .getAccount a => s.account h a
  | .getTokenAccountBalance _ => s.tokens h
  | .getLatestBlockhash _ => .ok s!"blockhash {submissions h}"
  | .sendTransaction _ _ _ => s.send h
  | .getSignatureStatus _ _ => s.status h
  | .elapsed _ => ⟨3_600_000, "3600s"⟩
  | .walletNetSol _ => .ok 0
  | .jupiterQuote _ => routeReply
  | .jupiterSwap _ => routeReply
  | .jupiterOrder _ => routeReply
  | .jupiterExecute _ _ => ⟨routeReply, false⟩
  | .decodeSwapTransaction _ => .ok ()
  | .signSwapTransaction _ _ => .ok ()
  | .parseSignature text => .ok text

end Loggaper
