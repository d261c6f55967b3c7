import Loggaper.Solana.JupiterSell
import Loggaper.Lib.Json
import Loggaper.Lib.TextSlice

/-!
# Market cap from Jupiter

The exit price of a graduated token comes from the price API, or else from a small quote. What the
API answers is logged, cut to a number of bytes. A cut inside a character panics.

Requests differ only in their URL: `get` answers one with a response or the error of the request,
`parseJson` and `showJson` are the JSON parser and printer.

Main result: `mcapResolved_iff`.
-/

namespace Loggaper.JupiterPrice

inductive Panic
  | notCharBoundary
  | powOverflow
  deriving DecidableEq, Repr

/-- A response. Its body is a text, or the error of reading it. -/
structure HttpResponse where
  status : ℕ
  statusText : String
  text : Except String String

structure Jupiter where
  get : (url : String) → Except String HttpResponse
  parseJson : String → Except String Json
  showJson : Json → String

def wsolMint : String := "So11111111111111111111111111111111111111112"

def jupiterQuote : String := "https://api.jup.ag/swap/v1/quote"

def jupiterPriceV3 : String := "https://api.jup.ag/price/v3"

/-- `PUMP_FUN_TOKEN_SUPPLY`. -/
def pumpFunTokenSupply : F64 := F64.round 1_000_000_000

def jupiterPriceLogBodyMax : ℕ := 400

namespace HttpResponse

def isSuccess (resp : HttpResponse) : Bool := 200 ≤ resp.status && resp.status < 300

def bodyText (resp : HttpResponse) : String :=
  match resp.text with
  | .ok text => text
  | .error e => s!"<body read error: {e}>"

end HttpResponse

/-! ## The price API -/

def truncateLogBody (s : String) (max : ℕ) : Except Panic String :=
  if s.utf8ByteSize ≤ max then .ok s
  else
    match TextSlice.sliceTo s max with
    | some front => .ok (front ++ "…")
    | none => .error .notCharBoundary

/-- `jupiter_fetch_price_v3`. The cut body goes to the log, and a shorter one into the error. -/
def jupiterFetchPriceV3 (j : Jupiter) (ids : String) : Except Panic (Except String Json) :=
  match j.get s!"{jupiterPriceV3}?ids={ids}" with
  | .error e => .ok (.error s!"Jupiter PRICE request: {e}")
  | .ok resp =>
    if resp.isSuccess then
      match j.parseJson resp.bodyText with
      | .ok body => .ok (.ok body)
      | .error e => do
        let _ ← truncateLogBody resp.bodyText jupiterPriceLogBodyMax
        .ok (.error s!"Jupiter PRICE JSON: {e}")
    else do
      let _ ← truncateLogBody resp.bodyText jupiterPriceLogBodyMax
      let detail ← truncateLogBody resp.bodyText 200
      .ok (.error s!"Jupiter PRICE HTTP {resp.status}: {detail}")

def parsePriceV3Usd (body : Json) (mint : String) : Option F64 := do
  let entry ← body.get mint
  let price ← entry.get "usdPrice"
  let usd ← price.asF64 <|> price.asStr.bind F64.parse
  if usd.isFinite && usd.isPos then some usd else none

def parsePriceV3Decimals (body : Json) (mint : String) : Option ℕ := do
  let entry ← body.get mint
  let decimals ← (entry.get "decimals").bind Json.asU64
  if decimals.toNat < 256 then some decimals.toNat else none

/-- What `jupiter_implied_mcap_sol_price_v3` makes of the body. -/
def priceV3McapSol (body : Json) (mint : String) : Option F64 :=
  match parsePriceV3Usd body mint, parsePriceV3Usd body wsolMint with
  | some tokenUsd, some solUsd =>
    if solUsd.isNeg || solUsd.isZero then none
    else
      let mcap := (tokenUsd.div solUsd).mul pumpFunTokenSupply
      if mcap.isFinite && mcap.isPos then some mcap else none
  | _, _ => none

def jupiterImpliedMcapSolPriceV3 (j : Jupiter) (mint : String) : Except Panic (Option F64) := do
  match ← jupiterFetchPriceV3 j s!"{mint},{wsolMint}" with
  | .error _ => .ok none
  | .ok body => .ok (priceV3McapSol body mint)

/-! ## The quote -/

/-- `jupiter_http_json`, whose texts are not cut. -/
def jupiterHttpJson (j : Jupiter) (url op : String) : Except String Json :=
  match j.get url with
  | .error e => .error s!"Jupiter {op} request: {e}"
  | .ok resp =>
    if resp.isSuccess then
      match j.parseJson resp.bodyText with
      | .ok body => .ok body
      | .error e => .error s!"Jupiter {op} JSON: {e}; body={resp.bodyText}"
    else .error s!"Jupiter {op} HTTP {resp.statusText}: {resp.bodyText}"

def jupiterQuoteUrl (inputMint outputMint : String) (amountRaw slippageBps : ℕ)
    (opts : JupiterQuoteOpts) : String :=
  s!"{jupiterQuote}?inputMint={inputMint}&outputMint={outputMint}" ++
    s!"&amount={amountRaw}&slippageBps={slippageBps}&swapMode=ExactIn" ++
    (match opts.excludeDexes with
      | some exclude => s!"&excludeDexes={exclude}"
      | none => "") ++
    (if opts.onlyDirectRoutes then "&onlyDirectRoutes=true" else "")

def jupiterFetchQuoteExactIn (j : Jupiter) (inputMint outputMint : String)
    (amountRaw slippageBps : ℕ) (opts : JupiterQuoteOpts) : Except String Json := do
  let quote ← jupiterHttpJson j
    (jupiterQuoteUrl inputMint outputMint amountRaw slippageBps opts) "quote"
  match quote.get "error" with
  | some err => .error s!"Jupiter quote error: {j.showJson err}"
  | none => .ok quote

def jupiterTokenDecimals (j : Jupiter) (mint : String) : Except Panic (Option ℕ) := do
  match ← jupiterFetchPriceV3 j mint with
  | .error _ => .ok none
  | .ok body => .ok (parsePriceV3Decimals body mint)

/-- `10u64.pow(n)`. -/
def pow10U64 (n : ℕ) : Except Panic ℕ :=
  if 10 ^ n ≤ u64Max then .ok (10 ^ n) else .error .powOverflow

/-- What `jupiter_implied_mcap_sol_quote` makes of the quote. -/
def quoteMcapSol (quote : Json) : Option F64 := do
  let outLamports ← ((quote.get "outAmount").bind Json.asStr).bind parseU64
  if outLamports = 0 then none
  else
    let solPerToken := (F64.round outLamports).div (F64.round (10 ^ 9))
    let mcap := solPerToken.mul pumpFunTokenSupply
    if mcap.isFinite && mcap.isPos then some mcap else none

def jupiterImpliedMcapSolQuote (j : Jupiter) (mint : String) : Except Panic (Option F64) := do
  let decimals := (← jupiterTokenDecimals j mint).getD 6
  let oneTokenRaw ← pow10U64 (min decimals 12)
  let quote := jupiterFetchQuoteExactIn j mint wsolMint oneTokenRaw 300 ⟨none, false⟩
  .ok (quote.toOption.bind quoteMcapSol)

def jupiterImpliedMcapSol (j : Jupiter) (mint : String) : Except Panic (Option F64) := do
  match ← jupiterImpliedMcapSolPriceV3 j mint with
  | some m => .ok (some m)
  | none => jupiterImpliedMcapSolQuote j mint

/-! ## Where the text is cut -/

/-- The text is short, or a character ends where it is cut. -/
def CutFits (s : String) (max : ℕ) : Prop :=
  max < s.utf8ByteSize → TextSlice.Boundary s.toList max

/-- The cuts of the answer's body are possible. -/
def AnswerFits (j : Jupiter) (ids : String) : Prop :=
  match j.get s!"{jupiterPriceV3}?ids={ids}" with
  | .error _ => True
  | .ok resp =>
    if resp.isSuccess then
      ∀ e, j.parseJson resp.bodyText = .error e → CutFits resp.bodyText jupiterPriceLogBodyMax
    else CutFits resp.bodyText jupiterPriceLogBodyMax ∧ CutFits resp.bodyText 200

/-- The body of a price answer, when there is one. -/
def priceBody (j : Jupiter) (ids : String) : Option Json :=
  match j.get s!"{jupiterPriceV3}?ids={ids}" with
  | .error _ => none
  | .ok resp => if resp.isSuccess then (j.parseJson resp.bodyText).toOption else none

/-- The price API knows the prices. -/
def PriceKnown (j : Jupiter) (mint : String) : Prop :=
  ∃ body m, priceBody j s!"{mint},{wsolMint}" = some body ∧ priceV3McapSol body mint = some m

theorem truncateLogBody_of_fits {s : String} {max : ℕ} (h : CutFits s max) :
    ∃ front, truncateLogBody s max = .ok front := by
  unfold truncateLogBody
  by_cases hle : s.utf8ByteSize ≤ max
  · exact ⟨s, if_pos hle⟩
  · have hsome := (TextSlice.isSome_sliceTo s max).mpr (h (not_le.mp hle))
    obtain ⟨front, hfront⟩ := Option.isSome_iff_exists.mp hsome
    rw [if_neg hle, hfront]
    exact ⟨_, rfl⟩

theorem truncateLogBody_of_not_fits {s : String} {max : ℕ} (h : ¬ CutFits s max) :
    truncateLogBody s max = .error .notCharBoundary := by
  rw [CutFits, Classical.not_imp, ← TextSlice.isSome_sliceTo, Option.not_isSome_iff_eq_none] at h
  rw [truncateLogBody, if_neg (not_le.mpr h.1), h.2]

/-! ## The price answer -/

/-- The body, or an error. -/
theorem jupiterFetchPriceV3_of_fits {j : Jupiter} {ids : String} (h : AnswerFits j ids) :
    ∃ answer, jupiterFetchPriceV3 j ids = .ok answer ∧ answer.toOption = priceBody j ids := by
  unfold AnswerFits at h
  unfold jupiterFetchPriceV3 priceBody
  cases hget : j.get s!"{jupiterPriceV3}?ids={ids}" with
  | error e => exact ⟨_, rfl, rfl⟩
  | ok resp =>
    rw [hget] at h
    simp only at h ⊢
    by_cases hsuccess : resp.isSuccess = true
    · rw [if_pos hsuccess] at h
      rw [if_pos hsuccess, if_pos hsuccess]
      cases hparse : j.parseJson resp.bodyText with
      | ok body => exact ⟨_, rfl, rfl⟩
      | error e =>
        obtain ⟨front, hfront⟩ := truncateLogBody_of_fits (h e hparse)
        rw [hfront]
        exact ⟨_, rfl, rfl⟩
    · rw [if_neg hsuccess] at h
      obtain ⟨front, hfront⟩ := truncateLogBody_of_fits h.1
      obtain ⟨detail, hdetail⟩ := truncateLogBody_of_fits h.2
      rw [if_neg hsuccess, if_neg hsuccess, hfront, hdetail]
      exact ⟨_, rfl, rfl⟩

theorem jupiterFetchPriceV3_of_not_fits {j : Jupiter} {ids : String} (h : ¬ AnswerFits j ids) :
    jupiterFetchPriceV3 j ids = .error .notCharBoundary := by
  unfold AnswerFits at h
  unfold jupiterFetchPriceV3
  cases hget : j.get s!"{jupiterPriceV3}?ids={ids}" with
  | error e =>
    rw [hget] at h
    exact absurd trivial h
  | ok resp =>
    rw [hget] at h
    simp only at h ⊢
    by_cases hsuccess : resp.isSuccess = true
    · rw [if_pos hsuccess] at h
      push Not at h
      obtain ⟨e, hparse, hcut⟩ := h
      rw [if_pos hsuccess, hparse]
      simp only [truncateLogBody_of_not_fits hcut]
      rfl
    · rw [if_neg hsuccess] at h
      rw [if_neg hsuccess]
      by_cases hcut : CutFits resp.bodyText jupiterPriceLogBodyMax
      · obtain ⟨front, hfront⟩ := truncateLogBody_of_fits hcut
        rw [hfront, truncateLogBody_of_not_fits fun hdetail => h ⟨hcut, hdetail⟩]
        rfl
      · rw [truncateLogBody_of_not_fits hcut]
        rfl

/-- The market cap from the price API. -/
theorem jupiterImpliedMcapSolPriceV3_of_fits {j : Jupiter} {mint : String}
    (h : AnswerFits j s!"{mint},{wsolMint}") :
    jupiterImpliedMcapSolPriceV3 j mint =
      .ok ((priceBody j s!"{mint},{wsolMint}").bind (priceV3McapSol · mint)) := by
  obtain ⟨answer, hanswer, hbody⟩ := jupiterFetchPriceV3_of_fits h
  rw [jupiterImpliedMcapSolPriceV3, hanswer, ← hbody]
  cases answer <;> rfl

theorem jupiterTokenDecimals_of_fits {j : Jupiter} {mint : String} (h : AnswerFits j mint) :
    jupiterTokenDecimals j mint =
      .ok ((priceBody j mint).bind (parsePriceV3Decimals · mint)) := by
  obtain ⟨answer, hanswer, hbody⟩ := jupiterFetchPriceV3_of_fits h
  rw [jupiterTokenDecimals, hanswer, ← hbody]
  cases answer <;> rfl

/-! ## The result -/

/-- A finite positive number. -/
def Positive (m : F64) : Prop := ∃ x : ℚ, m = .finite x ∧ 0 < x

theorem priceV3McapSol_positive {body : Json} {mint : String} {m : F64}
    (h : priceV3McapSol body mint = some m) : Positive m := by
  unfold priceV3McapSol at h
  split at h
  · simp only at h
    split_ifs at h with hsol hcheck
    cases h
    exact F64.exists_of_isFinite_isPos hcheck
  · cases h

theorem quoteMcapSol_positive {quote : Json} {m : F64} (h : quoteMcapSol quote = some m) :
    Positive m := by
  obtain ⟨outLamports, -, hm⟩ := Option.bind_eq_some_iff.mp h
  simp only at hm
  split_ifs at hm with hzero hcheck
  cases hm
  exact F64.exists_of_isFinite_isPos hcheck

/-- The power of ten is a `u64`. -/
theorem pow10U64_min (decimals : ℕ) : pow10U64 (min decimals 12) = .ok (10 ^ min decimals 12) := by
  refine if_pos ?_
  calc 10 ^ min decimals 12 ≤ 10 ^ 12 := Nat.pow_le_pow_right (by norm_num) (min_le_right _ _)
    _ ≤ u64Max := by norm_num [u64Max]

theorem jupiterImpliedMcapSolQuote_of_fits {j : Jupiter} {mint : String} (h : AnswerFits j mint) :
    ∃ r, jupiterImpliedMcapSolQuote j mint = .ok r ∧ ∀ m ∈ r, Positive m := by
  have hpow := pow10U64_min (((priceBody j mint).bind (parsePriceV3Decimals · mint)).getD 6)
  rw [jupiterImpliedMcapSolQuote, jupiterTokenDecimals_of_fits h]
  simp only [bind, Except.bind, hpow]
  refine ⟨_, rfl, fun m hm => ?_⟩
  obtain ⟨quote, -, hquote⟩ := Option.bind_eq_some_iff.mp hm
  exact quoteMcapSol_positive hquote

theorem jupiterImpliedMcapSolQuote_of_not_fits {j : Jupiter} {mint : String}
    (h : ¬ AnswerFits j mint) :
    jupiterImpliedMcapSolQuote j mint = .error .notCharBoundary := by
  rw [jupiterImpliedMcapSolQuote, jupiterTokenDecimals, jupiterFetchPriceV3_of_not_fits h]
  rfl

/-- The call answers with nothing or with a positive number, and a failed price call leaves it to
the quote. -/
structure McapResolved (j : Jupiter) (mint : String) : Prop where
  answers : ∃ r, jupiterImpliedMcapSol j mint = .ok r ∧ ∀ m ∈ r, Positive m
  degrades : priceBody j s!"{mint},{wsolMint}" = none →
    jupiterImpliedMcapSol j mint = jupiterImpliedMcapSolQuote j mint

theorem jupiterImpliedMcapSol_of_fits {j : Jupiter} {mint : String}
    (h : AnswerFits j s!"{mint},{wsolMint}") :
    jupiterImpliedMcapSol j mint =
      match (priceBody j s!"{mint},{wsolMint}").bind (priceV3McapSol · mint) with
      | some m => .ok (some m)
      | none => jupiterImpliedMcapSolQuote j mint := by
  rw [jupiterImpliedMcapSol, jupiterImpliedMcapSolPriceV3_of_fits h]
  rfl

/-- **When the market cap is resolved**: exactly when the bodies that are logged can be cut. -/
theorem mcapResolved_iff (j : Jupiter) (mint : String) :
    McapResolved j mint ↔
      AnswerFits j s!"{mint},{wsolMint}" ∧ (¬ PriceKnown j mint → AnswerFits j mint) := by
  have hknown : PriceKnown j mint ↔
      ∃ m, (priceBody j s!"{mint},{wsolMint}").bind (priceV3McapSol · mint) = some m := by
    simp only [PriceKnown, Option.bind_eq_some_iff]
    exact exists_comm
  constructor
  · intro hresolved
    obtain ⟨r, hr, -⟩ := hresolved.answers
    by_cases hfits : AnswerFits j s!"{mint},{wsolMint}"
    · refine ⟨hfits, fun hunknown => ?_⟩
      by_contra hquote
      rw [jupiterImpliedMcapSol_of_fits hfits,
        Option.eq_none_iff_forall_ne_some.mpr fun m hm => hunknown (hknown.mpr ⟨m, hm⟩)] at hr
      rw [jupiterImpliedMcapSolQuote_of_not_fits hquote] at hr
      cases hr
    · rw [jupiterImpliedMcapSol, jupiterImpliedMcapSolPriceV3,
        jupiterFetchPriceV3_of_not_fits hfits] at hr
      cases hr
  · rintro ⟨hfits, hquote⟩
    have hrun := jupiterImpliedMcapSol_of_fits hfits
    constructor
    · rw [hrun]
      cases hprice : (priceBody j s!"{mint},{wsolMint}").bind (priceV3McapSol · mint) with
      | some m =>
        obtain ⟨body, -, hm⟩ := Option.bind_eq_some_iff.mp hprice
        refine ⟨some m, rfl, fun m' hm' => ?_⟩
        cases hm'
        exact priceV3McapSol_positive hm
      | none =>
        refine jupiterImpliedMcapSolQuote_of_fits (hquote fun h => ?_)
        obtain ⟨m, hm⟩ := hknown.mp h
        rw [hprice] at hm
        cases hm
    · intro hbody
      rw [hrun, hbody]
      rfl

/-- An error page of 201 bytes, whose last character takes two. -/
def errorPage : List Char := List.replicate 199 'a' ++ ['é']

def blocked : Jupiter where
  get _ := .ok ⟨403, "403 Forbidden", .ok (String.ofList errorPage)⟩
  parseJson _ := .error "expected value at line 1 column 1"
  showJson _ := "null"

theorem errorPage_uncut : ¬ CutFits (String.ofList errorPage) 200 := by
  rw [CutFits, Classical.not_imp, TextSlice.utf8ByteSize_ofList, String.toList_ofList,
    ← TextSlice.isSome_takeBytes]
  decide +kernel

/-- The error page cannot be cut at 200 bytes. -/
theorem errorPage_panics (mint : String) :
    jupiterImpliedMcapSol blocked mint = .error .notCharBoundary := by
  have hfits : ¬ AnswerFits blocked s!"{mint},{wsolMint}" := by
    intro h
    have hcuts : CutFits (String.ofList errorPage) jupiterPriceLogBodyMax ∧
      CutFits (String.ofList errorPage) 200 := h
    exact errorPage_uncut hcuts.2
  rw [jupiterImpliedMcapSol, jupiterImpliedMcapSolPriceV3, jupiterFetchPriceV3_of_not_fits hfits]
  rfl

theorem errorPage_unresolved : ¬ McapResolved blocked "MintA" := by
  intro h
  obtain ⟨r, hr, -⟩ := h.answers
  rw [errorPage_panics] at hr
  cases hr

end Loggaper.JupiterPrice
