import Loggaper.Solana.JupiterChunks
import Loggaper.Solana.Sales

/-!
# Sells through Jupiter

Each part of the Jupiter route keeps the promise of its kind, up to `sell_tokens_post_graduation`
as a whole: it returns `Ok` only after a reading that follows its last landing, and every
transaction that it submits is for the whole amount or for one of the four chunks.
-/

namespace Loggaper

open Attempt

section
variable {b : SolanaBroker} {mint : Address} {S : ℕ → Prop} {c raw : ℕ}

/-! ## Builds -/

theorem jupiterFetchQuoteExactIn_ends (request : SwapRequest) {s : Sales} (hs : Idle S c s) :
    wp (Sales.note b mint) (jupiterFetchQuoteExactIn request) (Ends S c fun _ => Idle S c) s := by
  unfold jupiterFetchQuoteExactIn
  apply wp_ask
  intro (reply : HttpReply)
  have ht := kept_idle b mint s (.jupiterQuote request) reply rfl hs
  apply wp_orThrow
  · intro quote hquote
    cases herr : quote "error" with
    | none => exact ht
    | some err =>
      refine ⟨?_, ht⟩
      show quoteFails reply = true
      simp [quoteFails, hquote, herr]
  · intro e hquote
    refine ⟨?_, ht⟩
    show quoteFails reply = true
    simp [quoteFails, hquote]

theorem jupiterBuildSwapExactInMints_ends (request : SwapRequest) {s : Sales} (hs : Idle S c s) :
    wp (Sales.note b mint) (jupiterBuildSwapExactInMints request)
      (Ends S c fun build t => build.request = request ∧ Idle S c t) s := by
  apply wp_bind (jupiterFetchQuoteExactIn_ends request hs)
  · intro quote s hs
    apply wp_ask
    intro (reply : HttpReply)
    have ht := kept_idle b mint s (.jupiterSwap request) reply rfl hs
    apply wp_orThrow
    · intro swap hswap
      cases htx : (swap "swapTransaction").bind JsonValue.asStr with
      | none =>
        refine ⟨?_, ht⟩
        show swapFails reply = true
        simp [swapFails, hswap, htx]
      | some swapTransactionB64 => exact ⟨rfl, ht⟩
    · intro e hswap
      refine ⟨?_, ht⟩
      show swapFails reply = true
      simp [swapFails, hswap]
  · intro e t ht
    exact ht

theorem jupiterBuildSwapExactIn_ends (raw slippageBps : ℕ) (opts : JupiterQuoteOpts)
    {s : Sales} (hs : Idle S c s) :
    wp (Sales.note b mint) (jupiterBuildSwapExactIn mint raw slippageBps opts)
      (Ends S c fun build t => build.request.Sells mint raw ∧ Idle S c t) s := by
  apply wp_mono _ (jupiterBuildSwapExactInMints_ends _ hs)
  intro answer t ht
  cases answer with
  | error e => exact ht
  | ok build =>
    rw [Ends, ht.1]
    exact ⟨⟨rfl, rfl⟩, ht.2⟩

theorem jupiterBuildSwapV2OrderExactIn_sells (raw slippageBps : ℕ) (excludeDexes : Option String)
    {s : Sales} (hs : Idle S c s) :
    wp (Sales.note b mint) (jupiterBuildSwapV2OrderExactIn mint raw slippageBps excludeDexes)
      (fun r t => Idle S c t ∧ ∀ build, r = .ok build → build.request.Sells mint raw) s := by
  apply wp_ask
  intro (reply : HttpReply)
  have ht := kept_idle b mint s
    (.jupiterOrder ⟨.token mint, .wsol, raw, slippageBps, ⟨excludeDexes, false⟩⟩) reply rfl hs
  apply wp_orThrow
  · intro order horder
    split
    · exact ⟨ht, by simp⟩
    · split
      · exact ⟨ht, by simp⟩
      · split
        · exact ⟨ht, by simp⟩
        · refine ⟨ht, ?_⟩
          intro build hr
          cases hr
          exact ⟨rfl, rfl⟩
  · intro e horder
    exact ⟨ht, by simp⟩

theorem jupiterQuoteSwapBuildPostGraduation_ends (raw slippageBps : ℕ) {s : Sales}
    (hs : Idle S c s) :
    wp (Sales.note b mint) (jupiterQuoteSwapBuildPostGraduation mint raw slippageBps)
      (Ends S c fun build t => build.request.Sells mint raw ∧ Idle S c t) s := by
  apply wp_inspect (jupiterBuildSwapExactIn_ends raw slippageBps _ hs)
  intro answer t ht
  cases answer with
  | error e =>
    dsimp only
    split
    · apply wp_inspect (jupiterBuildSwapV2OrderExactIn_sells raw slippageBps _ ht.2)
      intro answer u hu
      cases answer with
      | error e => exact jupiterBuildSwapExactIn_ends raw slippageBps _ hu.1
      | ok build => exact ⟨hu.2 build rfl, hu.1⟩
    · exact ht
  | ok build => exact ht

theorem jupiterRetryBuildAfterPump6005_ends (raw slippageBps : ℕ) (hadExclude : Bool) {s : Sales}
    (hs : Idle S c s) :
    wp (Sales.note b mint) (jupiterRetryBuildAfterPump6005 mint raw slippageBps hadExclude)
      (Ends S c fun build t => build.request.Sells mint raw ∧ Idle S c t) s := by
  cases hadExclude with
  | false => exact jupiterBuildSwapExactIn_ends raw slippageBps _ hs
  | true =>
    apply wp_inspect (jupiterBuildSwapExactIn_ends raw slippageBps _ hs)
    intro answer t ht
    cases answer with
    | error e => exact jupiterBuildSwapExactIn_ends raw slippageBps _ ht.2
    | ok build => exact ht

/-! ## Submissions -/

theorem decodeSwapTransaction_ends (what payload : String) {s : Sales} (hs : Idle S c s) :
    wp (Sales.note b mint) (decodeSwapTransaction what payload) (Ends S c fun _ => Idle S c) s := by
  apply wp_ask
  intro (decoded : Except SwapDecodeError Unit)
  have ht := kept_idle b mint s (.decodeSwapTransaction payload) decoded rfl hs
  cases decoded with
  | error e => exact ⟨rfl, ht⟩
  | ok u => exact ht

theorem jupiterExecuteV2Order_ends {build : JupiterSwapBuild} (requestId : String)
    (hraw : build.request.Sells mint raw) (hS : S raw) {s : Sales} (hs : Idle S c s) :
    wp (Sales.note b mint) (jupiterExecuteV2Order build requestId)
      (Ends S c fun _ => Underway S c raw) s := by
  apply wp_bind (decodeSwapTransaction_ends _ _ hs)
  · intro u s hs
    apply wp_ask
    intro (signed : Except String Unit)
    have ht := kept_idle b mint s
      (.signSwapTransaction "Jupiter order sign" build.swapTransactionB64) signed rfl hs
    cases signed with
    | error e => exact ⟨rfl, ht⟩
    | ok signed =>
      apply wp_ask
      intro (sent : Sent HttpReply)
      have hu : Underway S c raw (Sales.note b mint _ ⟨.jupiterExecute requestId
          (.swap build.request build.swapTransactionB64 none), sent⟩) :=
        ht.submit rfl (hraw.tokensOut _ _) hS
      cases hresp : jupiterHttpJson "execute" sent.reply with
      | error e =>
        have hfail : executeFails sent.reply = true := by simp [executeFails, hresp]
        exact ⟨hfail, hu.failed hfail⟩
      | ok resp =>
        show wp _ (if ((resp "status").bind JsonValue.asStr).getD "" = "Success" then _ else _) _ _
        split
        · next hstatus =>
          cases hsig : (resp "signature").bind JsonValue.asStr with
          | none =>
            have hfail : executeFails sent.reply = true := by simp [executeFails, hresp, hsig]
            exact ⟨hfail, hu.failed hfail⟩
          | some sigStr =>
            apply wp_ask
            intro (parsed : Except String Signature)
            have hv := kept_underway b mint _ (.parseSignature sigStr) parsed rfl hu
            cases parsed with
            | error e => exact ⟨rfl, hv.failed rfl⟩
            | ok sig => exact hv
        · next hstatus =>
          have hfail : executeFails sent.reply = true := by simp [executeFails, hresp, hstatus]
          exact ⟨hfail, hu.failed hfail⟩
  · intro e t ht
    exact ht

theorem jupiterSendSwapBuild_ends {build : JupiterSwapBuild}
    (hraw : build.request.Sells mint raw) (hS : S raw) {s : Sales} (hs : Idle S c s) :
    wp (Sales.note b mint) (jupiterSendSwapBuild b build) (Ends S c fun _ => Underway S c raw)
      s := by
  unfold jupiterSendSwapBuild
  split
  · exact jupiterExecuteV2Order_ends _ hraw hS hs
  · apply wp_bind (decodeSwapTransaction_ends _ _ hs)
    · intro u t ht
      exact sendVersionedJupiterWithRetries_ends (by decide) hraw hS ht
    · intro e t ht
      exact ht

theorem jupiterSubmitChunk_ends {sale : Sale} (hsale : sale.mint = mint)
    {build : JupiterSwapBuild} (slippageBps : ℕ)
    (hraw : build.request.Sells mint raw) (hS : S raw) {s : Sales} (hs : Idle S c s) :
    wp (Sales.note b mint) (jupiterSubmitChunk b sale raw slippageBps build)
      (Ends S c fun _ => Underway S c raw) s := by
  subst hsale
  apply wp_inspect (jupiterSendSwapBuild_ends hraw hS hs)
  intro answer t ht
  cases answer with
  | error e =>
    dsimp only
    split
    · -- after a 6005: another build, and another submission of the same amount
      apply wp_bind (jupiterRetryBuildAfterPump6005_ends raw slippageBps _ ht.2)
      · intro build' u ⟨hraw', hu⟩
        apply wp_bind (jupiterSendSwapBuild_ends hraw' hS hu)
        · intro sig v hv
          exact hv
        · intro e v hv
          exact hv
      · intro e u hu
        exact hu
    · exact ht
  | ok sig => exact ht

/-! ## Chunks -/

/-- A value, and the calm is kept: what the last questions of a sell promise. -/
def StaysCalm {α : Type} (S : ℕ → Prop) (c : ℕ) (r : Except BrokerError α) (t : Sales) : Prop :=
  (∃ a, r = .ok a) ∧ Calm S c t

/-- A part that stays calm, then the rest. -/
theorem wp_bind_calm {α β : Type} {p : Call α} {s : Sales}
    (hp : wp (Sales.note b mint) p (StaysCalm S c) s) {f : α → Call β}
    {R : Except BrokerError β → Sales → Prop}
    (rest : ∀ a t, Calm S c t → wp (Sales.note b mint) (f a) R t) :
    wp (Sales.note b mint) (p >>= f) R s := by
  apply wp_bind hp
  · intro a t ⟨_, ht⟩
    exact rest a t ht
  · intro e t ⟨⟨a, ha⟩, _⟩
    cases ha

theorem walletNetSolOrFallback_calm (sig : Signature) (fallbackSol : ℚ) {s : Sales}
    (hs : Calm S c s) :
    wp (Sales.note b mint) (walletNetSolOrFallback sig fallbackSol) (StaysCalm S c) s := by
  apply wp_ask
  intro (net : Except String ℚ)
  have ht : Calm S c (s.note b mint ⟨.walletNetSol sig, net⟩) :=
    hs.note (q := .walletNetSol sig) trivial net
  cases net <;> exact ⟨⟨_, rfl⟩, ht⟩

theorem quiet_fetchTokenAccountRaw (ata : Address) :
    Asks (Query.Quiet mint) (fetchTokenAccountRaw ata) :=
  asks_fetchTokenAccountRaw trivial

@[simp] theorem tokensOut_computeBudgetPrelude :
    ((computeBudgetPrelude b).map (Instruction.tokensOut mint)).sum = 0 := by
  unfold computeBudgetPrelude
  split <;> split <;> rfl

@[simp] theorem tokensOut_closeAccountIx (sale : Sale) :
    (closeAccountIx b sale).tokensOut mint = 0 := rfl

/-- Closing the account takes nothing out of it. -/
theorem quiet_sendClose (sale : Sale) :
    Asks (Query.Quiet mint) (sendWithRetries b
      (computeBudgetPrelude b ++ [closeAccountIx b sale]) closeAtaLabel) := by
  apply asks_sendWithRetries
  · rfl
  · intro blockhash
    exact ⟨rfl, by simp [Transaction.tokensOut]⟩
  · intro sig
    rfl
  · rfl

theorem closeEmptyAta_calm {sale : Sale} {s : Sales} (hs : Calm S c s) :
    wp (Sales.note b mint) (closeEmptyAta b sale) (StaysCalm S c) s := by
  apply wp_inspect (wp_quiet (quiet_fetchTokenAccountRaw sale.ata) hs)
  intro r t ht
  split
  · apply wp_inspect (wp_quiet (quiet_sendClose sale) ht)
    intro answer u hu
    cases answer with
    | error e => exact ⟨⟨_, rfl⟩, hu⟩
    | ok sig =>
      apply wp_bind_calm (walletNetSolOrFallback_calm sig 0 hu)
      intro delta v hv
      exact ⟨⟨_, rfl⟩, hv⟩
  · exact ⟨⟨_, rfl⟩, ht⟩

theorem jupiterSellChunkOnce_ends {sale : Sale} (hsale : sale.mint = mint)
    (hata : b.IsAta mint sale.ata) (preSellRaw : ℕ) (hS : S raw) (closeAtaAfter : Bool)
    (slippageBps : ℕ) (allowPumpV1Only : Bool) {s : Sales} (hs : Idle S c s) :
    wp (Sales.note b mint)
      (jupiterSellChunkOnce b sale preSellRaw raw closeAtaAfter slippageBps allowPumpV1Only)
      (Ends S c fun _ => Calm S (c + raw)) s := by
  subst hsale
  apply wp_bind (P := Ends S c fun build t => build.request.Sells sale.mint raw ∧ Idle S c t)
  · cases allowPumpV1Only with
    | false => exact jupiterQuoteSwapBuildPostGraduation_ends raw slippageBps hs
    | true => exact jupiterBuildSwapExactIn_ends raw slippageBps _ hs
  · intro build t ⟨hraw, ht⟩
    apply wp_bind (jupiterSubmitChunk_ends rfl slippageBps hraw hS ht)
    · intro ⟨build, sig⟩ u hu
      apply wp_bind (pollAtaConfirmsSell_ends hata preSellRaw raw false sale.mint 90 hu)
      · intro _ v hv
        apply wp_bind_calm (walletNetSolOrFallback_calm sig _ hv)
        intro solActual w hw
        apply wp_bind_calm (S := S) (c := c + raw)
        · cases closeAtaAfter with
          | false => exact ⟨⟨_, rfl⟩, hw⟩
          | true => exact closeEmptyAta_calm hw
        · intro close x hx
          apply wp_ask
          intro (_ : Unit)
          exact hx.note (q := .addBalance _) trivial ()
      · intro e v hv
        exact hv
    · intro e u hu
      exact hu
  · intro e t ht
    exact ht

theorem jupiterSellOverSteps_ends {once : ℕ → Bool → Call SellReceipt}
    (honce : ∀ slippageBps allow s, Idle S c s →
      wp (Sales.note b mint) (once slippageBps allow) (Ends S c fun _ => Calm S (c + raw)) s)
    (maxSlip : ℕ) (steps : List ℕ) {s : Sales} (hs : Idle S c s) :
    wp (Sales.note b mint) (jupiterSellOverSteps once maxSlip steps)
      (Ends S c fun _ => Calm S (c + raw)) s := by
  induction steps generalizing s with
  | nil => exact honce maxSlip true s hs
  | cons slipBps rest ih =>
    apply wp_inspect (honce slipBps false s hs)
    intro answer t ht
    cases answer with
    | error e =>
      dsimp only
      split
      · exact ih ht.2
      · exact ht
    | ok r => exact ht

theorem jupiterSellChunk_ends {sale : Sale} (hsale : sale.mint = mint)
    (hata : b.IsAta mint sale.ata) (preSellRaw : ℕ) (hraw : 0 < raw) (hS : S raw)
    (closeAtaAfter : Bool) (slippageBps : ℕ) {s : Sales} (hs : Idle S c s) :
    wp (Sales.note b mint) (jupiterSellChunk b sale preSellRaw raw closeAtaAfter slippageBps)
      (Ends S c fun _ => Calm S (c + raw)) s := by
  rw [jupiterSellChunk, if_neg (Nat.pos_iff_ne_zero.mp hraw)]
  apply jupiterSellOverSteps_ends _ _ _ hs
  intro slippageBps allow s hs
  exact jupiterSellChunkOnce_ends hsale hata preSellRaw hS closeAtaAfter slippageBps allow hs

/-- A list of positive chunks: an error means that the last of them has not left. -/
theorem jupiterSellChunks_ends {sale : Sale} (hsale : sale.mint = mint)
    (hata : b.IsAta mint sale.ata) (doCloseAta : Bool) (rest : List ℕ)
    (hchunks : ∀ r ∈ raw :: rest, 0 < r ∧ S r) (preRaw : ℕ) (total : SellReceipt) {s : Sales}
    (hs : Idle S c s) :
    wp (Sales.note b mint) (jupiterSellChunks b sale doCloseAta (raw :: rest) preRaw total)
      (Ends S (c + (raw :: rest).dropLast.sum) fun _ => Calm S (c + (raw :: rest).sum)) s := by
  induction rest generalizing raw c preRaw total s with
  | nil =>
    obtain ⟨hraw, hS⟩ := hchunks raw (List.mem_cons_self ..)
    apply wp_bind (jupiterSellChunk_ends hsale hata preRaw hraw hS _ _ hs)
    · intro r t ht
      exact ht
    · intro e t ht
      exact ht
  | cons next rest ih =>
    obtain ⟨hraw, hS⟩ := hchunks raw (List.mem_cons_self ..)
    apply wp_bind (jupiterSellChunk_ends hsale hata preRaw hraw hS _ _ hs)
    · intro r t ht
      rw [List.dropLast_cons_cons, List.sum_cons, List.sum_cons, ← Nat.add_assoc, ← Nat.add_assoc]
      exact ih (fun r hmem => hchunks r (List.mem_cons_of_mem _ hmem)) _ _ ht.1
    · intro e t ht
      exact Ends.mono (Nat.le_add_right _ _) ht

/-! ## The chunks of an amount -/

theorem jupiterChunkAmounts_one {total : ℕ} (h : 0 < total) :
    jupiterChunkAmounts total 1 = [total] := by
  rw [jupiterChunkAmounts, if_neg (by omega), if_pos (.inl le_rfl)]

/-- A quarter and the rest of four quarters, when the amount is split. -/
theorem jupiterChunkAmounts_four {total : ℕ} (h : 200_000 ≤ total) :
    jupiterChunkAmounts total 4 = [total / 4, total / 4, total / 4, total - total / 4 * 3] := by
  rw [jupiterChunkAmounts, if_neg (by omega), if_neg (by omega)]
  rfl

theorem jupiterChunkAmounts_small {total : ℕ} (h₀ : 0 < total) (h : total < 200_000) :
    jupiterChunkAmounts total 4 = [total] := by
  rw [jupiterChunkAmounts, if_neg (by omega), if_pos (.inr (by omega))]

/-- The raw amounts that the Jupiter route can submit for a total. -/
def LegAmount (total raw : ℕ) : Prop :=
  raw = total ∨ (200_000 ≤ total ∧ (raw = total / 4 ∨ raw = total - total / 4 * 3))

theorem legAmount_self {total : ℕ} (h : 0 < total) :
    ∀ r ∈ [total], 0 < r ∧ LegAmount total r := by
  intro r hr
  rw [List.mem_singleton.mp hr]
  exact ⟨h, .inl rfl⟩

theorem legAmount_chunks {total raw : ℕ} (h : 0 < total)
    (hraw : raw ∈ jupiterChunkAmounts total 4) : LegAmount total raw := by
  by_cases hbig : 200_000 ≤ total
  · rw [jupiterChunkAmounts_four hbig] at hraw
    simp only [List.mem_cons, List.not_mem_nil, or_false] at hraw
    unfold LegAmount
    omega
  · rw [jupiterChunkAmounts_small h (by omega), List.mem_singleton] at hraw
    exact .inl hraw

/-- Four chunks, or one, of the whole amount. -/
theorem jupiterChunkAmounts_parts {total : ℕ} (h : 0 < total) :
    ∃ first rest, jupiterChunkAmounts total 4 = first :: rest ∧ (first :: rest).sum = total ∧
      ∀ r ∈ first :: rest, 0 < r ∧ LegAmount total r := by
  have hsplit : SplitsInto total 4 (jupiterChunkAmounts total 4) :=
    splitsInto_jupiterChunkAmounts h (by norm_num)
  obtain ⟨first, rest, hparts⟩ := List.exists_cons_of_length_pos hsplit.some_chunk
  refine ⟨first, rest, hparts, hparts ▸ hsplit.sum, fun r hr => ?_⟩
  rw [← hparts] at hr
  exact ⟨hsplit.positive r hr, legAmount_chunks h hr⟩

theorem sum_dropLast_le (l : List ℕ) : l.dropLast.sum ≤ l.sum :=
  (List.dropLast_sublist l).sum_le_sum fun _ _ => Nat.zero_le _

/-- **The Jupiter route.** It returns `Ok` only in a calm and fails only with a failure; what
leaves the account are whole amounts and chunks; and unless a landing is stray, no more than the
amount leaves. -/
theorem sellTokensPostGraduation_ends {sale : Sale} (hsale : sale.mint = mint)
    (hata : b.IsAta mint sale.ata) (preSellRaw : ℕ) {soldRaw : ℕ} (hsold : 0 < soldRaw)
    (hS : ∀ r, LegAmount soldRaw r → S r) (doCloseAta : Bool) {s : Sales} (hs : Idle S c s) :
    wp (Sales.note b mint) (sellTokensPostGraduation b sale preSellRaw soldRaw doCloseAta)
      (Ends S (c + soldRaw) fun _ => Calm S (c + soldRaw)) s := by
  obtain ⟨first, rest, hparts, hsum, hchunks⟩ := jupiterChunkAmounts_parts hsold
  have hS' {l : List ℕ} (hl : ∀ r ∈ l, 0 < r ∧ LegAmount soldRaw r) : ∀ r ∈ l, 0 < r ∧ S r :=
    fun r hr => ⟨(hl r hr).1, hS r (hl r hr).2⟩
  unfold sellTokensPostGraduation
  -- one part: an error means that nothing has left
  rw [jupiterSellInParts, jupiterChunkAmounts_one hsold]
  apply wp_inspect (jupiterSellChunks_ends hsale hata doCloseAta [] (hS' (legAmount_self hsold))
    preSellRaw _ hs)
  intro answer t ht
  cases answer with
  | error e =>
    -- four parts
    dsimp only
    rw [jupiterSellInParts, hparts]
    apply wp_inspect (jupiterSellChunks_ends hsale hata doCloseAta rest (hS' hchunks)
      preSellRaw _ ht.2)
    have hle := sum_dropLast_le (first :: rest)
    intro answer u hu
    cases answer with
    | error e => exact Ends.mono (r := .error e) (by simp; omega) hu
    | ok r =>
      rw [hsum] at hu
      exact hu
  | ok r =>
    rw [List.sum_singleton] at ht
    exact ht

end

/-! ## How much leaves the account -/

theorem isAta_saleOf (b : SolanaBroker) (mint : Address) (mintToken : MintTokenKind) (slip : ℚ) :
    b.IsAta mint (b.saleOf mint mintToken slip).ata := by
  cases mintToken with
  | legacySpl => exact .inl rfl
  | token2022 => exact .inr rfl

theorem idle_start {S : ℕ → Prop} : Idle S 0 Sales.start := ⟨by simp [Sales.start], fun _ => le_rfl⟩

/-- A landing is stray in a call: a failure was answered before the next submission. -/
def straySale (b : SolanaBroker) (mint : Address) (h : Record) : Bool := (Sales.of b mint h).strayed

/-- What leaves the account in a run of the Jupiter route are whole amounts and chunks; and unless
a landing is stray, no more than the amount. -/
theorem sellTokensPostGraduation_run (b : SolanaBroker) (mint : Address)
    (mintToken : MintTokenKind) (slip : ℚ) (preSellRaw soldRaw : ℕ) (doCloseAta : Bool)
    (E : World) {r : Except BrokerError SellReceipt} {h : Record}
    (hrun : exec E (sellTokensPostGraduation b (b.saleOf mint mintToken slip) preSellRaw soldRaw
      doCloseAta) = (r, h)) :
    (∀ a ∈ soldAmounts mint h, LegAmount soldRaw a) ∧
      (straySale b mint h = false → rawSold mint h ≤ soldRaw) := by
  by_cases hsold : 0 < soldRaw
  · have hends := wp_exec E (sellTokensPostGraduation_ends (b := b) rfl
      (isAta_saleOf b mint mintToken slip) preSellRaw hsold (fun _ h => h) doCloseAta
      (idle_start (S := LegAmount soldRaw)))
    rw [hrun, Nat.zero_add] at hends
    have hidle : Idle (LegAmount soldRaw) soldRaw (Sales.of b mint h) := by
      cases r with
      | error e => exact hends.2
      | ok receipt => exact hends.1
    rw [rawSold, ← Sales.of_amounts b]
    exact ⟨hidle.amounts, hidle.within⟩
  · -- nothing is asked for an amount of zero
    have hzero : soldRaw = 0 := by omega
    subst hzero
    have hnil : h = [] := (Prod.mk.inj hrun).2.symm
    subst hnil
    exact ⟨fun a ha => absurd ha (List.not_mem_nil), fun _ => le_rfl⟩

/-- A list of quarters: `c` of its members are the last quarter, which is longer by `r - k`. -/
theorem sum_quarters {k r : ℕ} (hkr : k ≤ r) (l : List ℕ) (hl : ∀ a ∈ l, a = k ∨ a = r) :
    l.sum = l.length * k + l.count r * (r - k) := by
  induction l with
  | nil => simp
  | cons a l ih =>
    rw [List.sum_cons, ih fun x hx => hl x (List.mem_cons_of_mem _ hx), List.length_cons,
      List.count_cons]
    rcases hl a (List.mem_cons_self ..) with rfl | rfl
    · by_cases hr : a = r
      · subst hr
        simp [Nat.add_mul, Nat.add_comm]
      · simp [hr, Nat.add_mul]
        omega
    · simp only [beq_self_eq_true, if_true, Nat.add_mul, one_mul]
      omega

/-- The landings sell at most the amount asked for: none; the whole amount once and nothing else;
or quarters only, at most four, of which only one is the longer last quarter if there are four. -/
def NoOversell (soldRaw : ℕ) (amounts : List ℕ) : Prop :=
  amounts = [] ∨ amounts = [soldRaw] ∨
    (soldRaw ∉ amounts ∧ (amounts.length ≤ 3 ∨
      (amounts.length = 4 ∧ (4 ∣ soldRaw ∨ amounts.count (soldRaw - soldRaw / 4 * 3) ≤ 1))))

theorem sum_le_iff_noOversell {soldRaw : ℕ} {amounts : List ℕ}
    (hlegs : ∀ a ∈ amounts, LegAmount soldRaw a) (hpos : ∀ a ∈ amounts, 0 < a) :
    amounts.sum ≤ soldRaw ↔ NoOversell soldRaw amounts := by
  by_cases hmem : soldRaw ∈ amounts
  · -- the whole amount landed: nothing else may
    obtain ⟨l₁, l₂, rfl⟩ := List.append_of_mem hmem
    have hsum : (l₁ ++ soldRaw :: l₂).sum = soldRaw + (l₁.sum + l₂.sum) := by
      simp
      omega
    have hnil (l : List ℕ) (hl : ∀ a ∈ l, 0 < a) (h0 : l.sum = 0) : l = [] := by
      cases l with
      | nil => rfl
      | cons a l =>
        have := hl a (List.mem_cons_self ..)
        rw [List.sum_cons] at h0
        omega
    constructor
    · intro hle
      have h₁ := hnil l₁ (fun a ha => hpos a (by simp [ha])) (by omega)
      have h₂ := hnil l₂ (fun a ha => hpos a (by simp [ha])) (by omega)
      subst h₁ h₂
      exact .inr (.inl rfl)
    · rintro (h | h | ⟨h, -⟩)
      · simp at h
      · rw [h]
        simp
      · exact absurd hmem h
  · by_cases hne : amounts = []
    · subst hne
      simp [NoOversell]
    · -- only quarters landed
      have hquarters : ∀ a ∈ amounts, a = soldRaw / 4 ∨ a = soldRaw - soldRaw / 4 * 3 := by
        intro a ha
        rcases hlegs a ha with rfl | ⟨-, h⟩
        · exact absurd ha hmem
        · exact h
      obtain ⟨a, ha⟩ := List.exists_mem_of_ne_nil _ hne
      have hbig : 200_000 ≤ soldRaw := by
        rcases hlegs a ha with rfl | ⟨h, -⟩
        · exact absurd ha hmem
        · exact h
      have hsum := sum_quarters (k := soldRaw / 4) (r := soldRaw - soldRaw / 4 * 3) (by omega)
        amounts hquarters
      have hcount := List.count_le_length (a := soldRaw - soldRaw / 4 * 3) (l := amounts)
      have hsingle : amounts ≠ [soldRaw] := by
        rintro rfl
        exact hmem (List.mem_singleton_self _)
      have hdvd : 4 ∣ soldRaw ↔ soldRaw - soldRaw / 4 * 3 - soldRaw / 4 = 0 := by omega
      simp only [NoOversell, hne, hsingle, hmem, not_false_eq_true, true_and, false_or, hsum, hdvd]
      generalize hk : soldRaw / 4 = k at *
      generalize hm : soldRaw - k * 3 - k = m at *
      generalize amounts.count (soldRaw - k * 3) = c at *
      generalize amounts.length = n at *
      have hm3 : m ≤ 3 := by omega
      rcases Nat.lt_or_ge n 4 with hn | hn
      · have h₁ : n * k ≤ 3 * k := Nat.mul_le_mul_right k (by omega)
        have h₂ : c * m ≤ 3 * 3 := Nat.mul_le_mul (by omega) hm3
        constructor
        · intro _
          exact .inl (by omega)
        · intro _
          omega
      · rcases Nat.lt_or_ge 4 n with hn5 | hn4
        · have h₁ : 5 * k ≤ n * k := Nat.mul_le_mul_right k (by omega)
          constructor <;> omega
        · have hn' : n = 4 := by omega
          subst hn'
          have : c * m ≤ m ↔ m = 0 ∨ c ≤ 1 := by
            constructor
            · intro h
              by_contra hcon
              have : 2 * m ≤ c * m := Nat.mul_le_mul_right m (by omega)
              omega
            · rintro (rfl | h)
              · simp
              · calc c * m ≤ 1 * m := Nat.mul_le_mul_right m h
                  _ = m := one_mul m
          rw [← this]
          omega

/-- **When a partial sell takes at most what was asked for.** Exactly when no landing is stray, or
what lands fits all the same: nothing, or the whole amount and nothing else, or quarters only that
fit in it. -/
theorem rawSold_le_iff (b : SolanaBroker) (mint : Address) (mintToken : MintTokenKind) (slip : ℚ)
    (preSellRaw soldRaw : ℕ) (E : World) :
    rawSold mint (exec E (sellTokensPostGraduation b (b.saleOf mint mintToken slip) preSellRaw
        soldRaw false)).2 ≤ soldRaw ↔
      straySale b mint (exec E (sellTokensPostGraduation b (b.saleOf mint mintToken slip)
        preSellRaw soldRaw false)).2 = false ∨
      NoOversell soldRaw (soldAmounts mint (exec E (sellTokensPostGraduation b
        (b.saleOf mint mintToken slip) preSellRaw soldRaw false)).2) := by
  obtain ⟨hlegs, hstray⟩ :=
    sellTokensPostGraduation_run b mint mintToken slip preSellRaw soldRaw false E rfl
  have hiff := sum_le_iff_noOversell hlegs fun a ha => by simpa using (List.mem_filter.mp ha).2
  constructor
  · intro hle
    exact .inr (hiff.mp hle)
  · rintro (h | h)
    · exact hstray h
    · exact hiff.mpr h

/-- Every submission lands and is reported successful, and the token account cannot be read. -/
def unreadableWorld : World :=
  Script.world {
    account := fun _ => accountsOf openCurve
    tokens := fun _ => .error "429 Too Many Requests"
    send := fun h => ⟨.ok (if submissions h = 0 then "A" else "B"), true⟩
    status := fun _ => executed }

/-- **A sell that takes twice the amount.** The first transaction lands and is confirmed, but the
account cannot be read until the poll runs out, so the whole amount is sold a second time. -/
theorem partialSell_oversells :
    ¬ rawSold 7 (exec unreadableWorld (sellTokensPostGraduation defaultBroker
      (defaultBroker.saleOf 7 .legacySpl 0) 1000 100 false)).2 ≤ 100 := by
  decide

end Loggaper
