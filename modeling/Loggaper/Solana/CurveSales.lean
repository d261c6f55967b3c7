import Loggaper.Solana.JupiterSales

/-!
# Sells on the curve, and what `sell` reports

The first leg, the drain of a clamped full exit, and `sell` as a whole. A sell that submits
anything returns `Ok` exactly when its last answer is no failure, and then it has read the token
account after its last landing.

- `sell_sold`: what `sell` reports.
- `failedSell_keepsBalance_iff`: when an `Err` means that nothing was sold.
-/

namespace Loggaper

open Attempt

/-- No condition on the amounts. -/
abbrev AnyAmount : ℕ → Prop := fun _ => True

/-- Nothing was submitted, and nothing left the account. -/
def Untouched (s : Sales) : Prop := s.submitted = 0 ∧ s.amounts = []

/-- A value comes with `φ`, an error with a failure. -/
def Reports {α : Type} (φ : Sales → Prop) : Except BrokerError α → Sales → Prop
  | .ok _, s => φ s
  | .error _, s => s.failing = true

/-- The outcome of `sell`: a value at rest, an error with a failure or before any submission. -/
def Sold {α : Type} : Except BrokerError α → Sales → Prop
  | .ok _, s => AtRest s
  | .error _, s => s.failing = true ∨ Untouched s

section
variable {b : SolanaBroker} {mint : Address} {S : ℕ → Prop} {c : ℕ}

/-- Every state is within the budget of what has left. -/
theorem idle_any (s : Sales) : Idle AnyAmount s.amounts.sum s :=
  ⟨fun _ _ => trivial, fun _ => le_rfl⟩

theorem kept_untouched (b : SolanaBroker) (mint : Address) : Kept b mint Untouched := by
  intro s q a hq hs
  rw [note_not_submitted s hq]
  exact hs

/-- A part that only reads, before the first submission: its error is the sell's. -/
theorem sold_of_reads {α β : Type} {p : Call α} (hp : Asks Query.Reads p) {f : α → Call β}
    {s : Sales} (hs : Untouched s)
    (rest : ∀ a t, Untouched t → wp (Sales.note b mint) (f a) Sold t) :
    wp (Sales.note b mint) (p >>= f) Sold s := by
  apply wp_bind (wp_kept (kept_untouched b mint) hp hs)
  · intro a t ht
    exact rest a t ht
  · intro e t ht
    exact .inr ht

theorem Ends.reports {α : Type} {φ : α → Sales → Prop} {ψ : Sales → Prop}
    (hφ : ∀ a s, φ a s → ψ s) {r : Except BrokerError α} {s : Sales} (h : Ends S c φ r s) :
    Reports ψ r s := by
  cases r with
  | ok a => exact hφ a s h
  | error e => exact h.1

theorem Reports.sold {α : Type} {r : Except BrokerError α} {s : Sales}
    (h : Reports AtRest r s) : Sold r s := by
  cases r with
  | ok a => exact h
  | error e => exact .inl h

/-- A part that reports, then the rest. -/
theorem wp_bind_reports {α β : Type} {φ ψ : Sales → Prop} {p : Call α} {s : Sales}
    (hp : wp (Sales.note b mint) p (Reports φ) s) {f : α → Call β}
    (rest : ∀ a t, φ t → wp (Sales.note b mint) (f a) (Reports ψ) t) :
    wp (Sales.note b mint) (p >>= f) (Reports ψ) s := by
  apply wp_bind hp
  · intro a t ht
    exact rest a t ht
  · intro e t ht
    exact ht

/-! ## The parts, without their books -/

theorem sellTokensPostGraduation_reports {sale : Sale} (hsale : sale.mint = mint)
    (hata : b.IsAta mint sale.ata) (preSellRaw : ℕ) {soldRaw : ℕ} (hsold : soldRaw ≠ 0)
    (doCloseAta : Bool) (s : Sales) :
    wp (Sales.note b mint) (sellTokensPostGraduation b sale preSellRaw soldRaw doCloseAta)
      (Reports AtRest) s := by
  apply wp_mono (fun r t => Ends.reports fun _ s (h : Calm AnyAmount _ s) => h.2)
  exact sellTokensPostGraduation_ends hsale hata preSellRaw (Nat.pos_of_ne_zero hsold)
    (fun _ _ => trivial) doCloseAta (idle_any s)

/-- A transaction is on its way. -/
def Sending (s : Sales) : Prop := ∃ c raw, Underway AnyAmount c raw s

theorem sendWithRetries_reports (ixs : List Instruction) {label : String}
    (hlabel : label ≠ closeAtaLabel) (s : Sales) :
    wp (Sales.note b mint) (sendWithRetries b ixs label) (Reports Sending) s := by
  apply wp_mono (fun r t => Ends.reports fun _ _ h => ⟨_, _, h⟩)
  exact sendWithRetries_ends hlabel rfl trivial (idle_any s)

theorem pollAtaConfirmsSell_reports {ata : Address} (hata : b.IsAta mint ata)
    (preRaw soldRaw : ℕ) (expectAtaClosed : Bool) (mint' : Address) (timeoutSecs : ℕ) {s : Sales}
    (hs : Sending s) :
    wp (Sales.note b mint)
      (pollAtaConfirmsSell ata preRaw soldRaw expectAtaClosed mint' timeoutSecs)
      (Reports AtRest) s := by
  obtain ⟨c, raw, hs⟩ := hs
  apply wp_mono (fun r t => Ends.reports fun _ s (h : Calm AnyAmount _ s) => h.2)
  exact pollAtaConfirmsSell_ends hata preRaw soldRaw expectAtaClosed mint' timeoutSecs hs

theorem walletNetSolOrFallback_reports (sig : Signature) (fallbackSol : ℚ) {s : Sales}
    (hs : AtRest s) :
    wp (Sales.note b mint) (walletNetSolOrFallback sig fallbackSol) (Reports AtRest) s := by
  apply wp_mono _ (walletNetSolOrFallback_calm sig fallbackSol ⟨idle_any s, hs⟩)
  rintro r t ⟨⟨a, rfl⟩, -, ht⟩
  exact ht

/-! ## The drain -/

theorem drainLabel_ne (leg : ℕ) : s!"SELL-DRAIN-{leg}" ≠ closeAtaLabel := by
  intro h
  have hlen := congrArg String.length h
  have : (11 : ℕ) ≤ (s!"SELL-DRAIN-{leg}").length := by
    show 11 ≤ (("" ++ "SELL-DRAIN-" ++ toString leg : String)).length
    rw [String.length_append]
    exact Nat.le_add_right 11 _
  rw [hlen] at this
  exact absurd this (by decide)

/-- Something was submitted. -/
abbrev Submitted (s : Sales) : Prop := 1 ≤ s.submitted

/-- A reading that takes a failure for zero, then the rest. -/
theorem wp_bind_reading {β : Type} (ata : Address) {f : ℕ → Call β} {ψ : Sales → Prop} {s : Sales}
    (hs : Submitted s)
    (rest : ∀ raw t, Submitted t → (raw ≠ 0 → AtRest t) →
      wp (Sales.note b mint) (f raw) (Reports ψ) t) :
    wp (Sales.note b mint) (fetchTokenAccountRawOrZero ata >>= f) (Reports ψ) s := by
  apply wp_bind (fetchTokenAccountRawOrZero_shows (kept_submitted b mint 1) ata hs)
  · intro raw t ⟨ht, raw', hraw, hshows⟩
    cases hraw
    exact rest raw t ht fun h => (hshows h).atRest ht
  · intro e t ⟨_, raw, hraw, _⟩
    cases hraw

/-- The rest of a drain through Jupiter. -/
theorem drainThroughJupiter_reports {sale : Sale} (hsale : sale.mint = mint)
    (hata : b.IsAta mint sale.ata) {preRaw : ℕ} (hpre : preRaw ≠ 0) (total : SellReceipt)
    (s : Sales) :
    wp (Sales.note b mint) (do
      let jup ← sellTokensPostGraduation b sale preRaw preRaw true
      pure (total.add jup)) (Reports Submitted) s := by
  apply wp_bind_reports (sellTokensPostGraduation_reports hsale hata preRaw hpre true s)
  intro jup t ht
  exact ht.submitted

/-- The legs end in a failure, or anywhere. -/
theorem drainLegs_reports {sale : Sale} (hsale : sale.mint = mint) (hata : b.IsAta mint sale.ata)
    (pool : PoolView) (left : ℕ) (total : SellReceipt) {s : Sales} (hs : Submitted s) :
    wp (Sales.note b mint) (drainLegs b sale pool left total) (Reports Submitted) s := by
  induction left generalizing total s with
  | zero => exact hs
  | succ left ih =>
    apply wp_bind_reading sale.ata hs
    intro preRaw s hs _
    dsimp only
    split
    · exact hs
    · next hpre =>
      apply wp_inspect (wp_kept (kept_submitted b mint 1)
        (reads_fetchBondingCurveState b sale.mint) hs)
      intro answer s hs
      cases answer with
      | error e => exact hs
      | ok curve =>
        dsimp only
        split
        · exact drainThroughJupiter_reports hsale hata hpre total s
        · split
          · exact hs
          · apply wp_inspect (sendWithRetries_reports _ (drainLabel_ne _) s)
            intro answer s hs
            cases answer with
            | error e =>
              dsimp only
              split
              · exact drainThroughJupiter_reports hsale hata hpre total s
              · exact hs
            | ok sig =>
              apply wp_bind_reports (pollAtaConfirmsSell_reports hata _ _ false sale.mint 45 hs)
              intro _ s hs
              apply wp_bind_reports (walletNetSolOrFallback_reports sig _ hs)
              intro legActual s hs
              split
              · apply wp_bind_reading sale.ata hs.submitted
                intro after s hs _
                split
                · exact hs
                · exact ih _ hs
              · exact ih _ hs.submitted

theorem drainPumpAtaAfterClampedFullExit_reports {sale : Sale} (hsale : sale.mint = mint)
    (hata : b.IsAta mint sale.ata) (pool : PoolView) (sig : Signature) {s : Sales}
    (hs : Submitted s) :
    wp (Sales.note b mint) (drainPumpAtaAfterClampedFullExit b sale pool sig)
      (Reports AtRest) s := by
  apply wp_bind_reports (drainLegs_reports hsale hata pool maxDrainLegs _ hs)
  intro total s hs
  apply wp_bind_reading sale.ata hs
  intro rem s hs hrest
  split
  · apply wp_bind_reports (sendWithRetries_reports _ (by decide) s)
    intro csig s hs
    apply wp_bind_reports (pollAtaConfirmsSell_reports hata 0 1 true sale.mint 30 hs)
    intro _ s hs
    apply wp_bind_reports (walletNetSolOrFallback_reports csig 0 hs)
    intro closeActual s hs
    exact hs
  · next hrem => exact hrest hrem

/-! ## `sell` -/

theorem sellOnCurve_sold {sale : Sale} (hsale : sale.mint = mint) (hata : b.IsAta mint sale.ata)
    (pool : PoolView) (curve : Option BondingCurveState) (tokenAmountRaw : ℕ)
    (sellWasClamped closeAccountAfter : Bool) {s : Sales} (hs : Untouched s) :
    wp (Sales.note b mint)
      (sellOnCurve b sale pool curve tokenAmountRaw sellWasClamped closeAccountAfter) Sold s := by
  unfold sellOnCurve
  dsimp only
  split
  · exact .inr hs
  · apply sold_of_reads (reads_fetchTokenAccountRawOrZero _) hs
    intro preSellRaw s hs
    apply wp_mono (fun r t => Reports.sold)
    apply wp_inspect (sendWithRetries_reports _ (by decide) s)
    intro answer s hs
    cases answer with
    | error e =>
      dsimp only
      split
      · next h => exact sellTokensPostGraduation_reports hsale hata preSellRaw h.2 _ s
      · exact hs
    | ok sig =>
      apply wp_bind_reports (pollAtaConfirmsSell_reports hata _ _ _ sale.mint 45 hs)
      intro _ s hs
      apply wp_bind_reports (walletNetSolOrFallback_reports sig _ hs)
      intro actual s hs
      split
      · apply wp_bind_reports
          (drainPumpAtaAfterClampedFullExit_reports hsale hata pool sig hs.submitted)
        intro drained s hs
        exact hs
      · exact hs

theorem sellAmount_sold {sale : Sale} (hsale : sale.mint = mint) (hata : b.IsAta mint sale.ata)
    (pool : PoolView) (amount : ℚ) (closeAccountAfter : Bool) {s : Sales} (hs : Untouched s) :
    wp (Sales.note b mint) (sellAmount b sale pool amount closeAccountAfter) Sold s := by
  apply sold_of_reads _ hs
  · intro curve s hs
    dsimp only
    split
    · next h =>
      apply sold_of_reads (reads_fetchTokenAccountRawOrZero _) hs
      intro preRaw s hs
      apply wp_mono (fun r t => Reports.sold)
      exact sellTokensPostGraduation_reports hsale hata preRaw (Nat.pos_iff_ne_zero.mp h.2) _ s
    · exact sellOnCurve_sold hsale hata pool curve _ _ closeAccountAfter hs
  · apply asks_bind (asks_inspect (reads_fetchBondingCurveState b sale.mint))
    rintro (e | curve) <;> trivial

theorem reads_actualTokenAmount (sale : Sale) (tokenAmount : ℚ) (closeAccountAfter : Bool) :
    Asks Query.Reads (actualTokenAmount sale tokenAmount closeAccountAfter) := by
  unfold actualTokenAmount
  split
  · apply asks_bind (asks_inspect (reads_fetchTokenAccountRawWithDecimals sale.ata))
    rintro (e | ⟨raw, decimals⟩) <;> trivial
  · split
    · trivial
    · apply asks_bind (asks_question trivial)
      rintro (_ | tokens) <;> trivial

/-- **What `sell` reports.** -/
theorem sell_sold (tokenAmount : ℚ) (pool : PoolView) (closeAccountAfter : Bool) {s : Sales}
    (hs : Untouched s) :
    wp (Sales.note b mint) (sell b mint tokenAmount pool closeAccountAfter) Sold s := by
  apply sold_of_reads (reads_fetchMintTokenKind mint) hs
  intro mintToken s hs
  apply sold_of_reads (reads_actualTokenAmount _ _ _) hs
  intro amount s hs
  split
  · exact .inr hs
  · exact sellAmount_sold rfl (isAta_saleOf b mint mintToken _) pool amount closeAccountAfter hs

end

/-! ## What an `Err` is worth -/

/-- An `Err` means that nothing left the account. -/
def FailedSellKeepsBalance (mint : Address) (run : Except BrokerError SellReceipt × Record) :
    Prop :=
  run.1.toOption = none → rawSold mint run.2 = 0

instance (mint : Address) (run : Except BrokerError SellReceipt × Record) :
    Decidable (FailedSellKeepsBalance mint run) :=
  inferInstanceAs (Decidable (_ → _))

theorem untouched_start : Untouched Sales.start := ⟨rfl, rfl⟩

/-- What `sell` reports, on the record of a run. -/
theorem sold_of_run (b : SolanaBroker) (mint : Address) (tokenAmount : ℚ) (pool : PoolView)
    (closeAccountAfter : Bool) (E : World) :
    Sold (exec E (sell b mint tokenAmount pool closeAccountAfter)).1
      (Sales.of b mint (exec E (sell b mint tokenAmount pool closeAccountAfter)).2) :=
  wp_exec E (sell_sold tokenAmount pool closeAccountAfter untouched_start)

theorem rawSold_eq_zero_iff (mint : Address) (h : Record) :
    rawSold mint h = 0 ↔ soldAmounts mint h = [] := by
  constructor
  · intro h0
    apply List.eq_nil_iff_forall_not_mem.mpr
    intro a ha
    have hpos : 0 < a := by simpa using (List.mem_filter.mp ha).2
    have : a ≤ rawSold mint h := List.le_sum_of_mem ha
    omega
  · intro hnil
    rw [rawSold, hnil, List.sum_nil]

/-- **When a failed sell has sold nothing.** Exactly when no transaction of the call that sells
lands, or the last answer of the call is no failure. -/
theorem failedSell_keepsBalance_iff (b : SolanaBroker) (mint : Address) (tokenAmount : ℚ)
    (pool : PoolView) (closeAccountAfter : Bool) (E : World) :
    FailedSellKeepsBalance mint (exec E (sell b mint tokenAmount pool closeAccountAfter)) ↔
      soldAmounts mint (exec E (sell b mint tokenAmount pool closeAccountAfter)).2 = [] ∨
        endsInFailure (exec E (sell b mint tokenAmount pool closeAccountAfter)).2 = false := by
  have h := sold_of_run b mint tokenAmount pool closeAccountAfter E
  revert h
  generalize exec E (sell b mint tokenAmount pool closeAccountAfter) = run
  obtain ⟨(e | r), rec⟩ := run
  · -- an error: the last answer is a failure, or nothing was submitted
    intro h
    simp only [FailedSellKeepsBalance, Except.toOption, true_imp_iff, rawSold_eq_zero_iff]
    rcases h with h | ⟨-, h⟩
    · rw [Sales.of_failing] at h
      simp [h]
    · rw [Sales.of_amounts] at h
      simp [h]
  · intro (h : AtRest (Sales.of b mint rec))
    have hfail : endsInFailure rec = false := by
      rw [← Sales.of_failing b mint]
      exact h.failing
    simp [FailedSellKeepsBalance, Except.toOption, hfail]

/-- The token account of mint 7 starts with `start`, and the node always shows what is left. -/
def sellWorld (start : ℕ) (account : Record → Address → Except String (Option Account))
    (send : Record → Sent (Except String Signature))
    (status : Record → Except String (Option TransactionStatus)) : World :=
  Script.world {
    account := account
    tokens := fun h => .ok ⟨.ok (start - rawSold 7 h), 6⟩
    send := send
    status := status }

/-- Each submission lands. -/
def landing (h : Record) : Sent (Except String Signature) :=
  ⟨.ok (if submissions h = 0 then "A" else "B"), true⟩

/-- The submission with number `n` lands, the others are rejected. -/
def onlyLands (n : ℕ) (h : Record) : Sent (Except String Signature) :=
  if submissions h = n then ⟨.ok "A", true⟩ else ⟨.error "operation timed out", false⟩

/-- **Sells that fail after money has moved.** The only transaction of a sell on the curve lands,
and the first status poll is not answered. Or the Jupiter route sells in four chunks: the first
lands and is confirmed, and the second is rejected. -/
theorem failedSell_movesMoney :
    ¬ FailedSellKeepsBalance 7 (exec
      (sellWorld 400_000 (fun _ => accountsOf openCurve) landing fun _ => .error "503")
      (sell defaultBroker 7 (1 / 5) ⟨1, 5⟩ false)) ∧
    ¬ FailedSellKeepsBalance 7 (exec
      (sellWorld 400_000 (fun _ => accountsOf (curveAccount 4 7 1 1)) (onlyLands 6)
        fun _ => executed)
      (sell defaultBroker 7 (2 / 5) ⟨1, 5⟩ false)) := by
  decide +kernel

end Loggaper
