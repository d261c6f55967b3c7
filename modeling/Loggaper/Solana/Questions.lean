import Loggaper.Solana.Sell

/-!
# What the parts of a call can ask

Most parts of a purchase or a sell only *read*: they neither submit a transaction nor poll for
its confirmation. An observer that counts transactions does not move over them.
-/

namespace Loggaper

open Attempt

/-- Neither a submission nor a poll for a confirmation. -/
def Query.Reads : Query → Prop
  | .sendTransaction _ _ _ => False
  | .jupiterExecute _ _ => False
  | .getSignatureStatus _ _ => False
  | _ => True

variable (b : SolanaBroker)

theorem asks_fetchTokenAccountRawWithDecimals {φ : Query → Prop} {ata : Address}
    (h : φ (.getTokenAccountBalance ata)) : Asks φ (fetchTokenAccountRawWithDecimals ata) := by
  apply asks_bind (asks_question h)
  intro resp
  apply asks_bind (asks_orThrow _ _)
  intro value
  apply asks_bind (asks_orThrow _ _)
  intro raw
  trivial

theorem asks_fetchTokenAccountRaw {φ : Query → Prop} {ata : Address}
    (h : φ (.getTokenAccountBalance ata)) : Asks φ (fetchTokenAccountRaw ata) := by
  apply asks_bind (asks_fetchTokenAccountRawWithDecimals h)
  intro r
  trivial

theorem asks_fetchTokenAccountRawOrZero {φ : Query → Prop} {ata : Address}
    (h : φ (.getTokenAccountBalance ata)) : Asks φ (fetchTokenAccountRawOrZero ata) := by
  apply asks_bind (asks_inspect (asks_fetchTokenAccountRaw h))
  rintro (e | raw) <;> trivial

theorem reads_fetchTokenAccountRawWithDecimals (ata : Address) :
    Asks Query.Reads (fetchTokenAccountRawWithDecimals ata) :=
  asks_fetchTokenAccountRawWithDecimals trivial

theorem reads_fetchTokenAccountRaw (ata : Address) :
    Asks Query.Reads (fetchTokenAccountRaw ata) :=
  asks_fetchTokenAccountRaw trivial

theorem reads_fetchTokenAccountRawOrZero (ata : Address) :
    Asks Query.Reads (fetchTokenAccountRawOrZero ata) :=
  asks_fetchTokenAccountRawOrZero trivial

theorem asks_untilTimeout {φ : Query → Prop} {α : Type} {label : String} (h : φ (.elapsed label))
    (timeoutMs : ℕ) (timedOut : Elapsed → BrokerError) {again : Option (Call α)}
    (hagain : ∀ p ∈ again, Asks φ p) : Asks φ (untilTimeout label timeoutMs timedOut again) := by
  apply asks_bind (asks_question h)
  intro elapsed
  cases again with
  | none => trivial
  | some rest =>
    show Asks φ (if timeoutMs ≤ elapsed.ms then _ else rest)
    split
    · trivial
    · exact hagain rest rfl

theorem asks_waitUntilSignatureConfirmedOk {φ : Query → Prop} {sig : Signature} {label : String}
    (hstatus : φ (.getSignatureStatus label sig)) (helapsed : φ (.elapsed label)) :
    Asks φ (waitUntilSignatureConfirmedOk sig label) := by
  apply asks_retry
  intro left again hagain
  apply asks_bind (asks_question hstatus)
  intro resp
  apply asks_bind (asks_orThrow _ _)
  rintro (_ | ⟨(_ | err), status⟩)
  · exact asks_untilTimeout helapsed _ _ hagain
  · exact asks_orThrow _ _
  · trivial

theorem asks_sendWithRetries {φ : Query → Prop} {ixs : List Instruction} {label : String}
    (hblockhash : φ (.getLatestBlockhash label))
    (hsend : ∀ blockhash, φ (.sendTransaction label (.signed ixs blockhash)
      b.execCfg.skipPreflight))
    (hstatus : ∀ sig, φ (.getSignatureStatus label sig)) (helapsed : φ (.elapsed label)) :
    Asks φ (sendWithRetries b ixs label) := by
  apply asks_retry
  intro left again hagain
  apply asks_bind (asks_question hblockhash)
  intro answer
  cases answer with
  | error e =>
    cases again with
    | none => trivial
    | some rest => exact hagain rest rfl
  | ok blockhash =>
    apply asks_bind (asks_question (hsend blockhash))
    rintro ⟨(msg | sig), lands⟩
    · cases again with
      | none => trivial
      | some rest => exact hagain rest rfl
    · apply asks_bind (asks_waitUntilSignatureConfirmedOk (hstatus sig) helapsed)
      intro u
      trivial

theorem reads_waitForAccountVisible (address : Address) (label : String) :
    Asks Query.Reads (waitForAccountVisible address label) := by
  apply asks_retry
  intro left again hagain
  apply asks_bind (asks_question trivial)
  rintro (msg | (_ | account))
  · dsimp only
    split
    · trivial
    · exact asks_untilTimeout trivial _ _ hagain
  · exact asks_untilTimeout trivial _ _ hagain
  · trivial

theorem reads_fetchMintTokenKind (mint : Address) :
    Asks Query.Reads (fetchMintTokenKind mint) := by
  apply asks_bind (asks_question trivial)
  intro resp
  apply asks_bind (asks_orThrow _ _)
  rintro (_ | acc)
  · trivial
  · dsimp only
    split_ifs <;> trivial

theorem reads_fetchBondingCurveState (mint : Address) :
    Asks Query.Reads (fetchBondingCurveState b mint) := by
  apply asks_bind (asks_question trivial)
  intro resp
  apply asks_bind (asks_orThrow _ _)
  rintro (_ | account)
  · trivial
  · exact asks_orThrow _ _

theorem reads_walletNetSolOrFallback (sig : Signature) (fallbackSol : ℚ) :
    Asks Query.Reads (walletNetSolOrFallback sig fallbackSol) := by
  apply asks_bind (asks_question trivial)
  rintro (e | v) <;> trivial

theorem reads_pollTokenBalanceIncrease (ata : Address) (preRaw left : ℕ)
    (lastSeen : Option (ℕ × ℕ)) (lastErr : Option String) :
    Asks Query.Reads (pollTokenBalanceIncrease ata preRaw left lastSeen lastErr) := by
  induction left generalizing lastSeen lastErr with
  | zero =>
    rw [pollTokenBalanceIncrease]
    apply asks_bind (asks_inspect (reads_fetchTokenAccountRawWithDecimals ata))
    intro answer
    cases answer with
    | error e => exact asks_untilTimeout trivial _ _ (by simp)
    | ok a =>
      obtain ⟨raw, decimals⟩ := a
      dsimp only
      split
      · trivial
      · exact asks_untilTimeout trivial _ _ (by simp)
  | succ left ih =>
    rw [pollTokenBalanceIncrease]
    apply asks_bind (asks_inspect (reads_fetchTokenAccountRawWithDecimals ata))
    intro answer
    cases answer with
    | error e =>
      apply asks_untilTimeout trivial
      intro p hp
      rw [← Option.mem_some.mp hp]
      exact ih _ _
    | ok a =>
      obtain ⟨raw, decimals⟩ := a
      dsimp only
      split
      · trivial
      · apply asks_untilTimeout trivial
        intro p hp
        rw [← Option.mem_some.mp hp]
        exact ih _ _

theorem reads_pollAtaConfirmsSell (ata : Address) (preRaw soldRaw : ℕ) (expectAtaClosed : Bool)
    (mint : Address) (timeoutSecs : ℕ) :
    Asks Query.Reads (pollAtaConfirmsSell ata preRaw soldRaw expectAtaClosed mint timeoutSecs) := by
  apply asks_retry
  intro left again hagain
  dsimp only
  split
  · apply asks_bind (asks_question trivial)
    rintro (msg | (_ | account))
    · exact asks_untilTimeout trivial _ _ hagain
    · trivial
    · exact asks_untilTimeout trivial _ _ hagain
  · apply asks_bind (asks_inspect (reads_fetchTokenAccountRawWithDecimals ata))
    intro answer
    cases answer with
    | error e => exact asks_untilTimeout trivial _ _ hagain
    | ok a =>
      obtain ⟨postRaw, decimals⟩ := a
      dsimp only
      split
      · trivial
      · exact asks_untilTimeout trivial _ _ hagain

/-! ## Jupiter -/

theorem reads_jupiterFetchQuoteExactIn (request : SwapRequest) :
    Asks Query.Reads (jupiterFetchQuoteExactIn request) := by
  apply asks_bind (asks_question trivial)
  intro reply
  apply asks_bind (asks_orThrow _ _)
  intro quote
  split <;> trivial

theorem reads_jupiterBuildSwapExactInMints (request : SwapRequest) :
    Asks Query.Reads (jupiterBuildSwapExactInMints request) := by
  apply asks_bind (reads_jupiterFetchQuoteExactIn request)
  intro quote
  apply asks_bind (asks_question trivial)
  intro reply
  apply asks_bind (asks_orThrow _ _)
  intro swap
  split <;> trivial

theorem reads_jupiterBuildSwapV2OrderExactIn (mint : Address) (amountRaw slippageBps : ℕ)
    (excludeDexes : Option String) :
    Asks Query.Reads (jupiterBuildSwapV2OrderExactIn mint amountRaw slippageBps excludeDexes) := by
  apply asks_bind (asks_question trivial)
  intro reply
  apply asks_bind (asks_orThrow _ _)
  intro order
  split
  · trivial
  · split
    · trivial
    · split <;> trivial

theorem reads_decodeSwapTransaction (what payload : String) :
    Asks Query.Reads (decodeSwapTransaction what payload) := by
  apply asks_bind (asks_question trivial)
  intro decoded
  exact asks_orThrow _ _

theorem reads_jupiterBuyBuildPostGraduation (mint : Address) (solLamports slippageBps : ℕ) :
    Asks Query.Reads (jupiterBuyBuildPostGraduation mint solLamports slippageBps) := by
  apply asks_bind (asks_inspect (reads_jupiterBuildSwapExactInMints _))
  intro answer
  cases answer with
  | error e =>
    dsimp only
    split
    · apply asks_bind (asks_inspect (reads_jupiterBuildSwapExactInMints _))
      intro answer
      cases answer with
      | error e =>
        dsimp only
        split <;> trivial
      | ok build => trivial
    · trivial
  | ok build => trivial

end Loggaper
