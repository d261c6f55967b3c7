import Loggaper.Solana.Questions

/-!
# Purchases and what the chain does with them

A purchase sends one transaction after another until one is reported successful. The node's
reply does not tell whether a transaction lands: one that is rejected, or whose confirmation
fails, can land all the same.

- `Purchases`: an observer of a call that counts the transactions that land, and those of them
  that are reported successful before the next one is sent.
- `buy_bought`: a purchase returns `Ok` exactly when it was told of a success.
- `buyFaithful_iff`: for which answers the outcome of `buy` agrees with the chain.
-/

namespace Loggaper

open Attempt

/-! ## The observer -/

/-- The exchange submits a transaction that lands. -/
def landed : Exchange NodeAnswer → Bool
  | ⟨.sendTransaction _ _ _, sent⟩ => sent.landed
  | ⟨.jupiterExecute _ _, sent⟩ => sent.landed
  | _ => false

/-- The transactions of a call that land. -/
def landings (h : Record) : ℕ := h.countP landed

/-- The status of an executed transaction without an error. -/
def reportsSuccess : Except String (Option TransactionStatus) → Bool
  | .ok (some ⟨none, .ok ()⟩) => true
  | _ => false

/-- What an observer knows of the transactions of a purchase. -/
structure Purchases where
  /-- Transactions that land. -/
  landings : ℕ
  /-- Transactions that land and are reported successful before the next one is sent. -/
  confirmed : ℕ
  /-- The last transaction, while it is acknowledged and not reported successful: its signature
  and whether it lands. -/
  last : Option (Signature × Bool)
  /-- Some acknowledged transaction was reported successful. -/
  told : Bool
  deriving DecidableEq, Repr

namespace Purchases

def start : Purchases := ⟨0, 0, none, false⟩

/-- The last transaction is reported successful under `sig`. -/
def noteSuccess (p : Purchases) (sig : Signature) : Purchases :=
  match p.last with
  | some (s, lands) =>
    if s = sig then { p with confirmed := p.confirmed + lands.toNat, last := none, told := true }
    else p
  | none => p

def note (p : Purchases) : Exchange NodeAnswer → Purchases
  | ⟨.sendTransaction _ _ _, sent⟩ =>
    { p with
      landings := p.landings + sent.landed.toNat
      last := match sent.reply with
        | .ok sig => some (sig, sent.landed)
        | .error _ => none }
  | ⟨.jupiterExecute _ _, sent⟩ =>
    { p with landings := p.landings + sent.landed.toNat, last := none }
  | ⟨.getSignatureStatus _ sig, status⟩ => if reportsSuccess status then p.noteSuccess sig else p
  | _ => p

/-- What the observer knows after a call. -/
def of (h : Record) : Purchases := h.foldl note start

theorem note_reads {q : Query} (hq : q.Reads) (a : NodeAnswer q) (p : Purchases) :
    p.note ⟨q, a⟩ = p := by
  cases q <;> first | rfl | exact hq.elim

theorem noteSuccess_landings (p : Purchases) (sig : Signature) :
    (p.noteSuccess sig).landings = p.landings := by
  unfold noteSuccess
  split
  · split <;> rfl
  · rfl

theorem note_landings (p : Purchases) (x : Exchange NodeAnswer) :
    (p.note x).landings = p.landings + (landed x).toNat := by
  obtain ⟨q, a⟩ := x
  cases q with
  | sendTransaction label tx skip => rfl
  | jupiterExecute id tx => rfl
  | getSignatureStatus label sig =>
    show (if reportsSuccess a then p.noteSuccess sig else p).landings = p.landings + 0
    split
    · exact noteSuccess_landings p sig
    · rfl
  | _ => rfl

theorem of_landings (h : Record) : (of h).landings = Loggaper.landings h := by
  have run (h : Record) (p : Purchases) :
      (h.foldl note p).landings = p.landings + Loggaper.landings h := by
    induction h generalizing p with
    | nil => rfl
    | cons x h ih =>
      rw [List.foldl_cons, ih, note_landings, Loggaper.landings, Loggaper.landings,
        List.countP_cons]
      cases landed x <;> simp [Nat.add_comm, Nat.add_left_comm]
  rw [of, run h start]
  simp [start]

/-- Every confirmed landing is a landing, and an unresolved one is not yet confirmed. -/
def Counted (p : Purchases) : Prop :=
  p.confirmed + (p.last.elim 0 fun l => l.2.toNat) ≤ p.landings

theorem counted_note {p : Purchases} (hp : p.Counted) (x : Exchange NodeAnswer) :
    (p.note x).Counted := by
  obtain ⟨q, a⟩ := x
  cases q with
  | sendTransaction label tx skip =>
    have hc : p.confirmed ≤ p.landings := le_trans (Nat.le_add_right _ _) hp
    obtain ⟨reply, lands⟩ := a
    cases reply with
    | error e =>
      show p.confirmed + 0 ≤ p.landings + lands.toNat
      omega
    | ok sig =>
      show p.confirmed + lands.toNat ≤ p.landings + lands.toNat
      omega
  | jupiterExecute id tx =>
    have hc : p.confirmed ≤ p.landings := le_trans (Nat.le_add_right _ _) hp
    show p.confirmed + 0 ≤ p.landings + Bool.toNat _
    omega
  | getSignatureStatus label sig =>
    show (if reportsSuccess a then p.noteSuccess sig else p).Counted
    split
    · unfold noteSuccess
      split
      · next s lands hlast =>
        split
        · simpa [Counted, hlast] using hp
        · exact hp
      · exact hp
    · exact hp
  | _ => exact hp

end Purchases

/-! ## What a purchase is told -/

/-- No success was reported yet. -/
def Untold (p : Purchases) : Prop := p.told = false ∧ p.confirmed = 0

/-- The outcome of a part of a purchase: `Ok` after a reported success, `Err` without one. -/
def Bought {α : Type} : Except BrokerError α → Purchases → Prop
  | .ok _, p => p.told = true ∧ p.confirmed ≤ 1
  | .error _, p => Untold p

variable (b : SolanaBroker)

theorem wp_reads {α : Type} {p : Call α} (hp : Asks Query.Reads p) (s : Purchases) :
    wp Purchases.note p (fun _ t => t = s) s :=
  wp_of_asks (I := fun t => t = s)
    (fun _ a t hq ht => (Purchases.note_reads hq a t).trans ht) hp rfl

theorem waitUntilSignatureConfirmedOk_bought (sig : Signature) (label : String) (lands : Bool)
    {s : Purchases} (hs : Untold s) (hlast : s.last = some (sig, lands)) :
    wp Purchases.note (waitUntilSignatureConfirmedOk sig label) Bought s := by
  apply wp_retry (I := fun t => Untold t ∧ t.last = some (sig, lands)) _ _ ⟨hs, hlast⟩
  intro left again s hagain ⟨hs, hlast⟩
  apply wp_ask
  rintro (e | (_ | ⟨(_ | err), (e | ⟨⟩)⟩))
  · exact hs
  · -- no status yet: the clock decides between giving up and the next poll
    apply wp_ask
    intro elapsed
    cases again with
    | none => exact hs
    | some rest =>
      show wp _ (if 90_000 ≤ elapsed.ms then _ else rest) _ _
      split
      · exact hs
      · exact hagain rest rfl _ ⟨hs, hlast⟩
  · exact hs
  · -- the status of the last transaction, without an error
    show (s.noteSuccess sig).told = true ∧ (s.noteSuccess sig).confirmed ≤ 1
    rw [Purchases.noteSuccess, hlast]
    simp only [if_pos, hs.2, Nat.zero_add, true_and]
    exact Bool.toNat_le lands
  · exact hs
  · exact hs

/-- A submission is not yet a success, acknowledged or not. -/
theorem untold_send {s : Purchases} (hs : Untold s) (label : String) (tx : Transaction)
    (skip : Bool) (sent : Sent (Except String Signature)) :
    Untold (s.note ⟨.sendTransaction label tx skip, sent⟩) := hs

theorem afterSubmission_bought {label : String} {sent : Sent (Except String Signature)}
    {again : Option (Call Signature)} (hagain : ∀ p ∈ again, ∀ t, Untold t →
      wp Purchases.note p Bought t) {s : Purchases} (hs : Untold s)
    (hlast : ∀ sig, sent.reply = .ok sig → s.last = some (sig, sent.landed)) :
    wp Purchases.note (afterSubmission label sent.reply again) Bought s := by
  cases hreply : sent.reply with
  | ok sig =>
    apply wp_bind (waitUntilSignatureConfirmedOk_bought sig label _ hs (hlast sig hreply))
    · intro u t ht
      exact ht
    · intro e t ht
      exact ht
  | error msg =>
    cases again with
    | none => exact hs
    | some rest => exact hagain rest rfl s hs

/-- A submission that was just made is the last one. -/
theorem note_send_last (s : Purchases) (label : String) (tx : Transaction) (skip : Bool)
    (sent : Sent (Except String Signature)) (sig : Signature) (h : sent.reply = .ok sig) :
    (s.note ⟨.sendTransaction label tx skip, sent⟩).last = some (sig, sent.landed) := by
  simp only [Purchases.note, h]

theorem sendWithRetries_bought (ixs : List Instruction) (label : String) {s : Purchases}
    (hs : Untold s) : wp Purchases.note (sendWithRetries b ixs label) Bought s := by
  apply wp_retry (I := Untold) _ _ hs
  intro left again s hagain hs
  apply wp_ask
  intro answer
  cases answer with
  | error e =>
    cases again with
    | none => exact hs
    | some rest => exact hagain rest rfl _ hs
  | ok blockhash =>
    apply wp_ask
    intro sent
    exact afterSubmission_bought hagain (untold_send hs _ _ _ sent) (note_send_last s _ _ _ sent)

theorem sendVersionedJupiterWithRetries_bought (build : JupiterSwapBuild) (label : String)
    {s : Purchases} (hs : Untold s) :
    wp Purchases.note (sendVersionedJupiterWithRetries b build label) Bought s := by
  apply wp_retry (I := Untold) _ _ hs
  intro left again s hagain hs
  apply wp_ask
  intro answer
  cases answer with
  | error e => exact hs
  | ok blockhash =>
    apply wp_ask
    intro answer
    cases answer with
    | error e => exact hs
    | ok signed =>
      apply wp_ask
      intro sent
      exact afterSubmission_bought hagain (untold_send hs _ _ _ sent)
        (note_send_last s _ _ _ sent)

/-! ## The rest of a purchase -/

/-- A part that only reads, before the purchase: its error is the purchase's. -/
theorem bought_of_reads {α β : Type} {p : Call α} (hp : Asks Query.Reads p)
    {f : α → Call β} {s : Purchases} (hs : Untold s)
    (rest : ∀ a, wp Purchases.note (f a) Bought s) : wp Purchases.note (p >>= f) Bought s := by
  apply wp_bind (wp_reads hp s)
  · rintro a t rfl
    exact rest a
  · rintro e t rfl
    exact hs

/-- A part that only reads and is looked at: the rest runs from the same state. -/
theorem wp_inspect_reads {α β : Type} {p : Call α} (hp : Asks Query.Reads p)
    {f : Except BrokerError α → Call β} {R : Except BrokerError β → Purchases → Prop}
    {s : Purchases} (rest : ∀ r, wp Purchases.note (f r) R s) :
    wp Purchases.note (inspect p >>= f) R s := by
  apply wp_inspect (wp_reads hp s)
  rintro r t rfl
  exact rest r

/-- After a reported success the call returns `Ok`, whatever its readings say. -/
def Returns {α : Type} (s : Purchases) : Except BrokerError α → Purchases → Prop
  | .ok _, t => t = s
  | .error _, _ => False

theorem jupiterTokensReceived_returns (ata : Address) (preRaw outRaw : ℕ) (s : Purchases) :
    wp Purchases.note (jupiterTokensReceived ata preRaw outRaw) (Returns s) s := by
  apply wp_inspect_reads (reads_pollTokenBalanceIncrease _ _ _ _ _)
  intro answer
  cases answer with
  | error e =>
    apply wp_inspect_reads (reads_fetchTokenAccountRawWithDecimals _)
    rintro (e | ⟨raw, decimals⟩) <;> rfl
  | ok a =>
    obtain ⟨postRaw, decimals⟩ := a
    rfl

theorem actualTokensReceived_returns (ata : Address) (preRaw : ℕ) (minTokenOut : ℚ)
    (s : Purchases) :
    wp Purchases.note (actualTokensReceived ata preRaw minTokenOut) (Returns s) s := by
  apply wp_inspect_reads (reads_pollTokenBalanceIncrease _ _ _ _ _)
  rintro (e | ⟨postRaw, decimals⟩) <;> rfl

theorem entryMcapFillSol_returns (mint : Address) (s : Purchases) :
    wp Purchases.note (entryMcapFillSol b mint) (Returns s) s := by
  apply wp_inspect_reads (reads_fetchBondingCurveState _ _)
  rintro (e | curve) <;> rfl

/-- A part that returns, then the rest from the same state. -/
theorem wp_bind_returns {α β : Type} {p : Call α} {s : Purchases}
    (hp : wp Purchases.note p (Returns s) s) {f : α → Call β}
    {R : Except BrokerError β → Purchases → Prop} (rest : ∀ a, wp Purchases.note (f a) R s) :
    wp Purchases.note (p >>= f) R s := by
  apply wp_bind hp
  · rintro a t rfl
    exact rest a
  · intro e t ht
    exact ht.elim

theorem buyReceipt_returns (mint ata : Address) (preRaw : ℕ) (amountSol : ℚ) (pool : PoolView)
    (sig : Signature) (s : Purchases) :
    wp Purchases.note (buyReceipt b mint ata preRaw amountSol pool sig) (Returns s) s := by
  apply wp_ask
  intro u
  apply wp_bind_returns (actualTokensReceived_returns _ _ _ s)
  intro tokens
  apply wp_bind_returns (entryMcapFillSol_returns b _ s)
  intro mcap
  rfl

theorem buyTokensPostGraduation_bought (mint : Address) (amountSol : ℚ)
    (mintToken : MintTokenKind) {s : Purchases} (hs : Untold s) :
    wp Purchases.note (buyTokensPostGraduation b mint amountSol mintToken) Bought s := by
  unfold buyTokensPostGraduation
  dsimp only
  split
  · exact hs
  · apply bought_of_reads (reads_fetchTokenAccountRawOrZero _) hs
    intro preRaw
    apply bought_of_reads (reads_jupiterBuyBuildPostGraduation _ _ _) hs
    intro ⟨build, usedFallback⟩
    apply bought_of_reads (reads_decodeSwapTransaction _ _) hs
    intro u
    apply wp_inspect (sendVersionedJupiterWithRetries_bought b build _ hs)
    intro answer t ht
    cases answer with
    | error e =>
      dsimp only
      split
      · exact ht
      · exact ht
    | ok sig =>
      apply wp_ask
      intro u
      apply wp_bind_returns (jupiterTokensReceived_returns _ _ _ t)
      intro tokens
      exact ht

theorem buyOnCurve_bought (mint : Address) (amountSol : ℚ) (pool : PoolView)
    (mintToken : MintTokenKind) {s : Purchases} (hs : Untold s) :
    wp Purchases.note (buyOnCurve b mint amountSol pool mintToken) Bought s := by
  apply bought_of_reads (reads_fetchTokenAccountRawOrZero _) hs
  intro preRaw
  apply bought_of_reads _ hs
  · intro creator
    apply wp_inspect (sendWithRetries_bought b _ _ hs)
    intro answer t ht
    cases answer with
    | error e =>
      dsimp only
      split
      · exact buyTokensPostGraduation_bought b mint amountSol mintToken ht
      · exact ht
    | ok sig =>
      apply wp_mono _ (buyReceipt_returns b _ _ _ _ _ _ t)
      intro answer u hu
      cases answer with
      | error e => exact hu.elim
      | ok r =>
        rw [show u = t from hu]
        exact ht
  · apply asks_bind (asks_inspect (reads_fetchBondingCurveState b mint))
    rintro (e | curve) <;> trivial

/-- **A purchase returns `Ok` exactly when it was told of a success.** -/
theorem buy_bought (mint : Address) (amountSol : ℚ) (pool : PoolView) :
    wp Purchases.note (buy b mint amountSol pool) Bought Purchases.start := by
  have hs : Untold Purchases.start := ⟨rfl, rfl⟩
  apply wp_ask
  intro (bal : ℚ)
  show wp _ (if bal < amountSol then _ else _) _ _
  split
  · exact hs
  · apply bought_of_reads (reads_waitForAccountVisible _ _) hs
    intro u
    apply bought_of_reads (reads_fetchMintTokenKind _) hs
    intro mintToken
    apply bought_of_reads _ hs
    · intro complete
      split
      · exact buyTokensPostGraduation_bought b mint amountSol mintToken hs
      · exact buyOnCurve_bought b mint amountSol pool mintToken hs
    · apply asks_bind (asks_inspect (reads_fetchBondingCurveState b mint))
      rintro (e | curve) <;> trivial

/-! ## When the outcome agrees with the chain -/

/-- An `Err` means that nothing landed, and at most one transaction of the call lands. -/
def BuyFaithful (run : Except BrokerError BuyReceipt × Record) : Prop :=
  (run.1.toOption = none → landings run.2 = 0) ∧ landings run.2 ≤ 1

instance (run : Except BrokerError BuyReceipt × Record) : Decidable (BuyFaithful run) :=
  inferInstanceAs (Decidable (_ ∧ _))

/-- Every transaction that lands is acknowledged by the node and reported successful before the
call sends the next one or returns. -/
def NoStrayLanding (h : Record) : Prop := (Purchases.of h).confirmed = landings h

theorem counted_of_exec (E : World) (p : Call BuyReceipt) :
    (Purchases.of (exec E p).2).confirmed ≤ landings (exec E p).2 := by
  have h : (Purchases.of (exec E p).2).Counted := by
    apply exec_invariant (I := Purchases.Counted)
    · intro h q hI
      exact Purchases.counted_note hI ⟨q, E h q⟩
    · exact Nat.le_refl 0
  rw [← Purchases.of_landings]
  exact le_trans (Nat.le_add_right _ _) h

/-- The only transaction that lands is stray, and the call is told of a success all the same: of
another transaction, which does not land. -/
def MistakenSuccess (h : Record) : Prop :=
  landings h = 1 ∧ (Purchases.of h).confirmed = 0 ∧ (Purchases.of h).told = true

/-- **When the outcome of a purchase agrees with the chain.** Exactly when no landing is stray, or
the node reports a success that did not happen. -/
theorem buyFaithful_iff (mint : Address) (amountSol : ℚ) (pool : PoolView) (E : World) :
    BuyFaithful (exec E (buy b mint amountSol pool)) ↔
      NoStrayLanding (exec E (buy b mint amountSol pool)).2 ∨
        MistakenSuccess (exec E (buy b mint amountSol pool)).2 := by
  have hb := wp_exec E (buy_bought b mint amountSol pool)
  have hcount := counted_of_exec E (buy b mint amountSol pool)
  revert hb hcount
  generalize exec E (buy b mint amountSol pool) = run
  obtain ⟨r, h⟩ := run
  intro hb hcount
  simp only [BuyFaithful, NoStrayLanding, MistakenSuccess]
  cases r with
  | error e =>
    -- no success was reported, so no landing is confirmed
    obtain ⟨htold, hconf⟩ : Untold (Purchases.of h) := hb
    rw [htold, hconf]
    simp only [Except.toOption, true_imp_iff, Bool.false_eq_true, and_false, or_false]
    omega
  | ok receipt =>
    obtain ⟨htold, hconf⟩ : (Purchases.of h).told = true ∧ (Purchases.of h).confirmed ≤ 1 := hb
    dsimp only at hcount
    simp only [Except.toOption, reduceCtorEq, false_imp_iff, true_and, htold, and_true]
    omega

/-! ## Purchases that go wrong -/

/-- A broker with the default configuration. -/
def defaultBroker : SolanaBroker where
  walletAddress := 1
  execCfg := .default
  ataAddress := fun _ _ => 2
  boundingCurve := fun _ => 3

/-- The accounts of mint 7 and of its curve. -/
def accountsOf (curve : Account) (a : Address) : Except String (Option Account) :=
  .ok (some (if a = 7 then ⟨"TokenkegQfeZyiNwAJbNbGKPFXCWuBvf9Ss623VQ5DA", []⟩ else curve))

/-- A curve of about 27 SOL. -/
def openCurve : Account := curveAccount 4 7 1 0

/-- The first submission is rejected when `reject` says so, and the submission with number `n`
lands when `lands n`. Every transaction that has landed shows in the token account. -/
def buyWorld (reject : Bool) (lands : ℕ → Bool)
    (status : Record → Except String (Option TransactionStatus)) : World :=
  Script.world {
    account := fun _ => accountsOf openCurve
    tokens := fun h => .ok ⟨.ok (1_000_000 * landings h), 6⟩
    send := fun h =>
      ⟨if reject ∧ submissions h = 0 then .error "operation timed out"
        else .ok (if submissions h = 0 then "A" else "B"), lands (submissions h)⟩
    status := status }

/-- The status of a transaction that was executed. -/
def executed : Except String (Option TransactionStatus) := .ok (some ⟨none, .ok ()⟩)

/-- A success when the last transaction lands, else no status. -/
def statusOfLast (h : Record) : Except String (Option TransactionStatus) :=
  match (Purchases.of h).last with
  | some (_, true) => executed
  | _ => .ok none

/-- **A purchase that lands twice, and one that lands under an error.** The node rejects the first
submission, which lands, and the retry lands too. Or the node acknowledges the submission, which
lands, and cannot answer the first status poll. -/
theorem buy_unfaithful :
    ¬ BuyFaithful (exec (buyWorld true (fun _ => true) statusOfLast)
      (buy defaultBroker 7 1 ⟨1, 5⟩)) ∧
    ¬ BuyFaithful (exec (buyWorld false (fun _ => true) fun _ => .error "503")
      (buy defaultBroker 7 1 ⟨1, 5⟩)) := by
  decide

end Loggaper
