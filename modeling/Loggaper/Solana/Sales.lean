import Loggaper.Solana.Purchases

/-!
# Sells and what the chain does with them

A sell is a sequence of transactions, each of which can land whatever the call is told. The
observer of a sell keeps the raw amounts that left the token account, how many transactions were
submitted, whether the last answer was a *failure*, and the last *reading* of the token account
since an amount left it. A landing is *stray* when a failure is answered between it and the next
submission: the broker takes the transaction for failed, and it is not.

The parts of a sell have one kind of specification, `Ends`: an error ends with a failure and
within a budget, and a value comes with what the part promises. `Calm` is what the last part of
every sell promises: the last answer is no failure, and the account was read after the last
landing.
-/

namespace Loggaper

open Attempt

/-! ## The observer -/

def Query.submitted : Query → Option Transaction
  | .sendTransaction _ tx _ => some tx
  | .jupiterExecute _ tx => some tx
  | _ => none

/-- The raw amount of the mint that an exchange takes out of the account. -/
def soldBy (mint : Address) (x : Exchange NodeAnswer) : ℕ :=
  if landed x then (x.query.submitted.map (Transaction.tokensOut mint)).getD 0 else 0

/-- The raw amounts that leave the account in a call. -/
def soldAmounts (mint : Address) (h : Record) : List ℕ :=
  (h.map (soldBy mint)).filter (0 < ·)

/-- What leaves the account in a call. -/
def rawSold (mint : Address) (h : Record) : ℕ := (soldAmounts mint h).sum

/-- Jupiter's reply carries a quote. -/
def quoteFails (reply : HttpReply) : Bool :=
  match jupiterHttpJson "quote" reply with
  | .ok quote => (quote "error").isSome
  | .error _ => true

/-- Jupiter's reply carries no swap transaction. -/
def swapFails (reply : HttpReply) : Bool :=
  match jupiterHttpJson "swap" reply with
  | .ok swap => ((swap "swapTransaction").bind JsonValue.asStr).isNone
  | .error _ => true

/-- Jupiter reports no signature for an order it was given. -/
def executeFails (reply : HttpReply) : Bool :=
  match jupiterHttpJson "execute" reply with
  | .ok resp => ((resp "status").bind JsonValue.asStr).getD "" != "Success" ||
      ((resp "signature").bind JsonValue.asStr).isNone
  | .error _ => true

def failed {ε α : Type} : Except ε α → Bool
  | .ok _ => false
  | .error _ => true

/-- The answer is a failure of a submission: no quote, no transaction, no blockhash, a rejected
submission, a status without a success, or a clock that is asked because a poll has not shown
what it waits for. What goes wrong with the optional close of an emptied account is passed over
by the broker and is no failure. -/
def fails : Exchange NodeAnswer → Bool
  | ⟨.getLatestBlockhash label, r⟩ => label != closeAtaLabel && failed r
  | ⟨.sendTransaction label _ _, sent⟩ => label != closeAtaLabel && failed sent.reply
  | ⟨.getSignatureStatus label _, status⟩ => label != closeAtaLabel && !reportsSuccess status
  | ⟨.elapsed label, _⟩ => label != closeAtaLabel
  | ⟨.jupiterQuote _, reply⟩ => quoteFails reply
  | ⟨.jupiterSwap _, reply⟩ => swapFails reply
  | ⟨.jupiterExecute _ _, sent⟩ => executeFails sent.reply
  | ⟨.decodeSwapTransaction _, r⟩ => failed r
  | ⟨.signSwapTransaction _ _, r⟩ => failed r
  | ⟨.parseSignature _, r⟩ => failed r
  | _ => false

/-- The last answer of a call is a failure. -/
def endsInFailure (h : Record) : Bool := (h.getLast?.map fails).getD false

/-- The address is the wallet's token account for the mint. -/
def SolanaBroker.IsAta (b : SolanaBroker) (mint a : Address) : Prop :=
  a = b.ataAddress mint .legacySpl ∨ a = b.ataAddress mint .token2022

instance (b : SolanaBroker) (mint a : Address) : Decidable (b.IsAta mint a) :=
  inferInstanceAs (Decidable (_ ∨ _))

/-- What an observer knows of the transactions of a sell. -/
structure Sales where
  /-- Raw amounts that left the account. -/
  amounts : List ℕ
  /-- What the last transaction that was submitted takes out of the account. -/
  last : ℕ
  /-- A failure was answered between a landing and the next submission. -/
  strayed : Bool
  /-- Transactions that were submitted. -/
  submitted : ℕ
  /-- The last answer is a failure. -/
  failing : Bool
  /-- The balance that the node showed last, unless an amount left the account since. -/
  reading : Option ℕ
  deriving DecidableEq, Repr

namespace Sales

variable (b : SolanaBroker) (mint : Address)

def start : Sales := ⟨[], 0, false, 0, false, none⟩

/-- The balance that an exchange shows: a balance that parses, or no account. -/
def shown : Exchange NodeAnswer → Option ℕ
  | ⟨.getTokenAccountBalance _, .ok value⟩ => value.amount.toOption
  | ⟨.getAccount a, .ok none⟩ => if b.IsAta mint a then some 0 else none
  | _ => none

def note (s : Sales) (x : Exchange NodeAnswer) : Sales :=
  let last := if x.query.submitted.isSome then soldBy mint x else s.last
  { amounts := s.amounts ++ if 0 < soldBy mint x then [soldBy mint x] else []
    last := last
    strayed := s.strayed || (fails x && decide (0 < last))
    submitted := s.submitted + if x.query.submitted.isSome then 1 else 0
    failing := fails x
    reading := if 0 < soldBy mint x then none else (shown b mint x).or s.reading }

/-- What the observer knows after a call. -/
def of (h : Record) : Sales := h.foldl (note b mint) start

theorem of_amounts (h : Record) : (of b mint h).amounts = soldAmounts mint h := by
  have run (h : Record) (s : Sales) :
      (h.foldl (note b mint) s).amounts = s.amounts ++ soldAmounts mint h := by
    induction h generalizing s with
    | nil => simp [soldAmounts]
    | cons x h ih =>
      rw [List.foldl_cons, ih, note]
      by_cases hx : 0 < soldBy mint x
      · simp [soldAmounts, hx]
      · simp [soldAmounts, hx]
  exact run h start

theorem of_submitted (h : Record) : (of b mint h).submitted = submissions h := by
  have run (h : Record) (s : Sales) :
      (h.foldl (note b mint) s).submitted = s.submitted + submissions h := by
    induction h generalizing s with
    | nil => rfl
    | cons x h ih =>
      rw [List.foldl_cons, ih, note, submissions, submissions, List.countP_cons]
      obtain ⟨q, a⟩ := x
      cases q <;> simp [Query.submitted] <;> omega
  simp [of, run, start]

theorem of_failing (h : Record) : (of b mint h).failing = endsInFailure h := by
  induction h using List.reverseRecOn with
  | nil => rfl
  | append_singleton h x =>
    rw [of, List.foldl_append, endsInFailure, List.getLast?_concat]
    rfl

end Sales

/-! ## What an exchange does -/

section
variable {b : SolanaBroker} {mint : Address} {S : ℕ → Prop} {c raw : ℕ}

/-- What submits nothing takes nothing out of the account. -/
theorem soldBy_of_not_submitted {x : Exchange NodeAnswer} (hx : x.query.submitted = none) :
    soldBy mint x = 0 := by
  unfold soldBy
  rw [hx]
  split <;> rfl

theorem Query.Reads.not_submitted {q : Query} (hq : q.Reads) : q.submitted = none := by
  cases q <;> first | rfl | exact hq.elim

/-- What submits nothing leaves the amounts and the submissions as they are. -/
theorem note_not_submitted (s : Sales) {q : Query} (hq : q.submitted = none) (a : NodeAnswer q) :
    s.note b mint ⟨q, a⟩ = {
      amounts := s.amounts
      last := s.last
      strayed := s.strayed || (fails ⟨q, a⟩ && decide (0 < s.last))
      submitted := s.submitted
      failing := fails ⟨q, a⟩
      reading := (Sales.shown b mint ⟨q, a⟩).or s.reading } := by
  unfold Sales.note
  rw [soldBy_of_not_submitted hq]
  simp [hq]

/-- A condition that only a submission can change. -/
def Kept (b : SolanaBroker) (mint : Address) (I : Sales → Prop) : Prop :=
  ∀ s q a, q.submitted = none → I s → I (s.note b mint ⟨q, a⟩)

/-- A part that only reads keeps the condition. -/
theorem wp_kept {I : Sales → Prop} (hI : Kept b mint I) {α : Type} {p : Call α}
    (hp : Asks Query.Reads p) {s : Sales} (hs : I s) :
    wp (Sales.note b mint) p (fun _ => I) s :=
  wp_of_asks (fun q a s hq ht => hI s q a hq.not_submitted ht) hp hs

/-! ## What the parts of a sell promise -/

/-- Every amount that left the account meets `S`, and they are within the budget `c` unless a
landing is stray. -/
structure Idle (S : ℕ → Prop) (c : ℕ) (s : Sales) : Prop where
  amounts : ∀ a ∈ s.amounts, S a
  within : s.strayed = false → s.amounts.sum ≤ c

/-- A transaction for at most `raw` units is on its way, over the budget `c`. -/
structure Underway (S : ℕ → Prop) (c raw : ℕ) (s : Sales) : Prop where
  amounts : ∀ a ∈ s.amounts, S a
  within : s.strayed = false → s.amounts.sum ≤ c + s.last
  last_le : s.last ≤ raw
  submitted : 1 ≤ s.submitted
  settled : s.failing = true → s.strayed = false → s.last = 0

/-- Something was submitted, the last answer is no failure, and the account was read after the
last landing. -/
structure AtRest (s : Sales) : Prop where
  submitted : 1 ≤ s.submitted
  failing : s.failing = false
  reading : s.reading.isSome

/-- The books are within the budget, and nothing is open. -/
def Calm (S : ℕ → Prop) (c : ℕ) (s : Sales) : Prop := Idle S c s ∧ AtRest s

/-- A value comes with `φ`, an error with a failure and within the budget `c`. -/
def Ends {α : Type} (S : ℕ → Prop) (c : ℕ) (φ : α → Sales → Prop) :
    Except BrokerError α → Sales → Prop
  | .ok a, s => φ a s
  | .error _, s => s.failing = true ∧ Idle S c s

theorem Idle.mono {c' : ℕ} {s : Sales} (h : Idle S c s) (hc : c ≤ c') : Idle S c' s :=
  ⟨h.amounts, fun hs => le_trans (h.within hs) hc⟩

theorem Ends.mono {c' : ℕ} {α : Type} {φ : α → Sales → Prop} (hc : c ≤ c')
    {r : Except BrokerError α} {s : Sales} (h : Ends S c φ r s) : Ends S c' φ r s := by
  cases r with
  | ok a => exact h
  | error e => exact ⟨h.1, h.2.mono hc⟩

/-- A failure settles what is on its way: it did not land, or its landing is stray. -/
theorem Underway.failed {s : Sales} (h : Underway S c raw s) (hs : s.failing = true) :
    Idle S c s := by
  refine ⟨h.amounts, ?_⟩
  intro hstray
  have := h.within hstray
  have := h.settled hs hstray
  omega

theorem Underway.idle {s : Sales} (h : Underway S c raw s) : Idle S (c + raw) s := by
  refine ⟨h.amounts, ?_⟩
  intro hstray
  have := h.within hstray
  have := h.last_le
  omega

theorem kept_idle (b : SolanaBroker) (mint : Address) : Kept b mint (Idle S c) := by
  intro s q a hq hs
  rw [note_not_submitted s hq]
  refine ⟨hs.amounts, ?_⟩
  intro hstray
  exact hs.within (Bool.or_eq_false_iff.mp hstray).1

theorem kept_underway (b : SolanaBroker) (mint : Address) : Kept b mint (Underway S c raw) := by
  intro s q a hq hs
  rw [note_not_submitted s hq]
  refine ⟨hs.amounts, ?_, hs.last_le, hs.submitted, ?_⟩
  · intro hstray
    exact hs.within (Bool.or_eq_false_iff.mp hstray).1
  · intro (hfail : fails ⟨q, a⟩ = true) hstray
    have h := (Bool.or_eq_false_iff.mp hstray).2
    rw [hfail, Bool.true_and, decide_eq_false_iff_not] at h
    show s.last = 0
    omega

theorem kept_submitted (b : SolanaBroker) (mint : Address) (n : ℕ) :
    Kept b mint fun s => n ≤ s.submitted := by
  intro s q a hq hs
  rw [note_not_submitted s hq]
  exact hs

theorem soldBy_submission (mint : Address) {x : Exchange NodeAnswer} {tx : Transaction}
    (hx : x.query.submitted = some tx) :
    soldBy mint x = 0 ∨ soldBy mint x = tx.tokensOut mint := by
  unfold soldBy
  rw [hx]
  split
  · exact .inr rfl
  · exact .inl rfl

/-- A submission puts its transaction on its way. -/
theorem Idle.submit {s : Sales} (h : Idle S c s) {x : Exchange NodeAnswer} {tx : Transaction}
    (hx : x.query.submitted = some tx) (hraw : tx.tokensOut mint = raw) (hS : S raw) :
    Underway S c raw (s.note b mint x) := by
  have hlast : (s.note b mint x).last = soldBy mint x := by simp [Sales.note, hx]
  have hsold := soldBy_submission mint hx
  rw [hraw] at hsold
  refine ⟨?_, ?_, ?_, ?_, ?_⟩
  · intro a ha
    rcases List.mem_append.mp ha with ha | ha
    · exact h.amounts a ha
    · split at ha
      · next hpos =>
        rcases hsold with h0 | hr
        · omega
        · rw [List.mem_singleton.mp ha, hr]
          exact hS
      · cases ha
  · intro hstray
    have hwithin := h.within (Bool.or_eq_false_iff.mp hstray).1
    have hsum : (s.note b mint x).amounts.sum = s.amounts.sum + soldBy mint x := by
      show (s.amounts ++ if 0 < soldBy mint x then [soldBy mint x] else []).sum = _
      split
      · simp
      · simp
        omega
    rw [hlast, hsum]
    omega
  · rw [hlast]
    omega
  · show 1 ≤ s.submitted + if x.query.submitted.isSome then 1 else 0
    simp [hx]
  · intro (hfail : fails x = true) hstray
    have h := (Bool.or_eq_false_iff.mp hstray).2
    rw [hfail, Bool.true_and, decide_eq_false_iff_not] at h
    change ¬ 0 < (s.note b mint x).last at h
    omega

/-! ## Confirmations -/

/-- The end of a round that waits: an expired clock is a failure. -/
theorem untilTimeout_ends {α : Type} {φ : α → Sales → Prop} {label : String}
    (hlabel : label ≠ closeAtaLabel) (timeoutMs : ℕ) (timedOut : Elapsed → BrokerError)
    {again : Option (Call α)} {s : Sales} (hs : Underway S c raw s)
    (hagain : ∀ p ∈ again, ∀ t, Underway S c raw t →
      wp (Sales.note b mint) p (Ends S c φ) t) :
    wp (Sales.note b mint) (untilTimeout label timeoutMs timedOut again) (Ends S c φ) s := by
  apply wp_ask
  intro elapsed
  have ht := kept_underway b mint s (.elapsed label) elapsed rfl hs
  have hfail : fails ⟨.elapsed label, elapsed⟩ = true := by
    show (label != closeAtaLabel) = true
    simpa using hlabel
  cases again with
  | none => exact ⟨hfail, ht.failed hfail⟩
  | some rest =>
    show wp _ (if timeoutMs ≤ elapsed.ms then _ else rest) _ _
    split
    · exact ⟨hfail, ht.failed hfail⟩
    · exact hagain rest rfl _ ht

theorem waitUntilSignatureConfirmedOk_ends (sig : Signature) {label : String}
    (hlabel : label ≠ closeAtaLabel) {s : Sales} (hs : Underway S c raw s) :
    wp (Sales.note b mint) (waitUntilSignatureConfirmedOk sig label)
      (Ends S c fun _ => Underway S c raw) s := by
  apply wp_retry (I := Underway S c raw) _ _ hs
  intro left again s hagain hs
  apply wp_ask
  intro status
  have ht := kept_underway b mint s (.getSignatureStatus label sig) status rfl hs
  have hfail (h : reportsSuccess status = false) :
      fails ⟨.getSignatureStatus label sig, status⟩ = true := by
    show (label != closeAtaLabel && !reportsSuccess status) = true
    simp [hlabel, h]
  rcases status with e | (_ | ⟨(_ | err), (e | ⟨⟩)⟩)
  · exact ⟨hfail rfl, ht.failed (hfail rfl)⟩
  · exact untilTimeout_ends hlabel _ _ ht hagain
  · exact ⟨hfail rfl, ht.failed (hfail rfl)⟩
  · exact ht
  · exact ⟨hfail rfl, ht.failed (hfail rfl)⟩
  · exact ⟨hfail rfl, ht.failed (hfail rfl)⟩

theorem afterSubmission_ends {label : String} (hlabel : label ≠ closeAtaLabel)
    {reply : Except String Signature} {again : Option (Call Signature)} {s : Sales}
    (hs : Underway S c raw s) (hfail : failed reply = true → s.failing = true)
    (hagain : ∀ p ∈ again, ∀ t, Idle S c t →
      wp (Sales.note b mint) p (Ends S c fun _ => Underway S c raw) t) :
    wp (Sales.note b mint) (afterSubmission label reply again)
      (Ends S c fun _ => Underway S c raw) s := by
  cases reply with
  | ok sig =>
    apply wp_bind (waitUntilSignatureConfirmedOk_ends sig hlabel hs)
    · intro u t ht
      exact ht
    · intro e t ht
      exact ht
  | error msg =>
    have hidle := hs.failed (hfail rfl)
    cases again with
    | none => exact ⟨hfail rfl, hidle⟩
    | some rest => exact hagain rest rfl s hidle

theorem sendWithRetries_ends {ixs : List Instruction} {label : String}
    (hlabel : label ≠ closeAtaLabel) (hraw : (ixs.map (Instruction.tokensOut mint)).sum = raw)
    (hS : S raw) {s : Sales} (hs : Idle S c s) :
    wp (Sales.note b mint) (sendWithRetries b ixs label)
      (Ends S c fun _ => Underway S c raw) s := by
  apply wp_retry (I := Idle S c) _ _ hs
  intro left again s hagain hs
  apply wp_ask
  intro (blockhash : Except String Blockhash)
  have ht := kept_idle b mint s (.getLatestBlockhash label) blockhash rfl hs
  have hfail : fails ⟨.getLatestBlockhash label, blockhash⟩ = failed blockhash := by
    show (label != closeAtaLabel && failed blockhash) = failed blockhash
    simp [hlabel]
  cases blockhash with
  | error e =>
    cases again with
    | none => exact ⟨hfail, ht⟩
    | some rest => exact hagain rest rfl _ ht
  | ok blockhash =>
    apply wp_ask
    intro (sent : Sent (Except String Signature))
    have hu : Underway S c raw (Sales.note b mint _ ⟨.sendTransaction label
        (.signed ixs blockhash) b.execCfg.skipPreflight, sent⟩) := ht.submit rfl hraw hS
    apply afterSubmission_ends hlabel hu _ hagain
    intro hreply
    show (label != closeAtaLabel && failed sent.reply) = true
    simp [hlabel, hreply]

/-- The request sells `raw` units of the mint. -/
def SwapRequest.Sells (request : SwapRequest) (mint : Address) (raw : ℕ) : Prop :=
  request.inputMint = .token mint ∧ request.amountRaw = raw

theorem SwapRequest.Sells.tokensOut {request : SwapRequest} (h : request.Sells mint raw)
    (swapTransaction : String) (blockhash : Option Blockhash) :
    (Transaction.swap request swapTransaction blockhash).tokensOut mint = raw := by
  simp [Transaction.tokensOut, h.1, h.2]

theorem sendVersionedJupiterWithRetries_ends {build : JupiterSwapBuild} {label : String}
    (hlabel : label ≠ closeAtaLabel) (hraw : build.request.Sells mint raw) (hS : S raw)
    {s : Sales} (hs : Idle S c s) :
    wp (Sales.note b mint) (sendVersionedJupiterWithRetries b build label)
      (Ends S c fun _ => Underway S c raw) s := by
  apply wp_retry (I := Idle S c) _ _ hs
  intro left again s hagain hs
  apply wp_ask
  intro (blockhash : Except String Blockhash)
  have ht := kept_idle b mint s (.getLatestBlockhash label) blockhash rfl hs
  cases blockhash with
  | error e =>
    refine ⟨?_, ht⟩
    show (label != closeAtaLabel && true) = true
    simp [hlabel]
  | ok blockhash =>
    apply wp_ask
    intro (signed : Except String Unit)
    have hu := kept_idle b mint _
      (.signSwapTransaction label build.swapTransactionB64) signed rfl ht
    cases signed with
    | error e => exact ⟨rfl, hu⟩
    | ok signed =>
      apply wp_ask
      intro (sent : Sent (Except String Signature))
      apply afterSubmission_ends hlabel (hu.submit rfl (hraw.tokensOut _ _) hS) _ hagain
      intro hreply
      show (label != closeAtaLabel && failed sent.reply) = true
      simp [hlabel, hreply]

/-! ## Readings -/

/-- The node showed `v` after the last landing, and that was its last answer. -/
def Shows (v : ℕ) (s : Sales) : Prop := s.failing = false ∧ s.reading = some v

variable {I : Sales → Prop}

theorem fetchTokenAccountRawWithDecimals_shows (hI : Kept b mint I) (ata : Address) {s : Sales}
    (hs : I s) :
    wp (Sales.note b mint) (fetchTokenAccountRawWithDecimals ata)
      (fun r t => I t ∧ ∀ raw d, r = .ok (raw, d) → Shows raw t) s := by
  apply wp_ask
  intro (resp : Except String TokenAmount)
  have ht := hI s (.getTokenAccountBalance ata) resp rfl hs
  rcases resp with e | ⟨(e | raw), decimals⟩
  · exact ⟨ht, by simp⟩
  · exact ⟨ht, by simp⟩
  · refine ⟨ht, ?_⟩
    intro raw' d hr
    cases hr
    exact ⟨rfl, rfl⟩

theorem fetchTokenAccountRaw_shows (hI : Kept b mint I) (ata : Address) {s : Sales} (hs : I s) :
    wp (Sales.note b mint) (fetchTokenAccountRaw ata)
      (fun r t => I t ∧ ∀ raw, r = .ok raw → Shows raw t) s := by
  apply wp_bind (fetchTokenAccountRawWithDecimals_shows hI ata hs)
  · intro ⟨raw, d⟩ t ht
    refine ⟨ht.1, ?_⟩
    intro raw' hr
    cases hr
    exact ht.2 raw d rfl
  · intro e t ht
    exact ⟨ht.1, by simp⟩

/-- The reading that takes a failure for zero: what it returns was shown, unless it is zero. -/
theorem fetchTokenAccountRawOrZero_shows (hI : Kept b mint I) (ata : Address) {s : Sales}
    (hs : I s) :
    wp (Sales.note b mint) (fetchTokenAccountRawOrZero ata)
      (fun r t => I t ∧ ∃ raw, r = .ok raw ∧ (raw ≠ 0 → Shows raw t)) s := by
  apply wp_inspect (fetchTokenAccountRaw_shows hI ata hs)
  intro answer t ht
  cases answer with
  | error e => exact ⟨ht.1, 0, rfl, fun h => absurd rfl h⟩
  | ok raw => exact ⟨ht.1, raw, rfl, fun _ => ht.2 raw rfl⟩

theorem Shows.atRest {v : ℕ} {s : Sales} (h : Shows v s) (hs : 1 ≤ s.submitted) : AtRest s :=
  ⟨hs, h.1, by rw [h.2]; rfl⟩

theorem pollAtaConfirmsSell_ends {ata : Address} (hata : b.IsAta mint ata) (preRaw soldRaw : ℕ)
    (expectAtaClosed : Bool) (mint' : Address) (timeoutSecs : ℕ) {s : Sales}
    (hs : Underway S c raw s) :
    wp (Sales.note b mint)
      (pollAtaConfirmsSell ata preRaw soldRaw expectAtaClosed mint' timeoutSecs)
      (Ends S c fun _ => Calm S (c + raw)) s := by
  have hlabel : "poll_ata_confirms_sell" ≠ closeAtaLabel := by decide
  apply wp_retry (I := Underway S c raw) _ _ hs
  intro left again s hagain hs
  dsimp only
  split
  · apply wp_ask
    intro (account : Except String (Option Account))
    have ht := kept_underway b mint s (.getAccount ata) account rfl hs
    rcases account with msg | (_ | account)
    · exact untilTimeout_ends hlabel _ _ ht hagain
    · -- the account is gone
      refine ⟨ht.idle, Shows.atRest (v := 0) ⟨rfl, ?_⟩ ht.submitted⟩
      show (if 0 < 0 then none else (if b.IsAta mint ata then some 0 else none).or s.reading)
        = some 0
      simp [hata]
    · exact untilTimeout_ends hlabel _ _ ht hagain
  · apply wp_inspect (fetchTokenAccountRawWithDecimals_shows (kept_underway b mint) ata hs)
    intro answer t ht
    cases answer with
    | error e => exact untilTimeout_ends hlabel _ _ ht.1 hagain
    | ok a =>
      obtain ⟨postRaw, d⟩ := a
      dsimp only
      split
      · exact ⟨ht.1.idle, (ht.2 postRaw d rfl).atRest ht.1.submitted⟩
      · exact untilTimeout_ends hlabel _ _ ht.1 hagain

/-! ## After the last landing -/

/-- A question that does not disturb a calm: it neither submits nor builds anything, apart from
the close of an emptied account. -/
def Query.Quiet (mint : Address) : Query → Prop
  | .addBalance _ => True
  | .getTokenAccountBalance _ => True
  | .walletNetSol _ => True
  | .getLatestBlockhash label => label = closeAtaLabel
  | .sendTransaction label tx _ => label = closeAtaLabel ∧ tx.tokensOut mint = 0
  | .getSignatureStatus label _ => label = closeAtaLabel
  | .elapsed label => label = closeAtaLabel
  | _ => False

theorem Calm.note {s : Sales} (h : Calm S c s) {q : Query} (hq : q.Quiet mint) (a : NodeAnswer q) :
    Calm S c (s.note b mint ⟨q, a⟩) := by
  obtain ⟨hidle, hrest⟩ := h
  have hsold : soldBy mint ⟨q, a⟩ = 0 := by
    cases q with
    | sendTransaction label tx skip =>
      rcases soldBy_submission mint (x := ⟨.sendTransaction label tx skip, a⟩) rfl
        with h | h
      · exact h
      · rw [h]
        exact hq.2
    | jupiterExecute id tx => exact hq.elim
    | _ => rfl
  have hfails : fails ⟨q, a⟩ = false := by
    cases q with
    | getLatestBlockhash label => simp [fails, show label = closeAtaLabel from hq]
    | sendTransaction label tx skip => simp [fails, hq.1]
    | getSignatureStatus label sig => simp [fails, show label = closeAtaLabel from hq]
    | elapsed label => simp [fails, show label = closeAtaLabel from hq]
    | addBalance delta => rfl
    | getTokenAccountBalance ata => rfl
    | walletNetSol sig => rfl
    | _ => exact hq.elim
  have hamounts : (s.note b mint ⟨q, a⟩).amounts = s.amounts := by simp [Sales.note, hsold]
  refine ⟨⟨?_, ?_⟩, ⟨?_, hfails, ?_⟩⟩
  · rw [hamounts]
    exact hidle.amounts
  · intro hstray
    rw [hamounts]
    exact hidle.within (Bool.or_eq_false_iff.mp hstray).1
  · exact le_trans hrest.submitted (Nat.le_add_right _ _)
  · show (if 0 < soldBy mint ⟨q, a⟩ then none else (Sales.shown b mint ⟨q, a⟩).or s.reading).isSome
    rw [hsold, if_neg (lt_irrefl 0), Option.isSome_or, hrest.reading, Bool.or_true]

/-- A part that asks only quiet questions keeps a calm. -/
theorem wp_quiet {α : Type} {p : Call α} (hp : Asks (Query.Quiet mint) p) {s : Sales}
    (hs : Calm S c s) : wp (Sales.note b mint) p (fun _ => Calm S c) s :=
  wp_of_asks (fun _ a _ hq ht => ht.note hq a) hp hs

end

end Loggaper
