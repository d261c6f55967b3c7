import Loggaper.Solana.CurveSales

/-!
# Full exits

A full exit reads the balance of the account and sells it. While no curve clamps the sale, its
`Ok` follows a reading that shows the account empty up to the tolerance of the poll. A clamped
sale can return `Ok` with any remainder: through Jupiter it is not drained, and the drain stops
without an error when it cannot go on.

- `sell_empties`: a sale that is not clamped leaves dust at most.
- `fullExit_empties_iff`: when an `Ok` means that nothing was left.
-/

namespace Loggaper

open Attempt

/-! ## What an `Ok` is worth -/

/-- An `Ok` means that at most the code's own bound for dust is left of `start` raw units. -/
def FullExitEmpties (mint : Address) (start : ℕ)
    (run : Except BrokerError SellReceipt × Record) : Prop :=
  run.1.toOption ≠ none → start - rawSold mint run.2 ≤ 1000

instance (mint : Address) (start : ℕ) (run : Except BrokerError SellReceipt × Record) :
    Decidable (FullExitEmpties mint start run) :=
  inferInstanceAs (Decidable (_ → _))

/-- The node shows only what is left of the `start` raw units of the account, when it answers. -/
def Honest (b : SolanaBroker) (mint : Address) (start : ℕ) (E : World) : Prop :=
  ∀ h q v, Sales.shown b mint ⟨q, E h q⟩ = some v → v = start - rawSold mint h

/-- The balance that the node showed last, when nothing has left the account since. -/
def lastReading (b : SolanaBroker) (mint : Address) (h : Record) : Option ℕ :=
  (Sales.of b mint h).reading

/-- With an honest node the last reading is what is left. -/
theorem lastReading_honest {b : SolanaBroker} {mint : Address} {start : ℕ} {E : World}
    (hE : Honest b mint start E) (p : Call SellReceipt) :
    ∀ v, lastReading b mint (exec E p).2 = some v → v = start - rawSold mint (exec E p).2 := by
  have hinv : ∀ v, (Sales.of b mint (exec E p).2).reading = some v →
      v = start - (Sales.of b mint (exec E p).2).amounts.sum := by
    apply exec_invariant (I := fun s : Sales => ∀ v, s.reading = some v → v = start - s.amounts.sum)
    · intro h q hI v hv
      have hamounts := Sales.of_amounts b mint h
      change (if 0 < soldBy mint ⟨q, E h q⟩ then none
        else (Sales.shown b mint ⟨q, E h q⟩).or (Sales.of b mint h).reading) = some v at hv
      show v = start - ((Sales.of b mint h).amounts ++
        if 0 < soldBy mint ⟨q, E h q⟩ then [soldBy mint ⟨q, E h q⟩] else []).sum
      split at hv
      · cases hv
      · next hpos =>
        rw [if_neg hpos, List.append_nil]
        rcases Option.or_eq_some_iff.mp hv with hv | ⟨-, hv⟩
        · rw [hamounts]
          exact hE h q v hv
        · exact hI v hv
    · intro v hv
      cases hv
  intro v hv
  rw [rawSold, ← Sales.of_amounts b]
  exact hinv v hv

/-! ## Exits that are not clamped -/

/-- What an unclamped exit is told before it submits anything: the balance with six decimals,
each time it asks, and no curve that clamps `start` units. -/
def plain (b : SolanaBroker) (mint : Address) (start : ℕ) : Exchange NodeAnswer → Bool
  | ⟨.getTokenAccountBalance _, .ok ⟨.ok raw, decimals⟩⟩ => raw ≤ u64Max && decimals == 6
  | ⟨.getTokenAccountBalance _, _⟩ => false
  | ⟨.getAccount a, .ok (some account)⟩ =>
    a != b.boundingCurve mint || match decodeBondingCurve account.data with
      | .ok curve => !decide (exceedsSafetyCap start curve)
      | .error _ => true
  | _ => true

/-- Everything before the first submission of a call is plain. -/
def UnclampedExit (b : SolanaBroker) (mint : Address) (start : ℕ) (h : Record) : Prop :=
  (h.takeWhile fun x => x.query.submitted.isNone).all (plain b mint start) = true

/-- The contract of an unclamped exit with an honest node. -/
def ExitContract (b : SolanaBroker) (mint : Address) (start : ℕ) (s : Sales)
    (x : Exchange NodeAnswer) : Prop :=
  (∀ v, Sales.shown b mint x = some v → v = start - s.amounts.sum) ∧
    (s.submitted = 0 → plain b mint start x = true)

/-- At most dust is left of `start` raw units. -/
def Emptied (start : ℕ) (s : Sales) : Prop := start ≤ s.amounts.sum + 1000

/-- A value leaves at most dust behind. -/
def Empties {α : Type} (start : ℕ) : Except BrokerError α → Sales → Prop
  | .ok _, s => Emptied start s
  | .error _, _ => True

section
variable {b : SolanaBroker} {mint : Address} {start : ℕ} {α β : Type}

theorem emptied_note (s : Sales) (x : Exchange NodeAnswer) (h : Emptied start s) :
    Emptied start (s.note b mint x) := by
  unfold Emptied at h ⊢
  show start ≤ (s.amounts ++ _).sum + 1000
  rw [List.sum_append]
  omega

/-- Once the account is empty it stays so. -/
theorem empties_rest (p : Call α) {s : Sales} (hs : Emptied start s) :
    wpUnder (ExitContract b mint start) (Sales.note b mint) p (Empties start) s := by
  apply wp_mono _ (wp_invariant (fun s x _ h => emptied_note s x h) p hs)
  intro answer t ht
  cases answer with
  | error e => trivial
  | ok a => exact ht

theorem empties_bind {p : Call α} {f : α → Call β} {s : Sales}
    (hp : wpUnder (ExitContract b mint start) (Sales.note b mint) p (Empties start) s) :
    wpUnder (ExitContract b mint start) (Sales.note b mint) (p >>= f) (Empties start) s := by
  apply wp_bind hp
  · intro a t ht
    exact empties_rest (f a) ht
  · intro e t _
    trivial

/-- When the rest empties the account, it does not matter what goes before. -/
theorem empties_then (p : Call α) {f : α → Call β} {s : Sales}
    (rest : ∀ a t,
      wpUnder (ExitContract b mint start) (Sales.note b mint) (f a) (Empties start) t) :
    wpUnder (ExitContract b mint start) (Sales.note b mint) (p >>= f) (Empties start) s := by
  apply wp_bind (wp_invariant (I := fun _ => True) (fun _ _ _ h => h) p trivial)
  · intro a t _
    exact rest a t
  · intro e t _
    trivial

/-- A try that empties the account when it succeeds, and what follows its error. -/
theorem empties_inspect {p : Call α} {f : Except BrokerError α → Call β} {s : Sales}
    (hp : wpUnder (ExitContract b mint start) (Sales.note b mint) p (Empties start) s)
    (herr : ∀ e t, wpUnder (ExitContract b mint start) (Sales.note b mint) (f (.error e))
      (Empties start) t) :
    wpUnder (ExitContract b mint start) (Sales.note b mint) (inspect p >>= f) (Empties start)
      s := by
  apply wp_inspect hp
  intro answer t ht
  cases answer with
  | error e => exact herr e t
  | ok a => exact empties_rest _ ht

/-! ### Polls -/

theorem untilTimeout_empties {label : String} (timeoutMs : ℕ) (timedOut : Elapsed → BrokerError)
    {again : Option (Call α)}
    (hagain : ∀ p ∈ again, ∀ t,
      wpUnder (ExitContract b mint start) (Sales.note b mint) p (Empties start) t) (s : Sales) :
    wpUnder (ExitContract b mint start) (Sales.note b mint)
      (untilTimeout label timeoutMs timedOut again) (Empties start) s := by
  apply empties_then
  intro elapsed t
  cases again with
  | none => trivial
  | some rest =>
    dsimp only
    split
    · trivial
    · exact hagain rest rfl t

/-- A balance that an honest node shows is what is left. -/
theorem fetchTokenAccountRawWithDecimals_left (ata : Address) (s : Sales) :
    wpUnder (ExitContract b mint start) (Sales.note b mint) (fetchTokenAccountRawWithDecimals ata)
      (fun r t => ∀ raw d, r = .ok (raw, d) → raw = start - t.amounts.sum) s := by
  apply wp_ask_under
  intro (resp : Except String TokenAmount) hok
  rcases resp with e | ⟨(e | raw), decimals⟩
  · intro raw d hr
    cases hr
  · intro raw d hr
    cases hr
  · intro raw' d hr
    cases hr
    show raw = start - (s.amounts ++ []).sum
    rw [List.append_nil]
    exact hok.1 raw rfl

theorem fetchTokenAccountRawOrZero_le (ata : Address) (s : Sales) :
    wpUnder (ExitContract b mint start) (Sales.note b mint) (fetchTokenAccountRawOrZero ata)
      (fun r _ => ∃ raw ≤ start, r = .ok raw) s := by
  apply wp_inspect (P := fun r _ => ∀ raw, r = .ok raw → raw ≤ start)
  · apply wp_bind (fetchTokenAccountRawWithDecimals_left ata s)
    · intro ⟨raw, d⟩ t ht raw' hr
      cases hr
      have := ht raw d rfl
      omega
    · intro e t _ raw hr
      cases hr
  · intro answer t ht
    cases answer with
    | error e => exact ⟨0, Nat.zero_le _, rfl⟩
    | ok raw => exact ⟨raw, ht raw rfl, rfl⟩

/-- The drop that the poll asks for leaves dust at most. -/
theorem left_le_of_drop {preRaw soldRaw postRaw : ℕ} (hsold : 0 < soldRaw)
    (hpre : preRaw ≤ soldRaw) (hdrop : minDrop soldRaw ≤ preRaw - postRaw) : postRaw ≤ 1000 := by
  have hslack : sellRawDeltaSlack soldRaw ≤ 100 := by
    unfold sellRawDeltaSlack
    split
    · omega
    · exact min_le_right _ _
  have h₁ : soldRaw - sellRawDeltaSlack soldRaw ≤ minDrop soldRaw := le_max_left _ _
  have h₂ : 1 ≤ minDrop soldRaw := by
    unfold minDrop
    rw [if_pos hsold]
    exact le_max_right _ _
  omega

theorem pollAtaConfirmsSell_empties {ata : Address} (hata : b.IsAta mint ata)
    {preRaw soldRaw : ℕ} (hsold : 0 < soldRaw) (hpre : preRaw ≤ soldRaw)
    (expectAtaClosed : Bool) (mint' : Address) (timeoutSecs : ℕ) (s : Sales) :
    wpUnder (ExitContract b mint start) (Sales.note b mint)
      (pollAtaConfirmsSell ata preRaw soldRaw expectAtaClosed mint' timeoutSecs)
      (Empties start) s := by
  apply wp_retry (I := fun _ => True) _ _ trivial
  intro left again s hagain _
  have hagain' (p) (hp : p ∈ again) (t : Sales) := hagain p hp t trivial
  dsimp only
  split
  · apply wp_ask_under
    intro (account : Except String (Option Account)) hok
    rcases account with msg | (_ | account)
    · exact untilTimeout_empties _ _ hagain' _
    · -- the account is gone
      have hshown : Sales.shown b mint ⟨.getAccount ata, .ok none⟩ = some 0 := if_pos hata
      have hleft := hok.1 0 hshown
      apply emptied_note
      unfold Emptied
      omega
    · exact untilTimeout_empties _ _ hagain' _
  · apply wp_inspect (fetchTokenAccountRawWithDecimals_left ata s)
    intro answer t ht
    cases answer with
    | error e => exact untilTimeout_empties _ _ hagain' _
    | ok a =>
      obtain ⟨postRaw, d⟩ := a
      dsimp only
      split
      · next hdrop =>
        have hleft := ht postRaw d rfl
        have hdust := left_le_of_drop hsold hpre hdrop
        show start ≤ t.amounts.sum + 1000
        omega
      · exact untilTimeout_empties _ _ hagain' _

/-! ### The Jupiter route -/

theorem jupiterSellOverSteps_empties {once : ℕ → Bool → Call SellReceipt}
    (honce : ∀ slippageBps allow s, wpUnder (ExitContract b mint start) (Sales.note b mint)
      (once slippageBps allow) (Empties start) s) (maxSlip : ℕ) (steps : List ℕ) (s : Sales) :
    wpUnder (ExitContract b mint start) (Sales.note b mint)
      (jupiterSellOverSteps once maxSlip steps) (Empties start) s := by
  induction steps generalizing s with
  | nil => exact honce maxSlip true s
  | cons slipBps rest ih =>
    apply empties_inspect (honce slipBps false s)
    intro e t
    dsimp only
    split
    · exact ih t
    · trivial

theorem jupiterSellChunk_empties {sale : Sale} (hata : b.IsAta mint sale.ata)
    {preSellRaw chunkRaw : ℕ} (hchunk : 0 < chunkRaw) (hpre : preSellRaw ≤ chunkRaw)
    (closeAtaAfter : Bool) (slippageBps : ℕ) (s : Sales) :
    wpUnder (ExitContract b mint start) (Sales.note b mint)
      (jupiterSellChunk b sale preSellRaw chunkRaw closeAtaAfter slippageBps)
      (Empties start) s := by
  rw [jupiterSellChunk, if_neg (Nat.pos_iff_ne_zero.mp hchunk)]
  apply jupiterSellOverSteps_empties
  intro slippageBps allow s
  apply empties_then
  intro build s
  apply empties_then
  intro sent s
  exact empties_bind (pollAtaConfirmsSell_empties hata hchunk hpre false sale.mint 90 s)

/-- The last chunk is at least what the others leave of the balance. -/
theorem jupiterSellChunks_empties {sale : Sale} (hata : b.IsAta mint sale.ata) (doCloseAta : Bool)
    {raw : ℕ} (rest : List ℕ) (hchunks : ∀ r ∈ raw :: rest, 0 < r) {preRaw : ℕ}
    (hpre : preRaw ≤ (raw :: rest).sum) (total : SellReceipt) (s : Sales) :
    wpUnder (ExitContract b mint start) (Sales.note b mint)
      (jupiterSellChunks b sale doCloseAta (raw :: rest) preRaw total) (Empties start) s := by
  induction rest generalizing raw preRaw total s with
  | nil =>
    rw [List.sum_singleton] at hpre
    exact empties_bind (jupiterSellChunk_empties hata (hchunks raw (List.mem_cons_self ..)) hpre
      _ _ s)
  | cons next rest ih =>
    apply empties_then
    intro r t
    apply ih (fun r hr => hchunks r (List.mem_cons_of_mem _ hr))
    rw [List.sum_cons] at hpre
    omega

theorem sellTokensPostGraduation_empties {sale : Sale} (hata : b.IsAta mint sale.ata)
    {preSellRaw soldRaw : ℕ} (hsold : 0 < soldRaw) (hpre : preSellRaw ≤ soldRaw)
    (doCloseAta : Bool) (s : Sales) :
    wpUnder (ExitContract b mint start) (Sales.note b mint)
      (sellTokensPostGraduation b sale preSellRaw soldRaw doCloseAta) (Empties start) s := by
  obtain ⟨first, rest, hparts, hsum, hchunks⟩ := jupiterChunkAmounts_parts hsold
  unfold sellTokensPostGraduation
  rw [jupiterSellInParts, jupiterChunkAmounts_one hsold]
  apply empties_inspect (jupiterSellChunks_empties hata doCloseAta []
    (fun r hr => (legAmount_self hsold r hr).1) (by simpa using hpre) _ s)
  intro e t
  dsimp only
  rw [jupiterSellInParts, hparts]
  apply empties_inspect (jupiterSellChunks_empties hata doCloseAta rest
    (fun r hr => (hchunks r hr).1) (by omega) _ t)
  intro e u
  trivial

/-! ### `sell` -/

/-- A reading that takes a failure for zero, then the rest. -/
theorem empties_reading (ata : Address) {f : ℕ → Call β} {s : Sales}
    (rest : ∀ raw ≤ start, ∀ t, wpUnder (ExitContract b mint start) (Sales.note b mint) (f raw)
      (Empties start) t) :
    wpUnder (ExitContract b mint start) (Sales.note b mint) (fetchTokenAccountRawOrZero ata >>= f)
      (Empties start) s := by
  apply wp_bind (fetchTokenAccountRawOrZero_le ata s)
  · intro raw t ⟨raw', hle, hr⟩
    cases hr
    exact rest raw hle t
  · intro e t ⟨raw, _, hr⟩
    cases hr

theorem sellOnCurve_empties {sale : Sale} (hata : b.IsAta mint sale.ata) (pool : PoolView)
    (curve : Option BondingCurveState) (hstart : 0 < start) (s : Sales) :
    wpUnder (ExitContract b mint start) (Sales.note b mint)
      (sellOnCurve b sale pool curve start false true) (Empties start) s := by
  unfold sellOnCurve
  dsimp only
  split
  · trivial
  · apply empties_reading
    intro preSellRaw hpre t
    apply wp_inspect (wp_invariant (I := fun _ => True) (fun _ _ _ h => h) _ trivial)
    intro answer u _
    cases answer with
    | error e =>
      dsimp only
      split
      · exact sellTokensPostGraduation_empties hata hstart hpre _ u
      · trivial
    | ok sig => exact empties_bind (pollAtaConfirmsSell_empties hata hstart hpre _ sale.mint 45 u)

/-- The curve that an unclamped exit reads does not clamp it. -/
theorem curveStateOpt_unclamped {s : Sales} (hs : s.submitted = 0) :
    wpUnder (ExitContract b mint start) (Sales.note b mint) (curveStateOpt b mint)
      (fun r _ => ∃ curve, r = .ok curve ∧ firstLeg start curve = (start, false)) s := by
  apply wp_inspect (P := fun r _ => ∀ curve, r = .ok curve → ¬ exceedsSafetyCap start curve)
  · apply wp_ask_under
    intro (resp : Except String (Option Account)) hok
    rcases resp with e | (_ | account)
    · intro curve hr
      cases hr
    · intro curve hr
      cases hr
    · have hplain : plain b mint start ⟨.getAccount (b.boundingCurve mint),
          .ok (some account)⟩ = true := hok.2 hs
      show wpUnder _ _ (orThrow id (decodeBondingCurve account.data)) _ _
      cases hdec : decodeBondingCurve account.data with
      | error e =>
        intro curve hr
        cases hr
      | ok c =>
        intro curve hr
        cases hr
        simpa [plain, hdec] using hplain
  · intro answer t ht
    cases answer with
    | error e => exact ⟨none, rfl, rfl⟩
    | ok curve =>
      refine ⟨some curve, rfl, ?_⟩
      show (if exceedsSafetyCap start curve then _ else (start, false)) = _
      rw [if_neg (ht curve rfl)]

/-- The balance that an unclamped exit reads. -/
theorem fetchTokenAccountRawWithDecimals_plain (ata : Address) {s : Sales} (hs : Untouched s) :
    wpUnder (ExitContract b mint start) (Sales.note b mint) (fetchTokenAccountRawWithDecimals ata)
      (fun r t => r = .ok (start, 6) ∧ start ≤ u64Max ∧ Untouched t) s := by
  apply wp_ask_under
  intro (resp : Except String TokenAmount) hok
  have ht := kept_untouched b mint s (.getTokenAccountBalance ata) resp rfl hs
  have hplain := hok.2 hs.1
  rcases resp with e | ⟨(e | raw), decimals⟩
  · cases hplain
  · cases hplain
  · have hraw : raw = start := by
      have := hok.1 raw rfl
      rw [hs.2] at this
      exact this
    subst hraw
    have hbound : (decide (raw ≤ u64Max) && decimals == 6) = true := hplain
    rw [Bool.and_eq_true, decide_eq_true_eq, beq_iff_eq] at hbound
    refine ⟨?_, hbound.1, ht⟩
    rw [← hbound.2]

theorem roundU64_natCast {n : ℕ} (h : n ≤ u64Max) : roundU64 (n : ℚ) = n := by
  rw [roundU64, round_natCast, Int.toNat_natCast, min_eq_left h]

theorem actualTokenAmount_plain (sale : Sale) (tokenAmount : ℚ) (hstart : 0 < start) {s : Sales}
    (hs : Untouched s) :
    wpUnder (ExitContract b mint start) (Sales.note b mint)
      (actualTokenAmount sale tokenAmount true)
      (fun r t => ∃ amount, r = .ok amount ∧ roundU64 (amount * 1_000_000) = start ∧ Untouched t)
      s := by
  apply wp_inspect (fetchTokenAccountRawWithDecimals_plain sale.ata hs)
  rintro r t ⟨rfl, hbound, ht⟩
  refine ⟨(start : ℚ) / pow10U64 6, ?_, ?_, ht⟩
  · show (Except.ok (if start > 0 then (start : ℚ) / pow10U64 6 else 0) : Except BrokerError ℚ) = _
    rw [if_pos hstart]
  · have hpow : (pow10U64 6 : ℚ) = 1_000_000 := by norm_num [pow10U64]
    rw [hpow, div_mul_cancel₀ _ (by norm_num)]
    exact roundU64_natCast hbound

theorem sellAmount_empties {sale : Sale} (hsale : sale.mint = mint) (hata : b.IsAta mint sale.ata)
    (pool : PoolView) {amount : ℚ} (hstart : 0 < start)
    (hamount : roundU64 (amount * 1_000_000) = start) {s : Sales} (hs : s.submitted = 0) :
    wpUnder (ExitContract b mint start) (Sales.note b mint) (sellAmount b sale pool amount true)
      (Empties start) s := by
  subst hsale
  apply wp_bind (curveStateOpt_unclamped hs)
  · intro curve t ⟨curve', hr, hleg⟩
    cases hr
    rw [hamount, hleg]
    dsimp only
    split
    · apply empties_reading
      intro preRaw hpre u
      exact sellTokensPostGraduation_empties hata hstart hpre _ u
    · exact sellOnCurve_empties hata pool curve hstart t
  · intro e t ⟨curve, hr, _⟩
    cases hr

/-- **An exit that is not clamped leaves dust at most**, if it returns `Ok`. -/
theorem sell_empties (tokenAmount : ℚ) (pool : PoolView) :
    wpUnder (ExitContract b mint start) (Sales.note b mint) (sell b mint tokenAmount pool true)
      (Empties start) Sales.start := by
  by_cases hdust : start ≤ 1000
  · apply empties_rest
    show start ≤ 0 + 1000
    omega
  · have hstart : 0 < start := by omega
    apply wp_bind (wp_under (wp_kept (kept_untouched b mint) (reads_fetchMintTokenKind mint)
      untouched_start))
    · intro mintToken s hs
      apply wp_bind (actualTokenAmount_plain _ tokenAmount hstart hs)
      · intro amount t ⟨amount', hr, hround, ht⟩
        cases hr
        rw [if_neg (by simp)]
        exact sellAmount_empties rfl (isAta_saleOf b mint mintToken _) pool hstart hround ht.1
      · intro e t ⟨amount, hr, _⟩
        cases hr
    · intro e t _
      trivial

end

/-- A prefix of the record without submissions is plain in an unclamped exit. -/
theorem UnclampedExit.plain_of_prefix {b : SolanaBroker} {mint : Address} {start : ℕ} {h : Record}
    (hu : UnclampedExit b mint start h) {g : Record} {x : Exchange NodeAnswer} (hg : g ++ [x] <+: h)
    (hsub : submissions g = 0) : plain b mint start x = true := by
  obtain ⟨rest, rfl⟩ := hg
  have hnone : ∀ y ∈ g, y.query.submitted.isNone = true := by
    intro y hy
    have := List.countP_eq_zero.mp hsub y hy
    obtain ⟨q, a⟩ := y
    cases q <;> first | rfl | exact absurd rfl this
  by_cases hx : x.query.submitted.isNone = true
  · apply List.all_eq_true.mp hu
    rw [List.append_assoc, List.takeWhile_append_of_pos hnone, List.singleton_append,
      List.takeWhile_cons_of_pos (by simpa using hx)]
    simp
  · -- submissions are plain
    obtain ⟨q, a⟩ := x
    cases q <;> first | rfl | exact absurd rfl hx

theorem unclamped_empties {b : SolanaBroker} {mint : Address} (tokenAmount : ℚ) (pool : PoolView)
    {start : ℕ} {E : World} (hE : Honest b mint start E)
    (hu : UnclampedExit b mint start (exec E (sell b mint tokenAmount pool true)).2) :
    FullExitEmpties mint start (exec E (sell b mint tokenAmount pool true)) := by
  have hcontract : ∀ g q, g ++ [⟨q, E g q⟩] <+: (exec E (sell b mint tokenAmount pool true)).2 →
      ExitContract b mint start (g.foldl (Sales.note b mint) Sales.start) ⟨q, E g q⟩ := by
    intro g q hg
    refine ⟨?_, ?_⟩
    · intro v hv
      have hleft := hE g q v hv
      rw [rawSold, ← Sales.of_amounts b] at hleft
      exact hleft
    · intro hsub
      apply hu.plain_of_prefix hg
      rw [← Sales.of_submitted b mint]
      exact hsub
  have hexec := wp_exec_along hcontract (sell_empties tokenAmount pool)
  revert hexec
  generalize exec E (sell b mint tokenAmount pool true) = run
  obtain ⟨(e | r), rec⟩ := run
  · intro _ hok
    exact absurd rfl hok
  · intro (hexec : Emptied start (Sales.of b mint rec)) _
    rw [Emptied, Sales.of_amounts] at hexec
    show start - (soldAmounts mint rec).sum ≤ 1000
    omega

/-- **When a full exit empties the account.** With a node that shows true balances: exactly when
no curve clamps the exit, nothing is submitted, the last answer of the call is a failure, or the
last balance that the node shows is dust. -/
theorem fullExit_empties_iff (b : SolanaBroker) (mint : Address) (tokenAmount : ℚ)
    (pool : PoolView) (start : ℕ) (E : World) (hE : Honest b mint start E) :
    FullExitEmpties mint start (exec E (sell b mint tokenAmount pool true)) ↔
      UnclampedExit b mint start (exec E (sell b mint tokenAmount pool true)).2 ∨
        submissions (exec E (sell b mint tokenAmount pool true)).2 = 0 ∨
        endsInFailure (exec E (sell b mint tokenAmount pool true)).2 = true ∨
        ∃ v ≤ 1000, lastReading b mint (exec E (sell b mint tokenAmount pool true)).2 = some v := by
  have hsold := sold_of_run b mint tokenAmount pool true E
  have hread := lastReading_honest hE (sell b mint tokenAmount pool true)
  have hunclamped := unclamped_empties tokenAmount pool hE
  revert hsold hread hunclamped
  generalize exec E (sell b mint tokenAmount pool true) = run
  obtain ⟨(e | r), rec⟩ := run
  · intro hsold _ _
    simp only [FullExitEmpties, Except.toOption, ne_eq, not_true_eq_false, false_imp_iff, true_iff]
    rcases hsold with h | ⟨h, -⟩
    · rw [Sales.of_failing] at h
      exact .inr (.inr (.inl h))
    · rw [Sales.of_submitted] at h
      exact .inr (.inl h)
  · rintro (hrest : AtRest (Sales.of b mint rec)) (hread : ∀ v, lastReading b mint rec = some v →
      v = start - rawSold mint rec) hunclamped
    obtain ⟨v, hv⟩ := Option.isSome_iff_exists.mp hrest.reading
    have hsub : submissions rec ≠ 0 := by
      rw [← Sales.of_submitted b mint]
      exact Nat.pos_iff_ne_zero.mp hrest.submitted
    have hfail : endsInFailure rec = false := by
      rw [← Sales.of_failing b mint]
      exact hrest.failing
    have hleft := hread v hv
    simp only [FullExitEmpties, Except.toOption, ne_eq, reduceCtorEq, not_false_eq_true,
      true_imp_iff, hsub, hfail, Bool.false_eq_true, false_or]
    constructor
    · intro hle
      exact .inr ⟨v, by omega, hv⟩
    · rintro (hu | ⟨w, hw, hw'⟩)
      · exact hunclamped hu (by simp [Except.toOption])
      · have hvw : v = w := Option.some.inj (hv.symm.trans hw')
        omega

theorem sellWorld_honest {start : ℕ} {account : Record → Address → Except String (Option Account)}
    (hacc : ∀ h a, account h a = .ok none → defaultBroker.IsAta 7 a ∧ start ≤ rawSold 7 h)
    (send : Record → Sent (Except String Signature))
    (status : Record → Except String (Option TransactionStatus)) :
    Honest defaultBroker 7 start (sellWorld start account send status) := by
  intro h q v hv
  cases q with
  | getTokenAccountBalance ata =>
    have : some (start - rawSold 7 h) = some v := hv
    exact (Option.some.inj this).symm
  | getAccount a =>
    have hshown : Sales.shown defaultBroker 7 ⟨.getAccount a, account h a⟩ = some v := hv
    cases hanswer : account h a with
    | error e =>
      rw [hanswer] at hshown
      cases hshown
    | ok acc =>
      rw [hanswer] at hshown
      cases acc with
      | none =>
        obtain ⟨hata, hempty⟩ := hacc h a hanswer
        have : (if defaultBroker.IsAta 7 a then some 0 else none) = some v := hshown
        rw [if_pos hata] at this
        have := Option.some.inj this
        omega
      | some acc => cases hshown
  | _ => cases hv

/-- The token account is gone once everything has left it. -/
def closedWhenEmpty (start : ℕ) (h : Record) (a : Address) : Except String (Option Account) :=
  if a = 2 ∧ start ≤ rawSold 7 h then .ok none else accountsOf openCurve a

/-- An exit in one transaction that sells and closes. -/
theorem fullExit_empties_iff_closed :
    FullExitEmpties 7 400_000 (exec
      (sellWorld 400_000 (closedWhenEmpty 400_000) landing fun _ => executed)
      (sell defaultBroker 7 (2 / 5) ⟨1, 5⟩ true)) := by
  apply (fullExit_empties_iff defaultBroker 7 (2 / 5) ⟨1, 5⟩ 400_000 _ ?_).mpr
  · exact .inl (by unfold UnclampedExit; decide +kernel)
  · apply sellWorld_honest
    intro h a hnone
    unfold closedWhenEmpty at hnone
    split at hnone
    · next hempty => exact ⟨.inl hempty.1, hempty.2⟩
    · cases hnone

/-- A curve whose market cap is above the Jupiter limit. -/
def highMcapCurve : Account := curveAccount 1 255 1 0

/-- The curve can be read until something lands. -/
def curveUntilLanding (h : Record) (a : Address) : Except String (Option Account) :=
  if a ≠ 7 ∧ 0 < landings h then .error "503" else accountsOf openCurve a

/-- **Full exits that leave tokens behind.** A sell clamped to the liquidity of a curve with a
high market cap goes through Jupiter, which sells the clamped amount only. Or the drain of a
clamped sell cannot read the curve. Both return `Ok`, with an honest node. -/
theorem fullExit_leaves_tokens :
    (Honest defaultBroker 7 (2 ^ 47)
        (sellWorld (2 ^ 47) (fun _ => accountsOf highMcapCurve) landing fun _ => executed) ∧
      ¬ FullExitEmpties 7 (2 ^ 47) (exec
        (sellWorld (2 ^ 47) (fun _ => accountsOf highMcapCurve) landing fun _ => executed)
        (sell defaultBroker 7 (2 ^ 47 / 10 ^ 6) ⟨1, 5⟩ true))) ∧
    (Honest defaultBroker 7 (2 ^ 49)
        (sellWorld (2 ^ 49) curveUntilLanding landing fun _ => executed) ∧
      ¬ FullExitEmpties 7 (2 ^ 49) (exec
        (sellWorld (2 ^ 49) curveUntilLanding landing fun _ => executed)
        (sell defaultBroker 7 (2 ^ 49 / 10 ^ 6) ⟨1, 5⟩ true))) := by
  refine ⟨⟨sellWorld_honest ?_ _ _, by decide +kernel⟩,
    ⟨sellWorld_honest ?_ _ _, by decide +kernel⟩⟩
  · intro h a hcon
    cases hcon
  · intro h a hcon
    unfold curveUntilLanding at hcon
    split at hcon <;> cases hcon

end Loggaper
