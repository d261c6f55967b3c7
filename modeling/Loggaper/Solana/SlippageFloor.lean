import Loggaper.Launchpads.Pump.Pool
import Loggaper.Solana.Buy

/-!
# The price under the slippage floor

`SolanaBroker::buy` divides the amount by the pool's price to get the tokens that its slippage
floor promises. A price in SOL for each token, times the billion tokens of the supply, is the
market cap. The cached price is a thousand times that: its quotient scales by `10^9` where the
market cap scales by `10^15` for a supply of `10^9` tokens with six decimals.

The floor is sent in base units, a `u64`: what rounds to zero promises nothing, and what does not
fit promises `u64::MAX` base units.

Main result: `slippageFaithful_iff`, which gives the reserves and amounts under which the two agree.
-/

namespace Loggaper

/-- The pool as the live broker sees it, when its price is defined. -/
def Bonding.view (p : Bonding) : Option PoolView :=
  p.price.map fun c => { price := c.amount.toFloat, creator := p.creator }

/-- Tokens in circulation. -/
def uiSupply : ℚ := 10 ^ 9

/-- What the slippage leaves of the amount. -/
def promisedSol (b : SolanaBroker) (amountSol : ℚ) : ℚ :=
  max (1 - (b.execCfg.slippageBps : ℚ) / 10_000) 0 * amountSol

/-- Price times supply is the market cap, up to one unit of the integer price; and the floor that
the instruction carries is worth, at the price which the market cap implies, what the slippage
leaves of the amount. -/
structure SlippageFaithful (b : SolanaBroker) (p : Bonding) (amountSol : ℚ) : Prop where
  price_matches : ∀ price ∈ p.price, ∀ cap ∈ p.marketCap,
    |price.amount.toFloat * uiSupply - cap.amount.toFloat| < 1 / 10 ^ 9 * uiSupply
  floor_kept : ∀ view ∈ p.view, ∀ cap ∈ p.marketCap,
    promisedSol b amountSol ≤
      (minTokenOut b amountSol view : ℚ) / 10 ^ 6 * (cap.amount.toFloat / uiSupply)

/-- Cutting a scaled quotient to `m` reads its numerator up to multiples of `v * m`. -/
theorem mul_div_mod_eq {v : ℕ} (hv : 0 < v) (s k m : ℕ) :
    s * k / v % m = s % (v * m) * k / v % m := by
  have hs : s * k = s % (v * m) * k + v * (m * (s / (v * m) * k)) := by
    calc s * k = (s % (v * m) + v * m * (s / (v * m))) * k := by rw [Nat.mod_add_div]
      _ = _ := by ring
  rw [hs, Nat.add_mul_div_left _ _ hv, Nat.add_mul_mod_self_left]

namespace Bonding

variable (p : Bonding)

/-! ## Both quotients in 64 bits -/

/-- `virtualSol * 10^9`, without the multiples of the reserves that `as u64` drops. -/
def scaledSol : ℕ := p.virtualSolReserves.raw * 10 ^ 9 % (p.virtualTokenReserves.raw * 2 ^ 64)

def rawPrice : ℕ := p.scaledSol / p.virtualTokenReserves.raw

def rawCap : ℕ := p.scaledSol * 10 ^ 6 / p.virtualTokenReserves.raw % 2 ^ 64

variable {p}

theorem price_eq (hv : 0 < p.virtualTokenReserves.raw) :
    p.price = some (.native (.fromRaw p.rawPrice 9)) := by
  have h : p.virtualTokenReserves.raw ≠ 0 := by omega
  simp only [price, reserveRatio, if_neg h, rawPrice, scaledSol, Nat.mod_mul_right_div_self]
  rfl

theorem marketCap_eq (hv : 0 < p.virtualTokenReserves.raw) :
    p.marketCap = some (.native (.fromRaw p.rawCap 9)) := by
  have h : p.virtualTokenReserves.raw ≠ 0 := by omega
  have hscale : p.virtualSolReserves.raw * 1_000_000_000_000_000 =
      p.virtualSolReserves.raw * 10 ^ 9 * 10 ^ 6 := by ring
  simp only [marketCap, reserveRatio, if_neg h]
  rw [hscale, mul_div_mod_eq hv]
  rfl

/-- The market cap is below a million times the next price. -/
theorem rawCap_lt (hv : 0 < p.virtualTokenReserves.raw) :
    p.rawCap < (p.rawPrice + 1) * 10 ^ 6 := by
  calc p.rawCap ≤ p.scaledSol * 10 ^ 6 / p.virtualTokenReserves.raw := Nat.mod_le _ _
    _ < (p.rawPrice + 1) * 10 ^ 6 := by
      rw [Nat.div_lt_iff_lt_mul hv]
      have : p.scaledSol < p.virtualTokenReserves.raw * (p.rawPrice + 1) :=
        Nat.lt_mul_div_succ p.scaledSol hv
      nlinarith

/-- A price below two raw units leaves the market cap uncut. -/
theorem rawCap_of_rawPrice_lt (hv : 0 < p.virtualTokenReserves.raw) (hp : p.rawPrice < 2) :
    p.rawCap = p.scaledSol * 10 ^ 6 / p.virtualTokenReserves.raw := by
  have hd : p.scaledSol < 2 * p.virtualTokenReserves.raw := (Nat.div_lt_iff_lt_mul hv).mp hp
  apply Nat.mod_eq_of_lt
  rw [Nat.div_lt_iff_lt_mul hv]
  omega

/-! ## Price times supply against the market cap -/

/-- They agree exactly when the raw price is zero or one. -/
theorem price_matches_iff (hv : 0 < p.virtualTokenReserves.raw) :
    (∀ price ∈ p.price, ∀ cap ∈ p.marketCap,
      |price.amount.toFloat * uiSupply - cap.amount.toFloat| < 1 / 10 ^ 9 * uiSupply) ↔
      p.rawPrice < 2 := by
  have hcap : (p.rawCap : ℚ) < (p.rawPrice + 1) * 10 ^ 6 := by exact_mod_cast rawCap_lt hv
  have hcap₀ : (0 : ℚ) ≤ p.rawCap := by positivity
  rw [price_eq hv, marketCap_eq hv]
  simp only [Option.mem_some_iff, forall_eq', Currency.amount, Amount.fromRaw, Amount.toFloat,
    uiSupply, abs_lt]
  constructor
  · intro h
    by_contra hp
    have hp' : (2 : ℚ) ≤ p.rawPrice := by exact_mod_cast not_lt.mp hp
    obtain ⟨_, hlt⟩ := h
    linarith
  · intro hp
    have hle : p.rawPrice * 10 ^ 6 ≤ p.rawCap := by
      rw [rawCap_of_rawPrice_lt hv hp, Nat.mul_comm, Nat.mul_comm p.scaledSol]
      exact Nat.mul_div_le_mul_div_assoc _ _ _
    have hle' : (p.rawPrice : ℚ) * 10 ^ 6 ≤ p.rawCap := by exact_mod_cast hle
    have hp' : (p.rawPrice : ℚ) ≤ 1 := by exact_mod_cast Nat.lt_succ_iff.mp hp
    have hp₀ : (0 : ℚ) ≤ p.rawPrice := by positivity
    rcases Nat.lt_succ_iff_lt_or_eq.mp hp with h | h
    · have : (p.rawPrice : ℚ) = 0 := by exact_mod_cast Nat.lt_one_iff.mp h
      constructor <;> linarith
    · have : (p.rawPrice : ℚ) = 1 := by exact_mod_cast h
      constructor <;> linarith

end Bonding

/-! ## The floor -/

theorem minPositive_pos : 0 < minPositive := by
  unfold minPositive; positivity

theorem promisedSol_nonpos_iff (b : SolanaBroker) (amountSol : ℚ) :
    promisedSol b amountSol ≤ 0 ↔ amountSol ≤ 0 ∨ 10_000 ≤ b.execCfg.slippageBps := by
  have hslip : 10_000 ≤ b.execCfg.slippageBps ↔ 1 - (b.execCfg.slippageBps : ℚ) / 10_000 ≤ 0 := by
    rw [sub_nonpos, le_div_iff₀ (by norm_num), one_mul]
    norm_cast
  rw [promisedSol, hslip]
  constructor
  · intro h
    by_contra! hne
    have : 0 < max (1 - (b.execCfg.slippageBps : ℚ) / 10_000) 0 * amountSol :=
      mul_pos (lt_max_of_lt_left hne.2) hne.1
    linarith
  · rintro (h | h)
    · exact mul_nonpos_of_nonneg_of_nonpos (le_max_right _ _) h
    · rw [max_eq_right h, zero_mul]

theorem minTokenOut_eq (b : SolanaBroker) (view : PoolView) {amountSol : ℚ}
    (h : 0 ≤ promisedSol b amountSol) :
    minTokenOut b amountSol view =
      roundU64 (promisedSol b amountSol / max view.price minPositive * 10 ^ 6) := by
  have hpos : 0 < max view.price minPositive := lt_max_of_lt_right minPositive_pos
  have hout : minTokenOutF b amountSol view =
      promisedSol b amountSol / max view.price minPositive := by
    rw [minTokenOutF, promisedSol]; ring
  rw [minTokenOut, hout, max_eq_left (by positivity)]

/-- A price above twice the implied one breaks every promise. -/
theorem floor_broken {promised price implied : ℚ} (hpromised : 0 < promised) (hprice : 0 < price)
    (h : 2 * implied < price) :
    (roundU64 (promised / price * 10 ^ 6) : ℚ) / 10 ^ 6 * implied < promised := by
  have hround := roundU64_le_two_mul (x := promised / price * 10 ^ 6) (by positivity)
  have htokens : (roundU64 (promised / price * 10 ^ 6) : ℚ) / 10 ^ 6 ≤ 2 * (promised / price) := by
    rw [div_le_iff₀ (by positivity)]
    linarith
  rcases le_or_gt implied 0 with hi | hi
  · exact (mul_nonpos_of_nonneg_of_nonpos (by positivity) hi).trans_lt hpromised
  · calc (roundU64 (promised / price * 10 ^ 6) : ℚ) / 10 ^ 6 * implied
        ≤ 2 * (promised / price) * implied := by gcongr
      _ = promised * (2 * implied / price) := by ring
      _ < promised := mul_lt_of_lt_one_right hpromised ((div_lt_one hprice).mpr h)

/-- At the smallest positive price the floor saturates, or it rounds to what is worth far more
than it promises: it fails only by rounding to zero or by `u64::MAX` base units being too few. -/
theorem floor_at_minPositive {promised : ℚ} {rawCap : ℕ} (hpromised : 0 < promised) :
    promised ≤ (roundU64 (promised / minPositive * 10 ^ 6) : ℚ) / 10 ^ 6 *
        ((rawCap : ℚ) / 10 ^ 9 / uiSupply) ↔
      1 / 2 ≤ promised / minPositive * 10 ^ 6 ∧ promised * 10 ^ 24 ≤ u64Max * rawCap := by
  set tokens : ℚ := promised / minPositive * 10 ^ 6 with htokens
  have hworth : (roundU64 tokens : ℚ) / 10 ^ 6 * ((rawCap : ℚ) / 10 ^ 9 / uiSupply) =
      roundU64 tokens * rawCap / 10 ^ 24 := by
    rw [uiSupply]; field_simp
  rw [hworth, le_div_iff₀ (by positivity)]
  constructor
  · intro h
    have hmax : (roundU64 tokens : ℚ) ≤ u64Max := by exact_mod_cast roundU64_le tokens
    refine ⟨?_, h.trans (by gcongr)⟩
    rw [← roundU64_pos_iff]
    by_contra hzero
    rw [Nat.eq_zero_of_not_pos hzero, Nat.cast_zero, zero_mul] at h
    linarith [mul_pos hpromised (by positivity : (0 : ℚ) < 10 ^ 24)]
  · intro ⟨hhalf, hcap⟩
    have hcap₁ : (1 : ℚ) ≤ rawCap := by
      have : rawCap ≠ 0 := by
        rintro rfl
        rw [Nat.cast_zero, mul_zero] at hcap
        linarith [mul_pos hpromised (by positivity : (0 : ℚ) < 10 ^ 24)]
      exact_mod_cast Nat.one_le_iff_ne_zero.mpr this
    have hfar : promised * 10 ^ 24 ≤ tokens / 2 := by
      have hscale : (2 * 10 ^ 18 : ℚ) ≤ 2 ^ 1022 := by
        calc (2 * 10 ^ 18 : ℚ) ≤ 2 ^ 61 := by norm_num
          _ ≤ 2 ^ 1022 := pow_le_pow_right₀ (by norm_num) (by norm_num)
      calc promised * 10 ^ 24 = promised * (2 * 10 ^ 18) * 10 ^ 6 / 2 := by ring
        _ ≤ promised * 2 ^ 1022 * 10 ^ 6 / 2 := by gcongr
        _ = tokens / 2 := by rw [htokens, minPositive, div_div_eq_mul_div, div_one]
    calc promised * 10 ^ 24 ≤ min (tokens / 2) u64Max * rawCap := by
          rcases le_total (tokens / 2) (u64Max : ℚ) with hle | hle
          · rw [min_eq_left hle]
            nlinarith [mul_pos hpromised (by positivity : (0 : ℚ) < 10 ^ 24)]
          · rw [min_eq_right hle]; exact hcap
      _ ≤ roundU64 tokens * rawCap := by
          gcongr
          exact half_le_roundU64 hhalf

/-- Of the two raw prices that agree with the market cap, one breaks every promise. -/
theorem Bonding.floor_kept_iff (p : Bonding) (b : SolanaBroker) (amountSol : ℚ)
    (hv : 0 < p.virtualTokenReserves.raw) (hp : p.rawPrice < 2) :
    promisedSol b amountSol ≤
        (minTokenOut b amountSol ⟨(p.rawPrice : ℚ) / 10 ^ 9, p.creator⟩ : ℚ) / 10 ^ 6 *
          ((p.rawCap : ℚ) / 10 ^ 9 / uiSupply) ↔
      amountSol ≤ 0 ∨ 10_000 ≤ b.execCfg.slippageBps ∨ p.rawPrice = 0 ∧
        1 / 2 ≤ promisedSol b amountSol / minPositive * 10 ^ 6 ∧
        promisedSol b amountSol * 10 ^ 24 ≤ u64Max * p.rawCap := by
  have hcap₀ : 0 ≤ (p.rawCap : ℚ) / 10 ^ 9 / uiSupply := by
    unfold uiSupply; positivity
  rw [← or_assoc, ← promisedSol_nonpos_iff]
  by_cases hpromised : promisedSol b amountSol ≤ 0
  · simp only [hpromised, true_or, iff_true]
    exact hpromised.trans (by positivity)
  have hpos : 0 < promisedSol b amountSol := not_le.mp hpromised
  rw [minTokenOut_eq b _ hpos.le]
  simp only [hpromised, false_or]
  rcases Nat.lt_succ_iff_lt_or_eq.mp hp with h | h
  · have h₀ : p.rawPrice = 0 := Nat.lt_one_iff.mp h
    simp only [h₀, Nat.cast_zero, zero_div, max_eq_right minPositive_pos.le, true_and]
    exact floor_at_minPositive hpos
  · have hlt : (p.rawCap : ℚ) < 2 * 10 ^ 6 := by
      have := rawCap_lt hv
      rw [h] at this
      exact_mod_cast this
    simp only [h, Nat.cast_one, one_ne_zero, false_and, iff_false, not_le]
    apply floor_broken hpos (lt_max_of_lt_right minPositive_pos)
    apply lt_max_of_lt_left
    rw [uiSupply, div_div, mul_div_assoc', div_lt_div_iff₀ (by positivity) (by positivity)]
    linarith

/-- **When the floor protects.** With `d = virtualSol * 10^9 % (virtualToken * 2^64)`, price and
market cap agree exactly when the price rounds to zero or one raw unit, `d < 2 * virtualToken`;
and the floor then keeps its promise exactly when there is nothing to promise, or when the price
rounds to zero, the promise does not, and `u64::MAX` base units are worth it. -/
theorem slippageFaithful_iff (b : SolanaBroker) (p : Bonding) (amountSol : ℚ)
    (hv : 0 < p.virtualTokenReserves.raw) :
    SlippageFaithful b p amountSol ↔
      p.scaledSol < 2 * p.virtualTokenReserves.raw ∧
        (amountSol ≤ 0 ∨ 10_000 ≤ b.execCfg.slippageBps ∨
          p.scaledSol < p.virtualTokenReserves.raw ∧
            1 / 2 ≤ promisedSol b amountSol * 2 ^ 1022 * 10 ^ 6 ∧
            promisedSol b amountSol * 10 ^ 24 ≤
              u64Max * (p.scaledSol * 10 ^ 6 / p.virtualTokenReserves.raw : ℕ)) := by
  have hd : p.scaledSol < 2 * p.virtualTokenReserves.raw ↔ p.rawPrice < 2 :=
    (Nat.div_lt_iff_lt_mul hv).symm
  have hzero : p.scaledSol < p.virtualTokenReserves.raw ↔ p.rawPrice = 0 := by
    rw [Bonding.rawPrice, Nat.div_eq_zero_iff_lt hv]
  have hmin : promisedSol b amountSol * 2 ^ 1022 * 10 ^ 6 =
      promisedSol b amountSol / minPositive * 10 ^ 6 := by
    rw [minPositive, div_div_eq_mul_div, div_one]
  have hfloor : p.rawPrice < 2 →
      ((∀ view ∈ p.view, ∀ cap ∈ p.marketCap, promisedSol b amountSol ≤
        (minTokenOut b amountSol view : ℚ) / 10 ^ 6 * (cap.amount.toFloat / uiSupply)) ↔
      amountSol ≤ 0 ∨ 10_000 ≤ b.execCfg.slippageBps ∨ p.rawPrice = 0 ∧
        1 / 2 ≤ promisedSol b amountSol / minPositive * 10 ^ 6 ∧
        promisedSol b amountSol * 10 ^ 24 ≤ u64Max * p.rawCap) := by
    intro hp
    rw [Bonding.view, Bonding.price_eq hv, Bonding.marketCap_eq hv]
    simp only [Option.map_some, Option.mem_some_iff, forall_eq']
    exact p.floor_kept_iff b amountSol hv hp
  rw [hd, hzero, hmin]
  constructor
  · intro h
    have hp : p.rawPrice < 2 := (Bonding.price_matches_iff hv).mp h.price_matches
    rw [← Bonding.rawCap_of_rawPrice_lt hv hp]
    exact ⟨hp, (hfloor hp).mp h.floor_kept⟩
  · intro ⟨hp, h⟩
    rw [← Bonding.rawCap_of_rawPrice_lt hv hp] at h
    exact ⟨(Bonding.price_matches_iff hv).mpr hp, (hfloor hp).mpr h⟩

/-- At a billionth of its launch price a pool keeps a floor under a ten-thousandth of a SOL. -/
theorem slippageFaithful_of_dust :
    SlippageFaithful ⟨1, .default, fun _ _ => 2, fun _ => 3⟩
      { Bonding.new 7 8 with virtualSolReserves := .fromRaw 30 9 } (1 / 10_000) := by
  rw [slippageFaithful_iff _ _ _ (by decide)]
  decide +kernel

/-- **A launched pool.** For 0.1 SOL the floor of 5% promises 3.4 thousand tokens, where the
market cap of 27.9 SOL implies 3.4 million. -/
theorem slippage_unfaithful :
    ¬ SlippageFaithful ⟨1, .default, fun _ _ => 2, fun _ => 3⟩ (Bonding.new 7 8) (1 / 10) := by
  intro h
  have hp : (Bonding.new 7 8).rawPrice < 2 :=
    (Bonding.price_matches_iff (by decide)).mp h.price_matches
  exact absurd hp (by decide)

end Loggaper
