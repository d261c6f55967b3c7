import Loggaper.Launchpads.Pump.Pool
import Loggaper.Solana.BondingCurve

/-!
# The market cap from events and from the account

Entry baseline, stop loss and spike abort compare a market cap that the pool computes from events
with one that the broker computes from the curve's account. Both scale by `10^15`. The broker's
copy guards against empty reserves and saturates; the pool's divides by them and cuts to 64 bits;
the migrated pool's scales by `10^9`.

Main result: `marketCapsAgree_iff`, the reserves for which they agree.
-/

namespace Loggaper

/-- The raw market cap of reserves, before it is made to fit 64 bits. -/
def impliedCap (sol token : ℕ) : ℕ := sol * 10 ^ 15 / token

/-- The raw market cap on the scale of a migrated pool. -/
def migratedCap (sol token : ℕ) : ℕ := sol * 10 ^ 9 / token

/-- The account holds these virtual reserves. -/
def BondingCurveState.Holds (curve : BondingCurveState) (sol token : Amount) : Prop :=
  curve.virtualSolReserves = sol.raw ∧ curve.virtualTokenReserves = token.raw

/-- Both market caps of a pool are defined, and those of an account with the same reserves. -/
structure MarketCapsAgree (p : Bonding) : Prop where
  bonding : ∀ curve : BondingCurveState, curve.Holds p.virtualSolReserves p.virtualTokenReserves →
    p.marketCap.map (·.amount.toFloat) = some (bondingCurveMcapSol curve)
  migrated : ∀ curve : BondingCurveState, curve.Holds p.realSolReserves p.realTokenReserves →
    p.migrate.marketCap.map (·.amount.toFloat) = some (bondingCurveMcapSol curve)

/-- The cap fits 64 bits, or is cut to the value at which the broker's saturates. -/
def CapFits (sol token : ℕ) : Prop :=
  0 < token ∧ (impliedCap sol token ≤ u64Max ∨ impliedCap sol token % 2 ^ 64 = u64Max)

/-- The cap is zero on both scales, or at the largest `u64` on both. -/
def ScaleLost (sol token : ℕ) : Prop :=
  0 < token ∧ (sol * 10 ^ 15 < token ∨
    u64Max < impliedCap sol token ∧ migratedCap sol token % 2 ^ 64 = u64Max)

/-! ## What the code computes -/

theorem bondingCurveMcapSol_eq {curve : BondingCurveState} {sol token : Amount}
    (h : curve.Holds sol token) (hsol : sol.raw ≤ u64Max) :
    bondingCurveMcapSol curve =
      if token.raw = 0 then 0
      else (Amount.fromRaw (min (impliedCap sol.raw token.raw) u64Max) 9).toFloat := by
  have hfits : sol.raw * 10 ^ 15 ≤ u128Max := by
    calc sol.raw * 10 ^ 15 ≤ u64Max * 10 ^ 15 := Nat.mul_le_mul_right _ hsol
      _ ≤ u128Max := by decide
  rw [bondingCurveMcapSol, h.1, h.2, impliedCap, ← min_eq_left hfits]
  rfl

theorem Bonding.marketCap_toFloat (p : Bonding) :
    p.marketCap.map (·.amount.toFloat) =
      if p.virtualTokenReserves.raw = 0 then none
      else some (Amount.fromRaw (impliedCap p.virtualSolReserves.raw
        p.virtualTokenReserves.raw % 2 ^ 64) 9).toFloat := by
  unfold marketCap reserveRatio
  split_ifs <;> rfl

theorem Migrated.marketCap_toFloat (p : Migrated) :
    p.marketCap.map (·.amount.toFloat) =
      if p.tokenReserves.raw = 0 then none
      else some (Amount.fromRaw (migratedCap p.solReserves.raw
        p.tokenReserves.raw % 2 ^ 64) 9).toFloat := by
  unfold marketCap
  split_ifs <;> rfl

theorem fromRaw_toFloat_inj {a b d : ℕ} :
    (Amount.fromRaw a d).toFloat = (Amount.fromRaw b d).toFloat ↔ a = b := by
  show (a : ℚ) / 10 ^ d = b / 10 ^ d ↔ a = b
  rw [div_left_inj' (by positivity), Nat.cast_inj]

/-! ## When they agree -/

/-- Cutting to 64 bits agrees with saturating. -/
theorem mod_eq_min_iff (q : ℕ) :
    q % 2 ^ 64 = min q u64Max ↔ q ≤ u64Max ∨ q % 2 ^ 64 = u64Max := by
  have hmax : u64Max + 1 = 2 ^ 64 := by decide
  rcases le_or_gt q u64Max with hq | hq
  · rw [min_eq_left hq, Nat.mod_eq_of_lt (by omega)]
    simp [hq]
  · rw [min_eq_right hq.le]
    simp [not_le.mpr hq]

/-- A cap on the migrated scale is a millionth of the implied one. -/
theorem migratedCap_mul_le (sol token : ℕ) :
    migratedCap sol token * 10 ^ 6 ≤ impliedCap sol token := by
  unfold migratedCap impliedCap
  calc sol * 10 ^ 9 / token * 10 ^ 6 = 10 ^ 6 * (sol * 10 ^ 9 / token) := Nat.mul_comm _ _
    _ ≤ 10 ^ 6 * (sol * 10 ^ 9) / token := Nat.mul_div_le_mul_div_assoc _ _ _
    _ = sol * 10 ^ 15 / token := by ring_nf

theorem migratedCap_eq_min_iff {sol token : ℕ} (htoken : 0 < token) :
    migratedCap sol token % 2 ^ 64 = min (impliedCap sol token) u64Max ↔
      sol * 10 ^ 15 < token ∨
        u64Max < impliedCap sol token ∧ migratedCap sol token % 2 ^ 64 = u64Max := by
  have hmax : u64Max + 1 = 2 ^ 64 := by decide
  have hscale := migratedCap_mul_le sol token
  have hzero : sol * 10 ^ 15 < token ↔ impliedCap sol token = 0 :=
    (Nat.div_eq_zero_iff_lt htoken).symm
  rw [hzero]
  rcases le_or_gt (impliedCap sol token) u64Max with hq | hq
  · -- both fit, and a number that is a millionth of itself is zero
    rw [min_eq_left hq, Nat.mod_eq_of_lt (by omega)]
    omega
  · rw [min_eq_right hq.le]
    omega

/-- A market cap that is cut to 64 bits agrees with the broker's. -/
theorem agrees_iff {sol token : Amount} (hsol : sol.raw ≤ u64Max) {cap : ℕ} {shown : Option ℚ}
    (hshown : shown = if token.raw = 0 then none
      else some (Amount.fromRaw (cap % 2 ^ 64) 9).toFloat) :
    (∀ curve : BondingCurveState, curve.Holds sol token →
      shown = some (bondingCurveMcapSol curve)) ↔
      0 < token.raw ∧ cap % 2 ^ 64 = min (impliedCap sol.raw token.raw) u64Max := by
  by_cases htoken : token.raw = 0
  · rw [if_pos htoken] at hshown
    subst hshown
    constructor
    · intro h
      have := h ⟨token.raw, sol.raw, 0, 0, 0, false, false⟩ ⟨rfl, rfl⟩
      cases this
    · intro ⟨hpos, _⟩
      omega
  · rw [if_neg htoken] at hshown
    subst hshown
    have hcap : ∀ curve : BondingCurveState, curve.Holds sol token →
        (some (Amount.fromRaw (cap % 2 ^ 64) 9).toFloat = some (bondingCurveMcapSol curve) ↔
          cap % 2 ^ 64 = min (impliedCap sol.raw token.raw) u64Max) := by
      intro curve hcurve
      rw [bondingCurveMcapSol_eq hcurve hsol, if_neg htoken, Option.some.injEq,
        fromRaw_toFloat_inj]
    constructor
    · intro h
      have hholds : BondingCurveState.Holds ⟨token.raw, sol.raw, 0, 0, 0, false, false⟩ sol token :=
        ⟨rfl, rfl⟩
      exact ⟨Nat.pos_of_ne_zero htoken, (hcap _ hholds).mp (h _ hholds)⟩
    · intro ⟨_, heq⟩ curve hcurve
      exact (hcap curve hcurve).mpr heq

/-- **When the market caps agree**: the bonding pool has token reserves and its cap fits 64 bits,
and the migrated pool's cap is too small or too large to show the scale. -/
theorem marketCapsAgree_iff (p : Bonding) (hvirtual : p.virtualSolReserves.raw ≤ u64Max)
    (hreal : p.realSolReserves.raw ≤ u64Max) :
    MarketCapsAgree p ↔
      CapFits p.virtualSolReserves.raw p.virtualTokenReserves.raw ∧
        ScaleLost p.realSolReserves.raw p.realTokenReserves.raw := by
  have hbonding := agrees_iff hvirtual p.marketCap_toFloat
  have hmigrated := agrees_iff hreal p.migrate.marketCap_toFloat
  rw [mod_eq_min_iff] at hbonding
  constructor
  · intro ⟨hb, hm⟩
    obtain ⟨htoken, hcap⟩ := hmigrated.mp hm
    exact ⟨hbonding.mp hb, htoken, (migratedCap_eq_min_iff htoken).mp hcap⟩
  · intro ⟨hb, htoken, hcap⟩
    exact ⟨hbonding.mpr hb, hmigrated.mpr ⟨htoken, (migratedCap_eq_min_iff htoken).mpr hcap⟩⟩

theorem marketCapsAgree_new : MarketCapsAgree (.new 1 2) :=
  (marketCapsAgree_iff _ (by decide) (by decide)).mpr
    ⟨⟨by decide, .inl (by decide)⟩, by decide, .inl (by decide)⟩

/-- A pool at the virtual and the real reserves of a trade. -/
def poolAt (virtualSol virtualToken realSol realToken : UInt64) : Bonding where
  virtualSolReserves := .fromRaw virtualSol.toNat 9
  virtualTokenReserves := .fromRaw virtualToken.toNat precision
  realSolReserves := .fromRaw realSol.toNat 9
  realTokenReserves := .fromRaw realToken.toNat precision
  mint := 1
  creator := 2

/-- An account with these virtual reserves. -/
def accountAt (virtualSol virtualToken : ℕ) : BondingCurveState :=
  ⟨virtualToken, virtualSol, 0, 0, 0, false, false⟩

/-- Without token reserves the pool stops its task where the broker shows zero; with one raw token
it shows what 64 bits leave of `3 * 10 ^ 25`, and the broker `u64::MAX`; and a pool that migrates
with 85 SOL against 200,000,000 tokens shows a millionth of 425 SOL. -/
theorem marketCaps_disagree :
    ¬ MarketCapsAgree (poolAt 30_000_000_000 0 0 1) ∧
    ¬ MarketCapsAgree (poolAt 30_000_000_000 1 0 1) ∧
    ¬ MarketCapsAgree
      (poolAt 115_000_000_000 280_000_000_000_000 85_000_000_000 200_000_000_000_000) := by
  refine ⟨fun h => ?_, fun h => ?_, fun h => ?_⟩
  · have heq := h.bonding (accountAt 30_000_000_000 0) ⟨rfl, rfl⟩
    exact absurd heq (by decide +kernel)
  · have heq := h.bonding (accountAt 30_000_000_000 1) ⟨rfl, rfl⟩
    exact absurd heq (by decide +kernel)
  · have heq := h.migrated (accountAt 85_000_000_000 200_000_000_000_000) ⟨rfl, rfl⟩
    exact absurd heq (by decide +kernel)

end Loggaper
