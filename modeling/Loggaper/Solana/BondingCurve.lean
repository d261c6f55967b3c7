import Loggaper.Solana.Node

/-!
# The bonding curve account

The fields that the broker reads out of a pump bonding curve account, the curve's constant
product formula, and the size to which a sell is clamped so that it does not ask the curve for
more than 90% of the SOL that it holds. Products are taken in saturating `u128`.
-/

namespace Loggaper

def u128Max : ℕ := 2 ^ 128 - 1

/-- `u128::saturating_mul`. -/
def satMul128 (a b : ℕ) : ℕ := min (a * b) u128Max

/-- `u128::saturating_add`. -/
def satAdd128 (a b : ℕ) : ℕ := min (a + b) u128Max

structure BondingCurveState where
  virtualTokenReserves : ℕ
  virtualSolReserves : ℕ
  realTokenReserves : ℕ
  realSolReserves : ℕ
  creator : Address
  isCashbackCoin : Bool
  /-- Liquidity has left the curve; pump `Sell` fails with 6005. -/
  curveComplete : Bool
  deriving DecidableEq, Repr

/-- The number written by little-endian bytes. -/
def fromLeBytes : List UInt8 → ℕ
  | [] => 0
  | b :: bs => b.toNat + 256 * fromLeBytes bs

/-- Eight little-endian bytes of the account data. -/
def readU64 (data : List UInt8) (off : ℕ) : ℕ := fromLeBytes ((data.drop off).take 8)

theorem fromLeBytes_lt (bs : List UInt8) : fromLeBytes bs < 256 ^ bs.length := by
  induction bs with
  | nil => simp [fromLeBytes]
  | cons b bs ih =>
    have hb : b.toNat < 256 := b.toNat_lt
    rw [fromLeBytes, List.length_cons, pow_succ]
    omega

theorem readU64_lt (data : List UInt8) (off : ℕ) : readU64 data off < 2 ^ 64 := by
  have hlen : ((data.drop off).take 8).length ≤ 8 := List.length_take_le _ _
  calc readU64 data off < 256 ^ ((data.drop off).take 8).length := fromLeBytes_lt _
    _ ≤ 256 ^ 8 := Nat.pow_le_pow_right (by omega) hlen
    _ = 2 ^ 64 := by norm_num

/-- The 32-byte key at an offset: its first byte is the most significant. -/
def readAddress (data : List UInt8) (off : ℕ) : Address :=
  BitVec.ofNat 256 (fromLeBytes ((data.drop off).take 32).reverse)

def creatorOffset : ℕ := 8 + 8 * 5 + 1

def creatorLen : ℕ := 32

/-- After the `is_mayhem_mode` byte. -/
def isCashbackCoinOffset : ℕ := creatorOffset + creatorLen + 1

/-- A byte of the data that is there and not zero. -/
def flagAt (data : List UInt8) (off : ℕ) : Bool := data.getD off 0 != 0

/-- Layout: an 8-byte discriminator, five `u64`, the `complete` flag, the creator, two flags. -/
def decodeBondingCurve (data : List UInt8) : Except BrokerError BondingCurveState :=
  if data.length < creatorOffset + creatorLen then
    .error (.custom (s!"bonding_curve data too short: {data.length} bytes, need at least " ++
      s!"{creatorOffset + creatorLen}"))
  else
    .ok {
      virtualTokenReserves := readU64 data 8
      virtualSolReserves := readU64 data 16
      realTokenReserves := readU64 data 24
      realSolReserves := readU64 data 32
      creator := readAddress data creatorOffset
      isCashbackCoin := flagAt data isCashbackCoinOffset
      curveComplete := flagAt data 48 }

/-- A curve account for examples: token reserves in units of `2 ^ 48`, SOL in units of `2 ^ 32`. -/
def curveAccount (vtr vsr rsr complete : UInt8) : Account where
  owner := "6EF8rrecthR5Dkzon8Nwu78hRvfCKubJ14M5uBEwF6P"
  data :=
    let zeros (n : ℕ) : List UInt8 := List.replicate n 0
    zeros 8 ++ (zeros 6 ++ [vtr, 0]) ++ (zeros 4 ++ [vsr, 0, 0, 0]) ++ zeros 8 ++
      (zeros 4 ++ [rsr, 0, 0, 0]) ++ zeros 8 ++ [complete] ++ zeros 32

/-- Market cap in SOL from the virtual reserves. -/
def bondingCurveMcapSol (curve : BondingCurveState) : ℚ :=
  if curve.virtualTokenReserves = 0 then 0
  else
    let mcapRaw := satMul128 curve.virtualSolReserves 1_000_000_000_000_000 /
      curve.virtualTokenReserves
    (Amount.fromRaw (min mcapRaw u64Max) 9).toFloat

/-- Lamports that the curve pays for an amount: `vsr - vsr * vtr / (vtr + amount)`. -/
def pumpSolOutForTokens (tokenAmountRaw : ℕ) (curve : BondingCurveState) : ℕ :=
  if tokenAmountRaw = 0 ∨ curve.virtualSolReserves = 0 ∨ curve.virtualTokenReserves = 0 then 0
  else
    let vsr := curve.virtualSolReserves
    let vtr := curve.virtualTokenReserves
    let newVtr := satAdd128 vtr tokenAmountRaw
    if newVtr = 0 then 0
    else
      let newVsr := satMul128 vsr vtr / newVtr
      min (vsr - newVsr) u64Max

/-- The amount that the source takes to pay at most the target:
`vsr * vtr / (vsr - target) - vtr`. -/
def pumpMaxSellableTokensForSol (targetSolOut : ℕ) (curve : BondingCurveState) : ℕ :=
  if targetSolOut = 0 ∨ curve.virtualSolReserves = 0 ∨ curve.virtualTokenReserves = 0 then 0
  else
    let vsr := curve.virtualSolReserves
    let vtr := curve.virtualTokenReserves
    if targetSolOut ≥ vsr then u64Max
    else
      let denom := vsr - targetSolOut
      let newVtr := satMul128 vsr vtr / denom
      if newVtr ≤ vtr then 0 else min (newVtr - vtr) u64Max

/-- 90% of the curve's SOL: fees and trades can shrink the reserves before the sell lands. -/
def safetyCapLamports (curve : BondingCurveState) : ℕ := curve.realSolReserves * 90 / 100

/-- The sell would take more than the safety cap out of the curve. -/
def exceedsSafetyCap (tokenAmountRaw : ℕ) (curve : BondingCurveState) : Prop :=
  pumpSolOutForTokens tokenAmountRaw curve > safetyCapLamports curve

instance (tokenAmountRaw : ℕ) (curve : BondingCurveState) :
    Decidable (exceedsSafetyCap tokenAmountRaw curve) :=
  inferInstanceAs (Decidable (_ > _))

/-- What the clamp leaves of an amount that exceeds the cap. -/
def clampedAmount (tokenAmountRaw : ℕ) (curve : BondingCurveState) : ℕ :=
  min (pumpMaxSellableTokensForSol (safetyCapLamports curve) curve) tokenAmountRaw

end Loggaper
