import Loggaper.Pipeline.Continuation

/-!
# Demand and the continuation gate

A confirmation window with fewer buys or more sells than another should not pass where the other
fails. The gate divides by what was bought in the window, and asks for the absorption of the sells
only if that is not zero; without sells it takes the ratio of the scoring window for its own.

Main result: `demandMonotone_iff`.
-/

namespace Loggaper

/-! ## What the gate reads -/

/-- The figures of a confirmation window. -/
structure ConfirmDemand where
  upticks : ℕ
  openMcapSol : ℚ
  closeMcapSol : ℚ
  newBuyers : ℕ
  buyDelta : ℚ
  sellDelta : ℚ

/-- The figures of a window with at least two samples. -/
def confirmDemand (baselineBuyerCount : ℕ) : List EarlyTapePoint → Option ConfirmDemand
  | [] | [_] => none
  | first :: second :: rest =>
    let last := (second :: rest).getLast (List.cons_ne_nil _ _)
    some {
      upticks := upticks (first :: second :: rest)
      openMcapSol := first.mcapSol
      closeMcapSol := last.mcapSol
      newBuyers := last.newBuyers baselineBuyerCount
      buyDelta := max (last.buyVolumeSol - first.buyVolumeSol) 0
      sellDelta := lamportsToSol (last.cumSellRaw - first.cumSellRaw) }

namespace ConfirmDemand

variable (cfg : ContinuationConfig) (baselineB2s : ℚ) (windowMs : ℕ) (isAPlus : Bool)
  (d : ConfirmDemand)

/-- The buy-to-sell ratio of the window; without sells it is that of the scoring window. -/
def confirmB2s : ℚ :=
  if 0 < d.sellDelta then d.buyDelta / d.sellDelta else if 0 < d.buyDelta then baselineB2s else 0

/-- The checks of the gate, on these figures. -/
def verdict : Except String Unit :=
  if d.upticks < cfg.minUpticks ∧ d.closeMcapSol < d.openMcapSol then .error "cont_no_uptick"
  else if d.newBuyers < cfg.minNewUniqueBuyers then .error "cont_no_new_buyers"
  else if 0 < cfg.minBuysPerSec ∧
      d.newBuyers / (((max windowMs 1 : ℕ) : ℚ) / 1000) < cfg.minBuysPerSec then
    .error "cont_low_buys_per_sec"
  else if 0 < d.buyDelta ∧ cfg.maxSellAbsorptionRatio < d.sellDelta / d.buyDelta then
    .error "cont_sell_absorption"
  else if 0 < baselineB2s ∧ d.confirmB2s baselineB2s < baselineB2s * cfg.maxB2sDropRatio ∧
      ¬ (isAPlus = true ∧ d.openMcapSol < d.closeMcapSol) then
    .error "cont_b2s_worsening"
  else .ok ()

/-- No check of the gate fails. -/
structure Accepted : Prop where
  uptick : ¬ (d.upticks < cfg.minUpticks ∧ d.closeMcapSol < d.openMcapSol)
  buyers : ¬ d.newBuyers < cfg.minNewUniqueBuyers
  rate : ¬ (0 < cfg.minBuysPerSec ∧
    d.newBuyers / (((max windowMs 1 : ℕ) : ℚ) / 1000) < cfg.minBuysPerSec)
  absorption : ¬ (0 < d.buyDelta ∧ cfg.maxSellAbsorptionRatio < d.sellDelta / d.buyDelta)
  ratio : ¬ (0 < baselineB2s ∧ d.confirmB2s baselineB2s < baselineB2s * cfg.maxB2sDropRatio ∧
    ¬ (isAPlus = true ∧ d.openMcapSol < d.closeMcapSol))

theorem verdict_ok_iff :
    d.verdict cfg baselineB2s windowMs isAPlus = .ok () ↔
      d.Accepted cfg baselineB2s windowMs isAPlus := by
  unfold verdict
  constructor
  · intro h
    split_ifs at h with huptick hbuyers hrate habsorb hratio
    exact ⟨huptick, hbuyers, hrate, habsorb, hratio⟩
  · rintro ⟨huptick, hbuyers, hrate, habsorb, hratio⟩
    rw [if_neg huptick, if_neg hbuyers, if_neg hrate, if_neg habsorb, if_neg hratio]

end ConfirmDemand

theorem evaluateContinuation_eq (cfg : ContinuationConfig) (baselineB2s : ℚ) (baseline : ℕ)
    (confirm : List EarlyTapePoint) (windowMs : ℕ) (isAPlus : Bool) :
    evaluateContinuation cfg baselineB2s baseline confirm windowMs isAPlus =
      (confirmDemand baseline confirm).elim (.error "cont_no_data") fun d =>
        d.verdict cfg baselineB2s windowMs isAPlus := by
  match confirm with
  | [] => rfl
  | [_] => rfl
  | _ :: _ :: _ => rfl

/-- **The gate accepts a window whose figures pass every check.** -/
theorem evaluateContinuation_ok_iff {cfg : ContinuationConfig} {baselineB2s : ℚ}
    {baseline windowMs : ℕ} {isAPlus : Bool} {confirm : List EarlyTapePoint} :
    evaluateContinuation cfg baselineB2s baseline confirm windowMs isAPlus = .ok () ↔
      ∃ d ∈ confirmDemand baseline confirm, d.Accepted cfg baselineB2s windowMs isAPlus := by
  rw [evaluateContinuation_eq]
  cases confirmDemand baseline confirm with
  | none => simp
  | some d => simpa using d.verdict_ok_iff cfg baselineB2s windowMs isAPlus

/-! ## Weaker demand -/

/-- What is bought in the window, in SOL. -/
def boughtIn (confirm : List EarlyTapePoint) : ℚ := (confirmDemand 0 confirm).elim 0 (·.buyDelta)

def soldIn (confirm : List EarlyTapePoint) : ℚ := (confirmDemand 0 confirm).elim 0 (·.sellDelta)

/-- `second` shows no more demand than `first`: no sample has a higher market cap or more buyers, no
more is bought and no less sold. -/
structure WeakerDemand (second first : List EarlyTapePoint) : Prop where
  mcap : List.Forall₂ (fun p q => p.mcapSol ≤ q.mcapSol) second first
  buyers : List.Forall₂ (fun p q => p.buyerCount ≤ q.buyerCount) second first
  bought : boughtIn second ≤ boughtIn first
  sold : soldIn first ≤ soldIn second

/-- The market cap gains no more in any slice of `second` either. -/
def GainsNoMore (second first : List EarlyTapePoint) : Prop :=
  List.Forall₂ (fun w w' => w.2.mcapSol - w.1.mcapSol ≤ w'.2.mcapSol - w'.1.mcapSol)
    (second.zip second.tail) (first.zip first.tail)

theorem countP_le_of_forall₂ {α β : Type*} {R : α → β → Prop} {p : α → Bool} {q : β → Bool}
    (hpq : ∀ a b, R a b → p a = true → q b = true) {l : List α} {l' : List β}
    (h : List.Forall₂ R l l') : l.countP p ≤ l'.countP q := by
  induction h with
  | nil => exact le_rfl
  | @cons a b l l' hab _ ih =>
    rw [List.countP_cons, List.countP_cons]
    by_cases hp : p a = true
    · rw [if_pos hp, if_pos (hpq a b hab hp)]
      omega
    · rw [if_neg hp]
      omega

theorem getLast_of_forall₂ {α β : Type*} {R : α → β → Prop} {a : α} {b : β} {l : List α}
    {l' : List β} (h : List.Forall₂ R (a :: l) (b :: l')) :
    R ((a :: l).getLast (List.cons_ne_nil _ _)) ((b :: l').getLast (List.cons_ne_nil _ _)) := by
  induction l generalizing a b l' with
  | nil =>
    cases h with
    | cons hab hrest =>
      cases hrest
      exact hab
  | cons c l ih =>
    cases h with
    | cons hab hrest =>
      cases hrest with
      | cons hcd hrest =>
        rw [List.getLast_cons_cons, List.getLast_cons_cons]
        exact ih (.cons hcd hrest)

/-- The gains of the slices add up to the gain of the window. -/
theorem sum_gains (first : EarlyTapePoint) (rest : List EarlyTapePoint) :
    (((first :: rest).zip rest).map fun w => w.2.mcapSol - w.1.mcapSol).sum =
      ((first :: rest).getLast (List.cons_ne_nil _ _)).mcapSol - first.mcapSol := by
  induction rest generalizing first with
  | nil => simp
  | cons second rest ih =>
    rw [List.zip_cons_cons, List.map_cons, List.sum_cons, ih, List.getLast_cons_cons]
    ring

theorem upticks_le {second first : List EarlyTapePoint} (h : GainsNoMore second first) :
    upticks second ≤ upticks first := by
  refine countP_le_of_forall₂ ?_ h
  intro w w' hle hup
  rw [decide_eq_true_eq] at hup ⊢
  linarith

namespace ConfirmDemand

variable {d d' : ConfirmDemand}

theorem confirmB2s_of_no_buys (h : d.buyDelta = 0) (baselineB2s : ℚ) :
    d.confirmB2s baselineB2s = 0 := by
  simp [confirmB2s, h]

/-- The figures that stand for what is bought and sold are not negative. -/
structure Sound (d : ConfirmDemand) : Prop where
  buys : 0 ≤ d.buyDelta
  sells : 0 ≤ d.sellDelta

/-- The figures of `d'` show no more demand, whatever the market cap does. -/
structure NoStronger (d' d : ConfirmDemand) : Prop where
  buyers : d'.newBuyers ≤ d.newBuyers
  buys : d'.buyDelta ≤ d.buyDelta
  sells : d.sellDelta ≤ d'.sellDelta

/-- More sold for less bought is a higher absorption. -/
theorem NoStronger.absorption_le (h : d'.NoStronger d) (hd : d.Sound) (hpos : 0 < d'.buyDelta) :
    d.sellDelta / d.buyDelta ≤ d'.sellDelta / d'.buyDelta := by
  have hsells : 0 ≤ d'.sellDelta := hd.sells.trans h.sells
  exact div_le_div₀ hsells h.sells hpos h.buys

end ConfirmDemand

/-- What makes the gate monotone: a ratio to compare with that a window without buys cannot meet,
not softened, and that a window without sells does meet, if any passes. -/
structure ContinuationConfig.ComparesDemand (cfg : ContinuationConfig) (baselineB2s : ℚ)
    (isAPlus : Bool) : Prop where
  baseline : 0 < baselineB2s
  drop_ratio : 0 < cfg.maxB2sDropRatio
  not_softened : isAPlus = false
  no_gain : cfg.maxB2sDropRatio ≤ 1 ∨ cfg.maxSellAbsorptionRatio ≤ 0

section
variable {cfg : ContinuationConfig} {baselineB2s : ℚ} {windowMs : ℕ} {isAPlus : Bool}
  {d d' : ConfirmDemand}

open ConfirmDemand

/-- An accepted window has buys. -/
theorem ConfirmDemand.Accepted.buys_pos (hcfg : cfg.ComparesDemand baselineB2s isAPlus)
    (hd : d.Sound) (h : d.Accepted cfg baselineB2s windowMs isAPlus) : 0 < d.buyDelta := by
  rcases hd.buys.lt_or_eq with hpos | hzero
  · exact hpos
  · refine absurd ⟨hcfg.baseline, ?_, ?_⟩ h.ratio
    · rw [confirmB2s_of_no_buys hzero.symm]
      exact mul_pos hcfg.baseline hcfg.drop_ratio
    · simp [hcfg.not_softened]

/-- **The checks of buys and sells are monotone.** -/
theorem ConfirmDemand.Accepted.of_noStronger (hcfg : cfg.ComparesDemand baselineB2s isAPlus)
    (hd : d.Sound) (hd' : d'.Sound) (hweak : d'.NoStronger d)
    (huptick : d.upticks < cfg.minUpticks ∧ d.closeMcapSol < d.openMcapSol →
      d'.upticks < cfg.minUpticks ∧ d'.closeMcapSol < d'.openMcapSol)
    (h : d'.Accepted cfg baselineB2s windowMs isAPlus) :
    d.Accepted cfg baselineB2s windowMs isAPlus := by
  have hpos' : 0 < d'.buyDelta := h.buys_pos hcfg hd'
  have hpos : 0 < d.buyDelta := hpos'.trans_le hweak.buys
  have hsecs : (0 : ℚ) < ((max windowMs 1 : ℕ) : ℚ) / 1000 := by
    have hone : 0 < max windowMs 1 := by omega
    positivity
  refine ⟨mt huptick h.uptick, ?_, ?_, ?_, ?_⟩
  · exact fun hfew => h.buyers (hweak.buyers.trans_lt hfew)
  · rintro ⟨hmin, hslow⟩
    refine h.rate ⟨hmin, lt_of_le_of_lt ?_ hslow⟩
    exact div_le_div_of_nonneg_right (by exact_mod_cast hweak.buyers) hsecs.le
  · rintro ⟨-, habsorb⟩
    exact h.absorption ⟨hpos', habsorb.trans_le (hweak.absorption_le hd hpos')⟩
  · rintro ⟨hbase, hdrop, -⟩
    refine h.ratio ⟨hbase, lt_of_le_of_lt ?_ hdrop, by simp [hcfg.not_softened]⟩
    by_cases hsells' : 0 < d'.sellDelta
    · by_cases hsells : 0 < d.sellDelta
      · rw [confirmB2s, confirmB2s, if_pos hsells', if_pos hsells]
        exact div_le_div₀ hpos.le hweak.buys hsells hweak.sells
      · -- without sells the ratio is the baseline, which is enough unless it has to grow
        have hb2s : d.confirmB2s baselineB2s = baselineB2s := by
          rw [confirmB2s, if_neg hsells, if_pos hpos]
        rw [hb2s] at hdrop
        rcases hcfg.no_gain with hle | hnone
        · have hkeep : baselineB2s * cfg.maxB2sDropRatio ≤ baselineB2s :=
            mul_le_of_le_one_right hbase.le hle
          exact absurd hdrop (not_lt.mpr hkeep)
        · exact absurd ⟨hpos', hnone.trans_lt (div_pos hsells' hpos')⟩ h.absorption
    · have hsells : ¬ 0 < d.sellDelta := fun hsold => hsells' (hsold.trans_le hweak.sells)
      rw [confirmB2s, confirmB2s, if_neg hsells', if_neg hsells, if_pos hpos, if_pos hpos']

end

theorem lamportsToSol_nonneg (raw : ℕ) : 0 ≤ lamportsToSol raw := Amount.toFloat_nonneg _

theorem sound_of_mem_confirmDemand {baseline : ℕ} {confirm : List EarlyTapePoint}
    {d : ConfirmDemand} (h : d ∈ confirmDemand baseline confirm) : d.Sound := by
  match confirm with
  | [] => cases h
  | [_] => cases h
  | _ :: _ :: _ =>
    cases h
    exact ⟨le_max_right _ _, lamportsToSol_nonneg _⟩

/-- A window with no more demand than another has figures that show no more. -/
theorem WeakerDemand.exists_demand {second first : List EarlyTapePoint}
    (h : WeakerDemand second first) {baseline : ℕ} {d' : ConfirmDemand}
    (hd' : d' ∈ confirmDemand baseline second) :
    ∃ d ∈ confirmDemand baseline first, d'.NoStronger d ∧
      (GainsNoMore second first → d'.upticks ≤ d.upticks ∧
        d'.closeMcapSol - d'.openMcapSol ≤ d.closeMcapSol - d.openMcapSol) := by
  obtain ⟨-, hbuyers, hbought, hsold⟩ := h
  match second, first with
  | [], _ => cases hd'
  | [_], _ => cases hd'
  | _ :: _ :: _, [] => cases hbuyers
  | _ :: _ :: _, [_] =>
    cases hbuyers with
    | cons _ hrest => cases hrest
  | p' :: q' :: rest', p :: q :: rest =>
    cases hd'
    refine ⟨_, rfl, ⟨?_, hbought, hsold⟩, ?_⟩
    · cases hbuyers with
      | cons _ hrest =>
        have hlast := getLast_of_forall₂
          (R := fun p q : EarlyTapePoint => p.buyerCount ≤ q.buyerCount) hrest
        exact Nat.sub_le_sub_right hlast baseline
    · intro hgains
      refine ⟨upticks_le hgains, ?_⟩
      have hsum := List.Forall₂.sum_le_sum (List.forall₂_map_left_iff.mpr
        (List.forall₂_map_right_iff.mpr hgains))
      rw [List.tail_cons, List.tail_cons, sum_gains, sum_gains, List.getLast_cons_cons,
        List.getLast_cons_cons] at hsum
      exact hsum

/-! ## Two samples -/

/-- A window that opens and closes at these market caps, with this much bought and sold and this
many buyers at its end. -/
def twoSamples (buyers : ℕ) (bought : ℚ) (soldRaw : ℕ) (openMcap closeMcap : ℚ) :
    List EarlyTapePoint :=
  [⟨0, 0, 0, 0, 0, 0, openMcap⟩, ⟨buyers, 0, 0, bought, soldRaw, 0, closeMcap⟩]

theorem confirmDemand_twoSamples (baseline buyers : ℕ) {bought : ℚ} (hbought : 0 ≤ bought)
    (soldRaw : ℕ) (openMcap closeMcap : ℚ) :
    confirmDemand baseline (twoSamples buyers bought soldRaw openMcap closeMcap) =
      some ⟨if openMcap < closeMcap then 1 else 0, openMcap, closeMcap, buyers - baseline, bought,
        lamportsToSol soldRaw⟩ := by
  by_cases hup : openMcap < closeMcap <;>
    simp [confirmDemand, twoSamples, upticks, EarlyTapePoint.newBuyers, hbought, hup]

theorem weaker_twoSamples (buyers : ℕ) {bought bought' : ℚ} {soldRaw soldRaw' : ℕ}
    {openMcap openMcap' closeMcap closeMcap' : ℚ} (hopen : openMcap' ≤ openMcap)
    (hclose : closeMcap' ≤ closeMcap) (hpos : 0 ≤ bought') (hbought : bought' ≤ bought)
    (hsold : soldRaw ≤ soldRaw') :
    WeakerDemand (twoSamples buyers bought' soldRaw' openMcap' closeMcap')
      (twoSamples buyers bought soldRaw openMcap closeMcap) := by
  refine ⟨.cons hopen (.cons hclose .nil), .cons le_rfl (.cons le_rfl .nil), ?_, ?_⟩
  · rw [boughtIn, boughtIn, confirmDemand_twoSamples _ _ hpos,
      confirmDemand_twoSamples _ _ (hpos.trans hbought)]
    exact hbought
  · rw [soldIn, soldIn, confirmDemand_twoSamples _ _ hpos,
      confirmDemand_twoSamples _ _ (hpos.trans hbought)]
    show lamportsToSol soldRaw ≤ lamportsToSol soldRaw'
    unfold lamportsToSol Amount.fromRaw Amount.toFloat
    gcongr

/-- Enough buyers for both checks of them. -/
theorem exists_buyers (cfg : ContinuationConfig) (baseline windowMs : ℕ) :
    ∃ buyers : ℕ, cfg.minNewUniqueBuyers ≤ buyers - baseline ∧
      cfg.minBuysPerSec ≤ ((buyers - baseline : ℕ) : ℚ) / (((max windowMs 1 : ℕ) : ℚ) / 1000) := by
  have hsecs : (0 : ℚ) < ((max windowMs 1 : ℕ) : ℚ) / 1000 := by
    have hone : 0 < max windowMs 1 := by omega
    positivity
  have hn := Nat.le_ceil (cfg.minBuysPerSec * (((max windowMs 1 : ℕ) : ℚ) / 1000))
  set n := ⌈cfg.minBuysPerSec * (((max windowMs 1 : ℕ) : ℚ) / 1000)⌉₊
  refine ⟨baseline + max cfg.minNewUniqueBuyers n, by omega, ?_⟩
  rw [Nat.add_sub_cancel_left, le_div_iff₀ hsecs]
  refine hn.trans ?_
  exact_mod_cast le_max_right _ _

theorem lamportsToSol_one_sol : lamportsToSol (10 ^ 9) = 1 := by
  norm_num [lamportsToSol, Amount.fromRaw, Amount.toFloat]

theorem lamportsToSol_zero : lamportsToSol 0 = 0 := by
  norm_num [lamportsToSol, Amount.fromRaw, Amount.toFloat]

/-! ## When the gate is monotone -/

/-- The gate accepts no window that shows less demand than one it rejects. -/
def DemandMonotone (cfg : ContinuationConfig) (baselineB2s : ℚ) (baseline windowMs : ℕ)
    (isAPlus : Bool) (R : List EarlyTapePoint → List EarlyTapePoint → Prop) : Prop :=
  ∀ first second, WeakerDemand second first → R second first →
    evaluateContinuation cfg baselineB2s baseline second windowMs isAPlus = .ok () →
      evaluateContinuation cfg baselineB2s baseline first windowMs isAPlus = .ok ()

section
variable {cfg : ContinuationConfig} {baselineB2s : ℚ} {baseline windowMs : ℕ} {isAPlus : Bool}

theorem accepts_twoSamples_iff {buyers : ℕ} {bought : ℚ} (hbought : 0 ≤ bought) {soldRaw : ℕ}
    {openMcap closeMcap : ℚ} :
    evaluateContinuation cfg baselineB2s baseline
        (twoSamples buyers bought soldRaw openMcap closeMcap) windowMs isAPlus = .ok () ↔
      (⟨if openMcap < closeMcap then 1 else 0, openMcap, closeMcap, buyers - baseline, bought,
        lamportsToSol soldRaw⟩ : ConfirmDemand).Accepted cfg baselineB2s windowMs isAPlus := by
  rw [evaluateContinuation_ok_iff, confirmDemand_twoSamples _ _ hbought]
  simp

/-- A window without buys passes where one with a few fails for its absorption, unless a ratio has
to be met. -/
theorem ratio_of_monotone
    (h : DemandMonotone cfg baselineB2s baseline windowMs isAPlus GainsNoMore) :
    0 < baselineB2s ∧ 0 < cfg.maxB2sDropRatio ∧ isAPlus = false := by
  by_contra hno
  obtain ⟨buyers, hmin, hrate⟩ := exists_buyers cfg baseline windowMs
  set few : ℚ := 1 / (|cfg.maxSellAbsorptionRatio| + 1)
  have hfew : 0 < few := by positivity
  have hweak :
      WeakerDemand (twoSamples buyers 0 (10 ^ 9) 1 2) (twoSamples buyers few (10 ^ 9) 1 2) :=
    weaker_twoSamples buyers le_rfl le_rfl le_rfl hfew.le le_rfl
  have haccepts : evaluateContinuation cfg baselineB2s baseline
      (twoSamples buyers 0 (10 ^ 9) 1 2) windowMs isAPlus = .ok () := by
    rw [accepts_twoSamples_iff le_rfl]
    refine ⟨by norm_num, not_lt.mpr hmin, fun hslow => absurd hslow.2 (not_lt.mpr hrate),
      by norm_num, ?_⟩
    rintro ⟨hbase, hdrop, hsoft⟩
    rw [ConfirmDemand.confirmB2s_of_no_buys rfl] at hdrop
    refine hno ⟨hbase, pos_of_mul_pos_right hdrop hbase.le, ?_⟩
    cases isAPlus with
    | true => exact absurd ⟨rfl, by norm_num⟩ hsoft
    | false => rfl
  have hfirst := h _ _ hweak (.cons le_rfl .nil) haccepts
  rw [accepts_twoSamples_iff hfew.le] at hfirst
  refine hfirst.absorption ⟨hfew, ?_⟩
  show cfg.maxSellAbsorptionRatio < lamportsToSol (10 ^ 9) / few
  rw [lamportsToSol_one_sol, one_div_one_div]
  exact (le_abs_self _).trans_lt (lt_add_one _)

/-- A window without sells has the ratio of the scoring window, which one with sells may exceed. -/
theorem no_gain_of_monotone
    (h : DemandMonotone cfg baselineB2s baseline windowMs isAPlus GainsNoMore) :
    cfg.maxB2sDropRatio ≤ 1 ∨ cfg.maxSellAbsorptionRatio ≤ 0 := by
  obtain ⟨hbase, hratio, hplus⟩ := ratio_of_monotone h
  by_contra hno
  simp only [not_or, not_le] at hno
  obtain ⟨hgain, hmax⟩ := hno
  obtain ⟨buyers, hmin, hrate⟩ := exists_buyers cfg baseline windowMs
  set many : ℚ := max (baselineB2s * cfg.maxB2sDropRatio) (1 / cfg.maxSellAbsorptionRatio)
  have hmany : 0 < many := lt_max_of_lt_left (mul_pos hbase hratio)
  have hweak : WeakerDemand (twoSamples buyers many (10 ^ 9) 1 1) (twoSamples buyers many 0 1 1) :=
    weaker_twoSamples buyers le_rfl le_rfl hmany.le le_rfl (Nat.zero_le _)
  have haccepts : evaluateContinuation cfg baselineB2s baseline
      (twoSamples buyers many (10 ^ 9) 1 1) windowMs isAPlus = .ok () := by
    rw [accepts_twoSamples_iff hmany.le, lamportsToSol_one_sol]
    refine ⟨by norm_num, not_lt.mpr hmin, fun hslow => absurd hslow.2 (not_lt.mpr hrate), ?_, ?_⟩
    · rintro ⟨-, habsorb⟩
      refine absurd habsorb (not_lt.mpr ?_)
      rw [div_le_iff₀ hmany]
      have hle : 1 / cfg.maxSellAbsorptionRatio ≤ many := le_max_right _ _
      rwa [div_le_iff₀' hmax] at hle
    · rintro ⟨-, hdrop, -⟩
      refine absurd hdrop (not_lt.mpr ?_)
      simp only [ConfirmDemand.confirmB2s, zero_lt_one, if_true, div_one]
      exact le_max_left _ _
  have hfirst := h _ _ hweak (.cons le_rfl .nil) haccepts
  rw [accepts_twoSamples_iff hmany.le, lamportsToSol_zero] at hfirst
  refine hfirst.ratio ⟨hbase, ?_, by simp [hplus]⟩
  simp only [ConfirmDemand.confirmB2s, lt_irrefl, if_false, hmany, if_true]
  exact lt_mul_of_one_lt_right hbase hgain

/-- A lower path may turn up where a higher one does not. -/
theorem uptick_of_monotone
    (h : DemandMonotone cfg baselineB2s baseline windowMs isAPlus fun _ _ => True)
    (hcfg : cfg.ComparesDemand baselineB2s isAPlus) :
    cfg.minUpticks = 0 ∨ cfg.maxSellAbsorptionRatio < 0 ∨ 1 < cfg.maxB2sDropRatio := by
  by_contra hno
  simp only [not_or, not_lt] at hno
  obtain ⟨hupticks, hmax, hgain⟩ := hno
  obtain ⟨buyers, hmin, hrate⟩ := exists_buyers cfg baseline windowMs
  have hweak : WeakerDemand (twoSamples buyers 1 0 1 1) (twoSamples buyers 1 0 2 1) :=
    weaker_twoSamples buyers (by norm_num) le_rfl zero_le_one le_rfl le_rfl
  have haccepts : evaluateContinuation cfg baselineB2s baseline (twoSamples buyers 1 0 1 1)
      windowMs isAPlus = .ok () := by
    rw [accepts_twoSamples_iff zero_le_one, lamportsToSol_zero]
    refine ⟨by norm_num, not_lt.mpr hmin, fun hslow => absurd hslow.2 (not_lt.mpr hrate), ?_, ?_⟩
    · rintro ⟨-, habsorb⟩
      rw [zero_div] at habsorb
      exact absurd habsorb (not_lt.mpr hmax)
    · rintro ⟨-, hdrop, -⟩
      refine absurd hdrop (not_lt.mpr ?_)
      simp only [ConfirmDemand.confirmB2s, lt_irrefl, if_false, zero_lt_one, if_true]
      exact mul_le_of_le_one_right hcfg.baseline.le hgain
  have hfirst := h _ _ hweak trivial haccepts
  rw [accepts_twoSamples_iff zero_le_one] at hfirst
  refine hfirst.uptick ⟨?_, by norm_num⟩
  rw [if_neg (by norm_num)]
  exact Nat.pos_of_ne_zero hupticks

/-- With a ratio to meet, less demand is never accepted in place of more. -/
theorem ContinuationConfig.ComparesDemand.accepts (hcfg : cfg.ComparesDemand baselineB2s isAPlus)
    {first second : List EarlyTapePoint} (hweak : WeakerDemand second first)
    (haccepts : evaluateContinuation cfg baselineB2s baseline second windowMs isAPlus = .ok ())
    (huptick : GainsNoMore second first ∨ cfg.minUpticks = 0) :
    evaluateContinuation cfg baselineB2s baseline first windowMs isAPlus = .ok () := by
  rw [evaluateContinuation_ok_iff] at haccepts ⊢
  obtain ⟨d', hd', hok⟩ := haccepts
  obtain ⟨d, hd, hno, hgains⟩ := hweak.exists_demand hd'
  refine ⟨d, hd, hok.of_noStronger hcfg (sound_of_mem_confirmDemand hd)
    (sound_of_mem_confirmDemand hd') hno ?_⟩
  rintro ⟨hfew, hfalls⟩
  rcases huptick with hslices | hzero
  · obtain ⟨hticks, hmove⟩ := hgains hslices
    exact ⟨hticks.trans_lt hfew, by linarith⟩
  · omega

/-- If no sell is tolerated, or the ratio has to grow, nothing is accepted. -/
theorem ContinuationConfig.ComparesDemand.not_accepts
    (hcfg : cfg.ComparesDemand baselineB2s isAPlus)
    (hnone : cfg.maxSellAbsorptionRatio < 0 ∨ 1 < cfg.maxB2sDropRatio)
    (confirm : List EarlyTapePoint) :
    evaluateContinuation cfg baselineB2s baseline confirm windowMs isAPlus ≠ .ok () := by
  intro haccepts
  rw [evaluateContinuation_ok_iff] at haccepts
  obtain ⟨d, hd, hok⟩ := haccepts
  have hsound := sound_of_mem_confirmDemand hd
  have hpos : 0 < d.buyDelta := hok.buys_pos hcfg hsound
  have habsorb : 0 ≤ d.sellDelta / d.buyDelta := div_nonneg hsound.sells hpos.le
  rcases hnone with hneg | hgain
  · exact hok.absorption ⟨hpos, hneg.trans_le habsorb⟩
  · have hmax : cfg.maxSellAbsorptionRatio ≤ 0 := by
      rcases hcfg.no_gain with hle | hmax
      · exact absurd hgain (not_lt.mpr hle)
      · exact hmax
    by_cases hsells : 0 < d.sellDelta
    · exact hok.absorption ⟨hpos, hmax.trans_lt (div_pos hsells hpos)⟩
    · refine hok.ratio ⟨hcfg.baseline, ?_, by simp [hcfg.not_softened]⟩
      rw [ConfirmDemand.confirmB2s, if_neg hsells, if_pos hpos]
      exact lt_mul_of_one_lt_right hcfg.baseline hgain

end

/-- **The gate is monotone in demand** exactly when there is a ratio to meet: a positive one from
the scoring window, with a positive part of it required, which is not waived for an A+, and no more
than all of it unless no sell is tolerated. If paths are compared sample by sample only, a lower one
may also turn up where a higher one falls, so no uptick may be asked for either. -/
theorem demandMonotone_iff (cfg : ContinuationConfig) (baselineB2s : ℚ) (baseline windowMs : ℕ)
    (isAPlus : Bool) :
    (DemandMonotone cfg baselineB2s baseline windowMs isAPlus GainsNoMore ↔
      cfg.ComparesDemand baselineB2s isAPlus) ∧
    (DemandMonotone cfg baselineB2s baseline windowMs isAPlus (fun _ _ => True) ↔
      cfg.ComparesDemand baselineB2s isAPlus ∧
        (cfg.minUpticks = 0 ∨ cfg.maxSellAbsorptionRatio < 0 ∨ 1 < cfg.maxB2sDropRatio)) := by
  have hcompares : DemandMonotone cfg baselineB2s baseline windowMs isAPlus GainsNoMore →
      cfg.ComparesDemand baselineB2s isAPlus := by
    intro h
    obtain ⟨hbase, hratio, hplus⟩ := ratio_of_monotone h
    exact ⟨hbase, hratio, hplus, no_gain_of_monotone h⟩
  constructor
  · refine ⟨hcompares, ?_⟩
    intro hcfg first second hweak hgains haccepts
    exact hcfg.accepts hweak haccepts (.inl hgains)
  · constructor
    · intro h
      have hcfg := hcompares fun first second hweak _ => h first second hweak trivial
      exact ⟨hcfg, uptick_of_monotone h hcfg⟩
    · rintro ⟨hcfg, hzero | hnone⟩ first second hweak - haccepts
      · exact hcfg.accepts hweak haccepts (.inr hzero)
      · exact absurd haccepts (hcfg.not_accepts hnone second)

/-- **A window without buys passes.** In the first window one SOL is bought and two are sold, which
is too much absorption; in the second nothing is bought and two SOL are sold, and an A+ whose market
cap rises is let through. -/
theorem noBuys_accepted :
    ¬ DemandMonotone {} 2 10 1500 true GainsNoMore := by
  intro h
  have hweak : WeakerDemand (twoSamples 12 0 (2 * 10 ^ 9) 50 51)
      (twoSamples 12 1 (2 * 10 ^ 9) 50 51) :=
    weaker_twoSamples 12 le_rfl le_rfl le_rfl zero_le_one le_rfl
  have hfirst := h _ _ hweak (.cons le_rfl .nil) (by decide +kernel)
  revert hfirst
  decide +kernel

end Loggaper
