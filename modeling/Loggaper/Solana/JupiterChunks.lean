import Loggaper.Solana.Sell

/-!
# The chunks of a Jupiter sale

`jupiterChunkAmounts` splits on natural numbers. Here the split is also done in the machine integers
of the source, and nothing in it overflows.

Main result: `jupiterChunks_exact`.
-/

namespace Loggaper

/-- `jupiter_chunk_amounts` in `u64`. -/
def jupiterChunkAmountsU64 (totalRaw : UInt64) (parts : UInt32) : List UInt64 :=
  if totalRaw = 0 then []
  else if parts ≤ 1 ∨ totalRaw < parts.toUInt64 * 50_000 then [totalRaw]
  else
    let base := totalRaw / parts.toUInt64
    (List.range (parts - 1).toNat).map (fun _ => base) ++
      [totalRaw - base * (parts.toUInt64 - 1)]

/-! ## No overflow -/

theorem toNat_parts_mul (parts : UInt32) :
    (parts.toUInt64 * 50_000).toNat = parts.toNat * 50_000 := by
  have hparts : parts.toNat < 2 ^ 32 := parts.toNat_lt
  have hlimit : (50_000 : UInt64).toNat = 50_000 := rfl
  rw [UInt64.toNat_mul, UInt32.toNat_toUInt64, hlimit]
  exact Nat.mod_eq_of_lt (by omega)

theorem toNat_parts_pred {parts : UInt32} (h : 1 < parts) :
    (parts - 1).toNat = parts.toNat - 1 ∧ (parts.toUInt64 - 1).toNat = parts.toNat - 1 := by
  have hparts : 1 < parts.toNat := UInt32.lt_iff_toNat_lt.mp h
  constructor
  · rw [UInt32.toNat_sub_of_le _ _ (UInt32.le_of_lt h)]
    rfl
  · have hone : (1 : UInt64) ≤ parts.toUInt64 := by
      rw [UInt64.le_iff_toNat_le, UInt32.toNat_toUInt64]
      exact hparts.le
    rw [UInt64.toNat_sub_of_le _ _ hone, UInt32.toNat_toUInt64]
    rfl

theorem div_mul_pred_le (total parts : ℕ) : total / parts * (parts - 1) ≤ total :=
  (Nat.mul_le_mul_left _ (Nat.sub_le _ _)).trans (Nat.div_mul_le_self _ _)

/-- What is left for the last chunk. -/
theorem toNat_rest (totalRaw : UInt64) {parts : UInt32} (h : 1 < parts) :
    (totalRaw - totalRaw / parts.toUInt64 * (parts.toUInt64 - 1)).toNat =
      totalRaw.toNat - totalRaw.toNat / parts.toNat * (parts.toNat - 1) := by
  have hle := div_mul_pred_le totalRaw.toNat parts.toNat
  have htotal : totalRaw.toNat < 2 ^ 64 := totalRaw.toNat_lt
  have hsold : (totalRaw / parts.toUInt64 * (parts.toUInt64 - 1)).toNat =
      totalRaw.toNat / parts.toNat * (parts.toNat - 1) := by
    rw [UInt64.toNat_mul, UInt64.toNat_div, UInt32.toNat_toUInt64, (toNat_parts_pred h).2]
    exact Nat.mod_eq_of_lt (by omega)
  have hsold_le : totalRaw / parts.toUInt64 * (parts.toUInt64 - 1) ≤ totalRaw := by
    rw [UInt64.le_iff_toNat_le, hsold]
    exact hle
  rw [UInt64.toNat_sub_of_le _ _ hsold_le, hsold]

/-- The machine integers give the chunks of the natural numbers. -/
theorem toNat_jupiterChunkAmountsU64 (totalRaw : UInt64) (parts : UInt32) :
    (jupiterChunkAmountsU64 totalRaw parts).map UInt64.toNat =
      jupiterChunkAmounts totalRaw.toNat parts.toNat := by
  have hzero : totalRaw = 0 ↔ totalRaw.toNat = 0 := by
    rw [← UInt64.toNat_inj]
    rfl
  have hwhole : (parts ≤ 1 ∨ totalRaw < parts.toUInt64 * 50_000) ↔
      (parts.toNat ≤ 1 ∨ totalRaw.toNat < parts.toNat * 50_000) := by
    rw [UInt64.lt_iff_toNat_lt, toNat_parts_mul, UInt32.le_iff_toNat_le]
    rfl
  unfold jupiterChunkAmountsU64 jupiterChunkAmounts
  by_cases hnone : totalRaw = 0
  · rw [if_pos hnone, if_pos (hzero.mp hnone)]
    rfl
  · rw [if_neg hnone, if_neg (mt hzero.mpr hnone)]
    by_cases hone : parts ≤ 1 ∨ totalRaw < parts.toUInt64 * 50_000
    · rw [if_pos hone, if_pos (hwhole.mp hone)]
      rfl
    · have hparts : 1 < parts := UInt32.not_le.mp fun hle => hone (.inl hle)
      rw [if_neg hone, if_neg (mt hwhole.mpr hone), List.map_append, List.map_singleton,
        toNat_rest totalRaw hparts, List.map_const', List.map_replicate, List.length_range,
        (toNat_parts_pred hparts).1, UInt64.toNat_div, UInt32.toNat_toUInt64]

/-! ## The split -/

/-- The amount in at most so many chunks, none of them empty. When there are more than one, none is
too small to sell, and they differ by the rest of the division only. -/
structure SplitsInto (total parts : ℕ) (chunks : List ℕ) : Prop where
  some_chunk : 1 ≤ chunks.length
  count : chunks.length ≤ parts
  positive : ∀ raw ∈ chunks, 0 < raw
  sum : chunks.sum = total
  large : 1 < chunks.length → ∀ raw ∈ chunks, 50_000 ≤ raw
  even : ∀ last ∈ chunks.getLast?, ∀ raw ∈ chunks.dropLast, raw ≤ last ∧ last < raw + parts

theorem splitsInto_one {total parts : ℕ} (htotal : 0 < total) (hparts : 1 ≤ parts) :
    SplitsInto total parts [total] where
  some_chunk := le_rfl
  count := hparts
  positive := by simpa using htotal
  sum := List.sum_singleton
  large := by simp
  even := by simp

/-- Equal chunks, and the rest of the division in the last one. -/
theorem splitsInto_parts {total parts : ℕ} (hparts : 1 < parts) (htotal : parts * 50_000 ≤ total) :
    SplitsInto total parts
      (List.replicate (parts - 1) (total / parts) ++ [total - total / parts * (parts - 1)]) := by
  have hpos : 0 < parts := by omega
  have hbase : 50_000 ≤ total / parts := (Nat.le_div_iff_mul_le hpos).mpr (by omega)
  have hrest : total % parts < parts := Nat.mod_lt _ hpos
  have hlast : total - total / parts * (parts - 1) = total / parts + total % parts := by
    have hdiv : total / parts * parts + total % parts = total := Nat.div_add_mod' total parts
    rw [Nat.mul_sub_one]
    have hbase_le : total / parts ≤ total / parts * parts := Nat.le_mul_of_pos_right _ hpos
    omega
  rw [hlast]
  have hraw : ∀ raw ∈ List.replicate (parts - 1) (total / parts) ++
      [total / parts + total % parts], total / parts ≤ raw := by
    intro raw hmem
    rcases List.mem_append.mp hmem with hfirst | hend
    · exact (List.eq_of_mem_replicate hfirst).ge
    · rw [List.mem_singleton.mp hend]
      exact Nat.le_add_right _ _
  constructor
  · simp
  · simp only [List.length_append, List.length_replicate, List.length_singleton]
    omega
  · intro raw hmem
    have hle := hraw raw hmem
    omega
  · rw [List.sum_append, List.sum_replicate_nat, List.sum_singleton, ← hlast,
      mul_comm (parts - 1)]
    exact Nat.add_sub_cancel' (div_mul_pred_le total parts)
  · exact fun _ raw hmem => hbase.trans (hraw raw hmem)
  · intro last hend raw hmem
    rw [List.getLast?_concat, Option.mem_some_iff] at hend
    rw [List.dropLast_concat] at hmem
    obtain rfl := List.eq_of_mem_replicate hmem
    omega

theorem splitsInto_jupiterChunkAmounts {total parts : ℕ} (htotal : 0 < total)
    (hparts : 1 ≤ parts) : SplitsInto total parts (jupiterChunkAmounts total parts) := by
  unfold jupiterChunkAmounts
  rw [if_neg (by omega)]
  split_ifs with hone
  · exact splitsInto_one htotal hparts
  · rw [not_or, not_le, not_lt] at hone
    exact splitsInto_parts hone.1 hone.2

/-- **The chunks are the amount**, for every amount and number of parts. -/
theorem jupiterChunks_exact (totalRaw : UInt64) (parts : UInt32) (htotal : 0 < totalRaw)
    (hparts : 1 ≤ parts) :
    SplitsInto totalRaw.toNat parts.toNat
      ((jupiterChunkAmountsU64 totalRaw parts).map UInt64.toNat) := by
  rw [toNat_jupiterChunkAmountsU64]
  exact splitsInto_jupiterChunkAmounts (UInt64.lt_iff_toNat_lt.mp htotal)
    (UInt32.le_iff_toNat_le.mp hparts)

theorem jupiterChunks_exact_four :
    jupiterChunkAmountsU64 200_003 4 = [50_000, 50_000, 50_000, 50_003] ∧
      SplitsInto 200_003 4 ((jupiterChunkAmountsU64 200_003 4).map UInt64.toNat) :=
  ⟨by decide, jupiterChunks_exact 200_003 4 (by decide) (by decide)⟩

end Loggaper
