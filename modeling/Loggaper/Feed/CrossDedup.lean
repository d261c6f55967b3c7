import Loggaper.Lib.KeyedMap

/-!
# The same transaction on two feeds

The feeds share one `SignatureDedup`: the first feed that sees a signature claims it, and a
signature that another feed has claimed counts as a duplicate. Only the last claims are kept. Each
feed calls `observe` under the lock, so the calls of all feeds are one sequence, in any order.

Main result: `crossDedup_window`.
-/

namespace Loggaper

structure SignatureDedup where
  capacity : ℕ
  order : List String
  owner : KeyedMap String String

/-- A call of `observe`: a feed sees a signature. -/
@[ext]
structure Sighting where
  signature : String
  feed : String
  deriving DecidableEq, Repr

namespace SignatureDedup

def new (capacity : ℕ) : SignatureDedup := ⟨capacity, [], ∅⟩

/-- `observe` makes room for a new claim. -/
def evict (d : SignatureDedup) : SignatureDedup :=
  if d.capacity ≤ d.order.length then
    match d.order with
    | [] => d
    | old :: order => { d with order, owner := d.owner.erase old }
  else d

/-- `observe`: whether another feed has claimed the signature. -/
def observe (d : SignatureDedup) (call : Sighting) : Bool × SignatureDedup :=
  match d.owner.lookup call.signature with
  | some prev => (prev != call.feed, d)
  | none =>
    let d := d.evict
    (false, { d with
      order := d.order ++ [call.signature]
      owner := d.owner.insert call.signature call.feed })

def after (d : SignatureDedup) (calls : List Sighting) : SignatureDedup :=
  calls.foldl (fun d call => (d.observe call).2) d

end SignatureDedup

/-! ## Claims -/

/-- The claims, the newest first: a call claims its signature unless one of the last `c` claims is
about it. -/
def claim (c : ℕ) (claims : List Sighting) (call : Sighting) : List Sighting :=
  if call.signature ∈ (claims.take c).map Sighting.signature then claims else call :: claims

def claimsOf (c : ℕ) (calls : List Sighting) : List Sighting := calls.foldl (claim c) []

/-- The queue and the map are the last `c` claims. -/
structure KeepsClaims (c : ℕ) (d : SignatureDedup) (claims : List Sighting) : Prop where
  capacity : max d.capacity 1 = c
  order : d.order = ((claims.take c).map Sighting.signature).reverse
  nodup : ((claims.take c).map Sighting.signature).Nodup
  owner : ∀ call : Sighting, d.owner.lookup call.signature = some call.feed ↔
    call ∈ claims.take c

variable {c : ℕ} {d : SignatureDedup} {claims : List Sighting}

theorem keepsClaims_new (capacity : ℕ) :
    KeepsClaims (max capacity 1) (SignatureDedup.new capacity) [] where
  capacity := rfl
  order := by rw [List.take_nil]; rfl
  nodup := by simp
  owner call := by simp [SignatureDedup.new]

/-- A signature is in the map if and only if it is in the queue. -/
theorem KeepsClaims.lookup_eq_none (h : KeepsClaims c d claims) (signature : String) :
    d.owner.lookup signature = none ↔ signature ∉ (claims.take c).map Sighting.signature := by
  constructor
  · intro hnone hmem
    obtain ⟨call, hcall, rfl⟩ := List.mem_map.mp hmem
    rw [(h.owner call).mpr hcall] at hnone
    cases hnone
  · intro hmem
    rw [Option.eq_none_iff_forall_ne_some]
    intro feed hfeed
    exact hmem (List.mem_map.mpr ⟨⟨signature, feed⟩, (h.owner ⟨signature, feed⟩).mp hfeed, rfl⟩)

/-- Without the oldest claim a full queue has room for one more. -/
theorem KeepsClaims.evict (h : KeepsClaims c d claims) :
    d.evict.capacity = d.capacity ∧
      d.evict.order = ((claims.take (c - 1)).map Sighting.signature).reverse ∧
      ∀ call : Sighting, d.evict.owner.lookup call.signature = some call.feed ↔
        call ∈ claims.take (c - 1) := by
  have hcapacity := h.capacity
  have hlength : d.order.length = min c claims.length := by
    rw [h.order, List.length_reverse, List.length_map, List.length_take]
  unfold SignatureDedup.evict
  by_cases hfull : d.capacity ≤ d.order.length
  · rw [if_pos hfull]
    cases horder : d.order with
    | nil =>
      rw [horder, List.length_nil] at hlength hfull
      have hclaims : claims = [] := List.length_eq_zero_iff.mp (by omega)
      subst hclaims
      refine ⟨rfl, ?_, fun call => ?_⟩
      · rw [List.take_nil, horder]
        rfl
      · rw [h.owner call, List.take_nil, List.take_nil]
    | cons old order =>
      rw [horder, List.length_cons] at hlength hfull
      have hlast : claims.take c = claims.take (c - 1) ++ [claims[c - 1]] := by
        rw [← List.take_succ_eq_append_getElem (by omega), Nat.sub_add_cancel (by omega)]
      have hall := h.order
      have hnodup := h.nodup
      rw [hlast, List.map_append] at hnodup
      rw [horder, hlast, List.map_append, List.reverse_append, List.map_singleton,
        List.reverse_singleton, List.singleton_append, List.cons.injEq] at hall
      refine ⟨rfl, hall.2, fun call => ?_⟩
      have howner := h.owner call
      rw [hlast, List.mem_append, List.mem_singleton] at howner
      by_cases hold : call.signature = old
      · rw [hold, AList.lookup_erase]
        constructor
        · exact nofun
        · intro hmem
          have hdisjoint := List.disjoint_of_nodup_append hnodup
          exact (hdisjoint (List.mem_map.mpr ⟨call, hmem, hold.trans hall.1⟩)
            (List.mem_singleton.mpr rfl)).elim
      · rw [AList.lookup_erase_ne hold, howner]
        constructor
        · rintro (hmem | rfl)
          · exact hmem
          · exact absurd hall.1.symm hold
        · exact Or.inl
  · rw [if_neg hfull]
    have hshort : claims.take c = claims.take (c - 1) := by
      rw [List.take_of_length_le (by omega), List.take_of_length_le (by omega)]
    exact ⟨rfl, by rw [h.order, hshort], fun call => by rw [h.owner call, hshort]⟩

theorem keepsClaims_observe (h : KeepsClaims c d claims) (call : Sighting) :
    ((d.observe call).1 = true ↔ ∃ earlier ∈ claims.take c,
      earlier.signature = call.signature ∧ earlier.feed ≠ call.feed) ∧
    KeepsClaims c (d.observe call).2 (claim c claims call) := by
  have hnone := h.lookup_eq_none call.signature
  cases hlookup : d.owner.lookup call.signature with
  | some prev =>
    have hprev := (h.owner ⟨call.signature, prev⟩).mp hlookup
    have hmem : call.signature ∈ (claims.take c).map Sighting.signature :=
      List.mem_map.mpr ⟨_, hprev, rfl⟩
    rw [SignatureDedup.observe, hlookup, claim, if_pos hmem]
    refine ⟨?_, h⟩
    rw [bne_iff_ne]
    constructor
    · exact fun hne => ⟨_, hprev, rfl, hne⟩
    · rintro ⟨earlier, hearlier, hsignature, hne⟩
      have hfeed := (h.owner earlier).mpr hearlier
      rw [hsignature, hlookup, Option.some_inj] at hfeed
      rw [hfeed]
      exact hne
  | none =>
    have hmem := hnone.mp hlookup
    obtain ⟨hcapacity, horder, howner⟩ := h.evict
    have hc : 1 ≤ c := h.capacity ▸ le_max_right _ _
    have htake : (call :: claims).take c = call :: claims.take (c - 1) := List.take_cons hc
    have hout : call.signature ∉ (claims.take (c - 1)).map Sighting.signature := by
      refine mt (fun hin => ?_) hmem
      exact List.map_subset _ (List.take_subset_take_left _ (Nat.sub_le c 1)) hin
    rw [SignatureDedup.observe, hlookup, claim, if_neg hmem]
    constructor
    · constructor
      · exact nofun
      · rintro ⟨earlier, hearlier, hsignature, -⟩
        exact absurd (List.mem_map.mpr ⟨earlier, hearlier, hsignature⟩) hmem
    · constructor
      · exact hcapacity ▸ h.capacity
      · show d.evict.order ++ [call.signature] = _
        rw [horder, htake, List.map_cons, List.reverse_cons]
      · rw [htake, List.map_cons, List.nodup_cons]
        exact ⟨hout, h.nodup.sublist ((List.take_sublist_take_left (Nat.sub_le c 1)).map _)⟩
      · intro other
        rw [htake, List.mem_cons, ← howner other]
        show (d.evict.owner.insert call.signature call.feed).lookup other.signature = _ ↔ _
        rw [KeyedMap.lookup_insert_eq]
        by_cases hsame : other.signature = call.signature
        · rw [if_pos hsame, Option.some_inj]
          constructor
          · intro hfeed
            exact .inl (Sighting.ext_iff.mpr ⟨hsame, hfeed.symm⟩)
          · rintro (rfl | hlookup')
            · rfl
            · have hin := (howner other).mp hlookup'
              exact absurd (List.mem_map.mpr ⟨other, hin, hsame⟩) hout
        · rw [if_neg hsame]
          constructor
          · exact Or.inr
          · rintro (rfl | hlookup')
            · exact absurd rfl hsame
            · exact hlookup'

theorem keepsClaims_after (h : KeepsClaims c d claims) (calls : List Sighting) :
    KeepsClaims c (d.after calls) (calls.foldl (claim c) claims) := by
  induction calls generalizing d claims with
  | nil => exact h
  | cons call calls ih => exact ih (keepsClaims_observe h call).2

/-- **Signatures on several feeds.** After every sequence of calls, by any feeds in any order, a
call answers whether one of the last claims is a claim of another feed to the same signature, and no
two of these claims are to the same signature. -/
theorem crossDedup_window (capacity : ℕ) (calls : List Sighting) (call : Sighting) :
    let last := (claimsOf (max capacity 1) calls).take (max capacity 1)
    ((((SignatureDedup.new capacity).after calls).observe call).1 = true ↔
      ∃ earlier ∈ last, earlier.signature = call.signature ∧ earlier.feed ≠ call.feed) ∧
    (last.map Sighting.signature).Nodup := by
  have h := keepsClaims_after (keepsClaims_new capacity) calls
  exact ⟨(keepsClaims_observe h call).1, h.nodup⟩

/-- A claim is pushed out by later ones, and then the signature can be claimed again. -/
example : (((SignatureDedup.new 1).after [⟨"a", "pump"⟩, ⟨"b", "pump"⟩, ⟨"a", "pumpswap"⟩]).observe
    ⟨"a", "pump"⟩).1 = true := by decide

end Loggaper
