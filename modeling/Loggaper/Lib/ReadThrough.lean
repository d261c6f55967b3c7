import Loggaper.Lib.KeyedMap
import Loggaper.Lib.Transition
import Mathlib.Data.Finset.Card

/-!
# Reading through a cache

Readers ask a store through a cache whose entries live for a time and whose size is bounded. A
reader that finds nothing fresh loads: the store answers at one moment, and the reader puts the
answer into the cache at a later one. Loads go on at the same time and may overtake each other, so a
newer value can be replaced by an older one. The history is only remembered.

- `recent_of_path`: a value that is served was in the store not long ago.
- `size_of_path`: the cache keeps its bound.
-/

/-- Values with the times at which they were put. -/
abbrev TtlCache (κ ν : Type*) := KeyedMap κ (ν × ℕ)

namespace TtlCache

variable {κ ν : Type*} [DecidableEq κ] (c : TtlCache κ ν) (ttl cap now : ℕ)

def size : ℕ := c.keys.length

def get (k : κ) : Option ν :=
  (AList.lookup k c).bind fun e => if now - e.2 < ttl then some e.1 else none

/-- Drop what is not fresh. -/
def prune : TtlCache κ ν :=
  KeyedMap.eraseAll c (c.keys.filter fun k => (c.get ttl now k).isNone)

/-- A full cache is pruned, and one that stays full takes nothing. -/
def put (k : κ) (v : ν) : TtlCache κ ν :=
  if cap ≤ c.size then
    let c := c.prune ttl now
    if cap ≤ c.size then c else c.insert k (v, now)
  else c.insert k (v, now)

theorem size_eq_card : c.size = (KeyedMap.keySet c).card :=
  (List.toFinset_card_of_nodup c.keys_nodup).symm

theorem size_prune_le : (c.prune ttl now).size ≤ c.size := by
  rw [size_eq_card, size_eq_card, prune, KeyedMap.keySet_eraseAll]
  exact Finset.card_le_card Finset.sdiff_subset

theorem size_insert_le (k : κ) (e : ν × ℕ) : size (c.insert k e) ≤ c.size + 1 := by
  rw [size_eq_card, size_eq_card, KeyedMap.keySet_insert]
  exact Finset.card_insert_le _ _

variable {c cap} in
theorem size_put_le (h : c.size ≤ cap) (k : κ) (v : ν) : (c.put ttl cap now k v).size ≤ cap := by
  have hprune := c.size_prune_le ttl now
  unfold put
  dsimp only
  split_ifs with hfull hstill
  · exact hprune.trans h
  · exact (size_insert_le _ k (v, now)).trans (by omega)
  · exact (size_insert_le _ k (v, now)).trans (by omega)

variable {c ttl cap now} {k k' : κ} {v : ν} {e : ν × ℕ}

theorem lookup_of_prune (h : AList.lookup k (c.prune ttl now) = some e) :
    AList.lookup k c = some e := by
  rw [prune, KeyedMap.lookup_eraseAll] at h
  split_ifs at h
  exact h

/-- What is in the cache after a put. -/
theorem lookup_of_put (h : AList.lookup k' (c.put ttl cap now k v) = some e) :
    AList.lookup k' c = some e ∨ k' = k ∧ e = (v, now) := by
  have hinsert {c' : TtlCache κ ν} (h : AList.lookup k' (c'.insert k (v, now)) = some e)
      (hsub : AList.lookup k' c' = some e → AList.lookup k' c = some e) :
      AList.lookup k' c = some e ∨ k' = k ∧ e = (v, now) := by
    rw [KeyedMap.lookup_insert_eq] at h
    split_ifs at h with hk
    · exact .inr ⟨hk, by simpa using h.symm⟩
    · exact .inl (hsub h)
  unfold put at h
  dsimp only at h
  split_ifs at h
  · exact .inl (lookup_of_prune h)
  · exact hinsert h lookup_of_prune
  · exact hinsert h id

theorem get_eq_some (h : c.get ttl now k = some v) :
    ∃ p, AList.lookup k c = some (v, p) ∧ now < p + ttl := by
  obtain ⟨⟨v', p⟩, hlookup, hfresh⟩ := Option.bind_eq_some_iff.mp h
  obtain ⟨hlt, hv⟩ := Option.ite_none_right_eq_some.mp hfresh
  cases hv
  exact ⟨p, hlookup, by omega⟩

end TtlCache

/-! ## Readers -/

/-- A load, with the answer of the store and its time. -/
structure Load (κ ν : Type*) where
  key : κ
  answer : Option (ν × ℕ)

inductive ReadNote (κ ν : Type*)
  /-- The store held this value. -/
  | loaded (k : κ) (v : ν) (t : ℕ)
  | served (k : κ) (v : ν) (t : ℕ)

/-- Records `ρ` are read as values `ν`. -/
structure Reading (κ ρ ν : Type*) where
  now : ℕ
  store : κ → ρ
  cache : TtlCache κ ν
  loads : List (Load κ ν)
  history : List (ReadNote κ ν)

inductive ReadEvent (κ ρ : Type*)
  | tick (ms : ℕ)
  | write (k : κ) (record : ρ)
  | call (k : κ)
  /-- The store answers a load. -/
  | answer (i : ℕ)
  /-- A load puts its answer into the cache and serves it. -/
  | finish (i : ℕ)
  | fail (i : ℕ)

namespace Reading

variable {κ ρ ν : Type*} [DecidableEq κ] (view : ρ → ν) (ttl cap : ℕ)

def step (s : Reading κ ρ ν) : ReadEvent κ ρ → Option (Reading κ ρ ν)
  | .tick ms => some { s with now := s.now + ms }
  | .write k record => some { s with store := Function.update s.store k record }
  | .call k =>
    match s.cache.get ttl s.now k with
    | some v => some { s with history := s.history ++ [.served k v s.now] }
    | none => some { s with loads := s.loads ++ [⟨k, none⟩] }
  | .answer i =>
    match s.loads[i]? with
    | some ⟨k, none⟩ => some { s with
        loads := s.loads.set i ⟨k, some (view (s.store k), s.now)⟩
        history := s.history ++ [.loaded k (view (s.store k)) s.now] }
    | _ => none
  | .finish i =>
    match s.loads[i]? with
    | some ⟨k, some (v, _)⟩ => some { s with
        loads := s.loads.eraseIdx i
        cache := s.cache.put ttl cap s.now k v
        history := s.history ++ [.served k v s.now] }
    | _ => none
  | .fail i =>
    if i < s.loads.length then some { s with loads := s.loads.eraseIdx i } else none

/-- Nothing has been read yet. -/
structure Fresh (s : Reading κ ρ ν) : Prop where
  cache : s.cache = ∅
  loads : s.loads = []
  history : s.history = []

/-- No load takes longer than `d` from the answer of the store to its end. -/
def Prompt (d : ℕ) (s : Reading κ ρ ν) : ReadEvent κ ρ → Prop
  | .finish i => ∀ l ∈ s.loads[i]?, ∀ e ∈ l.answer, s.now ≤ e.2 + d
  | _ => True

instance (d : ℕ) (s : Reading κ ρ ν) (e : ReadEvent κ ρ) : Decidable (s.Prompt d e) :=
  match e with
  | .finish i =>
    inferInstanceAs (Decidable (∀ l ∈ s.loads[i]?, ∀ e ∈ l.answer, s.now ≤ e.2 + d))
  | .tick _ | .write .. | .call _ | .answer _ | .fail _ => isTrue trivial

end Reading

/-- Readers of a store through a cache. -/
def readThrough {κ ρ ν : Type*} [DecidableEq κ] (view : ρ → ν) (ttl cap : ℕ) :
    Machine (Reading κ ρ ν) (ReadEvent κ ρ) where
  init := Reading.Fresh
  step := Reading.step view ttl cap

namespace Reading

variable {κ ρ ν : Type*} [DecidableEq κ] {view : ρ → ν} {ttl cap d : ℕ} {s t u : Reading κ ρ ν}
  {e : ReadEvent κ ρ} {es : List (ReadEvent κ ρ)}

/-! ## Where values come from -/

/-- What is cached, loading and served, against what the store has held. -/
structure Sourced (ttl d : ℕ) (s : Reading κ ρ ν) : Prop where
  loaded : ∀ k v r, .loaded k v r ∈ s.history → r ≤ s.now
  cached : ∀ k v p, AList.lookup k s.cache = some (v, p) →
    ∃ r, .loaded k v r ∈ s.history ∧ p ≤ r + d
  loading : ∀ l ∈ s.loads, ∀ v r, l.answer = some (v, r) → .loaded l.key v r ∈ s.history
  served : ∀ k v t, .served k v t ∈ s.history →
    ∃ r, .loaded k v r ∈ s.history ∧ r ≤ t ∧ t < r + d + ttl

theorem sourced_fresh (h : s.Fresh) : s.Sourced ttl d := by
  refine ⟨fun k v r hr => ?_, fun k v p hp => ?_, fun l hl => ?_, fun k v t ht => ?_⟩
  · rw [h.history] at hr
    cases hr
  · rw [h.cache, AList.lookup_empty] at hp
    cases hp
  · rw [h.loads] at hl
    cases hl
  · rw [h.history] at ht
    cases ht

/-- A history that grows by what is served. -/
theorem Sourced.serve (h : s.Sourced ttl d) {k : κ} {v : ν}
    (hserved : ∃ r, .loaded k v r ∈ s.history ∧ r ≤ s.now ∧ s.now < r + d + ttl) :
    ({ s with history := s.history ++ [.served k v s.now] } : Reading κ ρ ν).Sourced ttl d where
  loaded k' v' r hr := by
    simp only [List.mem_append, List.mem_singleton, reduceCtorEq, or_false] at hr
    exact h.loaded k' v' r hr
  cached k' v' p hp := by
    obtain ⟨r, hr, hp⟩ := h.cached k' v' p hp
    exact ⟨r, List.mem_append_left _ hr, hp⟩
  loading l hl v' r hr := List.mem_append_left _ (h.loading l hl v' r hr)
  served k' v' t ht := by
    rcases List.mem_append.mp ht with hold | hnew
    · obtain ⟨r, hr, hle, hlt⟩ := h.served k' v' t hold
      exact ⟨r, List.mem_append_left _ hr, hle, hlt⟩
    · cases List.mem_singleton.mp hnew
      obtain ⟨r, hr, hle, hlt⟩ := hserved
      exact ⟨r, List.mem_append_left _ hr, hle, hlt⟩

theorem Sourced.step (h : s.Sourced ttl d) (httl : 0 < ttl) (hprompt : s.Prompt d e)
    (hstep : s.step view ttl cap e = some t) : t.Sourced ttl d := by
  cases e with
  | tick ms =>
    cases hstep
    exact { h with loaded := fun k v r hr => (h.loaded k v r hr).trans (Nat.le_add_right _ _) }
  | write k record =>
    cases hstep
    exact { h with }
  | call k =>
    simp only [Reading.step] at hstep
    split at hstep
    · rename_i v hget
      cases hstep
      obtain ⟨p, hp, hlt⟩ := TtlCache.get_eq_some hget
      obtain ⟨r, hr, hpr⟩ := h.cached k v p hp
      exact h.serve ⟨r, hr, h.loaded k v r hr, by omega⟩
    · cases hstep
      refine { h with loading := fun l hl => ?_ }
      rcases List.mem_append.mp hl with hold | hnew
      · exact h.loading l hold
      · cases List.mem_singleton.mp hnew
        intro v r hv
        cases hv
  | answer i =>
    simp only [Reading.step] at hstep
    split at hstep
    · rename_i k hload
      cases hstep
      refine ⟨fun k' v' r hr => ?_, fun k' v' p hp => ?_, fun l hl v' r hv => ?_,
        fun k' v' t ht => ?_⟩
      · rcases List.mem_append.mp hr with hold | hnew
        · exact h.loaded k' v' r hold
        · cases List.mem_singleton.mp hnew
          exact le_rfl
      · obtain ⟨r, hr, hp⟩ := h.cached k' v' p hp
        exact ⟨r, List.mem_append_left _ hr, hp⟩
      · rcases List.mem_or_eq_of_mem_set hl with hold | rfl
        · exact List.mem_append_left _ (h.loading l hold v' r hv)
        · cases hv
          exact List.mem_append_right _ (List.mem_singleton_self _)
      · have hold : ReadNote.served k' v' t ∈ s.history := by
          simpa only [List.mem_append, List.mem_singleton, reduceCtorEq, or_false] using ht
        obtain ⟨r, hr, hle, hlt⟩ := h.served k' v' t hold
        exact ⟨r, List.mem_append_left _ hr, hle, hlt⟩
    · cases hstep
  | finish i =>
    simp only [Reading.step] at hstep
    split at hstep
    · rename_i k v r hload
      cases hstep
      have hr : .loaded k v r ∈ s.history := h.loading _ (List.mem_of_getElem? hload) v r rfl
      have hd : s.now ≤ r + d := hprompt _ hload _ rfl
      have hserve := h.serve ⟨r, hr, h.loaded k v r hr, by omega⟩
      refine { hserve with cached := fun k' v' p hp => ?_, loading := fun l hl => ?_ }
      · rcases TtlCache.lookup_of_put hp with hold | ⟨rfl, hnew⟩
        · exact hserve.cached k' v' p hold
        · cases hnew
          exact ⟨r, List.mem_append_left _ hr, hd⟩
      · exact hserve.loading l (List.mem_of_mem_eraseIdx hl)
    · cases hstep
  | fail i =>
    simp only [Reading.step] at hstep
    split_ifs at hstep
    cases hstep
    exact { h with loading := fun l hl => h.loading l (List.mem_of_mem_eraseIdx hl) }

theorem size_step (h : s.cache.size ≤ cap) (hstep : s.step view ttl cap e = some t) :
    t.cache.size ≤ cap := by
  cases e with
  | finish i =>
    simp only [Reading.step] at hstep
    split at hstep
    · cases hstep
      exact TtlCache.size_put_le _ _ h _ _
    · cases hstep
  | call k =>
    simp only [Reading.step] at hstep
    split at hstep
    · cases hstep
      exact h
    · cases hstep
      exact h
  | answer i =>
    simp only [Reading.step] at hstep
    split at hstep
    · cases hstep
      exact h
    · cases hstep
  | fail i =>
    simp only [Reading.step] at hstep
    split_ifs at hstep
    cases hstep
    exact h
  | tick ms =>
    cases hstep
    exact h
  | write k record =>
    cases hstep
    exact h

/-! ## Runs -/

/-- At some moment of the run the store held this value. -/
def HeldIn (view : ρ → ν) (ttl cap : ℕ) (s : Reading κ ρ ν) (es : List (ReadEvent κ ρ)) (k : κ)
    (v : ν) (r : ℕ) : Prop :=
  ∃ before after m, es = before ++ after ∧ (readThrough view ttl cap).run s before = some m ∧
    view (m.store k) = v ∧ m.now = r

theorem loaded_step (hstep : s.step view ttl cap e = some t) {k : κ} {v : ν} {r : ℕ}
    (hr : .loaded k v r ∈ t.history) :
    .loaded k v r ∈ s.history ∨ view (s.store k) = v ∧ s.now = r := by
  cases e with
  | tick ms =>
    cases hstep
    exact .inl hr
  | write k' record =>
    cases hstep
    exact .inl hr
  | call k' =>
    simp only [Reading.step] at hstep
    split at hstep
    · cases hstep
      exact .inl (by simpa using hr)
    · cases hstep
      exact .inl hr
  | answer i =>
    simp only [Reading.step] at hstep
    split at hstep
    · cases hstep
      rcases List.mem_append.mp hr with hold | hnew
      · exact .inl hold
      · cases List.mem_singleton.mp hnew
        exact .inr ⟨rfl, rfl⟩
    · cases hstep
  | finish i =>
    simp only [Reading.step] at hstep
    split at hstep
    · cases hstep
      exact .inl (by simpa using hr)
    · cases hstep
  | fail i =>
    simp only [Reading.step] at hstep
    split_ifs at hstep
    cases hstep
    exact .inl hr

/-- What a load is told, the store holds. -/
theorem heldIn_of_loaded {G : Reading κ ρ ν → ReadEvent κ ρ → Prop}
    (h : (readThrough view ttl cap).Path G s es u) {k : κ} {v : ν} {r : ℕ}
    (hr : .loaded k v r ∈ u.history) :
    .loaded k v r ∈ s.history ∨ HeldIn view ttl cap s es k v r := by
  induction h with
  | nil s => exact .inl hr
  | @cons s t u e es _ hstep _ ih =>
    rcases ih hr with hold | ⟨before, after, m, rfl, hrun, hm⟩
    · rcases loaded_step hstep hold with hold | hheld
      · exact .inl hold
      · exact .inr ⟨[], e :: es, s, rfl, rfl, hheld⟩
    · exact .inr ⟨e :: before, after, m, rfl, by rwa [Machine.run_cons _ hstep], hm⟩

/-- **Recent values.** What is served was in the store within the time to live and the time that a
load may take. -/
theorem recent_of_path (httl : 0 < ttl) (hfresh : s.Fresh)
    (h : (readThrough view ttl cap).Path (Prompt d) s es u) {k : κ} {v : ν} {t : ℕ}
    (hserved : .served k v t ∈ u.history) :
    ∃ r, HeldIn view ttl cap s es k v r ∧ r ≤ t ∧ t < r + d + ttl := by
  have hsourced : u.Sourced ttl d :=
    h.invariant (fun _ _ _ hs hprompt hstep => hs.step httl hprompt hstep) (sourced_fresh hfresh)
  obtain ⟨r, hr, hle, hlt⟩ := hsourced.served k v t hserved
  rcases heldIn_of_loaded h hr with hold | hheld
  · rw [hfresh.history] at hold
    cases hold
  · exact ⟨r, hheld, hle, hlt⟩

/-- **The bound.** -/
theorem size_of_path {G : Reading κ ρ ν → ReadEvent κ ρ → Prop} (hfresh : s.Fresh)
    (h : (readThrough view ttl cap).Path G s es u) : u.cache.size ≤ cap := by
  refine h.invariant (I := fun s => s.cache.size ≤ cap)
    (fun _ _ _ hs _ hstep => size_step hs hstep) ?_
  rw [hfresh.cache]
  exact Nat.zero_le cap

end Reading
