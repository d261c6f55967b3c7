import Mathlib.Algebra.BigOperators.Group.List.Basic
import Mathlib.Data.Finset.Image
import Mathlib.Data.List.AList

/-!
# Keyed maps

A map from keys to values is an association list without repeated keys. Mathlib's `AList` gives
lookup, insertion and erasure. This module adds what a table of rows needs on top of them: the
set of its keys, a change of every value at once, and the removal of many keys.
-/

/-- A finite map with keys in `κ` and values in `ν`. -/
abbrev KeyedMap (κ ν : Type*) := AList fun _ : κ => ν

namespace KeyedMap

variable {κ ν μ : Type*}

/-- Change every value, with the key in hand. -/
def mapVals (f : κ → ν → μ) (m : KeyedMap κ ν) : KeyedMap κ μ where
  entries := m.entries.map fun e => ⟨e.1, f e.1 e.2⟩
  nodupKeys := by
    have h : (m.entries.map fun e => (⟨e.1, f e.1 e.2⟩ : Sigma fun _ : κ => μ)).keys = m.keys := by
      simp [List.keys, AList.keys, Function.comp_def]
    rw [List.NodupKeys, h]
    exact m.keys_nodup

@[simp] theorem keys_mapVals (f : κ → ν → μ) (m : KeyedMap κ ν) : (mapVals f m).keys = m.keys := by
  simp [mapVals, List.keys, AList.keys, Function.comp_def]

@[simp] theorem mem_mapVals {f : κ → ν → μ} {m : KeyedMap κ ν} {k : κ} :
    k ∈ mapVals f m ↔ k ∈ m := by
  rw [AList.mem_keys, AList.mem_keys, keys_mapVals]

variable [DecidableEq κ]

@[simp] theorem lookup_mapVals (f : κ → ν → μ) (m : KeyedMap κ ν) (k : κ) :
    AList.lookup k (mapVals f m) = (AList.lookup k m).map (f k) := by
  obtain ⟨es, hes⟩ := m
  simp only [mapVals, AList.lookup]
  clear hes
  induction es with
  | nil => rfl
  | cons e es ih =>
    obtain ⟨a, v⟩ := e
    by_cases h : k = a
    · subst h; simp
    · simp [List.dlookup_cons_ne, h, ih]

/-- The keys, as a set. -/
def keySet (m : KeyedMap κ ν) : Finset κ := m.keys.toFinset

@[simp] theorem mem_keySet {m : KeyedMap κ ν} {k : κ} : k ∈ keySet m ↔ k ∈ m := by
  simp [keySet, AList.mem_keys]

@[simp] theorem keySet_mapVals (f : κ → ν → μ) (m : KeyedMap κ ν) :
    keySet (mapVals f m) = keySet m := by
  simp [keySet]

@[simp] theorem keySet_insert (k : κ) (v : ν) (m : KeyedMap κ ν) :
    keySet (m.insert k v) = insert k (keySet m) := by
  ext a; simp

@[simp] theorem keySet_erase (k : κ) (m : KeyedMap κ ν) :
    keySet (m.erase k) = (keySet m).erase k := by
  ext a; simp

@[simp] theorem keySet_empty : keySet (∅ : KeyedMap κ ν) = ∅ := rfl

/-- Remove every key of a list. -/
def eraseAll (m : KeyedMap κ ν) (ks : List κ) : KeyedMap κ ν := ks.foldl (fun m k => m.erase k) m

@[simp] theorem eraseAll_nil (m : KeyedMap κ ν) : eraseAll m [] = m := rfl

@[simp] theorem eraseAll_cons (m : KeyedMap κ ν) (k : κ) (ks : List κ) :
    eraseAll m (k :: ks) = eraseAll (m.erase k) ks := rfl

@[simp] theorem lookup_eraseAll (m : KeyedMap κ ν) (ks : List κ) (k : κ) :
    AList.lookup k (eraseAll m ks) = if k ∈ ks then none else AList.lookup k m := by
  induction ks generalizing m with
  | nil => simp
  | cons a ks ih =>
    rw [eraseAll_cons, ih]
    by_cases h : k = a
    · subst h; simp
    · simp [h, AList.lookup_erase_ne h]

@[simp] theorem keySet_eraseAll (m : KeyedMap κ ν) (ks : List κ) :
    keySet (eraseAll m ks) = keySet m \ ks.toFinset := by
  ext a
  rw [mem_keySet, ← AList.lookup_isSome, lookup_eraseAll]
  by_cases h : a ∈ ks <;> simp [h, AList.lookup_isSome]

theorem lookup_insert_eq (m : KeyedMap κ ν) (a k : κ) (v : ν) :
    AList.lookup k (m.insert a v) = if k = a then some v else AList.lookup k m := by
  by_cases h : k = a
  · subst h; simp
  · simp [h, AList.lookup_insert_ne h]

theorem mem_iff_lookup {m : KeyedMap κ ν} {k : κ} : k ∈ m ↔ ∃ v, AList.lookup k m = some v := by
  rw [← AList.lookup_isSome, Option.isSome_iff_exists]

/-- A sum over the entries that counts only one key is that key's share. -/
theorem sum_entries_of_key {α : Type*} [AddCommMonoid α] (m : KeyedMap κ ν) (k : κ) (g : κ → ν → α)
    (hg : ∀ a v, a ≠ k → g a v = 0) :
    (m.entries.map fun e => g e.1 e.2).sum = (AList.lookup k m).elim 0 (g k) := by
  obtain ⟨es, hes⟩ := m
  simp only [AList.lookup]
  induction es with
  | nil => rfl
  | cons e es ih =>
    obtain ⟨a, v⟩ := e
    have hes' := List.nodupKeys_cons.mp hes
    rw [List.map_cons, List.sum_cons, ih hes'.2]
    by_cases h : k = a
    · subst h
      rw [List.dlookup_eq_none.mpr hes'.1]
      simp
    · rw [hg a v (Ne.symm h), List.dlookup_cons_ne _ _ h]
      simp

end KeyedMap
