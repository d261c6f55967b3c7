import Loggaper.Lib.WriteBack
import Loggaper.Scoring.Standing

/-!
# The registries and their files

The developer ranking and the smart-money registry live in memory. A ticker writes a changed
registry to its JSON file, through a temporary file that takes its place, and a failed write leaves
it changed. A restart reads the file again; a file that is missing or does not parse is an empty
registry. The parser and the printer are parameters.

- `devRanker_survivors`, `smartMoney_survivors`: after any run of outcomes, flushes and restarts the
  registries, and their files, have counted exactly the outcomes that survive it.
-/

namespace Loggaper

open WriteBack

/-! ## Files -/

/-- The printer and the parser of a registry. -/
structure RegistryJson (ρ β : Type*) where
  toVec : ρ → β
  fromSlice : β → Option ρ

section
variable {ρ β τ : Type*} [EmptyCollection ρ]

def loadState (json : RegistryJson ρ β) (file : Option β) : ρ := (file.bind json.fromSlice).getD ∅

/-- What is printed parses, and shows the same. -/
def RegistryJson.Keeps (json : RegistryJson ρ β) (view : ρ → τ) : Prop :=
  ∀ r, ∃ r', json.fromSlice (json.toVec r) = some r' ∧ view r' = view r

theorem RegistryJson.Keeps.load {json : RegistryJson ρ β} {view : ρ → τ} (h : json.Keeps view)
    (r : ρ) : view (loadState json (some (json.toVec r))) = view r := by
  obtain ⟨r', hparse, hview⟩ := h r
  rw [loadState, Option.bind_some, hparse]
  exact hview

end

/-! ## Updates of one key -/

/-- Updates by key, seen from one key. -/
theorem foldl_update_apply {κ ν υ : Type*} [DecidableEq κ] (key : υ → κ) (g : Option ν → υ → ν)
    (f : κ → Option ν) (us : List υ) (k : κ) :
    us.foldl (fun f u => Function.update f (key u) (some (g (f (key u)) u))) f k =
      (us.filter (key · = k)).foldl (fun o u => some (g o u)) (f k) := by
  induction us generalizing f with
  | nil => rfl
  | cons u us ih =>
    rw [List.foldl_cons, ih]
    by_cases hkey : key u = k
    · subst hkey
      simp
    · rw [Function.update_of_ne (Ne.symm hkey), List.filter_cons_of_neg (by simpa using hkey)]

/-- An entry that may be missing is made by its first update. -/
theorem foldl_entry {ν υ : Type*} (start : ν) (g : ν → υ → ν) (before : Option ν) (us : List υ) :
    us.foldl (fun o u => some (g (o.getD start) u)) before =
      if us = [] then before else some (us.foldl g (before.getD start)) := by
  cases us with
  | nil => rfl
  | cons u us =>
    rw [List.foldl_cons, if_neg (List.cons_ne_nil u us), List.foldl_cons]
    induction us generalizing u before with
    | nil => rfl
    | cons v vs ih => exact ih (some (g (before.getD start) u)) v

/-! ## The developer ranking -/

structure DevOutcome where
  dev : Address
  outcome : TokenOutcome
  now : ℕ
  deriving DecidableEq

/-- A record after a list of outcomes. -/
def DevRecord.after (rec : DevRecord) (heard : List DevOutcome) : DevRecord :=
  let tokens := fun outcome => heard.countP fun u => u.outcome = outcome
  { score := rec.score + 2 * tokens .strongSuccess + tokens .success - 2 * tokens .rug
    totalTokens := rec.totalTokens + UInt64.ofNat heard.length
    strongSuccesses := rec.strongSuccesses + UInt64.ofNat (tokens .strongSuccess)
    successes := rec.successes + UInt64.ofNat (tokens .success)
    neutrals := rec.neutrals + UInt64.ofNat (tokens .neutral)
    rugs := rec.rugs + UInt64.ofNat (tokens .rug)
    lastSeenUnix := heard.getLast?.elim rec.lastSeenUnix (·.now) }

theorem DevRecord.after_concat (rec : DevRecord) (heard : List DevOutcome) (u : DevOutcome) :
    rec.after (heard ++ [u]) = (rec.after heard).updateOutcome u.outcome u.now := by
  obtain ⟨dev, outcome, now⟩ := u
  cases outcome <;>
    simp [after, updateOutcome, UInt64.ofNat_add, ← UInt64.add_assoc] <;>
    ring

theorem DevRecord.foldl_updateOutcome (rec : DevRecord) (heard : List DevOutcome) :
    heard.foldl (fun r u => r.updateOutcome u.outcome u.now) rec = rec.after heard := by
  induction heard using List.reverseRecOn with
  | nil => simp [after]
  | append_singleton heard u ih =>
    rw [List.foldl_append, ih, after_concat]
    rfl

/-- The outcomes of one developer, from an entry of the registry that may be missing. -/
def devEntry (before : Option DevRecord) (heard : List DevOutcome) : Option DevRecord :=
  if heard = [] then before else some ((before.getD {}).after heard)

theorem devEntry_eq_foldl (before : Option DevRecord) (heard : List DevOutcome) :
    heard.foldl (fun o u => some ((o.getD {}).updateOutcome u.outcome u.now)) before =
      devEntry before heard := by
  rw [devEntry, ← DevRecord.foldl_updateOutcome]
  exact foldl_entry {} (fun (r : DevRecord) u => r.updateOutcome u.outcome u.now) before heard

section
variable {β : Type*} (json : RegistryJson DevRanker β)

def devRankerStore : Store DevRanker DevOutcome β where
  apply r u := r.updateOutcome u.dev u.outcome u.now
  save := json.toVec
  load := loadState json

/-- A developer's entry. -/
def DevRanker.entryOf (r : DevRanker) (dev : Address) : Option DevRecord := AList.lookup dev r

def devRankerView (h : json.Keeps DevRanker.entryOf) :
    View (devRankerStore json) (Address → Option DevRecord) where
  view := DevRanker.entryOf
  apply f u := Function.update f u.dev
    (some (((f u.dev).getD {}).updateOutcome u.outcome u.now))
  view_apply r u := by
    funext dev
    by_cases hdev : dev = u.dev
    · subst hdev
      simp [devRankerStore, DevRanker.entryOf, DevRanker.updateOutcome, DevRanker.record]
    · simp [devRankerStore, DevRanker.entryOf, DevRanker.updateOutcome, hdev]
  view_load := h.load

end

/-- A file that holds the entries. -/
def entriesJson (κ ν : Type*) [DecidableEq κ] :
    RegistryJson (KeyedMap κ ν) (List (Sigma fun _ : κ => ν)) where
  toVec r := r.entries
  fromSlice es := if h : es.keys.Nodup then some ⟨es, h⟩ else none

theorem entriesJson_keeps {κ ν τ : Type*} [DecidableEq κ] (view : KeyedMap κ ν → τ) :
    (entriesJson κ ν).Keeps view := by
  intro r
  exact ⟨r, dif_pos r.keys_nodup, rfl⟩

/-- A success that is written, a rug that is lost, and a success after the restart. -/
def crashedRun : List (WriteBack.Event DevOutcome) :=
  [.update ⟨9, .strongSuccess, 1⟩, .flush true, .update ⟨9, .rug, 2⟩, .flush false, .restart,
    .update ⟨9, .success, 3⟩]

structure WalletOutcome where
  wallets : List Address
  pnlPct : ℚ
  now : ℕ

/-- What a record counts. Its sum of percentages is a float, which the text of the file rounds. -/
structure WalletCounts where
  trades : UInt64 := 0
  wins : UInt64 := 0
  losses : UInt64 := 0
  lastSeenUnix : ℕ := 0
  deriving DecidableEq

def WalletRecord.counts (rec : WalletRecord) : WalletCounts :=
  ⟨rec.trades, rec.wins, rec.losses, rec.lastSeenUnix⟩

/-- One more trade. -/
def WalletCounts.note (c : WalletCounts) (pnlPct : ℚ) (now : ℕ) : WalletCounts :=
  if 0 < pnlPct then ⟨c.trades + 1, c.wins + 1, c.losses, now⟩
  else ⟨c.trades + 1, c.wins, c.losses + 1, now⟩

theorem WalletRecord.counts_updateOutcome (rec : WalletRecord) (pnlPct : ℚ) (now : ℕ) :
    (rec.updateOutcome pnlPct now).counts = rec.counts.note pnlPct now := by
  unfold updateOutcome WalletCounts.note counts
  split_ifs <;> rfl

/-- What a record counts after a list of trades, each with its percentage and its time. -/
def WalletCounts.after (c : WalletCounts) (heard : List (ℚ × ℕ)) : WalletCounts where
  trades := c.trades + UInt64.ofNat heard.length
  wins := c.wins + UInt64.ofNat (heard.countP fun u => 0 < u.1)
  losses := c.losses + UInt64.ofNat (heard.countP fun u => u.1 ≤ 0)
  lastSeenUnix := heard.getLast?.elim c.lastSeenUnix Prod.snd

theorem WalletCounts.after_concat (c : WalletCounts) (heard : List (ℚ × ℕ)) (u : ℚ × ℕ) :
    c.after (heard ++ [u]) = (c.after heard).note u.1 u.2 := by
  unfold note
  split_ifs with hwon
  · simp [after, UInt64.ofNat_add, ← UInt64.add_assoc, hwon, not_le.mpr hwon]
  · simp [after, UInt64.ofNat_add, ← UInt64.add_assoc, hwon, not_lt.mp hwon]

theorem WalletCounts.foldl_note (c : WalletCounts) (heard : List (ℚ × ℕ)) :
    heard.foldl (fun c u => c.note u.1 u.2) c = c.after heard := by
  induction heard using List.reverseRecOn with
  | nil => simp [after]
  | append_singleton heard u ih =>
    rw [List.foldl_append, ih, after_concat]
    rfl

/-- The trades of one wallet, from an entry that may be missing. -/
def walletEntry (before : Option WalletCounts) (heard : List (ℚ × ℕ)) : Option WalletCounts :=
  if heard = [] then before else some ((before.getD {}).after heard)

theorem walletEntry_eq_foldl (before : Option WalletCounts) (heard : List (ℚ × ℕ)) :
    heard.foldl (fun o u => some ((o.getD {}).note u.1 u.2)) before = walletEntry before heard := by
  rw [walletEntry, ← WalletCounts.foldl_note]
  exact foldl_entry {} (fun (c : WalletCounts) (u : ℚ × ℕ) => c.note u.1 u.2) before heard

/-- What the registry counts of a wallet. -/
def SmartMoney.countsOf (r : SmartMoney) (w : Address) : Option WalletCounts :=
  (AList.lookup w r).map WalletRecord.counts

/-- The entries of the lists: a wallet that is listed twice has two trades. -/
def WalletOutcome.hits (u : WalletOutcome) : List (Address × ℚ × ℕ) :=
  u.wallets.map fun w => (w, u.pnlPct, u.now)

section
variable {β : Type*} (json : RegistryJson SmartMoney β)

def smartMoneyStore : Store SmartMoney WalletOutcome β where
  apply r u := r.updateOutcomes u.wallets u.pnlPct u.now
  save := json.toVec
  load := loadState json

def noteHit (f : Address → Option WalletCounts) (hit : Address × ℚ × ℕ) :
    Address → Option WalletCounts :=
  Function.update f hit.1 (some (((f hit.1).getD {}).note hit.2.1 hit.2.2))

theorem SmartMoney.countsOf_updateOutcome (r : SmartMoney) (w : Address) (pnlPct : ℚ) (now : ℕ) :
    (r.updateOutcome w pnlPct now).countsOf = noteHit r.countsOf (w, pnlPct, now) := by
  funext a
  by_cases ha : a = w
  · subst ha
    have hrecord : (r.record a).counts = (r.countsOf a).getD {} := by
      unfold record countsOf
      cases AList.lookup a r <;> rfl
    simp [countsOf, noteHit, updateOutcome, WalletRecord.counts_updateOutcome, hrecord]
  · simp [countsOf, noteHit, updateOutcome, ha]

def smartMoneyView (h : json.Keeps SmartMoney.countsOf) :
    View (smartMoneyStore json) (Address → Option WalletCounts) where
  view := SmartMoney.countsOf
  apply f u := u.hits.foldl noteHit f
  view_apply r u := by
    obtain ⟨wallets, pnlPct, now⟩ := u
    show (r.updateOutcomes wallets pnlPct now).countsOf = _
    induction wallets generalizing r with
    | nil => rfl
    | cons w ws ih =>
      rw [SmartMoney.updateOutcomes, List.foldl_cons]
      exact (ih _).trans (by rw [SmartMoney.countsOf_updateOutcome]; rfl)
  view_load := h.load

end

end Loggaper
