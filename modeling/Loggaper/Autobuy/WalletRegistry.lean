import Mathlib.Data.List.Nodup
import Mathlib.Data.Rat.Defs

/-!
# Wallets

The registry of trading wallets. Building it rejects a repeated wallet id, so a registry carries
the proof that its ids are distinct. Balances are left out: nothing that the manager decides
reads them.
-/

namespace Loggaper

/-- Tier of a scored signal. -/
inductive Tier
  | aPlus | a | b | skip
  deriving DecidableEq, Repr

/-- Buy sizes of one wallet by tier. -/
structure WalletTierSize where
  aSol : ℚ
  aPlusSol : ℚ
  bSol : ℚ := 1 / 5
  deriving DecidableEq, Repr

structure WalletEntryConfig where
  id : String
  label : String := ""
  enabled : Bool := true
  /-- Name of the environment variable that holds the key. -/
  privateKeyEnv : String
  /-- Buy size for every tier; `none` takes the signal's. -/
  sizeSol : Option ℚ := none
  /-- Per-tier sizes, which win over `sizeSol`. -/
  tierSize : Option WalletTierSize := none
  /-- Starting balance in demo mode; `none` takes the global one. -/
  demoBalanceSol : Option ℚ := none
  /-- Name of the environment variable of a node of its own. -/
  rpcUrlEnv : Option String := none
  deriving DecidableEq, Repr

def WalletEntryConfig.effectiveLabel (e : WalletEntryConfig) : String :=
  if e.label = "" then e.id else e.label

structure WalletHandle where
  id : String
  label : String
  enabled : Bool
  sizeSol : Option ℚ
  tierSize : Option WalletTierSize
  privateKeyEnv : String
  deriving DecidableEq, Repr

/-- The handle that a configured wallet starts with. -/
def WalletEntryConfig.handle (e : WalletEntryConfig) : WalletHandle where
  id := e.id
  label := e.effectiveLabel
  enabled := e.enabled
  sizeSol := e.sizeSol
  tierSize := e.tierSize
  privateKeyEnv := e.privateKeyEnv

/-- Buy size of this wallet: the tier's, the flat one, or the signal's. -/
def WalletHandle.amountForSignal (w : WalletHandle) (signalSol : ℚ) (buyTier : Tier) : ℚ :=
  match w.tierSize with
  | some ts =>
    match buyTier with
    | .aPlus => ts.aPlusSol
    | .a => ts.aSol
    | .b => ts.bSol
    | .skip => signalSol
  | none => w.sizeSol.getD signalSol

structure WalletRegistry where
  ordered : List WalletHandle
  ids_nodup : (ordered.map (·.id)).Nodup

namespace WalletRegistry

def get (r : WalletRegistry) (id : String) : Option WalletHandle := r.ordered.find? (·.id == id)

def enabledWallets (r : WalletRegistry) : List WalletHandle := r.ordered.filter (·.enabled)

/-- Overwrite the settings of a wallet with those of the entry that names it. -/
def patchHandle (w : WalletHandle) (e : WalletEntryConfig) : WalletHandle :=
  if w.id = e.id then
    { w with enabled := e.enabled, sizeSol := e.sizeSol, tierSize := e.tierSize }
  else w

@[simp] theorem patchHandle_id (w : WalletHandle) (e : WalletEntryConfig) :
    (patchHandle w e).id = w.id := by
  unfold patchHandle
  split_ifs <;> rfl

@[simp] theorem foldl_patchHandle_id (w : WalletHandle) (es : List WalletEntryConfig) :
    (es.foldl patchHandle w).id = w.id := by
  induction es generalizing w with
  | nil => rfl
  | cons e es ih => simp [ih]

def applyConfigPatch (r : WalletRegistry) (entries : List WalletEntryConfig) : WalletRegistry where
  ordered := r.ordered.map fun w => entries.foldl patchHandle w
  ids_nodup := by simpa [Function.comp_def] using r.ids_nodup

theorem enabledWallets_nodup (r : WalletRegistry) : (r.enabledWallets.map (·.id)).Nodup :=
  r.ids_nodup.sublist (List.filter_sublist.map _)

end WalletRegistry

/-! ## Building the registry -/

/-- When the configuration names no wallet: one wallet from `PRIVATE_KEY`. -/
def defaultWalletEntries : List WalletEntryConfig :=
  [{ id := "wallet_1", label := "Main", privateKeyEnv := "PRIVATE_KEY" }]

/-- Add one configured wallet. A repeated id is an error, and so is an enabled wallet without its
key; a disabled one without its key is skipped. -/
def WalletRegistry.add (hasKey : String → Bool) (r : WalletRegistry) (e : WalletEntryConfig) :
    Option WalletRegistry :=
  if h : e.id ∈ r.ordered.map (·.id) then
    none
  else if hasKey e.privateKeyEnv then
    some {
      ordered := r.ordered ++ [e.handle]
      ids_nodup := by
        rw [List.map_append, List.nodup_append]
        refine ⟨r.ids_nodup, List.nodup_singleton _, ?_⟩
        rintro a ha b hb rfl
        rw [List.map_singleton, List.mem_singleton] at hb
        subst hb
        exact h ha }
  else if e.enabled then
    none
  else
    some r

/-- Demo mode needs no keys: there `hasKey` is always true. -/
def buildWalletRegistry (hasKey : String → Bool) (entries : List WalletEntryConfig) :
    Option WalletRegistry :=
  let effective := if entries.isEmpty then defaultWalletEntries else entries
  effective.foldlM (WalletRegistry.add hasKey) ⟨[], List.nodup_nil⟩

end Loggaper
