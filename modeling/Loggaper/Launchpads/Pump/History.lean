import Loggaper.Launchpads.Pump.Launchpad
import Loggaper.Lib.Transition

/-!
# The storage as a function of the events

A bucket depends only on the latest launch at its address and on the trades since. `TokenHistory`
reads these off the event stream.

- `lookup_afterEvents`: the storage after any events holds, at each address, the bucket of its
  history.
- `TokenHistory.bucket_spec`: the swarm of a history never stops, and it is a fold of the trades
  in which each one changes the account of its user.
-/

namespace Loggaper

/-- The storage after a stream of events. -/
def PumpLaunchpadStorage.afterEvents (poolPda : Address → Address) (sniperThreshold : UInt64)
    (es : List (Slot × PumpEvent)) : PumpLaunchpadStorage :=
  es.foldl (fun s e => (s.react poolPda e.1 e.2).1) (.new sniperThreshold)

/-- What the events say about one address: its latest launch and the trades since. -/
structure TokenHistory where
  createdAt : Slot
  mint : Address
  creator : Address
  trades : List (Slot × TradeEvent)

namespace TokenHistory

section
variable (poolPda : Address → Address) (key : Address)

def step (h : Option TokenHistory) : Slot × PumpEvent → Option TokenHistory
  | (slot, .create e) =>
    if poolPda e.mint = key then some ⟨slot, e.mint, e.creator, []⟩ else h
  | (slot, .trade e) =>
    if poolPda e.mint = key then h.map fun h => { h with trades := h.trades ++ [(slot, e)] } else h

/-- The history of an address after a stream of events. -/
def of (es : List (Slot × PumpEvent)) : Option TokenHistory := es.foldl (step poolPda key) none

@[simp] theorem of_nil : of poolPda key [] = none := rfl

theorem of_concat (es : List (Slot × PumpEvent)) (e : Slot × PumpEvent) :
    of poolPda key (es ++ [e]) = step poolPda key (of poolPda key es) e := by
  rw [of, List.foldl_append]
  rfl

end

variable (sniperThreshold : UInt64) (h : TokenHistory)

/-- The bucket that a history comes to. -/
def bucket : TokenBucket :=
  h.trades.foldl (fun b t => b.trade sniperThreshold t.1 t.2)
    (.new (.new h.mint h.creator) h.createdAt)

theorem bucket_concat (t : Slot × TradeEvent) :
    bucket sniperThreshold { h with trades := h.trades ++ [t] } =
      (h.bucket sniperThreshold).trade sniperThreshold t.1 t.2 := by
  rw [bucket, List.foldl_append]
  rfl

end TokenHistory

namespace PumpLaunchpadStorage

variable (poolPda : Address → Address) (sniperThreshold : UInt64)

theorem afterEvents_concat (es : List (Slot × PumpEvent)) (e : Slot × PumpEvent) :
    afterEvents poolPda sniperThreshold (es ++ [e]) =
      ((afterEvents poolPda sniperThreshold es).react poolPda e.1 e.2).1 := by
  rw [afterEvents, List.foldl_append]
  rfl

theorem sniperThreshold_react (s : PumpLaunchpadStorage) (slot : Slot) (e : PumpEvent) :
    (s.react poolPda slot e).1.sniperThreshold = s.sniperThreshold := by
  cases e with
  | create e => rfl
  | trade e =>
    simp only [react]
    split <;> rfl

theorem sniperThreshold_afterEvents (es : List (Slot × PumpEvent)) :
    (afterEvents poolPda sniperThreshold es).sniperThreshold = sniperThreshold := by
  induction es using List.reverseRecOn with
  | nil => rfl
  | append_singleton es e ih => rw [afterEvents_concat, sniperThreshold_react, ih]

/-- **The storage is its history.** -/
theorem lookup_afterEvents (es : List (Slot × PumpEvent)) (key : Address) :
    AList.lookup key (afterEvents poolPda sniperThreshold es).tokens =
      (TokenHistory.of poolPda key es).map (TokenHistory.bucket sniperThreshold) := by
  induction es using List.reverseRecOn with
  | nil => rfl
  | append_singleton es e ih =>
    obtain ⟨slot, e⟩ := e
    have hthreshold := sniperThreshold_afterEvents poolPda sniperThreshold es
    rw [afterEvents_concat, TokenHistory.of_concat]
    cases e with
    | create e =>
      simp only [react, TokenHistory.step, KeyedMap.lookup_insert_eq]
      by_cases hkey : poolPda e.mint = key
      · rw [if_pos hkey.symm, if_pos hkey]
        rfl
      · rw [if_neg (Ne.symm hkey), if_neg hkey, ih]
    | trade e =>
      by_cases hkey : poolPda e.mint = key
      · subst hkey
        cases hof : TokenHistory.of poolPda (poolPda e.mint) es with
        | none =>
          rw [hof] at ih
          have hbucket : bucket poolPda (afterEvents poolPda sniperThreshold es) e.mint = none := ih
          simp only [react, hbucket, TokenHistory.step, if_true]
          exact ih
        | some h =>
          rw [hof] at ih
          have hbucket : bucket poolPda (afterEvents poolPda sniperThreshold es) e.mint =
              some (h.bucket sniperThreshold) := ih
          simp only [react, hbucket, TokenHistory.step, if_true, KeyedMap.lookup_insert_eq,
            hthreshold, Option.map_some]
          exact congrArg some (TokenHistory.bucket_concat sniperThreshold h (slot, e)).symm
      · simp only [react, TokenHistory.step, if_neg hkey]
        split
        · exact ih
        · rw [KeyedMap.lookup_insert_eq, if_neg (Ne.symm hkey), ih]

/-- The bucket of a mint is the one of its address's history. -/
theorem bucket_afterEvents (es : List (Slot × PumpEvent)) (mint : Address) :
    (afterEvents poolPda sniperThreshold es).bucket poolPda mint =
      (TokenHistory.of poolPda (poolPda mint) es).map (TokenHistory.bucket sniperThreshold) :=
  lookup_afterEvents poolPda sniperThreshold es (poolPda mint)

end PumpLaunchpadStorage

/-! ## The swarm of a history -/

namespace TokenHistory

variable (sniperThreshold : UInt64) (h : TokenHistory)

/-- The role of a trader who first trades at a slot. -/
def role (slot : Slot) (user : Address) : TraderType :=
  if user = h.creator then .creator
  else if slot - h.createdAt < sniperThreshold then .sniper
  else .regular

theorem role_eq_creator_iff {slot : Slot} {user : Address} :
    h.role sniperThreshold slot user = .creator ↔ user = h.creator := by
  unfold role
  split_ifs with hcreator <;> simp [hcreator]

theorem role_eq_sniper_iff {slot : Slot} {user : Address} (hne : user ≠ h.creator) :
    h.role sniperThreshold slot user = .sniper ↔ slot - h.createdAt < sniperThreshold := by
  rw [role, if_neg hne]
  split_ifs with hslot <;> simp [hslot]

/-- The swarm that the trades lead to. -/
def swarm : Swarm :=
  h.trades.foldl (fun s t => s.after t.2 (h.role sniperThreshold t.1 t.2.user)) (.new precision 9)

theorem swarm_concat (t : Slot × TradeEvent) :
    swarm sniperThreshold { h with trades := h.trades ++ [t] } =
      (h.swarm sniperThreshold).after t.2 (h.role sniperThreshold t.1 t.2.user) := by
  rw [swarm, List.foldl_append]
  rfl

/-- A property of histories that starts with the launch and that every trade keeps. -/
theorem trades_induction {P : TokenHistory → Prop}
    (launch : ∀ createdAt mint creator, P ⟨createdAt, mint, creator, []⟩)
    (trade : ∀ (h : TokenHistory) t, P h → P { h with trades := h.trades ++ [t] }) : P h := by
  obtain ⟨createdAt, mint, creator, trades⟩ := h
  induction trades using List.reverseRecOn with
  | nil => exact launch createdAt mint creator
  | append_singleton ts t ih => exact trade _ t ih

/-- **The bucket of a history.** Launch slot and pool identity stay, and the swarm never stops. -/
theorem bucket_spec :
    (h.bucket sniperThreshold).createdAt = h.createdAt ∧
      (h.bucket sniperThreshold).pool.mint = h.mint ∧
      (h.bucket sniperThreshold).pool.creators = [h.creator] ∧
      (h.bucket sniperThreshold).swarm = some (h.swarm sniperThreshold) ∧
      (h.swarm sniperThreshold).Tidy := by
  induction h using trades_induction with
  | launch createdAt mint creator => exact ⟨rfl, rfl, rfl, rfl, Swarm.new_tidy⟩
  | trade h t ih =>
    obtain ⟨hcreated, hmint, hcreators, hswarm, htidy⟩ := ih
    have hrole : (h.bucket sniperThreshold).role sniperThreshold t.1 t.2.user =
        h.role sniperThreshold t.1 t.2.user := by
      simp only [TokenBucket.role, role, hcreators, hcreated, List.mem_singleton]
    obtain ⟨hupdate, htidy'⟩ := htidy.update t.2 (h.role sniperThreshold t.1 t.2.user)
    rw [bucket_concat, swarm_concat]
    refine ⟨hcreated, ?_, ?_, ?_, htidy'⟩
    · simp [TokenBucket.trade, hmint]
    · simp [TokenBucket.trade, hcreators]
    · simp only [TokenBucket.trade, hswarm, hrole, Option.bind_some, hupdate]

end TokenHistory

end Loggaper
