import Mathlib.Data.List.Induction
import Mathlib.Logic.Function.Basic
import Loggaper.Helper

/-!
# Waiting for a token to be stored

`DatabaseCreateWaiter` answers those who wait until a token is in the database. Per address it
knows nothing, a list of waiters, or that the token has been created. `WaiterHandle` sends it
notifications and waits; a wait makes its own `oneshot` channel.

- `state_after`: what the actor knows of an address after any messages.
- `answers_exactly_once`: which waits are answered, and when.
-/

namespace Loggaper

/-- The sending half of a `oneshot` channel. -/
abbrev ReplyTx := ℕ

inductive WaiterMessage
  | notifyCreated (address : Address)
  | waitUntilCreated (address : Address) (replyTx : ReplyTx)
  deriving DecidableEq

inductive TokenState
  | created
  | waiting (waiters : List ReplyTx)
  deriving DecidableEq

structure DatabaseCreateWaiter where
  state : Address → Option TokenState

namespace DatabaseCreateWaiter

def new : DatabaseCreateWaiter := ⟨fun _ => none⟩

/-- One message: the actor after it, and the channels that it answers. -/
def handle (actor : DatabaseCreateWaiter) :
    WaiterMessage → DatabaseCreateWaiter × List ReplyTx
  | .notifyCreated address =>
    let waiters := match actor.state address with
      | some (.waiting waiters) => waiters
      | _ => []
    (⟨Function.update actor.state address (some .created)⟩, waiters)
  | .waitUntilCreated address replyTx =>
    match actor.state address with
    | some .created => (actor, [replyTx])
    | some (.waiting waiters) =>
      (⟨Function.update actor.state address (some (.waiting (waiters ++ [replyTx])))⟩, [])
    | none => (⟨Function.update actor.state address (some (.waiting [replyTx]))⟩, [])

/-- `run` over the messages received so far: the actor and all that it has answered, in order. -/
def run (msgs : List WaiterMessage) : DatabaseCreateWaiter × List ReplyTx :=
  msgs.foldl (fun s msg => ((s.1.handle msg).1, s.2 ++ (s.1.handle msg).2)) (new, [])

end DatabaseCreateWaiter

/-- What is asked of a `WaiterHandle`. -/
inductive WaiterRequest
  | notifyCreated (address : Address)
  | waitFor (address : Address)
  deriving DecidableEq

/-- The message of a request; a wait opens the channel with its own number. -/
def WaiterRequest.message (number : ℕ) : WaiterRequest → WaiterMessage
  | .notifyCreated address => .notifyCreated address
  | .waitFor address => .waitUntilCreated address number

/-- The messages of requests that reach the actor in this order. -/
def messagesOf (requests : List WaiterRequest) : List WaiterMessage :=
  requests.mapIdx WaiterRequest.message

namespace DatabaseCreateWaiter

/-- What has been answered after these requests. -/
def answers (requests : List WaiterRequest) : List ReplyTx := (run (messagesOf requests)).2

theorem run_append (msgs : List WaiterMessage) (msg : WaiterMessage) :
    run (msgs ++ [msg]) =
      (((run msgs).1.handle msg).1, (run msgs).2 ++ ((run msgs).1.handle msg).2) := by
  simp [run]

/-! ## What the actor knows -/

/-- The channels of the waits for an address. -/
def waitsFor (address : Address) (msgs : List WaiterMessage) : List ReplyTx :=
  msgs.filterMap fun
    | .waitUntilCreated a replyTx => if a = address then some replyTx else none
    | .notifyCreated _ => none

variable {address : Address} {msgs : List WaiterMessage}

@[simp] theorem waitsFor_notify (a : Address) :
    waitsFor address (msgs ++ [.notifyCreated a]) = waitsFor address msgs := by
  simp [waitsFor]

@[simp] theorem waitsFor_wait (a : Address) (replyTx : ReplyTx) :
    waitsFor address (msgs ++ [.waitUntilCreated a replyTx]) =
      waitsFor address msgs ++ if a = address then [replyTx] else [] := by
  by_cases h : a = address <;> simp [waitsFor, h]

/-- A message leaves other addresses alone. -/
theorem handle_other {a : Address} (h : a ≠ address) (actor : DatabaseCreateWaiter)
    (replyTx : ReplyTx) :
    (actor.handle (.notifyCreated a)).1.state address = actor.state address ∧
      (actor.handle (.waitUntilCreated a replyTx)).1.state address = actor.state address := by
  refine ⟨Function.update_of_ne h.symm _ _, ?_⟩
  simp only [handle]
  cases actor.state a with
  | none => exact Function.update_of_ne h.symm _ _
  | some known =>
    cases known with
    | created => rfl
    | waiting waiters => exact Function.update_of_ne h.symm _ _

/-- **What the actor knows** of an address: it has been created, or who waits for it. -/
theorem state_after (msgs : List WaiterMessage) (address : Address) :
    (run msgs).1.state address =
      if .notifyCreated address ∈ msgs then some .created
      else if waitsFor address msgs = [] then none
      else some (.waiting (waitsFor address msgs)) := by
  induction msgs using List.reverseRecOn with
  | nil => rfl
  | append_singleton msgs msg ih =>
    rw [run_append]
    cases msg with
    | notifyCreated a =>
      by_cases ha : a = address
      · subst ha
        simp [handle]
      · have hne : address ≠ a := fun h => ha h.symm
        rw [(handle_other ha _ 0).1, ih]
        simp [hne]
    | waitUntilCreated a replyTx =>
      by_cases ha : a = address
      · subst ha
        by_cases hcreated : .notifyCreated a ∈ msgs
        · rw [if_pos hcreated] at ih
          simp [handle, ih, hcreated]
        · rw [if_neg hcreated] at ih
          by_cases hnone : waitsFor a msgs = []
          · rw [if_pos hnone] at ih
            simp [handle, ih, hcreated, hnone]
          · rw [if_neg hnone] at ih
            simp [handle, ih, hcreated]
      · rw [(handle_other ha _ replyTx).2, ih]
        simp [ha]

/-! ## What has been answered -/

/-- A channel is used for waits on this address only. -/
def OnlyFor (address : Address) (replyTx : ReplyTx) (msgs : List WaiterMessage) : Prop :=
  ∀ a, .waitUntilCreated a replyTx ∈ msgs → a = address

theorem mem_waitsFor {replyTx : ReplyTx} :
    replyTx ∈ waitsFor address msgs ↔ .waitUntilCreated address replyTx ∈ msgs := by
  unfold waitsFor
  rw [List.mem_filterMap]
  constructor
  · intro ⟨msg, hmsg, h⟩
    cases msg with
    | notifyCreated a => cases h
    | waitUntilCreated a r =>
      dsimp only at h
      split_ifs at h with ha
      cases h
      exact ha ▸ hmsg
  · intro h
    exact ⟨_, h, if_pos rfl⟩

/-- Nothing of another address's waiters is answered on this channel. -/
theorem count_waitsFor_other {a : Address} {replyTx : ReplyTx} (h : OnlyFor address replyTx msgs)
    (ha : a ≠ address) : (waitsFor a msgs).count replyTx = 0 := by
  rw [List.count_eq_zero]
  intro hmem
  exact ha (h a (mem_waitsFor.mp hmem))

/-- The channels answered by a notification are the waiters so far, unless it is a repeated one. -/
theorem answers_notify (msgs : List WaiterMessage) (a : Address) :
    ((run msgs).1.handle (.notifyCreated a)).2 =
      if .notifyCreated a ∈ msgs then [] else waitsFor a msgs := by
  simp only [handle, state_after]
  split_ifs with hcreated hnone
  · rfl
  · exact hnone.symm
  · rfl

/-- A wait is answered at once when the address has been created. -/
theorem answers_wait (msgs : List WaiterMessage) (a : Address) (replyTx : ReplyTx) :
    ((run msgs).1.handle (.waitUntilCreated a replyTx)).2 =
      if .notifyCreated a ∈ msgs then [replyTx] else [] := by
  simp only [handle, state_after]
  split_ifs with hcreated hnone <;> rfl

/-- **What a channel is sent**: its waits, once the address has been created. -/
theorem count_answers {replyTx : ReplyTx} (h : OnlyFor address replyTx msgs) :
    (run msgs).2.count replyTx =
      if .notifyCreated address ∈ msgs then (waitsFor address msgs).count replyTx else 0 := by
  induction msgs using List.reverseRecOn with
  | nil => rfl
  | append_singleton msgs msg ih =>
    have hmsgs : OnlyFor address replyTx msgs := fun a ha => h a (List.mem_append_left _ ha)
    rw [run_append, List.count_append, ih hmsgs]
    cases msg with
    | notifyCreated a =>
      rw [answers_notify]
      by_cases ha : a = address
      · subst ha
        by_cases hcreated : .notifyCreated a ∈ msgs <;> simp [hcreated]
      · have hne : address ≠ a := fun h => ha h.symm
        have hother := count_waitsFor_other hmsgs ha
        by_cases hcreated : .notifyCreated a ∈ msgs <;> simp [hcreated, hne, hother]
    | waitUntilCreated a r =>
      rw [answers_wait]
      by_cases ha : a = address
      · subst ha
        by_cases hcreated : .notifyCreated a ∈ msgs <;> simp [hcreated]
      · have hr : r ≠ replyTx := by
          rintro rfl
          exact ha (h a (by simp))
        by_cases hcreated : .notifyCreated a ∈ msgs <;> simp [hcreated, ha, hr]

/-! ## Requests -/

theorem messagesOf_append (requests : List WaiterRequest) (request : WaiterRequest) :
    messagesOf (requests ++ [request]) =
      messagesOf requests ++ [request.message requests.length] := by
  rw [messagesOf, List.mapIdx_concat]
  rfl

theorem mem_messagesOf_notify {requests : List WaiterRequest} :
    .notifyCreated address ∈ messagesOf requests ↔ .notifyCreated address ∈ requests := by
  induction requests using List.reverseRecOn with
  | nil => simp [messagesOf]
  | append_singleton requests request ih =>
    cases request <;> simp [messagesOf_append, WaiterRequest.message, ih]

/-- A channel carries the number of its wait. -/
theorem mem_messagesOf_wait {requests : List WaiterRequest} {i : ReplyTx} :
    .waitUntilCreated address i ∈ messagesOf requests ↔
      requests[i]? = some (.waitFor address) := by
  rw [messagesOf, List.mem_mapIdx, List.getElem?_eq_some_iff]
  constructor
  · intro ⟨j, hj, h⟩
    cases hrequest : requests[j] with
    | notifyCreated a =>
      rw [hrequest] at h
      cases h
    | waitFor a =>
      rw [hrequest] at h
      cases h
      exact ⟨hj, hrequest⟩
  · intro ⟨hi, hrequest⟩
    exact ⟨i, hi, by rw [hrequest]; rfl⟩

theorem count_waitsFor (requests : List WaiterRequest) (address : Address) (i : ReplyTx) :
    (waitsFor address (messagesOf requests)).count i =
      if requests[i]? = some (.waitFor address) then 1 else 0 := by
  induction requests using List.reverseRecOn with
  | nil => simp [messagesOf, waitsFor]
  | append_singleton requests request ih =>
    rw [messagesOf_append]
    by_cases hi : i = requests.length
    · subst hi
      have hnew : requests[requests.length]? = none := List.getElem?_eq_none le_rfl
      rw [hnew] at ih
      cases request with
      | notifyCreated a => simpa [WaiterRequest.message] using ih
      | waitFor a => by_cases ha : a = address <;> simpa [WaiterRequest.message, ha] using ih
    · have hold : (requests ++ [request])[i]? = some (.waitFor address) ↔
          requests[i]? = some (.waitFor address) := by
        rcases lt_or_gt_of_ne hi with hlt | hgt
        · rw [List.getElem?_append_left hlt]
        · have hlen : (requests ++ [request]).length ≤ i := by simpa using Nat.succ_le_of_lt hgt
          rw [List.getElem?_eq_none hlen, List.getElem?_eq_none hgt.le]
      simp only [hold, ← ih]
      have hne : requests.length ≠ i := fun h => hi h.symm
      cases request with
      | notifyCreated a => simp [WaiterRequest.message]
      | waitFor a => by_cases ha : a = address <;> simp [WaiterRequest.message, ha, hne]

/-- After these requests a wait has been answered once if a notification is among them, and not at
all otherwise. -/
theorem count_answersOf {requests : List WaiterRequest} {i : ReplyTx}
    (h : requests[i]? = some (.waitFor address)) :
    (answers requests).count i = if .notifyCreated address ∈ requests then 1 else 0 := by
  have honly : OnlyFor address i (messagesOf requests) := by
    intro a ha
    rw [mem_messagesOf_wait, h] at ha
    cases ha
    rfl
  rw [answers, count_answers honly, count_waitsFor, if_pos h]
  simp only [mem_messagesOf_notify]

/-- A request that has not come, or is no wait, is not answered. -/
theorem count_answersOf_none {requests : List WaiterRequest} {i : ReplyTx}
    (h : ∀ a, requests[i]? ≠ some (.waitFor a)) : (answers requests).count i = 0 := by
  have honly : OnlyFor 0 i (messagesOf requests) := by
    intro a ha
    exact absurd (mem_messagesOf_wait.mp ha) (h a)
  rw [answers, count_answers honly, count_waitsFor, if_neg (h 0), ite_self]

/-- **No lost wake-up.** After each number of requests, in any order: a wait that has come is
answered exactly once when a notification for its address has come, before or after it, and not
otherwise; no other channel is answered; and a repeated notification changes nothing. -/
theorem answers_exactly_once (requests : List WaiterRequest) (k : ℕ) :
    (∀ i address, (requests.take k)[i]? = some (.waitFor address) →
      (answers (requests.take k)).count i =
        if .notifyCreated address ∈ requests.take k then 1 else 0) ∧
    (∀ i, (∀ a, (requests.take k)[i]? ≠ some (.waitFor a)) →
      (answers (requests.take k)).count i = 0) ∧
    (∀ address, .notifyCreated address ∈ requests.take k →
      (run (messagesOf (requests.take k))).1.handle (.notifyCreated address) =
        ((run (messagesOf (requests.take k))).1, [])) := by
  refine ⟨fun i address h => count_answersOf h, fun i h => count_answersOf_none h, ?_⟩
  intro address h
  have hcreated : .notifyCreated address ∈ messagesOf (requests.take k) :=
    mem_messagesOf_notify.mpr h
  have hstate := state_after (messagesOf (requests.take k)) address
  rw [if_pos hcreated] at hstate
  simp only [handle, hstate]
  rw [← hstate, Function.update_eq_self]

/-- One wait before the notification and one after it. -/
def earlyAndLate : List WaiterRequest :=
  [.waitFor 1, .notifyCreated 1, .waitFor 1, .notifyCreated 1]

theorem answers_exactly_once_earlyAndLate :
    (answers earlyAndLate).count 0 = 1 ∧ (answers earlyAndLate).count 2 = 1 ∧
      (answers earlyAndLate).count 1 = 0 := by
  have h := answers_exactly_once earlyAndLate 4
  refine ⟨h.1 0 1 rfl, h.1 2 1 rfl, h.2.1 1 fun a => ?_⟩
  simp [earlyAndLate]

end DatabaseCreateWaiter

end Loggaper
