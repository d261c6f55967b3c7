import Loggaper.Feed.Pump
import Loggaper.Feed.SelfDedup
import Loggaper.Lib.Transition

/-!
# The log feed

`Feed::subscribe` connects, receives log messages and sends the parsed events downstream. When the
connection fails, the stream ends or no event has come for a while, it sleeps and connects again.
Each event of the machine is what the feed was waiting for: the connection, a message, the receiver,
a timer. The history is only remembered, never read.

- `Awaited`, `Move`: what each event does.
- `timely_path`: in every run the delays fit, and the watchdog is never early.
- `feedSupervision`: with a receiver that takes its events in time, the watchdog fires exactly after
  15 seconds, and no subscription follows a failed send.
- `receiverGone_resubscribes`: a feed without a receiver.
-/

namespace Loggaper

def reconnectBackoffInitialMs : ℕ := 1_000

def reconnectBackoffMaxMs : ℕ := 60_000

/-- `STREAM_USEFUL_IDLE_TIMEOUT_SECS`, in milliseconds. -/
def streamUsefulIdleTimeoutMs : ℕ := 15_000

def selfDedupCapacity : ℕ := 4096

def programDataPrefix : String := "Program data: "

/-- A message of the stream. -/
structure LogInfo where
  slot : Slot
  /-- `err.is_some()`: the transaction has failed. -/
  failed : Bool
  signature : String
  logs : List String
  deriving DecidableEq, Repr

/-- What the feed waits for. -/
inductive FeedPhase (α : Type*)
  | connecting
  | receiving (lastEvent : ℕ)
  /-- An event is being sent; these lines of the message come after it. -/
  | sending (slot : Slot) (event : α) (logs : List String) (lastEvent : ℕ)
  | unsubscribing (idleTriggered : Bool)
  | sleeping (wakeAt : ℕ)

inductive FeedNote
  | subscribed (t : ℕ)
  /-- An event goes to the receiver: the send begins. -/
  | forwarded (t : ℕ)
  /-- The receiver has taken it. -/
  | delivered (t : ℕ)
  /-- The watchdog fires. -/
  | idle (t : ℕ)
  /-- A send has failed. -/
  | receiverDropped
  /-- A delay, and its part without the jitter. -/
  | delay (backoffMs sleepMs : ℕ)
  deriving DecidableEq, Repr

/-- The feed at a time in milliseconds. -/
structure LogsFeed (α : Type*) where
  now : ℕ
  phase : FeedPhase α
  /-- At most a minute, so nothing saturates. -/
  backoffMs : ℕ
  selfDedup : SelfDedup
  history : List FeedNote

inductive FeedEvent
  | tick (ms : ℕ)
  /-- No connection, or no subscription. The clock gives the jitter. -/
  | connectFailed (nanos : ℕ)
  | subscribed
  | message (info : LogInfo)
  | streamEnd
  | timedOut
  /-- The receiver takes the event. -/
  | sent
  /-- The receiver is gone. -/
  | sendFailed
  | unsubscribed (nanos : ℕ)
  | wake
  deriving DecidableEq, Repr

def pseudoJitterMs (nanos spanMs : ℕ) : ℕ := if spanMs = 0 then 0 else nanos % spanMs

namespace LogsFeed

variable {α : Type*}

/-- The top of the receive loop: the watchdog, or the next message. -/
def loopTop (s : LogsFeed α) (lastEvent : ℕ) : LogsFeed α :=
  if streamUsefulIdleTimeoutMs ≤ s.now - lastEvent then
    { s with phase := .unsubscribing true, history := s.history ++ [.idle s.now] }
  else { s with phase := .receiving lastEvent }

/-- The lines of a message, up to the next event. -/
def handleLogs (parse : String → Option α) (s : LogsFeed α) (slot : Slot) (lastEvent : ℕ) :
    List String → LogsFeed α
  | [] => s.loopTop lastEvent
  | log :: logs =>
    if textStartsWith log programDataPrefix then
      match parse log with
      | some event => { s with
        phase := .sending slot event logs s.now
        history := s.history ++ [.forwarded s.now] }
      | none => s.handleLogs parse slot lastEvent logs
    else s.handleLogs parse slot lastEvent logs

def handleMessage (parse : String → Option α) (s : LogsFeed α) (lastEvent : ℕ) (info : LogInfo) :
    LogsFeed α :=
  if info.failed then s.loopTop lastEvent
  else
    let answer := s.selfDedup.drops info.signature
    let s := { s with selfDedup := answer.2 }
    if answer.1 then s.loopTop lastEvent
    else if (info.logs.filter (textStartsWith · programDataPrefix)).length = 0 then
      s.loopTop lastEvent
    else s.handleLogs parse info.slot lastEvent info.logs

/-- The send is over, and the loop goes on with the lines that are left. -/
def deliver (s : LogsFeed α) (lastEvent : ℕ) : LogsFeed α :=
  { s with phase := .receiving lastEvent, history := s.history ++ [.delivered s.now] }

/-- After the inner block, however it has ended. -/
def reconnect (s : LogsFeed α) (nanos : ℕ) : LogsFeed α :=
  let sleepMs := s.backoffMs + pseudoJitterMs nanos (s.backoffMs / 4)
  { s with
    phase := .sleeping (s.now + sleepMs)
    history := s.history ++ [.delay s.backoffMs sleepMs] }

/-- Timers are not late: no time passes beyond one. -/
def tick (s : LogsFeed α) (ms : ℕ) : Option (LogsFeed α) :=
  match s.phase with
  | .receiving lastEvent =>
    if s.now + ms ≤ lastEvent + streamUsefulIdleTimeoutMs then
      some { s with now := s.now + ms }
    else none
  | .sleeping wakeAt =>
    if s.now + ms ≤ wakeAt then some { s with now := s.now + ms } else none
  | _ => some { s with now := s.now + ms }

def step (parse : String → Option α) (s : LogsFeed α) : FeedEvent → Option (LogsFeed α)
  | .tick ms => s.tick ms
  | .connectFailed nanos =>
    match s.phase with
    | .connecting => some (s.reconnect nanos)
    | _ => none
  | .subscribed =>
    match s.phase with
    | .connecting =>
      let s := { s with
        backoffMs := reconnectBackoffInitialMs
        history := s.history ++ [FeedNote.subscribed s.now] }
      some (s.loopTop s.now)
    | _ => none
  | .message info =>
    match s.phase with
    | .receiving lastEvent => some (s.handleMessage parse lastEvent info)
    | _ => none
  | .streamEnd =>
    match s.phase with
    | .receiving _ => some { s with phase := .unsubscribing false }
    | _ => none
  | .timedOut =>
    match s.phase with
    | .receiving lastEvent =>
      if lastEvent + streamUsefulIdleTimeoutMs ≤ s.now then some (s.loopTop lastEvent) else none
    | _ => none
  | .sent =>
    match s.phase with
    | .sending slot _ logs lastEvent =>
      some ((s.deliver lastEvent).handleLogs parse slot lastEvent logs)
    | _ => none
  | .sendFailed =>
    match s.phase with
    | .sending .. =>
      -- leaves the inner block like any other end of the stream
      some { s with
        phase := .unsubscribing false
        history := s.history ++ [.receiverDropped] }
    | _ => none
  | .unsubscribed nanos =>
    match s.phase with
    | .unsubscribing _ => some (s.reconnect nanos)
    | _ => none
  | .wake =>
    match s.phase with
    | .sleeping wakeAt =>
      if wakeAt ≤ s.now then
        some { s with
          phase := .connecting
          backoffMs := min (s.backoffMs * 2) reconnectBackoffMaxMs }
      else none
    | _ => none

/-- `subscribe`, called at some time. -/
def subscribe (now : ℕ) : LogsFeed α where
  now := now
  phase := .connecting
  backoffMs := reconnectBackoffInitialMs
  selfDedup := .new selfDedupCapacity
  history := []

end LogsFeed

/-- The feed under everything that it may wait for. -/
def logsFeed {α : Type*} (parse : String → Option α) : Machine (LogsFeed α) FeedEvent where
  init s := ∃ now, s = .subscribe now
  step := LogsFeed.step parse

/-! ## What the history says -/

/-- The delays since the last subscription. -/
def delaysSince (history : List FeedNote) : ℕ :=
  history.foldl (fun k note => match note with
    | .subscribed _ => 0
    | .delay .. => k + 1
    | _ => k) 0

/-- The last subscription or forwarded event. -/
def lastUseful (history : List FeedNote) : ℕ :=
  history.foldl (fun t note => match note with
    | .subscribed t' | .forwarded t' => t'
    | _ => t) 0

/-- The last subscription or delivered event. -/
def lastDelivered (history : List FeedNote) : ℕ :=
  history.foldl (fun t note => match note with
    | .subscribed t' | .delivered t' => t'
    | _ => t) 0

/-- One second, doubled `k` times, but a minute at most. -/
def backoffAfter (k : ℕ) : ℕ := min (reconnectBackoffInitialMs * 2 ^ k) reconnectBackoffMaxMs

/-- A delay doubles with each one since the last subscription, and the jitter is less than a quarter
of it. -/
def DelayFits (before : List FeedNote) : FeedNote → Prop
  | .delay backoffMs sleepMs =>
    backoffMs = backoffAfter (delaysSince before) ∧
      1_000 ≤ backoffMs ∧ backoffMs ≤ 60_000 ∧
      backoffMs ≤ sleepMs ∧ sleepMs < backoffMs + backoffMs / 4
  | _ => True

/-- The watchdog is not early. -/
def IdleWaits (before : List FeedNote) : FeedNote → Prop
  | .idle t => lastUseful before + 15_000 ≤ t
  | _ => True

/-- The watchdog fires when no event was forwarded for 15 seconds. The receiver had taken the last
one after a `wait` at most. -/
def IdleFits (wait : ℕ) (before : List FeedNote) : FeedNote → Prop
  | .idle t =>
    t = lastUseful before + 15_000 ∧
      lastUseful before ≤ lastDelivered before ∧ lastDelivered before ≤ lastUseful before + wait
  | _ => True

/-- No subscription after a failed send. -/
def SubscriptionFits (before : List FeedNote) : FeedNote → Prop
  | .subscribed _ => .receiverDropped ∉ before
  | _ => True

theorem delaysSince_append (history : List FeedNote) (note : FeedNote) :
    delaysSince (history ++ [note]) = match note with
      | .subscribed _ => 0
      | .delay .. => delaysSince history + 1
      | _ => delaysSince history := by
  simp only [delaysSince, List.foldl_append, List.foldl_cons, List.foldl_nil]

theorem lastUseful_append (history : List FeedNote) (note : FeedNote) :
    lastUseful (history ++ [note]) = match note with
      | .subscribed t | .forwarded t => t
      | _ => lastUseful history := by
  simp only [lastUseful, List.foldl_append, List.foldl_cons, List.foldl_nil]

theorem lastDelivered_append (history : List FeedNote) (note : FeedNote) :
    lastDelivered (history ++ [note]) = match note with
      | .subscribed t | .delivered t => t
      | _ => lastDelivered history := by
  simp only [lastDelivered, List.foldl_append, List.foldl_cons, List.foldl_nil]

namespace LogsFeed

variable {α : Type*} {parse : String → Option α} {s t : LogsFeed α} {e : FeedEvent}

/-! ## What an event does -/

/-- The event that the feed was waiting for, and what it does. -/
inductive Awaited (parse : String → Option α) (s : LogsFeed α) : FeedEvent → LogsFeed α → Prop
  | tick {ms : ℕ}
      (hdue : ∀ last, s.phase = .receiving last →
        s.now + ms ≤ last + streamUsefulIdleTimeoutMs) :
      Awaited parse s (.tick ms) { s with now := s.now + ms }
  | connectFailed {nanos : ℕ} (h : s.phase = .connecting) :
      Awaited parse s (.connectFailed nanos) (s.reconnect nanos)
  | subscribed (h : s.phase = .connecting) :
      Awaited parse s .subscribed (({ s with
        backoffMs := reconnectBackoffInitialMs
        history := s.history ++ [.subscribed s.now] } : LogsFeed α).loopTop s.now)
  | message {info : LogInfo} {last : ℕ} (h : s.phase = .receiving last) :
      Awaited parse s (.message info) (s.handleMessage parse last info)
  | streamEnd {last : ℕ} (h : s.phase = .receiving last) :
      Awaited parse s .streamEnd { s with phase := .unsubscribing false }
  | timedOut {last : ℕ} (h : s.phase = .receiving last) :
      Awaited parse s .timedOut (s.loopTop last)
  | sent {slot : Slot} {event : α} {logs : List String} {last : ℕ}
      (h : s.phase = .sending slot event logs last) :
      Awaited parse s .sent ((s.deliver last).handleLogs parse slot last logs)
  | sendFailed {slot : Slot} {event : α} {logs : List String} {last : ℕ}
      (h : s.phase = .sending slot event logs last) :
      Awaited parse s .sendFailed { s with
        phase := .unsubscribing false
        history := s.history ++ [.receiverDropped] }
  | unsubscribed {nanos : ℕ} {idle : Bool} (h : s.phase = .unsubscribing idle) :
      Awaited parse s (.unsubscribed nanos) (s.reconnect nanos)
  | wake {wakeAt : ℕ} (h : s.phase = .sleeping wakeAt) :
      Awaited parse s .wake { s with
        phase := .connecting
        backoffMs := min (s.backoffMs * 2) reconnectBackoffMaxMs }

theorem awaited_tick {ms : ℕ} (h : s.tick ms = some t) : s.Awaited parse (.tick ms) t := by
  unfold LogsFeed.tick at h
  split at h
  · rename_i last hphase
    obtain ⟨hdue, ht⟩ := Option.ite_none_right_eq_some.mp h
    cases ht
    refine .tick fun last' hlast' => ?_
    rw [hphase] at hlast'
    cases hlast'
    exact hdue
  · rename_i wakeAt hphase
    obtain ⟨-, ht⟩ := Option.ite_none_right_eq_some.mp h
    cases ht
    exact .tick fun last' hlast' => by rw [hphase] at hlast'; cases hlast'
  · rename_i hreceiving _
    cases h
    exact .tick fun last' hlast' => absurd hlast' (hreceiving last')

/-- The feed does nothing else. -/
theorem awaited_of_step (h : s.step parse e = some t) : s.Awaited parse e t := by
  cases e with
  | tick ms => exact awaited_tick h
  | connectFailed nanos =>
    simp only [step] at h
    split at h
    · rename_i hphase
      cases h
      exact .connectFailed hphase
    · cases h
  | subscribed =>
    simp only [step] at h
    split at h
    · rename_i hphase
      cases h
      exact .subscribed hphase
    · cases h
  | message info =>
    simp only [step] at h
    split at h
    · rename_i last hphase
      cases h
      exact .message hphase
    · cases h
  | streamEnd =>
    simp only [step] at h
    split at h
    · rename_i last hphase
      cases h
      exact .streamEnd hphase
    · cases h
  | timedOut =>
    simp only [step] at h
    split at h
    · rename_i last hphase
      obtain ⟨-, ht⟩ := Option.ite_none_right_eq_some.mp h
      cases ht
      exact .timedOut hphase
    · cases h
  | sent =>
    simp only [step] at h
    split at h
    · rename_i slot event logs last hphase
      cases h
      exact .sent hphase
    · cases h
  | sendFailed =>
    simp only [step] at h
    split at h
    · rename_i slot event logs last hphase
      cases h
      exact .sendFailed hphase
    · cases h
  | unsubscribed nanos =>
    simp only [step] at h
    split at h
    · rename_i idle hphase
      cases h
      exact .unsubscribed hphase
    · cases h
  | wake =>
    simp only [step] at h
    split at h
    · rename_i wakeAt hphase
      obtain ⟨-, ht⟩ := Option.ite_none_right_eq_some.mp h
      cases ht
      exact .wake hphase
    · cases h

/-- When the send began. -/
def sendingSince (s : LogsFeed α) : Option ℕ :=
  match s.phase with
  | .sending _ _ _ lastEvent => some lastEvent
  | _ => none

theorem sendingSince_of_sending {slot : Slot} {event : α} {logs : List String} {last : ℕ}
    (h : s.phase = .sending slot event logs last) : s.sendingSince = some last := by
  rw [sendingSince, h]

theorem sending_of_sendingSince {last : ℕ} (h : s.sendingSince = some last) :
    ∃ slot event logs, s.phase = .sending slot event logs last := by
  unfold sendingSince at h
  split at h
  · rename_i slot event logs last' hphase
    cases h
    exact ⟨slot, event, logs, hphase⟩
  · cases h

inductive Move (s : LogsFeed α) : FeedEvent → LogsFeed α → Prop
  | tick {ms : ℕ}
      (hdue : ∀ last, s.phase = .receiving last →
        s.now + ms ≤ last + streamUsefulIdleTimeoutMs) :
      Move s (.tick ms) { s with now := s.now + ms }
  | reconnect {e : FeedEvent} (nanos : ℕ)
      (h : s.phase = .connecting ∨ ∃ idle, s.phase = .unsubscribing idle) :
      Move s e (s.reconnect nanos)
  | subscribed (h : s.phase = .connecting) :
      Move s .subscribed { s with
        phase := .receiving s.now
        backoffMs := reconnectBackoffInitialMs
        history := s.history ++ [.subscribed s.now] }
  | receive {e : FeedEvent} {last : ℕ} (selfDedup : SelfDedup) (h : s.phase = .receiving last)
      (hwaited : s.now - last < streamUsefulIdleTimeoutMs) :
      Move s e { s with selfDedup, phase := .receiving last }
  | idle {e : FeedEvent} {last : ℕ} (selfDedup : SelfDedup) (h : s.phase = .receiving last)
      (hwaited : streamUsefulIdleTimeoutMs ≤ s.now - last) :
      Move s e { s with
        selfDedup
        phase := .unsubscribing true
        history := s.history ++ [.idle s.now] }
  | forward {e : FeedEvent} {last : ℕ} (selfDedup : SelfDedup) (slot : Slot) (event : α)
      (logs : List String) (h : s.phase = .receiving last) :
      Move s e { s with
        selfDedup
        phase := .sending slot event logs s.now
        history := s.history ++ [.forwarded s.now] }
  | streamEnd {last : ℕ} (h : s.phase = .receiving last) :
      Move s .streamEnd { s with phase := .unsubscribing false }
  | sendFailed {last : ℕ} (h : s.sendingSince = some last) :
      Move s .sendFailed { s with
        phase := .unsubscribing false
        history := s.history ++ [.receiverDropped] }
  | wake {wakeAt : ℕ} (h : s.phase = .sleeping wakeAt) :
      Move s .wake { s with
        phase := .connecting
        backoffMs := min (s.backoffMs * 2) reconnectBackoffMaxMs }

/-- The loop goes on with a check of the watchdog. -/
theorem move_loopTop {last : ℕ} (h : s.phase = .receiving last) (selfDedup : SelfDedup) :
    s.Move e (({ s with selfDedup } : LogsFeed α).loopTop last) := by
  unfold loopTop
  split_ifs with hwaited
  · exact .idle selfDedup h hwaited
  · exact .receive selfDedup h (not_le.mp hwaited)

theorem move_handleLogs {last : ℕ} (h : s.phase = .receiving last) (selfDedup : SelfDedup)
    (slot : Slot) (logs : List String) :
    s.Move e (({ s with selfDedup } : LogsFeed α).handleLogs parse slot last logs) := by
  induction logs with
  | nil => exact move_loopTop h selfDedup
  | cons log logs ih =>
    rw [handleLogs]
    split_ifs
    · cases parse log with
      | some event => exact .forward selfDedup slot event logs h
      | none => exact ih
    · exact ih

theorem move_handleMessage {last : ℕ} (h : s.phase = .receiving last) (info : LogInfo) :
    s.Move e (s.handleMessage parse last info) := by
  unfold handleMessage
  by_cases hfailed : info.failed = true
  · rw [if_pos hfailed]
    exact move_loopTop h s.selfDedup
  · rw [if_neg hfailed]
    simp only
    split_ifs
    · exact move_loopTop h _
    · exact move_loopTop h _
    · exact move_handleLogs h _ info.slot info.logs

/-- The state from which an event moves the feed: a delivery is noted first. -/
def Moves (s : LogsFeed α) (e : FeedEvent) (t : LogsFeed α) : Prop :=
  s.Move e t ∨ ∃ last ∈ s.sendingSince, (s.deliver last).Move .sent t

theorem moves_of_step (h : s.step parse e = some t) : s.Moves e t := by
  cases awaited_of_step h with
  | tick hdue => exact .inl (.tick hdue)
  | connectFailed hphase => exact .inl (.reconnect _ (.inl hphase))
  | subscribed hphase =>
    simp only [loopTop, Nat.sub_self]
    exact .inl (.subscribed hphase)
  | message hphase => exact .inl (move_handleMessage hphase _)
  | streamEnd hphase => exact .inl (.streamEnd hphase)
  | timedOut hphase => exact .inl (move_loopTop hphase s.selfDedup)
  | sent hphase =>
    exact .inr ⟨_, sendingSince_of_sending hphase, move_handleLogs rfl s.selfDedup _ _⟩
  | sendFailed hphase => exact .inl (.sendFailed (sendingSince_of_sending hphase))
  | unsubscribed hphase => exact .inl (.reconnect _ (.inr ⟨_, hphase⟩))
  | wake hphase => exact .inl (.wake hphase)

/-! ## Delays -/

/-- The backoff of the next delay. It is doubled when the feed wakes up. -/
def Backoff (s : LogsFeed α) : Prop :=
  match s.phase with
  | .sleeping _ => ∃ k, delaysSince s.history = k + 1 ∧ s.backoffMs = backoffAfter k
  | _ => s.backoffMs = backoffAfter (delaysSince s.history)

structure Paced (s : LogsFeed α) : Prop where
  delays : Along DelayFits s.history
  backoff : s.Backoff

theorem paced_subscribe (now : ℕ) : (subscribe now : LogsFeed α).Paced := ⟨Along.nil, rfl⟩

theorem backoffAfter_bounds (k : ℕ) : 1_000 ≤ backoffAfter k ∧ backoffAfter k ≤ 60_000 := by
  have hpow : 1 ≤ 2 ^ k := Nat.one_le_two_pow
  simp only [backoffAfter, reconnectBackoffInitialMs, reconnectBackoffMaxMs]
  omega

theorem backoffAfter_succ (k : ℕ) :
    backoffAfter (k + 1) = min (backoffAfter k * 2) reconnectBackoffMaxMs := by
  simp only [backoffAfter, reconnectBackoffInitialMs, reconnectBackoffMaxMs, pow_succ]
  omega

theorem pseudoJitterMs_lt {nanos spanMs : ℕ} (h : 0 < spanMs) :
    pseudoJitterMs nanos spanMs < spanMs := by
  rw [pseudoJitterMs, if_neg h.ne']
  exact Nat.mod_lt _ h

/-- The backoff before a delay. -/
theorem Backoff.awake (h : s.Backoff) (hphase : ∀ wakeAt, s.phase ≠ .sleeping wakeAt) :
    s.backoffMs = backoffAfter (delaysSince s.history) := by
  unfold Backoff at h
  split at h
  · rename_i wakeAt heq
    exact absurd heq (hphase wakeAt)
  · exact h

theorem awake_of_receiving {last : ℕ} (h : s.phase = .receiving last) (wakeAt : ℕ) :
    s.phase ≠ .sleeping wakeAt := by
  rw [h]
  exact nofun

theorem awake_of_sendingSince {last : ℕ} (h : s.sendingSince = some last) (wakeAt : ℕ) :
    s.phase ≠ .sleeping wakeAt := by
  obtain ⟨slot, event, logs, hphase⟩ := sending_of_sendingSince h
  rw [hphase]
  exact nofun

/-- A delay with its jitter. -/
theorem Paced.reconnect (h : s.Paced) (hphase : ∀ wakeAt, s.phase ≠ .sleeping wakeAt)
    (nanos : ℕ) : (s.reconnect nanos).Paced := by
  have hbackoff := h.backoff.awake hphase
  have hbounds := backoffAfter_bounds (delaysSince s.history)
  rw [← hbackoff] at hbounds
  have hjitter : pseudoJitterMs nanos (s.backoffMs / 4) < s.backoffMs / 4 :=
    pseudoJitterMs_lt (by omega)
  constructor
  · exact Along.append_singleton.mpr
      ⟨h.delays, hbackoff, hbounds.1, hbounds.2, Nat.le_add_right _ _, by omega⟩
  · exact ⟨delaysSince s.history, delaysSince_append _ _, hbackoff⟩

/-- A note that is no delay, in a phase that is no sleep. -/
theorem Paced.note (h : s.Paced) {note : FeedNote} (hhistory : t.history = s.history ++ [note])
    (hfits : DelayFits s.history note) (hphase : ∀ wakeAt, t.phase ≠ .sleeping wakeAt)
    (hbackoff : t.backoffMs = backoffAfter (delaysSince (s.history ++ [note]))) : t.Paced where
  delays := hhistory ▸ Along.append_singleton.mpr ⟨h.delays, hfits⟩
  backoff := by
    unfold Backoff
    split
    · rename_i wakeAt heq
      exact absurd heq (hphase wakeAt)
    · rw [hhistory]
      exact hbackoff

theorem paced_move (h : s.Paced) (hmove : s.Move e t) : t.Paced := by
  cases hmove with
  | tick => exact ⟨h.delays, h.backoff⟩
  | reconnect nanos hphase =>
    refine h.reconnect (fun wakeAt hsleeping => ?_) nanos
    rw [hsleeping] at hphase
    rcases hphase with hphase | ⟨idle, hphase⟩ <;> cases hphase
  | subscribed =>
    refine h.note rfl trivial nofun ?_
    rw [delaysSince_append]
    rfl
  | receive selfDedup hphase => exact ⟨h.delays, h.backoff.awake (awake_of_receiving hphase)⟩
  | idle selfDedup hphase =>
    refine h.note rfl trivial nofun ?_
    rw [delaysSince_append]
    exact h.backoff.awake (awake_of_receiving hphase)
  | forward selfDedup slot event logs hphase =>
    refine h.note rfl trivial nofun ?_
    rw [delaysSince_append]
    exact h.backoff.awake (awake_of_receiving hphase)
  | streamEnd hphase => exact ⟨h.delays, h.backoff.awake (awake_of_receiving hphase)⟩
  | sendFailed hsending =>
    refine h.note rfl trivial nofun ?_
    rw [delaysSince_append]
    exact h.backoff.awake (awake_of_sendingSince hsending)
  | wake hphase =>
    have hbackoff := h.backoff
    rw [Backoff, hphase] at hbackoff
    obtain ⟨k, hk, hvalue⟩ := hbackoff
    refine ⟨h.delays, ?_⟩
    show min (s.backoffMs * 2) reconnectBackoffMaxMs = backoffAfter (delaysSince s.history)
    rw [hk, backoffAfter_succ, hvalue]

theorem paced_deliver {last : ℕ} (h : s.Paced) (hsending : s.sendingSince = some last) :
    (s.deliver last).Paced := by
  refine h.note rfl trivial nofun ?_
  rw [delaysSince_append]
  exact h.backoff.awake (awake_of_sendingSince hsending)

theorem paced_step (h : s.Paced) (hstep : s.step parse e = some t) : t.Paced := by
  rcases moves_of_step hstep with hmove | ⟨last, hsending, hmove⟩
  · exact paced_move h hmove
  · exact paced_move (paced_deliver h hsending) hmove

/-! ## The watchdog -/

/-- In the receive loop: the time from which the watchdog counts. -/
def lastEvent (s : LogsFeed α) : Option ℕ :=
  match s.phase with
  | .receiving lastEvent | .sending _ _ _ lastEvent => some lastEvent
  | _ => none

theorem lastEvent_of_receiving {last : ℕ} (h : s.phase = .receiving last) :
    s.lastEvent = some last := by
  rw [lastEvent, h]

theorem lastEvent_of_sendingSince {last : ℕ} (h : s.sendingSince = some last) :
    s.lastEvent = some last := by
  obtain ⟨slot, event, logs, hphase⟩ := sending_of_sendingSince h
  rw [lastEvent, hphase]

theorem lastEvent_cases {last : ℕ} (h : s.lastEvent = some last) :
    s.phase = .receiving last ∨ s.sendingSince = some last := by
  unfold lastEvent at h
  split at h
  · rename_i hphase
    cases h
    exact .inl hphase
  · rename_i hphase
    cases h
    exact .inr (sendingSince_of_sending hphase)
  · cases h

/-- The watchdog of any run: it counts from the last event, and is not early. -/
structure Watched (s : LogsFeed α) : Prop where
  idle : Along IdleWaits s.history
  last : ∀ last ∈ s.lastEvent, last = lastUseful s.history ∧ last ≤ s.now

theorem watched_subscribe (now : ℕ) : (subscribe now : LogsFeed α).Watched := ⟨Along.nil, nofun⟩

theorem watched_move (h : s.Watched) (hmove : s.Move e t) : t.Watched := by
  cases hmove with
  | tick =>
    refine ⟨h.idle, fun last hlast => ?_⟩
    obtain ⟨heq, hle⟩ := h.last last hlast
    exact ⟨heq, hle.trans (Nat.le_add_right _ _)⟩
  | reconnect nanos => exact ⟨Along.append_singleton.mpr ⟨h.idle, trivial⟩, nofun⟩
  | subscribed =>
    refine ⟨Along.append_singleton.mpr ⟨h.idle, trivial⟩, fun last hlast => ?_⟩
    cases hlast
    exact ⟨(lastUseful_append s.history (.subscribed s.now)).symm, le_rfl⟩
  | receive selfDedup hphase =>
    refine ⟨h.idle, fun last hlast => ?_⟩
    cases hlast
    exact h.last _ (lastEvent_of_receiving hphase)
  | idle selfDedup hphase hwaited =>
    obtain ⟨heq, hle⟩ := h.last _ (lastEvent_of_receiving hphase)
    refine ⟨Along.append_singleton.mpr ⟨h.idle, ?_⟩, nofun⟩
    show lastUseful s.history + streamUsefulIdleTimeoutMs ≤ s.now
    omega
  | forward selfDedup slot event logs hphase =>
    refine ⟨Along.append_singleton.mpr ⟨h.idle, trivial⟩, fun last hlast => ?_⟩
    cases hlast
    exact ⟨(lastUseful_append s.history (.forwarded s.now)).symm, le_rfl⟩
  | streamEnd | wake => exact ⟨h.idle, nofun⟩
  | sendFailed => exact ⟨Along.append_singleton.mpr ⟨h.idle, trivial⟩, nofun⟩

theorem watched_deliver {last : ℕ} (h : s.Watched) (hsending : s.sendingSince = some last) :
    (s.deliver last).Watched := by
  obtain ⟨heq, hle⟩ := h.last last (lastEvent_of_sendingSince hsending)
  refine ⟨Along.append_singleton.mpr ⟨h.idle, trivial⟩, fun last' hlast' => ?_⟩
  cases hlast'
  exact ⟨heq.trans (lastUseful_append s.history (.delivered s.now)).symm, hle⟩

theorem watched_step (h : s.Watched) (hstep : s.step parse e = some t) : t.Watched := by
  rcases moves_of_step hstep with hmove | ⟨last, hsending, hmove⟩
  · exact watched_move h hmove
  · exact watched_move (watched_deliver h hsending) hmove

/-- In every run the delays fit, and the watchdog is not early. -/
theorem timely_path {G : LogsFeed α → FeedEvent → Prop} {now : ℕ} {es : List FeedEvent}
    (h : (logsFeed parse).Path G (subscribe now) es s) :
    Along DelayFits s.history ∧ Along IdleWaits s.history := by
  have hpaced : s.Paced := h.invariant (I := Paced)
    (fun _ _ _ hI _ hstep => paced_step hI hstep) (paced_subscribe now)
  have hwatched : s.Watched := h.invariant (I := Watched)
    (fun _ _ _ hI _ hstep => watched_step hI hstep) (watched_subscribe now)
  exact ⟨hpaced.delays, hwatched.idle⟩

/-! ## A receiver that takes its events -/

/-- No send fails, and none is under way for longer than `wait`. -/
def Prompt (wait : ℕ) (s : LogsFeed α) : FeedEvent → Prop
  | .tick ms => ∀ last ∈ s.sendingSince, s.now + ms ≤ last + wait
  | .sendFailed => False
  | _ => True

instance (wait : ℕ) (s : LogsFeed α) : ∀ e, Decidable (s.Prompt wait e)
  | .tick ms => inferInstanceAs (Decidable (∀ last ∈ s.sendingSince, s.now + ms ≤ last + wait))
  | .sendFailed => inferInstanceAs (Decidable False)
  | .connectFailed _ | .subscribed | .message _ | .streamEnd | .timedOut | .sent | .unsubscribed _
  | .wake => inferInstanceAs (Decidable True)

/-- The watchdog is not late either. Between two messages the last event has been taken. -/
structure Attended (wait : ℕ) (s : LogsFeed α) : Prop where
  idle : Along (IdleFits wait) s.history
  receiving : ∀ last, s.phase = .receiving last →
    s.now ≤ last + streamUsefulIdleTimeoutMs ∧
      last ≤ lastDelivered s.history ∧ lastDelivered s.history ≤ last + wait
  sending : ∀ last ∈ s.sendingSince, s.now ≤ last + wait

variable {wait : ℕ}

theorem attended_subscribe (now : ℕ) : (subscribe now : LogsFeed α).Attended wait :=
  ⟨Along.nil, nofun, nofun⟩

theorem attended_move (hwatched : s.Watched) (h : s.Attended wait) (he : s.Prompt wait e)
    (hmove : s.Move e t) : t.Attended wait := by
  cases hmove with
  | tick hdue =>
    refine ⟨h.idle, fun last hphase => ?_, he⟩
    exact ⟨hdue last hphase, (h.receiving last hphase).2⟩
  | reconnect nanos => exact ⟨Along.append_singleton.mpr ⟨h.idle, trivial⟩, nofun, nofun⟩
  | subscribed =>
    refine ⟨Along.append_singleton.mpr ⟨h.idle, trivial⟩, fun last hphase => ?_, nofun⟩
    cases hphase
    rw [lastDelivered_append]
    exact ⟨Nat.le_add_right _ _, le_rfl, Nat.le_add_right _ _⟩
  | receive selfDedup hphase =>
    refine ⟨h.idle, fun last hphase' => ?_, nofun⟩
    cases hphase'
    exact h.receiving _ hphase
  | idle selfDedup hphase hwaited =>
    obtain ⟨heq, hle⟩ := hwatched.last _ (lastEvent_of_receiving hphase)
    obtain ⟨hdue, htaken⟩ := h.receiving _ hphase
    refine ⟨Along.append_singleton.mpr ⟨h.idle, ?_, ?_⟩, nofun, nofun⟩
    · show s.now = lastUseful s.history + streamUsefulIdleTimeoutMs
      omega
    · rwa [← heq]
  | forward selfDedup slot event logs hphase =>
    refine ⟨Along.append_singleton.mpr ⟨h.idle, trivial⟩, nofun, fun last hlast => ?_⟩
    cases hlast
    exact Nat.le_add_right _ _
  | streamEnd | wake => exact ⟨h.idle, nofun, nofun⟩
  | sendFailed => exact he.elim

theorem attended_deliver {last : ℕ} (hwait : wait < streamUsefulIdleTimeoutMs)
    (hwatched : s.Watched) (h : s.Attended wait) (hsending : s.sendingSince = some last) :
    (s.deliver last).Attended wait := by
  obtain ⟨-, hle⟩ := hwatched.last last (lastEvent_of_sendingSince hsending)
  have hnow := h.sending last hsending
  refine ⟨Along.append_singleton.mpr ⟨h.idle, trivial⟩, fun last' hphase => ?_, nofun⟩
  cases hphase
  show s.now ≤ last + streamUsefulIdleTimeoutMs ∧ _
  rw [deliver, lastDelivered_append]
  exact ⟨by omega, hle, hnow⟩

theorem attended_step (hwait : wait < streamUsefulIdleTimeoutMs) (hwatched : s.Watched)
    (h : s.Attended wait) (he : s.Prompt wait e) (hstep : s.step parse e = some t) :
    t.Attended wait := by
  rcases moves_of_step hstep with hmove | ⟨last, hsending, hmove⟩
  · exact attended_move hwatched h he hmove
  · have hdeliver := attended_deliver hwait hwatched h hsending
    have hprompt : (s.deliver last).Prompt wait .sent := trivial
    exact attended_move (watched_deliver hwatched hsending) hdeliver hprompt hmove

/-- While the feed is connected, its last event is at most 15 seconds old. -/
theorem Attended.due (h : s.Attended wait) (hwait : wait < streamUsefulIdleTimeoutMs)
    {last : ℕ} (hlast : s.lastEvent = some last) : s.now ≤ last + streamUsefulIdleTimeoutMs := by
  rcases lastEvent_cases hlast with hphase | hsending
  · exact (h.receiving last hphase).1
  · have hnow := h.sending last hsending
    omega

/-- At the deadline the watchdog fires, whatever was received in between. -/
theorem Attended.fires (h : s.Attended wait) (hwait : wait < streamUsefulIdleTimeoutMs)
    {last : ℕ} (hlast : s.lastEvent = some last)
    (hdue : s.now = last + streamUsefulIdleTimeoutMs) :
    s.step parse .timedOut = some { s with
      phase := .unsubscribing true
      history := s.history ++ [.idle s.now] } := by
  rcases lastEvent_cases hlast with hphase | hsending
  · simp only [step, hphase, loopTop]
    rw [if_pos hdue.ge, if_pos (by omega)]
  · have hnow := h.sending last hsending
    omega

/-! ## Supervision -/

/-- No send has failed, so nothing is wrong with a subscription. -/
def ReceiverThere (s : LogsFeed α) : Prop :=
  .receiverDropped ∉ s.history ∧ Along SubscriptionFits s.history

theorem ReceiverThere.note (h : s.ReceiverThere) {note : FeedNote}
    (ht : t.history = s.history ++ [note]) (hnote : note ≠ .receiverDropped) :
    t.ReceiverThere := by
  refine ⟨?_, ht ▸ Along.append_singleton.mpr ⟨h.2, ?_⟩⟩
  · rw [ht, List.mem_append, List.mem_singleton]
    exact not_or.mpr ⟨h.1, hnote.symm⟩
  · cases note with
    | subscribed => exact h.1
    | forwarded | delivered | idle | receiverDropped | delay => trivial

theorem receiverThere_move (h : s.ReceiverThere) (he : s.Prompt wait e) (hmove : s.Move e t) :
    t.ReceiverThere := by
  cases hmove with
  | tick | receive | streamEnd | wake => exact h
  | reconnect | subscribed | idle | forward => exact h.note rfl nofun
  | sendFailed => exact he.elim

theorem receiverThere_step (h : s.ReceiverThere) (he : s.Prompt wait e)
    (hstep : s.step parse e = some t) : t.ReceiverThere := by
  rcases moves_of_step hstep with hmove | ⟨last, hsending, hmove⟩
  · exact receiverThere_move h he hmove
  · have hdeliver : (s.deliver last).ReceiverThere := h.note rfl nofun
    have hprompt : (s.deliver last).Prompt wait .sent := trivial
    exact receiverThere_move hdeliver hprompt hmove

/-- What is asked of a feed: its delays, its watchdog, and its end. -/
structure Supervised (parse : String → Option α) (wait : ℕ) (s : LogsFeed α) : Prop where
  delays : Along DelayFits s.history
  idle : Along (IdleFits wait) s.history
  /-- While the feed is connected, the last event is at most 15 seconds old. -/
  due : ∀ last, s.lastEvent = some last → s.now ≤ lastUseful s.history + 15_000
  /-- Then the connection is given up. -/
  fires : ∀ last, s.lastEvent = some last → s.now = lastUseful s.history + 15_000 →
    ∃ t, s.step parse .timedOut = some t ∧ t.phase = .unsubscribing true
  /-- No subscription after a failed send. -/
  stops : Along SubscriptionFits s.history

/-- The invariant of the runs with such a receiver. -/
structure Served (wait : ℕ) (s : LogsFeed α) : Prop where
  watched : s.Watched
  attended : s.Attended wait
  receiver : s.ReceiverThere

theorem served_subscribe (now : ℕ) : (subscribe now : LogsFeed α).Served wait :=
  ⟨watched_subscribe now, attended_subscribe now, List.not_mem_nil, Along.nil⟩

theorem served_step (hwait : wait < streamUsefulIdleTimeoutMs) (h : s.Served wait)
    (he : s.Prompt wait e) (hstep : s.step parse e = some t) : t.Served wait where
  watched := watched_step h.watched hstep
  attended := attended_step hwait h.watched h.attended he hstep
  receiver := receiverThere_step h.receiver he hstep

theorem Served.supervised (h : s.Served wait) (hwait : wait < streamUsefulIdleTimeoutMs)
    (hdelays : Along DelayFits s.history) : s.Supervised parse wait where
  delays := hdelays
  idle := h.attended.idle
  due last hlast := by
    rw [← (h.watched.last last hlast).1]
    exact h.attended.due hwait hlast
  fires last hlast hdue := by
    rw [← (h.watched.last last hlast).1] at hdue
    exact ⟨_, h.attended.fires hwait hlast hdue, rfl⟩
  stops := h.receiver.2

end LogsFeed

/-- **Supervision of a feed.** In every run in which no send fails and each is over within some time
below 15 seconds, the delays, the watchdog and the subscriptions are as they should be. -/
theorem feedSupervision {α : Type*} {parse : String → Option α} {wait : ℕ} {s u : LogsFeed α}
    {es : List FeedEvent} (hs : (logsFeed parse).init s) (hwait : wait < 15_000)
    (h : (logsFeed parse).Path (LogsFeed.Prompt wait) s es u) : u.Supervised parse wait := by
  obtain ⟨now, rfl⟩ := hs
  have hserved : u.Served wait := h.invariant (I := LogsFeed.Served wait)
    (fun _ _ _ hI he hstep => LogsFeed.served_step hwait hI he hstep)
    (LogsFeed.served_subscribe now)
  exact hserved.supervised hwait (LogsFeed.timely_path h).1

/-! ## Three runs -/

namespace LogsFeed

def pumpLog : LogInfo := ⟨1, false, "sig", ["Program data: AAAA"]⟩

/-- Every line is an event. -/
def parseAny : String → Option Unit := fun _ => some ()

/-- A connection that fails twice, an event that waits for 2 seconds, and then only failed
transactions. -/
def quietStream : List FeedEvent :=
  [.connectFailed 0, .tick 1_000, .wake, .connectFailed 100, .tick 2_100, .wake, .subscribed,
    .message pumpLog, .tick 2_000, .sent, .tick 12_000, .message ⟨2, true, "other", []⟩,
    .tick 1_000, .timedOut, .unsubscribed 0]

def quietNotes : List FeedNote :=
  [.delay 1_000 1_000, .delay 2_000 2_100, .subscribed 3_100, .forwarded 3_100, .delivered 5_100,
    .idle 18_100, .delay 1_000 1_000]

/-- The receiver is gone when the event is sent. -/
def receiverGone : List FeedEvent :=
  [.subscribed, .message pumpLog, .sendFailed, .unsubscribed 0, .tick 1_000, .wake, .subscribed]

def receiverGoneNotes : List FeedNote :=
  [.subscribed 0, .forwarded 0, .receiverDropped, .delay 1_000 1_000, .subscribed 1_000]

/-- The channel is full for 20 seconds. -/
def slowSend : List FeedEvent := [.subscribed, .message pumpLog, .tick 20_000, .sent]

end LogsFeed

theorem feedSupervision_quietStream :
    ∃ u : LogsFeed Unit, u.history = LogsFeed.quietNotes ∧
      u.Supervised LogsFeed.parseAny 2_000 := by
  have hrun : (((logsFeed LogsFeed.parseAny).runUnder (LogsFeed.Prompt 2_000) (.subscribe 0)
      LogsFeed.quietStream).any fun u => u.history == LogsFeed.quietNotes) = true := by
    decide
  obtain ⟨u, hu, hhistory⟩ := (Option.any_eq_true _ _).mp hrun
  exact ⟨u, beq_iff_eq.mp hhistory, feedSupervision ⟨0, rfl⟩ (by decide) (.of_runUnder hu)⟩

/-- The feed goes on without a receiver. -/
theorem receiverGone_resubscribes :
    ∃ u, (logsFeed LogsFeed.parseAny).run (.subscribe 0) LogsFeed.receiverGone = some u ∧
      u.history = LogsFeed.receiverGoneNotes ∧ ∀ wait, ¬ u.Supervised LogsFeed.parseAny wait := by
  have hrun : (((logsFeed LogsFeed.parseAny).run (.subscribe 0) LogsFeed.receiverGone).any fun u =>
      u.history == LogsFeed.receiverGoneNotes) = true := by
    decide
  obtain ⟨u, hu, hhistory⟩ := (Option.any_eq_true _ _).mp hrun
  have hnotes := beq_iff_eq.mp hhistory
  refine ⟨u, hu, hnotes, fun wait h => ?_⟩
  have hstops := h.stops
  rw [hnotes] at hstops
  have hfits := hstops [.subscribed 0, .forwarded 0, .receiverDropped, .delay 1_000 1_000]
    (.subscribed 1_000) (List.prefix_refl _)
  exact absurd hfits (by simp [SubscriptionFits])

/-- The watchdog takes the connection for dead as soon as a slow send is over. -/
example : ((logsFeed LogsFeed.parseAny).run (.subscribe 0) LogsFeed.slowSend).map
    LogsFeed.history = some [.subscribed 0, .forwarded 0, .delivered 20_000, .idle 20_000] := by
  decide

end Loggaper
