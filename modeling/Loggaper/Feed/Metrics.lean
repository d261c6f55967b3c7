import Mathlib.Algebra.Ring.Nat
import Loggaper.Feed.LogsFeed

/-!
# The counters of a feed

The feed counts what it does as it goes: subscriptions and reconnects, messages and what it drops of
them, lines, events and parse errors. The counters are read by the health monitor and the dashboard.
They are `u64` and wrap.

Main result: `metrics_balance`. At every moment of every run the counters are the 64 low bits of
counts that balance.
-/

namespace Loggaper

structure FeedMetrics where
  subscribed : ℕ := 0
  reconnects : ℕ := 0
  idleReconnects : ℕ := 0
  streamErrors : ℕ := 0
  messages : ℕ := 0
  events : ℕ := 0
  parseErrors : ℕ := 0
  errLogs : ℕ := 0
  bytesIn : ℕ := 0
  droppedFailedTx : ℕ := 0
  droppedNoProgramData : ℕ := 0
  droppedSelfDup : ℕ := 0
  linesTotal : ℕ := 0
  linesProgramData : ℕ := 0
  deriving DecidableEq

/-- The lines with program data. -/
def programDataLines (logs : List String) : ℕ :=
  logs.countP fun log => textStartsWith log programDataPrefix

/-- Approximate payload size. -/
def LogInfo.bytes (info : LogInfo) : ℕ :=
  (info.logs.map String.utf8ByteSize).sum + info.signature.utf8ByteSize

namespace FeedMetrics

variable {α : Type*} (m : FeedMetrics)

def noteSubscribed : FeedMetrics := { m with subscribed := wrapU64 (m.subscribed + 1) }

def noteReconnect : FeedMetrics := { m with reconnects := wrapU64 (m.reconnects + 1) }

def noteIdleReconnect : FeedMetrics := { m with idleReconnects := wrapU64 (m.idleReconnects + 1) }

def noteStreamError : FeedMetrics := { m with streamErrors := wrapU64 (m.streamErrors + 1) }

def noteMessage (bytes : ℕ) : FeedMetrics :=
  { m with messages := wrapU64 (m.messages + 1), bytesIn := wrapU64 (m.bytesIn + bytes) }

def noteEvent : FeedMetrics := { m with events := wrapU64 (m.events + 1) }

def noteParseError : FeedMetrics := { m with parseErrors := wrapU64 (m.parseErrors + 1) }

def noteErrLog : FeedMetrics := { m with errLogs := wrapU64 (m.errLogs + 1) }

def noteDroppedFailedTx : FeedMetrics :=
  { m with droppedFailedTx := wrapU64 (m.droppedFailedTx + 1) }

def noteDroppedNoProgramData : FeedMetrics :=
  { m with droppedNoProgramData := wrapU64 (m.droppedNoProgramData + 1) }

def noteDroppedSelfDup : FeedMetrics := { m with droppedSelfDup := wrapU64 (m.droppedSelfDup + 1) }

def addLines (total programData : ℕ) : FeedMetrics :=
  { m with
    linesTotal := wrapU64 (m.linesTotal + total)
    linesProgramData := wrapU64 (m.linesProgramData + programData) }

/-- At the top of the receive loop. -/
def countTop (s : LogsFeed α) (lastEvent : ℕ) : FeedMetrics :=
  if streamUsefulIdleTimeoutMs ≤ s.now - lastEvent then m.noteIdleReconnect else m

/-- Over the lines of a message, up to the next event. -/
def countLogs (parse : String → Option α) (s : LogsFeed α) (lastEvent : ℕ) (m : FeedMetrics) :
    List String → FeedMetrics
  | [] => m.countTop s lastEvent
  | log :: logs =>
    if textStartsWith log programDataPrefix then
      match parse log with
      | some _ => m.noteEvent
      | none => countLogs parse s lastEvent m.noteParseError logs
    else countLogs parse s lastEvent m logs

def countMessage (parse : String → Option α) (s : LogsFeed α) (lastEvent : ℕ) (info : LogInfo) :
    FeedMetrics :=
  let m := m.noteMessage info.bytes
  if info.failed then m.noteErrLog.noteDroppedFailedTx.countTop s lastEvent
  else
    let answer := s.selfDedup.drops info.signature
    let s := { s with selfDedup := answer.2 }
    if answer.1 then m.noteDroppedSelfDup.countTop s lastEvent
    else
      let m := m.addLines info.logs.length (programDataLines info.logs)
      if programDataLines info.logs = 0 then m.noteDroppedNoProgramData.countTop s lastEvent
      else countLogs parse s lastEvent m info.logs

/-- What an event of the feed counts. -/
def count (parse : String → Option α) (s : LogsFeed α) : FeedEvent → FeedMetrics
  | .subscribed => m.noteSubscribed.countTop s s.now
  | .message info =>
    match s.phase with
    | .receiving lastEvent => m.countMessage parse s lastEvent info
    | _ => m
  | .timedOut =>
    match s.phase with
    | .receiving lastEvent => m.countTop s lastEvent
    | _ => m
  | .sent =>
    match s.phase with
    | .sending _ _ logs lastEvent => countLogs parse (s.deliver lastEvent) lastEvent m logs
    | _ => m
  | .connectFailed _ => m.noteReconnect.noteStreamError
  | .unsubscribed _ => m.noteReconnect
  | .tick _ | .streamEnd | .sendFailed | .wake => m

end FeedMetrics

/-- The feed with its counters. -/
def meteredFeed {α : Type*} (parse : String → Option α) :
    Machine (LogsFeed α × FeedMetrics) FeedEvent where
  init s := (logsFeed parse).init s.1 ∧ s.2 = {}
  step s e := (s.1.step parse e).map fun t => (t, s.2.count parse s.1 e)

/-! ## The balance -/

namespace LogsFeed

variable {α : Type*} (s : LogsFeed α)

/-- Subscribed, and not through with it. -/
def connected : ℕ :=
  match s.phase with
  | .receiving _ | .sending .. | .unsubscribing _ => 1
  | .connecting | .sleeping _ => 0

/-- The lines with program data behind the event that is being sent. -/
def linesLeft : ℕ :=
  match s.phase with
  | .sending _ _ logs _ => programDataLines logs
  | _ => 0

end LogsFeed

/-! Kinds of notes. -/

@[simp] def FeedNote.isSubscribed : FeedNote → Bool
  | .subscribed _ => true
  | _ => false

@[simp] def FeedNote.isForwarded : FeedNote → Bool
  | .forwarded _ => true
  | _ => false

@[simp] def FeedNote.isIdle : FeedNote → Bool
  | .idle _ => true
  | _ => false

@[simp] def FeedNote.isDelay : FeedNote → Bool
  | .delay .. => true
  | _ => false

namespace FeedMetrics

/-- The equations between the counts, and with what the feed has done: its history, whether it is
connected, and how many lines with program data are left of the message. -/
structure Tallies (history : List FeedNote) (connected linesLeft : ℕ) (m : FeedMetrics) :
    Prop where
  subscribed : m.subscribed = history.countP FeedNote.isSubscribed
  reconnects : m.reconnects = history.countP FeedNote.isDelay
  idle : m.idleReconnects = history.countP FeedNote.isIdle
  events : m.events = history.countP FeedNote.isForwarded
  failed : m.errLogs = m.droppedFailedTx
  /-- Every subscription and every failure to subscribe ends in a reconnect. -/
  connections : m.subscribed + m.streamErrors = m.reconnects + connected
  /-- A message is dropped for one reason, or it has a line with program data. -/
  dropped : m.droppedFailedTx + m.droppedSelfDup + m.droppedNoProgramData ≤ m.messages
  kept : m.messages ≤ m.droppedFailedTx + m.droppedSelfDup + m.droppedNoProgramData +
    m.linesProgramData
  lines_le : m.events + m.parseErrors + linesLeft ≤ m.linesProgramData
  /-- Only a receiver that is gone loses lines. -/
  lines : FeedNote.receiverDropped ∉ history →
    m.events + m.parseErrors + linesLeft = m.linesProgramData

/-- What 64 bits keep of counts. -/
def wrapped (m : FeedMetrics) : FeedMetrics where
  subscribed := wrapU64 m.subscribed
  reconnects := wrapU64 m.reconnects
  idleReconnects := wrapU64 m.idleReconnects
  streamErrors := wrapU64 m.streamErrors
  messages := wrapU64 m.messages
  events := wrapU64 m.events
  parseErrors := wrapU64 m.parseErrors
  errLogs := wrapU64 m.errLogs
  bytesIn := wrapU64 m.bytesIn
  droppedFailedTx := wrapU64 m.droppedFailedTx
  droppedNoProgramData := wrapU64 m.droppedNoProgramData
  droppedSelfDup := wrapU64 m.droppedSelfDup
  linesTotal := wrapU64 m.linesTotal
  linesProgramData := wrapU64 m.linesProgramData

/-- The counters are what 64 bits keep of counts that balance. -/
def Balanced (history : List FeedNote) (connected linesLeft : ℕ) (m : FeedMetrics) : Prop :=
  ∃ tally : FeedMetrics, m = tally.wrapped ∧ tally.Tallies history connected linesLeft

/-- The counters of a feed balance. -/
def BalancedAt {α : Type*} (s : LogsFeed α) (m : FeedMetrics) : Prop :=
  m.Balanced s.history s.connected s.linesLeft

variable {m : FeedMetrics} {history : List FeedNote} {c l : ℕ}

/-! ### Notes -/

theorem Balanced.noteIdle (h : m.Balanced history c l) (now : ℕ) :
    m.noteIdleReconnect.Balanced (history ++ [.idle now]) c l := by
  obtain ⟨tally, rfl, h⟩ := h
  refine ⟨{ tally with idleReconnects := tally.idleReconnects + 1 },
    by simp [noteIdleReconnect, wrapped], ?_⟩
  exact { h with
    subscribed := by simpa using h.subscribed
    reconnects := by simpa using h.reconnects
    idle := by simpa using h.idle
    events := by simpa using h.events
    lines := fun hkept => h.lines fun hmem => hkept (List.mem_append_left _ hmem) }

theorem Balanced.noteSubscribed (h : m.Balanced history 0 l) (now : ℕ) :
    m.noteSubscribed.Balanced (history ++ [.subscribed now]) 1 l := by
  obtain ⟨tally, rfl, h⟩ := h
  have hconnections := h.connections
  refine ⟨{ tally with subscribed := tally.subscribed + 1 },
    by simp [FeedMetrics.noteSubscribed, wrapped], ?_⟩
  exact { h with
    subscribed := by simpa using h.subscribed
    reconnects := by simpa using h.reconnects
    idle := by simpa using h.idle
    events := by simpa using h.events
    connections := by dsimp only; omega
    lines := fun hkept => h.lines fun hmem => hkept (List.mem_append_left _ hmem) }

/-- The next event of a message. -/
theorem Balanced.noteEvent (h : m.Balanced history c (l + 1)) (now : ℕ) :
    m.noteEvent.Balanced (history ++ [.forwarded now]) c l := by
  obtain ⟨tally, rfl, h⟩ := h
  have hle := h.lines_le
  refine ⟨{ tally with events := tally.events + 1 }, by simp [FeedMetrics.noteEvent, wrapped], ?_⟩
  exact { h with
    subscribed := by simpa using h.subscribed
    reconnects := by simpa using h.reconnects
    idle := by simpa using h.idle
    events := by simpa using h.events
    lines_le := by dsimp only; omega
    lines := by
      intro hkept
      have hlines := h.lines fun hmem => hkept (List.mem_append_left _ hmem)
      dsimp only
      omega }

/-- The connection is over, by any way. -/
theorem Balanced.noteReconnect (h : m.Balanced history 1 l) (backoffMs sleepMs : ℕ) :
    m.noteReconnect.Balanced (history ++ [.delay backoffMs sleepMs]) 0 l := by
  obtain ⟨tally, rfl, h⟩ := h
  have hconnections := h.connections
  refine ⟨{ tally with reconnects := tally.reconnects + 1 },
    by simp [FeedMetrics.noteReconnect, wrapped], ?_⟩
  exact { h with
    subscribed := by simpa using h.subscribed
    reconnects := by simpa using h.reconnects
    idle := by simpa using h.idle
    events := by simpa using h.events
    connections := by dsimp only; omega
    lines := fun hkept => h.lines fun hmem => hkept (List.mem_append_left _ hmem) }

/-- A failure to subscribe is a connection that is over at once. -/
theorem Balanced.noteStreamError (h : m.Balanced history 0 l) :
    m.noteStreamError.Balanced history 1 l := by
  obtain ⟨tally, rfl, h⟩ := h
  have hconnections := h.connections
  refine ⟨{ tally with streamErrors := tally.streamErrors + 1 },
    by simp [FeedMetrics.noteStreamError, wrapped], ?_⟩
  exact { h with connections := by dsimp only; omega }

/-- The send was counted when it began. -/
theorem Balanced.delivered (h : m.Balanced history c l) (now : ℕ) :
    m.Balanced (history ++ [.delivered now]) c l := by
  obtain ⟨tally, rfl, h⟩ := h
  refine ⟨tally, rfl, ?_⟩
  exact { h with
    subscribed := by simpa using h.subscribed
    reconnects := by simpa using h.reconnects
    idle := by simpa using h.idle
    events := by simpa using h.events
    lines := fun hkept => h.lines fun hmem => hkept (List.mem_append_left _ hmem) }

/-- The lines that are left are lost with the receiver. -/
theorem Balanced.receiverDropped (h : m.Balanced history c l) :
    m.Balanced (history ++ [.receiverDropped]) c 0 := by
  obtain ⟨tally, rfl, h⟩ := h
  have hle := h.lines_le
  refine ⟨tally, rfl, ?_⟩
  exact { h with
    subscribed := by simpa using h.subscribed
    reconnects := by simpa using h.reconnects
    idle := by simpa using h.idle
    events := by simpa using h.events
    lines_le := by omega
    lines := fun hkept => absurd (List.mem_append_right _ (List.mem_singleton_self _)) hkept }

theorem Balanced.noteParseError (h : m.Balanced history c (l + 1)) :
    m.noteParseError.Balanced history c l := by
  obtain ⟨tally, rfl, h⟩ := h
  have hle := h.lines_le
  refine ⟨{ tally with parseErrors := tally.parseErrors + 1 },
    by simp [FeedMetrics.noteParseError, wrapped], ?_⟩
  exact { h with
    lines_le := by dsimp only; omega
    lines := by
      intro hkept
      have hlines := h.lines hkept
      dsimp only
      omega }

/-! ### Messages -/

/-- A message of a failed transaction. -/
theorem Balanced.droppedFailedTx (h : m.Balanced history c l) (bytes : ℕ) :
    (m.noteMessage bytes).noteErrLog.noteDroppedFailedTx.Balanced history c l := by
  obtain ⟨tally, rfl, h⟩ := h
  have hdropped := h.dropped
  have hkept := h.kept
  refine ⟨{ tally with
      messages := tally.messages + 1
      bytesIn := tally.bytesIn + bytes
      errLogs := tally.errLogs + 1
      droppedFailedTx := tally.droppedFailedTx + 1 },
    by simp [noteMessage, noteErrLog, noteDroppedFailedTx, wrapped], ?_⟩
  exact { h with
    failed := congrArg (· + 1) h.failed
    dropped := by dsimp only; omega
    kept := by dsimp only; omega }

/-- A message that has come before. -/
theorem Balanced.droppedSelfDup (h : m.Balanced history c l) (bytes : ℕ) :
    (m.noteMessage bytes).noteDroppedSelfDup.Balanced history c l := by
  obtain ⟨tally, rfl, h⟩ := h
  have hdropped := h.dropped
  have hkept := h.kept
  refine ⟨{ tally with
      messages := tally.messages + 1
      bytesIn := tally.bytesIn + bytes
      droppedSelfDup := tally.droppedSelfDup + 1 },
    by simp [noteMessage, noteDroppedSelfDup, wrapped], ?_⟩
  exact { h with
    dropped := by dsimp only; omega
    kept := by dsimp only; omega }

/-- A message without program data. -/
theorem Balanced.droppedNoProgramData (h : m.Balanced history c l) (bytes total : ℕ) :
    ((m.noteMessage bytes).addLines total 0).noteDroppedNoProgramData.Balanced history c l := by
  obtain ⟨tally, rfl, h⟩ := h
  have hdropped := h.dropped
  have hkept := h.kept
  refine ⟨{ tally with
      messages := tally.messages + 1
      bytesIn := tally.bytesIn + bytes
      droppedNoProgramData := tally.droppedNoProgramData + 1
      linesTotal := tally.linesTotal + total },
    by simp [noteMessage, addLines, noteDroppedNoProgramData, wrapped], ?_⟩
  exact { h with
    dropped := by dsimp only; omega
    kept := by dsimp only; omega }

/-- A message with this many lines of program data. -/
theorem Balanced.addLines (h : m.Balanced history c 0) (bytes total : ℕ) {programData : ℕ}
    (hsome : programData ≠ 0) :
    ((m.noteMessage bytes).addLines total programData).Balanced history c programData := by
  obtain ⟨tally, rfl, h⟩ := h
  have hdropped := h.dropped
  have hkept := h.kept
  have hle := h.lines_le
  refine ⟨{ tally with
      messages := tally.messages + 1
      bytesIn := tally.bytesIn + bytes
      linesTotal := tally.linesTotal + total
      linesProgramData := tally.linesProgramData + programData },
    by simp [noteMessage, FeedMetrics.addLines, wrapped], ?_⟩
  exact { h with
    dropped := by dsimp only; omega
    kept := by dsimp only; omega
    lines_le := by dsimp only; omega
    lines := by
      intro hreceiver
      have heq := h.lines hreceiver
      dsimp only
      omega }

/-! ### The receive loop -/

variable {α : Type*} {parse : String → Option α} {s t : LogsFeed α}

theorem Balanced.top (h : m.Balanced s.history 1 0) (last : ℕ) :
    (m.countTop s last).BalancedAt (s.loopTop last) := by
  unfold countTop LogsFeed.loopTop
  split_ifs
  · exact h.noteIdle s.now
  · exact h

theorem programDataLines_cons (log : String) (logs : List String) :
    programDataLines (log :: logs) =
      programDataLines logs + if textStartsWith log programDataPrefix then 1 else 0 :=
  List.countP_cons

theorem Balanced.logs {logs : List String} (h : m.Balanced s.history 1 (programDataLines logs))
    (slot : Slot) (last : ℕ) :
    (countLogs parse s last m logs).BalancedAt (s.handleLogs parse slot last logs) := by
  induction logs generalizing m with
  | nil => exact h.top last
  | cons log logs ih =>
    rw [programDataLines_cons] at h
    rw [countLogs, LogsFeed.handleLogs]
    split_ifs at h ⊢ with hprefix
    · cases parse log with
      | some event => exact h.noteEvent s.now
      | none => exact ih h.noteParseError
    · exact ih h

theorem Balanced.message (h : m.Balanced s.history 1 0) (last : ℕ) (info : LogInfo) :
    (m.countMessage parse s last info).BalancedAt (s.handleMessage parse last info) := by
  have hlines : (info.logs.filter (textStartsWith · programDataPrefix)).length =
      programDataLines info.logs := List.countP_eq_length_filter.symm
  unfold countMessage LogsFeed.handleMessage
  rw [hlines]
  by_cases hfailed : info.failed = true
  · rw [if_pos hfailed, if_pos hfailed]
    exact (h.droppedFailedTx info.bytes).top last
  · rw [if_neg hfailed, if_neg hfailed]
    dsimp only
    split_ifs with hdup hnone
    · refine Balanced.top ?_ last
      exact h.droppedSelfDup info.bytes
    · rw [hnone]
      refine Balanced.top ?_ last
      exact h.droppedNoProgramData info.bytes info.logs.length
    · refine Balanced.logs ?_ info.slot last
      exact h.addLines info.bytes info.logs.length hnone

theorem balanced_step {e : FeedEvent} (hbalanced : m.BalancedAt s) (h : s.step parse e = some t) :
    (m.count parse s e).BalancedAt t := by
  unfold BalancedAt at hbalanced
  cases LogsFeed.awaited_of_step h with
  | tick => exact hbalanced
  | connectFailed hphase =>
    simp only [LogsFeed.connected, LogsFeed.linesLeft, hphase] at hbalanced
    exact hbalanced.noteStreamError.noteReconnect _ _
  | subscribed hphase =>
    simp only [LogsFeed.connected, LogsFeed.linesLeft, hphase] at hbalanced
    exact Balanced.top (hbalanced.noteSubscribed s.now) s.now
  | message hphase =>
    simp only [LogsFeed.connected, LogsFeed.linesLeft, hphase] at hbalanced
    rw [count, hphase]
    exact hbalanced.message _ _
  | streamEnd hphase =>
    simp only [LogsFeed.connected, LogsFeed.linesLeft, hphase] at hbalanced
    exact hbalanced
  | timedOut hphase =>
    simp only [LogsFeed.connected, LogsFeed.linesLeft, hphase] at hbalanced
    rw [count, hphase]
    exact hbalanced.top _
  | @sent slot event logs last hphase =>
    simp only [LogsFeed.connected, LogsFeed.linesLeft, hphase] at hbalanced
    rw [count, hphase]
    have hdelivered : m.Balanced (s.deliver last).history 1 (programDataLines logs) :=
      hbalanced.delivered s.now
    exact hdelivered.logs slot last
  | sendFailed hphase =>
    simp only [LogsFeed.connected, LogsFeed.linesLeft, hphase] at hbalanced
    exact hbalanced.receiverDropped
  | unsubscribed hphase =>
    simp only [LogsFeed.connected, LogsFeed.linesLeft, hphase] at hbalanced
    exact hbalanced.noteReconnect _ _
  | wake hphase =>
    simp only [LogsFeed.connected, LogsFeed.linesLeft, hphase] at hbalanced
    exact hbalanced

end FeedMetrics

/-- A repeated message, then the receiver goes with a line left. -/
def meteredStream : List FeedEvent :=
  [.subscribed, .message LogsFeed.pumpLog, .sent, .message LogsFeed.pumpLog,
    .message ⟨2, false, "second", ["Program log: ok", "Program data: AA", "Program data: AB"]⟩,
    .sendFailed, .unsubscribed 0]

end Loggaper
