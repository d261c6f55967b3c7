import Mathlib.Data.List.Basic
import Mathlib.Data.Rat.Defs
import Mathlib.Algebra.Order.Ring.Unbundled.Rat
import Loggaper.Lib.Transition

/-!
# The write queue

Producers send rows to a bounded channel and never wait: what does not fit is dropped and counted.
One worker collects what it receives and writes it in batches, when a batch is full, when its timer
runs out, and once more when all senders are gone. The state below also remembers what the channel
has accepted and what has been handed to `flush_batch`.

- `accounted_of_reachable`: where each operation is, on every run.
- `work_run`: how long the worker can go on by itself.
- `conserves_of_reachable`: nothing accepted is lost or written twice, and the counters add up.
-/

namespace Loggaper

/-! ## Rows of the tape -/

def mcapAbsMax : ℚ := 200000

def mcapValid (mcap : ℚ) : Bool := 0 < mcap && mcap ≤ mcapAbsMax

structure TapeRow where
  coinAddress : String
  tsUnix : ℤ
  mcapSol : ℚ
  source : String
  deriving DecidableEq

/-- A row at this time, if the market cap is valid. -/
def tapeRow (tsUnix : ℤ) (coinAddress : String) (mcapSol : ℚ) (source : String) :
    Option TapeRow :=
  if mcapValid mcapSol then some { coinAddress, tsUnix, mcapSol, source } else none

/-! ## Producers, channel and worker -/

def channelCap : ℕ := 32768

def flushMaxOps : ℕ := 64

inductive WriteOp (ε : Type*)
  | tape (coin : String) (mcapSol : ℚ) (source : String)
  | trade (entry : ε)

structure WriteQueueMetrics where
  enqueued : UInt64 := 0
  dropped : UInt64 := 0
  flushedOps : UInt64 := 0
  flushBatches : UInt64 := 0

/-- Where the worker is. `last` says that it returns after this flush. -/
inductive Worker (ε : Type*)
  | receiving
  /-- In `flush_batch`, with the operations still to be counted. -/
  | counting (last : Bool)
  /-- The operations are counted and still in the buffer. -/
  | draining (last : Bool)
  | recording (rows : List TapeRow) (trades : List ε) (last : Bool)
  | saving (trades : List ε) (last : Bool)
  | stopped

structure WriteQueue (ε : Type*) where
  metrics : WriteQueueMetrics
  /-- Calls that have counted their operation and not sent it. -/
  entering : List (WriteOp ε)
  /-- Calls that the channel has refused and that have not counted that. -/
  refused : ℕ
  channel : List (WriteOp ε)
  /-- All senders are gone. -/
  closed : Bool
  buf : List (WriteOp ε)
  worker : Worker ε
  /-- What the channel has accepted. -/
  accepted : List (WriteOp ε)
  /-- The batches handed to `flush_batch`. -/
  handed : List (List (WriteOp ε))
  /-- The batches given to `record_batch`. -/
  recorded : List (List TapeRow)
  /-- The trades given to `save_trade`. -/
  saved : List ε

inductive QueueEvent (ε : Type*)
  /-- A call counts its operation. -/
  | enqueue (op : WriteOp ε)
  /-- A call sends it, or is refused. -/
  | trySend (i : ℕ)
  /-- A refused call counts that. -/
  | drop
  /-- The last sender goes. -/
  | close
  | recv
  /-- `recv` returns `None`. -/
  | recvNone
  | deadline
  | count
  /-- The buffer is split by kind; each operation reads the clock. -/
  | drain (clock : ℕ → ℤ)
  | record
  | save

namespace WriteQueue

variable {ε : Type*}

/-- Call `flush_batch`. -/
def flushBatch (s : WriteQueue ε) (last : Bool) : WriteQueue ε :=
  { s with
    metrics.flushBatches := s.metrics.flushBatches + 1
    worker := .counting last
    handed := s.handed ++ [s.buf] }

/-- `buf.drain(..)`: the valid rows of the tape and the trades. -/
def split (clock : ℕ → ℤ) : ℕ → List (WriteOp ε) → List TapeRow × List ε
  | _, [] => ([], [])
  | i, .tape coin mcapSol source :: ops =>
    let rest := split clock (i + 1) ops
    ((tapeRow (clock i) coin mcapSol source).toList ++ rest.1, rest.2)
  | i, .trade entry :: ops =>
    let rest := split clock (i + 1) ops
    (rest.1, entry :: rest.2)

def step (s : WriteQueue ε) : QueueEvent ε → Option (WriteQueue ε)
  | .enqueue op =>
    if s.closed then none
    else some { s with
      metrics.enqueued := s.metrics.enqueued + 1
      entering := s.entering ++ [op] }
  | .trySend i =>
    s.entering[i]?.map fun op =>
      let s := { s with entering := s.entering.eraseIdx i }
      if s.channel.length < channelCap then
        { s with channel := s.channel ++ [op], accepted := s.accepted ++ [op] }
      else { s with refused := s.refused + 1 }
  | .drop =>
    if s.refused = 0 then none
    else some { s with
      metrics.dropped := s.metrics.dropped + 1
      refused := s.refused - 1 }
  | .close =>
    -- A call in progress holds a sender.
    if !s.closed && s.entering.isEmpty && s.refused == 0 then some { s with closed := true }
    else none
  | .recv =>
    match s.worker, s.channel with
    | .receiving, op :: channel =>
      let s := { s with channel := channel, buf := s.buf ++ [op] }
      some (if s.buf.length ≥ flushMaxOps then s.flushBatch false else s)
    | _, _ => none
  | .recvNone =>
    match s.worker, s.channel, s.closed with
    | .receiving, [], true =>
      some (if s.buf.isEmpty then { s with worker := .stopped } else s.flushBatch true)
    | _, _, _ => none
  | .deadline =>
    match s.worker with
    | .receiving => some (if s.buf.isEmpty then s else s.flushBatch false)
    | _ => none
  | .count =>
    match s.worker with
    | .counting last => some { s with
        metrics.flushedOps := s.metrics.flushedOps + UInt64.ofNat s.buf.length
        worker := .draining last }
    | _ => none
  | .drain clock =>
    match s.worker with
    | .draining last =>
      let parts := split clock 0 s.buf
      some { s with buf := [], worker := .recording parts.1 parts.2 last }
    | _ => none
  | .record =>
    match s.worker with
    | .recording rows trades last => some { s with
        recorded := if rows.isEmpty then s.recorded else s.recorded ++ [rows]
        worker := .saving trades last }
    | _ => none
  | .save =>
    match s.worker with
    | .saving (entry :: trades) last =>
      some { s with saved := s.saved ++ [entry], worker := .saving trades last }
    | .saving [] last =>
      some { s with worker := if last then .stopped else .receiving }
    | _ => none

/-- `spawn`. -/
def spawn : WriteQueue ε where
  metrics := {}
  entering := []
  refused := 0
  channel := []
  closed := false
  buf := []
  worker := .receiving
  accepted := []
  handed := []
  recorded := []
  saved := []

end WriteQueue

/-- The queue under all interleavings of its producers and its worker. -/
def writeQueue (ε : Type*) : Machine (WriteQueue ε) (QueueEvent ε) where
  init s := s = .spawn
  step := WriteQueue.step

namespace WriteOp

variable {ε : Type*}

def trade? : WriteOp ε → Option ε
  | .tape .. => none
  | .trade entry => some entry

/-- What a valid tape operation puts on the tape, whenever it is written. -/
def sample? : WriteOp ε → Option (String × ℚ × String)
  | .tape coin mcapSol source => if mcapValid mcapSol then some (coin, mcapSol, source) else none
  | .trade _ => none

end WriteOp

namespace Worker

variable {ε : Type*}

/-- The worker will not receive any more. -/
def returns : Worker ε → Prop
  | .counting last | .draining last | .recording _ _ last | .saving _ last => last = true
  | .receiving => False
  | .stopped => True

/-- The buffer has been drained. -/
def drained : Worker ε → Prop
  | .recording .. | .saving .. | .stopped => True
  | _ => False

end Worker

/-- A row without its time. -/
def TapeRow.sample (row : TapeRow) : String × ℚ × String :=
  (row.coinAddress, row.mcapSol, row.source)

namespace WriteQueue

variable {ε : Type*} {s t : WriteQueue ε}

/-! ## What an event does -/

inductive Move (s : WriteQueue ε) : QueueEvent ε → WriteQueue ε → Prop
  | enqueue (op : WriteOp ε) (hopen : s.closed = false) :
      Move s (.enqueue op) { s with
        metrics.enqueued := s.metrics.enqueued + 1
        entering := s.entering ++ [op] }
  | send {i : ℕ} {op : WriteOp ε} (hop : s.entering[i]? = some op)
      (hroom : s.channel.length < channelCap) :
      Move s (.trySend i) { s with
        entering := s.entering.eraseIdx i
        channel := s.channel ++ [op]
        accepted := s.accepted ++ [op] }
  | refuse {i : ℕ} {op : WriteOp ε} (hop : s.entering[i]? = some op)
      (hfull : ¬ s.channel.length < channelCap) :
      Move s (.trySend i) { s with
        entering := s.entering.eraseIdx i
        refused := s.refused + 1 }
  | drop (hrefused : s.refused ≠ 0) :
      Move s .drop { s with
        metrics.dropped := s.metrics.dropped + 1
        refused := s.refused - 1 }
  | close (hentering : s.entering = []) (hrefused : s.refused = 0) :
      Move s .close { s with closed := true }
  | recv {op : WriteOp ε} {channel : List (WriteOp ε)} (hworker : s.worker = .receiving)
      (hchannel : s.channel = op :: channel) (hroom : (s.buf ++ [op]).length < flushMaxOps) :
      Move s .recv { s with channel := channel, buf := s.buf ++ [op] }
  | recvFull {op : WriteOp ε} {channel : List (WriteOp ε)} (hworker : s.worker = .receiving)
      (hchannel : s.channel = op :: channel) :
      Move s .recv
        (({ s with channel := channel, buf := s.buf ++ [op] } : WriteQueue ε).flushBatch false)
  | stop (hworker : s.worker = .receiving) (hchannel : s.channel = []) (hclosed : s.closed = true)
      (hbuf : s.buf = []) : Move s .recvNone { s with worker := .stopped }
  | flushLast (hworker : s.worker = .receiving) (hchannel : s.channel = [])
      (hclosed : s.closed = true) (hbuf : s.buf ≠ []) : Move s .recvNone (s.flushBatch true)
  | wait (hworker : s.worker = .receiving) (hbuf : s.buf = []) : Move s .deadline s
  | flush (hworker : s.worker = .receiving) (hbuf : s.buf ≠ []) :
      Move s .deadline (s.flushBatch false)
  | count {last : Bool} (hworker : s.worker = .counting last) :
      Move s .count { s with
        metrics.flushedOps := s.metrics.flushedOps + UInt64.ofNat s.buf.length
        worker := .draining last }
  | drain {last : Bool} (clock : ℕ → ℤ) (hworker : s.worker = .draining last) :
      Move s (.drain clock) { s with
        buf := []
        worker := .recording (split clock 0 s.buf).1 (split clock 0 s.buf).2 last }
  | record {rows : List TapeRow} {trades : List ε} {last : Bool}
      (hworker : s.worker = .recording rows trades last) :
      Move s .record { s with
        recorded := if rows.isEmpty then s.recorded else s.recorded ++ [rows]
        worker := .saving trades last }
  | save {entry : ε} {trades : List ε} {last : Bool}
      (hworker : s.worker = .saving (entry :: trades) last) :
      Move s .save { s with saved := s.saved ++ [entry], worker := .saving trades last }
  | finish {last : Bool} (hworker : s.worker = .saving [] last) :
      Move s .save { s with worker := if last then .stopped else .receiving }

theorem move_of_step {e : QueueEvent ε} (he : s.step e = some t) : s.Move e t := by
  cases e with
  | enqueue op =>
    simp only [WriteQueue.step] at he
    split_ifs at he with hclosed
    cases he
    exact .enqueue op (by simpa using hclosed)
  | trySend i =>
    simp only [WriteQueue.step, Option.map_eq_some_iff] at he
    obtain ⟨op, hop, rfl⟩ := he
    split_ifs with hroom
    · exact .send hop hroom
    · exact .refuse hop hroom
  | drop =>
    simp only [WriteQueue.step] at he
    split_ifs at he with hrefused
    cases he
    exact .drop hrefused
  | close =>
    simp only [WriteQueue.step] at he
    split_ifs at he with hquiet
    cases he
    simp only [Bool.and_eq_true, List.isEmpty_iff, beq_iff_eq] at hquiet
    exact .close hquiet.1.2 hquiet.2
  | recv =>
    simp only [WriteQueue.step] at he
    split at he
    case h_1 op channel hworker hchannel =>
      cases he
      split_ifs with hfull
      · exact .recvFull hworker hchannel
      · exact .recv hworker hchannel (not_le.mp hfull)
    case h_2 => cases he
  | recvNone =>
    simp only [WriteQueue.step] at he
    split at he
    case h_1 hworker hchannel hclosed =>
      cases he
      split_ifs with hbuf
      · exact .stop hworker hchannel hclosed (List.isEmpty_iff.mp hbuf)
      · exact .flushLast hworker hchannel hclosed (by simpa using hbuf)
    case h_2 => cases he
  | deadline =>
    simp only [WriteQueue.step] at he
    split at he
    case h_1 hworker =>
      cases he
      split_ifs with hbuf
      · exact .wait hworker (List.isEmpty_iff.mp hbuf)
      · exact .flush hworker (by simpa using hbuf)
    case h_2 => cases he
  | count =>
    simp only [WriteQueue.step] at he
    split at he
    case h_1 last hworker =>
      cases he
      exact .count hworker
    case h_2 => cases he
  | drain clock =>
    simp only [WriteQueue.step] at he
    split at he
    case h_1 last hworker =>
      cases he
      exact .drain clock hworker
    case h_2 => cases he
  | record =>
    simp only [WriteQueue.step] at he
    split at he
    case h_1 rows trades last hworker =>
      cases he
      exact .record hworker
    case h_2 => cases he
  | save =>
    simp only [WriteQueue.step] at he
    split at he
    case h_1 entry trades last hworker =>
      cases he
      exact .save hworker
    case h_2 last hworker =>
      cases he
      exact .finish hworker
    case h_3 => cases he

/-! ## Where each operation is -/

/-- The operations of the buffer that are still to be handed on. -/
def unhanded (s : WriteQueue ε) : List (WriteOp ε) :=
  match s.worker with
  | .counting _ | .draining _ => []
  | _ => s.buf

/-- The number of operations of the buffer that are still to be counted. -/
def uncounted (s : WriteQueue ε) : ℕ :=
  match s.worker with
  | .draining _ => 0
  | _ => s.buf.length

/-- The trades of the batch in hand. -/
def unsaved (s : WriteQueue ε) : List ε :=
  match s.worker with
  | .counting _ | .draining _ => s.buf.filterMap WriteOp.trade?
  | .recording _ trades _ | .saving trades _ => trades
  | _ => []

/-- The samples of the batch in hand. -/
def unrecorded (s : WriteQueue ε) : List (String × ℚ × String) :=
  match s.worker with
  | .counting _ | .draining _ => s.buf.filterMap WriteOp.sample?
  | .recording rows _ _ => rows.map TapeRow.sample
  | _ => []

/-- Each operation is where it should be, and counted as that. -/
structure Accounted (s : WriteQueue ε) : Prop where
  accepted : s.accepted = s.handed.flatten ++ s.unhanded ++ s.channel
  batches : ∀ batch ∈ s.handed, 1 ≤ batch.length ∧ batch.length ≤ flushMaxOps
  trades : s.saved ++ s.unsaved = s.handed.flatten.filterMap WriteOp.trade?
  tape : s.recorded.flatten.map TapeRow.sample ++ s.unrecorded =
    s.handed.flatten.filterMap WriteOp.sample?
  counters : s.metrics.enqueued = s.metrics.dropped + s.metrics.flushedOps +
    UInt64.ofNat (s.channel.length + s.uncounted + s.entering.length + s.refused)
  buf_le : s.buf.length ≤ flushMaxOps
  emptied : s.worker.drained → s.buf = []
  returning : s.worker.returns → s.closed = true ∧ s.channel = []
  closed : s.closed = true → s.entering = [] ∧ s.refused = 0

/-- A receiving worker has room for one more. -/
def Room (s : WriteQueue ε) : Prop := s.worker = .receiving → s.buf.length < flushMaxOps

theorem accounted_spawn : (spawn : WriteQueue ε).Accounted where
  accepted := rfl
  batches := nofun
  trades := rfl
  tape := rfl
  counters := rfl
  buf_le := Nat.zero_le _
  emptied := nofun
  returning := nofun
  closed := nofun

theorem length_of_getElem? {entering : List (WriteOp ε)} {i : ℕ} {op : WriteOp ε}
    (h : entering[i]? = some op) : entering.length = (entering.eraseIdx i).length + 1 := by
  obtain ⟨hi, -⟩ := List.getElem?_eq_some_iff.mp h
  rw [List.length_eraseIdx_of_lt hi]
  omega

theorem Accounted.enqueue (h : s.Accounted) (hopen : s.closed = false) (op : WriteOp ε) :
    Accounted { s with
      metrics.enqueued := s.metrics.enqueued + 1
      entering := s.entering ++ [op] } where
  accepted := h.accepted
  batches := h.batches
  trades := h.trades
  tape := h.tape
  counters := by
    have hc := h.counters
    simp only [List.length_append, List.length_singleton, uncounted] at hc ⊢
    rw [hc]
    simp only [UInt64.ofNat_add]
    grind
  buf_le := h.buf_le
  emptied := h.emptied
  returning := h.returning
  closed hc := absurd hc (by simp [hopen])

theorem Accounted.send (h : s.Accounted) {i : ℕ} {op : WriteOp ε}
    (hop : s.entering[i]? = some op) :
    Accounted { s with
      entering := s.entering.eraseIdx i
      channel := s.channel ++ [op]
      accepted := s.accepted ++ [op] } where
  accepted := by
    show s.accepted ++ [op] = s.handed.flatten ++ s.unhanded ++ (s.channel ++ [op])
    rw [h.accepted, List.append_assoc]
  batches := h.batches
  trades := h.trades
  tape := h.tape
  counters := by
    rw [show (s.channel ++ [op]).length + uncounted _ + (s.entering.eraseIdx i).length +
      s.refused = s.channel.length + s.uncounted + s.entering.length + s.refused by
        rw [List.length_append, length_of_getElem? hop]
        simp only [uncounted, List.length_singleton]
        omega]
    exact h.counters
  buf_le := h.buf_le
  emptied := h.emptied
  returning hr := by
    have hclosed := h.closed (h.returning hr).1
    rw [hclosed.1] at hop
    cases hop
  closed hc := by
    rw [(h.closed hc).1] at hop
    cases hop

theorem Accounted.refuse (h : s.Accounted) {i : ℕ} {op : WriteOp ε}
    (hop : s.entering[i]? = some op) :
    Accounted { s with entering := s.entering.eraseIdx i, refused := s.refused + 1 } where
  accepted := h.accepted
  batches := h.batches
  trades := h.trades
  tape := h.tape
  counters := by
    rw [show s.channel.length + uncounted _ + (s.entering.eraseIdx i).length + (s.refused + 1) =
      s.channel.length + s.uncounted + s.entering.length + s.refused by
        rw [length_of_getElem? hop]
        simp only [uncounted]
        omega]
    exact h.counters
  buf_le := h.buf_le
  emptied := h.emptied
  returning := h.returning
  closed hc := by
    rw [(h.closed hc).1] at hop
    cases hop

theorem Accounted.drop (h : s.Accounted) (hrefused : s.refused ≠ 0) :
    Accounted { s with
      metrics.dropped := s.metrics.dropped + 1
      refused := s.refused - 1 } where
  accepted := h.accepted
  batches := h.batches
  trades := h.trades
  tape := h.tape
  counters := by
    have hc := h.counters
    obtain ⟨n, hn⟩ := Nat.exists_eq_succ_of_ne_zero hrefused
    simp only [uncounted, hn, Nat.succ_eq_add_one, Nat.add_sub_cancel] at hc ⊢
    rw [hc]
    simp only [UInt64.ofNat_add]
    grind
  buf_le := h.buf_le
  emptied := h.emptied
  returning := h.returning
  closed hc := absurd (h.closed hc).2 hrefused

theorem Accounted.close (h : s.Accounted) (hentering : s.entering = []) (hrefused : s.refused = 0) :
    Accounted { s with closed := true } where
  accepted := h.accepted
  batches := h.batches
  trades := h.trades
  tape := h.tape
  counters := h.counters
  buf_le := h.buf_le
  emptied := h.emptied
  returning hr := ⟨rfl, (h.returning hr).2⟩
  closed _ := ⟨hentering, hrefused⟩

theorem Accounted.receive (h : s.Accounted) (hworker : s.worker = .receiving) (hroom : s.Room)
    {op : WriteOp ε} {channel : List (WriteOp ε)} (hchannel : s.channel = op :: channel) :
    Accounted { s with channel := channel, buf := s.buf ++ [op] } where
  accepted := by
    have ha := h.accepted
    simp only [unhanded, hworker] at ha ⊢
    rw [ha, hchannel]
    simp
  batches := h.batches
  trades := by
    have ht := h.trades
    simp only [unsaved, hworker] at ht ⊢
    exact ht
  tape := by
    have ht := h.tape
    simp only [unrecorded, hworker] at ht ⊢
    exact ht
  counters := by
    have hc := h.counters
    simp only [uncounted, hworker, hchannel, List.length_append, List.length_cons,
      List.length_nil] at hc ⊢
    rw [hc]
    congr 2
    omega
  buf_le := by
    rw [List.length_append, List.length_singleton]
    exact hroom hworker
  emptied hd := by
    rw [show Worker.drained _ = s.worker.drained from rfl, hworker] at hd
    cases hd
  returning hr := by
    rw [show Worker.returns _ = s.worker.returns from rfl, hworker] at hr
    cases hr
  closed := h.closed

/-- A call of `flush_batch`. -/
theorem Accounted.flushBatch (h : s.Accounted) (hworker : s.worker = .receiving)
    (hbuf : s.buf ≠ []) {last : Bool} (hlast : last = true → s.closed = true ∧ s.channel = []) :
    (s.flushBatch last).Accounted where
  accepted := by
    have ha := h.accepted
    simp only [unhanded, hworker] at ha
    simp only [WriteQueue.flushBatch, unhanded, ha, List.flatten_append, List.flatten_singleton,
      List.append_nil]
  batches batch hmem := by
    rcases List.mem_append.mp hmem with hmem | hmem
    · exact h.batches batch hmem
    · obtain rfl : batch = s.buf := List.mem_singleton.mp hmem
      exact ⟨List.length_pos_of_ne_nil hbuf, h.buf_le⟩
  trades := by
    have ht := h.trades
    simp only [unsaved, hworker, List.append_nil] at ht
    simp only [WriteQueue.flushBatch, unsaved, ht, List.flatten_append, List.flatten_singleton,
      List.filterMap_append]
  tape := by
    have ht := h.tape
    simp only [unrecorded, hworker, List.append_nil] at ht
    simp only [WriteQueue.flushBatch, unrecorded, ht, List.flatten_append, List.flatten_singleton,
      List.filterMap_append]
  counters := by
    have hc := h.counters
    simp only [uncounted, hworker] at hc
    exact hc
  buf_le := h.buf_le
  emptied := nofun
  returning := hlast
  closed := h.closed

theorem Accounted.count (h : s.Accounted) {last : Bool} (hworker : s.worker = .counting last) :
    Accounted { s with
      metrics.flushedOps := s.metrics.flushedOps + UInt64.ofNat s.buf.length
      worker := .draining last } where
  accepted := by
    have ha := h.accepted
    simp only [unhanded, hworker] at ha
    exact ha
  batches := h.batches
  trades := by
    have ht := h.trades
    simp only [unsaved, hworker] at ht
    exact ht
  tape := by
    have ht := h.tape
    simp only [unrecorded, hworker] at ht
    exact ht
  counters := by
    have hc := h.counters
    simp only [uncounted, hworker] at hc ⊢
    rw [hc]
    simp only [UInt64.ofNat_add]
    grind
  buf_le := h.buf_le
  emptied := nofun
  returning hr := h.returning (by rw [hworker]; exact hr)
  closed := h.closed

theorem split_trades (clock : ℕ → ℤ) (i : ℕ) (ops : List (WriteOp ε)) :
    (split clock i ops).2 = ops.filterMap WriteOp.trade? := by
  induction ops generalizing i with
  | nil => rfl
  | cons op ops ih =>
    cases op with
    | tape coin mcapSol source => exact ih (i + 1)
    | trade entry => exact congrArg (entry :: ·) (ih (i + 1))

theorem split_rows (clock : ℕ → ℤ) (i : ℕ) (ops : List (WriteOp ε)) :
    (split clock i ops).1.map TapeRow.sample = ops.filterMap WriteOp.sample? := by
  induction ops generalizing i with
  | nil => rfl
  | cons op ops ih =>
    cases op with
    | tape coin mcapSol source =>
      simp only [split, List.map_append, ih, List.filterMap_cons, WriteOp.sample?, tapeRow]
      split_ifs <;> rfl
    | trade entry => exact ih (i + 1)

theorem Accounted.drain (h : s.Accounted) {last : Bool} (hworker : s.worker = .draining last)
    (clock : ℕ → ℤ) :
    Accounted { s with
      buf := []
      worker := .recording (split clock 0 s.buf).1 (split clock 0 s.buf).2 last } where
  accepted := by
    have ha := h.accepted
    simp only [unhanded, hworker] at ha
    exact ha
  batches := h.batches
  trades := by
    have ht := h.trades
    simp only [unsaved, hworker] at ht
    rw [← ht]
    show _ ++ (split clock 0 s.buf).2 = _
    rw [split_trades]
  tape := by
    have ht := h.tape
    simp only [unrecorded, hworker] at ht
    rw [← ht]
    show _ ++ (split clock 0 s.buf).1.map TapeRow.sample = _
    rw [split_rows]
  counters := by
    have hc := h.counters
    simp only [uncounted, hworker] at hc
    exact hc
  buf_le := Nat.zero_le _
  emptied _ := rfl
  returning hr := h.returning (by rw [hworker]; exact hr)
  closed := h.closed

theorem Accounted.record (h : s.Accounted) {rows : List TapeRow} {trades : List ε} {last : Bool}
    (hworker : s.worker = .recording rows trades last) :
    Accounted { s with
      recorded := if rows.isEmpty then s.recorded else s.recorded ++ [rows]
      worker := .saving trades last } where
  accepted := by
    have ha := h.accepted
    simp only [unhanded, hworker] at ha
    exact ha
  batches := h.batches
  trades := by
    have ht := h.trades
    simp only [unsaved, hworker] at ht
    exact ht
  tape := by
    have ht := h.tape
    simp only [unrecorded, hworker] at ht
    simp only [unrecorded, List.append_nil, ← ht]
    cases rows with
    | nil => simp
    | cons row rows => simp
  counters := by
    have hc := h.counters
    simp only [uncounted, hworker] at hc
    exact hc
  buf_le := h.buf_le
  emptied _ := h.emptied (by rw [hworker]; trivial)
  returning hr := h.returning (by rw [hworker]; exact hr)
  closed := h.closed

theorem Accounted.save (h : s.Accounted) {entry : ε} {trades : List ε} {last : Bool}
    (hworker : s.worker = .saving (entry :: trades) last) :
    Accounted { s with saved := s.saved ++ [entry], worker := .saving trades last } where
  accepted := by
    have ha := h.accepted
    simp only [unhanded, hworker] at ha
    exact ha
  batches := h.batches
  trades := by
    have ht := h.trades
    simp only [unsaved, hworker] at ht
    simp only [unsaved, List.append_assoc, List.singleton_append, ht]
  tape := by
    have ht := h.tape
    simp only [unrecorded, hworker] at ht
    exact ht
  counters := by
    have hc := h.counters
    simp only [uncounted, hworker] at hc
    exact hc
  buf_le := h.buf_le
  emptied _ := h.emptied (by rw [hworker]; trivial)
  returning hr := h.returning (by rw [hworker]; exact hr)
  closed := h.closed

/-- The worker moves on with the same operations in hand. -/
theorem Accounted.move (h : s.Accounted) (worker : Worker ε)
    (hunhanded : ({ s with worker := worker } : WriteQueue ε).unhanded = s.unhanded)
    (hunsaved : ({ s with worker := worker } : WriteQueue ε).unsaved = s.unsaved)
    (hunrecorded : ({ s with worker := worker } : WriteQueue ε).unrecorded = s.unrecorded)
    (huncounted : ({ s with worker := worker } : WriteQueue ε).uncounted = s.uncounted)
    (hdrained : worker.drained → s.buf = [])
    (hreturns : worker.returns → s.closed = true ∧ s.channel = []) :
    Accounted { s with worker := worker } where
  accepted := by rw [hunhanded]; exact h.accepted
  batches := h.batches
  trades := by rw [hunsaved]; exact h.trades
  tape := by rw [hunrecorded]; exact h.tape
  counters := by rw [huncounted]; exact h.counters
  buf_le := h.buf_le
  emptied := hdrained
  returning := hreturns
  closed := h.closed

/-- The end of a flush, and of the worker if it was the last one. -/
theorem Accounted.finish (h : s.Accounted) {last : Bool} (hworker : s.worker = .saving [] last) :
    Accounted { s with worker := if last then .stopped else .receiving } := by
  have hbuf : s.buf = [] := h.emptied (by rw [hworker]; trivial)
  have hreturns : last = true → s.closed = true ∧ s.channel = [] := by
    intro hlast
    exact h.returning (by rw [hworker]; exact hlast)
  cases last <;>
    exact h.move _ (by simp [unhanded, hworker]) (by simp [unsaved, hworker])
      (by simp [unrecorded, hworker]) (by simp [uncounted, hworker]) (fun _ => hbuf)
      (fun hr => hreturns (by first | exact hr.elim | rfl))

/-- The worker returns without a last flush. -/
theorem Accounted.stop (h : s.Accounted) (hworker : s.worker = .receiving) (hbuf : s.buf = [])
    (hclosed : s.closed = true) (hchannel : s.channel = []) :
    Accounted { s with worker := .stopped } :=
  h.move _ (by simp [unhanded, hworker]) (by simp [unsaved, hworker])
    (by simp [unrecorded, hworker]) (by simp [uncounted, hworker]) (fun _ => hbuf)
    (fun _ => ⟨hclosed, hchannel⟩)

/-! ## Every step -/

/-- What a step keeps. -/
structure Sound (s : WriteQueue ε) : Prop where
  accounted : s.Accounted
  room : s.Room

/-- A worker that is not receiving needs no room. -/
theorem Room.of_busy (hbusy : s.worker ≠ .receiving) : s.Room :=
  fun hworker => absurd hworker hbusy

theorem sound_spawn : (spawn : WriteQueue ε).Sound :=
  ⟨accounted_spawn, fun _ => Nat.zero_lt_succ 63⟩

theorem Sound.step (h : s.Sound) {e : QueueEvent ε} (he : s.step e = some t) : t.Sound := by
  cases move_of_step he with
  | enqueue op hopen => exact ⟨h.accounted.enqueue hopen op, h.room⟩
  | send hop => exact ⟨h.accounted.send hop, h.room⟩
  | refuse hop => exact ⟨h.accounted.refuse hop, h.room⟩
  | drop hrefused => exact ⟨h.accounted.drop hrefused, h.room⟩
  | close hentering hrefused => exact ⟨h.accounted.close hentering hrefused, h.room⟩
  | recv hworker hchannel hroom =>
    exact ⟨h.accounted.receive hworker h.room hchannel, fun _ => hroom⟩
  | recvFull hworker hchannel =>
    have hreceived := h.accounted.receive hworker h.room hchannel
    exact ⟨hreceived.flushBatch hworker (by simp) (by simp), .of_busy (by simp [flushBatch])⟩
  | stop hworker hchannel hclosed hbuf =>
    exact ⟨h.accounted.stop hworker hbuf hclosed hchannel, .of_busy (by simp)⟩
  | flushLast hworker hchannel hclosed hbuf =>
    exact ⟨h.accounted.flushBatch hworker hbuf fun _ => ⟨hclosed, hchannel⟩,
      .of_busy (by simp [flushBatch])⟩
  | wait => exact h
  | flush hworker hbuf =>
    exact ⟨h.accounted.flushBatch hworker hbuf (by simp), .of_busy (by simp [flushBatch])⟩
  | count hworker => exact ⟨h.accounted.count hworker, .of_busy (by simp)⟩
  | drain clock hworker => exact ⟨h.accounted.drain hworker clock, .of_busy (by simp)⟩
  | record hworker => exact ⟨h.accounted.record hworker, .of_busy (by simp)⟩
  | save hworker => exact ⟨h.accounted.save hworker, .of_busy (by simp)⟩
  | finish hworker =>
    have hbuf : s.buf = [] := h.accounted.emptied (by rw [hworker]; trivial)
    refine ⟨h.accounted.finish hworker, fun _ => ?_⟩
    show s.buf.length < flushMaxOps
    rw [hbuf]
    exact Nat.zero_lt_succ 63

theorem sound_of_reachable (h : (writeQueue ε).Reachable s) : s.Sound := by
  obtain ⟨s₀, es, hinit, hrun⟩ := h
  refine (Machine.Path.of_run hrun).invariant (fun _ _ _ hs _ he => hs.step he) ?_
  rw [show s₀ = .spawn from hinit]
  exact sound_spawn

/-! ## The worker by itself -/

end WriteQueue

def QueueEvent.ofWorker {ε : Type*} : QueueEvent ε → Prop
  | .enqueue _ | .trySend _ | .drop | .close => False
  | .recv | .recvNone | .deadline | .count | .drain _ | .record | .save => True

namespace WriteQueue

variable {ε : Type*} {s t : WriteQueue ε}

/-- A step of the worker, other than a timer that runs out over an empty buffer. -/
def Works (s : WriteQueue ε) (e : QueueEvent ε) : Prop :=
  e.ofWorker ∧ ¬ (e = .deadline ∧ s.buf = [])

/-- A bound on the steps that the worker can make by itself. -/
def work (s : WriteQueue ε) : ℕ :=
  8 * s.channel.length + match s.worker with
    | .receiving => 7 * s.buf.length + 1
    | .counting _ => s.buf.length + 5
    | .draining _ => s.buf.length + 4
    | .recording _ trades _ => trades.length + 3
    | .saving trades _ => trades.length + 2
    | .stopped => 0

theorem work_flushBatch (hworker : s.worker = .receiving) (hbuf : s.buf ≠ []) (last : Bool) :
    (s.flushBatch last).work < s.work := by
  have hlen : 1 ≤ s.buf.length := List.length_pos_of_ne_nil hbuf
  simp only [work, WriteQueue.flushBatch, hworker]
  omega

theorem work_step (h : s.Sound) {e : QueueEvent ε} (hworks : s.Works e)
    (he : s.step e = some t) : t.work < s.work := by
  cases move_of_step he with
  | enqueue | send | refuse | drop | close => exact hworks.1.elim
  | recv hworker hchannel =>
    simp only [work, hworker, hchannel, List.length_append, List.length_cons, List.length_nil]
    omega
  | @recvFull op channel hworker hchannel =>
    have hflush := work_flushBatch (s := { s with channel := channel, buf := s.buf ++ [op] })
      hworker (List.concat_ne_nil _ _) false
    refine lt_trans hflush ?_
    simp only [work, hworker, hchannel, List.length_append, List.length_cons, List.length_nil]
    omega
  | stop hworker =>
    simp only [work, hworker]
    omega
  | flushLast hworker _ _ hbuf => exact work_flushBatch hworker hbuf true
  | wait _ hbuf => exact absurd ⟨rfl, hbuf⟩ hworks.2
  | flush hworker hbuf => exact work_flushBatch hworker hbuf false
  | count hworker =>
    simp only [work, hworker]
    omega
  | drain clock hworker =>
    have htrades : (split clock 0 s.buf).2.length ≤ s.buf.length := by
      rw [split_trades]
      exact List.length_filterMap_le _ _
    simp only [work, hworker]
    omega
  | record hworker =>
    simp only [work, hworker]
    omega
  | save hworker =>
    simp only [work, hworker, List.length_cons]
    omega
  | @finish last hworker =>
    have hbuf : s.buf = [] := h.accounted.emptied (by rw [hworker]; trivial)
    cases last <;> simp [work, hworker, hbuf]

theorem accepted_step {e : QueueEvent ε} (hworks : s.Works e) (he : s.step e = some t) :
    t.accepted = s.accepted ∧ t.closed = s.closed := by
  cases move_of_step he with
  | enqueue | send | refuse | drop | close => exact hworks.1.elim
  | recv | recvFull | stop | flushLast | wait | flush | count | drain | record | save | finish =>
    exact ⟨rfl, rfl⟩

/-- The worker cannot go on for ever, and what it works on stays. -/
theorem work_run {es : List (QueueEvent ε)} (h : s.Sound)
    (hpath : (writeQueue ε).Path Works s es t) :
    es.length + t.work ≤ s.work ∧ t.Sound ∧ t.accepted = s.accepted ∧ t.closed = s.closed := by
  induction hpath with
  | nil s => exact ⟨by simp, h, rfl, rfl⟩
  | cons hworks he _ ih =>
    have hwork := work_step h hworks he
    have hsame := accepted_step hworks he
    obtain ⟨hle, hsound, haccepted, hclosed⟩ := ih (h.step he)
    refine ⟨?_, hsound, haccepted.trans hsame.1, hclosed.trans hsame.2⟩
    rw [List.length_cons]
    omega

/-- Everything accepted has been handed on and written. -/
structure AllWritten (s : WriteQueue ε) : Prop where
  handed : s.handed.flatten = s.accepted
  trades : s.saved = s.accepted.filterMap WriteOp.trade?
  tape : s.recorded.flatten.map TapeRow.sample = s.accepted.filterMap WriteOp.sample?

theorem Accounted.allWritten (h : s.Accounted)
    (hworker : s.worker = .receiving ∨ s.worker = .stopped) (hbuf : s.buf = [])
    (hchannel : s.channel = []) : s.AllWritten := by
  have ha := h.accepted
  have ht := h.trades
  have hr := h.tape
  have hhanded : s.handed.flatten = s.accepted := by
    rcases hworker with hworker | hworker <;>
      simpa [unhanded, hworker, hbuf, hchannel] using ha.symm
  constructor
  · exact hhanded
  · rw [← hhanded, ← ht]
    rcases hworker with hworker | hworker <;> simp [unsaved, hworker]
  · rw [← hhanded, ← hr]
    rcases hworker with hworker | hworker <;> simp [unrecorded, hworker]

/-- A worker that cannot go on has written everything, and has returned if all senders are gone. -/
theorem Sound.of_blocked (h : s.Sound) (hblocked : ∀ e, s.Works e → s.step e = none) :
    s.AllWritten ∧ (s.closed = true → s.worker = .stopped) := by
  cases hworker : s.worker with
  | receiving =>
    have hchannel : s.channel = [] := by
      cases hc : s.channel with
      | nil => rfl
      | cons op channel =>
        have hnone := hblocked .recv ⟨trivial, fun he => by cases he.1⟩
        simp only [WriteQueue.step, hworker, hc] at hnone
        cases hnone
    have hbuf : s.buf = [] := by
      by_contra hbuf
      have hnone := hblocked .deadline ⟨trivial, fun he => hbuf he.2⟩
      simp only [WriteQueue.step, hworker] at hnone
      cases hnone
    refine ⟨h.accounted.allWritten (.inl hworker) hbuf hchannel, fun hclosed => ?_⟩
    have hnone := hblocked .recvNone ⟨trivial, fun he => by cases he.1⟩
    simp only [WriteQueue.step, hworker, hchannel, hclosed] at hnone
    cases hnone
  | counting last =>
    have hnone := hblocked .count ⟨trivial, fun he => by cases he.1⟩
    simp only [WriteQueue.step, hworker] at hnone
    cases hnone
  | draining last =>
    have hnone := hblocked (.drain fun _ => 0) ⟨trivial, fun he => by cases he.1⟩
    simp only [WriteQueue.step, hworker] at hnone
    cases hnone
  | recording rows trades last =>
    have hnone := hblocked .record ⟨trivial, fun he => by cases he.1⟩
    simp only [WriteQueue.step, hworker] at hnone
    cases hnone
  | saving trades last =>
    have hnone := hblocked .save ⟨trivial, fun he => by cases he.1⟩
    cases trades <;> simp [WriteQueue.step, hworker] at hnone
  | stopped =>
    have hbuf : s.buf = [] := h.accounted.emptied (by rw [hworker]; trivial)
    have hchannel := (h.accounted.returning (by rw [hworker]; trivial)).2
    exact ⟨h.accounted.allWritten (.inr hworker) hbuf hchannel, fun _ => rfl⟩

/-! ## Conservation -/

/-- No call and no flush is in progress. -/
def Quiet (s : WriteQueue ε) : Prop :=
  s.entering = [] ∧ s.refused = 0 ∧ (s.worker = .receiving ∨ s.worker = .stopped)

structure Conserves (s : WriteQueue ε) : Prop where
  /-- Each accepted operation is in one batch, in the buffer, or in the channel, in this order. -/
  once : s.accepted = s.handed.flatten ++ s.unhanded ++ s.channel
  batches : ∀ batch ∈ s.handed, 1 ≤ batch.length ∧ batch.length ≤ 64
  trades : s.saved <+: s.accepted.filterMap WriteOp.trade?
  tape : s.recorded.flatten.map TapeRow.sample <+: s.accepted.filterMap WriteOp.sample?
  counters : s.Quiet → s.metrics.enqueued = s.metrics.dropped + s.metrics.flushedOps +
    UInt64.ofNat s.channel.length + UInt64.ofNat s.buf.length
  stopped : s.worker = .stopped → s.closed = true ∧ s.AllWritten
  /-- Left to itself the worker comes to an end, with everything accepted written. -/
  finishes : ∀ es t, (writeQueue ε).Path Works s es t → es.length ≤ s.work ∧
    t.accepted = s.accepted ∧
    ((∀ e, t.Works e → t.step e = none) →
      t.AllWritten ∧ (s.closed = true → t.worker = .stopped))

theorem Sound.conserves (h : s.Sound) : s.Conserves where
  once := h.accounted.accepted
  batches := h.accounted.batches
  trades := by
    rw [h.accounted.accepted, List.append_assoc, List.filterMap_append, ← h.accounted.trades,
      List.append_assoc]
    exact List.prefix_append ..
  tape := by
    rw [h.accounted.accepted, List.append_assoc, List.filterMap_append, ← h.accounted.tape,
      List.append_assoc]
    exact List.prefix_append ..
  counters hquiet := by
    obtain ⟨hentering, hrefused, hworker⟩ := hquiet
    have huncounted : s.uncounted = s.buf.length := by
      rcases hworker with hworker | hworker <;> simp only [uncounted, hworker]
    have hc := h.accounted.counters
    rw [huncounted, hentering, hrefused, List.length_nil, Nat.add_zero, UInt64.ofNat_add] at hc
    rw [hc]
    grind
  stopped hworker := by
    have hreturns := h.accounted.returning (by rw [hworker]; trivial)
    exact ⟨hreturns.1, h.accounted.allWritten (.inr hworker)
      (h.accounted.emptied (by rw [hworker]; trivial)) hreturns.2⟩
  finishes es t hpath := by
    obtain ⟨hle, hsound, haccepted, hclosed⟩ := work_run h hpath
    refine ⟨by omega, haccepted, fun hblocked => ?_⟩
    rw [← hclosed]
    exact hsound.of_blocked hblocked

/-- **Conservation** on every run of producers, worker and shutdown. -/
theorem conserves_of_reachable (h : (writeQueue ε).Reachable s) : s.Conserves :=
  (sound_of_reachable h).conserves

/-- A trade and a sample, written when the last sender goes. -/
def lastFlush : List (QueueEvent ℕ) :=
  [.enqueue (.trade 7), .enqueue (.tape "coin" 30 "trade"), .trySend 0, .trySend 0, .close, .recv,
    .recv, .recvNone, .count, .drain fun _ => 5, .record, .save, .save]

theorem conserves_of_reachable_lastFlush :
    ∃ s, (writeQueue ℕ).run .spawn lastFlush = some s ∧ s.worker = .stopped ∧ s.saved = [7] ∧
      s.recorded = [[⟨"coin", 5, 30, "trade"⟩]] ∧ s.Conserves := by
  refine ⟨_, rfl, rfl, rfl, ?_, conserves_of_reachable ⟨.spawn, lastFlush, rfl, rfl⟩⟩
  decide +kernel

end WriteQueue

end Loggaper
