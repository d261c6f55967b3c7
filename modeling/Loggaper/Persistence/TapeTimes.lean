import Mathlib.Data.List.InsertIdx
import Loggaper.Persistence.WriteQueue

/-!
# When a sample gets its time

The write queue of `writeQueue`, with a clock and the times at which the operations were sent. The
worker gives a row its time when it drains the batch, and an operation may have waited until then:
in the channel while trades are saved one by one, or in the buffer until the deadline. `record`,
which writes a single row, reads the clock in the call.

- `agrees_of_path`: the times are those of the operations of the queue.
- `onTime_of_prompt`: the rows are on time as long as no sample outlives the interval of the loop in
  which it was sent.
- `backlog_late`: two samples a minute apart with the same time.
-/

namespace Loggaper

def flushIntervalMs : ℕ := 150

/-- `receiving`: at the start of a loop, or in it. -/
def Worker.isReceiving {ε : Type*} : Worker ε → Bool
  | .receiving => true
  | _ => false

def WriteOp.isSample {ε : Type*} : WriteOp ε → Bool
  | .tape .. => true
  | .trade _ => false

/-- The queue at a time in milliseconds. Operations and rows come with the time of the call that
sent them. -/
structure TapeQueue (ε : Type*) where
  queue : WriteQueue ε
  now : ℕ
  /-- When the worker set its deadline. -/
  loopStart : ℕ
  entering : List (ℕ × WriteOp ε)
  channel : List (ℕ × WriteOp ε)
  buf : List (ℕ × WriteOp ε)
  /-- The rows of the batch in hand. -/
  rows : List (ℕ × TapeRow)
  recorded : List (ℕ × TapeRow)

inductive TapeEvent (ε : Type*)
  | tick (ms : ℕ)
  /-- The worker drains the buffer; each row gets the time of the clock. -/
  | drain
  | other (e : QueueEvent ε)

namespace TapeQueue

variable {ε : Type*}

/-- `now_ts_unix()`. -/
def nowTsUnix (s : TapeQueue ε) : ℤ := (s.now / 1000 : ℕ)

/-- `buf.drain(..)`, with the times of the calls. -/
def stamp (tsUnix : ℤ) : List (ℕ × WriteOp ε) → List (ℕ × TapeRow)
  | [] => []
  | (sent, .tape coin mcapSol source) :: ops =>
    (tapeRow tsUnix coin mcapSol source).toList.map (sent, ·) ++ stamp tsUnix ops
  | (_, .trade _) :: ops => stamp tsUnix ops

/-- The times follow the operations. -/
def follow (s : TapeQueue ε) (queue : WriteQueue ε) : QueueEvent ε → TapeQueue ε
  | .enqueue op => { s with queue, entering := s.entering ++ [(s.now, op)] }
  | .trySend i => { s with
    queue
    entering := s.entering.eraseIdx i
    channel :=
      if s.channel.length < channelCap then s.channel ++ s.entering[i]?.toList else s.channel }
  | .recv => { s with
    queue, channel := s.channel.tail, buf := s.buf ++ s.channel.head?.toList }
  | .drain _ => { s with queue, buf := [], rows := stamp s.nowTsUnix s.buf }
  | .record => { s with queue, rows := [], recorded := s.recorded ++ s.rows }
  | .deadline | .save =>
    -- back in the receive loop, with a new deadline
    { s with queue, loopStart := if queue.worker.isReceiving then s.now else s.loopStart }
  | .drop | .close | .recvNone | .count => { s with queue }

def step (s : TapeQueue ε) : TapeEvent ε → Option (TapeQueue ε)
  | .tick ms => some { s with now := s.now + ms }
  | .drain =>
    let e := QueueEvent.drain fun _ => s.nowTsUnix
    (s.queue.step e).map fun queue => s.follow queue e
  | .other (.drain _) => none
  | .other .deadline =>
    if s.loopStart + flushIntervalMs ≤ s.now then
      (s.queue.step .deadline).map fun queue => s.follow queue .deadline
    else none
  | .other e => (s.queue.step e).map fun queue => s.follow queue e

/-- `spawn`, at some time. -/
def spawn (now : ℕ) : TapeQueue ε where
  queue := .spawn
  now := now
  loopStart := now
  entering := []
  channel := []
  buf := []
  rows := []
  recorded := []

/-- What has been sent, or is being sent, and has no time yet. -/
def waiting (s : TapeQueue ε) : List (ℕ × WriteOp ε) := s.entering ++ s.channel ++ s.buf

end TapeQueue

/-- The write queue with a clock. -/
def tapeQueue (ε : Type*) : Machine (TapeQueue ε) (TapeEvent ε) where
  init s := ∃ now, s = .spawn now
  step := TapeQueue.step

namespace TapeQueue

variable {ε : Type*} {s t : TapeQueue ε}

/-- While a sample waits, the worker is in the loop in which it was sent, before the deadline. -/
def Prompt (s : TapeQueue ε) : TapeEvent ε → Prop
  | .tick ms => ∀ p ∈ s.waiting, p.2.isSample = true →
    s.loopStart ≤ p.1 ∧ s.now + ms ≤ s.loopStart + flushIntervalMs
  | _ => True

instance (s : TapeQueue ε) : (e : TapeEvent ε) → Decidable (s.Prompt e)
  | .tick _ => inferInstanceAs (Decidable (∀ _ ∈ _, _))
  | .drain => inferInstanceAs (Decidable True)
  | .other _ => inferInstanceAs (Decidable True)

/-- The second of the call, up to one flush interval. -/
def RowOnTime (p : ℕ × TapeRow) : Prop :=
  (p.1 / 1000 : ℕ) ≤ p.2.tsUnix ∧ p.2.tsUnix ≤ ((p.1 + flushIntervalMs) / 1000 : ℕ)

/-- Every stored row is on time, so two rows are as far apart as their calls, up to a flush interval
and the rounding to seconds. -/
structure OnTime (s : TapeQueue ε) : Prop where
  stored : s.recorded.map Prod.snd = s.queue.recorded.flatten
  rows : ∀ p ∈ s.recorded, RowOnTime p
  apart : ∀ p ∈ s.recorded, ∀ q ∈ s.recorded,
    |(q.2.tsUnix - p.2.tsUnix) * 1000 - ((q.1 : ℤ) - p.1)| < 1000 + flushIntervalMs

/-! ## The times are those of the operations -/

end TapeQueue

/-- The rows that the worker is about to record. -/
def Worker.rows {ε : Type*} : Worker ε → List TapeRow
  | .recording rows _ _ => rows
  | _ => []

namespace TapeQueue

variable {ε : Type*} {s t : TapeQueue ε}

/-- Without the times, the operations and rows are those of the queue. -/
structure Agrees (s : TapeQueue ε) : Prop where
  entering : s.entering.map Prod.snd = s.queue.entering
  channel : s.channel.map Prod.snd = s.queue.channel
  buf : s.buf.map Prod.snd = s.queue.buf
  rows : s.rows.map Prod.snd = s.queue.worker.rows
  recorded : s.recorded.map Prod.snd = s.queue.recorded.flatten

theorem agrees_spawn (now : ℕ) : (spawn now : TapeQueue ε).Agrees := ⟨rfl, rfl, rfl, rfl, rfl⟩

/-- The queue moves on with the same operations and rows. -/
theorem Agrees.move (h : s.Agrees) {queue : WriteQueue ε} {loopStart : ℕ}
    (hentering : queue.entering = s.queue.entering) (hchannel : queue.channel = s.queue.channel)
    (hbuf : queue.buf = s.queue.buf) (hrows : queue.worker.rows = s.queue.worker.rows)
    (hrecorded : queue.recorded = s.queue.recorded) :
    Agrees { s with queue, loopStart } where
  entering := h.entering.trans hentering.symm
  channel := h.channel.trans hchannel.symm
  buf := h.buf.trans hbuf.symm
  rows := h.rows.trans hrows.symm
  recorded := by rw [hrecorded]; exact h.recorded

theorem map_snd_stamp (tsUnix : ℤ) (i : ℕ) (ops : List (ℕ × WriteOp ε)) :
    (stamp tsUnix ops).map Prod.snd =
      (WriteQueue.split (fun _ => tsUnix) i (ops.map Prod.snd)).1 := by
  induction ops generalizing i with
  | nil => rfl
  | cons p ops ih =>
    obtain ⟨sent, op⟩ := p
    cases op with
    | tape coin mcapSol source =>
      rw [stamp, List.map_append, ih (i + 1), List.map_map]
      exact congrArg (· ++ _) (List.map_id _)
    | trade entry => exact ih (i + 1)

/-- A call sends its operation, or is refused. -/
theorem Agrees.entering_eraseIdx (h : s.Agrees) (i : ℕ) :
    (s.entering.eraseIdx i).map Prod.snd = s.queue.entering.eraseIdx i := by
  rw [← h.entering, List.eraseIdx_map]

theorem Agrees.sent (h : s.Agrees) {i : ℕ} {op : WriteOp ε} (hop : s.queue.entering[i]? = some op) :
    s.entering[i]?.toList.map Prod.snd = [op] := by
  rw [← h.entering, List.getElem?_map] at hop
  obtain ⟨p, hp, rfl⟩ := Option.map_eq_some_iff.mp hop
  rw [hp]
  rfl

theorem Agrees.channel_length (h : s.Agrees) : s.channel.length = s.queue.channel.length := by
  rw [← h.channel, List.length_map]

/-- The worker takes the first operation of the channel. -/
theorem Agrees.received (h : s.Agrees) {op : WriteOp ε} {channel : List (WriteOp ε)}
    (hchannel : s.queue.channel = op :: channel) :
    s.channel.tail.map Prod.snd = channel ∧
      (s.buf ++ s.channel.head?.toList).map Prod.snd = s.queue.buf ++ [op] := by
  have hnow := h.channel
  rw [hchannel] at hnow
  obtain ⟨p, rest, hcons, rfl, hrest⟩ := List.map_eq_cons_iff.mp hnow
  rw [hcons, List.map_append, h.buf]
  exact ⟨hrest, rfl⟩

theorem Agrees.drain (h : s.Agrees) {queue : WriteQueue ε}
    (hstep : s.queue.step (.drain fun _ => s.nowTsUnix) = some queue) :
    (s.follow queue (.drain fun _ => s.nowTsUnix)).Agrees := by
  cases WriteQueue.move_of_step hstep with
  | drain clock hworker =>
    refine ⟨h.entering, h.channel, rfl, ?_, h.recorded⟩
    show (stamp s.nowTsUnix s.buf).map Prod.snd = _
    rw [map_snd_stamp _ 0, h.buf]
    rfl

theorem Agrees.follow (h : s.Agrees) {e : QueueEvent ε} {queue : WriteQueue ε}
    (hstep : s.queue.step e = some queue) (he : ∀ clock, e ≠ .drain clock) :
    (s.follow queue e).Agrees := by
  cases WriteQueue.move_of_step hstep with
  | enqueue op =>
    refine ⟨?_, h.channel, h.buf, h.rows, h.recorded⟩
    show (s.entering ++ [(s.now, op)]).map Prod.snd = s.queue.entering ++ [op]
    rw [List.map_append, h.entering]
    rfl
  | @send i op hop hroom =>
    refine ⟨h.entering_eraseIdx i, ?_, h.buf, h.rows, h.recorded⟩
    simp only [TapeQueue.follow]
    rw [if_pos (by rwa [h.channel_length]), List.map_append, h.channel, h.sent hop]
  | @refuse i op hop hfull =>
    refine ⟨h.entering_eraseIdx i, ?_, h.buf, h.rows, h.recorded⟩
    simp only [TapeQueue.follow]
    rw [if_neg (by rwa [h.channel_length])]
    exact h.channel
  | recv hworker hchannel =>
    obtain ⟨htail, hbuf⟩ := h.received hchannel
    exact ⟨h.entering, htail, hbuf, h.rows, h.recorded⟩
  | recvFull hworker hchannel =>
    obtain ⟨htail, hbuf⟩ := h.received hchannel
    have hrows : s.rows.map Prod.snd = [] := by rw [h.rows, hworker]; rfl
    exact ⟨h.entering, htail, hbuf, hrows, h.recorded⟩
  | drain clock => exact absurd rfl (he clock)
  | @record rows trades last hworker =>
    have hrows : s.rows.map Prod.snd = rows := by rw [h.rows, hworker]; rfl
    refine ⟨h.entering, h.channel, h.buf, rfl, ?_⟩
    show (s.recorded ++ s.rows).map Prod.snd =
      (if rows.isEmpty then s.queue.recorded else s.queue.recorded ++ [rows]).flatten
    rw [List.map_append, h.recorded, hrows]
    cases rows with
    | nil => simp
    | cons row rows => simp
  | drop | close | wait => exact h.move rfl rfl rfl rfl rfl
  | stop hworker | flushLast hworker | flush hworker | count hworker | save hworker =>
    exact h.move rfl rfl rfl (by rw [hworker]; rfl) rfl
  | @finish last hworker =>
    refine h.move rfl rfl rfl ?_ rfl
    rw [hworker]
    cases last <;> rfl

/-- Each event is one of the queue, at the time of the clock, or lets time pass. -/
theorem step_cases {e : TapeEvent ε} (h : s.step e = some t) :
    (∃ ms, e = .tick ms ∧ t = { s with now := s.now + ms }) ∨
      (e = .drain ∧ ∃ queue, s.queue.step (.drain fun _ => s.nowTsUnix) = some queue ∧
        t = s.follow queue (.drain fun _ => s.nowTsUnix)) ∨
      ∃ e' queue, e = .other e' ∧ (∀ clock, e' ≠ .drain clock) ∧
        s.queue.step e' = some queue ∧ t = s.follow queue e' := by
  cases e with
  | tick ms => exact .inl ⟨ms, rfl, (Option.some_inj.mp h).symm⟩
  | drain =>
    obtain ⟨queue, hqueue, rfl⟩ := Option.map_eq_some_iff.mp h
    exact .inr (.inl ⟨rfl, queue, hqueue, rfl⟩)
  | other e =>
    refine .inr (.inr ?_)
    cases e with
    | drain clock => cases h
    | deadline =>
      obtain ⟨-, h⟩ := Option.ite_none_right_eq_some.mp h
      obtain ⟨queue, hqueue, rfl⟩ := Option.map_eq_some_iff.mp h
      exact ⟨_, queue, rfl, nofun, hqueue, rfl⟩
    | enqueue op | trySend i | drop | close | recv | recvNone | count | record | save =>
      obtain ⟨queue, hqueue, rfl⟩ := Option.map_eq_some_iff.mp h
      exact ⟨_, queue, rfl, nofun, hqueue, rfl⟩

theorem agrees_step (h : s.Agrees) {e : TapeEvent ε} (hstep : s.step e = some t) : t.Agrees := by
  obtain ⟨ms, -, rfl⟩ | ⟨-, queue, hqueue, rfl⟩ | ⟨e', queue, -, he', hqueue, rfl⟩ :=
    step_cases hstep
  · exact ⟨h.entering, h.channel, h.buf, h.rows, h.recorded⟩
  · exact h.drain hqueue
  · exact h.follow hqueue he'

/-- On every run the times are those of the operations of the queue. -/
theorem agrees_of_path {G : TapeQueue ε → TapeEvent ε → Prop} {es : List (TapeEvent ε)}
    {u : TapeQueue ε} (hs : (tapeQueue ε).init s) (h : (tapeQueue ε).Path G s es u) :
    u.Agrees := by
  obtain ⟨now, rfl⟩ := hs
  refine h.invariant (I := Agrees) ?_ (agrees_spawn now)
  exact fun _ _ _ hI _ hstep => agrees_step hI hstep

/-! ## Samples that do not wait -/

theorem waiting_follow {queue : WriteQueue ε} {e : QueueEvent ε} {p : ℕ × WriteOp ε}
    (hp : p ∈ (s.follow queue e).waiting) : p ∈ s.waiting ∨ p.1 = s.now := by
  simp only [waiting, List.mem_append] at hp ⊢
  cases e with
  | enqueue op =>
    simp only [follow, List.mem_append, List.mem_singleton] at hp
    rcases hp with ((hp | rfl) | hp) | hp
    · exact .inl (.inl (.inl hp))
    · exact .inr rfl
    · exact .inl (.inl (.inr hp))
    · exact .inl (.inr hp)
  | trySend i =>
    simp only [follow] at hp
    rcases hp with (hp | hp) | hp
    · exact .inl (.inl (.inl (List.mem_of_mem_eraseIdx hp)))
    · split_ifs at hp
      · rcases List.mem_append.mp hp with hp | hp
        · exact .inl (.inl (.inr hp))
        · exact .inl (.inl (.inl (List.mem_of_getElem? (Option.mem_toList.mp hp))))
      · exact .inl (.inl (.inr hp))
    · exact .inl (.inr hp)
  | recv =>
    simp only [follow, List.mem_append] at hp
    rcases hp with (hp | hp) | hp | hp
    · exact .inl (.inl (.inl hp))
    · exact .inl (.inl (.inr (List.mem_of_mem_tail hp)))
    · exact .inl (.inr hp)
    · exact .inl (.inl (.inr (List.mem_of_mem_head? (Option.mem_toList.mp hp))))
  | drain clock =>
    simp only [follow, List.not_mem_nil, or_false] at hp
    exact .inl (.inl hp)
  | drop | close | recvNone | deadline | count | record | save => exact .inl hp

theorem mem_stamp {tsUnix : ℤ} {ops : List (ℕ × WriteOp ε)} {p : ℕ × TapeRow}
    (hp : p ∈ stamp tsUnix ops) :
    ∃ op, (p.1, op) ∈ ops ∧ op.isSample = true ∧ p.2.tsUnix = tsUnix := by
  induction ops with
  | nil => exact absurd hp List.not_mem_nil
  | cons q ops ih =>
    obtain ⟨sent, op⟩ := q
    cases op with
    | tape coin mcapSol source =>
      rcases List.mem_append.mp hp with hrow | hrest
      · obtain ⟨row, hmem, rfl⟩ := List.mem_map.mp hrow
        have hvalid := Option.ite_none_right_eq_some.mp (Option.mem_toList.mp hmem)
        refine ⟨_, List.mem_cons_self, rfl, ?_⟩
        rw [← Option.some_inj.mp hvalid.2]
      · obtain ⟨op, hop, hsample⟩ := ih hrest
        exact ⟨op, List.mem_cons_of_mem _ hop, hsample⟩
    | trade entry =>
      obtain ⟨op, hop, hsample⟩ := ih hp
      exact ⟨op, List.mem_cons_of_mem _ hop, hsample⟩

/-- No sample has waited for more than a flush interval, and the rows are on time. -/
structure Fresh (s : TapeQueue ε) : Prop where
  waiting : ∀ p ∈ s.waiting, p.2.isSample = true →
    p.1 ≤ s.now ∧ s.now ≤ p.1 + flushIntervalMs
  rows : ∀ p ∈ s.rows, RowOnTime p
  recorded : ∀ p ∈ s.recorded, RowOnTime p

theorem fresh_spawn (now : ℕ) : (spawn now : TapeQueue ε).Fresh := ⟨nofun, nofun, nofun⟩

theorem Fresh.tick (h : s.Fresh) {ms : ℕ} (hprompt : s.Prompt (.tick ms)) :
    Fresh { s with now := s.now + ms } where
  waiting p hp hsample := by
    obtain ⟨hloop, hdue⟩ := hprompt p hp hsample
    have hsent := (h.waiting p hp hsample).1
    show p.1 ≤ s.now + ms ∧ s.now + ms ≤ p.1 + flushIntervalMs
    omega
  rows := h.rows
  recorded := h.recorded

/-- The rows of a batch get their time. -/
theorem Fresh.stamp (h : s.Fresh) {p : ℕ × TapeRow} (hp : p ∈ stamp s.nowTsUnix s.buf) :
    RowOnTime p := by
  obtain ⟨op, hop, hsample, hts⟩ := mem_stamp hp
  obtain ⟨hsent, hwait⟩ := h.waiting _ (List.mem_append_right _ hop) hsample
  rw [RowOnTime, hts, nowTsUnix]
  exact ⟨Int.ofNat_le.mpr (Nat.div_le_div_right hsent),
    Int.ofNat_le.mpr (Nat.div_le_div_right hwait)⟩

theorem Fresh.follow (h : s.Fresh) (queue : WriteQueue ε) (e : QueueEvent ε) :
    (s.follow queue e).Fresh := by
  have hnow : (s.follow queue e).now = s.now := by cases e <;> rfl
  have hwaiting : ∀ p ∈ (s.follow queue e).waiting, p.2.isSample = true →
      p.1 ≤ (s.follow queue e).now ∧ (s.follow queue e).now ≤ p.1 + flushIntervalMs := by
    intro p hp hsample
    rw [hnow]
    rcases waiting_follow hp with hp | hp
    · exact h.waiting p hp hsample
    · exact ⟨hp.le, hp ▸ Nat.le_add_right _ _⟩
  cases e with
  | drain clock => exact ⟨hwaiting, fun p hp => h.stamp hp, h.recorded⟩
  | record =>
    refine ⟨hwaiting, nofun, fun p hp => ?_⟩
    rcases List.mem_append.mp hp with hp | hp
    · exact h.recorded p hp
    · exact h.rows p hp
  | enqueue op | trySend i | drop | close | recv | recvNone | deadline | count | save =>
    exact ⟨hwaiting, h.rows, h.recorded⟩

theorem fresh_step (h : s.Fresh) {e : TapeEvent ε} (hprompt : s.Prompt e)
    (hstep : s.step e = some t) : t.Fresh := by
  obtain ⟨ms, rfl, rfl⟩ | ⟨-, queue, -, rfl⟩ | ⟨e', queue, -, -, -, rfl⟩ := step_cases hstep
  · exact h.tick hprompt
  · exact h.follow queue _
  · exact h.follow queue e'

theorem Fresh.onTime (h : s.Fresh) (hagrees : s.Agrees) : s.OnTime where
  stored := hagrees.recorded
  rows := h.recorded
  apart p hp q hq := by
    obtain ⟨hplo, hphi⟩ := h.recorded p hp
    obtain ⟨hqlo, hqhi⟩ := h.recorded q hq
    simp only [flushIntervalMs] at hphi hqhi ⊢
    rw [abs_lt]
    constructor <;> omega

end TapeQueue

/-- **The tape is on time** in every run in which no sample waits past the deadline of the loop in
which it was sent. -/
theorem tapeRows_onTime {ε : Type*} {s u : TapeQueue ε} {es : List (TapeEvent ε)}
    (hs : (tapeQueue ε).init s) (h : (tapeQueue ε).Path TapeQueue.Prompt s es u) : u.OnTime := by
  have hagrees := TapeQueue.agrees_of_path hs h
  obtain ⟨now, rfl⟩ := hs
  refine (h.invariant (I := TapeQueue.Fresh) ?_ (TapeQueue.fresh_spawn now)).onTime hagrees
  exact fun _ _ _ hI hprompt hstep => TapeQueue.fresh_step hI hprompt hstep

/-! ## Two runs -/

namespace TapeQueue

/-- A call, up to the worker. -/
def sent {ε : Type*} (op : WriteOp ε) : List (TapeEvent ε) :=
  [.other (.enqueue op), .other (.trySend 0)]

/-- A flush, up to the trades. -/
def flushed {ε : Type*} : List (TapeEvent ε) := [.other .deadline, .other .count, .drain,
  .other .record]

def startMs : ℕ := 1_700_000_000_000

/-- A sample that is received at once and flushed at the deadline. -/
def promptRun : List (TapeEvent Unit) :=
  [.tick 70] ++ sent (.tape "MintA" 50 "trade") ++ [.other .recv, .tick 80] ++ flushed

/-- Two samples, a minute apart, while a trade is being saved. -/
def backlogRun : List (TapeEvent Unit) :=
  sent (.trade ()) ++ [.other .recv, .tick 150] ++ flushed ++
    sent (.tape "MintA" 50 "trade") ++ [.tick 60_000] ++ sent (.tape "MintA" 80 "trade") ++
    [.other .save, .other .save, .other .recv, .other .recv, .tick 150] ++ flushed

end TapeQueue

theorem tapeRows_onTime_sample :
    ∃ u, (tapeQueue Unit).Path TapeQueue.Prompt (.spawn TapeQueue.startMs) TapeQueue.promptRun u ∧
      u.recorded = [(1_700_000_000_070, ⟨"MintA", 1_700_000_000, 50, "trade"⟩)] ∧ u.OnTime := by
  have hrun : (((tapeQueue Unit).runUnder TapeQueue.Prompt (.spawn TapeQueue.startMs)
      TapeQueue.promptRun).any fun u =>
        u.recorded == [(1_700_000_000_070, ⟨"MintA", 1_700_000_000, 50, "trade"⟩)]) = true := by
    decide
  obtain ⟨u, hu, hrecorded⟩ := (Option.any_eq_true _ _).mp hrun
  exact ⟨u, .of_runUnder hu, beq_iff_eq.mp hrecorded, tapeRows_onTime ⟨_, rfl⟩ (.of_runUnder hu)⟩

/-- The second sample has the time of the first, or the first is a minute late. -/
theorem backlog_late :
    ∃ u, (tapeQueue Unit).run (.spawn TapeQueue.startMs) TapeQueue.backlogRun = some u ∧
      u.recorded = [(1_700_000_000_150, ⟨"MintA", 1_700_000_060, 50, "trade"⟩),
        (1_700_000_060_150, ⟨"MintA", 1_700_000_060, 80, "trade"⟩)] ∧ ¬ u.OnTime := by
  have hrun : (((tapeQueue Unit).run (.spawn TapeQueue.startMs) TapeQueue.backlogRun).any fun u =>
      u.recorded == [(1_700_000_000_150, ⟨"MintA", 1_700_000_060, 50, "trade"⟩),
        (1_700_000_060_150, ⟨"MintA", 1_700_000_060, 80, "trade"⟩)]) = true := by
    decide
  obtain ⟨u, hu, hrecorded⟩ := (Option.any_eq_true _ _).mp hrun
  have hrows := beq_iff_eq.mp hrecorded
  refine ⟨u, hu, hrows, fun honTime => ?_⟩
  have hlate := (honTime.rows _ (hrows ▸ List.mem_cons_self)).2
  exact absurd hlate (by decide)

end Loggaper
