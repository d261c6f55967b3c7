import Loggaper.Feed.EventLog

/-!
# What the feed delivers

The receiver is handed the events of the messages that are neither failed nor repeated, in the order
of the stream: `feedDelivery`. Only a failed send loses events, and only those of its own message.
-/

namespace Loggaper

variable {α : Type*} {parse : String → Option α}

/-- The events in the lines of a message. -/
def lineEvents (parse : String → Option α) (slot : Slot) (logs : List String) : List (Slot × α) :=
  (logs.filter (textStartsWith · programDataPrefix)).filterMap fun log => (parse log).map (slot, ·)

theorem lineEvents_cons (slot : Slot) (log : String) (logs : List String) :
    lineEvents parse slot (log :: logs) =
      (if textStartsWith log programDataPrefix then (parse log).toList.map (slot, ·) else []) ++
        lineEvents parse slot logs := by
  by_cases hprefix : textStartsWith log programDataPrefix = true
  · cases hparse : parse log <;> simp [lineEvents, hprefix, hparse]
  · simp [lineEvents, hprefix]

def LogInfo.events (parse : String → Option α) (info : LogInfo) : List (Slot × α) :=
  lineEvents parse info.slot info.logs

/-- The messages that a run of the feed receives. -/
def received (es : List FeedEvent) : List LogInfo :=
  es.filterMap fun e => match e with
    | .message info => some info
    | _ => none

theorem received_append (es es' : List FeedEvent) :
    received (es ++ es') = received es ++ received es' := List.filterMap_append

/-- Of some messages, those that have not failed and whose signature is not among the last `c`. -/
def passed {c : ℕ} (w : Recent String c) : List LogInfo → List LogInfo
  | [] => []
  | info :: infos =>
    if info.failed then passed w infos
    else if info.signature = "" then info :: passed w infos
    else if info.signature ∈ w.items then passed w infos
    else info :: passed (w.offer info.signature) infos

namespace LogsFeed

/-- The event that the receiver takes in a step. -/
def handed (s : LogsFeed α) : FeedEvent → Option (Slot × α)
  | .sent => match s.phase with
    | .sending slot event _ _ => some (slot, event)
    | _ => none
  | _ => none

/-- The event that is being sent, and those of the lines after it. -/
def waiting (parse : String → Option α) (s : LogsFeed α) : List (Slot × α) :=
  match s.phase with
  | .sending slot event logs _ => (slot, event) :: lineEvents parse slot logs
  | _ => []

variable {s t : LogsFeed α} {e : FeedEvent}

@[simp] theorem waiting_receiving {last : ℕ} (h : s.phase = .receiving last) :
    s.waiting parse = [] := by
  rw [waiting, h]

@[simp] theorem waiting_loopTop (s : LogsFeed α) (last : ℕ) :
    (s.loopTop last).waiting parse = [] := by
  unfold loopTop
  split_ifs <;> rfl

@[simp] theorem selfDedup_loopTop (s : LogsFeed α) (last : ℕ) :
    (s.loopTop last).selfDedup = s.selfDedup := by
  unfold loopTop
  split_ifs <;> rfl

/-- Going through the lines up to the next event loses none. -/
theorem waiting_handleLogs (s : LogsFeed α) (slot : Slot) (last : ℕ) (logs : List String) :
    (s.handleLogs parse slot last logs).waiting parse = lineEvents parse slot logs := by
  induction logs with
  | nil => exact waiting_loopTop s last
  | cons log logs ih =>
    rw [handleLogs, lineEvents_cons]
    split_ifs
    · cases parse log with
      | some event => rfl
      | none => exact ih
    · exact ih

theorem selfDedup_handleLogs (s : LogsFeed α) (slot : Slot) (last : ℕ) (logs : List String) :
    (s.handleLogs parse slot last logs).selfDedup = s.selfDedup := by
  induction logs with
  | nil => exact selfDedup_loopTop s last
  | cons log logs ih =>
    rw [handleLogs]
    split_ifs
    · cases parse log with
      | some event => rfl
      | none => exact ih
    · exact ih

/-- A message that is not dropped: without program data there is nothing to send. -/
def process (parse : String → Option α) (s : LogsFeed α) (last : ℕ) (info : LogInfo) :
    LogsFeed α :=
  if (info.logs.filter (textStartsWith · programDataPrefix)).length = 0 then s.loopTop last
  else s.handleLogs parse info.slot last info.logs

theorem waiting_process (s : LogsFeed α) (last : ℕ) (info : LogInfo) :
    (s.process parse last info).waiting parse = info.events parse := by
  unfold process
  split_ifs with hnone
  · rw [waiting_loopTop, LogInfo.events, lineEvents, List.length_eq_zero_iff.mp hnone]
    rfl
  · exact waiting_handleLogs s info.slot last info.logs

theorem selfDedup_process (s : LogsFeed α) (last : ℕ) (info : LogInfo) :
    (s.process parse last info).selfDedup = s.selfDedup := by
  unfold process
  split_ifs
  · exact selfDedup_loopTop s last
  · exact selfDedup_handleLogs s info.slot last info.logs

theorem handleMessage_of_failed {info : LogInfo} (h : info.failed = true) (last : ℕ) :
    s.handleMessage parse last info = s.loopTop last := if_pos h

theorem handleMessage_of_drops {info : LogInfo} (h : ¬ info.failed = true) {answer : Bool}
    {selfDedup : SelfDedup} (hdrops : s.selfDedup.drops info.signature = (answer, selfDedup))
    (last : ℕ) :
    s.handleMessage parse last info =
      if answer then ({ s with selfDedup } : LogsFeed α).loopTop last
      else ({ s with selfDedup } : LogsFeed α).process parse last info := by
  rw [handleMessage, if_neg h, hdrops]
  rfl

/-- What passes of a message, and the window after it. -/
theorem passed_cons {w : Recent String selfDedupCapacity} (h : Keeps s.selfDedup w)
    (info : LogInfo) (last : ℕ) : ∃ w' : Recent String selfDedupCapacity,
      Keeps (s.handleMessage parse last info).selfDedup w' ∧ ∀ infos,
        (passed w (info :: infos)).flatMap (LogInfo.events parse) =
          (s.handleMessage parse last info).waiting parse ++
            (passed w' infos).flatMap (LogInfo.events parse) := by
  by_cases hfailed : info.failed = true
  · refine ⟨w, ?_, fun infos => ?_⟩
    · rwa [handleMessage_of_failed hfailed, selfDedup_loopTop]
    · rw [handleMessage_of_failed hfailed, waiting_loopTop, passed, if_pos hfailed,
        List.nil_append]
  by_cases hsignature : info.signature = ""
  · have hdrops : s.selfDedup.drops info.signature = (false, s.selfDedup) := by
      rw [hsignature, drops_empty]
    refine ⟨w, ?_, fun infos => ?_⟩
    · rwa [handleMessage_of_drops hfailed hdrops, if_neg Bool.false_ne_true, selfDedup_process]
    · rw [handleMessage_of_drops hfailed hdrops, if_neg Bool.false_ne_true, waiting_process,
        passed, if_neg hfailed, if_pos hsignature, List.flatMap_cons]
  obtain ⟨hanswer, hnext⟩ := keeps_checkAndRemember (by decide) h info.signature
  have hdrops : s.selfDedup.drops info.signature =
      (decide (info.signature ∈ w.items), (s.selfDedup.checkAndRemember info.signature).2) := by
    rw [drops_of_ne hsignature, ← hanswer]
  refine ⟨w.offer info.signature, ?_, fun infos => ?_⟩
  · rw [handleMessage_of_drops hfailed hdrops]
    split_ifs
    · rwa [selfDedup_loopTop]
    · rwa [selfDedup_process]
  · rw [handleMessage_of_drops hfailed hdrops, passed, if_neg hfailed, if_neg hsignature]
    by_cases hmem : info.signature ∈ w.items
    · rw [if_pos hmem, if_pos (decide_eq_true hmem), waiting_loopTop, Recent.offer_of_mem hmem,
        List.nil_append]
    · rw [if_neg hmem, if_neg (by simpa using hmem), waiting_process, List.flatMap_cons]

/-- Only a message and a send change what is waiting, and only a message the window. -/
theorem waiting_of_step (h : s.step parse e = some t) (hmessage : ∀ info, e ≠ .message info) :
    t.selfDedup = s.selfDedup ∧ (e ≠ .sendFailed →
      (s.handed e).toList ++ t.waiting parse = s.waiting parse) := by
  cases awaited_of_step h with
  | tick => exact ⟨rfl, fun _ => rfl⟩
  | connectFailed hphase | unsubscribed hphase =>
    exact ⟨rfl, fun _ => by simp [waiting, handed, reconnect, hphase]⟩
  | subscribed hphase =>
    rw [selfDedup_loopTop, waiting_loopTop]
    exact ⟨rfl, fun _ => by simp [waiting, handed, hphase]⟩
  | message => exact absurd rfl (hmessage _)
  | streamEnd hphase | wake hphase =>
    exact ⟨rfl, fun _ => by simp [waiting, handed, hphase]⟩
  | timedOut hphase =>
    rw [selfDedup_loopTop, waiting_loopTop]
    exact ⟨rfl, fun _ => by simp [waiting, handed, hphase]⟩
  | sent hphase =>
    refine ⟨selfDedup_handleLogs _ _ _ _, fun _ => ?_⟩
    rw [waiting_handleLogs, waiting, handed, hphase]
    rfl
  | sendFailed => exact ⟨rfl, fun hsend => absurd rfl hsend⟩

/-- A failed send leaves nothing waiting. -/
theorem waiting_of_sendFailed (h : s.step parse .sendFailed = some t) : t.waiting parse = [] := by
  cases awaited_of_step h
  rfl

/-- One step: what is handed over and what then waits was waiting or has just passed. -/
theorem delivery_step {w : Recent String selfDedupCapacity} (hw : Keeps s.selfDedup w)
    (h : s.step parse e = some t) : ∃ w' : Recent String selfDedupCapacity,
      Keeps t.selfDedup w' ∧ ∃ news, (∀ infos,
        (passed w (received [e] ++ infos)).flatMap (LogInfo.events parse) =
          news ++ (passed w' infos).flatMap (LogInfo.events parse)) ∧
        ((s.handed e).toList ++ t.waiting parse).Sublist (s.waiting parse ++ news) ∧
        (e ≠ .sendFailed → (s.handed e).toList ++ t.waiting parse = s.waiting parse ++ news) := by
  by_cases hmessage : ∃ info, e = .message info
  · obtain ⟨info, rfl⟩ := hmessage
    cases awaited_of_step h with
    | @message _ last hphase =>
      obtain ⟨w', hw', hnews⟩ := @passed_cons α parse s w hw info last
      have hwaiting : s.waiting parse = [] := waiting_receiving hphase
      refine ⟨w', hw', _, hnews, ?_, fun _ => ?_⟩
      · rw [hwaiting]
        exact List.Sublist.refl _
      · rw [hwaiting]
        rfl
  · obtain ⟨hselfDedup, hsame⟩ := waiting_of_step h (not_exists.mp hmessage)
    have hreceived : received [e] = [] := by
      cases e with
      | message info => exact absurd ⟨info, rfl⟩ hmessage
      | _ => rfl
    refine ⟨w, hselfDedup ▸ hw, [], fun infos => by rw [hreceived]; rfl, ?_, fun hsend => ?_⟩
    · by_cases hsend : e = .sendFailed
      · subst hsend
        rw [waiting_of_sendFailed h]
        exact List.nil_sublist _
      · rw [hsame hsend, List.append_nil]
    · rw [hsame hsend, List.append_nil]

theorem delivery_path {u : LogsFeed α} {es : List FeedEvent} {w : Recent String selfDedupCapacity}
    (hw : Keeps s.selfDedup w) (h : (logsFeed parse).Path Machine.free s es u) :
    let delivered := (logsFeed parse).trace handed s es ++ u.waiting parse
    let expected := s.waiting parse ++ (passed w (received es)).flatMap (LogInfo.events parse)
    delivered.Sublist expected ∧ ((∀ e ∈ es, e ≠ .sendFailed) → delivered = expected) := by
  induction h generalizing w with
  | nil s =>
    have hnone : s.waiting parse = s.waiting parse ++
        (passed w (received [])).flatMap (LogInfo.events parse) := (List.append_nil _).symm
    exact ⟨hnone ▸ List.Sublist.refl _, fun _ => hnone⟩
  | @cons s t u e es _ hstep _ ih =>
    obtain ⟨w', hw', news, hnews, hsublist, heq⟩ := delivery_step hw hstep
    obtain ⟨ihsublist, iheq⟩ := ih hw'
    have hexpected : (passed w (received (e :: es))).flatMap (LogInfo.events parse) =
        news ++ (passed w' (received es)).flatMap (LogInfo.events parse) := by
      rw [← hnews, ← received_append]
      rfl
    rw [Machine.trace_cons handed hstep, hexpected, List.append_assoc,
      ← List.append_assoc (s.waiting parse)]
    constructor
    · refine (ihsublist.append_left _).trans ?_
      rw [← List.append_assoc]
      exact hsublist.append_right _
    · intro hsends
      rw [List.forall_mem_cons] at hsends
      rw [iheq hsends.2, ← List.append_assoc, heq hsends.1]

end LogsFeed

/-- **Delivery.** In every run the receiver is handed the events of the messages that pass, each
once and in order, but for those that are still waiting. Failed sends only take some of them
away. -/
theorem feedDelivery {s u : LogsFeed α} {es : List FeedEvent} (hs : (logsFeed parse).init s)
    (h : (logsFeed parse).Path Machine.free s es u) :
    let delivered := (logsFeed parse).trace LogsFeed.handed s es ++ u.waiting parse
    let expected := (passed (Recent.empty : Recent String selfDedupCapacity)
      (received es)).flatMap (LogInfo.events parse)
    delivered.Sublist expected ∧ ((∀ e ∈ es, e ≠ .sendFailed) → delivered = expected) := by
  obtain ⟨now, rfl⟩ := hs
  exact LogsFeed.delivery_path (keeps_new selfDedupCapacity) h

/-- A repeated message, a failed one, and one whose event waits. -/
def repeatedStream : List FeedEvent :=
  [.subscribed, .message LogsFeed.pumpLog, .sent, .message LogsFeed.pumpLog,
    .message ⟨2, true, "failed", ["Program data: AAAA"]⟩,
    .message ⟨3, false, "third", ["Program log: ok", "Program data: AAAA"]⟩]

theorem feedDelivery_repeatedStream : ∃ u : LogsFeed Unit,
    (logsFeed LogsFeed.parseAny).trace LogsFeed.handed (.subscribe 0) repeatedStream = [(1, ())] ∧
      u.waiting LogsFeed.parseAny = [(3, ())] ∧
      [(1, ()), (3, ())] = (passed (Recent.empty : Recent String selfDedupCapacity)
        (received repeatedStream)).flatMap (LogInfo.events LogsFeed.parseAny) := by
  have hrun : (((logsFeed LogsFeed.parseAny).run (.subscribe 0) repeatedStream).any fun u =>
      u.waiting LogsFeed.parseAny == [(3, ())]) = true := by
    decide
  have htrace : (logsFeed LogsFeed.parseAny).trace LogsFeed.handed (.subscribe 0)
      repeatedStream = [(1, ())] := by
    decide
  obtain ⟨u, hu, hwaiting⟩ := (Option.any_eq_true _ _).mp hrun
  obtain ⟨-, hdelivered⟩ := @feedDelivery Unit LogsFeed.parseAny _ _ _ ⟨0, rfl⟩ (.of_run hu)
  have hall := hdelivered (by decide)
  rw [htrace, beq_iff_eq.mp hwaiting] at hall
  exact ⟨u, htrace, beq_iff_eq.mp hwaiting, hall⟩

end Loggaper
