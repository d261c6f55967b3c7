import Loggaper.Lib.Transition
import Loggaper.Manager.Actor

/-!
# The manager among its tasks

The whole system: the actor, its FIFO mailbox, the background tasks that still have messages to
send, and the log of effects. One event is a message posted by another part of the program, a
change of the wallet settings, a task that goes on, or one turn of the actor. Tasks go on in any
order and after any delay, so every latency of the broker and every reordering of delayed messages
is some run of `manager`.

- `manager`: the machine.
- `InFlight`: what a message and a task carry, and the law that a step moves it but never
  loses or makes any, apart from what the turn takes and spawns.
-/

namespace Loggaper

/-- What a task is waiting for. -/
inductive Answer
  | go
  | bought (result : Except BrokerError BuyReceipt)
  | mcaps (bonding jupiter : Option ℚ)
  | live (snapshot : LivePositionSnapshot)

/-- A task goes on: what is left of it, and the message that it sends. -/
def Task.resume : Task → Answer → Option (Option Task × PositionMessage)
  | .fanOut (msg :: left), .go => some (if left.isEmpty then none else some (.fanOut left), msg)
  | .buy order latestPool, .bought result => some (none, .buyCompleted order latestPool result)
  | .sell key percent reason, .go => some (none, .executeSell key percent reason)
  | .exitMcapPoll poll, .mcaps bonding jupiter =>
    let r := decideOpenExitMcap bonding jupiter poll.poolRawMcap poll.forceJupiter
    some (none, .applyExitMcapRefresh poll.mint r.1 r.2)
  | .liveSnapshot mint _ _ _, .live snapshot => some (none, .applyLiveSnapshot mint snapshot)
  | _, _ => none

/-- Messages that other parts of the program send. The rest are the manager's own. -/
def PositionMessage.external : PositionMessage → Bool
  | updatePool _ => true
  | updateTokenBucket _ => true
  | setPaused _ => true
  | initiateBuy .. => true
  | abandonPosition .. => true
  | tick => true
  | _ => false

structure System where
  actor : PositionManagerActor
  mailbox : List PositionMessage
  tasks : List Task
  log : List Effect

inductive Event
  | post (msg : PositionMessage)
  | patchWallets (entries : List WalletEntryConfig)
  | resume (i : ℕ) (answer : Answer)
  | turn (env : TurnEnv)

namespace System

def step (s : System) : Event → Option System
  | .post msg => if msg.external then some { s with mailbox := s.mailbox ++ [msg] } else none
  | .patchWallets entries =>
    some { s with actor.wallets := s.actor.wallets.applyConfigPatch entries }
  | .resume i answer =>
    match s.tasks[i]? with
    | none => none
    | some task =>
      match task.resume answer with
      | none => none
      | some (left, msg) =>
        some { s with
          mailbox := s.mailbox ++ [msg]
          tasks := left.toList ++ s.tasks.eraseIdx i }
  | .turn env =>
    match s.mailbox with
    | [] => none
    | msg :: rest =>
      let o := s.actor.handle env msg
      some ⟨o.actor, rest, s.tasks ++ o.spawned, s.log ++ o.effects⟩

/-- The manager as `PositionManagerActor::new` leaves it, for any configuration and wallets. -/
structure Fresh (s : System) : Prop where
  positions : s.actor.positions = ∅
  pendingMints : s.actor.pendingMints = ∅
  pendingWalletBuys : s.actor.pendingWalletBuys = ∅
  closedMints : s.actor.closedMints = ∅
  mailbox : s.mailbox = []
  tasks : s.tasks = []
  log : s.log = []

end System

/-- The position manager as a machine. -/
def manager : Machine System Event where
  init := System.Fresh
  step := System.step

/-! ## The steps -/

namespace System

variable {s t : System}

theorem step_post {msg : PositionMessage} (h : s.step (.post msg) = some t) :
    msg.external = true ∧ t = { s with mailbox := s.mailbox ++ [msg] } := by
  simp only [step] at h
  split_ifs at h with hext
  exact ⟨hext, by simpa using h.symm⟩

theorem step_resume {i : ℕ} {answer : Answer} (h : s.step (.resume i answer) = some t) :
    ∃ task left msg, s.tasks[i]? = some task ∧ task.resume answer = some (left, msg) ∧
      t = { s with mailbox := s.mailbox ++ [msg], tasks := left.toList ++ s.tasks.eraseIdx i } := by
  simp only [step] at h
  cases htask : s.tasks[i]? with
  | none => simp [htask] at h
  | some task =>
    cases hres : task.resume answer with
    | none => simp [htask, hres] at h
    | some r =>
      obtain ⟨left, msg⟩ := r
      refine ⟨task, left, msg, rfl, hres, ?_⟩
      simpa [htask, hres] using h.symm

/-- **One turn.** The actor takes the oldest message. -/
theorem step_turn {env : TurnEnv} (h : s.step (.turn env) = some t) :
    ∃ msg rest, s.mailbox = msg :: rest ∧
      t = ⟨(s.actor.handle env msg).actor, rest, s.tasks ++ (s.actor.handle env msg).spawned,
        s.log ++ (s.actor.handle env msg).effects⟩ := by
  simp only [step] at h
  cases hbox : s.mailbox with
  | nil => simp [hbox] at h
  | cons msg rest =>
    refine ⟨msg, rest, rfl, ?_⟩
    simpa [hbox] using h.symm

/-- Only a turn touches rows, gates and log. -/
theorem step_idle {e : Event} (h : s.step e = some t) (he : ∀ env, e ≠ .turn env) :
    t.log = s.log ∧ t.actor.positions = s.actor.positions ∧
      t.actor.pendingMints = s.actor.pendingMints ∧ t.actor.closedMints = s.actor.closedMints ∧
      t.actor.config = s.actor.config ∧ t.actor.strategy = s.actor.strategy := by
  cases e with
  | post msg =>
    obtain ⟨-, rfl⟩ := step_post h
    exact ⟨rfl, rfl, rfl, rfl, rfl, rfl⟩
  | patchWallets entries =>
    cases h
    exact ⟨rfl, rfl, rfl, rfl, rfl, rfl⟩
  | resume i answer =>
    obtain ⟨task, left, msg, -, -, rfl⟩ := step_resume h
    exact ⟨rfl, rfl, rfl, rfl, rfl, rfl⟩
  | turn env => exact absurd rfl (he env)

end System

/-! ## What is in flight -/

/-- A measure of what messages carry. Messages from outside and refreshed prices carry nothing,
and a buy carries the same whatever the broker answers. -/
structure InFlight (α : Type*) where
  ofMessage : PositionMessage → Multiset α
  external : ∀ msg, msg.external = true → ofMessage msg = 0
  bought : ∀ order pool result result',
    ofMessage (.buyCompleted order pool result) = ofMessage (.buyCompleted order pool result')
  refreshed : ∀ mint mcap useJupiter, ofMessage (.applyExitMcapRefresh mint mcap useJupiter) = 0
  live : ∀ mint snapshot, ofMessage (.applyLiveSnapshot mint snapshot) = 0

namespace InFlight

variable {α : Type*} (f : InFlight α)

/-- A task carries what it will send. -/
def ofTask : Task → Multiset α
  | .fanOut left => (left.map f.ofMessage).sum
  | .buy order latestPool => f.ofMessage (.buyCompleted order latestPool (.error (.custom "")))
  | .sell key percent reason => f.ofMessage (.executeSell key percent reason)
  | .exitMcapPoll _ => 0
  | .liveSnapshot .. => 0

theorem ofTask_resume {task : Task} {answer : Answer} {left : Option Task} {msg : PositionMessage}
    (h : task.resume answer = some (left, msg)) :
    f.ofTask task = (left.toList.map f.ofTask).sum + f.ofMessage msg := by
  unfold Task.resume at h
  split at h
  · rename_i m ms
    cases h
    cases ms with
    | nil => simp [ofTask]
    | cons m' ms => simp [ofTask, add_comm]
  · cases h
    simp [ofTask, f.bought _ _ _ (.error (.custom ""))]
  · cases h
    simp [ofTask]
  · cases h
    simp [ofTask, f.refreshed]
  · cases h
    simp [ofTask, f.live]
  · cases h

def ofTasks (ts : List Task) : Multiset α := (ts.map f.ofTask).sum

def ofMailbox (msgs : List PositionMessage) : Multiset α := (msgs.map f.ofMessage).sum

/-- All that is in flight in a state. -/
def total (s : System) : Multiset α := f.ofMailbox s.mailbox + f.ofTasks s.tasks

@[simp] theorem ofTasks_nil : f.ofTasks [] = 0 := rfl

@[simp] theorem ofTasks_cons (t : Task) (ts : List Task) :
    f.ofTasks (t :: ts) = f.ofTask t + f.ofTasks ts := by simp [ofTasks]

@[simp] theorem ofTasks_append (ts us : List Task) :
    f.ofTasks (ts ++ us) = f.ofTasks ts + f.ofTasks us := by simp [ofTasks]

@[simp] theorem ofMailbox_nil : f.ofMailbox [] = 0 := rfl

@[simp] theorem ofMailbox_cons (msg : PositionMessage) (msgs : List PositionMessage) :
    f.ofMailbox (msg :: msgs) = f.ofMessage msg + f.ofMailbox msgs := by simp [ofMailbox]

@[simp] theorem ofMailbox_append (ms ns : List PositionMessage) :
    f.ofMailbox (ms ++ ns) = f.ofMailbox ms + f.ofMailbox ns := by simp [ofMailbox]

theorem mem_ofTasks {ts : List Task} {a : α} (h : a ∈ f.ofTasks ts) : ∃ t ∈ ts, a ∈ f.ofTask t := by
  induction ts with
  | nil => simp at h
  | cons t ts ih =>
    rw [ofTasks_cons, Multiset.mem_add] at h
    rcases h with h | h
    · exact ⟨t, List.mem_cons_self, h⟩
    · obtain ⟨t', ht', ha⟩ := ih h
      exact ⟨t', List.mem_cons_of_mem t ht', ha⟩

theorem ofTasks_eraseIdx {ts : List Task} {i : ℕ} {t : Task} (h : ts[i]? = some t) :
    f.ofTasks ts = f.ofTask t + f.ofTasks (ts.eraseIdx i) := by
  obtain ⟨hi, rfl⟩ := List.getElem?_eq_some_iff.mp h
  have hp := (List.getElem_cons_eraseIdx_perm hi).map f.ofTask
  rw [← ofTasks_cons]
  exact hp.sum_eq.symm

variable {s t : System}

/-- Outside the turns nothing is lost and nothing is made. -/
theorem total_idle {e : Event} (h : s.step e = some t) (he : ∀ env, e ≠ .turn env) :
    f.total t = f.total s := by
  cases e with
  | post msg =>
    obtain ⟨hext, rfl⟩ := System.step_post h
    simp [total, f.external msg hext]
  | patchWallets entries =>
    cases h
    rfl
  | resume i answer =>
    obtain ⟨task, left, msg, htask, hres, rfl⟩ := System.step_resume h
    simp only [total, ofMailbox_append, ofMailbox_cons, ofMailbox_nil, add_zero, ofTasks_append,
      f.ofTasks_eraseIdx htask, f.ofTask_resume hres]
    rw [← ofTasks]
    ac_rfl
  | turn env => exact absurd rfl (he env)

/-- A turn takes what its message carries and adds what it spawns. -/
theorem total_turn {env : TurnEnv} {msg : PositionMessage} {rest : List PositionMessage}
    (hbox : s.mailbox = msg :: rest) (h : s.step (.turn env) = some t) :
    f.total s = f.ofMessage msg + f.ofMailbox rest + f.ofTasks s.tasks ∧
      f.total t = f.ofMailbox rest + f.ofTasks s.tasks +
        f.ofTasks (s.actor.handle env msg).spawned := by
  obtain ⟨msg', rest', hbox', rfl⟩ := System.step_turn h
  rw [hbox] at hbox'
  cases hbox'
  exact ⟨by simp [total, hbox], by simp [total, add_assoc]⟩

end InFlight

end Loggaper
