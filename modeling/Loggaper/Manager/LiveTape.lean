import Loggaper.Manager.Noted
import Loggaper.Manager.RowChange
import Loggaper.Manager.SellFlags
import Loggaper.Manager.TradeBudget
import Loggaper.Scoring.LivePosition

/-!
# The live tape of a row

A refresh of a mint starts from one of its rows and its snapshot is applied to all of them. The
task reads the bucket while the manager goes on: other refreshes of the mint start and end, and a
fill may open a row.

- `liveNotes`: where each snapshot in flight comes from, and the states of the buckets so far.
- `snapshotsOwn_of_keepsSources`: a snapshot is that of every row it is applied to, and no tape goes
  back in time, on every run that starts and overtakes refreshes only where they agree.
- `snapshot_of_another`: a snapshot from the entry time of another wallet's row, and one that takes
  the tape back.
-/

namespace Loggaper

/-! ## Where a snapshot comes from -/

/-- The tape and the entry time that a snapshot is computed with. -/
structure LiveSource where
  prev : Option EarlyTapePoint
  entryTime : ℕ
  deriving DecidableEq

def Position.liveSource (p : Position) : LiveSource := ⟨p.liveTapeCurr, p.entryTime⟩

/-- The source of a refresh of this mint. -/
def Task.sourceFor (mint : Address) : Task → Option LiveSource
  | .liveSnapshot mint' prev entryTime _ => if mint' = mint then some ⟨prev, entryTime⟩ else none
  | _ => none

/-- The task is no fan-out that still has snapshots to send. -/
def Task.NoSnapshots : Task → Prop
  | .fanOut left => ∀ mint live, .applyLiveSnapshot mint live ∉ left
  | _ => True

/-- The states of each mint's bucket so far, the current one last. -/
abbrev Buckets := Address → List TokenBucket

/-- What a refresh is told: its readings, the states of the bucket that they come from, and the time
at which it starts to read. -/
structure LiveAnswer where
  reads : LiveReads
  moment : ℕ → ℕ
  now : ℕ

/-- The eight readings of the bucket come one after the other, none from before `since`. -/
def LiveAnswer.ReadsSince (x : LiveAnswer) (since : ℕ) (history : List TokenBucket) : Prop :=
  (∀ k < 8, since ≤ x.moment k ∧ history[x.moment k]? = some (x.reads.bucket k)) ∧
    ∀ k < 7, x.moment k ≤ x.moment (k + 1)

instance (x : LiveAnswer) (since : ℕ) (history : List TokenBucket) :
    Decidable (x.ReadsSince since history) := inferInstanceAs (Decidable (_ ∧ _))

/-- The bucket of a mint moves on to a state whose counters are no smaller. -/
def moveBucket (buckets : Buckets) (d : Address × TokenBucket) : Option Buckets :=
  if (∀ b ∈ (buckets d.1).getLast?, b.Before d.2) ∧ d.2.participants.length < 2 ^ 64 then
    some (Function.update buckets d.1 (buckets d.1 ++ [d.2]))
  else none

/-- A refresh is noted with the state of its bucket when it starts, its snapshot with its source. -/
def liveNotes (tanh : ℚ → ℚ) (bundleTolerance : ℚ) :
    Notes (Option LiveSource) ℕ Buckets (Address × TokenBucket) LiveAnswer where
  start buckets := ∀ mint, buckets mint = []
  posted := none
  left := 0
  spawned buckets
    | .liveSnapshot mint .. => (buckets mint).length - 1
    | _ => 0
  answered buckets task since answer x :=
    match task, answer with
    | .liveSnapshot mint prev entryTime early, .live live =>
      let held := x.now - entryTime
      if x.ReadsSince since (buckets mint) ∧
          live = snapshotLivePosition tanh x.reads prev held early bundleTolerance then
        some (some ⟨prev, entryTime⟩)
      else none
    | _, _ => some none
  turn buckets _ _ _ _ := buckets
  outside := moveBucket

/-- The manager with the sources of its snapshots. -/
abbrev Taped := Noted (Option LiveSource) ℕ Buckets

namespace Taped

variable (w : Taped)

/-- The row under a key. -/
def row (key : PositionKey) : Option Position := AList.lookup key w.actor.positions

/-- The next snapshot is each row's own: computed with its entry time and against its tape, and no
earlier than this tape. -/
def SnapshotsOwn : Prop :=
  ∀ mint live source, w.mailbox.head? = some (.applyLiveSnapshot mint live, source) →
    ∀ key p, w.row key = some p → key.mint = mint →
      source = some p.liveSource ∧ ∀ t ∈ p.liveTapeCurr, t.counters ≤ live.tape.counters

/-! ## Runs that keep the sources -/

/-- The sources of the refreshes of a mint in flight, apart from the message that is next. -/
def sourcesBehind (mint : Address) : List LiveSource :=
  w.tasks.filterMap (fun t => t.1.sourceFor mint) ++
    w.mailbox.tail.filterMap fun m =>
      match m with
      | (.applyLiveSnapshot mint' _, source) => if mint' = mint then source else none
      | _ => none

/-- All rows of a mint. -/
def AllRows (mint : Address) (P : Position → Prop) : Prop :=
  ∀ e ∈ w.actor.positions.entries, e.1.mint = mint → P e.2

/-- A refresh of the mint may start from any of its rows: they agree. -/
def RowsAgree (mint : Address) : Prop :=
  w.AllRows mint fun p => w.AllRows mint fun q => q.liveSource = p.liveSource

/-- What a turn must not do to the sources. -/
def TurnKeepsSources (env : TurnEnv) : PositionMessage × Option LiveSource → Prop
  -- a refresh starts where the rows of the mint agree
  | (.updateTokenBucket pool, _) => w.RowsAgree pool.mint
  | (.tick, _) => ∀ e ∈ w.actor.positions.entries,
      w.actor.config.exitV4.enabled = true ∧ w.actor.liveSnapshotDue env.instantMs e.1.mint = true →
        w.RowsAgree e.1.mint
  -- a fill opens its row where each refresh of the mint, its own included, is that of a row opened
  -- in this second that has no tape
  | (.buyCompleted order _ (.ok r), _) =>
    w.actor.abortsFill env order r = false →
      (∀ source ∈ w.sourcesBehind order.mint, source = ⟨none, env.clock 0⟩) ∧
        (order.mint ∈ w.actor.bucketCache →
          w.AllRows order.mint fun p => p.liveSource = ⟨none, env.clock 0⟩)
  -- a snapshot overtakes no refresh of the mint that starts from another tape
  | (.applyLiveSnapshot mint live, _) =>
    w.AllRows mint fun _ => ∀ source ∈ w.sourcesBehind mint, source.prev = some live.tape
  | _ => True

def KeepsSources : NotedEvent (Address × TokenBucket) LiveAnswer → Prop
  | .inside (.turn env) _ => ∀ m ∈ w.mailbox.head?, w.TurnKeepsSources env m
  | _ => True

instance (mint : Address) (P : Position → Prop) [DecidablePred P] :
    Decidable (w.AllRows mint P) :=
  inferInstanceAs (Decidable (∀ e ∈ w.actor.positions.entries, _ → _))

instance (mint : Address) : Decidable (w.RowsAgree mint) :=
  inferInstanceAs (Decidable (w.AllRows mint fun p => w.AllRows mint fun q =>
    q.liveSource = p.liveSource))

instance (env : TurnEnv) : DecidablePred (w.TurnKeepsSources env)
  | (.updateTokenBucket pool, _) => inferInstanceAs (Decidable (w.RowsAgree pool.mint))
  | (.tick, _) => inferInstanceAs (Decidable (∀ e ∈ w.actor.positions.entries, _ → _))
  | (.buyCompleted _ _ (.ok _), _) => inferInstanceAs (Decidable (_ → _ ∧ (_ → _)))
  | (.applyLiveSnapshot mint _, _) => inferInstanceAs (Decidable (w.AllRows mint fun _ => _))
  | (.updatePool _, _) | (.applyExitMcapRefresh .., _) | (.setPaused _, _) | (.initiateBuy .., _)
  | (.clearPendingMint _, _) | (.executeBuy _, _) | (.buyCompleted _ _ (.error _), _)
  | (.executeSell .., _) | (.abandonPosition .., _) => .isTrue trivial

instance : DecidablePred w.KeepsSources
  | .inside (.turn env) _ =>
    inferInstanceAs (Decidable (∀ m ∈ w.mailbox.head?, w.TurnKeepsSources env m))
  | .inside (.post _) _ | .inside (.patchWallets _) _ | .inside (.resume ..) _ | .outside _ =>
    .isTrue trivial

end Taped

/-! ## What a turn does to the sources -/

namespace PositionManagerActor

variable {m : PositionManagerActor} {env : TurnEnv} {msg : PositionMessage} {mint : Address}
  {source : LiveSource} {task : Task}

/-- The turn starts a refresh of the mint, when the mint has a row. -/
def StartsRefresh (m : PositionManagerActor) (env : TurnEnv) (mint : Address) :
    PositionMessage → Prop
  | .updateTokenBucket pool => pool.mint = mint
  | .tick => m.config.exitV4.enabled = true ∧ m.liveSnapshotDue env.instantMs mint = true
  | .buyCompleted order _ (.ok r) =>
    m.abortsFill env order r = false ∧ order.mint = mint ∧ mint ∈ m.bucketCache
  | _ => False

/-- A refresh starts from one of the rows of its mint. -/
theorem source_spawnLiveSnapshotRefresh {mint' : Address}
    (h : task ∈ m.spawnLiveSnapshotRefresh env mint') (hs : source ∈ task.sourceFor mint) :
    mint' = mint ∧ mint ∈ m.bucketCache ∧ ∃ key p, AList.lookup key m.positions = some p ∧
      key.mint = mint ∧ p.liveSource = source := by
  unfold spawnLiveSnapshotRefresh at h
  split_ifs at h with hbucket
  · dsimp only at h
    split at h
    · rename_i k p hrow
      rw [List.mem_singleton] at h
      subst h
      have hrow' := List.mem_of_getElem? hrow
      rw [List.mem_filter, beq_iff_eq] at hrow'
      simp only [Task.sourceFor, Option.mem_def, Option.ite_none_right_eq_some,
        Option.some.injEq] at hs
      obtain ⟨rfl, rfl⟩ := hs
      exact ⟨rfl, hbucket, k, p, AList.mem_lookup_iff.mpr hrow'.1, hrow'.2, rfl⟩
    · cases h
  · cases h

/-- A fill that is kept starts a refresh, before its row is there. -/
theorem applyBuyResult_spawned (order : BuyOrder) (pool : Pool) (r : BuyReceipt)
    (h : task ∈ (m.applyBuyResult env order pool (.ok r)).spawned) :
    m.abortsFill env order r = false ∧ task ∈ m.spawnLiveSnapshotRefresh env order.mint := by
  rcases m.applyBuyResult_ok env order pool r with
    ⟨-, spike, sr, -, -, heq⟩ | ⟨hkeep, sold, -, heq⟩
  · rw [heq] at h
    cases h
  · rw [heq] at h
    simp only [Outcome.after, openPosition] at h
    split_ifs at h
    · exact ⟨hkeep, h⟩
    · cases h

theorem executeSell_spawned (key : PositionKey) (percent : ℚ) (reason : SellReason) :
    (m.executeSell env key percent reason).spawned = [] := by
  unfold executeSell
  split
  · dsimp only
    split
    · rfl
    · split_ifs <;> rfl
  · rfl

/-- **A refresh that a turn spawns** starts from a row that the mint has before the turn. -/
theorem source_spawned (h : task ∈ (m.handle env msg).spawned) (hs : source ∈ task.sourceFor mint) :
    m.StartsRefresh env mint msg ∧ ∃ key p, AList.lookup key m.positions = some p ∧
      key.mint = mint ∧ p.liveSource = source := by
  cases msg with
  | updateTokenBucket pool =>
    simp only [handle, updateTokenBucket] at h
    split_ifs at h
    · obtain ⟨hmint, -, key, q, hq, hkey, hsource⟩ := source_spawnLiveSnapshotRefresh h hs
      rw [lookup_updateRows] at hq
      obtain ⟨p, hp, rfl⟩ := Option.map_eq_some_iff.mp hq
      refine ⟨hmint, key, p, hp, hkey, ?_⟩
      rw [← hsource]
      split_ifs <;> rfl
    · cases h
  | tick =>
    simp only [handle, tick, List.mem_append] at h
    rcases h with h | h
    · unfold refreshDueSnapshots at h
      split_ifs at h with henabled
      · obtain ⟨mint', hmint', h⟩ := List.mem_flatMap.mp h
        obtain ⟨rfl, -, hrow⟩ := source_spawnLiveSnapshotRefresh h hs
        exact ⟨⟨henabled, (List.mem_filter.mp hmint').2⟩, hrow⟩
      · cases h
    · obtain ⟨e, -, he⟩ := List.mem_flatMap.mp h
      simp only [rowTasks, List.mem_append, Option.mem_toList, Option.map_eq_some_iff] at he
      rcases he with ⟨poll, -, rfl⟩ | ⟨a, -, rfl⟩
      · cases hs
      · cases hs
  | buyCompleted order pool result =>
    cases result with
    | error e => cases h
    | ok r =>
      obtain ⟨hkeep, hstart⟩ := applyBuyResult_spawned order pool r h
      obtain ⟨rfl, hbucket, hrow⟩ := source_spawnLiveSnapshotRefresh hstart hs
      exact ⟨⟨hkeep, rfl, hbucket⟩, hrow⟩
  | initiateBuy pool amountSol tier dev early snap =>
    simp only [handle, initiateBuy] at h
    split_ifs at h <;> simp only [idle, List.not_mem_nil, List.mem_singleton] at h
    subst h
    cases hs
  | executeBuy order =>
    simp only [handle, executeBuy] at h
    split_ifs at h
    · cases h
    · cases h
    · cases h
    · split at h
      · cases h
      · rw [List.mem_singleton] at h
        subst h
        cases hs
  | executeSell key percent reason =>
    rw [handle, executeSell_spawned] at h
    cases h
  | _ => cases h

/-- A fan-out holds orders, then the end of its window. -/
theorem noSnapshots_spawned (h : task ∈ (m.handle env msg).spawned) : task.NoSnapshots := by
  rcases m.spawned_cases h with
    hquiet | ⟨order, pool, -, rfl⟩ | ⟨pool, amountSol, tier, dev, early, snap, -, rfl⟩
  · cases task with
    | fanOut left => cases hquiet
    | _ => trivial
  · trivial
  · intro mint live hmem
    simp [fanOutMessages] at hmem

/-- A row after a turn has the source it had, unless a snapshot is applied or a fill opens it. -/
theorem liveSource_kept {key : PositionKey} {q : Position}
    (hmsg : ∀ mint live, msg ≠ .applyLiveSnapshot mint live)
    (hq : AList.lookup key (m.handle env msg).actor.positions = some q) :
    (∃ p, AList.lookup key m.positions = some p ∧ q.liveSource = p.liveSource) ∨
      ∃ order pool r, msg = .buyCompleted order pool (.ok r) ∧ m.abortsFill env order r = false ∧
        key = order.key ∧ q.liveSource = ⟨none, env.clock 0⟩ := by
  rcases rowChange_or_opened hq with ⟨p, hp, hchange⟩ | ⟨order, pool, r, rfl, hkeep, rfl, rfl⟩
  · refine .inl ⟨p, hp, ?_⟩
    rw [Position.liveSource, Position.liveSource, hchange.tape_kept hmsg, hchange.signal_kept.1]
  · refine .inr ⟨order, pool, r, rfl, hkeep, rfl, ?_⟩
    have htape := (openedPosition_feeds m.config order pool r (env.clock 0)).2.1
    have htime := (openedPosition_signal m.config order pool r (env.clock 0)).1
    rw [Position.liveSource, htape, htime]

/-- A snapshot becomes the tape of all rows of its mint. -/
theorem liveSource_applyLiveSnapshot {live : LivePositionSnapshot} {key : PositionKey}
    {q : Position}
    (hq : AList.lookup key (m.handle env (.applyLiveSnapshot mint live)).actor.positions = some q) :
    ∃ p, AList.lookup key m.positions = some p ∧
      q.liveSource = if key.mint = mint then ⟨some live.tape, p.entryTime⟩ else p.liveSource := by
  rw [handle, applyLiveSnapshot, lookup_updateRows] at hq
  obtain ⟨p, hp, rfl⟩ := Option.map_eq_some_iff.mp hq
  refine ⟨p, hp, ?_⟩
  split_ifs <;> rfl

end PositionManagerActor

namespace Taped

variable {w : Taped} {mint : Address} {source : LiveSource}

/-! ## Sources are kept -/

theorem AllRows.of_row {P : Position → Prop} (h : w.AllRows mint P) {key : PositionKey}
    {p : Position} (hp : w.row key = some p) (hmint : key.mint = mint) : P p :=
  h ⟨key, p⟩ (AList.mem_lookup_iff.mp hp) hmint

variable (w) in
/-- A snapshot with this source is that of every row of the mint. -/
def Fits (mint : Address) (source : LiveSource) : Prop :=
  ∀ key p, w.row key = some p → key.mint = mint → p.liveSource = source

/-- A refresh in flight that started when the bucket was in state `since`. -/
structure RefreshSound (w : Taped) (mint : Address) (source : LiveSource) (since : ℕ) : Prop where
  fits : w.Fits mint source
  prev : ∀ t ∈ source.prev, ∃ b ∈ (w.record mint)[since]?, t.UpTo b

/-- A snapshot in flight. -/
structure SnapshotSound (w : Taped) (mint : Address) (source : LiveSource)
    (live : LivePositionSnapshot) : Prop where
  fits : w.Fits mint source
  prev : ∀ t ∈ source.prev, t.counters ≤ live.tape.counters
  tape : ∃ b ∈ (w.record mint).getLast?, live.tape.UpTo b

/-- Refreshes and snapshots in flight are those of the rows, and no tape is ahead of its bucket. -/
structure Sound (w : Taped) : Prop where
  grows : ∀ mint, GrowingHistory (w.record mint)
  rows : ∀ key p, w.row key = some p → ∀ t ∈ p.liveTapeCurr,
    ∃ b ∈ (w.record key.mint).getLast?, t.UpTo b
  tasks : ∀ r ∈ w.tasks, ∀ mint, ∀ source ∈ r.1.sourceFor mint, w.RefreshSound mint source r.2
  messages : ∀ m ∈ w.mailbox, ∀ mint live, m.1 = .applyLiveSnapshot mint live →
    ∃ source, m.2 = some source ∧ w.SnapshotSound mint source live
  fanOuts : ∀ r ∈ w.tasks, r.1.NoSnapshots

theorem Sound.own (h : w.Sound) : w.SnapshotsOwn := by
  intro mint live source hhead key p hp hmint
  obtain ⟨source', rfl, hsound⟩ := h.messages _ (List.mem_of_head? hhead) mint live rfl
  have hfits := hsound.fits key p hp hmint
  refine ⟨congrArg some hfits.symm, fun t ht => hsound.prev t ?_⟩
  rw [← hfits]
  exact ht

section
variable {tanh : ℚ → ℚ} {tolerance : ℚ}

theorem sound_fresh (h : (liveNotes tanh tolerance).Fresh w) : w.Sound := by
  have hnone : ∀ mint, w.record mint = [] := h.record
  constructor
  · intro mint
    rw [hnone]
    exact ⟨.nil, by simp⟩
  · intro key p hp
    rw [row, h.lookup] at hp
    cases hp
  · intro r hr
    simp [h.tasks] at hr
  · intro m hm
    simp [h.mailbox] at hm
  · intro r hr
    simp [h.tasks] at hr

/-- What a refresh sends is a sound snapshot. -/
theorem Sound.snapshot (h : w.Sound) {since : ℕ} {x : LiveAnswer} {prev : Option EarlyTapePoint}
    {entryTime held : ℕ} {early : List Address}
    (hrefresh : w.RefreshSound mint ⟨prev, entryTime⟩ since)
    (hreads : x.ReadsSince since (w.record mint)) :
    w.SnapshotSound mint ⟨prev, entryTime⟩
      (snapshotLivePosition tanh x.reads prev held early tolerance) := by
  obtain ⟨hfrom, hthird⟩ := hreads.1 0 (by norm_num)
  have hsecond := (hreads.1 1 (by norm_num)).2
  have hle := hreads.2 0 (by norm_num)
  have hne : w.record mint ≠ [] := by
    intro hnil
    rw [hnil] at hsecond
    cases hsecond
  have hlast : (w.record mint)[(w.record mint).length - 1]? =
      some ((w.record mint).getLast hne) := by
    rw [← List.getLast?_eq_getElem?, List.getLast?_eq_some_getLast]
  have hlt : x.moment 1 < (w.record mint).length := (List.getElem?_eq_some_iff.mp hsecond).1
  constructor
  · exact hrefresh.fits
  · intro t ht
    obtain ⟨b, hb, hupto⟩ := hrefresh.prev t ht
    exact le_trans hupto ((h.grows mint).counters_between hfrom hle (Nat.le_sub_one_of_lt hlt) hb
      hthird hsecond hlast x.reads.mcapSol).1
  · exact ⟨_, List.getLast?_eq_some_getLast hne, ((h.grows mint).counters_between le_rfl hle
      (Nat.le_sub_one_of_lt hlt) hthird hthird hsecond hlast x.reads.mcapSol).2⟩

end

/-! ## A bucket moves on -/

/-- The record after a bucket has moved on: older states keep their places, and no tape is ahead. -/
theorem record_moved {buckets buckets' : Buckets} {d : Address × TokenBucket}
    (h : moveBucket buckets d = some buckets') (hgrows : ∀ mint, GrowingHistory (buckets mint))
    (mint : Address) :
    GrowingHistory (buckets' mint) ∧
      (∀ (i : ℕ) (b : TokenBucket), (buckets mint)[i]? = some b → (buckets' mint)[i]? = some b) ∧
      ∀ t : EarlyTapePoint, (∃ b ∈ (buckets mint).getLast?, t.UpTo b) →
        ∃ b ∈ (buckets' mint).getLast?, t.UpTo b := by
  obtain ⟨mint', b'⟩ := d
  simp only [moveBucket, Option.ite_none_right_eq_some, Option.some.injEq] at h
  obtain ⟨⟨hlast, hfits⟩, rfl⟩ := h
  by_cases hmint : mint = mint'
  · subst hmint
    rw [Function.update_self]
    refine ⟨(hgrows mint).concat hlast hfits, fun i b hb => ?_, fun t ht => ?_⟩
    · rw [List.getElem?_append_left (List.getElem?_eq_some_iff.mp hb).1]
      exact hb
    · obtain ⟨b, hb, hupto⟩ := ht
      exact ⟨b', by simp, hupto.mono (hlast b hb) hfits⟩
  · rw [Function.update_of_ne hmint]
    exact ⟨hgrows mint, fun i b hb => hb, fun t ht => ht⟩

theorem Sound.moved (h : w.Sound) {buckets' : Buckets} {d : Address × TokenBucket}
    (hmove : moveBucket w.record d = some buckets') : Sound { w with record := buckets' } := by
  have hrecord := record_moved hmove h.grows
  refine ⟨fun mint => (hrecord mint).1, ?_, ?_, ?_, h.fanOuts⟩
  · intro key p hp t ht
    exact (hrecord key.mint).2.2 t (h.rows key p hp t ht)
  · intro r hr mint source hsource
    have hrefresh := h.tasks r hr mint source hsource
    refine ⟨hrefresh.fits, fun t ht => ?_⟩
    obtain ⟨b, hb, hupto⟩ := hrefresh.prev t ht
    exact ⟨b, (hrecord mint).2.1 _ b hb, hupto⟩
  · intro m hm mint live hlive
    obtain ⟨source, hsource, hsnapshot⟩ := h.messages m hm mint live hlive
    exact ⟨source, hsource, hsnapshot.fits, hsnapshot.prev,
      (hrecord mint).2.2 _ hsnapshot.tape⟩

/-! ## A turn -/

section
variable {env : TurnEnv} {msg : PositionMessage} {note : Option LiveSource}

/-- The rows after a turn still have the source of a refresh that stays in flight. -/
theorem Fits.turn (hfits : w.Fits mint source) (hbehind : source ∈ w.sourcesBehind mint)
    (hkeeps : w.TurnKeepsSources env (msg, note)) {key : PositionKey} {q : Position}
    (hq : AList.lookup key (w.actor.handle env msg).actor.positions = some q)
    (hmint : key.mint = mint) : q.liveSource = source := by
  by_cases hmsg : ∀ mint live, msg ≠ .applyLiveSnapshot mint live
  · rcases PositionManagerActor.liveSource_kept hmsg hq with
      ⟨p, hp, hsame⟩ | ⟨order, pool, r, rfl, hopen, rfl, hnew⟩
    · rw [hsame]
      exact hfits key p hp hmint
    · rw [hnew]
      subst hmint
      exact ((hkeeps hopen).1 source hbehind).symm
  · push Not at hmsg
    obtain ⟨mint', live, rfl⟩ := hmsg
    obtain ⟨p, hp, hnew⟩ := PositionManagerActor.liveSource_applyLiveSnapshot hq
    have hsource : p.liveSource = source := hfits key p hp hmint
    rw [hnew]
    by_cases happlied : key.mint = mint'
    · rw [if_pos happlied]
      subst happlied hmint
      have hall : w.AllRows key.mint fun _ =>
        ∀ source ∈ w.sourcesBehind key.mint, source.prev = some live.tape := hkeeps
      have hprev : source.prev = some live.tape := hall.of_row hp rfl source hbehind
      rw [← hprev, ← hsource]
      rfl
    · rw [if_neg happlied]
      exact hsource

/-- They have that of a refresh which the turn starts. -/
theorem fits_spawned (hkeeps : w.TurnKeepsSources env (msg, note)) {task : Task}
    (htask : task ∈ (w.actor.handle env msg).spawned) (hsource : source ∈ task.sourceFor mint)
    {key : PositionKey} {q : Position}
    (hq : AList.lookup key (w.actor.handle env msg).actor.positions = some q)
    (hmint : key.mint = mint) : q.liveSource = source := by
  obtain ⟨hstarts, key', p', hp', hmint', hsource'⟩ :=
    PositionManagerActor.source_spawned htask hsource
  have hmsg : ∀ mint live, msg ≠ .applyLiveSnapshot mint live := by
    rintro mint live rfl
    exact hstarts
  rcases PositionManagerActor.liveSource_kept hmsg hq with
    ⟨p, hp, hsame⟩ | ⟨order, pool, r, rfl, hopen, rfl, hnew⟩
  · rw [hsame, ← hsource']
    subst hmint
    cases msg with
    | updateTokenBucket pool =>
      have hpool : pool.mint = key.mint := hstarts
      have hagree : w.RowsAgree pool.mint := hkeeps
      exact (hagree.of_row hp' (hmint'.trans hpool.symm)).of_row hp hpool.symm
    | tick =>
      have hdue : w.actor.config.exitV4.enabled = true ∧
        w.actor.liveSnapshotDue env.instantMs key'.mint = true := hmint'.symm ▸ hstarts
      have hagree : w.RowsAgree key'.mint :=
        hkeeps ⟨key', p'⟩ (AList.mem_lookup_iff.mp hp') hdue
      exact (hagree.of_row hp' rfl).of_row hp hmint'.symm
    | buyCompleted order pool result =>
      cases result with
      | error e => exact False.elim hstarts
      | ok r =>
        obtain ⟨hopen, horder, hbucket⟩ := hstarts
        have hall := (hkeeps hopen).2 (horder.symm ▸ hbucket)
        rw [hall.of_row hp' (hmint'.trans horder.symm), hall.of_row hp horder.symm]
    | _ => exact False.elim hstarts
  · subst hmint
    obtain ⟨-, -, hbucket⟩ := hstarts
    have hall := (hkeeps hopen).2 hbucket
    rw [hnew, ← hsource']
    exact (hall.of_row hp' hmint').symm

/-- No tape of a row is ahead of its bucket after a turn. -/
theorem Sound.rows_turn (h : w.Sound) (hmem : (msg, note) ∈ w.mailbox) {key : PositionKey}
    {q : Position} (hq : AList.lookup key (w.actor.handle env msg).actor.positions = some q)
    {t : EarlyTapePoint} (ht : t ∈ q.liveSource.prev) :
    ∃ b ∈ (w.record key.mint).getLast?, t.UpTo b := by
  by_cases hmsg : ∀ mint live, msg ≠ .applyLiveSnapshot mint live
  · rcases PositionManagerActor.liveSource_kept hmsg hq with
      ⟨p, hp, hsame⟩ | ⟨order, pool, r, rfl, -, rfl, hnew⟩
    · rw [hsame] at ht
      exact h.rows key p hp t ht
    · rw [hnew] at ht
      cases ht
  · push Not at hmsg
    obtain ⟨mint, live, rfl⟩ := hmsg
    obtain ⟨p, hp, hnew⟩ := PositionManagerActor.liveSource_applyLiveSnapshot hq
    rw [hnew] at ht
    by_cases hmint : key.mint = mint
    · rw [if_pos hmint] at ht
      cases ht
      obtain ⟨source, -, hsnapshot⟩ := h.messages _ hmem mint live rfl
      rw [hmint]
      exact hsnapshot.tape
    · rw [if_neg hmint] at ht
      exact h.rows key p hp t ht

/-- Rows, refreshes and snapshots after a turn. -/
theorem Sound.turn (h : w.Sound) {rest : List (PositionMessage × Option LiveSource)}
    (hbox : w.mailbox = (msg, note) :: rest) (hkeeps : w.TurnKeepsSources env (msg, note)) :
    Sound ⟨(w.actor.handle env msg).actor, rest,
      w.tasks ++ (w.actor.handle env msg).spawned.map fun task =>
        (task, (liveNotes id 0).spawned w.record task),
      w.log ++ (w.actor.handle env msg).effects, w.record⟩ := by
  have hmem : (msg, note) ∈ w.mailbox := by simp [hbox]
  have htail : w.mailbox.tail = rest := by rw [hbox, List.tail_cons]
  refine ⟨h.grows, fun key q hq t ht => h.rows_turn hmem hq ht, fun r hr mint source hsource => ?_,
    fun m hm mint live hlive => ?_, fun r hr => ?_⟩
  · rcases List.mem_append.mp hr with hr | hr
    · have hrefresh := h.tasks r hr mint source hsource
      have hbehind : source ∈ w.sourcesBehind mint :=
        List.mem_append_left _ (List.mem_filterMap.mpr ⟨r, hr, hsource⟩)
      exact ⟨fun key q hq hmint => hrefresh.fits.turn hbehind hkeeps hq hmint, hrefresh.prev⟩
    · obtain ⟨task, htask, rfl⟩ := List.mem_map.mp hr
      refine ⟨fun key q hq hmint => fits_spawned hkeeps htask hsource hq hmint, fun t ht => ?_⟩
      obtain ⟨-, key, p, hp, hmint, hsource'⟩ :=
        PositionManagerActor.source_spawned htask hsource
      rw [← hsource'] at ht
      obtain ⟨b, hb, hupto⟩ := h.rows key p hp t ht
      refine ⟨b, ?_, hupto⟩
      rw [hmint, List.getLast?_eq_getElem?] at hb
      cases task with
      | liveSnapshot mint' prev entryTime early =>
        simp only [Task.sourceFor, Option.mem_def, Option.ite_none_right_eq_some] at hsource
        rw [← hsource.1] at hb ⊢
        exact hb
      | _ => cases hsource
  · obtain ⟨source, hsource, hsnapshot⟩ :=
      h.messages m (hbox ▸ List.mem_cons_of_mem _ hm) mint live hlive
    have hbehind : source ∈ w.sourcesBehind mint := by
      refine List.mem_append_right _ (List.mem_filterMap.mpr ⟨m, htail.symm ▸ hm, ?_⟩)
      obtain ⟨msg', note'⟩ := m
      subst hlive hsource
      exact if_pos rfl
    exact ⟨source, hsource, fun key q hq hmint => hsnapshot.fits.turn hbehind hkeeps hq hmint,
      hsnapshot.prev, hsnapshot.tape⟩
  · rcases List.mem_append.mp hr with hr | hr
    · exact h.fanOuts r hr
    · obtain ⟨task, htask, rfl⟩ := List.mem_map.mp hr
      exact PositionManagerActor.noSnapshots_spawned htask

end

/-! ## Runs -/

section
variable {tanh : ℚ → ℚ} {tolerance : ℚ}

theorem Sound.wallets (h : w.Sound) (wallets : WalletRegistry) :
    Sound { w with actor.wallets := wallets } := by
  refine ⟨h.grows, h.rows, fun r hr mint source hsource => ?_, fun m hm mint live hlive => ?_,
    h.fanOuts⟩
  · have hrefresh := h.tasks r hr mint source hsource
    exact ⟨hrefresh.fits, hrefresh.prev⟩
  · obtain ⟨source, hsource, hs⟩ := h.messages m hm mint live hlive
    exact ⟨source, hsource, hs.fits, hs.prev, hs.tape⟩

/-- A message that is no snapshot, or a sound one, joins the mailbox. -/
theorem Sound.send (h : w.Sound) {msg : PositionMessage} {note : Option LiveSource}
    (hmsg : ∀ mint live, msg = .applyLiveSnapshot mint live →
      ∃ source, note = some source ∧ w.SnapshotSound mint source live)
    {tasks : List (Task × ℕ)}
    (htasks : ∀ r ∈ tasks, r ∈ w.tasks ∨
      (∀ mint, r.1.sourceFor mint = none) ∧ r.1.NoSnapshots) :
    Sound { w with mailbox := w.mailbox ++ [(msg, note)], tasks := tasks } := by
  refine ⟨h.grows, h.rows, fun r hr mint source hsource => ?_, fun m hm mint live hlive => ?_,
    fun r hr => (htasks r hr).elim (h.fanOuts r) And.right⟩
  · rcases htasks r hr with hold | ⟨hnone, -⟩
    · have hrefresh := h.tasks r hold mint source hsource
      exact ⟨hrefresh.fits, hrefresh.prev⟩
    · rw [hnone] at hsource
      cases hsource
  · have hsnapshot : ∃ source, m.2 = some source ∧ w.SnapshotSound mint source live := by
      rcases List.mem_append.mp hm with hm | hm
      · exact h.messages m hm mint live hlive
      · rw [List.mem_singleton] at hm
        subst hm
        exact hmsg mint live hlive
    obtain ⟨source, hsource, hs⟩ := hsnapshot
    exact ⟨source, hsource, hs.fits, hs.prev, hs.tape⟩

/-- What is left of a task starts no refresh and sends no snapshots. -/
theorem left_of_resume {task : Task} {answer : Answer} {left : Option Task}
    {msg : PositionMessage} (hnone : task.NoSnapshots)
    (h : task.resume answer = some (left, msg)) :
    ∀ r ∈ left, (∀ mint, r.sourceFor mint = none) ∧ r.NoSnapshots := by
  unfold Task.resume at h
  split at h
  · cases h
    intro r hr
    split_ifs at hr
    · cases hr
    · cases hr
      exact ⟨fun mint => rfl, fun mint live hmem => hnone mint live (List.mem_cons_of_mem _ hmem)⟩
  all_goals
    cases h
    try exact fun r hr => by cases hr

/-- A snapshot is sent by its refresh. -/
theorem Sound.answered (h : w.Sound) {i since : ℕ} {task : Task} {answer : Answer}
    {x : LiveAnswer} {left : Option Task} {live : LivePositionSnapshot}
    {note : Option LiveSource} (htask : w.tasks[i]? = some (task, since))
    (hres : task.resume answer = some (left, .applyLiveSnapshot mint live))
    (hnote : (liveNotes tanh tolerance).answered w.record task since answer x = some note) :
    ∃ source, note = some source ∧ w.SnapshotSound mint source live := by
  cases task with
  | liveSnapshot mint' prev entryTime early =>
    cases answer with
    | live snapshot =>
      simp only [Task.resume, Option.some.injEq, Prod.mk.injEq,
        PositionMessage.applyLiveSnapshot.injEq] at hres
      obtain ⟨-, rfl, rfl⟩ := hres
      simp only [liveNotes, Option.ite_none_right_eq_some, Option.some.injEq] at hnote
      obtain ⟨⟨hreads, rfl⟩, rfl⟩ := hnote
      have hrefresh := h.tasks _ (List.mem_of_getElem? htask) mint' ⟨prev, entryTime⟩ (if_pos rfl)
      exact ⟨_, rfl, h.snapshot hrefresh hreads⟩
    | _ => cases hres
  | fanOut pending =>
    -- a fan-out sends the first of its messages
    have hnone := h.fanOuts _ (List.mem_of_getElem? htask)
    cases pending with
    | nil => cases answer <;> cases hres
    | cons first rest =>
      cases answer with
      | go =>
        simp only [Task.resume, Option.some.injEq, Prod.mk.injEq] at hres
        rw [hres.2] at hnone
        exact absurd List.mem_cons_self (hnone mint live)
      | _ => cases hres
  | _ => cases answer <;> cases hres

theorem Sound.step {e : NotedEvent (Address × TokenBucket) LiveAnswer} {w' : Taped} (h : w.Sound)
    (hg : w.KeepsSources e) (hstep : (liveNotes tanh tolerance).step w e = some w') : w'.Sound := by
  cases e with
  | outside d =>
    obtain ⟨buckets', hmove, rfl⟩ := Notes.step_outside hstep
    exact h.moved hmove
  | inside e x =>
    cases e with
    | post msg =>
      obtain ⟨hext, rfl⟩ := Notes.step_post hstep
      refine h.send ?_ fun r hr => .inl hr
      rintro mint live rfl
      cases hext
    | patchWallets entries =>
      cases hstep
      exact h.wallets _
    | resume i answer =>
      obtain ⟨task, since, left, msg, note, htask, hres, hnote, rfl⟩ := Notes.step_resume hstep
      refine h.send ?_ fun r hr => ?_
      · rintro mint live rfl
        exact h.answered htask hres hnote
      · rcases List.mem_append.mp hr with hr | hr
        · obtain ⟨task', htask', rfl⟩ := List.mem_map.mp hr
          have hnone := h.fanOuts _ (List.mem_of_getElem? htask)
          exact .inr (left_of_resume hnone hres task' (Option.mem_toList.mp htask'))
        · exact .inl (List.mem_of_mem_eraseIdx hr)
    | turn env =>
      obtain ⟨msg, note, rest, hbox, rfl⟩ := Notes.step_turn hstep
      exact h.turn hbox (hg (msg, note) (by simp [hbox]))

/-- **A snapshot is that of each row it is applied to**, and no tape goes back in time, on every run
that starts and overtakes refreshes only where rows and tapes agree. -/
theorem snapshotsOwn_of_keepsSources
    (h : (liveNotes tanh tolerance).machine.ReachableUnder KeepsSources w) : w.SnapshotsOwn :=
  (h.invariant (I := Sound) (fun _ => sound_fresh)
    fun _ _ _ hs hg hstep => hs.step hg hstep).own

end

/-! ## Refreshes of one mint -/

/-- A small manager before any bucket. -/
def smallTape (wallets : WalletRegistry) : Taped where
  actor := (System.small wallets {}).actor
  mailbox := []
  tasks := []
  log := []
  record _ := []

theorem smallTape_fresh {tanh : ℚ → ℚ} {tolerance : ℚ} (wallets : WalletRegistry) :
    (liveNotes tanh tolerance).Fresh (smallTape wallets) :=
  ⟨⟨rfl, rfl, rfl, rfl, rfl, rfl, rfl⟩, fun _ => rfl⟩

/-- The bucket of mint 1 after these wallets have bought. -/
def boughtBy (users : List Address) : TokenBucket :=
  users.foldl (fun b user => b.trade 0 1 ⟨1, 100_000_000, 1000, true, user, 30_000_000_000,
    1_073_000_000_000_000, 0, 793_100_000_000_000⟩) (.new (.new 1 9) 0)

def readsOf (users : List Address) : LiveReads := ⟨fun _ => boughtBy users, fun _ _ => [], 30⟩

/-- Events of the manager. -/
def inside (es : List Event) : List (NotedEvent (Address × TokenBucket) LiveAnswer) :=
  es.map (.inside · ⟨readsOf [], fun _ => 0, 0⟩)

/-- The bucket moves on, and the manager hears of it. -/
def bucketSeen (users : List Address) : List (NotedEvent (Address × TokenBucket) LiveAnswer) :=
  .outside (1, boughtBy users) :: inside [.post (.updateTokenBucket (smallPool 1)), turn]

/-- Task `i` answers at second 110 with the state `moment` of the bucket, for a row of this age. -/
def refreshed (i : ℕ) (users : List Address) (moment : ℕ) (prev : Option EarlyTapePoint)
    (held : ℕ) : NotedEvent (Address × TokenBucket) LiveAnswer :=
  .inside (.resume i (.live (snapshotLivePosition id (readsOf users) prev held [] 0)))
    ⟨readsOf users, fun _ => moment, 110⟩

/-- One row, opened at second 100; its first refresh is over when the second one starts. -/
def oneAfterAnother : List (NotedEvent (Address × TokenBucket) LiveAnswer) :=
  inside (oneFill ++ [turnAt 100]) ++ bucketSeen [] ++ [refreshed 0 [] 0 none 10] ++
    inside [turn] ++ bucketSeen [7] ++
    [refreshed 0 [7] 1 (some (tapePoint (boughtBy []).participants 30)) 10]

/-- The second refresh overtakes the first. -/
def overtaken : List (NotedEvent (Address × TokenBucket) LiveAnswer) :=
  inside (oneFill ++ [turnAt 100]) ++ bucketSeen [] ++ bucketSeen [7] ++
    [refreshed 1 [7] 1 none 10] ++ inside [turn] ++ [refreshed 0 [] 0 none 10]

/-- The rows of two wallets, opened at seconds 100 and 105, and a refresh. -/
def twoRows : List (NotedEvent (Address × TokenBucket) LiveAnswer) :=
  inside [signal 1, turn, .resume 0 .go, turn, .resume 0 .go, turn, filled 1 1000, turnAt 100,
    filled 1 1000, turnAt 105] ++ bucketSeen [] ++ [refreshed 1 [] 0 none 5]

/-- The snapshot that is next. -/
def nextSnapshot (w : Taped) : Option (LivePositionSnapshot × Option LiveSource) :=
  match w.mailbox.head? with
  | some (.applyLiveSnapshot 1 live, source) => some (live, source)
  | _ => none

theorem SnapshotsOwn.next (h : w.SnapshotsOwn) {live : LivePositionSnapshot}
    {source : Option LiveSource} (hnext : w.nextSnapshot = some (live, source)) {key : PositionKey}
    {p : Position} (hp : w.row key = some p) (hmint : key.mint = 1) :
    source = some p.liveSource ∧ ∀ t ∈ p.liveTapeCurr, t.counters ≤ live.tape.counters := by
  unfold nextSnapshot at hnext
  split at hnext
  · rename_i hhead
    cases hnext
    exact h 1 _ _ hhead key p hp hmint
  · cases hnext

/-- Without sells the absorption is 0, the only value that `tanh` is asked for: `id` agrees. -/
theorem snapshotsOwn_oneAfterAnother :
    ∃ w : Taped, (∃ live source p t, w.nextSnapshot = some (live, source) ∧
      w.row smallOrder.key = some p ∧ t ∈ p.liveTapeCurr) ∧ w.SnapshotsOwn := by
  have hrun : (((liveNotes id 0).machine.runUnder KeepsSources (smallTape oneWallet)
      oneAfterAnother).any fun w : Taped => w.nextSnapshot.isSome &&
        (w.row smallOrder.key).any (·.liveTapeCurr.isSome)) = true := by
    decide +kernel
  obtain ⟨w, hw, h⟩ := (Option.any_eq_true _ _).mp hrun
  obtain ⟨hnext, hrow⟩ := Bool.and_eq_true_iff.mp h
  obtain ⟨⟨live, source⟩, hnext⟩ := Option.isSome_iff_exists.mp hnext
  obtain ⟨p, hp, htape⟩ := (Option.any_eq_true _ _).mp hrow
  obtain ⟨t, ht⟩ := Option.isSome_iff_exists.mp htape
  exact ⟨w, ⟨live, source, p, t, hnext, hp, ht⟩,
    snapshotsOwn_of_keepsSources ⟨_, _, smallTape_fresh oneWallet, .of_runUnder hw⟩⟩

/-- **A snapshot of another row, and one that is late.** The row of the first wallet, opened at
second 100, is about to take a snapshot computed with second 105; and a row whose tape has a buyer
is about to go back to a tape without one. -/
theorem snapshot_of_another :
    (∃ w : Taped, (liveNotes id 0).machine.Reachable w ∧ ¬ w.SnapshotsOwn ∧
      ∃ live source p, w.nextSnapshot = some (live, some source) ∧
        w.row smallOrder.key = some p ∧ p.entryTime = 100 ∧ source.entryTime = 105) ∧
    ∃ w : Taped, (liveNotes id 0).machine.Reachable w ∧ ¬ w.SnapshotsOwn ∧
      ∃ live source p t, w.nextSnapshot = some (live, source) ∧
        w.row smallOrder.key = some p ∧ p.liveTapeCurr = some t ∧
        t.buyerCount = 1 ∧ live.tape.buyerCount = 0 := by
  constructor
  · have hrun : (((liveNotes id 0).machine.run (smallTape twoWallets) twoRows).any fun w : Taped =>
        w.nextSnapshot.any fun n => n.2.any fun source => (w.row smallOrder.key).any fun p =>
          decide (p.entryTime = 100 ∧ source.entryTime = 105)) = true := by
      decide +kernel
    obtain ⟨w, hw, h⟩ := (Option.any_eq_true _ _).mp hrun
    obtain ⟨⟨live, note⟩, hnext, hsources⟩ := (Option.any_eq_true _ _).mp h
    obtain ⟨source, hnote, hrows⟩ := (Option.any_eq_true _ _).mp hsources
    obtain ⟨p, hp, htimes⟩ := (Option.any_eq_true _ _).mp hrows
    obtain ⟨hrow, hsource⟩ := of_decide_eq_true htimes
    obtain rfl : note = some source := hnote
    refine ⟨w, ⟨_, _, smallTape_fresh twoWallets, hw⟩, fun hown => ?_, live, source, p, hnext, hp,
      hrow, hsource⟩
    have hsame : some source = some p.liveSource := (hown.next hnext hp rfl).1
    rw [Option.some.inj hsame] at hsource
    exact absurd (hrow.symm.trans hsource) (by decide)
  · have hrun : (((liveNotes id 0).machine.run (smallTape oneWallet) overtaken).any fun w : Taped =>
        w.nextSnapshot.any fun n => (w.row smallOrder.key).any fun p => p.liveTapeCurr.any fun t =>
          decide (t.buyerCount = 1 ∧ n.1.tape.buyerCount = 0)) = true := by
      decide +kernel
    obtain ⟨w, hw, h⟩ := (Option.any_eq_true _ _).mp hrun
    obtain ⟨⟨live, source⟩, hnext, h⟩ := (Option.any_eq_true _ _).mp h
    obtain ⟨p, hp, h⟩ := (Option.any_eq_true _ _).mp h
    obtain ⟨t, ht, h⟩ := (Option.any_eq_true _ _).mp h
    obtain ⟨hbuyer, hnone⟩ : t.buyerCount = 1 ∧ live.tape.buyerCount = 0 := of_decide_eq_true h
    refine ⟨w, ⟨_, _, smallTape_fresh oneWallet, hw⟩, fun hown => ?_, live, source, p, t, hnext, hp,
      ht, hbuyer, hnone⟩
    have hle : t.buyerCount ≤ live.tape.buyerCount := ((hown.next hnext hp rfl).2 t ht).1
    omega

end Taped

end Loggaper
