import Loggaper.Lib.KeyedMap
import Loggaper.Lib.Streak
import Mathlib.Algebra.Order.Field.Basic
import Mathlib.Data.Rat.Cast.Order
import Mathlib.Tactic.Linarith
import Mathlib.Tactic.NormNum

/-!
# The health of the feeds

Every 30 seconds the metrics logger takes a snapshot of each feed, computes its message rate since
the last one, and asks `FeedHealthMonitor` for a verdict. The monitor keeps a counter and a flag for
each feed by its name.

Main result: `feedHealth_verdict`, the verdict by the snapshots of that feed alone.
-/

namespace Loggaper

def feedStallMsgAgeSecs : ℕ := 60

def feedZeroRateStreak : ℕ := 3

def feedStartupGraceSecs : ℕ := 90

def feedZeroRateEps : ℚ := 5 / 100

inductive FeedHealthEvent
  | ok
  | stall
  | recovered
  deriving DecidableEq, Repr

/-- What the logger reads of a `FeedSnapshot`, and the second at which it does. -/
structure FeedSnapshot where
  name : String
  subscribed : ℕ
  messages : ℕ
  lastMessageUnix : ℕ
  uptimeSecs : ℕ
  now : ℕ
  deriving DecidableEq, Repr

def FeedSnapshot.lastMsgAgeSecs (snap : FeedSnapshot) : ℕ :=
  if snap.lastMessageUnix = 0 then snap.uptimeSecs else snap.now - snap.lastMessageUnix

structure FeedHealthMonitor where
  zeroRateStreak : KeyedMap String ℕ
  wasStalled : KeyedMap String Bool

namespace FeedHealthMonitor

def new : FeedHealthMonitor := ⟨∅, ∅⟩

/-- `evaluate`: the streak is a `u32` that saturates. -/
def evaluate (m : FeedHealthMonitor) (snap : FeedSnapshot) (intervalRate : ℚ) :
    FeedHealthEvent × FeedHealthMonitor :=
  if snap.uptimeSecs < feedStartupGraceSecs then (.ok, m)
  else if snap.subscribed = 0 then (.ok, m)
  else
    let zeroRate := decide (intervalRate < feedZeroRateEps)
    let streak := Streak.count (2 ^ 32 - 1) ((m.zeroRateStreak.lookup snap.name).getD 0) zeroRate
    let stalled := decide (feedStallMsgAgeSecs < snap.lastMsgAgeSecs) ||
      decide (feedZeroRateStreak ≤ streak)
    let was := (m.wasStalled.lookup snap.name).getD false
    (if stalled then .stall else if was then .recovered else .ok,
      ⟨m.zeroRateStreak.insert snap.name streak, m.wasStalled.insert snap.name stalled⟩)

end FeedHealthMonitor

/-- The state of the metrics logger. -/
structure MetricsLogger where
  lastMessages : KeyedMap String ℕ
  feedHealth : FeedHealthMonitor

namespace MetricsLogger

def new : MetricsLogger := ⟨∅, .new⟩

def intervalSecs : ℕ := 30

/-- The body of the logger's loop, for one feed. -/
def log (l : MetricsLogger) (snap : FeedSnapshot) : FeedHealthEvent × MetricsLogger :=
  let prev := (l.lastMessages.lookup snap.name).getD 0
  let rate : ℚ := (snap.messages - prev : ℕ) / intervalSecs
  let answer := l.feedHealth.evaluate snap rate
  (answer.1, ⟨l.lastMessages.insert snap.name snap.messages, answer.2⟩)

/-- After some snapshots, the newest first. -/
def after : List FeedSnapshot → MetricsLogger
  | [] => new
  | snap :: earlier => ((after earlier).log snap).2

end MetricsLogger

/-! ## The verdict by the snapshots of the feed

The earlier snapshots of the same feed come newest first. -/

namespace FeedSnapshot

/-- A feed that has just started or was never subscribed is not judged. -/
def judged (snap : FeedSnapshot) : Bool :=
  feedStartupGraceSecs ≤ snap.uptimeSecs && snap.subscribed != 0

/-- The messages since the last snapshot. -/
def received (snap : FeedSnapshot) (earlier : List FeedSnapshot) : ℕ :=
  snap.messages - (earlier.head?.map messages).getD 0

/-- For each judged snapshot, whether at most one message has come. -/
def silences : List FeedSnapshot → List Bool
  | [] => []
  | snap :: earlier =>
    if snap.judged then decide (snap.received earlier ≤ 1) :: silences earlier
    else silences earlier

/-- No message for more than a minute, or hardly any in the last three intervals. -/
def stalled (snap : FeedSnapshot) (earlier : List FeedSnapshot) : Bool :=
  decide (60 < snap.lastMsgAgeSecs) || decide (Streak.Confirmed 3 (silences (snap :: earlier)))

/-- The last judged snapshot was a stall. -/
def wasStalled : List FeedSnapshot → Bool
  | [] => false
  | snap :: earlier => if snap.judged then snap.stalled earlier else wasStalled earlier

def verdict (snap : FeedSnapshot) (earlier : List FeedSnapshot) : FeedHealthEvent :=
  if snap.judged then
    if snap.stalled earlier then .stall else if wasStalled earlier then .recovered else .ok
  else .ok

end FeedSnapshot

/-- Of the logger, what belongs to one feed. -/
structure Remembers (l : MetricsLogger) (name : String) (earlier : List FeedSnapshot) : Prop where
  messages : (l.lastMessages.lookup name).getD 0 =
    (earlier.head?.map FeedSnapshot.messages).getD 0
  streak : (l.feedHealth.zeroRateStreak.lookup name).getD 0 =
    min (Streak.streak (FeedSnapshot.silences earlier)) (2 ^ 32 - 1)
  was : (l.feedHealth.wasStalled.lookup name).getD false = FeedSnapshot.wasStalled earlier

variable {l : MetricsLogger} {name : String} {earlier : List FeedSnapshot}

/-- A rate is zero when at most one message has come in 30 seconds. -/
theorem zeroRate_iff (n : ℕ) : (n : ℚ) / MetricsLogger.intervalSecs < feedZeroRateEps ↔ n ≤ 1 := by
  rw [MetricsLogger.intervalSecs, feedZeroRateEps, div_lt_iff₀ (by norm_num)]
  constructor
  · intro h
    by_contra hn
    have htwo : (2 : ℚ) ≤ n := by exact_mod_cast (show 2 ≤ n by omega)
    norm_num at h
    linarith
  · intro h
    have hone : (n : ℚ) ≤ 1 := by exact_mod_cast h
    norm_num
    linarith

namespace FeedSnapshot

variable {snap : FeedSnapshot}

theorem judged_iff : snap.judged = true ↔ ¬ snap.uptimeSecs < feedStartupGraceSecs ∧
    ¬ snap.subscribed = 0 := by
  simp [judged]

theorem silences_of_judged (h : snap.judged = true) :
    silences (snap :: earlier) = decide (snap.received earlier ≤ 1) :: silences earlier := if_pos h

theorem silences_of_not_judged (h : ¬ snap.judged = true) :
    silences (snap :: earlier) = silences earlier := if_neg h

end FeedSnapshot

/-- What the monitor does with a judged snapshot. -/
theorem evaluate_of_judged {m : FeedHealthMonitor} {snap : FeedSnapshot} (h : snap.judged = true)
    {intervalRate : ℚ} {silence : Bool} (hrate : decide (intervalRate < feedZeroRateEps) = silence)
    {streak : ℕ} (hstreak : Streak.count (2 ^ 32 - 1)
      ((m.zeroRateStreak.lookup snap.name).getD 0) silence = streak)
    {stalled : Bool} (hstalled : (decide (feedStallMsgAgeSecs < snap.lastMsgAgeSecs) ||
      decide (feedZeroRateStreak ≤ streak)) = stalled) :
    m.evaluate snap intervalRate =
      (if stalled then .stall
        else if (m.wasStalled.lookup snap.name).getD false then .recovered else .ok,
      ⟨m.zeroRateStreak.insert snap.name streak, m.wasStalled.insert snap.name stalled⟩) := by
  obtain ⟨huptime, hsubscribed⟩ := FeedSnapshot.judged_iff.mp h
  subst hrate hstreak hstalled
  rw [FeedHealthMonitor.evaluate, if_neg huptime, if_neg hsubscribed]

theorem evaluate_of_not_judged {m : FeedHealthMonitor} {snap : FeedSnapshot}
    (h : ¬ snap.judged = true) (intervalRate : ℚ) : m.evaluate snap intervalRate = (.ok, m) := by
  rw [FeedSnapshot.judged_iff, not_and_or, not_not, not_not] at h
  rw [FeedHealthMonitor.evaluate]
  split_ifs with huptime hsubscribed
  · rfl
  · rfl
  · exact (h.elim huptime hsubscribed).elim

/-- A snapshot of another feed is not remembered. -/
theorem Remembers.other (h : Remembers l name earlier) {snap : FeedSnapshot}
    (hname : name ≠ snap.name) : Remembers (l.log snap).2 name earlier := by
  have hmessages : (l.log snap).2.lastMessages.lookup name = l.lastMessages.lookup name :=
    AList.lookup_insert_ne hname
  have hhealth : (l.log snap).2.feedHealth.zeroRateStreak.lookup name =
        l.feedHealth.zeroRateStreak.lookup name ∧
      (l.log snap).2.feedHealth.wasStalled.lookup name =
        l.feedHealth.wasStalled.lookup name := by
    by_cases hjudged : snap.judged = true
    · rw [MetricsLogger.log, evaluate_of_judged hjudged rfl rfl rfl]
      exact ⟨AList.lookup_insert_ne hname, AList.lookup_insert_ne hname⟩
    · rw [MetricsLogger.log, evaluate_of_not_judged hjudged]
      exact ⟨rfl, rfl⟩
  exact ⟨hmessages ▸ h.messages, hhealth.1 ▸ h.streak, hhealth.2 ▸ h.was⟩

theorem Remembers.log {snap : FeedSnapshot} (h : Remembers l snap.name earlier) :
    (l.log snap).1 = snap.verdict earlier ∧
      Remembers (l.log snap).2 snap.name (snap :: earlier) := by
  by_cases hjudged : snap.judged = true
  · have hrate : decide ((((snap.messages - (l.lastMessages.lookup snap.name).getD 0 : ℕ) : ℚ) /
        MetricsLogger.intervalSecs) < feedZeroRateEps) = decide (snap.received earlier ≤ 1) := by
      rw [h.messages]
      exact decide_eq_decide.mpr (zeroRate_iff _)
    have hstreak : Streak.count (2 ^ 32 - 1)
        ((l.feedHealth.zeroRateStreak.lookup snap.name).getD 0)
          (decide (snap.received earlier ≤ 1)) =
        min (Streak.streak (FeedSnapshot.silences (snap :: earlier))) (2 ^ 32 - 1) := by
      rw [h.streak, Streak.count_streak, FeedSnapshot.silences_of_judged hjudged]
    have hstalled : (decide (feedStallMsgAgeSecs < snap.lastMsgAgeSecs) ||
        decide (feedZeroRateStreak ≤
          min (Streak.streak (FeedSnapshot.silences (snap :: earlier))) (2 ^ 32 - 1))) =
        snap.stalled earlier := by
      rw [FeedSnapshot.stalled, feedStallMsgAgeSecs, feedZeroRateStreak]
      congr 1
      rw [decide_eq_decide, le_min_iff, Streak.confirmed_iff]
      exact and_iff_left (by norm_num)
    rw [MetricsLogger.log, evaluate_of_judged hjudged hrate hstreak hstalled, h.was]
    refine ⟨(if_pos hjudged).symm, ?_, ?_, ?_⟩
    · simp
    · simp
    · simp [FeedSnapshot.wasStalled, hjudged]
  · rw [MetricsLogger.log, evaluate_of_not_judged hjudged]
    refine ⟨(if_neg hjudged).symm, ?_, ?_, ?_⟩
    · simp
    · rw [FeedSnapshot.silences_of_not_judged hjudged]
      exact h.streak
    · simpa [FeedSnapshot.wasStalled, hjudged] using h.was

theorem remembers_after (snaps : List FeedSnapshot) (name : String) :
    Remembers (MetricsLogger.after snaps) name (snaps.filter (·.name = name)) := by
  induction snaps with
  | nil => exact ⟨rfl, rfl, rfl⟩
  | cons snap snaps ih =>
    by_cases hname : snap.name = name
    · subst hname
      rw [List.filter_cons_of_pos (by simp)]
      exact ih.log.2
    · rw [List.filter_cons_of_neg (by simpa using hname)]
      exact ih.other (Ne.symm hname)

/-- **Feed health.** Whatever snapshots of all feeds the logger has seen, the verdict on a snapshot
follows from those of its feed: it is a stall exactly if the last message is more than a minute old
or at most one message has come in each of the last three judged intervals, and a recovery exactly
if it is none but the judged snapshot before was. -/
theorem feedHealth_verdict (snap : FeedSnapshot) (snaps : List FeedSnapshot) :
    ((MetricsLogger.after snaps).log snap).1 =
      snap.verdict (snaps.filter (·.name = snap.name)) :=
  (remembers_after snaps snap.name).log.1

end Loggaper
