import Loggaper.Lib.Transition
import Mathlib.Algebra.Ring.Nat
import Mathlib.Data.List.Nodup
import Mathlib.Data.List.Perm.Basic

/-!
# The history of the dashboard

The dashboard fetches the closed trades when it starts, when it reconnects, when the tab is opened,
and six times after a close, since the row may be written late. Fetches go on at the same time and
end in any order; one that ends when another has been started after it is thrown away. What the
state remembers of times and versions is not part of the program.

- `history_forward`: the history never goes back, and when the last fetch has succeeded it shows all
  that was written within 32.8 seconds of any close.
-/

namespace Loggaper.Dashboard

/-- Delays before the fetches after a close, in milliseconds. -/
def refreshDelays : List ℕ := [0, 800, 2000, 5000, 10_000, 15_000]

/-- The fetches that are still to come, and when the first of them may start. -/
abbrev Sleep := ℕ × List ℕ

def schedule (nowMs : ℕ) : List ℕ → List Sleep
  | [] => []
  | delay :: rest => [(nowMs + delay, rest)]

/-- What the server answered, as the version it read. -/
structure Rows (τ : Type*) where
  rows : τ
  version : ℕ
  deriving DecidableEq

structure Fetch (τ : Type*) where
  myGen : ℕ
  askedMs : ℕ
  rest : List ℕ
  /-- Nothing while the request is under way, `some none` when it has failed. -/
  answer : Option (Option (Rows τ))

structure Shown (τ : Type*) extends Rows τ where
  gen : ℕ
  askedMs : ℕ
  deriving DecidableEq

structure History (τ : Type*) where
  nowMs : ℕ
  /-- All versions of the table with the times of their writes, the present one last. -/
  versions : List (τ × ℕ)
  fetchGen : ℕ
  sleeping : List Sleep
  fetches : List (Fetch τ)
  /-- What the view has been handed; it shows the last one. -/
  sent : List (Shown τ)
  /-- The generations of the fetches that failed. -/
  failed : List ℕ
  closes : List ℕ
  lastAskedMs : ℕ

inductive HistoryEvent (τ : Type*)
  | tick (ms : ℕ)
  | write (rows : τ)
  | fetchBotTrades
  | refreshAfterClose
  /-- A task goes on after its delay and starts a fetch. -/
  | wake (i : ℕ)
  | answer (i : ℕ) (ok : Bool)
  /-- A fetch compares the generations and ends. -/
  | finish (i : ℕ)

namespace History

variable {τ : Type*}

def step (s : History τ) : HistoryEvent τ → Option (History τ)
  | .tick ms => some { s with nowMs := s.nowMs + ms }
  | .write rows => some { s with versions := s.versions ++ [(rows, s.nowMs)] }
  | .fetchBotTrades => some { s with sleeping := s.sleeping ++ schedule s.nowMs [0] }
  | .refreshAfterClose => some { s with
      sleeping := s.sleeping ++ schedule s.nowMs refreshDelays
      closes := s.closes ++ [s.nowMs] }
  | .wake i =>
    match s.sleeping[i]? with
    | some (wakeMs, rest) =>
      if wakeMs ≤ s.nowMs then
        some { s with
          fetchGen := s.fetchGen + 1
          sleeping := s.sleeping.eraseIdx i
          fetches := s.fetches ++ [⟨s.fetchGen + 1, s.nowMs, rest, none⟩]
          lastAskedMs := s.nowMs }
      else none
    | none => none
  | .answer i ok =>
    match s.fetches[i]? with
    | some f =>
      match f.answer, s.versions.getLast? with
      | none, some (rows, _) =>
        let read := if ok then some ⟨rows, s.versions.length - 1⟩ else none
        some { s with fetches := s.fetches.set i { f with answer := some read } }
      | _, _ => none
    | none => none
  | .finish i =>
    match s.fetches[i]? with
    | some ⟨myGen, askedMs, rest, some read⟩ =>
      let shown := if s.fetchGen = myGen then read.toList.map fun r => ⟨r, myGen, askedMs⟩ else []
      some { s with
        fetches := s.fetches.eraseIdx i
        sleeping := s.sleeping ++ schedule s.nowMs rest
        sent := s.sent ++ shown
        failed := if read.isNone then s.failed ++ [myGen] else s.failed }
    | _ => none

/-- The dashboard has just been started. -/
structure Started (s : History τ) : Prop where
  now : s.nowMs = 0
  fetchGen : s.fetchGen = 0
  sleeping : s.sleeping = []
  fetches : s.fetches = []
  sent : s.sent = []
  failed : s.failed = []
  closes : s.closes = []
  lastAsked : s.lastAskedMs = 0

end History

def history (τ : Type*) : Machine (History τ) (HistoryEvent τ) where
  init := History.Started
  step := History.step

namespace History

variable {τ : Type*} {s t : History τ} {r : Rows τ} {askedMs ms i : ℕ}

/-! ## What is kept -/

/-- A read that was asked for at this time: it is the version it says, and misses no earlier
write. -/
structure Reads (versions : List (τ × ℕ)) (askedMs : ℕ) (r : Rows τ) : Prop where
  rows : versions[r.version]?.map Prod.fst = some r.rows
  missesNone : ∀ k v, versions[k]? = some v → v.2 < askedMs → k ≤ r.version

/-- A fetch of the refresh after a close has started at this time, or is still to start. -/
def Refreshing (s : History τ) (ms : ℕ) : Prop :=
  ms ≤ s.lastAskedMs ∨ (∃ p ∈ s.sleeping, ms ≤ p.1 + p.2.sum) ∨
    ∃ f ∈ s.fetches, ms ≤ f.askedMs + f.rest.sum

structure Sound (s : History τ) : Prop where
  lastAsked : s.lastAskedMs ≤ s.nowMs
  gens : ∀ f ∈ s.fetches, f.myGen ≤ s.fetchGen
  nodup : (s.fetches.map Fetch.myGen).Nodup
  asked : ∀ f ∈ s.fetches, f.askedMs ≤ s.lastAskedMs
  newest : ∀ f ∈ s.fetches, f.myGen = s.fetchGen → s.lastAskedMs ≤ f.askedMs
  answers : ∀ f ∈ s.fetches, ∀ r, f.answer = some (some r) → Reads s.versions f.askedMs r
  sentReads : ∀ a ∈ s.sent, Reads s.versions a.askedMs a.toRows
  sentGens : ∀ a ∈ s.sent, a.gen ≤ s.fetchGen
  sentAsked : ∀ a ∈ s.sent, a.askedMs ≤ s.lastAskedMs
  sentNewest : ∀ a ∈ s.sent, a.gen = s.fetchGen → s.lastAskedMs ≤ a.askedMs
  apart : ∀ a ∈ s.sent, ∀ f ∈ s.fetches, a.gen ≠ f.myGen
  behind : ∀ a ∈ s.sent, ∀ f ∈ s.fetches, a.gen < f.myGen → ∀ r, f.answer = some (some r) →
    a.version ≤ r.version
  forward : s.sent.Pairwise fun a b => a.version ≤ b.version
  refreshing : ∀ c ∈ s.closes, s.Refreshing (c + 32_800)

theorem sound_of_started (h : s.Started) : s.Sound := by
  obtain ⟨hnow, hgen, hsleeping, hfetches, hsent, -, hcloses, hasked⟩ := h
  constructor <;> simp [*]

/-! ## The steps -/

theorem Reads.lt {versions : List (τ × ℕ)} (h : Reads versions askedMs r) :
    r.version < versions.length := by
  by_contra hge
  have hrows := h.rows
  rw [List.getElem?_eq_none (not_lt.mp hge)] at hrows
  cases hrows

/-- A later write changes nothing for a read. -/
theorem Reads.write {versions : List (τ × ℕ)} (h : Reads versions askedMs r) {v : τ × ℕ}
    (hv : askedMs ≤ v.2) : Reads (versions ++ [v]) askedMs r := by
  refine ⟨?_, fun k w hw hlate => ?_⟩
  · rw [← h.rows, List.getElem?_append_left h.lt]
  · rcases Nat.lt_trichotomy k versions.length with hk | rfl | hk
    · rw [List.getElem?_append_left hk] at hw
      exact h.missesNone k w hw hlate
    · rw [List.getElem?_concat_length] at hw
      cases hw
      exact absurd hlate (not_lt.mpr hv)
    · rw [List.getElem?_eq_none (by simp only [List.length_append, List.length_singleton]; omega)]
        at hw
      cases hw

theorem reads_last {versions : List (τ × ℕ)} {v : τ × ℕ} (h : versions.getLast? = some v) :
    Reads versions askedMs ⟨v.1, versions.length - 1⟩ := by
  rw [List.getLast?_eq_getElem?] at h
  refine ⟨by rw [h]; rfl, fun k w hw _ => ?_⟩
  obtain ⟨hk, -⟩ := List.getElem?_eq_some_iff.mp hw
  exact Nat.le_sub_one_of_lt hk

theorem mem_or_mem_eraseIdx {α : Type*} {l : List α} {a b : α} (h : l[i]? = some a)
    (hb : b ∈ l) : b = a ∨ b ∈ l.eraseIdx i := by
  obtain ⟨hi, rfl⟩ := List.getElem?_eq_some_iff.mp h
  exact List.mem_cons.mp ((List.getElem_cons_eraseIdx_perm hi).mem_iff.mpr hb)

/-- An answer changes nothing else. -/
theorem mem_set_answer {f g : Fetch τ} {read : Option (Option (Rows τ))}
    (hi : s.fetches[i]? = some f) (hg : g ∈ s.fetches) :
    ∃ g' ∈ s.fetches.set i { f with answer := read },
      g'.askedMs = g.askedMs ∧ g'.rest = g.rest ∧ g'.myGen = g.myGen := by
  obtain ⟨j, hj⟩ := List.mem_iff_getElem?.mp hg
  by_cases hij : i = j
  · subst hij
    rw [hi, Option.some.injEq] at hj
    subst hj
    exact ⟨_, List.mem_set (List.getElem?_eq_some_iff.mp hi).1 _, rfl, rfl, rfl⟩
  · refine ⟨g, List.mem_iff_getElem?.mpr ⟨j, ?_⟩, rfl, rfl, rfl⟩
    rw [List.getElem?_set_ne hij, hj]

theorem Refreshing.sleep (h : s.Refreshing ms) (more : List Sleep) :
    ({ s with sleeping := s.sleeping ++ more } : History τ).Refreshing ms := by
  rcases h with h | ⟨p, hp, h⟩ | h
  · exact .inl h
  · exact .inr (.inl ⟨p, List.mem_append_left _ hp, h⟩)
  · exact .inr (.inr h)

/-- Time passes. -/
theorem Sound.tick (h : s.Sound) (ms : ℕ) : ({ s with nowMs := s.nowMs + ms } : History τ).Sound :=
  { h with lastAsked := Nat.le_trans h.lastAsked (Nat.le_add_right _ _) }

theorem Sound.write (h : s.Sound) (rows : τ) :
    ({ s with versions := s.versions ++ [(rows, s.nowMs)] } : History τ).Sound :=
  { h with
    answers := fun f hf r hr =>
      (h.answers f hf r hr).write (Nat.le_trans (h.asked f hf) h.lastAsked)
    sentReads := fun a ha =>
      (h.sentReads a ha).write (Nat.le_trans (h.sentAsked a ha) h.lastAsked) }

theorem Sound.sleep (h : s.Sound) (more : List Sleep) :
    ({ s with sleeping := s.sleeping ++ more } : History τ).Sound :=
  { h with refreshing := fun c hc => (h.refreshing c hc).sleep more }

/-- A close begins its refresh. -/
theorem Sound.refreshAfterClose (h : s.Sound) :
    ({ s with
      sleeping := s.sleeping ++ schedule s.nowMs refreshDelays
      closes := s.closes ++ [s.nowMs] } : History τ).Sound := by
  refine { h with refreshing := fun c hc => ?_ }
  rcases List.mem_append.mp hc with hc | hc
  · exact (h.refreshing c hc).sleep _
  · rw [List.mem_singleton.mp hc]
    exact .inr (.inl ⟨_, List.mem_append_right _ (List.mem_singleton_self _), le_rfl⟩)

/-- A fetch starts, and all that is under way is older. -/
theorem Sound.wake (h : s.Sound) {wakeMs : ℕ} {rest : List ℕ}
    (hi : s.sleeping[i]? = some (wakeMs, rest)) (hnow : wakeMs ≤ s.nowMs) :
    ({ s with
      fetchGen := s.fetchGen + 1
      sleeping := s.sleeping.eraseIdx i
      fetches := s.fetches ++ [⟨s.fetchGen + 1, s.nowMs, rest, none⟩]
      lastAskedMs := s.nowMs } : History τ).Sound := by
  have holdGen (f) (hf : f ∈ s.fetches) : f.myGen ≠ s.fetchGen + 1 :=
    Nat.ne_of_lt (Nat.lt_succ_of_le (h.gens f hf))
  have hsentGen (a) (ha : a ∈ s.sent) : a.gen ≠ s.fetchGen + 1 :=
    Nat.ne_of_lt (Nat.lt_succ_of_le (h.sentGens a ha))
  constructor
  case lastAsked => exact le_rfl
  case gens =>
    intro f hf
    rcases List.mem_append.mp hf with hf | hf
    · exact Nat.le_succ_of_le (h.gens f hf)
    · rw [List.mem_singleton.mp hf]
  case nodup =>
    rw [List.map_append]
    refine h.nodup.append (List.nodup_singleton _) (List.disjoint_singleton.mpr fun hmem => ?_)
    obtain ⟨f, hf, heq⟩ := List.mem_map.mp hmem
    exact holdGen f hf heq
  case asked =>
    intro f hf
    rcases List.mem_append.mp hf with hf | hf
    · exact Nat.le_trans (h.asked f hf) h.lastAsked
    · rw [List.mem_singleton.mp hf]
  case newest =>
    intro f hf hgen
    rcases List.mem_append.mp hf with hf | hf
    · exact absurd hgen (holdGen f hf)
    · rw [List.mem_singleton.mp hf]
  case answers =>
    intro f hf r hr
    rcases List.mem_append.mp hf with hf | hf
    · exact h.answers f hf r hr
    · rw [List.mem_singleton.mp hf] at hr
      cases hr
  case sentReads => exact h.sentReads
  case sentGens => exact fun a ha => Nat.le_succ_of_le (h.sentGens a ha)
  case sentAsked => exact fun a ha => Nat.le_trans (h.sentAsked a ha) h.lastAsked
  case sentNewest => exact fun a ha hgen => absurd hgen (hsentGen a ha)
  case apart =>
    intro a ha f hf
    rcases List.mem_append.mp hf with hf | hf
    · exact h.apart a ha f hf
    · rw [List.mem_singleton.mp hf]
      exact hsentGen a ha
  case behind =>
    intro a ha f hf hlt r hr
    rcases List.mem_append.mp hf with hf | hf
    · exact h.behind a ha f hf hlt r hr
    · rw [List.mem_singleton.mp hf] at hr
      cases hr
  case forward => exact h.forward
  case refreshing =>
    intro c hc
    rcases h.refreshing c hc with hasked | ⟨p, hp, hms⟩ | ⟨f, hf, hms⟩
    · exact .inl (Nat.le_trans hasked h.lastAsked)
    · rcases mem_or_mem_eraseIdx hi hp with rfl | hp
      · refine .inr (.inr ⟨_, List.mem_append_right _ (List.mem_singleton_self _), ?_⟩)
        exact Nat.le_trans hms (Nat.add_le_add_right hnow _)
      · exact .inr (.inl ⟨p, hp, hms⟩)
    · exact .inr (.inr ⟨f, List.mem_append_left _ hf, hms⟩)

theorem Sound.answer (h : s.Sound) {f : Fetch τ} (hi : s.fetches[i]? = some f)
    {read : Option (Rows τ)} (hread : ∀ r, read = some r →
      Reads s.versions f.askedMs r ∧ s.versions.length ≤ r.version + 1) :
    ({ s with fetches := s.fetches.set i { f with answer := some read } } : History τ).Sound := by
  have hf := List.mem_of_getElem? hi
  have hmem (g) (hg : g ∈ s.fetches.set i { f with answer := some read }) :
      g ∈ s.fetches ∨ g = { f with answer := some read } :=
    List.mem_or_eq_of_mem_set hg
  have hgens : (s.fetches.set i { f with answer := some read }).map Fetch.myGen =
      s.fetches.map Fetch.myGen := by
    obtain ⟨hlt, rfl⟩ := List.getElem?_eq_some_iff.mp hi
    rw [List.map_set]
    show (s.fetches.map Fetch.myGen).set i s.fetches[i].myGen = _
    rw [← List.getElem_map Fetch.myGen, List.set_getElem_self]
    rwa [List.length_map]
  refine { h with
    gens := ?_, nodup := ?_, asked := ?_, newest := ?_, answers := ?_, apart := ?_, behind := ?_
    refreshing := ?_ }
  · intro g hg
    rcases hmem g hg with hg | rfl
    · exact h.gens g hg
    · exact h.gens f hf
  · rw [hgens]
    exact h.nodup
  · intro g hg
    rcases hmem g hg with hg | rfl
    · exact h.asked g hg
    · exact h.asked f hf
  · intro g hg
    rcases hmem g hg with hg | rfl
    · exact h.newest g hg
    · exact h.newest f hf
  · intro g hg r hr
    rcases hmem g hg with hg | rfl
    · exact h.answers g hg r hr
    · exact (hread r (by simpa using hr)).1
  · intro a ha g hg
    rcases hmem g hg with hg | rfl
    · exact h.apart a ha g hg
    · exact h.apart a ha f hf
  · intro a ha g hg hlt r hr
    rcases hmem g hg with hg | rfl
    · exact h.behind a ha g hg hlt r hr
    · have hlast := (hread r (by simpa using hr)).2
      have hbound := (h.sentReads a ha).lt
      omega
  · intro c hc
    rcases h.refreshing c hc with hasked | hsleep | ⟨g, hg, hms⟩
    · exact .inl hasked
    · exact .inr (.inl hsleep)
    · obtain ⟨g', hg', hasked, hrest, -⟩ := mem_set_answer hi hg
      exact .inr (.inr ⟨g', hg', by rwa [hasked, hrest]⟩)

/-- A fetch ends, and the rest of its schedule goes on. -/
theorem Sound.leave (h : s.Sound) {f : Fetch τ} (hi : s.fetches[i]? = some f) :
    ({ s with
      fetches := s.fetches.eraseIdx i
      sleeping := s.sleeping ++ schedule s.nowMs f.rest } : History τ).Sound := by
  have hold {g} (hg : g ∈ s.fetches.eraseIdx i) : g ∈ s.fetches := List.mem_of_mem_eraseIdx hg
  refine { h with
    gens := fun g hg => h.gens g (hold hg)
    nodup := h.nodup.sublist ((List.eraseIdx_sublist _ _).map _)
    asked := fun g hg => h.asked g (hold hg)
    newest := fun g hg => h.newest g (hold hg)
    answers := fun g hg => h.answers g (hold hg)
    apart := fun a ha g hg => h.apart a ha g (hold hg)
    behind := fun a ha g hg => h.behind a ha g (hold hg)
    refreshing := fun c hc => ?_ }
  rcases h.refreshing c hc with hasked | ⟨p, hp, hms⟩ | ⟨g, hg, hms⟩
  · exact .inl hasked
  · exact .inr (.inl ⟨p, List.mem_append_left _ hp, hms⟩)
  · rcases mem_or_mem_eraseIdx hi hg with rfl | hg
    · have hlast := h.asked _ (List.mem_of_getElem? hi)
      have hnow := h.lastAsked
      cases hrest : g.rest with
      | nil =>
        rw [hrest, List.sum_nil] at hms
        exact .inl (Nat.le_trans hms hlast)
      | cons delay rest =>
        rw [hrest, List.sum_cons] at hms
        refine .inr (.inl ⟨(s.nowMs + delay, rest), by simp [schedule], ?_⟩)
        show c + 32_800 ≤ s.nowMs + delay + rest.sum
        omega
    · exact .inr (.inr ⟨g, hg, hms⟩)

/-- The newest fetch hands over what it read. -/
theorem Sound.show (h : s.Sound) {a : Shown τ} (hreads : Reads s.versions a.askedMs a.toRows)
    (hgen : a.gen = s.fetchGen) (hasked : a.askedMs = s.lastAskedMs)
    (hapart : ∀ f ∈ s.fetches, f.myGen ≠ s.fetchGen)
    (hforward : ∀ b ∈ s.sent, b.version ≤ a.version) :
    ({ s with sent := s.sent ++ [a] } : History τ).Sound := by
  refine { h with
    sentReads := ?_, sentGens := ?_, sentAsked := ?_, sentNewest := ?_, apart := ?_, behind := ?_
    forward := ?_ }
  · exact List.forall_mem_append.mpr ⟨h.sentReads, by simpa using hreads⟩
  · exact List.forall_mem_append.mpr ⟨h.sentGens, by simp [hgen]⟩
  · exact List.forall_mem_append.mpr ⟨h.sentAsked, by simp [hasked]⟩
  · exact List.forall_mem_append.mpr ⟨h.sentNewest, by simp [hasked]⟩
  · refine List.forall_mem_append.mpr ⟨h.apart, ?_⟩
    simp only [List.mem_singleton, forall_eq, hgen]
    exact fun f hf => (hapart f hf).symm
  · refine List.forall_mem_append.mpr ⟨h.behind, ?_⟩
    simp only [List.mem_singleton, forall_eq, hgen]
    exact fun f hf hlt => absurd (h.gens f hf) (not_le.mpr hlt)
  · exact List.pairwise_append.mpr ⟨h.forward, List.pairwise_singleton _ _, by simpa using hforward⟩

theorem Sound.finish (h : s.Sound) {myGen : ℕ} {rest : List ℕ} {read : Option (Rows τ)}
    (hi : s.fetches[i]? = some ⟨myGen, askedMs, rest, some read⟩) :
    ({ s with
      fetches := s.fetches.eraseIdx i
      sleeping := s.sleeping ++ schedule s.nowMs rest
      sent := s.sent ++ if s.fetchGen = myGen then
        read.toList.map fun r => ⟨r, myGen, askedMs⟩ else [] } : History τ).Sound := by
  have hf := List.mem_of_getElem? hi
  have hleave := h.leave hi
  by_cases hgen : s.fetchGen = myGen
  · cases read with
    | none => simpa using hleave
    | some r =>
      rw [if_pos hgen]
      refine hleave.show (h.answers _ hf r rfl) hgen.symm ?_ ?_ fun b hb => ?_
      · exact Nat.le_antisymm (h.asked _ hf) (h.newest _ hf hgen.symm)
      · have hnodup := ((List.getElem_cons_eraseIdx_perm
          (List.getElem?_eq_some_iff.mp hi).1).map Fetch.myGen).nodup_iff.mpr h.nodup
        rw [(List.getElem?_eq_some_iff.mp hi).2, List.map_cons, List.nodup_cons] at hnodup
        intro g hg heq
        exact hnodup.1 (List.mem_map.mpr ⟨g, hg, heq.trans hgen⟩)
      · refine h.behind b hb _ hf ?_ r rfl
        exact lt_of_le_of_ne (hgen ▸ h.sentGens b hb) (h.apart b hb _ hf)
  · rw [if_neg hgen, List.append_nil]
    exact hleave

theorem Sound.step (h : s.Sound) {e : HistoryEvent τ} (hstep : s.step e = some t) : t.Sound := by
  cases e with
  | tick ms =>
    cases hstep
    exact h.tick ms
  | write rows =>
    cases hstep
    exact h.write rows
  | fetchBotTrades =>
    cases hstep
    exact h.sleep _
  | refreshAfterClose =>
    cases hstep
    exact h.refreshAfterClose
  | wake i =>
    simp only [History.step] at hstep
    split at hstep
    · rename_i wakeMs rest hi
      split_ifs at hstep with hnow
      cases hstep
      exact h.wake hi hnow
    · cases hstep
  | answer i ok =>
    simp only [History.step] at hstep
    split at hstep
    · rename_i f hi
      split at hstep
      · rename_i rows ms hanswer hlast
        cases hstep
        refine h.answer hi fun r hr => ?_
        obtain ⟨-, hr⟩ := Option.ite_none_right_eq_some.mp hr
        cases hr
        exact ⟨reads_last hlast, Nat.le_succ_of_pred_le le_rfl⟩
      · cases hstep
    · cases hstep
  | finish i =>
    simp only [History.step] at hstep
    split at hstep
    · rename_i myGen asked rest read hi
      cases hstep
      exact { h.finish hi with }
    · cases hstep

/-- The newest fetch is under way, has failed, or is what is shown. -/
def Newest (s : History τ) : Prop :=
  s.fetchGen = 0 ∧ s.lastAskedMs = 0 ∨ (∃ f ∈ s.fetches, f.myGen = s.fetchGen) ∨
    s.fetchGen ∈ s.failed ∨ ∃ a, s.sent.getLast? = some a ∧ a.gen = s.fetchGen

theorem Newest.step (h : s.Newest) {e : HistoryEvent τ} (hstep : s.step e = some t) :
    t.Newest := by
  cases e with
  | tick ms =>
    cases hstep
    exact h
  | write rows =>
    cases hstep
    exact h
  | fetchBotTrades =>
    cases hstep
    exact h
  | refreshAfterClose =>
    cases hstep
    exact h
  | wake i =>
    simp only [History.step] at hstep
    split at hstep
    · split_ifs at hstep
      cases hstep
      exact .inr (.inl ⟨_, List.mem_append_right _ (List.mem_singleton_self _), rfl⟩)
    · cases hstep
  | answer i ok =>
    simp only [History.step] at hstep
    split at hstep
    · rename_i f hi
      split at hstep
      · cases hstep
        rcases h with hstart | ⟨g, hg, hgen⟩ | hrest
        · exact .inl hstart
        · obtain ⟨g', hg', -, -, hgen'⟩ := mem_set_answer hi hg
          exact .inr (.inl ⟨g', hg', hgen'.trans hgen⟩)
        · exact .inr (.inr hrest)
      · cases hstep
    · cases hstep
  | finish i =>
    simp only [History.step] at hstep
    split at hstep
    · rename_i myGen asked rest read hi
      cases hstep
      by_cases hgen : s.fetchGen = myGen
      · cases read with
        | none => exact .inr (.inr (.inl (by simp [hgen])))
        | some r => exact .inr (.inr (.inr ⟨⟨r, myGen, asked⟩, by simp [hgen], hgen.symm⟩))
      · rcases h with hstart | ⟨g, hg, hnewest⟩ | hfailed | ⟨a, ha, hnewest⟩
        · exact .inl hstart
        · rcases mem_or_mem_eraseIdx hi hg with rfl | hg
          · exact absurd hnewest.symm hgen
          · exact .inr (.inl ⟨g, hg, hnewest⟩)
        · refine .inr (.inr (.inl ?_))
          show s.fetchGen ∈ if read.isNone then s.failed ++ [myGen] else s.failed
          split_ifs
          · exact List.mem_append_left _ hfailed
          · exact hfailed
        · exact .inr (.inr (.inr ⟨a, by simpa [hgen] using ha, hnewest⟩))
    · cases hstep

theorem newest_of_started (h : s.Started) : s.Newest := .inl ⟨h.fetchGen, h.lastAsked⟩

end History

/-- **The history goes forward.** In every run, however the fetches overtake each other: what is
handed to the view is a version of the table, none older than the one before, with all that was
written before it was asked for. When nothing is under way any more and the last fetch has not
failed, the view shows all that was written within 32.8 seconds of any close. -/
theorem history_forward {τ : Type*} {s t : History τ} {es : List (HistoryEvent τ)}
    (hs : (history τ).init s) (h : (history τ).Path Machine.free s es t) :
    (t.sent.Pairwise fun a b => a.version ≤ b.version) ∧
      (∀ a ∈ t.sent, t.versions[a.version]?.map Prod.fst = some a.rows ∧
        ∀ k v, t.versions[k]? = some v → v.2 < a.askedMs → k ≤ a.version) ∧
      (t.sleeping = [] → t.fetches = [] → t.fetchGen ∉ t.failed → ∀ c ∈ t.closes,
        ∃ a, t.sent.getLast? = some a ∧
          ∀ k v, t.versions[k]? = some v → v.2 < c + 32_800 → k ≤ a.version) := by
  have hsound : t.Sound :=
    h.invariant (fun _ _ _ hsound _ hstep => hsound.step hstep) (History.sound_of_started hs)
  have hnewest : t.Newest :=
    h.invariant (fun _ _ _ hnewest _ hstep => hnewest.step hstep) (History.newest_of_started hs)
  refine ⟨hsound.forward, fun a ha => ?_, fun hsleeping hfetches hfailed c hc => ?_⟩
  · exact ⟨(hsound.sentReads a ha).rows, (hsound.sentReads a ha).missesNone⟩
  · have hasked : c + 32_800 ≤ t.lastAskedMs := by
      rcases hsound.refreshing c hc with hasked | ⟨p, hp, -⟩ | ⟨f, hf, -⟩
      · exact hasked
      · exact absurd hp (by simp [hsleeping])
      · exact absurd hf (by simp [hfetches])
    rcases hnewest with ⟨-, hstart⟩ | ⟨f, hf, -⟩ | hbad | ⟨a, ha, hgen⟩
    · omega
    · exact absurd hf (by simp [hfetches])
    · exact absurd hbad hfailed
    · have hmem := List.mem_of_getLast? ha
      have hnewer := hsound.sentNewest a hmem hgen
      refine ⟨a, ha, fun k v hv hlt => (hsound.sentReads a hmem).missesNone k v hv ?_⟩
      omega

/-- A fetch is answered before the row of a closed trade is there and ends after the first fetch of
the refresh has started. The last one finds the row. -/
def lateRow : List (HistoryEvent ℕ) :=
  [.fetchBotTrades, .wake 0, .answer 0 true,
    .refreshAfterClose, .wake 0, .finish 0, .answer 0 false, .finish 0,
    .tick 800, .wake 0, .answer 0 true, .write 1, .finish 0,
    .tick 2000, .wake 0, .answer 0 true, .finish 0,
    .tick 5000, .wake 0, .answer 0 true, .finish 0,
    .tick 10_000, .wake 0, .answer 0 false, .finish 0,
    .tick 15_000, .wake 0, .answer 0 true, .finish 0]

def started : History ℕ := ⟨0, [(0, 0)], 0, [], [], [], [], [], 0⟩

theorem history_forward_lateRow :
    ∃ t a, (history ℕ).run started lateRow = some t ∧ t.closes = [0] ∧
      t.sent.map (·.rows) = [0, 1, 1, 1] ∧ t.sent.getLast? = some a ∧ 1 ≤ a.version := by
  have hrun : ((history ℕ).run started lateRow).any (fun t =>
      decide (t.sleeping = [] ∧ t.fetches.isEmpty ∧ t.fetchGen ∉ t.failed ∧ t.closes = [0] ∧
        t.sent.map (·.rows) = [0, 1, 1, 1] ∧ t.versions = [(0, 0), (1, 800)])) = true := by
    decide +kernel
  obtain ⟨t, ht, hcheck⟩ := (Option.any_eq_true _ _).mp hrun
  obtain ⟨hsleeping, hfetches, hfailed, hcloses, hrows, hversions⟩ := of_decide_eq_true hcheck
  have hstarted : (history ℕ).init started := ⟨rfl, rfl, rfl, rfl, rfl, rfl, rfl, rfl⟩
  obtain ⟨a, ha, hseen⟩ := (history_forward hstarted (.of_run ht)).2.2 hsleeping
    (List.isEmpty_iff.mp hfetches) hfailed 0 (by simp [hcloses])
  exact ⟨t, a, ht, hcloses, hrows, ha, hseen 1 (1, 800) (by rw [hversions]; rfl) (by decide)⟩

end Loggaper.Dashboard
