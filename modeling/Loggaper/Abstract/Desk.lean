import Loggaper.Lib.Transition
import Mathlib.Data.Finset.Card
import Mathlib.Data.Finset.Image
import Mathlib.Data.Multiset.Count
import Mathlib.Data.Multiset.AddSub

/-!
# A buying desk

What the buy side of a position manager is for, over any type of rows (`κ`) grouped by an
instrument (`mint : κ → μ`). A signal orders one buy per row; an order waits, then runs at the
broker, then fills, fails, or fills and is sold again at once. A row is open from its fill until it
is closed or abandoned, and an instrument whose last row has gone is closed.

Three guards make the desk keep its promises on every path:
- `NoRebuy`: a signal orders no row with an order still out. Then there is at most one order or
  row per key (`atMostOne_path`).
- `Covered`: at a signal every other instrument with an order out is pending or open. Then the cap
  holds (`capped_path`).
- `NoStraggler`: nothing runs for an instrument that is finished. Then what is finished stays so
  (`done_path`).
-/

/-- The state of a buying desk. -/
structure Desk (κ μ : Type*) where
  rows : Finset κ
  /-- Instruments whose signal is still being handed out. -/
  pending : Finset μ
  closed : Finset μ
  /-- Orders that have not reached the broker. -/
  waiting : Multiset κ
  /-- Orders at the broker, until their result is taken. -/
  running : Multiset κ
  /-- Instruments of which some order has filled. -/
  bought : Finset μ

namespace Desk

inductive Move (κ μ : Type*)
  | idle
  /-- A signal is accepted and orders these rows. -/
  | accept (m : μ) (ks : List κ)
  /-- The signal is handed out. -/
  | clear (m : μ)
  /-- A waiting order is dropped. -/
  | drop (k : κ)
  /-- A waiting order goes to the broker. -/
  | issue (k : κ)
  /-- The broker fails; a refused instrument is finished when nothing is open on it. -/
  | fail (k : κ) (refused : Bool)
  | fill (k : κ)
  /-- The broker fills, and the fill is sold again at once. -/
  | abort (k : κ)
  | close (k : κ)
  | abandon (m : μ) (ks : List κ)

variable {κ μ : Type*}

/-- All orders that are out. -/
def orders (d : Desk κ μ) : Multiset κ := d.waiting + d.running

variable [DecidableEq μ] (mint : κ → μ)

/-- Instruments with an open row. -/
def openMints (d : Desk κ μ) : Finset μ := d.rows.image mint

/-- An instrument without rows is closed. -/
def finalize (d : Desk κ μ) (m : μ) : Desk κ μ :=
  if m ∈ d.openMints mint then d else { d with closed := insert m d.closed }

/-- The desk accepts a signal on this instrument; `allows` judges the number of instruments that
are open or pending. -/
def Accepts (allows : ℕ → Bool) (d : Desk κ μ) (m : μ) : Prop :=
  m ∉ d.openMints mint ∧ m ∉ d.pending ∧ m ∉ d.closed ∧
    allows (d.openMints mint ∪ d.pending).card = true

instance (allows : ℕ → Bool) (d : Desk κ μ) (m : μ) : Decidable (d.Accepts mint allows m) :=
  inferInstanceAs (Decidable (_ ∧ _ ∧ _ ∧ _))

section
variable {mint}

@[simp] theorem finalize_rows (d : Desk κ μ) (m : μ) : (d.finalize mint m).rows = d.rows := by
  unfold finalize; split_ifs <;> rfl

@[simp] theorem finalize_pending (d : Desk κ μ) (m : μ) :
    (d.finalize mint m).pending = d.pending := by
  unfold finalize; split_ifs <;> rfl

@[simp] theorem finalize_waiting (d : Desk κ μ) (m : μ) :
    (d.finalize mint m).waiting = d.waiting := by
  unfold finalize; split_ifs <;> rfl

@[simp] theorem finalize_running (d : Desk κ μ) (m : μ) :
    (d.finalize mint m).running = d.running := by
  unfold finalize; split_ifs <;> rfl

@[simp] theorem finalize_bought (d : Desk κ μ) (m : μ) : (d.finalize mint m).bought = d.bought := by
  unfold finalize; split_ifs <;> rfl

@[simp] theorem finalize_openMints (d : Desk κ μ) (m : μ) :
    (d.finalize mint m).openMints mint = d.openMints mint := by
  simp [openMints]

theorem mem_finalize_closed {d : Desk κ μ} {m m' : μ} :
    m' ∈ (d.finalize mint m).closed ↔ m' ∈ d.closed ∨ (m' = m ∧ m ∉ d.openMints mint) := by
  unfold finalize
  split_ifs with h
  · simp [h]
  · simp [h, or_comm]

theorem mem_openMints {d : Desk κ μ} {m : μ} : m ∈ d.openMints mint ↔ ∃ k ∈ d.rows, mint k = m := by
  simp [openMints]

end

variable [DecidableEq κ]

def step (allows : ℕ → Bool) (d : Desk κ μ) : Move κ μ → Option (Desk κ μ)
  | .idle => some d
  | .accept m ks =>
    if d.Accepts mint allows m ∧ ks.Nodup ∧ ∀ k ∈ ks, mint k = m then
      some { d with pending := insert m d.pending, waiting := d.waiting + (ks : Multiset κ) }
    else none
  | .clear m => some { d with pending := d.pending.erase m }
  | .drop k => if k ∈ d.waiting then some { d with waiting := d.waiting.erase k } else none
  | .issue k =>
    if k ∈ d.waiting ∧ k ∉ d.rows then
      some { d with waiting := d.waiting.erase k, running := d.running + {k} }
    else none
  | .fail k refused =>
    if k ∈ d.running then
      let d := { d with running := d.running.erase k }
      some (if refused then d.finalize mint (mint k) else d)
    else none
  | .fill k =>
    if k ∈ d.running then
      some { d with
        running := d.running.erase k
        rows := insert k d.rows
        bought := insert (mint k) d.bought }
    else none
  | .abort k =>
    if k ∈ d.running then
      some { d with running := d.running.erase k, bought := insert (mint k) d.bought }
    else none
  | .close k =>
    if k ∈ d.rows then some (finalize mint { d with rows := d.rows.erase k } (mint k)) else none
  | .abandon m ks =>
    if ∀ k ∈ ks, mint k = m then some (finalize mint { d with rows := d.rows \ ks.toFinset } m)
    else none

/-- The desk as a machine. -/
def machine (allows : ℕ → Bool) : Machine (Desk κ μ) (Move κ μ) where
  init d := d = ⟨∅, ∅, ∅, 0, 0, ∅⟩
  step := step mint allows

/-! ## What a move does -/

inductive Makes (allows : ℕ → Bool) (d : Desk κ μ) : Move κ μ → Desk κ μ → Prop
  | idle : Makes allows d .idle d
  | accept {m : μ} {ks : List κ} (haccepts : d.Accepts mint allows m) (hnodup : ks.Nodup)
      (hks : ∀ k ∈ ks, mint k = m) :
      Makes allows d (.accept m ks)
        { d with pending := insert m d.pending, waiting := d.waiting + (ks : Multiset κ) }
  | clear (m : μ) : Makes allows d (.clear m) { d with pending := d.pending.erase m }
  | drop {k : κ} (hw : k ∈ d.waiting) :
      Makes allows d (.drop k) { d with waiting := d.waiting.erase k }
  | issue {k : κ} (hw : k ∈ d.waiting) (hrow : k ∉ d.rows) :
      Makes allows d (.issue k)
        { d with waiting := d.waiting.erase k, running := d.running + {k} }
  | fail {k : κ} (hr : k ∈ d.running) :
      Makes allows d (.fail k false) { d with running := d.running.erase k }
  | refuse {k : κ} (hr : k ∈ d.running) :
      Makes allows d (.fail k true) (finalize mint { d with running := d.running.erase k } (mint k))
  | fill {k : κ} (hr : k ∈ d.running) :
      Makes allows d (.fill k)
        { d with
          running := d.running.erase k
          rows := insert k d.rows
          bought := insert (mint k) d.bought }
  | abort {k : κ} (hr : k ∈ d.running) :
      Makes allows d (.abort k)
        { d with running := d.running.erase k, bought := insert (mint k) d.bought }
  | close {k : κ} (hrow : k ∈ d.rows) :
      Makes allows d (.close k) (finalize mint { d with rows := d.rows.erase k } (mint k))
  | abandon {m : μ} {ks : List κ} (hks : ∀ k ∈ ks, mint k = m) :
      Makes allows d (.abandon m ks) (finalize mint { d with rows := d.rows \ ks.toFinset } m)

variable {mint} in
theorem makes_of_step {allows : ℕ → Bool} {d d' : Desk κ μ} {a : Move κ μ}
    (h : step mint allows d a = some d') : Makes mint allows d a d' := by
  cases a with
  | idle => cases h; exact .idle
  | accept m ks =>
    simp only [step] at h
    split_ifs at h with haccept
    cases h
    exact .accept haccept.1 haccept.2.1 haccept.2.2
  | clear m => cases h; exact .clear m
  | drop k =>
    simp only [step] at h
    split_ifs at h with hw
    cases h
    exact .drop hw
  | issue k =>
    simp only [step] at h
    split_ifs at h with hw
    cases h
    exact .issue hw.1 hw.2
  | fail k refused =>
    simp only [step] at h
    split_ifs at h with hr href
    · cases h
      rw [href]
      exact .refuse hr
    · cases h
      rw [Bool.not_eq_true] at href
      rw [href]
      exact .fail hr
  | fill k =>
    simp only [step] at h
    split_ifs at h with hr
    cases h
    exact .fill hr
  | abort k =>
    simp only [step] at h
    split_ifs at h with hr
    cases h
    exact .abort hr
  | close k =>
    simp only [step] at h
    split_ifs at h with hrow
    cases h
    exact .close hrow
  | abandon m ks =>
    simp only [step] at h
    split_ifs at h with hks
    cases h
    exact .abandon hks

/-! ## At most one order or row per key -/

/-- Rows and orders of one key. -/
def load (d : Desk κ μ) (k : κ) : ℕ := d.orders.count k + if k ∈ d.rows then 1 else 0

def AtMostOne (d : Desk κ μ) : Prop := ∀ k, d.load k ≤ 1

/-- The signal that is accepted in this move, with the rows that it orders. -/
def accepted : Move κ μ → Option (μ × List κ)
  | .accept m ks => some (m, ks)
  | _ => none

/-- A signal orders no row with an order still out. -/
def NoRebuy (d : Desk κ μ) (a : Move κ μ) : Prop := ∀ p ∈ accepted a, ∀ k ∈ p.2, k ∉ d.orders

instance (d : Desk κ μ) (a : Move κ μ) : Decidable (d.NoRebuy a) :=
  inferInstanceAs (Decidable (∀ p ∈ accepted a, ∀ k ∈ p.2, k ∉ d.orders))

variable {mint} {allows : ℕ → Bool} {cap : ℕ} {d d' : Desk κ μ} {a : Move κ μ}

omit [DecidableEq μ] in
theorem load_eq (d : Desk κ μ) (k : κ) :
    d.load k = d.waiting.count k + d.running.count k + if k ∈ d.rows then 1 else 0 := by
  simp [load, orders, Multiset.count_add]

theorem count_erase_mem {s : Multiset κ} {k : κ} (h : k ∈ s) (a : κ) :
    (s.erase k).count a + (if a = k then 1 else 0) = s.count a := by
  by_cases hak : a = k
  · subst hak
    have := Multiset.count_pos.mpr h
    simp [Multiset.count_erase_self]
    omega
  · simp [hak, Multiset.count_erase_of_ne hak]

theorem atMostOne_step (hd : d.AtMostOne) (hg : d.NoRebuy a) (h : step mint allows d a = some d') :
    d'.AtMostOne := by
  intro k
  have hk := hd k
  rw [load_eq] at hk ⊢
  cases makes_of_step h with
  | idle | clear => exact hk
  | @accept m ks haccepts hnodup hks =>
    simp only [Multiset.count_add, Multiset.coe_count]
    by_cases hmem : k ∈ ks
    · -- a newly ordered key had no order out, and its instrument had no row
      have h₀ : d.orders.count k = 0 := Multiset.count_eq_zero.mpr (hg _ rfl k hmem)
      have hrow : k ∉ d.rows := fun hr => haccepts.1 (mem_openMints.mpr ⟨k, hr, hks k hmem⟩)
      rw [orders, Multiset.count_add] at h₀
      have h₁ : ks.count k = 1 := List.count_eq_one_of_mem hnodup hmem
      rw [if_neg hrow]
      omega
    · have h₁ : ks.count k = 0 := List.count_eq_zero.mpr hmem
      omega
  | drop hw =>
    have hcount := count_erase_mem hw k
    dsimp only
    omega
  | issue hw =>
    have hcount := count_erase_mem hw k
    simp only [Multiset.count_add, Multiset.count_singleton]
    split_ifs at * <;> omega
  | fail hr | abort hr =>
    have hcount := count_erase_mem hr k
    dsimp only
    omega
  | refuse hr =>
    have hcount := count_erase_mem hr k
    simp only [finalize_rows, finalize_waiting, finalize_running]
    omega
  | @fill k' hr =>
    have hcount := count_erase_mem hr k
    have hrow : (if k ∈ insert k' d.rows then 1 else 0) ≤
        (if k = k' then 1 else 0) + if k ∈ d.rows then 1 else 0 := by
      by_cases hkk : k = k' <;> simp [hkk]
    dsimp only
    omega
  | close =>
    simp only [finalize_rows, finalize_waiting, finalize_running, Finset.mem_erase]
    split_ifs at * <;> simp_all
  | abandon =>
    simp only [finalize_rows, finalize_waiting, finalize_running, Finset.mem_sdiff]
    split_ifs at * <;> simp_all

theorem atMostOne_path {as : List (Move κ μ)} (h : (machine mint allows).Path NoRebuy d as d')
    (hd : d.AtMostOne) : d'.AtMostOne :=
  h.invariant (fun _ _ _ hs hg ht => atMostOne_step hs hg ht) hd

omit [DecidableEq μ] in
/-- Under the invariant, an order at the broker has no row and no second order. -/
theorem AtMostOne.running (hd : d.AtMostOne) {k : κ} (hk : k ∈ d.running) :
    k ∉ d.rows ∧ k ∉ d.waiting := by
  have := hd k
  have hpos := Multiset.count_pos.mpr hk
  rw [load_eq] at this
  refine ⟨fun hr => ?_, fun hw => ?_⟩
  · rw [if_pos hr] at this; omega
  · have := Multiset.count_pos.mpr hw; omega

/-! ## The cap -/

/-- Instruments that are open, pending or ordered. -/
def exposure (mint : κ → μ) (d : Desk κ μ) : Finset μ :=
  d.openMints mint ∪ d.pending ∪ (d.orders.map mint).toFinset

def Capped (mint : κ → μ) (cap : ℕ) (d : Desk κ μ) : Prop := (d.exposure mint).card ≤ cap

/-- At a signal every other instrument with an order out is pending or open. -/
def Covered (mint : κ → μ) (d : Desk κ μ) (a : Move κ μ) : Prop :=
  ∀ p ∈ accepted a, ∀ k ∈ d.orders, mint k ≠ p.1 → mint k ∈ d.openMints mint ∪ d.pending

instance (d : Desk κ μ) (a : Move κ μ) : Decidable (d.Covered mint a) :=
  inferInstanceAs (Decidable (∀ p ∈ accepted a, ∀ k ∈ d.orders, _ → _))

omit [DecidableEq κ] in
theorem mem_exposure {m : μ} :
    m ∈ d.exposure mint ↔
      (∃ k ∈ d.rows, mint k = m) ∨ m ∈ d.pending ∨
        ∃ k, (k ∈ d.waiting ∨ k ∈ d.running) ∧ mint k = m := by
  simp only [exposure, Finset.mem_union, mem_openMints, Multiset.mem_toFinset, Multiset.mem_map,
    orders, Multiset.mem_add, or_assoc]

/-- Every move but an accepted signal exposes the desk to no new instrument. -/
theorem exposure_subset (h : step mint allows d a = some d') (ha : ∀ m ks, a ≠ .accept m ks) :
    d'.exposure mint ⊆ d.exposure mint := by
  intro m hm
  rw [mem_exposure] at hm ⊢
  cases makes_of_step h with
  | idle => exact hm
  | accept => exact absurd rfl (ha _ _)
  | clear m' => exact hm.imp_right (Or.imp_left Finset.mem_of_mem_erase)
  | drop hw =>
    refine hm.imp_right (Or.imp_right ?_)
    rintro ⟨k', hk', rfl⟩
    exact ⟨k', hk'.imp_left Multiset.mem_of_mem_erase, rfl⟩
  | issue hw =>
    refine hm.imp_right (Or.imp_right ?_)
    rintro ⟨k', hk' | hk', rfl⟩
    · exact ⟨k', .inl (Multiset.mem_of_mem_erase hk'), rfl⟩
    · rcases Multiset.mem_add.mp hk' with hk' | hk'
      · exact ⟨k', .inr hk', rfl⟩
      · rw [Multiset.mem_singleton] at hk'
        subst hk'
        exact ⟨k', .inl hw, rfl⟩
  | fail | abort =>
    refine hm.imp_right (Or.imp_right ?_)
    rintro ⟨k', hk', rfl⟩
    exact ⟨k', hk'.imp_right Multiset.mem_of_mem_erase, rfl⟩
  | refuse =>
    simp only [finalize_rows, finalize_pending, finalize_waiting, finalize_running] at hm
    refine hm.imp_right (Or.imp_right ?_)
    rintro ⟨k', hk', rfl⟩
    exact ⟨k', hk'.imp_right Multiset.mem_of_mem_erase, rfl⟩
  | fill hr =>
    rcases hm with ⟨k', hk', rfl⟩ | hm | ⟨k', hk', rfl⟩
    · rcases Finset.mem_insert.mp hk' with rfl | hk'
      · exact .inr (.inr ⟨k', .inr hr, rfl⟩)
      · exact .inl ⟨k', hk', rfl⟩
    · exact .inr (.inl hm)
    · exact .inr (.inr ⟨k', hk'.imp_right Multiset.mem_of_mem_erase, rfl⟩)
  | close =>
    simp only [finalize_rows, finalize_pending, finalize_waiting, finalize_running] at hm
    refine hm.imp_left ?_
    rintro ⟨k', hk', rfl⟩
    exact ⟨k', Finset.mem_of_mem_erase hk', rfl⟩
  | abandon =>
    simp only [finalize_rows, finalize_pending, finalize_waiting, finalize_running] at hm
    refine hm.imp_left ?_
    rintro ⟨k', hk', rfl⟩
    exact ⟨k', (Finset.mem_sdiff.mp hk').1, rfl⟩

theorem capped_step (hcap : ∀ n ≤ cap, allows n = true → n < cap) (hd : d.Capped mint cap)
    (hg : d.Covered mint a) (h : step mint allows d a = some d') : d'.Capped mint cap := by
  by_cases ha : ∀ m ks, a ≠ .accept m ks
  · exact (Finset.card_le_card (exposure_subset h ha)).trans hd
  · push Not at ha
    obtain ⟨m, ks, rfl⟩ := ha
    cases makes_of_step h with
    | accept haccepts hnodup hks =>
      -- all that is ordered is counted by the gate, so the signal adds one instrument at most
      have hsub : exposure mint
          { d with pending := insert m d.pending, waiting := d.waiting + (ks : Multiset κ) } ⊆
          insert m (d.openMints mint ∪ d.pending) := by
        intro m' hm'
        rw [mem_exposure] at hm'
        rw [Finset.mem_insert]
        rcases hm' with hrow | hpend | ⟨k, hk, rfl⟩
        · exact .inr (Finset.mem_union_left _ (mem_openMints.mpr hrow))
        · exact (Finset.mem_insert.mp hpend).imp_right (Finset.mem_union_right _)
        · by_cases hkm : mint k = m
          · exact .inl hkm
          · rcases hk with hk | hk
            · rcases Multiset.mem_add.mp hk with hk | hk
              · exact .inr (hg _ rfl k (Multiset.mem_add.mpr (.inl hk)) hkm)
              · exact absurd (hks k hk) hkm
            · exact .inr (hg _ rfl k (Multiset.mem_add.mpr (.inr hk)) hkm)
      have hcard : (d.openMints mint ∪ d.pending).card ≤ cap :=
        (Finset.card_le_card Finset.subset_union_left).trans hd
      calc _ ≤ (insert m (d.openMints mint ∪ d.pending)).card := Finset.card_le_card hsub
        _ ≤ (d.openMints mint ∪ d.pending).card + 1 := Finset.card_insert_le _ _
        _ ≤ cap := hcap _ hcard haccepts.2.2.2

theorem capped_path (hcap : ∀ n ≤ cap, allows n = true → n < cap) {as : List (Move κ μ)}
    (h : (machine mint allows).Path (Covered mint) d as d') (hd : d.Capped mint cap) :
    d'.Capped mint cap :=
  h.invariant (fun _ _ _ hs hg ht => capped_step hcap hs hg ht) hd

omit [DecidableEq κ] in
theorem Capped.openMints (hd : d.Capped mint cap) : (d.openMints mint).card ≤ cap :=
  (Finset.card_le_card
    (Finset.subset_union_left.trans Finset.subset_union_left)).trans hd

/-! ## What is finished stays finished -/

/-- The instrument is closed, or it was bought and all of it has been sold. -/
def Done (mint : κ → μ) (d : Desk κ μ) (m : μ) : Prop :=
  m ∈ d.closed ∨ (m ∈ d.bought ∧ m ∉ d.openMints mint)

/-- The instrument that a move leaves without rows for good. -/
def finishes (mint : κ → μ) (d : Desk κ μ) : Move κ μ → Option μ
  | .fail k true => if mint k ∈ d.openMints mint then none else some (mint k)
  | .abort k => if mint k ∈ d.openMints mint then none else some (mint k)
  | .close k => if ∃ k' ∈ d.rows, k' ≠ k ∧ mint k' = mint k then none else some (mint k)
  | .abandon m ks => if ∃ k' ∈ d.rows, k' ∉ ks ∧ mint k' = m then none else some m
  | _ => none

/-- The orders that are still at the broker when the move has taken its own. -/
def others (d : Desk κ μ) : Move κ μ → Multiset κ
  | .fail k _ => d.running.erase k
  | .abort k => d.running.erase k
  | _ => d.running

/-- The row whose order goes to the broker in this move. -/
def issued : Move κ μ → Option κ
  | .issue k => some k
  | _ => none

/-- No order goes to the broker for a finished instrument, and no instrument is finished while
another order of it is at the broker. -/
def NoStraggler (mint : κ → μ) (d : Desk κ μ) (a : Move κ μ) : Prop :=
  (∀ k ∈ issued a, ¬ d.Done mint (mint k)) ∧
    ∀ m ∈ d.finishes mint a, ∀ k ∈ d.others a, mint k ≠ m

instance (d : Desk κ μ) (m : μ) : Decidable (d.Done mint m) :=
  inferInstanceAs (Decidable (_ ∨ (_ ∧ _)))

instance (d : Desk κ μ) (a : Move κ μ) : Decidable (d.NoStraggler mint a) :=
  inferInstanceAs (Decidable ((∀ k ∈ issued a, ¬ d.Done mint (mint k)) ∧ _))

/-- A finished instrument has no row and no order at the broker. -/
def Settled (mint : κ → μ) (d : Desk κ μ) : Prop :=
  ∀ m, d.Done mint m → m ∉ d.openMints mint ∧ ∀ k ∈ d.running, mint k ≠ m

omit [DecidableEq μ] in
theorem others_subset {k : κ} (h : k ∈ d.others a) : k ∈ d.running := by
  cases a <;> first | exact Multiset.mem_of_mem_erase h | exact h

/-- Orders come to the broker by `issue` only. -/
theorem mem_running_step (h : step mint allows d a = some d') {k : κ} (hk : k ∈ d'.running) :
    k ∈ d.others a ∨ a = .issue k := by
  cases makes_of_step h with
  | issue =>
    rcases Multiset.mem_add.mp hk with hk | hk
    · exact .inl hk
    · rw [Multiset.mem_singleton] at hk
      subst hk
      exact .inr rfl
  | fill => exact .inl (Multiset.mem_of_mem_erase hk)
  | refuse | close | abandon =>
    rw [finalize_running] at hk
    exact .inl hk
  | idle | accept | clear | drop | fail | abort => exact .inl hk

/-- Rows come by `fill` only. -/
theorem mem_openMints_step (h : step mint allows d a = some d') {m : μ}
    (hm : m ∈ d'.openMints mint) :
    m ∈ d.openMints mint ∨ ∃ k ∈ d.running, a = .fill k ∧ mint k = m := by
  rw [mem_openMints] at hm ⊢
  obtain ⟨k, hk, rfl⟩ := hm
  cases makes_of_step h with
  | fill hr =>
    rcases Finset.mem_insert.mp hk with rfl | hk
    · exact .inr ⟨k, hr, rfl, rfl⟩
    · exact .inl ⟨k, hk, rfl⟩
  | close =>
    rw [finalize_rows] at hk
    exact .inl ⟨k, Finset.mem_of_mem_erase hk, rfl⟩
  | abandon =>
    rw [finalize_rows] at hk
    exact .inl ⟨k, (Finset.mem_sdiff.mp hk).1, rfl⟩
  | refuse =>
    rw [finalize_rows] at hk
    exact .inl ⟨k, hk, rfl⟩
  | idle | accept | clear | drop | issue | fail | abort => exact .inl ⟨k, hk, rfl⟩

theorem closed_subset (h : step mint allows d a = some d') : d.closed ⊆ d'.closed := by
  intro m hm
  cases makes_of_step h with
  | refuse | close | abandon => exact mem_finalize_closed.mpr (.inl hm)
  | idle | accept | clear | drop | issue | fail | fill | abort => exact hm

theorem bought_subset (h : step mint allows d a = some d') : d.bought ⊆ d'.bought := by
  intro m hm
  cases makes_of_step h with
  | refuse | close | abandon =>
    rw [finalize_bought]
    exact hm
  | fill | abort => exact Finset.mem_insert_of_mem hm
  | idle | accept | clear | drop | issue | fail => exact hm

/-- What a move finishes has no row afterwards. -/
theorem openMints_of_finishes (h : step mint allows d a = some d') {m : μ}
    (hf : d.finishes mint a = some m) : m ∉ d'.openMints mint := by
  cases makes_of_step h with
  | refuse =>
    simp only [finishes] at hf
    split_ifs at hf with ho
    cases hf
    rw [finalize_openMints]
    exact ho
  | abort =>
    simp only [finishes] at hf
    split_ifs at hf with ho
    cases hf
    exact ho
  | close =>
    simp only [finishes] at hf
    split_ifs at hf with ho
    cases hf
    rw [finalize_openMints, mem_openMints]
    rintro ⟨k', hk', hm⟩
    exact ho ⟨k', Finset.mem_of_mem_erase hk', Finset.ne_of_mem_erase hk', hm⟩
  | abandon =>
    simp only [finishes] at hf
    split_ifs at hf with ho
    cases hf
    rw [finalize_openMints, mem_openMints]
    rintro ⟨k', hk', hm⟩
    obtain ⟨hrow, hks⟩ := Finset.mem_sdiff.mp hk'
    exact ho ⟨k', hrow, by simpa using hks, hm⟩
  | idle | accept | clear | drop | issue | fail | fill => exact absurd hf (by simp [finishes])

/-- What is finished after a move was finished before it, or the move has finished it. -/
theorem done_of_step (h : step mint allows d a = some d') {m : μ} (hd : d'.Done mint m) :
    d.Done mint m ∨ d.finishes mint a = some m := by
  cases makes_of_step h with
  | idle | accept | clear | drop | issue | fail => exact .inl hd
  | refuse =>
    rw [Done, mem_finalize_closed, finalize_bought, finalize_openMints] at hd
    rcases hd with (hc | ⟨rfl, ho⟩) | hb
    · exact .inl (.inl hc)
    · exact .inr (if_neg ho)
    · exact .inl (.inr hb)
  | @fill k hr =>
    rcases hd with hc | ⟨hb, ho⟩
    · exact .inl (.inl hc)
    · have hopen : m ∉ d.openMints mint := fun hm => by
        obtain ⟨k', hk', rfl⟩ := mem_openMints.mp hm
        exact ho (mem_openMints.mpr ⟨k', Finset.mem_insert_of_mem hk', rfl⟩)
      rcases Finset.mem_insert.mp hb with rfl | hb
      · exact absurd (mem_openMints.mpr ⟨k, Finset.mem_insert_self _ _, rfl⟩) ho
      · exact .inl (.inr ⟨hb, hopen⟩)
  | abort hr =>
    rcases hd with hc | ⟨hb, ho⟩
    · exact .inl (.inl hc)
    · rcases Finset.mem_insert.mp hb with rfl | hb
      · exact .inr (if_neg ho)
      · exact .inl (.inr ⟨hb, ho⟩)
  | @close k hr =>
    rw [Done, mem_finalize_closed, finalize_bought, finalize_openMints] at hd
    -- either nothing of the instrument was open, or `k` was the last row
    have key (ho : m ∉ openMints mint { d with rows := d.rows.erase k }) :
        m ∉ d.openMints mint ∨ d.finishes mint (.close k) = some m := by
      by_cases hm : m ∈ d.openMints mint
      · right
        obtain ⟨k', hk', rfl⟩ := mem_openMints.mp hm
        have hkk : k' = k := by
          by_contra hne
          exact ho (mem_openMints.mpr ⟨k', Finset.mem_erase.mpr ⟨hne, hk'⟩, rfl⟩)
        subst hkk
        refine if_neg ?_
        rintro ⟨k'', hk'', hne, hm''⟩
        exact ho (mem_openMints.mpr ⟨k'', Finset.mem_erase.mpr ⟨hne, hk''⟩, hm''⟩)
      · exact .inl hm
    rcases hd with (hc | ⟨rfl, ho⟩) | ⟨hb, ho⟩
    · exact .inl (.inl hc)
    · rcases key ho with hno | hf
      · exact absurd (mem_openMints.mpr ⟨k, hr, rfl⟩) hno
      · exact .inr hf
    · exact (key ho).imp_left fun hno => .inr ⟨hb, hno⟩
  | @abandon m' ks hks =>
    rw [Done, mem_finalize_closed, finalize_bought, finalize_openMints] at hd
    have key (ho : m ∉ openMints mint { d with rows := d.rows \ ks.toFinset }) (hm : m = m') :
        d.finishes mint (.abandon m' ks) = some m := by
      subst hm
      refine if_neg ?_
      rintro ⟨k, hk, hnot, hmk⟩
      exact ho (mem_openMints.mpr ⟨k, Finset.mem_sdiff.mpr ⟨hk, by simpa using hnot⟩, hmk⟩)
    rcases hd with (hc | ⟨rfl, ho⟩) | ⟨hb, ho⟩
    · exact .inl (.inl hc)
    · exact .inr (key ho rfl)
    · by_cases hm : m = m'
      · exact .inr (key ho hm)
      · refine .inl (.inr ⟨hb, fun hopen => ho ?_⟩)
        obtain ⟨k, hk, rfl⟩ := mem_openMints.mp hopen
        refine mem_openMints.mpr ⟨k, Finset.mem_sdiff.mpr ⟨hk, fun hmem => hm ?_⟩, rfl⟩
        exact hks k (by simpa using hmem)

theorem settled_step (hd : d.Settled mint) (hg : d.NoStraggler mint a)
    (h : step mint allows d a = some d') : d'.Settled mint := by
  intro m hm
  rcases done_of_step h hm with hdone | hfin
  · obtain ⟨ho, hr⟩ := hd m hdone
    refine ⟨fun ho' => ?_, fun k hk hkm => ?_⟩
    · rcases mem_openMints_step h ho' with ho' | ⟨k, hk, -, hkm⟩
      · exact ho ho'
      · exact hr k hk hkm
    · rcases mem_running_step h hk with hk | rfl
      · exact hr k (others_subset hk) hkm
      · exact hg.1 k (by simp [issued]) (hkm ▸ hdone)
  · refine ⟨openMints_of_finishes h hfin, fun k hk hkm => ?_⟩
    rcases mem_running_step h hk with hk | rfl
    · exact hg.2 m hfin k hk hkm
    · exact absurd hfin (by simp [finishes])

theorem done_step (hd : d.Settled mint) (h : step mint allows d a = some d') {m : μ}
    (hm : d.Done mint m) : d'.Done mint m := by
  rcases hm with hc | ⟨hb, ho⟩
  · exact .inl (closed_subset h hc)
  · refine .inr ⟨bought_subset h hb, fun ho' => ?_⟩
    rcases mem_openMints_step h ho' with ho' | ⟨k, hk, -, hkm⟩
    · exact ho ho'
    · exact (hd m (.inr ⟨hb, ho⟩)).2 k hk hkm

/-- **Finished stays finished.** Along a path without stragglers a finished instrument never has a
row again. -/
theorem done_path {as : List (Move κ μ)}
    (h : (machine mint allows).Path (NoStraggler mint) d as d') (hd : d.Settled mint) {m : μ}
    (hm : d.Done mint m) : d'.Done mint m ∧ m ∉ d'.openMints mint := by
  have hinv := h.invariant (I := fun d => d.Settled mint ∧ d.Done mint m)
    (fun _ _ _ hs hg ht => ⟨settled_step hs.1 hg ht, done_step hs.1 ht hs.2⟩) ⟨hd, hm⟩
  exact ⟨hinv.2, (hinv.1 m hinv.2).1⟩

theorem settled_path {as : List (Move κ μ)}
    (h : (machine mint allows).Path (NoStraggler mint) d as d') (hd : d.Settled mint) :
    d'.Settled mint :=
  h.invariant (fun _ _ _ hs hg ht => settled_step hs hg ht) hd

end Desk
