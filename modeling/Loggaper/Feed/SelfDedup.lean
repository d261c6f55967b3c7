import Loggaper.Lib.Recent
import Mathlib.Data.Finset.Basic
import Mathlib.Data.Finset.Lattice.Lemmas

/-!
# Redelivered transactions

The same transaction may be delivered twice on one stream, after a resubscription or a re-broadcast.
`SelfDedup` keeps the last signatures in a queue and in a set, and the feed drops a message whose
signature is there.

The queue and the set are the window of `Recent`: `keeps_checkAndRemember`.

Main result: `selfDedup_window`.
-/

namespace Loggaper

structure SelfDedup where
  capacity : ℕ
  order : List String
  seen : Finset String

namespace SelfDedup

def new (capacity : ℕ) : SelfDedup := ⟨capacity, [], ∅⟩

/-- `check_and_remember` makes room for a new signature. -/
def evict (d : SelfDedup) : SelfDedup :=
  if d.capacity ≤ d.order.length then
    match d.order with
    | [] => d
    | old :: order => { d with order, seen := d.seen.erase old }
  else d

/-- `check_and_remember`: whether the signature was already observed in the same feed. -/
def checkAndRemember (d : SelfDedup) (signature : String) : Bool × SelfDedup :=
  if signature ∈ d.seen then (true, d)
  else
    let d := d.evict
    (false, { d with order := d.order ++ [signature], seen := insert signature d.seen })

/-- The check of the feed's loop: a message without a signature is never dropped. -/
def drops (d : SelfDedup) (signature : String) : Bool × SelfDedup :=
  if signature ≠ "" then d.checkAndRemember signature else (false, d)

def after (d : SelfDedup) (signatures : List String) : SelfDedup :=
  signatures.foldl (fun d signature => (d.checkAndRemember signature).2) d

/-- The signatures that the call found new, the oldest first. -/
def remembered (d : SelfDedup) : List String → List String
  | [] => []
  | signature :: rest =>
    if (d.checkAndRemember signature).1 then (d.checkAndRemember signature).2.remembered rest
    else signature :: (d.checkAndRemember signature).2.remembered rest

def afterFeed (d : SelfDedup) (messages : List String) : SelfDedup :=
  messages.foldl (fun d signature => (d.drops signature).2) d

/-- The messages that the feed goes on to process. -/
def processed (d : SelfDedup) : List String → List String
  | [] => []
  | signature :: rest =>
    if (d.drops signature).1 then (d.drops signature).2.processed rest
    else signature :: (d.drops signature).2.processed rest

end SelfDedup

/-! ## The window -/

/-- The queue is the window from its oldest item on, and the set is the queue. -/
structure Keeps {c : ℕ} (d : SelfDedup) (w : Recent String c) : Prop where
  capacity : d.capacity = c
  order : d.order = w.items.reverse
  seen : d.seen = d.order.toFinset

variable {c : ℕ} {d : SelfDedup} {w : Recent String c}

theorem keeps_new (c : ℕ) : Keeps (SelfDedup.new c) (Recent.empty : Recent String c) where
  capacity := rfl
  order := rfl
  seen := rfl

theorem Keeps.mem_seen (h : Keeps d w) (signature : String) :
    signature ∈ d.seen ↔ signature ∈ w.items := by
  rw [h.seen, List.mem_toFinset, h.order, List.mem_reverse]

/-- Without its oldest item a full window has room for one more. -/
theorem Keeps.evict (hc : 1 ≤ c) (h : Keeps d w) :
    d.evict.capacity = c ∧ d.evict.order = (w.items.take (c - 1)).reverse ∧
      d.evict.seen = d.evict.order.toFinset := by
  have hlength : d.order.length = w.items.length := by rw [h.order, List.length_reverse]
  have hle := w.length_le
  unfold SelfDedup.evict
  by_cases hfull : d.capacity ≤ d.order.length
  · rw [if_pos hfull]
    rw [h.capacity] at hfull
    cases horder : d.order with
    | nil =>
      rw [horder, List.length_nil] at hfull
      omega
    | cons old order =>
      rw [horder, List.length_cons] at hlength hfull
      have hitems : w.items = order.reverse ++ [old] := by
        rw [← List.reverse_cons, ← horder, h.order, List.reverse_reverse]
      have hold : old ∉ order := by
        have hnodup := List.nodup_reverse.mpr w.nodup
        rw [← h.order, horder] at hnodup
        exact (List.nodup_cons.mp hnodup).1
      refine ⟨h.capacity, ?_, ?_⟩
      · rw [hitems, List.take_left' (by rw [List.length_reverse]; omega), List.reverse_reverse]
      · show d.seen.erase old = order.toFinset
        rw [h.seen, horder, List.toFinset_cons, Finset.erase_insert (by simpa using hold)]
  · rw [if_neg hfull]
    rw [h.capacity, hlength] at hfull
    exact ⟨h.capacity, by rw [List.take_of_length_le (by omega), h.order], h.seen⟩

/-- The call answers whether the window has the signature, and then it is let in. -/
theorem keeps_checkAndRemember (hc : 1 ≤ c) (h : Keeps d w) (signature : String) :
    (d.checkAndRemember signature).1 = decide (signature ∈ w.items) ∧
      Keeps (d.checkAndRemember signature).2 (w.offer signature) := by
  by_cases hmem : signature ∈ w.items
  · rw [SelfDedup.checkAndRemember, if_pos ((h.mem_seen signature).mpr hmem),
      Recent.offer_of_mem hmem]
    exact ⟨(decide_eq_true hmem).symm, h⟩
  · obtain ⟨hcapacity, horder, hseen⟩ := h.evict hc
    rw [SelfDedup.checkAndRemember, if_neg (mt (h.mem_seen signature).mp hmem)]
    refine ⟨(decide_eq_false hmem).symm, hcapacity, ?_, ?_⟩
    · show d.evict.order ++ [signature] = (w.offer signature).items.reverse
      rw [Recent.items_offer hmem, List.take_cons hc, List.reverse_cons, horder]
    · show insert signature d.evict.seen = (d.evict.order ++ [signature]).toFinset
      rw [hseen, List.toFinset_append, Finset.union_comm]
      rfl

theorem keeps_after (hc : 1 ≤ c) (h : Keeps d w) (signatures : List String) :
    Keeps (d.after signatures) (w.after signatures) := by
  induction signatures generalizing d w with
  | nil => exact h
  | cons signature rest ih => exact ih (keeps_checkAndRemember hc h signature).2

theorem remembered_eq (hc : 1 ≤ c) (h : Keeps d w) (signatures : List String) :
    d.remembered signatures = w.fresh signatures := by
  induction signatures generalizing d w with
  | nil => rfl
  | cons signature rest ih =>
    obtain ⟨hanswer, hnext⟩ := keeps_checkAndRemember hc h signature
    rw [SelfDedup.remembered, Recent.fresh, hanswer, ih hnext]
    simp only [decide_eq_true_eq]

/-! ## The feed -/

theorem drops_of_ne {signature : String} (h : signature ≠ "") (d : SelfDedup) :
    d.drops signature = d.checkAndRemember signature := if_pos h

theorem drops_empty (d : SelfDedup) : d.drops "" = (false, d) := if_neg (by simp)

/-- Messages without a signature leave the window alone. -/
theorem afterFeed_eq (d : SelfDedup) (messages : List String) :
    d.afterFeed messages = d.after (messages.filter (· ≠ "")) := by
  induction messages generalizing d with
  | nil => rfl
  | cons signature rest ih =>
    show (d.drops signature).2.afterFeed rest = _
    rw [ih]
    by_cases h : signature = ""
    · rw [h, drops_empty, List.filter_cons_of_neg (by simp)]
    · rw [drops_of_ne h, List.filter_cons_of_pos (by simpa using h)]
      rfl

/-- The signatures among the processed messages are the ones that were new. -/
theorem processed_filter (d : SelfDedup) (messages : List String) :
    (d.processed messages).filter (· ≠ "") = d.remembered (messages.filter (· ≠ "")) := by
  induction messages generalizing d with
  | nil => rfl
  | cons signature rest ih =>
    rw [SelfDedup.processed]
    by_cases h : signature = ""
    · rw [h, drops_empty, if_neg Bool.false_ne_true, List.filter_cons_of_neg (by simp),
        List.filter_cons_of_neg (by simp), ih]
    · rw [drops_of_ne h, List.filter_cons_of_pos (by simpa using h), SelfDedup.remembered]
      split_ifs
      · exact ih _
      · rw [List.filter_cons_of_pos (by simpa using h), ih]

/-- The queue and the set in step, and the answer to the next signature. -/
structure DedupWindow (c : ℕ) (signatures : List String) : Prop where
  nodup : ((SelfDedup.new c).after signatures).order.Nodup
  seen : ((SelfDedup.new c).after signatures).order.toFinset =
    ((SelfDedup.new c).after signatures).seen
  length : ((SelfDedup.new c).after signatures).order.length ≤ c
  last_nodup : (((SelfDedup.new c).remembered signatures).reverse.take c).Nodup
  answer : ∀ signature, (((SelfDedup.new c).after signatures).checkAndRemember signature).1 = true ↔
    signature ∈ ((SelfDedup.new c).remembered signatures).reverse.take c

/-- A message is dropped only when it was there before, and a message that is processed is processed
no second time until `c` others have been. -/
structure ProcessedOnce (c : ℕ) (messages : List String) : Prop where
  seen_before : ∀ signature, (((SelfDedup.new c).afterFeed messages).drops signature).1 = true →
    signature ∈ messages
  once : ∀ signature ≠ "", (((SelfDedup.new c).afterFeed messages).drops signature).1 = false →
    ∀ later, (((SelfDedup.new c).afterFeed messages).processed (signature :: later)).countP
        (fun other => other ≠ "" ∧ other ≠ signature) < c →
      (((SelfDedup.new c).afterFeed messages).processed (signature :: later)).count signature = 1

theorem dedupWindow (hc : 1 ≤ c) (signatures : List String) : DedupWindow c signatures := by
  have hkeeps := keeps_after hc (keeps_new c) signatures
  have hitems : ((Recent.empty : Recent String c).after signatures).items =
      ((SelfDedup.new c).remembered signatures).reverse.take c := by
    rw [Recent.items_after, remembered_eq hc (keeps_new c)]
    exact congrArg _ (List.append_nil _)
  constructor
  · rw [hkeeps.order]
    exact List.nodup_reverse.mpr (Recent.nodup _)
  · exact hkeeps.seen.symm
  · rw [hkeeps.order, List.length_reverse]
    exact Recent.length_le _
  · rw [← hitems]
    exact Recent.nodup _
  · intro signature
    rw [(keeps_checkAndRemember hc hkeeps signature).1, decide_eq_true_eq, hitems]

theorem processedOnce (hc : 1 ≤ c) (messages : List String) : ProcessedOnce c messages := by
  have hkeeps := keeps_after hc (keeps_new c) (messages.filter (· ≠ ""))
  rw [← afterFeed_eq] at hkeeps
  constructor
  · intro signature hdrop
    by_cases h : signature = ""
    · rw [h, drops_empty] at hdrop
      exact absurd hdrop Bool.false_ne_true
    · rw [drops_of_ne h, (keeps_checkAndRemember hc hkeeps signature).1, decide_eq_true_eq,
        Recent.items_after] at hdrop
      have hfresh := (List.mem_append.mp (List.mem_of_mem_take hdrop)).resolve_right
        List.not_mem_nil
      exact List.mem_of_mem_filter (Recent.fresh_subset _ _ (List.mem_reverse.mp hfresh))
  · intro signature h hnew later hfew
    rw [drops_of_ne h, (keeps_checkAndRemember hc hkeeps signature).1, decide_eq_false_iff_not]
      at hnew
    have hprocessed := processed_filter ((SelfDedup.new c).afterFeed messages) (signature :: later)
    rw [remembered_eq hc hkeeps, List.filter_cons_of_pos (by simpa using h)] at hprocessed
    rw [← List.count_filter (p := (· ≠ "")) (by simpa using h), hprocessed]
    refine Recent.count_fresh hnew hc ?_
    rw [← hprocessed, List.countP_filter]
    simpa [and_comm] using hfew

/-- **The window of the last `c` distinct signatures**, for every sequence of signatures. -/
theorem selfDedup_window (c : ℕ) (hc : 1 ≤ c) (signatures : List String) :
    DedupWindow c signatures ∧ ProcessedOnce c signatures :=
  ⟨dedupWindow hc signatures, processedOnce hc signatures⟩

theorem selfDedup_window_two :
    ((SelfDedup.new 2).remembered ["a", "b", "a", "c", "a"] = ["a", "b", "c", "a"]) ∧
      DedupWindow 2 ["a", "b", "a", "c", "a"] ∧ ProcessedOnce 2 ["a", "b", "a", "c", "a"] :=
  ⟨by decide, selfDedup_window 2 (by decide) _⟩

end Loggaper
