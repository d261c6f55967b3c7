import Mathlib.Data.List.Infix

/-!
# Lines of a text

`lines` cuts a text at its line feeds. A carriage return in front of a line feed belongs to the
line's end, and a text that ends with its last line feed has no empty line behind it; `unlines` ends
every line with a line feed.

- `lines_unlines`: the lines of joined lines are these, each without its last carriage return.
-/

namespace Lines

/-- The letter goes in front of the first line. -/
def consHead (c : Char) : List (List Char) → List (List Char)
  | [] => [[c]]
  | l :: ls => (c :: l) :: ls

/-- `text.lines()`. -/
def lines : List Char → List (List Char)
  | [] => []
  | '\n' :: text => [] :: lines text
  | '\r' :: '\n' :: text => [] :: lines text
  | c :: text => consHead c (lines text)

/-- Every line with a line feed behind it. -/
def unlines (ls : List (List Char)) : List Char := ls.flatMap (· ++ ['\n'])

/-- The line without a carriage return at its end. -/
def chomp (l : List Char) : List Char := if l.getLast? = some '\r' then l.dropLast else l

variable {l s text : List Char} {c : Char}

/-! ## Chomping -/

@[simp] theorem chomp_nil : chomp [] = [] := rfl

theorem chomp_append (hs : s ≠ []) (l : List Char) : chomp (l ++ s) = l ++ chomp s := by
  unfold chomp
  rw [List.getLast?_append_of_ne_nil l hs]
  split_ifs
  · exact List.dropLast_append_of_ne_nil hs
  · rfl

theorem chomp_cons (hl : l ≠ []) (c : Char) : chomp (c :: l) = c :: chomp l :=
  chomp_append hl [c]

theorem chomp_singleton (hc : c ≠ '\r') : chomp [c] = [c] := by
  simp [chomp, hc]

theorem chomp_eq_self_iff : chomp l = l ↔ l.getLast? ≠ some '\r' := by
  unfold chomp
  split_ifs with h
  · have hne : l ≠ [] := by
      rintro rfl
      simp at h
    have hlen : l.dropLast ≠ l := by
      intro heq
      have := congrArg List.length heq
      rw [List.length_dropLast] at this
      have := List.length_pos_of_ne_nil hne
      omega
    simp [h, hlen]
  · simp [h]

/-! ## Cutting and joining -/

theorem lines_newline (text : List Char) : lines ('\n' :: text) = [] :: lines text := by
  rw [lines]

theorem lines_cons (hc : c ≠ '\n') (hcr : c = '\r' → text.head? ≠ some '\n') :
    lines (c :: text) = consHead c (lines text) := by
  rw [lines]
  · exact hc
  · rintro text' rfl rfl
    exact hcr rfl rfl

theorem newline_notMem_of_mem_lines {l : List Char} (h : l ∈ lines text) : '\n' ∉ l := by
  induction text using lines.induct generalizing l with
  | case1 => simp [lines] at h
  | case2 text ih =>
    rw [lines, List.mem_cons] at h
    rcases h with rfl | h
    · exact List.not_mem_nil
    · exact ih h
  | case3 text ih =>
    rw [lines, List.mem_cons] at h
    rcases h with rfl | h
    · exact List.not_mem_nil
    · exact ih h
  | case4 c text hnl hcr ih =>
    rw [lines_cons hnl fun heq => ?_] at h
    · cases hls : lines text with
      | nil =>
        rw [hls, consHead, List.mem_singleton] at h
        subst h
        simpa using Ne.symm hnl
      | cons first rest =>
        rw [hls, consHead, List.mem_cons] at h
        rcases h with rfl | h
        · rw [List.mem_cons, not_or]
          exact ⟨Ne.symm hnl, ih (hls ▸ List.mem_cons_self)⟩
        · exact ih (hls ▸ List.mem_cons_of_mem _ h)
    · intro hhead
      cases text with
      | nil => cases hhead
      | cons a text => exact hcr text heq (by rw [Option.some.inj hhead])

/-- A line and what follows it. -/
theorem lines_append_newline (h : '\n' ∉ l) (text : List Char) :
    lines (l ++ '\n' :: text) = chomp l :: lines text := by
  induction l with
  | nil => exact lines_newline text
  | cons c l ih =>
    rw [List.mem_cons, not_or] at h
    have hc : c ≠ '\n' := fun heq => h.1 heq.symm
    by_cases hlast : l = [] ∧ c = '\r'
    · obtain ⟨rfl, rfl⟩ := hlast
      rw [List.singleton_append, lines]
      rfl
    · have hcr : c = '\r' → (l ++ '\n' :: text).head? ≠ some '\n' := by
        intro hcr hhead
        cases l with
        | nil => exact hlast ⟨rfl, hcr⟩
        | cons a l =>
          rw [List.cons_append, List.head?_cons, Option.some.injEq] at hhead
          exact h.2 (hhead ▸ List.mem_cons_self)
      rw [List.cons_append, lines_cons hc hcr, ih h.2, consHead]
      by_cases hnil : l = []
      · subst hnil
        rw [chomp_singleton fun heq => hlast ⟨rfl, heq⟩, chomp_nil]
      · rw [chomp_cons hnil]

theorem lines_unlines {ls : List (List Char)} (h : ∀ l ∈ ls, '\n' ∉ l) :
    lines (unlines ls) = ls.map chomp := by
  induction ls with
  | nil => rfl
  | cons l ls ih =>
    rw [List.forall_mem_cons] at h
    rw [unlines, List.flatMap_cons, List.append_assoc, List.singleton_append,
      lines_append_newline h.1, List.map_cons, ← unlines, ih h.2]

end Lines
