import Loggaper.Helper
import Loggaper.Lib.Lines

/-!
# Switching between demo and live

The mode of the bot is a line of its configuration file. To switch it the server does not write the
configuration anew but goes through the lines of the file, so that everything else stays as it was
typed.

- `rewriteYamlMode_eq`: what the loop over the lines comes to: one line is put in or replaced, at
  the first line behind `execution:` that stops the search.
- `stopOf_withMode`: on the text with the new line, the search stops at this line.
-/

namespace Loggaper

open Lines

abbrev Line := List Char

/-! ## The loop over the lines -/

/-- `trimmed.starts_with("execution:")`. -/
def startsExec (line : Line) : Bool := "execution:".toList.isPrefixOf (trimStart line)

/-- `trimmed.starts_with("mode:")`. -/
def startsMode (line : Line) : Bool := "mode:".toList.isPrefixOf (trimStart line)

/-- Not empty, without white space in front. -/
def isTopLevel (line : Line) : Bool :=
  !line.isEmpty && line.length - (trimStart line).length == 0

/-- The white space in front. -/
def indent (line : Line) : List Char := line.takeWhile isWhitespace

def modeLine (indent newMode : List Char) : Line := indent ++ ("mode: ".toList ++ newMode)

structure RewriteState where
  out : List Char := []
  insideExec : Bool := false
  modeWritten : Bool := false
  sawExecHeader : Bool := false

namespace RewriteState

variable (newMode : List Char) (st : RewriteState)

/-- The line goes out. -/
def push (line : Line) : RewriteState := { st with out := st.out ++ (line ++ ['\n']) }

/-- The block begins. -/
def enter (line : Line) : RewriteState :=
  { st.push line with
    insideExec := true
    sawExecHeader := true }

def rewriteLine (line : Line) : RewriteState :=
  if startsExec line then st.enter line
  else if st.insideExec && isTopLevel line then
    if !st.modeWritten then
      { (st.push (modeLine "  ".toList newMode)).push line with
        modeWritten := true
        insideExec := false }
    else { st.push line with insideExec := false }
  else if st.insideExec && !st.modeWritten && startsMode line then
    { st.push (modeLine (indent line) newMode) with modeWritten := true }
  else st.push line

/-- What goes out after the last line. -/
def finish : List Char :=
  if st.modeWritten then st.out
  else
    (if st.sawExecHeader then st.out else st.out ++ "\nexecution:\n".toList) ++
      (modeLine "  ".toList newMode ++ ['\n'])

end RewriteState

def rewriteYamlMode (content newMode : String) : String :=
  String.ofList <| RewriteState.finish newMode.toList <|
    (lines content.toList).foldl (RewriteState.rewriteLine newMode.toList) {}

/-! ## Where the search stops -/

/-- Where the new line goes: between the lines before and after it, in the place of a line if one is
replaced. -/
structure ModeStop where
  before : List Line
  replaced : Option Line
  /-- The white space in front of the new line. -/
  blanks : List Char
  after : List Line

namespace ModeStop

/-- The lines with the new mode. -/
def withMode (stop : ModeStop) (newMode : List Char) : List Line :=
  stop.before ++ modeLine stop.blanks newMode :: stop.after

/-- With more lines in front. -/
def behind (ls : List Line) (stop : ModeStop) : ModeStop :=
  { stop with before := ls ++ stop.before }

theorem withMode_behind (ls : List Line) (stop : ModeStop) (newMode : List Char) :
    (stop.behind ls).withMode newMode = ls ++ stop.withMode newMode := by
  simp [withMode, behind]

end ModeStop

/-- The line neither ends the search nor is the mode. -/
def passesBy (line : Line) : Bool := startsExec line || !(isTopLevel line || startsMode line)

/-- The search behind a line that reads `execution:`. -/
def stopBehindHeader (ls : List Line) : ModeStop :=
  match ls.dropWhile passesBy with
  | [] => ⟨ls.takeWhile passesBy, none, "  ".toList, []⟩
  | stop :: after =>
    if isTopLevel stop then ⟨ls.takeWhile passesBy, none, "  ".toList, stop :: after⟩
    else ⟨ls.takeWhile passesBy, some stop, indent stop, after⟩

/-- The search from the first line on. -/
def stopOf : List Line → ModeStop
  | [] => ⟨[[], "execution:".toList], none, "  ".toList, []⟩
  | line :: ls => ((if startsExec line then stopBehindHeader ls else stopOf ls)).behind [line]

section
variable (newMode : List Char) {ls : List Line} {st : RewriteState}

open RewriteState

theorem unlines_cons (line : Line) (ls : List Line) :
    unlines (line :: ls) = line ++ '\n' :: unlines ls := by
  simp [unlines]

/-- With the mode written, every line is copied. -/
theorem finish_written (h : st.modeWritten = true) :
    finish newMode (ls.foldl (rewriteLine newMode) st) = st.out ++ unlines ls := by
  induction ls generalizing st with
  | nil => simp [finish, h, unlines]
  | cons line ls ih =>
    have hstep : (rewriteLine newMode st line).modeWritten = true ∧
        (rewriteLine newMode st line).out = st.out ++ (line ++ ['\n']) := by
      unfold rewriteLine
      split_ifs <;> simp_all [enter, push]
    rw [List.foldl_cons, ih hstep.1, hstep.2, unlines_cons]
    simp

/-- Inside of the block. -/
theorem finish_inside (hinside : st.insideExec = true) (hwritten : st.modeWritten = false)
    (hsaw : st.sawExecHeader = true) :
    finish newMode (ls.foldl (rewriteLine newMode) st) =
      st.out ++ unlines ((stopBehindHeader ls).withMode newMode) := by
  induction ls generalizing st with
  | nil => simp [finish, hwritten, hsaw, stopBehindHeader, ModeStop.withMode, unlines]
  | cons line ls ih =>
    rw [List.foldl_cons]
    by_cases hpass : passesBy line = true
    · have hstep : rewriteLine newMode st line = st.enter line := by
        simp only [passesBy, Bool.or_eq_true, Bool.not_eq_true', Bool.or_eq_false_iff] at hpass
        rcases hpass with hexec | ⟨htop, hmode⟩
        · rw [rewriteLine, if_pos hexec]
        · by_cases hexec : startsExec line = true
          · rw [rewriteLine, if_pos hexec]
          · simp [rewriteLine, hexec, htop, hmode, enter, push, hinside, hsaw]
      have hstop : stopBehindHeader (line :: ls) = (stopBehindHeader ls).behind [line] := by
        unfold stopBehindHeader
        rw [List.dropWhile_cons_of_pos hpass, List.takeWhile_cons_of_pos hpass]
        split
        · rfl
        · split_ifs <;> rfl
      have hrest := @ih (st.enter line) rfl hwritten rfl
      rw [hstep, hrest, hstop, ModeStop.withMode_behind, List.singleton_append, unlines_cons]
      simp [enter, push]
    · have hstopped := hpass
      simp only [passesBy, Bool.or_eq_true, Bool.not_eq_true', Bool.or_eq_false_iff, not_or,
        Bool.not_eq_true] at hpass
      obtain ⟨hexec, htopmode⟩ := hpass
      by_cases htop : isTopLevel line = true
      · have hstep : rewriteLine newMode st line =
            { (st.push (modeLine "  ".toList newMode)).push line with
              modeWritten := true
              insideExec := false } := by
          simp [rewriteLine, hexec, hinside, htop, hwritten]
        rw [hstep, finish_written newMode rfl, stopBehindHeader,
          List.dropWhile_cons_of_neg hstopped, List.takeWhile_cons_of_neg hstopped]
        simp [htop, ModeStop.withMode, unlines, push]
      · have hmode : startsMode line = true := by
          by_contra hmode
          exact htopmode ⟨Bool.not_eq_true _ ▸ htop, Bool.not_eq_true _ ▸ hmode⟩
        have hstep : rewriteLine newMode st line =
            { st.push (modeLine (indent line) newMode) with modeWritten := true } := by
          simp [rewriteLine, hexec, hinside, htop, hwritten, hmode]
        rw [hstep, finish_written newMode rfl, stopBehindHeader,
          List.dropWhile_cons_of_neg hstopped, List.takeWhile_cons_of_neg hstopped]
        simp [htop, ModeStop.withMode, unlines, push]

/-- Before the block. -/
theorem finish_outside (hinside : st.insideExec = false) (hwritten : st.modeWritten = false)
    (hsaw : st.sawExecHeader = false) :
    finish newMode (ls.foldl (rewriteLine newMode) st) =
      st.out ++ unlines ((stopOf ls).withMode newMode) := by
  induction ls generalizing st with
  | nil =>
    simp [finish, hwritten, hsaw, stopOf, ModeStop.withMode, unlines]
  | cons line ls ih =>
    rw [List.foldl_cons, stopOf, ModeStop.withMode_behind, List.singleton_append, unlines_cons]
    by_cases hexec : startsExec line = true
    · have hstep : rewriteLine newMode st line = st.enter line := by
        rw [rewriteLine, if_pos hexec]
      have hrest := @finish_inside newMode ls (st.enter line) rfl hwritten rfl
      rw [hstep, hrest, if_pos hexec]
      simp [enter, push]
    · have hstep : rewriteLine newMode st line = st.push line := by
        simp [rewriteLine, hexec, hinside]
      have hrest := @ih (st.push line) hinside hwritten hsaw
      rw [hstep, hrest, if_neg hexec]
      simp [push]

end

/-! ## The new line stops the search -/

section
variable {blanks : List Char} (hblanks : ∀ c ∈ blanks, isWhitespace c = true)
  (newMode : List Char)

include hblanks

theorem trimStart_modeLine : trimStart (modeLine blanks newMode) = "mode: ".toList ++ newMode := by
  rw [trimStart, modeLine, List.dropWhile_append_of_pos hblanks]
  rfl

theorem indent_modeLine : indent (modeLine blanks newMode) = blanks := by
  rw [indent, modeLine, List.takeWhile_append_of_pos hblanks]
  exact List.append_nil blanks

theorem startsMode_modeLine : startsMode (modeLine blanks newMode) = true := by
  rw [startsMode, trimStart_modeLine hblanks]
  rfl

theorem startsExec_modeLine : startsExec (modeLine blanks newMode) = false := by
  rw [startsExec, trimStart_modeLine hblanks]
  rfl

theorem isTopLevel_modeLine (hne : blanks ≠ []) :
    isTopLevel (modeLine blanks newMode) = false := by
  have hpos := List.length_pos_of_ne_nil hne
  rw [isTopLevel, trimStart_modeLine hblanks, modeLine, List.length_append]
  simp
  omega

end

/-- What a stop leaves as it is, and what the new line looks like. -/
structure ModeStop.Splits (ls : List Line) (stop : ModeStop) : Prop where
  lines_eq : ls = stop.before ++ (stop.replaced.toList ++ stop.after)
  white : ∀ c ∈ stop.blanks, isWhitespace c = true
  indented : stop.blanks ≠ []
  replaced : ∀ l ∈ stop.replaced, indent l = stop.blanks ∧ startsMode l = true
  two_blanks : stop.replaced = none → stop.blanks = "  ".toList

theorem ModeStop.Splits.behind {ls : List Line} {stop : ModeStop} (h : stop.Splits ls)
    (pre : List Line) : (stop.behind pre).Splits (pre ++ ls) where
  lines_eq := by
    conv_lhs => rw [h.lines_eq]
    simp [ModeStop.behind]
  white := h.white
  indented := h.indented
  replaced := h.replaced
  two_blanks := h.two_blanks

theorem isTopLevel_iff {line : Line} : isTopLevel line = true ↔ line ≠ [] ∧ indent line = [] := by
  have hsplit : (indent line).length + (trimStart line).length = line.length := by
    rw [← List.length_append, indent, trimStart, List.takeWhile_append_dropWhile]
  have hnil : indent line = [] ↔ (indent line).length = 0 := List.length_eq_zero_iff.symm
  rw [hnil]
  simp only [isTopLevel, Bool.and_eq_true, Bool.not_eq_true', List.isEmpty_eq_false_iff,
    beq_iff_eq]
  refine and_congr_right fun _ => ?_
  omega

theorem stopBehindHeader_splits (ls : List Line) : (stopBehindHeader ls).Splits ls := by
  have hblank : ∀ c ∈ "  ".toList, isWhitespace c = true := List.all_eq_true.mp (by decide)
  have happend : ls.takeWhile passesBy ++ ls.dropWhile passesBy = ls :=
    List.takeWhile_append_dropWhile
  unfold stopBehindHeader
  split
  · rename_i hrest
    rw [hrest] at happend
    exact ⟨happend.symm, hblank, List.cons_ne_nil _ _, by simp, fun _ => rfl⟩
  · rename_i stop after hrest
    rw [hrest] at happend
    split_ifs with htop
    · exact ⟨happend.symm, hblank, List.cons_ne_nil _ _, by simp, fun _ => rfl⟩
    · have hstops : passesBy stop = false := by
        have := List.head?_dropWhile_not passesBy ls
        rw [hrest] at this
        exact this
      simp only [passesBy, Bool.or_eq_false_iff, Bool.not_eq_false', Bool.or_eq_true, htop,
        Bool.false_eq_true, false_or] at hstops
      refine ⟨happend.symm, ?_, ?_, ?_, nofun⟩
      · intro c hc
        exact List.mem_takeWhile_imp hc
      · intro hnil
        refine htop (isTopLevel_iff.mpr ⟨?_, hnil⟩)
        rintro rfl
        exact absurd hstops.2 (by decide)
      · rintro _ ⟨⟩
        exact ⟨rfl, hstops.2⟩

/-- Without a line that reads `execution:` there is nothing to stop at. -/
theorem stopOf_splits {ls : List Line} (h : ∃ line ∈ ls, startsExec line = true) :
    (stopOf ls).Splits ls := by
  induction ls with
  | nil => simp at h
  | cons line ls ih =>
    by_cases hexec : startsExec line = true
    · rw [stopOf, if_pos hexec]
      exact (stopBehindHeader_splits ls).behind [line]
    · rw [stopOf, if_neg hexec]
      refine (ih ?_).behind [line]
      obtain ⟨l, hl, hstarts⟩ := h
      rcases List.mem_cons.mp hl with rfl | hl
      · exact absurd hstarts hexec
      · exact ⟨l, hl, hstarts⟩

/-- Then a section of its own is put behind the text. -/
theorem stopOf_of_no_exec {ls : List Line} (h : ∀ line ∈ ls, startsExec line = false) :
    stopOf ls = ⟨ls ++ [[], "execution:".toList], none, "  ".toList, []⟩ := by
  induction ls with
  | nil => rfl
  | cons line ls ih =>
    obtain ⟨hline, hrest⟩ := List.forall_mem_cons.mp h
    rw [stopOf, hline, if_neg Bool.false_ne_true, ih hrest]
    rfl

/-- There is a line that reads `execution:`, or there is none. -/
theorem stopOf_cases (ls : List Line) :
    (stopOf ls).Splits ls ∨
      stopOf ls = ⟨ls ++ [[], "execution:".toList], none, "  ".toList, []⟩ := by
  by_cases h : ∃ line ∈ ls, startsExec line = true
  · exact .inl (stopOf_splits h)
  · push Not at h
    exact .inr (stopOf_of_no_exec fun line hline => Bool.eq_false_iff.mpr (h line hline))

theorem stopBehindHeader_withMode (ls : List Line) (newMode : List Char) :
    (stopBehindHeader ((stopBehindHeader ls).withMode newMode)).withMode newMode =
      (stopBehindHeader ls).withMode newMode := by
  have hsplits := stopBehindHeader_splits ls
  have hbefore : ∀ l ∈ (stopBehindHeader ls).before, passesBy l = true := by
    intro l hl
    have htake : (stopBehindHeader ls).before = ls.takeWhile passesBy := by
      unfold stopBehindHeader
      split
      · rfl
      · split_ifs <;> rfl
    rw [htake] at hl
    exact List.mem_takeWhile_imp hl
  generalize stopBehindHeader ls = stop at hsplits hbefore
  have htop := isTopLevel_modeLine hsplits.white newMode hsplits.indented
  have hstops : passesBy (modeLine stop.blanks newMode) = false := by
    simp [passesBy, startsExec_modeLine hsplits.white, startsMode_modeLine hsplits.white]
  have hdrop : (stop.withMode newMode).dropWhile passesBy =
      modeLine stop.blanks newMode :: stop.after := by
    rw [ModeStop.withMode, List.dropWhile_append_of_pos hbefore,
      List.dropWhile_cons_of_neg (by simp [hstops])]
  have htake : (stop.withMode newMode).takeWhile passesBy = stop.before := by
    rw [ModeStop.withMode, List.takeWhile_append_of_pos hbefore,
      List.takeWhile_cons_of_neg (by simp [hstops]), List.append_nil]
  rw [stopBehindHeader, hdrop, htake]
  simp [htop, ModeStop.withMode, indent_modeLine hsplits.white]

/-- **The new line is replaced by itself.** -/
theorem stopOf_withMode {ls : List Line} (h : ∃ line ∈ ls, startsExec line = true)
    (newMode : List Char) :
    (stopOf ((stopOf ls).withMode newMode)).withMode newMode = (stopOf ls).withMode newMode := by
  induction ls with
  | nil => simp at h
  | cons line ls ih =>
    by_cases hexec : startsExec line = true
    · rw [stopOf, if_pos hexec, ModeStop.withMode_behind, List.singleton_append, stopOf,
        if_pos hexec, ModeStop.withMode_behind, stopBehindHeader_withMode]
      rfl
    · have hrest : ∃ line ∈ ls, startsExec line = true := by
        obtain ⟨l, hl, hstarts⟩ := h
        rcases List.mem_cons.mp hl with rfl | hl
        · exact absurd hstarts hexec
        · exact ⟨l, hl, hstarts⟩
      rw [stopOf, if_neg hexec, ModeStop.withMode_behind, List.singleton_append, stopOf,
        if_neg hexec, ModeStop.withMode_behind, ih hrest]
      rfl

/-- **What the loop comes to.** -/
theorem rewriteYamlMode_eq (content newMode : String) :
    (rewriteYamlMode content newMode).toList =
      unlines ((stopOf (lines content.toList)).withMode newMode.toList) := by
  rw [rewriteYamlMode, String.toList_ofList, finish_outside newMode.toList rfl rfl rfl]
  rfl

end Loggaper
