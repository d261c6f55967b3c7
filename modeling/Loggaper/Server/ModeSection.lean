import Loggaper.Lib.YamlLine
import Loggaper.Server.RewriteMode

/-!
# The mode in the execution section

What the line edit is to do, in the terms of the file: the section under `execution` gets the new
mode as its one mode, at the indentation of its keys, and all other lines stay. The keys are those
of YAML. The edit looks at one line at a time and at its first letters, so a comment at the margin
ends the section for it, a deeper key may pass for the mode, and a mode in quotes does not.

- `rewriteMode_iff`: the edit does what it is to do exactly when the line at which it stops is the
  section's mode, or the end of a section without one.
-/

namespace Loggaper

open Lines YamlLine

/-! ## Sections -/

/-- The key `execution`, at the margin. -/
def isHeader (line : Line) : Bool :=
  indentation line == 0 && keyOf line == some "execution".toList

/-- The next key at the margin. -/
def endsSection (line : Line) : Bool := isEntry line && indentation line == 0

/-- The first execution section of a file, and the lines around it. -/
structure ExecSection where
  before : List Line
  header : Line
  body : List Line
  after : List Line
  deriving DecidableEq

/-- The section whose header comes first, with the lines that follow it. -/
def sectionOf : List Line → Option ExecSection
  | [] => none
  | line :: ls =>
    if isHeader line then
      some ⟨[], line, ls.takeWhile (!endsSection ·), ls.dropWhile (!endsSection ·)⟩
    else (sectionOf ls).map fun s => { s with before := line :: s.before }

namespace ExecSection

variable (s : ExecSection)

/-- The indentation of the keys is that of the first one. -/
def keyIndent : Option ℕ := (s.body.find? isEntry).map indentation

/-- The mode, as a key of the section itself. -/
def isModeKey (line : Line) : Bool :=
  s.keyIndent == some (indentation line) && keyOf line == some "mode".toList

def modeKeys : List Line := s.body.filter s.isModeKey

/-- All lines but the section's mode. -/
def otherLines : List Line :=
  s.before ++ s.header :: (s.body.filter (!s.isModeKey ·) ++ s.after)

/-- The value of the mode is more than its line: the lines behind it are a part of it. -/
def modeContinues : Bool :=
  s.keyIndent.any fun n => continues n (s.body.dropWhile (!s.isModeKey ·)).tail

/-- No value in the header's line, so that the keys follow. -/
def opensBlock : Bool := YamlLine.opensBlock s.header

end ExecSection

/-! ## What the edit is to do -/

/-- The text has the section with the new mode, and nothing but it, as its one mode; all other lines
and the section's indentation are as they were, and a second time changes nothing. -/
structure ModeRewritten (s : ExecSection) (content newMode : String) : Prop where
  edited : ∃ s', sectionOf (lines (rewriteYamlMode content newMode).toList) = some s' ∧
    s'.opensBlock = true ∧ (∃ blanks, s'.modeKeys = [modeLine blanks newMode.toList]) ∧
    s'.modeContinues = false ∧ s'.otherLines = s.otherLines ∧ ∀ n ∈ s.keyIndent, n ∈ s'.keyIndent
  twice : rewriteYamlMode (rewriteYamlMode content newMode) newMode =
    rewriteYamlMode content newMode

/-- The two modes that the server writes. -/
def serverModes : List String := ["demo", "live"]

/-- The edit's stop is in the section or right behind it, and is its mode if it has one. No value
goes on behind it. -/
structure StopFits (s : ExecSection) (stop : ModeStop) : Prop where
  block : s.opensBlock = true
  place : ∃ inner rest, stop.before = s.before ++ s.header :: inner ∧
    s.body = inner ++ (stop.replaced.toList ++ rest) ∧
    continues stop.blanks.length rest = false
  modes : s.modeKeys = stop.replaced.toList
  blanks : ∀ n ∈ s.keyIndent, stop.blanks = List.replicate n ' '
  /-- A second carriage return at the end of a line is lost. -/
  ends : ∀ line ∈ s.otherLines, line.getLast? ≠ some '\r'

/-! ## Finding the section -/

section
variable {s : ExecSection} {ls : List Line}

/-- A section starts at the first header and goes on to the next key at the margin. -/
theorem sectionOf_eq_some (h : sectionOf ls = some s) :
    isHeader s.header = true ∧ (∀ line ∈ s.before, isHeader line = false) ∧
      ∃ rest, ls = s.before ++ s.header :: rest ∧ s.body = rest.takeWhile (!endsSection ·) ∧
        s.after = rest.dropWhile (!endsSection ·) := by
  induction ls generalizing s with
  | nil => cases h
  | cons line ls ih =>
    unfold sectionOf at h
    split_ifs at h with hheader
    · rw [← Option.some.inj h]
      exact ⟨hheader, List.forall_mem_nil _, ls, rfl, rfl, rfl⟩
    · obtain ⟨t, ht, rfl⟩ := Option.map_eq_some_iff.mp h
      obtain ⟨hfirst, hbefore, rest, hlines, hbody, hafter⟩ := ih ht
      refine ⟨hfirst, List.forall_mem_cons.mpr ⟨Bool.eq_false_iff.mpr hheader, hbefore⟩, rest,
        ?_, hbody, hafter⟩
      rw [List.cons_append, ← hlines]

theorem sectionOf_header (h : sectionOf ls = some s) : isHeader s.header = true :=
  (sectionOf_eq_some h).1

theorem isHeader_of_mem_before (h : sectionOf ls = some s) :
    ∀ line ∈ s.before, isHeader line = false :=
  (sectionOf_eq_some h).2.1

theorem sectionOf_lines (h : sectionOf ls = some s) :
    ls = s.before ++ s.header :: (s.body ++ s.after) := by
  obtain ⟨-, -, rest, hlines, hbody, hafter⟩ := sectionOf_eq_some h
  rw [hbody, hafter, List.takeWhile_append_dropWhile]
  exact hlines

theorem endsSection_of_mem_body (h : sectionOf ls = some s) :
    ∀ line ∈ s.body, endsSection line = false := by
  obtain ⟨-, -, rest, -, hbody, -⟩ := sectionOf_eq_some h
  intro line hline
  rw [hbody] at hline
  simpa using List.mem_takeWhile_imp hline

/-- A header with lines that do not end its section. -/
theorem sectionOf_of_open {before inner : List Line} {header : Line}
    (hbefore : ∀ line ∈ before, isHeader line = false) (hheader : isHeader header = true)
    (hinner : ∀ line ∈ inner, endsSection line = false) :
    sectionOf (before ++ header :: inner) = some ⟨before, header, inner, []⟩ := by
  induction before with
  | nil =>
    have hpass : ∀ line ∈ inner, (!endsSection line) = true := by simpa using hinner
    rw [List.nil_append, sectionOf, if_pos hheader, List.takeWhile_eq_self_iff.mpr hpass,
      List.dropWhile_eq_nil_iff.mpr hpass]
  | cons line before ih =>
    obtain ⟨hline, hrest⟩ := List.forall_mem_cons.mp hbefore
    rw [List.cons_append, sectionOf, if_neg (by simp [hline]), ih hrest]
    rfl

/-- The section with more lines at the end of the text. -/
def ExecSection.extend (s : ExecSection) (rest : List Line) : ExecSection :=
  match s.after with
  | [] =>
    { s with
      body := s.body ++ rest.takeWhile (!endsSection ·)
      after := rest.dropWhile (!endsSection ·) }
  | stop :: after => { s with after := stop :: (after ++ rest) }

theorem sectionOf_append (h : sectionOf ls = some s) (rest : List Line) :
    sectionOf (ls ++ rest) = some (s.extend rest) := by
  induction ls generalizing s with
  | nil => cases h
  | cons line ls ih =>
    unfold sectionOf at h
    rw [List.cons_append, sectionOf]
    split_ifs at h ⊢ with hheader
    · rw [← Option.some.inj h]
      have hsplit : ls.takeWhile (!endsSection ·) ++ ls.dropWhile (!endsSection ·) = ls :=
        List.takeWhile_append_dropWhile
      cases hafter : ls.dropWhile (!endsSection ·) with
      | nil =>
        rw [hafter, List.append_nil] at hsplit
        rw [List.takeWhile_append, List.dropWhile_append, hafter, hsplit, if_pos rfl]
        rfl
      | cons stop after =>
        have hshort : (ls.takeWhile (!endsSection ·)).length ≠ ls.length := by
          intro hlength
          have := congrArg List.length hsplit
          rw [List.length_append, hlength, hafter, List.length_cons] at this
          omega
        rw [List.takeWhile_append, List.dropWhile_append, hafter, if_neg hshort]
        rfl
    · obtain ⟨t, ht, rfl⟩ := Option.map_eq_some_iff.mp h
      rw [ih ht]
      unfold ExecSection.extend
      cases t.after <;> rfl

/-- Lines without a header come before the section. -/
theorem sectionOf_append_of_none (h : sectionOf ls = none) (rest : List Line) :
    sectionOf (ls ++ rest) =
      (sectionOf rest).map fun s => { s with before := ls ++ s.before } := by
  induction ls with
  | nil => simp
  | cons line ls ih =>
    unfold sectionOf at h
    split_ifs at h with hheader
    rw [List.cons_append, sectionOf, if_neg hheader, ih (Option.map_eq_none_iff.mp h),
      Option.map_map]
    rfl

end

/-! ## Lines without their carriage return

Joined and cut again, a line loses a carriage return at its end. What the section is made of does
not depend on it. -/

@[simp] theorem isHeader_chomp (line : Line) : isHeader (chomp line) = isHeader line := by
  rw [isHeader, isHeader, indentation_chomp, keyOf_chomp]

@[simp] theorem endsSection_chomp (line : Line) : endsSection (chomp line) = endsSection line := by
  rw [endsSection, endsSection, isEntry_chomp, indentation_chomp]

namespace ExecSection

variable (s : ExecSection)

/-- Every line without its carriage return. -/
def chomped : ExecSection :=
  ⟨s.before.map chomp, chomp s.header, s.body.map chomp, s.after.map chomp⟩

@[simp] theorem keyIndent_chomped : s.chomped.keyIndent = s.keyIndent := by
  have hkeys : isEntry ∘ chomp = isEntry := funext isEntry_chomp
  have hindent : indentation ∘ chomp = indentation := funext indentation_chomp
  rw [keyIndent, keyIndent, chomped, List.find?_map, hkeys, Option.map_map, hindent]

@[simp] theorem isModeKey_chomped (line : Line) :
    s.chomped.isModeKey (chomp line) = s.isModeKey line := by
  rw [isModeKey, isModeKey, keyIndent_chomped, indentation_chomp, keyOf_chomp]

theorem modeKeys_chomped : s.chomped.modeKeys = s.modeKeys.map chomp := by
  have hkeys : s.chomped.isModeKey ∘ chomp = s.isModeKey := funext s.isModeKey_chomped
  rw [modeKeys, modeKeys, ← hkeys, ← List.filter_map]
  rfl

theorem otherLines_chomped : s.chomped.otherLines = s.otherLines.map chomp := by
  have hkeys : (fun line => !s.chomped.isModeKey line) ∘ chomp = fun line => !s.isModeKey line := by
    funext line
    exact congrArg _ (s.isModeKey_chomped line)
  rw [otherLines, otherLines, ← hkeys, List.map_append, List.map_cons, List.map_append,
    ← List.filter_map]
  rfl

theorem modeContinues_chomped : s.chomped.modeContinues = s.modeContinues := by
  have hkeys : (fun line => !s.chomped.isModeKey line) ∘ chomp = fun line => !s.isModeKey line := by
    funext line
    exact congrArg _ (s.isModeKey_chomped line)
  have hbehind : (s.chomped.body.dropWhile (!s.chomped.isModeKey ·)).tail =
      (s.body.dropWhile (!s.isModeKey ·)).tail.map chomp := by
    rw [← hkeys, List.map_tail, ← List.dropWhile_map]
    rfl
  rw [modeContinues, modeContinues, keyIndent_chomped, hbehind]
  simp only [continues_map_chomp]

@[simp] theorem opensBlock_chomped : s.chomped.opensBlock = s.opensBlock :=
  opensBlock_chomp s.header

end ExecSection

theorem sectionOf_map_chomp (ls : List Line) :
    sectionOf (ls.map chomp) = (sectionOf ls).map ExecSection.chomped := by
  have hends : (fun line => !endsSection line) ∘ chomp = fun line => !endsSection line := by
    funext line
    exact congrArg _ (endsSection_chomp line)
  induction ls with
  | nil => rfl
  | cons line ls ih =>
    rw [List.map_cons, sectionOf, sectionOf, isHeader_chomp]
    split_ifs with hheader
    · rw [List.takeWhile_map, List.dropWhile_map, hends]
      rfl
    · rw [ih, Option.map_map, Option.map_map]
      rfl

/-! ## Lines that read `mode:` -/

section
variable {line : Line} {blanks : List Char}

/-- Behind its white space. -/
theorem line_of_startsMode (h : startsMode line = true) :
    ∃ rest, line = indent line ++ 'm' :: rest := by
  obtain ⟨rest, hrest⟩ := List.isPrefixOf_iff_prefix.mp h
  have hsplit : indent line ++ trimStart line = line := List.takeWhile_append_dropWhile
  rw [← hrest] at hsplit
  exact ⟨_, hsplit.symm⟩

theorem isWhitespace_of_mem_indent : ∀ c ∈ indent line, isWhitespace c = true :=
  fun _ hc => List.mem_takeWhile_imp hc

theorem hash_notMem_indent : '#' ∉ indent line ++ ['m'] := by
  intro hmem
  rcases List.mem_append.mp hmem with hmem | hmem
  · exact absurd (isWhitespace_of_mem_indent _ hmem) (by decide)
  · exact absurd hmem (by decide)

/-- To the code it is indented by all of its white space, to YAML by the spaces that come first. -/
theorem indentation_of_startsMode (h : startsMode line = true) :
    indentation line = ((indent line).takeWhile (· == ' ')).length := by
  obtain ⟨rest, hrest⟩ := line_of_startsMode h
  conv_lhs => rw [hrest]
  exact indentation_append_cons (by decide)

theorem isEntry_of_startsMode (h : startsMode line = true) : isEntry line = true := by
  obtain ⟨rest, hrest⟩ := line_of_startsMode h
  rw [hrest]
  exact isEntry_append_cons (by decide) hash_notMem_indent

theorem endsSection_of_startsMode (h : startsMode line = true) :
    endsSection line = (((indent line).takeWhile (· == ' ')).length == 0) := by
  rw [endsSection, isEntry_of_startsMode h, indentation_of_startsMode h, Bool.true_and]

theorem eq_replicate_iff : blanks = List.replicate blanks.length ' ' ↔ ∀ c ∈ blanks, c = ' ' := by
  rw [List.eq_replicate_iff]
  exact and_iff_right rfl

/-- Other white space would be a part of the key. -/
theorem head_of_white (hwhite : ∀ c ∈ blanks, isWhitespace c = true)
    (hspaces : ¬ ∀ c ∈ blanks, c = ' ') (newMode : List Char) {key : List Char}
    (hkey : keyOf (modeLine blanks newMode) = some key) :
    ∀ c ∈ key.head?, isWhitespace c = true := by
  have hnode : node (modeLine blanks newMode) =
      blanks.dropWhile (· == ' ') ++ 'm' :: trimEnd ("ode: ".toList ++ newMode) :=
    node_append_cons (by decide)
  cases hdrop : blanks.dropWhile (· == ' ') with
  | nil =>
    refine absurd (fun c hc => ?_) hspaces
    simpa using List.dropWhile_eq_nil_iff.mp hdrop c hc
  | cons a rest =>
    have ha : isWhitespace a = true := by
      refine hwhite a ((List.dropWhile_suffix (· == ' ')).subset ?_)
      rw [hdrop]
      exact List.mem_cons_self
    have hplain : beginsPlain a = true := by
      rw [beginsPlain, Bool.not_eq_true', Bool.eq_false_iff]
      intro hmem
      rw [List.contains_iff_mem] at hmem
      simp only [List.mem_cons, List.not_mem_nil, or_false] at hmem
      rcases hmem with rfl | rfl | rfl | rfl | rfl | rfl <;> exact absurd ha (by decide)
    rw [hdrop, List.cons_append] at hnode
    intro c hc
    rcases head_of_keyOf hnode hplain hkey with rfl | hhead
    · cases hc
    · rw [hhead] at hc
      cases hc
      exact ha

variable (hwhite : ∀ c ∈ blanks, isWhitespace c = true) (newMode : List Char)

include hwhite

/-- The new line has the mode as its key when its white space is made of spaces. -/
theorem keyOf_modeLine :
    keyOf (modeLine blanks newMode) = some "mode".toList ↔ ∀ c ∈ blanks, c = ' ' := by
  constructor
  · intro hkey
    by_contra hspaces
    have hhead := head_of_white hwhite hspaces newMode hkey 'm' rfl
    exact absurd hhead (by decide)
  · intro hspaces
    have hname : ∀ c ∈ "mode".toList, c.isAlpha = true := List.all_eq_true.mp (by decide)
    rw [eq_replicate_iff.mpr hspaces]
    exact keyOf_name (List.cons_ne_nil _ _) hname blanks.length newMode

theorem isHeader_modeLine : isHeader (modeLine blanks newMode) = false := by
  rw [isHeader, Bool.and_eq_false_imp]
  intro _
  rw [beq_eq_false_iff_ne]
  intro hkey
  by_cases hspaces : ∀ c ∈ blanks, c = ' '
  · rw [(keyOf_modeLine hwhite newMode).mpr hspaces] at hkey
    exact absurd hkey (by decide)
  · have hhead := head_of_white hwhite hspaces newMode hkey 'e' rfl
    exact absurd hhead (by decide)

theorem indentation_modeLine :
    indentation (modeLine blanks newMode) = (blanks.takeWhile (· == ' ')).length := by
  rw [indentation_of_startsMode (startsMode_modeLine hwhite newMode), indent_modeLine hwhite]

theorem isEntry_modeLine : isEntry (modeLine blanks newMode) = true :=
  isEntry_of_startsMode (startsMode_modeLine hwhite newMode)

end

/-! ## The edited lines -/

/-- A mode with this indentation. -/
def isModeAt (n : ℕ) (line : Line) : Bool :=
  indentation line == n && keyOf line == some "mode".toList

section
variable {s t : ExecSection} {ls : List Line} {stop : ModeStop} {n : ℕ}

theorem keyIndent_append (body rest : List Line) (h : s.body = body ++ rest) :
    s.keyIndent =
      ((body.find? isEntry).map indentation).or ((rest.find? isEntry).map indentation) := by
  rw [ExecSection.keyIndent, h, List.find?_append]
  cases body.find? isEntry <;> rfl

/-- The first lines of a body have its indentation, or no key. -/
theorem keyIndent_getD_of_body {inner rest : List Line} (hbody : s.body = inner ++ rest)
    (hkeys : ∀ k ∈ s.keyIndent, k = n) :
    (ExecSection.keyIndent ⟨t.before, t.header, inner, []⟩).getD n = n := by
  have hindent := keyIndent_append inner rest hbody
  rw [ExecSection.keyIndent]
  cases hfirst : inner.find? isEntry with
  | none => rfl
  | some line =>
    rw [hfirst] at hindent
    exact hkeys _ hindent

theorem isEntry_of_isModeAt {line : Line} (h : isModeAt n line = true) : isEntry line = true := by
  have hkey := (Bool.and_eq_true_iff.mp h).2
  rw [beq_iff_eq] at hkey
  exact isEntry_of_keyOf (a := 'm') (by decide) hkey

theorem isEntry_of_no_key (hnone : s.keyIndent = none) {line : Line} (hline : line ∈ s.body) :
    isEntry line = false := by
  rw [ExecSection.keyIndent, Option.map_eq_none_iff, List.find?_eq_none] at hnone
  exact Bool.eq_false_iff.mpr (hnone line hline)

/-- The section's modes are those at this indentation. -/
theorem isModeKey_eq (hkeys : ∀ k ∈ s.keyIndent, k = n) {line : Line} (hline : line ∈ s.body) :
    s.isModeKey line = isModeAt n line := by
  rw [ExecSection.isModeKey, isModeAt]
  cases hindent : s.keyIndent with
  | none =>
    have hmode : isModeAt n line = false := by
      rw [Bool.eq_false_iff]
      intro hmode
      have hentry := isEntry_of_no_key hindent hline
      rw [isEntry_of_isModeAt hmode] at hentry
      cases hentry
    rw [← isModeAt, hmode]
    rfl
  | some k =>
    rw [hkeys k hindent, Bool.beq_comm (a := indentation line)]
    rfl

theorem modeKeys_eq (hkeys : ∀ k ∈ s.keyIndent, k = n) :
    s.modeKeys = s.body.filter (isModeAt n) :=
  List.filter_congr fun _ hline => isModeKey_eq hkeys hline

theorem otherLines_eq (hkeys : ∀ k ∈ s.keyIndent, k = n) :
    s.otherLines = s.before ++ s.header :: (s.body.filter (!isModeAt n ·) ++ s.after) := by
  have hsame : s.body.filter (!s.isModeKey ·) = s.body.filter (!isModeAt n ·) :=
    List.filter_congr fun line hline => congrArg _ (isModeKey_eq hkeys hline)
  rw [ExecSection.otherLines, hsame]

/-- Lines of the section in front of the others. -/
theorem sectionOf_open (h : sectionOf stop.before = some t) (hopen : t.after = [])
    (inner : List Line) (hinner : ∀ line ∈ inner, endsSection line = false) :
    sectionOf (stop.before ++ (inner ++ stop.after)) = some
      { t with
        body := t.body ++ (inner ++ stop.after.takeWhile (!endsSection ·))
        after := stop.after.dropWhile (!endsSection ·) } := by
  have hpass : ∀ line ∈ inner, (!endsSection line) = true := by
    intro line hline
    rw [hinner line hline]
    rfl
  rw [sectionOf_append h, ExecSection.extend, hopen]
  simp only [List.takeWhile_append_of_pos hpass, List.dropWhile_append_of_pos hpass]

/-- The next line ends the section. -/
theorem sectionOf_closed (h : sectionOf stop.before = some t) (hopen : t.after = []) {line : Line}
    (hline : endsSection line = true) (after : List Line) :
    sectionOf (stop.before ++ line :: after) = some { t with after := line :: after } := by
  rw [sectionOf_append h, ExecSection.extend, hopen]
  simp [hline]

/-- Lines of which none is a mode are all kept. -/
theorem filter_not_eq_self (hnone : ls.filter (isModeAt n) = []) :
    ls.filter (!isModeAt n ·) = ls := by
  rw [List.filter_eq_self]
  intro line hline
  simp [List.filter_eq_nil_iff.mp hnone line hline]

theorem before_eq (ht : sectionOf stop.before = some t) (hopen : t.after = []) :
    stop.before = t.before ++ t.header :: t.body := by
  have hlines := sectionOf_lines ht
  rwa [hopen, List.append_nil] at hlines

/-- The spaces that the new line begins with. -/
def ModeStop.column (stop : ModeStop) : ℕ := (stop.blanks.takeWhile (· == ' ')).length

theorem column_of_spaces (h : stop.blanks = List.replicate n ' ') : stop.column = n := by
  rw [ModeStop.column, h]
  simp

/-- The section behind the edit. -/
def editedSection (t : ExecSection) (stop : ModeStop) (newMode : List Char) : ExecSection :=
  { t with
    body := t.body ++ modeLine stop.blanks newMode :: stop.after.takeWhile (!endsSection ·)
    after := stop.after.dropWhile (!endsSection ·) }

/-- The new line is one of the other lines, the same way for every mode. -/
def ModeStop.AmongOthers (stop : ModeStop) : Prop :=
  ∃ front back, ∀ newMode s', sectionOf (stop.withMode newMode) = some s' →
    s'.otherLines = front ++ modeLine stop.blanks newMode :: back

/-- Behind the section. -/
theorem amongOthers_of_over (ht : sectionOf stop.before = some t) (hover : t.after ≠ []) :
    stop.AmongOthers := by
  obtain ⟨line, after, hafter⟩ := List.exists_cons_of_ne_nil hover
  have hkeys : ∀ rest, ExecSection.isModeKey { t with after := rest } = t.isModeKey :=
    fun _ => rfl
  refine ⟨t.before ++ t.header :: (t.body.filter (!t.isModeKey ·) ++ line :: after),
    stop.after, fun newMode s' hs' => ?_⟩
  rw [ModeStop.withMode, sectionOf_append ht, ExecSection.extend, hafter] at hs'
  obtain rfl := Option.some.inj hs'
  simp [ExecSection.otherLines, hkeys]

variable (hwhite : ∀ c ∈ stop.blanks, isWhitespace c = true) (newMode : List Char)

include hwhite

theorem endsSection_modeLine :
    endsSection (modeLine stop.blanks newMode) = (stop.column == 0) := by
  rw [endsSection, isEntry_modeLine hwhite, indentation_modeLine hwhite, Bool.true_and,
    ModeStop.column]

theorem isModeAt_modeLine :
    isModeAt n (modeLine stop.blanks newMode) = true ↔ stop.blanks = List.replicate n ' ' := by
  rw [isModeAt, Bool.and_eq_true, beq_iff_eq, beq_iff_eq, keyOf_modeLine hwhite,
    indentation_modeLine hwhite, ← ModeStop.column, ← eq_replicate_iff]
  constructor
  · rintro ⟨rfl, hspaces⟩
    rwa [column_of_spaces hspaces]
  · intro hspaces
    refine ⟨column_of_spaces hspaces, ?_⟩
    rw [hspaces, List.length_replicate]

theorem sectionOf_withMode (ht : sectionOf stop.before = some t) (hopen : t.after = [])
    (hcolumn : stop.column ≠ 0) :
    sectionOf (stop.withMode newMode) = some (editedSection t stop newMode) := by
  refine sectionOf_open ht hopen [modeLine stop.blanks newMode] ?_
  rw [List.forall_mem_singleton, endsSection_modeLine hwhite]
  exact beq_false_of_ne hcolumn

theorem keyIndent_editedSection :
    (editedSection t stop newMode).keyIndent = some (t.keyIndent.getD stop.column) := by
  rw [keyIndent_append t.body _ rfl, List.find?_cons_of_pos (isEntry_modeLine hwhite newMode),
    Option.map_some, indentation_modeLine hwhite, ← ModeStop.column, ExecSection.keyIndent]
  cases t.body.find? isEntry <;> rfl

/-- In front of the section. -/
theorem amongOthers_of_none (ht : sectionOf stop.before = none) : stop.AmongOthers := by
  have hedited : ∀ newMode, sectionOf (stop.withMode newMode) =
      (sectionOf stop.after).map fun s =>
        { s with before := stop.before ++ modeLine stop.blanks newMode :: s.before } := by
    intro newMode
    rw [ModeStop.withMode, sectionOf_append_of_none ht, sectionOf,
      if_neg (by simp [isHeader_modeLine hwhite]), Option.map_map]
    rfl
  cases hafter : sectionOf stop.after with
  | none =>
    refine ⟨[], [], fun newMode s' hs' => ?_⟩
    rw [hedited, hafter] at hs'
    cases hs'
  | some u =>
    refine ⟨stop.before, u.otherLines, fun newMode s' hs' => ?_⟩
    rw [hedited, hafter] at hs'
    obtain rfl := Option.some.inj hs'
    have hkeys : ∀ before, ExecSection.isModeKey { u with before := before } = u.isModeKey :=
      fun _ => rfl
    simp only [ExecSection.otherLines, hkeys, List.append_assoc, List.cons_append]

/-- At the end of the section, or in it without being its mode. -/
theorem amongOthers_of_open (ht : sectionOf stop.before = some t) (hopen : t.after = [])
    (hnot : ∀ n, stop.blanks = List.replicate n ' ' → t.keyIndent.getD n ≠ n) :
    stop.AmongOthers := by
  by_cases hcolumn : stop.column = 0
  · have hkeys : ∀ rest, ExecSection.isModeKey { t with after := rest } = t.isModeKey :=
      fun _ => rfl
    refine ⟨t.before ++ t.header :: t.body.filter (!t.isModeKey ·), stop.after,
      fun newMode s' hs' => ?_⟩
    have hends : endsSection (modeLine stop.blanks newMode) = true := by
      rw [endsSection_modeLine hwhite, hcolumn]
      rfl
    rw [ModeStop.withMode, sectionOf_closed ht hopen hends] at hs'
    obtain rfl := Option.some.inj hs'
    simp [ExecSection.otherLines, hkeys]
  · set key := t.keyIndent.getD stop.column with hkey
    have hnew : ∀ newMode, isModeAt key (modeLine stop.blanks newMode) = false := by
      intro newMode
      rw [Bool.eq_false_iff]
      intro hmode
      have hspaces := (isModeAt_modeLine hwhite newMode).mp hmode
      rw [column_of_spaces hspaces] at hkey
      exact hnot key hspaces hkey.symm
    refine ⟨t.before ++ t.header :: t.body.filter (!isModeAt key ·),
      (stop.after.takeWhile (!endsSection ·)).filter (!isModeAt key ·) ++
        stop.after.dropWhile (!endsSection ·), fun newMode s' hs' => ?_⟩
    rw [sectionOf_withMode hwhite newMode ht hopen hcolumn] at hs'
    obtain rfl := Option.some.inj hs'
    have hkey' : ∀ k ∈ (editedSection t stop newMode).keyIndent, k = key := by
      rw [keyIndent_editedSection hwhite]
      rintro k ⟨⟩
      rfl
    rw [otherLines_eq hkey']
    simp [editedSection, List.filter_append, hnew newMode]

/-- Where the new line is not the section's mode it is one of the other lines. -/
theorem amongOthers_of_not_key
    (hnot : ∀ t n, sectionOf stop.before = some t → t.after = [] →
      stop.blanks = List.replicate n ' ' → t.keyIndent.getD n ≠ n) : stop.AmongOthers := by
  cases ht : sectionOf stop.before with
  | none => exact amongOthers_of_none hwhite ht
  | some t =>
    by_cases hopen : t.after = []
    · exact amongOthers_of_open hwhite ht hopen fun n hspaces => hnot t n ht hopen hspaces
    · exact amongOthers_of_over ht hopen

/-! ### The search stops in the section -/

section
variable (hblanks : stop.blanks = List.replicate n ' ') (hkey : t.keyIndent.getD n = n)

include hblanks hkey

/-- The edited section has the indentation of its first lines, or of the new line. -/
theorem keyIndent_edited : ∀ k ∈ (editedSection t stop newMode).keyIndent, k = n := by
  rw [keyIndent_editedSection hwhite, column_of_spaces hblanks, hkey]
  rintro k ⟨⟩
  rfl

/-- The new line is one of the edited section's modes. -/
theorem modeKeys_editedSection :
    (editedSection t stop newMode).modeKeys = t.body.filter (isModeAt n) ++
      modeLine stop.blanks newMode ::
        (stop.after.takeWhile (!endsSection ·)).filter (isModeAt n) := by
  rw [modeKeys_eq (keyIndent_edited hwhite newMode hblanks hkey)]
  simp [editedSection, List.filter_append, (isModeAt_modeLine hwhite newMode).mpr hblanks]

/-- Behind it come the lines of the section that come behind the stop. -/
theorem modeContinues_editedSection (hbody : t.body.filter (isModeAt n) = []) :
    (editedSection t stop newMode).modeContinues =
      continues n (stop.after.takeWhile (!endsSection ·)) := by
  have hkeys := keyIndent_edited hwhite newMode hblanks hkey
  have hnew := (isModeAt_modeLine hwhite newMode).mpr hblanks
  have hmodes : ∀ line ∈ (editedSection t stop newMode).body,
      (editedSection t stop newMode).isModeKey line = isModeAt n line :=
    fun _ hline => isModeKey_eq hkeys hline
  have hpass : ∀ line ∈ t.body, (!(editedSection t stop newMode).isModeKey line) = true := by
    intro line hline
    rw [hmodes line (List.mem_append_left _ hline)]
    simpa using List.filter_eq_nil_iff.mp hbody line hline
  have hstop : (editedSection t stop newMode).isModeKey (modeLine stop.blanks newMode) = true := by
    rw [hmodes _ (List.mem_append_right _ List.mem_cons_self), hnew]
  have hdrop : (editedSection t stop newMode).body.dropWhile
      (!(editedSection t stop newMode).isModeKey ·) =
        modeLine stop.blanks newMode :: stop.after.takeWhile (!endsSection ·) := by
    conv_lhs => enter [2]; rw [editedSection]
    rw [List.dropWhile_append_of_pos hpass, List.dropWhile_cons, hstop]
    rfl
  rw [ExecSection.modeContinues, hdrop, keyIndent_editedSection hwhite, column_of_spaces hblanks,
    hkey]
  rfl

theorem otherLines_editedSection (ht : sectionOf stop.before = some t) (hopen : t.after = [])
    (hbody : t.body.filter (isModeAt n) = [])
    (hrest : (stop.after.takeWhile (!endsSection ·)).filter (isModeAt n) = []) :
    (editedSection t stop newMode).otherLines = stop.before ++ stop.after := by
  rw [otherLines_eq (keyIndent_edited hwhite newMode hblanks hkey), before_eq ht hopen]
  simp only [editedSection, List.filter_append, List.filter_cons,
    (isModeAt_modeLine hwhite newMode).mpr hblanks, Bool.not_true, Bool.false_eq_true, if_false,
    filter_not_eq_self hbody, filter_not_eq_self hrest, List.append_assoc,
    List.takeWhile_append_dropWhile, List.cons_append]

end

omit hwhite

variable (h : stop.Splits ls) (ht : sectionOf stop.before = some t) (hopen : t.after = [])
  (hs : sectionOf ls = some s)

include h

theorem column_pos (hblanks : stop.blanks = List.replicate n ' ') : n ≠ 0 := by
  rintro rfl
  exact h.indented hblanks

include ht hopen hs

/-- The section before the edit. -/
theorem sectionOf_stop (hblanks : stop.blanks = List.replicate n ' ') :
    s = { t with
      body := t.body ++ (stop.replaced.toList ++ stop.after.takeWhile (!endsSection ·))
      after := stop.after.dropWhile (!endsSection ·) } := by
  have hinner : ∀ line ∈ stop.replaced.toList, endsSection line = false := by
    intro line hline
    obtain ⟨hindent, hmode⟩ := h.replaced line (Option.mem_toList.mp hline)
    rw [endsSection_of_startsMode hmode, hindent, ← ModeStop.column, column_of_spaces hblanks]
    exact beq_false_of_ne (column_pos h hblanks)
  rw [h.lines_eq, sectionOf_open ht hopen _ hinner] at hs
  exact (Option.some.inj hs).symm

variable (hblanks : stop.blanks = List.replicate n ' ') (hkeys : ∀ k ∈ s.keyIndent, k = n)

include hblanks hkeys

/-- The section's modes, around the line that is replaced. -/
theorem modeKeys_stop :
    s.modeKeys = t.body.filter (isModeAt n) ++ (stop.replaced.toList.filter (isModeAt n) ++
      (stop.after.takeWhile (!endsSection ·)).filter (isModeAt n)) := by
  have hbody := congrArg ExecSection.body (sectionOf_stop h ht hopen hs hblanks)
  rw [modeKeys_eq hkeys, hbody, List.filter_append, List.filter_append]

/-- The other lines, when no other line is a mode. -/
theorem otherLines_stop (hfirst : t.body.filter (isModeAt n) = [])
    (hlast : (stop.after.takeWhile (!endsSection ·)).filter (isModeAt n) = []) :
    s.otherLines =
      stop.before ++ (stop.replaced.toList.filter (!isModeAt n ·) ++ stop.after) := by
  rw [otherLines_eq hkeys, before_eq ht hopen, sectionOf_stop h ht hopen hs hblanks]
  simp only [List.filter_append, filter_not_eq_self hfirst, filter_not_eq_self hlast,
    List.append_assoc, List.takeWhile_append_dropWhile, List.cons_append]

/-- Where the other lines are what is left, the replaced line was not one of them. -/
theorem replaced_of_kept (hfirst : t.body.filter (isModeAt n) = [])
    (hlast : (stop.after.takeWhile (!endsSection ·)).filter (isModeAt n) = [])
    (hkept : (stop.before ++ stop.after).map chomp = s.otherLines) :
    (∀ line ∈ stop.replaced, isModeAt n line = true) ∧
      s.otherLines = stop.before ++ stop.after := by
  have hold := otherLines_stop h ht hopen hs hblanks hkeys hfirst hlast
  have hgone : stop.replaced.toList.filter (!isModeAt n ·) = [] := by
    have hlength := congrArg List.length hkept
    rw [hold, List.length_map, List.length_append, List.length_append,
      List.length_append] at hlength
    exact List.length_eq_zero_iff.mp (by omega)
  rw [hgone, List.nil_append] at hold
  refine ⟨fun line hline => ?_, hold⟩
  simpa using List.filter_eq_nil_iff.mp hgone line (Option.mem_toList.mpr hline)

/-- The replaced line is the section's mode when no other line is. -/
theorem modeKeys_eq_replaced_iff :
    s.modeKeys = stop.replaced.toList ↔
      t.body.filter (isModeAt n) = [] ∧ (∀ line ∈ stop.replaced, isModeAt n line = true) ∧
        (stop.after.takeWhile (!endsSection ·)).filter (isModeAt n) = [] := by
  have hmodes := modeKeys_stop h ht hopen hs hblanks hkeys
  constructor
  · intro heq
    have hreplaced : ∀ line ∈ stop.replaced, isModeAt n line = true := by
      intro line hline
      have hmem : line ∈ s.modeKeys := heq ▸ Option.mem_toList.mpr hline
      rw [modeKeys_eq hkeys] at hmem
      exact (List.mem_filter.mp hmem).2
    have hall : stop.replaced.toList.filter (isModeAt n) = stop.replaced.toList :=
      List.filter_eq_self.mpr fun line hline => hreplaced line (Option.mem_toList.mp hline)
    rw [heq, hall] at hmodes
    have hlength := congrArg List.length hmodes
    rw [List.length_append, List.length_append] at hlength
    refine ⟨List.length_eq_zero_iff.mp ?_, hreplaced, List.length_eq_zero_iff.mp ?_⟩
    · omega
    · omega
  · rintro ⟨hfirst, hreplaced, hlast⟩
    have hall : stop.replaced.toList.filter (isModeAt n) = stop.replaced.toList :=
      List.filter_eq_self.mpr fun line hline => hreplaced line (Option.mem_toList.mp hline)
    rw [hmodes, hfirst, hlast, hall, List.nil_append, List.append_nil]

end

/-! ## The text with the new mode -/

section
variable {s : ExecSection} {content newMode : String} {ls : List Line}

theorem white_stopOf (ls : List Line) : ∀ c ∈ (stopOf ls).blanks, isWhitespace c = true := by
  rcases stopOf_cases ls with hsplits | heq
  · exact hsplits.white
  · have hblank : ∀ c ∈ "  ".toList, isWhitespace c = true := List.all_eq_true.mp (by decide)
    rw [heq]
    exact hblank

/-- A text with a section gets no second one when the search stops in it. -/
theorem exists_startsExec_of_open {t : ExecSection} (hs : sectionOf ls = some s)
    (ht : sectionOf (stopOf ls).before = some t) (hopen : t.after = []) :
    ∃ line ∈ ls, startsExec line = true := by
  by_contra hnone
  push Not at hnone
  rw [stopOf_of_no_exec fun line hline => Bool.eq_false_iff.mpr (hnone line hline),
    sectionOf_append hs] at ht
  obtain rfl := Option.some.inj ht
  unfold ExecSection.extend at hopen
  have hcloses : [[], "execution:".toList].dropWhile (!endsSection ·) ≠ [] := by decide +kernel
  split at hopen
  · exact hcloses hopen
  · cases hopen

/-- Nor when it stops at a line of it. -/
theorem exists_startsExec_of_fits (hs : sectionOf ls = some s) (hfits : StopFits s (stopOf ls)) :
    ∃ line ∈ ls, startsExec line = true := by
  by_contra hnone
  push Not at hnone
  obtain ⟨inner, rest, hbefore, hbody, -⟩ := hfits.place
  rw [stopOf_of_no_exec fun line hline => Bool.eq_false_iff.mpr (hnone line hline)] at hbefore
  have hlength := congrArg List.length hbefore
  have hlines := congrArg List.length (sectionOf_lines hs)
  have hinner := congrArg List.length hbody
  simp only [List.length_append, List.length_cons, List.length_nil] at hlength hlines hinner
  omega

theorem chomp_modeLine (hmode : newMode ∈ serverModes) (blanks : List Char) :
    chomp (modeLine blanks newMode.toList) = modeLine blanks newMode.toList := by
  rw [modeLine, chomp_append]
  · have hmodes : ∀ newMode ∈ serverModes,
        chomp ("mode: ".toList ++ newMode.toList) = "mode: ".toList ++ newMode.toList := by
      decide +kernel
    rw [hmodes newMode hmode]
  · exact List.cons_ne_nil _ _

/-- Where no line ends in a carriage return, all are kept as they are. -/
theorem map_chomp_withMode {stop : ModeStop} (hmode : newMode ∈ serverModes)
    (hends : ∀ line ∈ stop.before ++ stop.after, line.getLast? ≠ some '\r') :
    (stop.withMode newMode.toList).map chomp = stop.withMode newMode.toList := by
  have hsame : (stop.before ++ stop.after).map chomp = stop.before ++ stop.after :=
    (List.map_congr_left fun line hline => chomp_eq_self_iff.mpr (hends line hline)).trans
      (List.map_id _)
  rw [List.map_append] at hsame
  obtain ⟨hbefore, hafter⟩ := List.append_inj hsame (List.length_map _)
  rw [ModeStop.withMode, List.map_append, List.map_cons, chomp_modeLine hmode, hbefore, hafter]

/-- The lines that the edit puts together have no line feed in them. -/
theorem newline_notMem_withMode (hold : ∀ line ∈ ls, '\n' ∉ line) (hmode : newMode ∈ serverModes) :
    ∀ line ∈ (stopOf ls).withMode newMode.toList, '\n' ∉ line := by
  have hmodes : ∀ newMode ∈ serverModes, '\n' ∉ "mode: ".toList ++ newMode.toList := by
    decide +kernel
  have hnew : ∀ blanks : List Char, '\n' ∉ blanks → '\n' ∉ modeLine blanks newMode.toList :=
    fun blanks hblanks hin => (List.mem_append.mp hin).elim hblanks (hmodes newMode hmode)
  rcases stopOf_cases ls with hsplits | heq
  · generalize stopOf ls = stop at hsplits
    rw [hsplits.lines_eq] at hold
    intro line hline
    rcases List.mem_append.mp hline with hbefore | hrest
    · exact hold line (List.mem_append_left _ hbefore)
    · rcases List.mem_cons.mp hrest with rfl | hafter
      · refine hnew _ ?_
        cases hreplaced : stop.replaced with
        | none =>
          rw [hsplits.two_blanks hreplaced]
          decide
        | some old =>
          have hmem : old ∈ stop.before ++ (stop.replaced.toList ++ stop.after) := by
            simp [hreplaced]
          rw [← (hsplits.replaced old hreplaced).1]
          exact fun hin => hold old hmem ((List.takeWhile_prefix _).subset hin)
      · exact hold line (List.mem_append_right _ (List.mem_append_right _ hafter))
  · rw [heq, ModeStop.withMode]
    intro line hline
    simp only [List.mem_append, List.mem_cons, List.not_mem_nil, or_false] at hline
    rcases hline with (hline | rfl | rfl) | rfl
    · exact hold line hline
    · exact List.not_mem_nil
    · decide
    · exact hnew _ (by decide)

/-- The lines of the new text. -/
theorem lines_rewriteYamlMode (hmode : newMode ∈ serverModes) :
    lines (rewriteYamlMode content newMode).toList =
      ((stopOf (lines content.toList)).withMode newMode.toList).map chomp := by
  rw [rewriteYamlMode_eq, lines_unlines]
  exact newline_notMem_withMode (fun _ => newline_notMem_of_mem_lines) hmode

/-- What the edited lines show of a text in which the mode is rewritten. -/
theorem ModeRewritten.edited_lines (h : ModeRewritten s content newMode)
    (hmode : newMode ∈ serverModes) :
    ∃ u, sectionOf ((stopOf (lines content.toList)).withMode newMode.toList) = some u ∧
      u.opensBlock = true ∧ u.modeKeys.length = 1 ∧ u.modeContinues = false ∧
      u.otherLines.map chomp = s.otherLines ∧ ∀ n ∈ s.keyIndent, n ∈ u.keyIndent := by
  obtain ⟨s', hs', hblock, ⟨blanks, hmodes⟩, hcontinues, hothers, hkeep⟩ := h.edited
  rw [lines_rewriteYamlMode hmode, sectionOf_map_chomp] at hs'
  obtain ⟨u, hu, rfl⟩ := Option.map_eq_some_iff.mp hs'
  rw [u.opensBlock_chomped] at hblock
  rw [u.modeKeys_chomped] at hmodes
  rw [u.modeContinues_chomped] at hcontinues
  rw [u.otherLines_chomped] at hothers
  rw [u.keyIndent_chomped] at hkeep
  refine ⟨u, hu, hblock, ?_, hcontinues, hothers, hkeep⟩
  rw [← List.length_map (f := chomp), hmodes]
  rfl

/-- The two modes do not leave the same lines, so the new line is not one of them. -/
theorem isModeKey_of_rewritten
    (hall : ∀ newMode ∈ serverModes, ModeRewritten s content newMode) :
    ∃ t n, sectionOf (stopOf (lines content.toList)).before = some t ∧ t.after = [] ∧
      (stopOf (lines content.toList)).blanks = List.replicate n ' ' ∧ t.keyIndent.getD n = n := by
  by_contra hnot
  push Not at hnot
  obtain ⟨front, back, hfixed⟩ := amongOthers_of_not_key (white_stopOf _) hnot
  have hdemo : "demo" ∈ serverModes := by decide
  have hlive : "live" ∈ serverModes := by decide
  obtain ⟨u, hu, -, -, -, hothers, -⟩ := (hall _ hdemo).edited_lines hdemo
  obtain ⟨u', hu', -, -, -, hothers', -⟩ := (hall _ hlive).edited_lines hlive
  rw [hfixed _ u hu, List.map_append, List.map_cons, chomp_modeLine hdemo] at hothers
  rw [hfixed _ u' hu', List.map_append, List.map_cons, chomp_modeLine hlive] at hothers'
  have hsame := List.append_cancel_left (hothers.trans hothers'.symm)
  have hline := List.append_cancel_left (List.cons.inj hsame).1
  exact absurd hline (by decide)

/-- A stop that fits has its new line at the section's indentation. -/
theorem StopFits.column (hfits : StopFits s (stopOf ls)) (hsplits : (stopOf ls).Splits ls) :
    ∃ n, (stopOf ls).blanks = List.replicate n ' ' ∧ ∀ k ∈ s.keyIndent, k = n := by
  cases hindent : s.keyIndent with
  | some k => exact ⟨k, hfits.blanks k hindent, fun k' hk' => (Option.some.inj hk').symm⟩
  | none =>
    obtain ⟨inner, rest, -, hbody, -⟩ := hfits.place
    have hnone : (stopOf ls).replaced = none := by
      rw [Option.eq_none_iff_forall_not_mem]
      intro line hline
      have hmem : line ∈ s.body := by
        rw [hbody]
        simp [Option.mem_def.mp hline]
      have hentry := isEntry_of_no_key hindent hmem
      rw [isEntry_of_startsMode (hsplits.replaced line hline).2] at hentry
      cases hentry
    exact ⟨2, hsplits.two_blanks hnone, nofun⟩

end

/-- **The edit does what it is to do when its stop fits.** -/
theorem modeRewritten_of_fits {s : ExecSection} {content newMode : String}
    (hs : sectionOf (lines content.toList) = some s)
    (hfits : StopFits s (stopOf (lines content.toList))) (hmode : newMode ∈ serverModes) :
    ModeRewritten s content newMode := by
  have hexec := exists_startsExec_of_fits hs hfits
  have hsplits := stopOf_splits hexec
  obtain ⟨n, hspaces, hkeys⟩ := hfits.column hsplits
  have hlines := @lines_rewriteYamlMode content newMode hmode
  have htwice := stopOf_withMode hexec newMode.toList
  have hout := rewriteYamlMode_eq content newMode
  generalize stopOf (lines content.toList) = stop at *
  obtain ⟨hblock, ⟨inner, rest, hbefore, hbody, hcontinues⟩, hmodes, -, hends⟩ := hfits
  have ht : sectionOf stop.before = some ⟨s.before, s.header, inner, []⟩ := by
    rw [hbefore]
    refine sectionOf_of_open (isHeader_of_mem_before hs) (sectionOf_header hs) ?_
    intro line hline
    exact endsSection_of_mem_body hs line (hbody ▸ List.mem_append_left _ hline)
  have hkey : (ExecSection.keyIndent ⟨s.before, s.header, inner, []⟩).getD n = n :=
    keyIndent_getD_of_body hbody hkeys
  have hcolumn : stop.column ≠ 0 := by
    rw [column_of_spaces hspaces]
    exact column_pos hsplits hspaces
  obtain ⟨hfirst, hreplaced, hlast⟩ :=
    (modeKeys_eq_replaced_iff hsplits ht rfl hs hspaces hkeys).mp hmodes
  have hothers : s.otherLines = stop.before ++ stop.after := by
    have hgone : stop.replaced.toList.filter (!isModeAt n ·) = [] := by
      rw [List.filter_eq_nil_iff]
      intro line hline
      simp [hreplaced line (Option.mem_toList.mp hline)]
    rw [otherLines_stop hsplits ht rfl hs hspaces hkeys hfirst hlast, hgone, List.nil_append]
  rw [map_chomp_withMode hmode (hothers ▸ hends)] at hlines
  have hrest : rest = stop.after.takeWhile (!endsSection ·) := by
    have hsection := congrArg ExecSection.body (sectionOf_stop hsplits ht rfl hs hspaces)
    rw [hbody] at hsection
    exact List.append_cancel_left (List.append_cancel_left hsection)
  refine ⟨⟨editedSection ⟨s.before, s.header, inner, []⟩ stop newMode.toList, ?_, hblock,
    ⟨stop.blanks, ?_⟩, ?_, ?_, ?_⟩, ?_⟩
  · rw [hlines]
    exact sectionOf_withMode hsplits.white newMode.toList ht rfl hcolumn
  · rw [modeKeys_editedSection hsplits.white _ hspaces hkey, hfirst, hlast]
    rfl
  · rw [modeContinues_editedSection hsplits.white _ hspaces hkey hfirst, ← hrest]
    rwa [hspaces, List.length_replicate] at hcontinues
  · rw [otherLines_editedSection hsplits.white _ hspaces hkey ht rfl hfirst hlast, hothers]
  · intro k hindent
    rw [keyIndent_editedSection hsplits.white, column_of_spaces hspaces, hkey, hkeys k hindent]
    rfl
  · rw [← String.toList_inj, rewriteYamlMode_eq, hlines, htwice, hout]

/-- A text whose section begins with its mode. -/
def plainText : String :=
  "ws_port: 1\nexecution:\n  mode: demo\n  live:\n    mode: jito\n"

def plainSection : ExecSection :=
  ⟨["ws_port: 1".toList], "execution:".toList,
    ["  mode: demo".toList, "  live:".toList, "    mode: jito".toList], []⟩

/-- The text has the mode behind a comment at the margin. -/
def commentedMode : String := "execution:\n# live needs a key\n  mode: demo\n"

end Loggaper
