import Mathlib.Data.List.DropRight
import Loggaper.Lib.Lines

/-!
# The keys of a YAML text

A mapping in block style has its keys in lines of their own, all at one indentation. What a line
holds is read from the line alone: how many spaces it begins with, whether it is more than a
comment, and its key. A key is plain or quoted, may have a tag or an anchor in front, and a colon
with a blank behind it; behind a question mark it stands alone. A value that is not over with its
line goes on in deeper lines.

- `keyOf_name`: a name behind spaces is the key.
- `head_of_keyOf`: any other white space in front is a part of the key.
-/

namespace YamlLine

open Lines

def isBlank (c : Char) : Bool := c == ' ' || c == '\t'

/-- A carriage return at the end belongs to the line break. -/
def isTrailing (c : Char) : Bool := isBlank c || c == '\r'

def trimEnd (line : List Char) : List Char := line.rdropWhile isTrailing

/-- The spaces in front. A tab does not indent. -/
def indentation (line : List Char) : ℕ := ((trimEnd line).takeWhile (· == ' ')).length

/-- What the spaces are in front of. -/
def node (line : List Char) : List Char := (trimEnd line).dropWhile (· == ' ')

/-- Neither blank nor a comment. -/
def isEntry (line : List Char) : Bool := ((trimEnd line).dropWhile isBlank).head?.any (· != '#')

/-! ## Keys -/

/-- The value behind a key: after a colon, with a blank in front of it. -/
def valueOf : List Char → Option (List Char)
  | ':' :: value => if value.head?.all isBlank then some value else none
  | _ => none

/-- A plain key and its value. The key ends at the first colon before a blank, and the text at a
comment. -/
def plainEntry : List Char → Option (List Char × List Char)
  | [] => none
  | c :: text =>
    match valueOf (c :: text) with
    | some value => some ([], value)
    | none =>
      if isBlank c && text.head? == some '#' then none
      else (plainEntry text).map (Prod.map (c :: ·) id)

/-- Up to the closing quote. Two quotes stand for one. -/
def singleQuoted : List Char → Option (List Char × List Char)
  | [] => none
  | '\x27' :: '\x27' :: text => (singleQuoted text).map (Prod.map ('\x27' :: ·) id)
  | '\x27' :: text => some ([], text)
  | c :: text => (singleQuoted text).map (Prod.map (c :: ·) id)

def hexDigit (c : Char) : Option ℕ :=
  if '0' ≤ c ∧ c ≤ '9' then some (c.toNat - '0'.toNat)
  else if 'a' ≤ c ∧ c ≤ 'f' then some (c.toNat - 'a'.toNat + 10)
  else if 'A' ≤ c ∧ c ≤ 'F' then some (c.toNat - 'A'.toNat + 10)
  else none

def hexChar (digits : List Char) : Option Char :=
  (digits.foldlM (fun n c => (hexDigit c).map (16 * n + ·)) 0).map Char.ofNat

/-- The letters behind a backslash. -/
def escapes : List (Char × Char) :=
  [('0', '\x00'), ('a', '\x07'), ('b', '\x08'), ('t', '\t'), ('\t', '\t'), ('n', '\n'),
    ('v', '\x0b'), ('f', '\x0c'), ('r', '\r'), ('e', '\x1b'), (' ', ' '), ('"', '"'), ('/', '/'),
    ('\\', '\\'), ('N', '\u0085'), ('_', '\u00a0'), ('L', '\u2028'), ('P', '\u2029')]

/-- Up to the closing quote. -/
def doubleQuoted : List Char → Option (List Char × List Char)
  | [] => none
  | '"' :: text => some ([], text)
  | '\\' :: 'x' :: a :: b :: text =>
    (hexChar [a, b]).bind fun c => (doubleQuoted text).map (Prod.map (c :: ·) id)
  | '\\' :: 'u' :: a :: b :: c :: d :: text =>
    (hexChar [a, b, c, d]).bind fun c => (doubleQuoted text).map (Prod.map (c :: ·) id)
  | '\\' :: 'U' :: a :: b :: c :: d :: e :: f :: g :: h :: text =>
    (hexChar [a, b, c, d, e, f, g, h]).bind fun c =>
      (doubleQuoted text).map (Prod.map (c :: ·) id)
  | '\\' :: a :: text =>
    (escapes.lookup a).bind fun c => (doubleQuoted text).map (Prod.map (c :: ·) id)
  | c :: text => (doubleQuoted text).map (Prod.map (c :: ·) id)

/-- A text in quotes, and what follows it. -/
def quoted : List Char → Option (List Char × List Char)
  | '"' :: text => doubleQuoted text
  | '\x27' :: text => singleQuoted text
  | _ => none

/-- A key in front of its colon, and its value. -/
def implicitEntry (text : List Char) : Option (List Char × List Char) :=
  match quoted text with
  | some (key, rest) => (valueOf (rest.dropWhile isBlank)).map (key, ·)
  | none => (plainEntry text).map (Prod.map (List.rdropWhile isBlank) id)

/-- Up to a comment. -/
def uncommented : List Char → List Char
  | [] => []
  | c :: text =>
    if isBlank c && text.head? == some '#' then [] else c :: uncommented text

def scalar (text : List Char) : List Char :=
  match quoted text with
  | some (key, _) => key
  | none => (uncommented text).rdropWhile isBlank

/-- Without a tag or an anchor in front. -/
def skipProperty (text : List Char) : List Char :=
  if text.head?.any fun c => c == '!' || c == '&' then
    (text.dropWhile (!isBlank ·)).dropWhile isBlank
  else text

def skipProperties (text : List Char) : List Char := skipProperty (skipProperty text)

/-- The key of a line, and its value as far as it is in the line. -/
def entryOf (line : List Char) : Option (List Char × List Char) :=
  match node line with
  | '?' :: text =>
    if text.head?.all isBlank then
      let key := skipProperties (text.dropWhile isBlank)
      -- a key with a colon behind it is a mapping, and the mapping is the key
      if (implicitEntry key).isSome then none else some (scalar key, [])
    else implicitEntry ('?' :: text)
  | text => implicitEntry (skipProperties text)

def keyOf (line : List Char) : Option (List Char) := (entryOf line).map Prod.fst

/-- The value is not in the line of its key. -/
def opensBlock (line : List Char) : Bool :=
  (entryOf line).any fun entry => !isEntry (skipProperties (entry.2.dropWhile isBlank))

/-- An item of a list. -/
def isItem (line : List Char) : Bool :=
  match node line with
  | '-' :: text => text.head?.all isBlank
  | _ => false

/-- The first entry behind a key at this indentation belongs to the value: it is deeper, or an
item. -/
def continues (n : ℕ) (ls : List (List Char)) : Bool :=
  (ls.find? isEntry).any fun line => n < indentation line || indentation line == n && isItem line

example : ["  mode : demo", "  \"mo\\x64e\": demo", "  !!str 'mode': demo", "? mode"].map
    (fun line => keyOf line.toList) = List.replicate 4 (some "mode".toList) := by
  decide +kernel

example : ["  mode:demo", "  # mode: demo", "  \tmode: demo", "  - mode: demo"].map
    (fun line => keyOf line.toList == some "mode".toList) = List.replicate 4 false := by
  decide +kernel

/-! ## The end of a line -/

variable {line front rest : List Char} {c : Char}

theorem trimEnd_append_cons (hc : isTrailing c = false) :
    trimEnd (front ++ c :: rest) = front ++ c :: trimEnd rest := by
  have hstop : (c :: front.reverse).dropWhile isTrailing = c :: front.reverse :=
    List.dropWhile_cons_of_neg (by simp [hc])
  have hdrop : (rest.reverse ++ c :: front.reverse).dropWhile isTrailing =
      rest.reverse.dropWhile isTrailing ++ c :: front.reverse := by
    rw [List.dropWhile_append, hstop]
    split_ifs with hnil
    · rw [List.isEmpty_iff.mp hnil, List.nil_append]
    · rfl
  rw [trimEnd, trimEnd, List.rdropWhile, List.rdropWhile]
  simp [hdrop]

@[simp] theorem trimEnd_chomp (line : List Char) : trimEnd (chomp line) = trimEnd line := by
  unfold chomp
  split_ifs with hcr
  · obtain ⟨init, rfl⟩ := List.getLast?_eq_some_iff.mp hcr
    rw [List.dropLast_concat, trimEnd, trimEnd, List.rdropWhile_concat_pos _ _ _ (by decide)]
  · rfl

@[simp] theorem indentation_chomp (line : List Char) :
    indentation (chomp line) = indentation line := by
  rw [indentation, indentation, trimEnd_chomp]

@[simp] theorem isEntry_chomp (line : List Char) : isEntry (chomp line) = isEntry line := by
  rw [isEntry, isEntry, trimEnd_chomp]

@[simp] theorem entryOf_chomp (line : List Char) : entryOf (chomp line) = entryOf line := by
  rw [entryOf, entryOf, node, node, trimEnd_chomp]

@[simp] theorem keyOf_chomp (line : List Char) : keyOf (chomp line) = keyOf line := by
  rw [keyOf, keyOf, entryOf_chomp]

@[simp] theorem opensBlock_chomp (line : List Char) :
    opensBlock (chomp line) = opensBlock line := by
  rw [opensBlock, opensBlock, entryOf_chomp]

@[simp] theorem isItem_chomp (line : List Char) : isItem (chomp line) = isItem line := by
  rw [isItem, isItem, node, node, trimEnd_chomp]

@[simp] theorem continues_map_chomp (n : ℕ) (ls : List (List Char)) :
    continues n (ls.map chomp) = continues n ls := by
  have hentries : isEntry ∘ chomp = isEntry := funext isEntry_chomp
  rw [continues, continues, List.find?_map, hentries]
  cases ls.find? isEntry <;> simp

/-! ## White space in front -/

/-- Behind other white space, what counts is the spaces that come first. -/
theorem indentation_append_cons (hc : isTrailing c = false) :
    indentation (front ++ c :: rest) = (front.takeWhile (· == ' ')).length := by
  have hspace : (c == ' ') = false := by
    rw [beq_eq_false_iff_ne]
    rintro rfl
    exact absurd hc (by decide)
  have htake : ((c :: trimEnd rest).takeWhile (· == ' ')) = [] :=
    List.takeWhile_cons_of_neg (by simp [hspace])
  rw [indentation, trimEnd_append_cons hc, List.takeWhile_append, htake]
  split_ifs with hall
  · rw [List.append_nil, hall]
  · rfl

theorem node_append_cons (hc : isTrailing c = false) :
    node (front ++ c :: rest) = front.dropWhile (· == ' ') ++ c :: trimEnd rest := by
  have hspace : (c == ' ') = false := by
    rw [beq_eq_false_iff_ne]
    rintro rfl
    exact absurd hc (by decide)
  have hdrop : (c :: trimEnd rest).dropWhile (· == ' ') = c :: trimEnd rest :=
    List.dropWhile_cons_of_neg (by simp [hspace])
  rw [node, trimEnd_append_cons hc, List.dropWhile_append, hdrop]
  split_ifs with hnil
  · rw [List.isEmpty_iff.mp hnil, List.nil_append]
  · rfl

theorem isEntry_append_cons (hc : isTrailing c = false) (hhash : '#' ∉ front ++ [c]) :
    isEntry (front ++ c :: rest) = true := by
  rw [isEntry, trimEnd_append_cons hc]
  induction front with
  | nil =>
    have hblank : isBlank c = false := (Bool.or_eq_false_iff.mp hc).1
    have hne : c ≠ '#' := fun heq => hhash (heq ▸ List.mem_singleton_self _)
    rw [List.nil_append, List.dropWhile_cons_of_neg (by simp [hblank])]
    simp [hne]
  | cons a front ih =>
    rw [List.cons_append, List.mem_cons, not_or] at hhash
    rw [List.cons_append]
    by_cases ha : isBlank a = true
    · rw [List.dropWhile_cons_of_pos ha]
      exact ih hhash.2
    · rw [List.dropWhile_cons_of_neg ha]
      simp [Ne.symm hhash.1]

/-! ## Names as keys -/

/-- Letters that begin a plain text. -/
def beginsPlain (c : Char) : Bool := !(['?', '!', '&', '"', '\x27', ':'].contains c)

theorem entryOf_plain {text : List Char} (h : node line = c :: text) (hc : beginsPlain c = true) :
    entryOf line = (plainEntry (c :: text)).map (Prod.map (List.rdropWhile isBlank) id) := by
  have hskip : skipProperty (c :: text) = c :: text := by
    rw [skipProperty, if_neg]
    rintro hprop
    simp only [List.head?_cons, Option.any_some, Bool.or_eq_true, beq_iff_eq] at hprop
    rcases hprop with rfl | rfl <;> exact absurd hc (by decide)
  have hquoted : quoted (c :: text) = none := by
    unfold quoted
    split
    · rename_i heq
      cases heq
      exact absurd hc (by decide)
    · rename_i heq
      cases heq
      exact absurd hc (by decide)
    · rfl
  unfold entryOf
  rw [h]
  split
  · rename_i heq
    cases heq
    exact absurd hc (by decide)
  · rw [skipProperties, hskip, hskip, implicitEntry, hquoted]

/-- White space that does not indent is a part of the key. -/
theorem head_of_keyOf {text key : List Char} (h : node line = c :: text)
    (hc : beginsPlain c = true) (hkey : keyOf line = some key) : key = [] ∨ key.head? = some c := by
  obtain ⟨⟨key', value⟩, hentry, rfl⟩ := Option.map_eq_some_iff.mp hkey
  rw [entryOf_plain h hc] at hentry
  obtain ⟨⟨plain, value'⟩, hplain, heq⟩ := Option.map_eq_some_iff.mp hentry
  obtain ⟨rfl, -⟩ := Prod.mk.inj heq
  have hcolon : valueOf (c :: text) = none := by
    unfold valueOf
    split
    · rename_i heq
      cases heq
      exact absurd hc (by decide)
    · rfl
  rw [plainEntry, hcolon] at hplain
  dsimp only at hplain
  split_ifs at hplain
  obtain ⟨⟨tail, value''⟩, -, heq⟩ := Option.map_eq_some_iff.mp hplain
  obtain ⟨rfl, -⟩ := Prod.mk.inj heq
  obtain ⟨dropped, hprefix⟩ := List.rdropWhile_prefix isBlank (c :: tail)
  dsimp only
  cases hdropped : (c :: tail).rdropWhile isBlank with
  | nil => exact .inl rfl
  | cons a key =>
    rw [hdropped] at hprefix
    obtain ⟨rfl, -⟩ := List.cons.inj hprefix
    exact .inr rfl

/-- A name is no comment. -/
theorem isEntry_of_keyOf {a : Char} {name : List Char} (ha : a.isAlpha = true)
    (hkey : keyOf line = some (a :: name)) : isEntry line = true := by
  by_contra hentry
  have hsplit : (trimEnd line).takeWhile (· == ' ') ++ node line = trimEnd line :=
    List.takeWhile_append_dropWhile
  have hspaces : ∀ c ∈ (trimEnd line).takeWhile (· == ' '), isBlank c = true := by
    intro c hc
    have hspace := List.mem_takeWhile_imp hc
    rw [isBlank, hspace, Bool.true_or]
  rw [isEntry, ← hsplit, List.dropWhile_append_of_pos hspaces] at hentry
  cases hnode : node line with
  | nil =>
    have hnone : keyOf line = none := by
      rw [keyOf, entryOf, hnode]
      rfl
    rw [hnone] at hkey
    cases hkey
  | cons c text =>
    have hc : c = '\t' ∨ c = '#' := by
      rw [hnode] at hentry
      by_cases hblank : isBlank c = true
      · have hspace : (c == ' ') = false := by
          have hhead := List.head?_dropWhile_not (· == ' ') (trimEnd line)
          rw [← node, hnode] at hhead
          exact hhead
        rw [isBlank, hspace, Bool.false_or, beq_iff_eq] at hblank
        exact .inl hblank
      · rw [List.dropWhile_cons_of_neg hblank] at hentry
        exact .inr (by simpa using hentry)
    have hplain : beginsPlain c = true := by
      rcases hc with rfl | rfl <;> decide
    rcases head_of_keyOf hnode hplain hkey with hnil | hhead
    · cases hnil
    · cases hhead
      rcases hc with rfl | rfl <;> exact absurd ha (by decide)

/-- A letter is nothing else. -/
theorem isBlank_of_isAlpha (hc : c.isAlpha = true) : isBlank c = false := by
  rw [Bool.eq_false_iff]
  intro hblank
  simp only [isBlank, Bool.or_eq_true, beq_iff_eq] at hblank
  rcases hblank with rfl | rfl <;> exact absurd hc (by decide)

theorem beginsPlain_of_isAlpha (hc : c.isAlpha = true) : beginsPlain c = true := by
  rw [beginsPlain, Bool.not_eq_true', Bool.eq_false_iff]
  intro hmem
  rw [List.contains_iff_mem] at hmem
  simp only [List.mem_cons, List.not_mem_nil, or_false] at hmem
  rcases hmem with rfl | rfl | rfl | rfl | rfl | rfl <;> exact absurd hc (by decide)

/-- A name is read up to its colon. -/
theorem plainEntry_name {name value : List Char} (hname : ∀ c ∈ name, c.isAlpha = true)
    (hvalue : value.head?.all isBlank = true) :
    plainEntry (name ++ ':' :: value) = some (name, value) := by
  induction name with
  | nil => simp [plainEntry, valueOf, hvalue]
  | cons c name ih =>
    obtain ⟨hc, hrest⟩ := List.forall_mem_cons.mp hname
    have hcolon : ∀ text, valueOf (c :: text) = none := by
      intro text
      unfold valueOf
      split
      · rename_i heq
        cases heq
        exact absurd hc (by decide)
      · rfl
    rw [List.cons_append, plainEntry, hcolon]
    simp [isBlank_of_isAlpha hc, ih hrest]

/-- **A name behind spaces is the key.** -/
theorem keyOf_name {name : List Char} (hne : name ≠ []) (hname : ∀ c ∈ name, c.isAlpha = true)
    (n : ℕ) (value : List Char) :
    keyOf (List.replicate n ' ' ++ (name ++ ':' :: ' ' :: value)) = some name := by
  have hvalue : (trimEnd (' ' :: value)).head?.all isBlank = true := by
    obtain ⟨dropped, hprefix⟩ := List.rdropWhile_prefix isTrailing (' ' :: value)
    cases htrim : trimEnd (' ' :: value) with
    | nil => rfl
    | cons a text =>
      rw [← trimEnd, htrim] at hprefix
      obtain ⟨rfl, -⟩ := List.cons.inj hprefix
      rfl
  have hspaces : (List.replicate n ' ' ++ name).dropWhile (· == ' ') = name := by
    obtain ⟨c, text, rfl⟩ := List.exists_cons_of_ne_nil hne
    have hc : (c == ' ') = false := by
      rw [beq_eq_false_iff_ne]
      rintro rfl
      exact absurd (hname ' ' List.mem_cons_self) (by decide)
    rw [List.dropWhile_append_of_pos (by simp), List.dropWhile_cons_of_neg (by simp [hc])]
  have hnode : node (List.replicate n ' ' ++ (name ++ ':' :: ' ' :: value)) =
      name ++ ':' :: trimEnd (' ' :: value) := by
    rw [← List.append_assoc, node_append_cons (by decide), hspaces]
  have hlast : name.rdropWhile isBlank = name := by
    rw [List.rdropWhile_eq_self_iff]
    intro hnil
    simp [isBlank_of_isAlpha (hname _ (List.getLast_mem hnil))]
  obtain ⟨c, text, rfl⟩ := List.exists_cons_of_ne_nil hne
  have hbegins := beginsPlain_of_isAlpha (hname c List.mem_cons_self)
  rw [keyOf, entryOf_plain (hnode.trans (List.cons_append ..)) hbegins, ← List.cons_append,
    plainEntry_name hname hvalue]
  simp [hlast]

end YamlLine
