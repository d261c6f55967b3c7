import Loggaper.Helper
import Loggaper.Lib.Decimal
import Loggaper.Lib.Search
import Mathlib.Tactic.IntervalCases

/-!
# The developers' blacklist

A closed trade can put the token's developer on the blacklist, for good or for a while. What the
exit saw is not handed over: the blacklist reads it out of the text of the close reason.

- `slReason_roundTrip`: out of the text of a stop loss it reads the tick drop and the two market
  caps, rounded to one decimal, and decides as the rule says of these.
-/

namespace Loggaper

open Search Decimal

/-! ## The text of a stop loss -/

/-- `{x:.1}`. -/
def showTenths (x : ℚ) : String := String.ofList (formatTenths x)

/-- The confirmation, as the text tells it. -/
def confirmText : Option ℕ → String
  | some n => toString n ++ " ticks"
  | none => "instant"

/-- The tick drop at the end of the text. Only a positive one is told. -/
def dropText (tickDropPct : Option ℚ) : String :=
  match tickDropPct.filter (0 < ·) with
  | some d => " tick_drop=" ++ showTenths d ++ "%"
  | none => ""

def formatSlCloseReason (crash : Bool) (triggerPnlPct floorPct filteredPnlPct rawPnlPct : ℚ)
    (filtMcapSol rawMcapSol : ℚ) (confirmTicks : Option ℕ) (tickDropPct : Option ℚ) : String :=
  (if crash then "SL CRASH" else "SL") ++
    " trigger_pnl=" ++ showTenths triggerPnlPct ++ "% floor=" ++ showTenths floorPct ++
    "% filt_pnl=" ++ showTenths filteredPnlPct ++ "% raw_pnl=" ++ showTenths rawPnlPct ++
    "% | filt_mcap=" ++ showTenths filtMcapSol ++ " raw_mcap=" ++ showTenths rawMcapSol ++
    " | " ++ confirmText confirmTicks ++ dropText tickDropPct

/-! ## Reading it -/

structure DevBlacklistConfig where
  enabled : Bool := true
  minPnlPctForSl : ℚ := -30
  minTickDropPct : ℚ := 40
  permanentMinTickDropPct : ℚ := 55
  permanentMinMcapDropPct : ℚ := 60

inductive DevBlacklistTier
  /-- Rug spike: block the developer forever. -/
  | permanentRug
  /-- Deep or choppy stop loss: cooldown only. -/
  | timed
  deriving DecidableEq, Repr

/-- A number ends at white space, `|` or `%`. -/
def endsNumber (c : Char) : Bool := isWhitespace c || c == '|' || c == '%'

def parseF64After (closeReason needle : String) : Option ℚ := do
  let rest ← afterFirst needle.toList closeReason.toList
  parse (trim (rest.takeWhile fun c => !endsNumber c))

def parseTickDropPct (closeReason : String) : Option ℚ := parseF64After closeReason "tick_drop="

/-- Drop from filtered to raw market cap. -/
def parseMcapDropPct (closeReason : String) : Option ℚ := do
  let filt ← parseF64After closeReason "filt_mcap="
  let raw ← parseF64After closeReason "raw_mcap="
  if 0 < filt ∧ raw < filt then some ((filt - raw) / filt * 100) else none

/-- Rug spike exits. -/
def isPermanentRugExit (closeReason : String) (cfg : DevBlacklistConfig) : Bool :=
  textStartsWith closeReason "SL CRASH" ||
    (parseTickDropPct closeReason).any (cfg.permanentMinTickDropPct ≤ ·) ||
    (parseMcapDropPct closeReason).any (cfg.permanentMinMcapDropPct ≤ ·)

/-- Timed cooldown for a deep plain stop loss. -/
def isTimedSlBlacklist (closeReason : String) (pnlPctSol : ℚ) (cfg : DevBlacklistConfig) : Bool :=
  if isPermanentRugExit closeReason cfg then false
  else if !textStartsWith closeReason "SL " then false
  else if pnlPctSol ≤ cfg.minPnlPctForSl then true
  else (parseTickDropPct closeReason).any (cfg.minTickDropPct ≤ ·)

def classifyDevBlacklist (closeReason : String) (pnlPctSol : ℚ) (cfg : DevBlacklistConfig) :
    Option DevBlacklistTier :=
  if !cfg.enabled then none
  else if isPermanentRugExit closeReason cfg then some .permanentRug
  else if isTimedSlBlacklist closeReason pnlPctSol cfg then some .timed
  else none

/-! ## A labelled number -/

theorem isWhitespace_eq_false {c : Char} (hc : c.isDigit = true ∨ c = '.' ∨ c = '-') :
    isWhitespace c = false := by
  rcases hc with hdigit | rfl | rfl
  · have hrange : 48 ≤ c.toNat ∧ c.toNat ≤ 57 := Char.isDigit_iff_toNat.mp hdigit
    unfold isWhitespace
    generalize c.toNat = n at hrange
    obtain ⟨hlo, hhi⟩ := hrange
    interval_cases n <;> rfl
  · decide
  · decide

theorem endsNumber_eq_false {c : Char} (hc : c.isDigit = true ∨ c = '.' ∨ c = '-') :
    endsNumber c = false := by
  have hspace := isWhitespace_eq_false hc
  rcases hc with hdigit | rfl | rfl
  · have hbar : c ≠ '|' := by rintro rfl; exact absurd hdigit (by decide)
    have hpercent : c ≠ '%' := by rintro rfl; exact absurd hdigit (by decide)
    simp [endsNumber, hspace, hbar, hpercent]
  · decide
  · decide

theorem trim_eq_self {s : List Char} (h : ∀ c ∈ s, isWhitespace c = false) : trim s = s := by
  have hstart : trimStart s = s := by
    rw [trimStart, List.dropWhile_eq_self_iff]
    intro hlen
    simp [h _ (List.getElem_mem hlen)]
  rw [trim, hstart, List.rdropWhile_eq_self_iff]
  intro hne
  simp [h _ (List.getLast_mem hne)]

/-- A number is read up to the letter that ends it. -/
theorem parse_number (x : ℚ) {stop : Char} (hstop : endsNumber stop = true) (rest : List Char) :
    parse (trim ((formatTenths x ++ stop :: rest).takeWhile fun c => !endsNumber c)) =
      some (toTenths x) := by
  have htake : (formatTenths x ++ stop :: rest).takeWhile (fun c => !endsNumber c) =
      formatTenths x := by
    rw [List.takeWhile_append_of_pos]
    · simp [hstop]
    · intro c hc
      simp [endsNumber_eq_false (letters_formatTenths hc)]
  rw [htake, trim_eq_self fun c hc => isWhitespace_eq_false (letters_formatTenths hc),
    parse_formatTenths]

theorem parseF64After_eq {closeReason label : String} {before : List Char} {x : ℚ} (stop : Char)
    (rest : List Char) (hbefore : Passes label.toList before) (hstop : endsNumber stop = true)
    (htext : closeReason.toList =
      before ++ (label.toList ++ (formatTenths x ++ stop :: rest))) :
    parseF64After closeReason label = some (toTenths x) := by
  rw [parseF64After, htext, hbefore.afterFirst, Option.bind_eq_bind, Option.bind_some]
  exact parse_number x hstop rest

/-! ## The labels of a stop loss -/

/-- The labels that are looked for. -/
def slLabels : List String := ["filt_mcap=", "raw_mcap=", "tick_drop="]

/-- The words of the text between the numbers. -/
def slWords : List String :=
  ["SL CRASH", "SL", " trigger_pnl=", "% floor=", "% filt_pnl=", "% raw_pnl=", "% | ", " ", " | ",
    "instant ", " ticks"]

theorem passes_word {label : String} (hlabel : label ∈ slLabels) (word : String)
    (hword : word ∈ slWords) :
    Passes label.toList word.toList := by
  have hends : ∀ label ∈ slLabels, ∀ word ∈ slWords, ∀ u ∈ word.toList.tails, u ≠ [] →
      ¬ u <+: label.toList ∧ ¬ label.toList <+: u := by
    decide +kernel
  exact passes_of_tails (hends label hlabel word hword)

theorem passes_label {label : String} (hlabel : label ∈ slLabels) (other : String)
    (hother : other ∈ slLabels) (hne : label ≠ other) : Passes label.toList other.toList := by
  have hends : ∀ label ∈ slLabels, ∀ other ∈ slLabels, label ≠ other →
      ∀ u ∈ other.toList.tails, u ≠ [] → ¬ u <+: label.toList ∧ ¬ label.toList <+: u := by
    decide +kernel
  exact passes_of_tails (hends label hlabel other hother hne)

theorem passes_letters {label : String} (hlabel : label ∈ slLabels) {s : List Char}
    (hs : ∀ c ∈ s, c.isDigit = true ∨ c = '.' ∨ c = '-') : Passes label.toList s := by
  have hhead : ∀ label ∈ slLabels, ∃ a rest, label.toList = a :: rest ∧
      ¬ (a.isDigit = true ∨ a = '.' ∨ a = '-') := by
    intro label hlabel
    simp only [slLabels, List.mem_cons, List.not_mem_nil, or_false] at hlabel
    rcases hlabel with rfl | rfl | rfl
    · exact ⟨'f', "ilt_mcap=".toList, rfl, by decide⟩
    · exact ⟨'r', "aw_mcap=".toList, rfl, by decide⟩
    · exact ⟨'t', "ick_drop=".toList, rfl, by decide⟩
  obtain ⟨a, rest, heq, ha⟩ := hhead label hlabel
  rw [heq]
  exact passes_of_head_notMem fun hmem => ha (hs a hmem)

theorem passes_number {label : String} (hlabel : label ∈ slLabels) (x : ℚ) :
    Passes label.toList (formatTenths x) :=
  passes_letters hlabel fun _ hc => letters_formatTenths hc

section
variable (crash : Bool) (triggerPnl floor filtPnl rawPnl filtMcap rawMcap : ℚ)
  (confirmTicks : Option ℕ) (tickDrop : Option ℚ)

/-- The text up to the market caps. -/
def slHead : List Char :=
  (if crash then "SL CRASH" else "SL").toList ++
    (" trigger_pnl=".toList ++ (formatTenths triggerPnl ++
    ("% floor=".toList ++ (formatTenths floor ++
    ("% filt_pnl=".toList ++ (formatTenths filtPnl ++
    ("% raw_pnl=".toList ++ (formatTenths rawPnl ++ "% | ".toList))))))))

theorem passes_slHead {label : String} (hlabel : label ∈ slLabels) :
    Passes label.toList (slHead crash triggerPnl floor filtPnl rawPnl) := by
  have hnumber := passes_number hlabel
  have hword : ∀ word ∈ slWords, Passes label.toList word.toList :=
    passes_word hlabel
  have htag : Passes label.toList (if crash then "SL CRASH" else "SL").toList := by
    cases crash
    · exact hword "SL" (by decide)
    · exact hword "SL CRASH" (by decide)
  exact htag.append <| (hword _ (by decide)).append <| (hnumber _).append <|
    (hword _ (by decide)).append <| (hnumber _).append <|
    (hword _ (by decide)).append <| (hnumber _).append <|
    (hword _ (by decide)).append <| (hnumber _).append (hword _ (by decide))

/-- The text from the market caps on. -/
theorem toList_formatSlCloseReason :
    (formatSlCloseReason crash triggerPnl floor filtPnl rawPnl filtMcap rawMcap confirmTicks
      tickDrop).toList =
    slHead crash triggerPnl floor filtPnl rawPnl ++
      ("filt_mcap=".toList ++ (formatTenths filtMcap ++
        ' ' :: ("raw_mcap=".toList ++ (formatTenths rawMcap ++
          ' ' :: ("| ".toList ++ ((confirmText confirmTicks).toList ++
            (dropText tickDrop).toList)))))) := by
  unfold formatSlCloseReason showTenths slHead
  simp only [String.toList_append, String.toList_ofList, List.append_assoc]
  rfl

/-! ### The market caps -/

theorem parse_filtMcap :
    parseF64After (formatSlCloseReason crash triggerPnl floor filtPnl rawPnl filtMcap rawMcap
      confirmTicks tickDrop) "filt_mcap=" = some (toTenths filtMcap) :=
  parseF64After_eq ' ' _ (passes_slHead crash triggerPnl floor filtPnl rawPnl (by decide))
    (by decide) (toList_formatSlCloseReason ..)

theorem parse_rawMcap :
    parseF64After (formatSlCloseReason crash triggerPnl floor filtPnl rawPnl filtMcap rawMcap
      confirmTicks tickDrop) "raw_mcap=" = some (toTenths rawMcap) := by
  have hlabel : "raw_mcap=" ∈ slLabels := by decide
  have hbefore := (passes_slHead crash triggerPnl floor filtPnl rawPnl hlabel).append <|
    (passes_label hlabel "filt_mcap=" (by decide) (by decide)).append <|
    (passes_number hlabel filtMcap).append (passes_word hlabel " " (by decide))
  refine parseF64After_eq ' '
    ("| ".toList ++ ((confirmText confirmTicks).toList ++ (dropText tickDrop).toList)) hbefore
    (by decide) ?_
  rw [toList_formatSlCloseReason]
  simp only [List.append_assoc]
  rfl

/-! ### The tick drop -/

/-- The text up to the confirmation. -/
def slBody : List Char :=
  slHead crash triggerPnl floor filtPnl rawPnl ++
    ("filt_mcap=".toList ++ (formatTenths filtMcap ++ (" ".toList ++
      ("raw_mcap=".toList ++ (formatTenths rawMcap ++ " | ".toList)))))

theorem passes_slBody : Passes "tick_drop=".toList
    (slBody crash triggerPnl floor filtPnl rawPnl filtMcap rawMcap) := by
  have hlabel : "tick_drop=" ∈ slLabels := by decide
  exact (passes_slHead crash triggerPnl floor filtPnl rawPnl hlabel).append <|
    (passes_label hlabel _ (by decide) (by decide)).append <| (passes_number hlabel _).append <|
    (passes_word hlabel _ (by decide)).append <|
    (passes_label hlabel _ (by decide) (by decide)).append <| (passes_number hlabel _).append <|
    passes_word hlabel _ (by decide)

theorem passes_ticks (n : ℕ) : Passes "tick_drop=".toList (toString n ++ " ticks").toList := by
  have hlabel : "tick_drop=" ∈ slLabels := by decide
  have hdigits : (toString n).toList = Nat.toDigits 10 n := by
    rw [Nat.toString_eq_ofList_toDigits, String.toList_ofList]
  rw [String.toList_append, hdigits]
  refine Passes.append (passes_letters hlabel ?_) (passes_word hlabel _ (by decide))
  intro c hc
  exact .inl (isDigit_of_mem_toDigits hc)

/-- In front of a tick drop the confirmation is passed over. -/
theorem passes_confirmText :
    Passes "tick_drop=".toList ((confirmText confirmTicks).toList ++ " ".toList) := by
  cases confirmTicks with
  | some n => exact (passes_ticks n).append (passes_word (by decide) " " (by decide))
  | none => exact passes_word (by decide) "instant " (by decide)

/-- The confirmation alone does not tell a tick drop. -/
theorem afterFirst_confirmText :
    afterFirst "tick_drop=".toList (confirmText confirmTicks).toList = none := by
  cases confirmTicks with
  | some n => exact (passes_ticks n).afterFirst_eq_none (by decide)
  | none => decide

theorem parse_tickDrop :
    parseTickDropPct (formatSlCloseReason crash triggerPnl floor filtPnl rawPnl filtMcap rawMcap
      confirmTicks tickDrop) = (tickDrop.filter (0 < ·)).map toTenths := by
  have htext : (formatSlCloseReason crash triggerPnl floor filtPnl rawPnl filtMcap rawMcap
      confirmTicks tickDrop).toList =
      slBody crash triggerPnl floor filtPnl rawPnl filtMcap rawMcap ++
        ((confirmText confirmTicks).toList ++ (dropText tickDrop).toList) := by
    rw [toList_formatSlCloseReason, slBody]
    simp only [List.append_assoc]
    rfl
  have hbody := passes_slBody crash triggerPnl floor filtPnl rawPnl filtMcap rawMcap
  cases hdrop : tickDrop.filter (0 < ·) with
  | none =>
    have hempty : (dropText tickDrop).toList = [] := by
      rw [dropText, hdrop]
      rfl
    rw [parseTickDropPct, parseF64After, htext, hbody, hempty, List.append_nil,
      afterFirst_confirmText]
    rfl
  | some d =>
    have htold : (dropText tickDrop).toList =
        " ".toList ++ ("tick_drop=".toList ++ (formatTenths d ++ ['%'])) := by
      rw [dropText, hdrop]
      simp only [showTenths, String.toList_append, String.toList_ofList, List.append_assoc]
      rfl
    refine parseF64After_eq '%' [] (hbody.append (passes_confirmText confirmTicks)) (by decide) ?_
    rw [htext, htold]
    simp only [List.append_assoc]

/-! ## The rule -/

theorem startsWith_slCrash :
    textStartsWith (formatSlCloseReason crash triggerPnl floor filtPnl rawPnl filtMcap rawMcap
      confirmTicks tickDrop) "SL CRASH" = crash := by
  rw [textStartsWith, toList_formatSlCloseReason]
  cases crash <;> rfl

theorem startsWith_sl :
    textStartsWith (formatSlCloseReason crash triggerPnl floor filtPnl rawPnl filtMcap rawMcap
      confirmTicks tickDrop) "SL " = true := by
  rw [textStartsWith, toList_formatSlCloseReason]
  cases crash <;> rfl

/-- The market cap has collapsed, from the filtered to the raw one. -/
def mcapCollapsed (cfg : DevBlacklistConfig) (filtMcap rawMcap : ℚ) : Prop :=
  0 < filtMcap ∧ rawMcap < filtMcap ∧
    cfg.permanentMinMcapDropPct ≤ (filtMcap - rawMcap) / filtMcap * 100

instance (cfg : DevBlacklistConfig) (filtMcap rawMcap : ℚ) :
    Decidable (mcapCollapsed cfg filtMcap rawMcap) :=
  inferInstanceAs (Decidable (_ ∧ _))

/-- **The rule.** A crash, a huge tick drop or a collapsed market cap is a rug spike and blocks for
good; a plain stop loss that is deep or has a moderate tick drop is a cooldown. -/
def slTier (cfg : DevBlacklistConfig) (crash : Bool) (tickDrop : Option ℚ)
    (filtMcap rawMcap pnlPctSol : ℚ) : Option DevBlacklistTier :=
  if cfg.enabled = false then none
  else if crash = true ∨ (∃ d ∈ tickDrop, cfg.permanentMinTickDropPct ≤ d) ∨
      mcapCollapsed cfg filtMcap rawMcap then some .permanentRug
  else if pnlPctSol ≤ cfg.minPnlPctForSl ∨ ∃ d ∈ tickDrop, cfg.minTickDropPct ≤ d then some .timed
  else none

variable (pnlPctSol : ℚ) (cfg : DevBlacklistConfig)

theorem any_le_iff (o : Option ℚ) (bound : ℚ) :
    o.any (bound ≤ ·) = true ↔ ∃ d ∈ o, bound ≤ d := by
  simp [Option.any_eq_true]

theorem isPermanentRugExit_iff :
    isPermanentRugExit (formatSlCloseReason crash triggerPnl floor filtPnl rawPnl filtMcap rawMcap
      confirmTicks tickDrop) cfg = true ↔
      crash = true ∨
        (∃ d ∈ (tickDrop.filter (0 < ·)).map toTenths, cfg.permanentMinTickDropPct ≤ d) ∨
        mcapCollapsed cfg (toTenths filtMcap) (toTenths rawMcap) := by
  have hmcap : (parseMcapDropPct (formatSlCloseReason crash triggerPnl floor filtPnl rawPnl
      filtMcap rawMcap confirmTicks tickDrop)).any (cfg.permanentMinMcapDropPct ≤ ·) = true ↔
      mcapCollapsed cfg (toTenths filtMcap) (toTenths rawMcap) := by
    rw [parseMcapDropPct, parse_filtMcap, parse_rawMcap, mcapCollapsed, ← and_assoc]
    by_cases hdrop : 0 < toTenths filtMcap ∧ toTenths rawMcap < toTenths filtMcap
    · simp [hdrop]
    · simp [hdrop]
  rw [isPermanentRugExit, startsWith_slCrash, parse_tickDrop, Bool.or_eq_true, Bool.or_eq_true,
    hmcap, or_assoc, any_le_iff]

/-- **The tier of a stop loss.** -/
theorem classify_formatSlCloseReason :
    classifyDevBlacklist (formatSlCloseReason crash triggerPnl floor filtPnl rawPnl filtMcap
      rawMcap confirmTicks tickDrop) pnlPctSol cfg =
      slTier cfg crash ((tickDrop.filter (0 < ·)).map toTenths) (toTenths filtMcap)
        (toTenths rawMcap) pnlPctSol := by
  have hrug := isPermanentRugExit_iff crash triggerPnl floor filtPnl rawPnl filtMcap rawMcap
    confirmTicks tickDrop cfg
  rw [classifyDevBlacklist, slTier, isTimedSlBlacklist, startsWith_sl, parse_tickDrop]
  simp only [← hrug]
  cases hon : cfg.enabled with
  | false => rfl
  | true =>
    cases isPermanentRugExit (formatSlCloseReason crash triggerPnl floor filtPnl rawPnl filtMcap
      rawMcap confirmTicks tickDrop) cfg with
    | true => rfl
    | false =>
      by_cases hdeep : pnlPctSol ≤ cfg.minPnlPctForSl
      · simp [hdeep]
      · simp only [hdeep, if_false, false_or, ← any_le_iff]
        rfl

end

/-- What the blacklist reads out of the text of a stop loss. -/
structure SlReasonRead (reason : String) (crash : Bool) (filtMcap rawMcap : ℚ)
    (tickDrop : Option ℚ) : Prop where
  tick_drop : parseTickDropPct reason = (tickDrop.filter (0 < ·)).map toTenths
  filt_mcap : parseF64After reason "filt_mcap=" = some (toTenths filtMcap)
  raw_mcap : parseF64After reason "raw_mcap=" = some (toTenths rawMcap)
  tier : ∀ pnlPctSol cfg, classifyDevBlacklist reason pnlPctSol cfg =
    slTier cfg crash ((tickDrop.filter (0 < ·)).map toTenths) (toTenths filtMcap)
      (toTenths rawMcap) pnlPctSol
  /-- Rounding moves a number by half a tenth at most. -/
  near : ∀ x ∈ [filtMcap, rawMcap] ++ tickDrop.toList, |toTenths x - x| ≤ 1 / 20

/-- **Round trip.** -/
theorem slReason_roundTrip (crash : Bool) (triggerPnl floor filtPnl rawPnl filtMcap rawMcap : ℚ)
    (confirmTicks : Option ℕ) (tickDrop : Option ℚ) :
    SlReasonRead (formatSlCloseReason crash triggerPnl floor filtPnl rawPnl filtMcap rawMcap
      confirmTicks tickDrop) crash filtMcap rawMcap tickDrop where
  tick_drop := parse_tickDrop ..
  filt_mcap := parse_filtMcap ..
  raw_mcap := parse_rawMcap ..
  tier pnlPctSol cfg := classify_formatSlCloseReason crash triggerPnl floor filtPnl rawPnl filtMcap
    rawMcap confirmTicks tickDrop pnlPctSol cfg
  near x _ := abs_toTenths_sub_le x

/-- A half goes to the even tenth. -/
example : formatSlCloseReason false (-18) 5 (-17) (-20) 50 (199 / 10) (some 2) (some (1145 / 20)) =
    "SL trigger_pnl=-18.0% floor=5.0% filt_pnl=-17.0% raw_pnl=-20.0% | filt_mcap=50.0 " ++
      "raw_mcap=19.9 | 2 ticks tick_drop=57.2%" := by
  decide +kernel

end Loggaper
