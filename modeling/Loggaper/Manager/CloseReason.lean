import Loggaper.Autobuy.DevBlacklist
import Loggaper.Manager.Config

/-!
# The texts of the close reasons

What the exits pass on to the records of a close is a text. Only the text of a stop loss has a
label that the developers' blacklist looks for, so no other exit puts a developer there.

Main result: `classify_text`, the tier of any close, from what its exit saw.
-/

namespace Loggaper

open Search Decimal

/-! ## Writing -/

def ExitProfile.asStr : ExitProfile → String
  | weak => "weak"
  | neutral => "neutral"
  | strong => "strong"
  | runner => "runner"

def PositionPhase.asStr : PositionPhase → String
  | exploration => "exploration"
  | momentum => "momentum"
  | expansion => "expansion"
  | distribution => "distribution"

def TpLevel.number : TpLevel → String
  | tp1 => "1"
  | tp2 => "2"
  | tp3 => "3"
  | tp4 => "4"
  | tp5 => "5"

def minusOf (negative : Bool) : String := if negative then "-" else ""

/-- `{x:.0}`. -/
def showWhole (x : ℚ) : String := minusOf (x < 0) ++ toString (roundEven |x|)

/-- `{x:.2}`. -/
def showHundredths (x : ℚ) : String :=
  minusOf (x < 0) ++ String.ofList (formatFixed 2 (roundEven (|x| * 100)))

def showInt (z : ℤ) : String := minusOf (z < 0) ++ toString z.natAbs

/-- The state of the position, when the exit engine keeps one. -/
def tpStateText (pct : ℚ) : Option (ExitProfile × PositionPhase) → String
  | some (profile, phase) =>
    " (" ++ showWhole pct ++ "%) [" ++ profile.asStr ++ "|" ++ phase.asStr ++ "]"
  | none => ""

def SellReason.text : SellReason → String
  | momentumDecay phase ticks recovery =>
    "MOMENTUM DECAY " ++ (phase.elim "" fun p => "[" ++ p.asStr ++ "] ") ++ "(" ++ toString ticks ++
      " ticks, rec=" ++ showInt recovery ++ ")"
  | timeKill => "TIME KILL"
  | stopLoss crash triggerPnl floor filtPnl rawPnl filtMcap rawMcap confirmTicks tickDrop =>
    formatSlCloseReason crash triggerPnl floor filtPnl rawPnl filtMcap rawMcap confirmTicks tickDrop
  | mcapCeiling sellPct => "MCAP CEILING (" ++ showWhole sellPct ++ "% lock, moonbag)"
  | trailingExit drawdownPct =>
    "TRAILING EXIT" ++ drawdownPct.elim "" fun d => " (" ++ showWhole d ++ "% trail)"
  | takeProfit n pct state => "TP" ++ n.number ++ tpStateText pct state
  | fillMcapAbort adverse ratio bound scoreMcap fillMcap =>
    if adverse then
      "FILL MCAP ADVERSE ABORT (" ++ showHundredths ratio ++ "x < " ++ showHundredths bound ++
        "x: score " ++ showTenths scoreMcap ++ "→fill " ++ showTenths fillMcap ++ " SOL)"
    else
      "FILL MCAP SPIKE ABORT (" ++ showHundredths ratio ++ "x > " ++ showHundredths bound ++
        "x: " ++ showTenths scoreMcap ++ "→" ++ showTenths fillMcap ++ " SOL)"

/-! ## The blacklist's row -/

def cliffReasonTag (closeReason : String) : String :=
  if textStartsWith closeReason "SL CRASH" then "SL CRASH"
  else if textStartsWith closeReason "SL " then "SL"
  else "cliff exit"

def permanentRugLabel (closeReason : String) : String :=
  if textStartsWith closeReason "SL CRASH" then "SL CRASH rug"
  else if (parseTickDropPct closeReason).any (55 ≤ ·) then "instant dump rug"
  else "mcap collapse rug"

/-- A half is rounded away from zero. -/
def showRounded (x : ℚ) : String := minusOf (x < 0) ++ toString ⌊|x| + 1 / 2⌋₊

def buildBlacklistReason (tier : DevBlacklistTier) (closeReason : String) (pnlPctSol : ℚ) :
    String :=
  match tier with
  | .permanentRug => "dev_blacklist_permanent: " ++ permanentRugLabel closeReason
  | .timed => cliffReasonTag closeReason ++ " " ++ showRounded pnlPctSol ++ "%"

/-! ## Letters -/

/-- Every label that the blacklist looks for has an underscore. -/
def Plain (s : String) : Prop := '_' ∉ s.toList

instance (s : String) : Decidable (Plain s) := inferInstanceAs (Decidable (¬ _))

theorem Plain.append {s t : String} (hs : Plain s) (ht : Plain t) : Plain (s ++ t) := by
  rw [Plain, String.toList_append, List.mem_append]
  exact fun h => h.elim hs ht

theorem plain_ofList {s : List Char} (h : ∀ c ∈ s, c.isDigit = true ∨ c = '.' ∨ c = '-') :
    Plain (String.ofList s) := by
  intro hmem
  rw [String.toList_ofList] at hmem
  exact absurd (h '_' hmem) (by decide)

theorem plain_toString (n : ℕ) : Plain (toString n) := by
  rw [Nat.toString_eq_ofList_toDigits]
  exact plain_ofList fun c hc => .inl (isDigit_of_mem_toDigits hc)

theorem plain_minusOf (negative : Bool) : Plain (minusOf negative) := by
  cases negative <;> decide

theorem plain_showWhole (x : ℚ) : Plain (showWhole x) :=
  (plain_minusOf _).append (plain_toString _)

theorem plain_showInt (z : ℤ) : Plain (showInt z) := (plain_minusOf _).append (plain_toString _)

theorem plain_showTenths (x : ℚ) : Plain (showTenths x) :=
  plain_ofList fun _ hc => letters_formatTenths hc

theorem plain_showHundredths (x : ℚ) : Plain (showHundredths x) := by
  refine (plain_minusOf _).append (plain_ofList fun c hc => ?_)
  rcases List.mem_append.mp hc with hwhole | hrest
  · exact .inl (isDigit_of_mem_toDigits hwhole)
  · rcases List.mem_cons.mp hrest with hpoint | hdigit
    · exact .inr (.inl hpoint)
    · exact .inl (isDigit_of_mem_leftpad hdigit)

theorem plain_profile (p : ExitProfile) : Plain p.asStr := by
  cases p <;> decide

theorem plain_phase (p : PositionPhase) : Plain p.asStr := by
  cases p <;> decide

theorem plain_number (n : TpLevel) : Plain n.number := by
  cases n <;> decide

theorem plain_tpStateText (pct : ℚ) (state : Option (ExitProfile × PositionPhase)) :
    Plain (tpStateText pct state) := by
  cases state with
  | none =>
    show Plain ""
    decide
  | some s =>
    have hpct : Plain (" (" ++ showWhole pct ++ "%) [") :=
      (Plain.append (by decide) (plain_showWhole pct)).append (by decide)
    exact (((hpct.append (plain_profile s.1)).append (by decide)).append
      (plain_phase s.2)).append (by decide)

/-- Not the reason of a stop loss. -/
def SellReason.isStopLoss : SellReason → Bool
  | stopLoss .. => true
  | _ => false

theorem plain_text {reason : SellReason} (h : reason.isStopLoss = false) : Plain reason.text := by
  cases reason with
  | stopLoss => cases h
  | timeKill =>
    show Plain "TIME KILL"
    decide
  | momentumDecay phase ticks recovery =>
    have hphase : Plain (phase.elim "" fun p => "[" ++ p.asStr ++ "] ") := by
      cases phase with
      | none => decide
      | some p => exact (Plain.append (by decide) (plain_phase p)).append (by decide)
    have hrecovery := plain_showInt recovery
    exact (((((Plain.append (by decide) hphase).append (by decide)).append
      (plain_toString ticks)).append (by decide)).append hrecovery).append (by decide)
  | mcapCeiling sellPct => exact (Plain.append (by decide) (plain_showWhole _)).append (by decide)
  | trailingExit drawdownPct =>
    refine Plain.append (by decide) ?_
    cases drawdownPct with
    | none => decide
    | some d => exact (Plain.append (by decide) (plain_showWhole d)).append (by decide)
  | takeProfit n pct state =>
    exact (Plain.append (by decide) (plain_number n)).append (plain_tpStateText pct state)
  | fillMcapAbort adverse ratio bound scoreMcap fillMcap =>
    have hratio := plain_showHundredths ratio
    have hbound := plain_showHundredths bound
    have hscore := plain_showTenths scoreMcap
    have hfill := plain_showTenths fillMcap
    cases adverse
    · exact (((((((Plain.append (by decide) hratio).append (by decide)).append hbound).append
        (by decide)).append hscore).append (by decide)).append hfill).append (by decide)
    · exact (((((((Plain.append (by decide) hratio).append (by decide)).append hbound).append
        (by decide)).append hscore).append (by decide)).append hfill).append (by decide)

/-! ## The tier of a close -/

/-- A label is not found in a plain text. -/
theorem parseF64After_of_plain {s label : String} (hs : Plain s) (hlabel : '_' ∈ label.toList) :
    parseF64After s label = none := by
  rw [parseF64After, afterFirst_eq_none_of_notMem hlabel hs]
  rfl

def Begins (a : Char) (s : String) : Prop := s.toList.head? = some a

instance (a : Char) (s : String) : Decidable (Begins a s) := inferInstanceAs (Decidable (_ = _))

theorem Begins.append {a : Char} {s t : String} (h : Begins a s) : Begins a (s ++ t) := by
  rw [Begins] at h ⊢
  rw [String.toList_append, List.head?_append, h, Option.some_or]

theorem Begins.startsWith {a b : Char} {s start : String} (h : Begins a s) (hstart : Begins b start)
    (hne : b ≠ a) : textStartsWith s start = false := by
  obtain ⟨s', hs⟩ := List.head?_eq_some_iff.mp h
  obtain ⟨t', ht⟩ := List.head?_eq_some_iff.mp hstart
  rw [textStartsWith, hs, ht, List.isPrefixOf, beq_false_of_ne hne, Bool.false_and]

/-- Only the text of a stop loss begins like one. -/
theorem begins_text {reason : SellReason} (h : reason.isStopLoss = false) :
    ∃ a, a ≠ 'S' ∧ Begins a reason.text := by
  cases reason with
  | stopLoss => cases h
  | timeKill =>
    refine ⟨'T', by decide, ?_⟩
    show Begins 'T' "TIME KILL"
    decide
  | momentumDecay phase ticks recovery =>
    have hword : Begins 'M' "MOMENTUM DECAY " := by decide
    exact ⟨'M', by decide, hword.append.append.append.append.append.append⟩
  | mcapCeiling sellPct =>
    have hword : Begins 'M' "MCAP CEILING (" := by decide
    exact ⟨'M', by decide, hword.append.append⟩
  | trailingExit drawdownPct =>
    have hword : Begins 'T' "TRAILING EXIT" := by decide
    exact ⟨'T', by decide, hword.append⟩
  | takeProfit n pct state =>
    have hword : Begins 'T' "TP" := by decide
    exact ⟨'T', by decide, hword.append.append⟩
  | fillMcapAbort adverse ratio bound scoreMcap fillMcap =>
    refine ⟨'F', by decide, ?_⟩
    cases adverse
    · have hword : Begins 'F' "FILL MCAP SPIKE ABORT (" := by decide
      exact hword.append.append.append.append.append.append.append.append
    · have hword : Begins 'F' "FILL MCAP ADVERSE ABORT (" := by decide
      exact hword.append.append.append.append.append.append.append.append

/-- The tier of a close: only a stop loss has one. -/
def SellReason.devTier (cfg : DevBlacklistConfig) (pnlPctSol : ℚ) :
    SellReason → Option DevBlacklistTier
  | stopLoss crash _ _ _ _ filtMcap rawMcap _ tickDrop =>
    slTier cfg crash ((tickDrop.filter (0 < ·)).map toTenths) (toTenths filtMcap)
      (toTenths rawMcap) pnlPctSol
  | _ => none

/-- **What the blacklist reads out of a text** is what the exit saw, rounded to one decimal. -/
theorem classify_text (cfg : DevBlacklistConfig) (pnlPctSol : ℚ) (reason : SellReason) :
    classifyDevBlacklist reason.text pnlPctSol cfg = reason.devTier cfg pnlPctSol := by
  cases h : reason.isStopLoss with
  | true =>
    cases reason with
    | stopLoss => exact classify_formatSlCloseReason ..
    | _ => cases h
  | false =>
    obtain ⟨a, hne, hbegins⟩ := begins_text h
    have hcrash : textStartsWith reason.text "SL CRASH" = false :=
      hbegins.startsWith (b := 'S') (by decide) hne.symm
    have hsl : textStartsWith reason.text "SL " = false :=
      hbegins.startsWith (b := 'S') (by decide) hne.symm
    have hplain := plain_text h
    have hrug : isPermanentRugExit reason.text cfg = false := by
      simp only [isPermanentRugExit, hcrash, parseTickDropPct, parseMcapDropPct,
        parseF64After_of_plain hplain (by decide : '_' ∈ "tick_drop=".toList),
        parseF64After_of_plain hplain (by decide : '_' ∈ "filt_mcap=".toList)]
      rfl
    have htimed : isTimedSlBlacklist reason.text pnlPctSol cfg = false := by
      simp [isTimedSlBlacklist, hrug, hsl]
    have hnone : classifyDevBlacklist reason.text pnlPctSol cfg = none := by
      simp [classifyDevBlacklist, hrug, htimed]
    rw [hnone]
    cases reason with
    | stopLoss => cases h
    | _ => rfl

end Loggaper
