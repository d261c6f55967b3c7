import Loggaper.Lib.Decimal
import Mathlib.Data.Int.Log
import Mathlib.Data.Rat.Floor

/-!
# JSON values and their numbers

`F64` is a double: what is not finite, or a rational number. Each operation rounds its exact result
to the nearest double. Zero has no sign here.

`Json` keeps the three kinds of numbers apart: a `u64`, a negative integer, a float.
-/

inductive F64
  | nan
  | infinite (negative : Bool)
  | finite (x : ℚ)
  deriving DecidableEq, Repr

namespace F64

/-- The nearest double, of two as near the one with an even mantissa. -/
def round (x : ℚ) : F64 :=
  if x = 0 then finite 0
  else
    let unit : ℚ := 2 ^ (max (Int.log 2 |x|) (-1022) - 52)
    let magnitude : ℚ := Decimal.roundEven (|x| / unit) * unit
    if 2 ^ 1024 ≤ magnitude then infinite (decide (x < 0))
    else finite (if x < 0 then -magnitude else magnitude)

/-- `is_finite()`. -/
def isFinite : F64 → Bool
  | finite _ => true
  | _ => false

/-- `x > 0.0`. -/
def isPos : F64 → Bool
  | nan => false
  | infinite negative => !negative
  | finite x => decide (0 < x)

def isNeg : F64 → Bool
  | nan => false
  | infinite negative => negative
  | finite x => decide (x < 0)

def isZero : F64 → Bool
  | finite x => decide (x = 0)
  | _ => false

def mul (x y : F64) : F64 :=
  match x, y with
  | finite a, finite b => round (a * b)
  | nan, _ | _, nan => nan
  | x, y => if x.isZero || y.isZero then nan else infinite (x.isNeg != y.isNeg)

def div (x y : F64) : F64 :=
  match x, y with
  | finite a, finite b =>
    if b = 0 then if a = 0 then nan else infinite (decide (a < 0)) else round (a / b)
  | nan, _ | _, nan => nan
  | infinite _, infinite _ => nan
  | infinite negative, y => infinite (negative != y.isNeg)
  | finite _, infinite _ => finite 0

/-- `text.parse::<f64>()`. -/
def parse (text : String) : Option F64 :=
  let (negative, body) := Decimal.splitSign text.toList
  if body.map Char.toLower = ['n', 'a', 'n'] then some nan
  else if body.map Char.toLower = ['i', 'n', 'f'] ∨
      body.map Char.toLower = ['i', 'n', 'f', 'i', 'n', 'i', 't', 'y'] then
    some (infinite negative)
  else (Decimal.parse text.toList).map round

/-- A double that passes both checks is a positive number. -/
theorem exists_of_isFinite_isPos {x : F64} (h : (x.isFinite && x.isPos) = true) :
    ∃ q, x = finite q ∧ 0 < q := by
  cases x with
  | nan => exact absurd h (by simp [isFinite])
  | infinite negative => exact absurd h (by simp [isFinite])
  | finite q => exact ⟨q, rfl, by simpa [isFinite, isPos] using h⟩

example : round (1 / 10) = finite (3602879701896397 / 36028797018963968) := by decide +kernel

end F64

namespace Json

inductive Number
  | posInt (n : UInt64)
  | negInt (n : ℤ)
  | float (x : F64)

end Json

inductive Json
  | null
  | bool (b : Bool)
  | number (n : Json.Number)
  | string (s : String)
  | array (items : List Json)
  | object (fields : List (String × Json))

namespace Json

/-- `value.get(key)`. -/
def get (key : String) : Json → Option Json
  | object fields => fields.lookup key
  | _ => none

def asF64 : Json → Option F64
  | number (.posInt n) => some (F64.round n.toNat)
  | number (.negInt n) => some (F64.round n)
  | number (.float x) => some x
  | _ => none

def asU64 : Json → Option UInt64
  | number (.posInt n) => some n
  | _ => none

def asStr : Json → Option String
  | string s => some s
  | _ => none

end Json
