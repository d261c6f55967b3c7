import Mathlib.Data.List.Basic
import Mathlib.Data.Rat.Defs

/-!
# Structured values

What a JSON body and a YAML file parse to, and how a record is read from it: a field that must be
there, one with a default, one that may be `null`.
-/

inductive Value
  | null
  | bool (b : Bool)
  | num (x : ℚ)
  | str (s : String)
  | seq (items : List Value)
  | map (fields : List (String × Value))

namespace Value

def get? (key : String) : Value → Option Value
  | map fields => fields.lookup key
  | _ => none

def asBool : Value → Option Bool
  | bool b => some b
  | _ => none

def asNum : Value → Option ℚ
  | num x => some x
  | _ => none

def asStr : Value → Option String
  | str s => some s
  | _ => none

def asSeq : Value → Option (List Value)
  | seq items => some items
  | _ => none

/-- `null` is an answer of its own. -/
def nullable {α : Type*} (parse : Value → Option α) : Value → Option (Option α)
  | null => some none
  | v => (parse v).map some

/-- A field that must be there. -/
def field {α : Type*} (key : String) (parse : Value → Option α) (v : Value) : Option α :=
  (v.get? key).bind parse

/-- A field with a default. -/
def fieldOr {α : Type*} (key : String) (parse : Value → Option α) (default : α) (v : Value) :
    Option α :=
  match v.get? key with
  | none => some default
  | some x => parse x

/-- A text, or `null`. -/
def ofOption {α : Type*} (f : α → Value) : Option α → Value
  | none => null
  | some x => f x

/-- Set a field: in its place if it is there, last if it is new. -/
def setField (key : String) (v : Value) : List (String × Value) → List (String × Value)
  | [] => [(key, v)]
  | (k, w) :: rest => if key = k then (key, v) :: rest else (k, w) :: setField key v rest

/-- `insert` on a mapping; no other value has fields. -/
def insert (w : Value) (key : String) (v : Value) : Option Value :=
  match w with
  | map fields => some (map (setField key v fields))
  | _ => none

theorem lookup_cons_ite (k k' : String) (w : Value) (rest : List (String × Value)) :
    ((k', w) :: rest).lookup k = if k = k' then some w else rest.lookup k := by
  rw [List.lookup_cons]
  by_cases hk : k = k'
  · rw [if_pos hk, beq_iff_eq.mpr hk]
  · rw [if_neg hk, beq_eq_false_iff_ne.mpr hk]

theorem lookup_setField (key : String) (v : Value) (fields : List (String × Value)) (k : String) :
    (setField key v fields).lookup k = if k = key then some v else fields.lookup k := by
  induction fields with
  | nil => rw [setField, lookup_cons_ite]
  | cons f rest ih =>
    obtain ⟨k', w⟩ := f
    by_cases hk' : key = k'
    · rw [setField, if_pos hk', lookup_cons_ite, lookup_cons_ite]
      by_cases hk : k = key
      · rw [if_pos hk, if_pos hk]
      · rw [if_neg hk, if_neg hk, if_neg (fun h => hk (h.trans hk'.symm))]
    · rw [setField, if_neg hk', lookup_cons_ite, lookup_cons_ite, ih]
      by_cases hk : k = k'
      · rw [if_pos hk, if_pos hk, if_neg (fun h => hk' (h.symm.trans hk))]
      · rw [if_neg hk, if_neg hk]

/-- What a mapping holds after an insertion. -/
theorem get?_insert {key : String} {v w w' : Value} (h : w.insert key v = some w') (k : String) :
    w'.get? k = if k = key then some v else w.get? k := by
  cases w with
  | map fields =>
    rw [insert, Option.some.injEq] at h
    subst h
    exact lookup_setField key v fields k
  | _ => cases h

end Value
