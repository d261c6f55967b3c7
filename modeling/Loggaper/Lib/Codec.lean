import Mathlib.Data.Vector.Basic
import Mathlib.Logic.Equiv.Defs
import Mathlib.Tactic.Ring

/-!
# Binary codecs

A codec writes values to bytes, or fails to, and reads them back from the front of an input. What
it reads is what was written, and nothing else can be read (`read_iff`), so a composed codec is
exact in both directions as soon as its parts are.

- `Format`: the bytes of a value when their number is known. `bits`, `array`, `flag`, `utf8`.
- `Codec.fixed`, `Codec.sized`: a format of fixed width, and one behind its length in a `u32`.
- `Codec.pair`, `Codec.congr`, `Codec.unit`: records.
-/

/-- The bytes of a value. Other bytes are not the bytes of any value. -/
structure Format (α : Type) where
  encode : α → List UInt8
  decode : List UInt8 → Option α
  decode_iff : ∀ bytes v, decode bytes = some v ↔ encode v = bytes

/-- Writing and reading a value at the front of an input. -/
structure Codec (α : Type) where
  write : α → Option (List UInt8)
  read : List UInt8 → Option (α × List UInt8)
  read_iff : ∀ input v rest,
    read input = some (v, rest) ↔ ∃ bytes, write v = some bytes ∧ input = bytes ++ rest

/-! ## Little endian -/

/-- The `n` low bytes of `x`, the lowest first. -/
def leBytes : ℕ → ℕ → List UInt8
  | 0, _ => []
  | n + 1, x => UInt8.ofNat x :: leBytes n (x / 256)

def ofLeBytes : List UInt8 → ℕ
  | [] => 0
  | b :: bytes => b.toNat + 256 * ofLeBytes bytes

@[simp] theorem length_leBytes (n x : ℕ) : (leBytes n x).length = n := by
  induction n generalizing x with
  | zero => rfl
  | succ n ih => rw [leBytes, List.length_cons, ih]

theorem ofLeBytes_leBytes (n x : ℕ) : ofLeBytes (leBytes n x) = x % 256 ^ n := by
  induction n generalizing x with
  | zero => rw [pow_zero, Nat.mod_one, leBytes, ofLeBytes]
  | succ n ih =>
    have hpow : 256 ^ (n + 1) = 256 * 256 ^ n := pow_succ' 256 n
    rw [leBytes, ofLeBytes, ih, UInt8.toNat_ofNat', hpow, Nat.mod_mul]

theorem ofLeBytes_lt (bytes : List UInt8) : ofLeBytes bytes < 256 ^ bytes.length := by
  induction bytes with
  | nil => exact Nat.one_pos
  | cons b bytes ih =>
    have hb : b.toNat < 256 := b.toNat_lt
    rw [ofLeBytes, List.length_cons, pow_succ]
    omega

theorem leBytes_ofLeBytes (bytes : List UInt8) :
    leBytes bytes.length (ofLeBytes bytes) = bytes := by
  induction bytes with
  | nil => rfl
  | cons b bytes ih =>
    have hb : b.toNat < 256 := b.toNat_lt
    have hlow : UInt8.ofNat (b.toNat + 256 * ofLeBytes bytes) = b := by
      rw [← UInt8.toNat_inj, UInt8.toNat_ofNat']
      omega
    have hhigh : (b.toNat + 256 * ofLeBytes bytes) / 256 = ofLeBytes bytes := by omega
    rw [ofLeBytes, List.length_cons, leBytes, hlow, hhigh, ih]

/-! ## Formats -/

namespace Format

/-- A number of `n` bytes. -/
def bits (n : ℕ) : Format (BitVec (8 * n)) where
  encode x := leBytes n x.toNat
  decode bytes := if bytes.length = n then some (BitVec.ofNat _ (ofLeBytes bytes)) else none
  decode_iff bytes x := by
    have hpow : 2 ^ (8 * n) = 256 ^ n := pow_mul 2 8 n
    constructor
    · intro h
      obtain ⟨hlength, hvalue⟩ := Option.ite_none_right_eq_some.mp h
      subst hlength
      have hx : x.toNat = ofLeBytes bytes := by
        rw [← Option.some_inj.mp hvalue, BitVec.toNat_ofNat, hpow,
          Nat.mod_eq_of_lt (ofLeBytes_lt bytes)]
      rw [hx, leBytes_ofLeBytes]
    · rintro rfl
      have hx : x.toNat < 256 ^ n := hpow ▸ x.isLt
      rw [length_leBytes, if_pos rfl, ofLeBytes_leBytes, Nat.mod_eq_of_lt hx,
        BitVec.ofNat_toNat, BitVec.setWidth_eq]

/-- `n` bytes as they are. -/
def array (n : ℕ) : Format (Vector UInt8 n) where
  encode v := v.toList
  decode bytes := if h : bytes.length = n then some ⟨bytes.toArray, h⟩ else none
  decode_iff bytes v := by
    constructor
    · intro h
      obtain ⟨hlength, hvalue⟩ := Option.dite_none_right_eq_some.mp h
      rw [← Option.some_inj.mp hvalue]
      rfl
    · rintro rfl
      rw [dif_pos v.length_toList]
      rfl

/-- A byte that is 0 or 1. -/
def flag : Format Bool where
  encode b := [if b then 1 else 0]
  decode
    | [0] => some false
    | [1] => some true
    | _ => none
  decode_iff bytes b := by
    constructor
    · intro h
      split at h <;> cases h <;> rfl
    · rintro rfl
      cases b <;> rfl

def utf8 : Format String where
  encode s := s.toByteArray.data.toList
  decode bytes := String.fromUTF8? ⟨bytes.toArray⟩
  decode_iff bytes s := by
    constructor
    · intro h
      obtain ⟨hvalid, hs⟩ := Option.dite_none_right_eq_some.mp h
      rw [← Option.some_inj.mp hs]
      rfl
    · rintro rfl
      exact dif_pos s.isValidUTF8

end Format

/-! ## Codecs -/

/-- The first `n` bytes, and what follows them. -/
def splitBytes (n : ℕ) (input : List UInt8) : Option (List UInt8 × List UInt8) :=
  if n ≤ input.length then some (input.take n, input.drop n) else none

theorem splitBytes_iff {n : ℕ} {input bytes rest : List UInt8} :
    splitBytes n input = some (bytes, rest) ↔ bytes.length = n ∧ input = bytes ++ rest := by
  constructor
  · intro h
    obtain ⟨hle, heq⟩ := Option.ite_none_right_eq_some.mp h
    obtain ⟨rfl, rfl⟩ := Prod.mk.inj (Option.some_inj.mp heq)
    exact ⟨List.length_take_of_le hle, (List.take_append_drop n input).symm⟩
  · rintro ⟨rfl, rfl⟩
    rw [splitBytes, if_pos (by simp), List.take_left, List.drop_left]

namespace Codec

variable {α β : Type}

/-- A format whose values all have `n` bytes. -/
def fixed (f : Format α) (n : ℕ) (hn : ∀ v, (f.encode v).length = n) : Codec α where
  write v := some (f.encode v)
  read input := do
    let (bytes, rest) ← splitBytes n input
    let v ← f.decode bytes
    some (v, rest)
  read_iff input v rest := by
    simp only [Option.bind_eq_bind, Option.bind_eq_some_iff, Prod.exists, splitBytes_iff,
      f.decode_iff, Option.some.injEq, Prod.mk.injEq]
    constructor
    · rintro ⟨bytes, rest', ⟨-, hinput⟩, w, hw, rfl, rfl⟩
      exact ⟨bytes, hw, hinput⟩
    · rintro ⟨bytes, hbytes, hinput⟩
      exact ⟨bytes, rest, ⟨hbytes ▸ hn v, hinput⟩, v, hbytes, rfl, rfl⟩

/-- A format behind its length in a `u32`. Longer values are not written. -/
def sized (f : Format α) : Codec α where
  write v :=
    if (f.encode v).length < 2 ^ 32 then
      some (leBytes 4 (f.encode v).length ++ f.encode v)
    else none
  read input := do
    let (length, input) ← splitBytes 4 input
    let (bytes, rest) ← splitBytes (ofLeBytes length) input
    let v ← f.decode bytes
    some (v, rest)
  read_iff input v rest := by
    simp only [Option.bind_eq_bind, Option.bind_eq_some_iff, Prod.exists, splitBytes_iff,
      f.decode_iff, Option.some.injEq, Prod.mk.injEq, Option.ite_none_right_eq_some]
    constructor
    · rintro ⟨length, input', ⟨hfour, hinput⟩, bytes, rest', ⟨hlength, rfl⟩, w, hw, rfl, rfl⟩
      subst hw
      refine ⟨_, ⟨?_, rfl⟩, ?_⟩
      · have hlt := ofLeBytes_lt length
        rw [hfour] at hlt
        rw [hlength]
        exact hlt
      · rw [hinput, hlength, ← hfour, leBytes_ofLeBytes, List.append_assoc]
    · rintro ⟨bytes, ⟨hlt, rfl⟩, hinput⟩
      refine ⟨_, _, ⟨length_leBytes 4 (f.encode v).length, by rw [hinput, List.append_assoc]⟩,
        f.encode v, rest, ⟨?_, rfl⟩, v, rfl, rfl, rfl⟩
      rw [ofLeBytes_leBytes]
      exact (Nat.mod_eq_of_lt hlt).symm

def unit : Codec Unit where
  write _ := some []
  read input := some ((), input)
  read_iff input v rest := by simp

/-- One value after the other. -/
def pair (c : Codec α) (d : Codec β) : Codec (α × β) where
  write v := do
    let first ← c.write v.1
    let second ← d.write v.2
    some (first ++ second)
  read input := do
    let (a, input) ← c.read input
    let (b, rest) ← d.read input
    some ((a, b), rest)
  read_iff input v rest := by
    obtain ⟨a, b⟩ := v
    simp only [Option.bind_eq_bind, Option.bind_eq_some_iff, Prod.exists, c.read_iff, d.read_iff,
      Option.some.injEq, Prod.mk.injEq]
    constructor
    · rintro ⟨a', input', ⟨first, hfirst, rfl⟩, b', rest', ⟨second, hsecond, rfl⟩, ⟨rfl, rfl⟩, rfl⟩
      exact ⟨_, ⟨first, hfirst, second, hsecond, rfl⟩, (List.append_assoc _ _ _).symm⟩
    · rintro ⟨-, ⟨first, hfirst, second, hsecond, rfl⟩, rfl⟩
      exact ⟨a, second ++ rest, ⟨first, hfirst, List.append_assoc _ _ _⟩, b, rest,
        ⟨second, hsecond, rfl⟩, ⟨rfl, rfl⟩, rfl⟩

/-- The same bytes for another type. -/
def congr (c : Codec α) (e : α ≃ β) : Codec β where
  write v := c.write (e.symm v)
  read input := (c.read input).map fun (v, rest) => (e v, rest)
  read_iff input v rest := by
    rw [← c.read_iff]
    simp only [Option.map_eq_some_iff, Prod.exists, Prod.mk.injEq]
    constructor
    · rintro ⟨a, rest', hread, rfl, rfl⟩
      rwa [e.symm_apply_apply]
    · exact fun hread => ⟨_, _, hread, e.apply_symm_apply v, rfl⟩

/-! ## Integers, flags, texts -/

def u8 : Codec UInt8 :=
  (fixed (Format.bits 1) 1 fun _ => length_leBytes _ _).congr
    ⟨UInt8.ofBitVec, UInt8.toBitVec, fun _ => rfl, fun _ => rfl⟩

def u32 : Codec UInt32 :=
  (fixed (Format.bits 4) 4 fun _ => length_leBytes _ _).congr
    ⟨UInt32.ofBitVec, UInt32.toBitVec, fun _ => rfl, fun _ => rfl⟩

def u64 : Codec UInt64 :=
  (fixed (Format.bits 8) 8 fun _ => length_leBytes _ _).congr
    ⟨UInt64.ofBitVec, UInt64.toBitVec, fun _ => rfl, fun _ => rfl⟩

def u128 : Codec (BitVec 128) := fixed (Format.bits 16) 16 fun _ => length_leBytes _ _

def bool : Codec Bool := fixed Format.flag 1 fun _ => rfl

def bytes (n : ℕ) : Codec (Vector UInt8 n) := fixed (Format.array n) n fun v => v.length_toList

def string : Codec String := sized Format.utf8

def i64 : Codec Int64 :=
  (fixed (Format.bits 8) 8 fun _ => length_leBytes _ _).congr
    ⟨Int64.ofBitVec, Int64.toBitVec, fun _ => rfl, fun _ => rfl⟩

/-! ## Sequences -/

/-- The values, one after the other. -/
def writeAll (c : Codec α) : List α → Option (List UInt8)
  | [] => some []
  | v :: vs => do
    let first ← c.write v
    let others ← c.writeAll vs
    some (first ++ others)

def readAll (c : Codec α) : ℕ → List UInt8 → Option (List α × List UInt8)
  | 0, input => some ([], input)
  | n + 1, input => do
    let (v, input) ← c.read input
    let (vs, rest) ← c.readAll n input
    some (v :: vs, rest)

theorem readAll_iff (c : Codec α) {n : ℕ} {input rest : List UInt8} {vs : List α} :
    c.readAll n input = some (vs, rest) ↔
      vs.length = n ∧ ∃ bytes, c.writeAll vs = some bytes ∧ input = bytes ++ rest := by
  induction n generalizing input rest vs with
  | zero =>
    simp only [readAll, Option.some.injEq, Prod.mk.injEq, List.length_eq_zero_iff]
    constructor
    · rintro ⟨rfl, rfl⟩
      exact ⟨rfl, [], rfl, rfl⟩
    · rintro ⟨rfl, bytes, hbytes, rfl⟩
      cases hbytes
      exact ⟨rfl, rfl⟩
  | succ n ih =>
    simp only [readAll, Option.bind_eq_bind, Option.bind_eq_some_iff, Prod.exists, c.read_iff, ih,
      Option.some.injEq, Prod.mk.injEq]
    constructor
    · rintro ⟨v, _, ⟨first, hfirst, rfl⟩, vs, rest, ⟨rfl, others, hothers, rfl⟩, rfl, rfl⟩
      refine ⟨rfl, first ++ others, ?_, (List.append_assoc _ _ _).symm⟩
      simp [writeAll, hfirst, hothers]
    · rintro ⟨hlength, bytes, hbytes, rfl⟩
      obtain ⟨v, vs, rfl⟩ := List.exists_cons_of_length_eq_add_one hlength
      simp only [writeAll, Option.bind_eq_bind, Option.bind_eq_some_iff, Option.some.injEq]
        at hbytes
      obtain ⟨first, hfirst, others, hothers, rfl⟩ := hbytes
      exact ⟨v, others ++ rest, ⟨first, hfirst, List.append_assoc _ _ _⟩, vs, rest,
        ⟨Nat.succ_injective hlength, others, hothers, rfl⟩, rfl, rfl⟩

/-- A sequence behind its number of values in a `u32`. -/
def vec (c : Codec α) : Codec (List α) where
  write vs :=
    if vs.length < 2 ^ 32 then (c.writeAll vs).map (leBytes 4 vs.length ++ ·) else none
  read input := do
    let (length, input) ← splitBytes 4 input
    c.readAll (ofLeBytes length) input
  read_iff input vs rest := by
    simp only [Option.bind_eq_bind, Option.bind_eq_some_iff, Prod.exists, splitBytes_iff,
      readAll_iff, Option.ite_none_right_eq_some, Option.map_eq_some_iff]
    constructor
    · rintro ⟨length, _, ⟨hfour, rfl⟩, hlength, bytes, hbytes, rfl⟩
      refine ⟨leBytes 4 vs.length ++ bytes, ⟨?_, bytes, hbytes, rfl⟩, ?_⟩
      · have hlt := ofLeBytes_lt length
        rw [hfour] at hlt
        rw [hlength]
        exact hlt
      · rw [hlength, ← hfour, leBytes_ofLeBytes, List.append_assoc]
    · rintro ⟨_, ⟨hlt, bytes, hbytes, rfl⟩, rfl⟩
      refine ⟨leBytes 4 vs.length, bytes ++ rest,
        ⟨length_leBytes 4 vs.length, List.append_assoc _ _ _⟩, ?_, bytes, hbytes, rfl⟩
      rw [ofLeBytes_leBytes]
      exact (Nat.mod_eq_of_lt hlt).symm

/-! ## What can be written -/

@[simp] theorem isSome_write_pair (c : Codec α) (d : Codec β) (v : α × β) :
    ((c.pair d).write v).isSome = ((c.write v.1).isSome && (d.write v.2).isSome) := by
  show ((c.write v.1).bind fun first => (d.write v.2).bind fun second =>
    some (first ++ second)).isSome = _
  cases c.write v.1 <;> cases d.write v.2 <;> rfl

@[simp] theorem isSome_write_congr (c : Codec α) (e : α ≃ β) (v : β) :
    ((c.congr e).write v).isSome = (c.write (e.symm v)).isSome := rfl

@[simp] theorem isSome_write_string (s : String) :
    (string.write s).isSome = decide (s.utf8ByteSize < 2 ^ 32) := by
  show (if s.utf8ByteSize < 2 ^ 32 then _ else none : Option _).isSome = _
  split_ifs with h
  · exact (decide_eq_true h).symm
  · exact (decide_eq_false h).symm

end Codec
