import Mathlib.Tactic.Common

/-!
# Base64

Bytes as text in the standard alphabet, padded to groups of four characters. Only the canonical
text of some bytes is decoded: the padding must be there, and the bits that it leaves over must be
zero. So a text has bytes exactly if it is their encoding (`decode_iff`).
-/

namespace Base64

def alphabet : List Char :=
  "ABCDEFGHIJKLMNOPQRSTUVWXYZabcdefghijklmnopqrstuvwxyz0123456789+/".toList

def pad : Char := '='

/-- The character of a digit. -/
def digit (v : ℕ) : Char := alphabet.getD v pad

/-- The digit of a character. -/
def value (c : Char) : Option ℕ := alphabet.idxOf? c

/-! ## One group -/

def encodeOne (a : UInt8) : List Char :=
  let n := a.toNat * 16
  [digit (n / 64), digit (n % 64), pad, pad]

def encodeTwo (a b : UInt8) : List Char :=
  let n := (a.toNat * 256 + b.toNat) * 4
  [digit (n / 4096), digit (n / 64 % 64), digit (n % 64), pad]

def encodeThree (a b c : UInt8) : List Char :=
  let n := a.toNat * 65536 + b.toNat * 256 + c.toNat
  [digit (n / 262144), digit (n / 4096 % 64), digit (n / 64 % 64), digit (n % 64)]

def decodeOne (w x : Char) : Option (List UInt8) := do
  let w ← value w
  let x ← value x
  let n := w * 64 + x
  if n % 16 = 0 then some [.ofNat (n / 16)] else none

def decodeTwo (w x y : Char) : Option (List UInt8) := do
  let w ← value w
  let x ← value x
  let y ← value y
  let n := w * 4096 + x * 64 + y
  if n % 4 = 0 then some [.ofNat (n / 4 / 256), .ofNat (n / 4)] else none

def decodeThree (w x y z : Char) : Option (List UInt8) := do
  let w ← value w
  let x ← value x
  let y ← value y
  let z ← value z
  let n := w * 262144 + x * 4096 + y * 64 + z
  some [.ofNat (n / 65536), .ofNat (n / 256), .ofNat n]

/-! ## Texts -/

def encode : List UInt8 → List Char
  | a :: b :: c :: bytes => encodeThree a b c ++ encode bytes
  | [a, b] => encodeTwo a b
  | [a] => encodeOne a
  | [] => []

/-- Padding ends the text. -/
def decode : List Char → Option (List UInt8)
  | w :: x :: y :: z :: text =>
    if z = pad then
      if text ≠ [] then none else if y = pad then decodeOne w x else decodeTwo w x y
    else do
      let group ← decodeThree w x y z
      let bytes ← decode text
      some (group ++ bytes)
  | [] => some []
  | _ => none

/-! ## Digits -/

theorem value_digit {v : ℕ} (h : v < 64) : value (digit v) = some v := by
  have hall : ∀ v < 64, value (digit v) = some v := by decide +kernel
  exact hall v h

theorem digit_ne_pad {v : ℕ} (h : v < 64) : digit v ≠ pad := by
  have hall : ∀ v < 64, digit v ≠ pad := by decide +kernel
  exact hall v h

theorem value_eq_some {c : Char} {v : ℕ} (h : value c = some v) : v < 64 ∧ digit v = c := by
  obtain ⟨hv, hc, -⟩ := List.idxOf?_eq_some_iff.mp h
  refine ⟨hv, ?_⟩
  rw [digit, List.getD_eq_getElem?_getD, List.getElem?_eq_getElem hv, hc, Option.getD_some]

theorem value_iff {c : Char} {v : ℕ} : value c = some v ↔ v < 64 ∧ digit v = c := by
  constructor
  · exact value_eq_some
  · rintro ⟨hv, rfl⟩
    exact value_digit hv

/-! ## Groups -/

theorem toNat_ofNat_eq {n : ℕ} (h : n < 256) : (UInt8.ofNat n).toNat = n :=
  UInt8.toNat_ofNat_of_lt' h

theorem ofNat_eq {n : ℕ} {a : UInt8} (h : n = a.toNat) : UInt8.ofNat n = a := by
  rw [h, UInt8.ofNat_toNat]

theorem ofNat_eq_mod {n : ℕ} {a : UInt8} (h : n % 256 = a.toNat) : UInt8.ofNat n = a := by
  rw [← UInt8.toNat_inj, UInt8.toNat_ofNat', h]

theorem decodeOne_iff {w x : Char} {bytes : List UInt8} :
    decodeOne w x = some bytes ↔ ∃ a, bytes = [a] ∧ encodeOne a = [w, x, pad, pad] := by
  simp only [decodeOne, encodeOne, Option.bind_eq_bind, Option.bind_eq_some_iff, value_iff,
    Option.ite_none_right_eq_some, Option.some.injEq, List.cons.injEq, and_true]
  constructor
  · rintro ⟨v, ⟨hv, rfl⟩, u, ⟨hu, rfl⟩, hzero, rfl⟩
    refine ⟨_, rfl, ?_⟩
    rw [toNat_ofNat_eq (by omega)]
    constructor <;> congr 1 <;> omega
  · rintro ⟨a, rfl, rfl, rfl⟩
    have ha := a.toNat_lt
    refine ⟨_, ⟨by omega, rfl⟩, _, ⟨by omega, rfl⟩, by omega, ?_⟩
    rw [ofNat_eq (a := a) (by omega)]

theorem decodeTwo_iff {w x y : Char} {bytes : List UInt8} :
    decodeTwo w x y = some bytes ↔ ∃ a b, bytes = [a, b] ∧ encodeTwo a b = [w, x, y, pad] := by
  simp only [decodeTwo, encodeTwo, Option.bind_eq_bind, Option.bind_eq_some_iff, value_iff,
    Option.ite_none_right_eq_some, Option.some.injEq, List.cons.injEq, and_true]
  constructor
  · rintro ⟨v, ⟨hv, rfl⟩, u, ⟨hu, rfl⟩, t, ⟨ht, rfl⟩, hzero, rfl⟩
    refine ⟨_, _, rfl, ?_⟩
    rw [toNat_ofNat_eq (by omega), UInt8.toNat_ofNat']
    refine ⟨?_, ?_, ?_⟩ <;> congr 1 <;> omega
  · rintro ⟨a, b, rfl, rfl, rfl, rfl⟩
    have ha := a.toNat_lt
    have hb := b.toNat_lt
    refine ⟨_, ⟨by omega, rfl⟩, _, ⟨by omega, rfl⟩, _, ⟨by omega, rfl⟩, by omega, ?_⟩
    rw [ofNat_eq (a := a) (by omega), ofNat_eq_mod (a := b) (by omega)]

theorem decodeThree_iff {w x y z : Char} {bytes : List UInt8} :
    decodeThree w x y z = some bytes ↔
      ∃ a b c, bytes = [a, b, c] ∧ encodeThree a b c = [w, x, y, z] := by
  simp only [decodeThree, encodeThree, Option.bind_eq_bind, Option.bind_eq_some_iff, value_iff,
    Option.some.injEq, List.cons.injEq, and_true]
  constructor
  · rintro ⟨v, ⟨hv, rfl⟩, u, ⟨hu, rfl⟩, t, ⟨ht, rfl⟩, r, ⟨hr, rfl⟩, rfl⟩
    refine ⟨_, _, _, rfl, ?_⟩
    rw [toNat_ofNat_eq (by omega), UInt8.toNat_ofNat', UInt8.toNat_ofNat']
    refine ⟨?_, ?_, ?_, ?_⟩ <;> congr 1 <;> omega
  · rintro ⟨a, b, c, rfl, rfl, rfl, rfl, rfl⟩
    have ha := a.toNat_lt
    have hb := b.toNat_lt
    have hc := c.toNat_lt
    refine ⟨_, ⟨by omega, rfl⟩, _, ⟨by omega, rfl⟩, _, ⟨by omega, rfl⟩, _, ⟨by omega, rfl⟩, ?_⟩
    rw [ofNat_eq (a := a) (by omega), ofNat_eq_mod (a := b) (by omega),
      ofNat_eq_mod (a := c) (by omega)]

/-- A full group does not end in padding. -/
theorem encodeThree_ne_pad {a b c : UInt8} {w x y z : Char}
    (h : encodeThree a b c = [w, x, y, z]) : z ≠ pad := by
  simp only [encodeThree, List.cons.injEq, and_true] at h
  rw [← h.2.2.2]
  exact digit_ne_pad (by omega)

theorem encodeTwo_ne_pad {a b : UInt8} {w x y z : Char} (h : encodeTwo a b = [w, x, y, z]) :
    y ≠ pad := by
  simp only [encodeTwo, List.cons.injEq, and_true] at h
  rw [← h.2.2.1]
  exact digit_ne_pad (by omega)

/-! ## The whole text -/

theorem decode_encode (bytes : List UInt8) : decode (encode bytes) = some bytes := by
  induction bytes using encode.induct with
  | case1 a b c bytes ih =>
    obtain ⟨w, x, y, z, hgroup⟩ : ∃ w x y z, encodeThree a b c = [w, x, y, z] :=
      ⟨_, _, _, _, rfl⟩
    have hdecode : decodeThree w x y z = some [a, b, c] :=
      decodeThree_iff.mpr ⟨a, b, c, rfl, hgroup⟩
    rw [encode, hgroup]
    simp only [List.cons_append, List.nil_append, decode]
    rw [if_neg (encodeThree_ne_pad hgroup), hdecode, ih]
    rfl
  | case2 a b =>
    obtain ⟨w, x, y, hgroup⟩ : ∃ w x y, encodeTwo a b = [w, x, y, pad] := ⟨_, _, _, rfl⟩
    have hdecode : decodeTwo w x y = some [a, b] := decodeTwo_iff.mpr ⟨a, b, rfl, hgroup⟩
    rw [encode, hgroup, decode, if_pos rfl, if_neg (by simp), if_neg (encodeTwo_ne_pad hgroup),
      hdecode]
  | case3 a =>
    obtain ⟨w, x, hgroup⟩ : ∃ w x, encodeOne a = [w, x, pad, pad] := ⟨_, _, rfl⟩
    have hdecode : decodeOne w x = some [a] := decodeOne_iff.mpr ⟨a, rfl, hgroup⟩
    rw [encode, hgroup, decode, if_pos rfl, if_neg (by simp), if_pos rfl, hdecode]
  | case4 => rfl

theorem encode_of_decode {text : List Char} {bytes : List UInt8} (h : decode text = some bytes) :
    encode bytes = text := by
  induction text using decode.induct generalizing bytes with
  | case1 w x y text htext =>
    rw [decode, if_pos rfl, if_pos htext] at h
    cases h
  | case2 w x text htext =>
    rw [decode, if_pos rfl, if_neg htext, if_pos rfl, decodeOne_iff] at h
    obtain ⟨a, rfl, hgroup⟩ := h
    rw [encode, hgroup, not_ne_iff.mp htext]
  | case3 w x y text htext hy =>
    rw [decode, if_pos rfl, if_neg htext, if_neg hy, decodeTwo_iff] at h
    obtain ⟨a, b, rfl, hgroup⟩ := h
    rw [encode, hgroup, not_ne_iff.mp htext]
  | case4 w x y z text hz ih =>
    rw [decode, if_neg hz] at h
    obtain ⟨group, hgroup, bytes', htext, hbytes⟩ :
        ∃ group, decodeThree w x y z = some group ∧
          ∃ bytes', decode text = some bytes' ∧ group ++ bytes' = bytes := by
      simpa only [Option.bind_eq_bind, Option.bind_eq_some_iff, Option.some.injEq] using h
    obtain ⟨a, b, c, rfl, hthree⟩ := decodeThree_iff.mp hgroup
    rw [← hbytes, List.cons_append, List.cons_append, List.cons_append, List.nil_append, encode,
      hthree, ih htext]
    rfl
  | case5 =>
    cases h
    rfl
  | case6 text hfour hnil =>
    rw [decode] at h
    · cases h
    · exact hfour
    · exact hnil

/-- A text is decoded to some bytes exactly if it is their encoding. -/
theorem decode_iff {text : List Char} {bytes : List UInt8} :
    decode text = some bytes ↔ encode bytes = text := by
  constructor
  · exact encode_of_decode
  · rintro rfl
    exact decode_encode bytes

end Base64
