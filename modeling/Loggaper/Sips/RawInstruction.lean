import Loggaper.Lib.Codec

/-!
# Instruction data

The data of an instruction is a discriminator, which names the instruction, and the arguments in
borsh. `fromBytes` accepts the bytes that `toLeBytes` writes and no others (`fromBytes_iff`).
-/

namespace Loggaper.Sips

/-- The errors of the instruction parser. -/
inductive Error
  | instructionDataIsTooSmall
  | invalidDiscriminator
  | invalidInstructionSize
  | invalidInstructionData
  deriving DecidableEq, Repr

/-- `InstructionArgs`. -/
structure InstructionArgs (Args : Type) where
  discriminator : List UInt8
  borsh : Codec Args

/-- `data.get(..n)`. -/
def getTo (data : List UInt8) (n : ℕ) : Option (List UInt8) :=
  if n ≤ data.length then some (data.take n) else none

/-- `data.get(n..)`. -/
def getFrom (data : List UInt8) (n : ℕ) : Option (List UInt8) :=
  if n ≤ data.length then some (data.drop n) else none

/-- `ok_or`. -/
def okOr {α : Type} (x : Option α) (e : Error) : Except Error α :=
  match x with
  | some a => .ok a
  | none => .error e

/-- `borsh::from_slice`: every byte has to be read. -/
def fromSlice {Args : Type} (c : Codec Args) (data : List UInt8) : Option Args :=
  match c.read data with
  | some (v, []) => some v
  | _ => none

namespace InstructionArgs

variable {Args : Type} (i : InstructionArgs Args)

/-- `from_bytes`. -/
def fromBytes (data : List UInt8) : Except Error Args := do
  let discriminatorSize := i.discriminator.length
  let discriminator ← okOr (getTo data discriminatorSize) .instructionDataIsTooSmall
  if i.discriminator ≠ discriminator then .error .invalidDiscriminator
  else
    let data ← okOr (getFrom data discriminatorSize) .invalidInstructionSize
    okOr (fromSlice i.borsh data) .invalidInstructionData

/-- `to_le_bytes`. Arguments that borsh does not write stop the task (`none`). -/
def toLeBytes (v : Args) : Option (List UInt8) :=
  (i.borsh.write v).map (i.discriminator ++ ·)

theorem fromSlice_iff (c : Codec Args) (data : List UInt8) (v : Args) :
    fromSlice c data = some v ↔ c.write v = some data := by
  have hread := c.read_iff data v []
  simp only [List.append_nil, exists_eq_right'] at hread
  rw [← hread]
  unfold fromSlice
  split
  · rename_i w h
    rw [h]
    simp
  · rename_i h
    refine ⟨fun hnone => absurd hnone (by simp), fun hsome => ?_⟩
    exact absurd hsome (h v)

/-- Data shorter than the discriminator, other data, and the discriminator with what follows it. -/
theorem fromBytes_append {front : List UInt8} (hfront : front.length = i.discriminator.length)
    (body : List UInt8) :
    i.fromBytes (front ++ body) =
      if front = i.discriminator then okOr (fromSlice i.borsh body) .invalidInstructionData
      else .error .invalidDiscriminator := by
  have hle : i.discriminator.length ≤ (front ++ body).length := by
    rw [List.length_append]
    omega
  have hto : getTo (front ++ body) i.discriminator.length = some front := by
    rw [getTo, if_pos hle, ← hfront, List.take_left]
  have hfrom : getFrom (front ++ body) i.discriminator.length = some body := by
    rw [getFrom, if_pos hle, ← hfront, List.drop_left]
  simp only [fromBytes, hto, hfrom]
  by_cases heq : front = i.discriminator
  · rw [if_pos heq]
    exact if_neg (not_not_intro heq.symm)
  · rw [if_neg heq]
    exact if_pos (Ne.symm heq)

theorem fromBytes_short {data : List UInt8} (h : data.length < i.discriminator.length) :
    i.fromBytes data = .error .instructionDataIsTooSmall := by
  have hto : getTo data i.discriminator.length = none := if_neg (not_le.mpr h)
  rw [fromBytes, hto]
  rfl

/-- **Exact in both directions.** -/
theorem fromBytes_iff (data : List UInt8) (v : Args) :
    i.fromBytes data = .ok v ↔ i.toLeBytes v = some data := by
  rw [toLeBytes, Option.map_eq_some_iff]
  by_cases hlength : data.length < i.discriminator.length
  · rw [i.fromBytes_short hlength]
    constructor
    · exact fun h => absurd h (by simp)
    · rintro ⟨body, -, rfl⟩
      rw [List.length_append] at hlength
      omega
  · have hsplit := List.take_append_drop i.discriminator.length data
    have hfront : (data.take i.discriminator.length).length = i.discriminator.length :=
      List.length_take_of_le (not_lt.mp hlength)
    rw [← hsplit, i.fromBytes_append hfront]
    split_ifs with heq
    · rw [heq]
      simp only [List.append_cancel_left_eq, exists_eq_right, ← fromSlice_iff]
      cases fromSlice i.borsh (data.drop i.discriminator.length) <;> simp [okOr]
    · constructor
      · exact fun h => absurd h (by simp)
      · rintro ⟨body, -, happend⟩
        exact absurd (List.append_inj_left happend hfront.symm).symm heq

/-- The data of an instruction is no data of another one. -/
theorem fromBytes_other {Other : Type} {j : InstructionArgs Other}
    (hlength : i.discriminator.length = j.discriminator.length)
    (hne : i.discriminator ≠ j.discriminator) {v : Args} {data : List UInt8}
    (h : i.toLeBytes v = some data) : j.fromBytes data = .error .invalidDiscriminator := by
  obtain ⟨body, -, rfl⟩ := Option.map_eq_some_iff.mp h
  rw [j.fromBytes_append hlength, if_neg hne]

end InstructionArgs

end Loggaper.Sips
