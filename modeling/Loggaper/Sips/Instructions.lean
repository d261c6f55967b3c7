import Loggaper.Sips.RawInstruction

/-!
# The instruction set

The arguments of the pump, token and compute budget instructions, with their discriminators, and
their layout in borsh.

Main result: `instructionCodec`.
-/

namespace Loggaper.Sips

/-! ## Fields -/

structure Link where
  url : String

/-- An amount of base units; `precision` is its number of decimals. -/
structure Amount (precision : ℕ) where
  raw : UInt64

abbrev Address := Vector UInt8 32

structure OptionBool where
  value : Bool

def nativeSolPrecision : ℕ := 9

def pumpSplPrecision : ℕ := 6

namespace Codec

def link : Codec Link := Codec.string.congr ⟨Link.mk, Link.url, fun _ => rfl, fun _ => rfl⟩

def amount (precision : ℕ) : Codec (Amount precision) :=
  Codec.u64.congr ⟨Amount.mk, Amount.raw, fun _ => rfl, fun _ => rfl⟩

def address : Codec Address := Codec.bytes 32

def optionBool : Codec OptionBool :=
  Codec.bool.congr ⟨OptionBool.mk, OptionBool.value, fun _ => rfl, fun _ => rfl⟩

end Codec

/-! ## Pump -/

structure PumpMetadata where
  name : String
  symbol : String
  uri : Link

def Codec.pumpMetadata : Codec PumpMetadata :=
  (Codec.string.pair (Codec.string.pair Codec.link)).congr
    ⟨fun v => ⟨v.1, v.2.1, v.2.2⟩, fun m => (m.name, m.symbol, m.uri), fun _ => rfl, fun _ => rfl⟩

structure PumpCreateInstruction where
  metadata : PumpMetadata
  creator : Address

def PumpCreateInstruction.args : InstructionArgs PumpCreateInstruction where
  discriminator := [24, 30, 200, 40, 5, 28, 7, 119]
  borsh := (Codec.pumpMetadata.pair Codec.address).congr
    ⟨fun v => ⟨v.1, v.2⟩, fun a => (a.metadata, a.creator), fun _ => rfl, fun _ => rfl⟩

structure PumpCreateV2Instruction where
  metadata : PumpMetadata
  creator : Address
  mayhem : Bool
  isCashbackEnabled : OptionBool

def PumpCreateV2Instruction.args : InstructionArgs PumpCreateV2Instruction where
  discriminator := [214, 144, 76, 236, 95, 139, 49, 180]
  borsh := (Codec.pumpMetadata.pair (Codec.address.pair (Codec.bool.pair Codec.optionBool))).congr
    ⟨fun v => ⟨v.1, v.2.1, v.2.2.1, v.2.2.2⟩,
      fun a => (a.metadata, a.creator, a.mayhem, a.isCashbackEnabled), fun _ => rfl, fun _ => rfl⟩

structure PumpBuyInstruction where
  splAmount : Amount pumpSplPrecision
  maximumSolInput : Amount nativeSolPrecision
  trackVolume : OptionBool

def PumpBuyInstruction.args : InstructionArgs PumpBuyInstruction where
  discriminator := [102, 6, 61, 18, 1, 218, 235, 234]
  borsh := ((Codec.amount _).pair ((Codec.amount _).pair Codec.optionBool)).congr
    ⟨fun v => ⟨v.1, v.2.1, v.2.2⟩, fun a => (a.splAmount, a.maximumSolInput, a.trackVolume),
      fun _ => rfl, fun _ => rfl⟩

structure PumpSellInstruction where
  splAmount : Amount pumpSplPrecision
  minimumSolPayout : Amount nativeSolPrecision

def PumpSellInstruction.args : InstructionArgs PumpSellInstruction where
  discriminator := [51, 230, 133, 164, 1, 127, 131, 173]
  borsh := ((Codec.amount _).pair (Codec.amount _)).congr
    ⟨fun v => ⟨v.1, v.2⟩, fun a => (a.splAmount, a.minimumSolPayout), fun _ => rfl, fun _ => rfl⟩

structure PumpBuyExactSolInInstruction where
  solAmount : Amount nativeSolPrecision
  minimumTokenOutput : Amount pumpSplPrecision
  trackVolume : OptionBool

def PumpBuyExactSolInInstruction.args : InstructionArgs PumpBuyExactSolInInstruction where
  discriminator := [56, 252, 116, 8, 158, 223, 205, 95]
  borsh := ((Codec.amount _).pair ((Codec.amount _).pair Codec.optionBool)).congr
    ⟨fun v => ⟨v.1, v.2.1, v.2.2⟩, fun a => (a.solAmount, a.minimumTokenOutput, a.trackVolume),
      fun _ => rfl, fun _ => rfl⟩

structure CloseUserVolumeAccumulator where

def CloseUserVolumeAccumulator.args : InstructionArgs CloseUserVolumeAccumulator where
  discriminator := [0xf9, 0x45, 0xa4, 0xda, 0x96, 0x67, 0x54, 0x8a]
  borsh := Codec.unit.congr ⟨fun _ => ⟨⟩, fun _ => (), fun _ => rfl, fun _ => rfl⟩

/-! ## Tokens -/

namespace SplToken

structure TransferCheckedInstruction where
  amount : UInt64
  decimals : UInt8

def TransferCheckedInstruction.args : InstructionArgs TransferCheckedInstruction where
  discriminator := [12]
  borsh := (Codec.u64.pair Codec.u8).congr
    ⟨fun v => ⟨v.1, v.2⟩, fun a => (a.amount, a.decimals), fun _ => rfl, fun _ => rfl⟩

structure CloseAccountInstruction where

def CloseAccountInstruction.args : InstructionArgs CloseAccountInstruction where
  discriminator := [9]
  borsh := Codec.unit.congr ⟨fun _ => ⟨⟩, fun _ => (), fun _ => rfl, fun _ => rfl⟩

end SplToken

namespace TokenProgram2022

structure TransferCheckedInstruction where
  amount : UInt64
  decimals : UInt8

def TransferCheckedInstruction.args : InstructionArgs TransferCheckedInstruction where
  discriminator := [12]
  borsh := (Codec.u64.pair Codec.u8).congr
    ⟨fun v => ⟨v.1, v.2⟩, fun a => (a.amount, a.decimals), fun _ => rfl, fun _ => rfl⟩

structure CloseAccountInstruction where

def CloseAccountInstruction.args : InstructionArgs CloseAccountInstruction where
  discriminator := [9]
  borsh := Codec.unit.congr ⟨fun _ => ⟨⟩, fun _ => (), fun _ => rfl, fun _ => rfl⟩

end TokenProgram2022

structure CreateIdempotentInstruction where

def CreateIdempotentInstruction.args : InstructionArgs CreateIdempotentInstruction where
  discriminator := [1]
  borsh := Codec.unit.congr ⟨fun _ => ⟨⟩, fun _ => (), fun _ => rfl, fun _ => rfl⟩

/-! ## Compute budget and system -/

structure ComputeUnitLimit where
  limit : UInt32

def ComputeUnitLimit.args : InstructionArgs ComputeUnitLimit where
  discriminator := [2]
  borsh := Codec.u32.congr ⟨ComputeUnitLimit.mk, limit, fun _ => rfl, fun _ => rfl⟩

structure ComputeUnitPrice where
  price : BitVec 128

def ComputeUnitPrice.args : InstructionArgs ComputeUnitPrice where
  discriminator := [3]
  borsh := Codec.u128.congr ⟨ComputeUnitPrice.mk, price, fun _ => rfl, fun _ => rfl⟩

/-- `Transfer` of the system program. -/
structure Transfer where
  sol : Amount nativeSolPrecision

def Transfer.args : InstructionArgs Transfer where
  discriminator := [2, 0, 0, 0]
  borsh := (Codec.amount _).congr ⟨Transfer.mk, sol, fun _ => rfl, fun _ => rfl⟩

/-! ## All of them -/

/-- `PumpInstruction`. -/
inductive PumpInstruction
  | create
  | createV2
  | buy
  | buyExactIn
  | sell
  | closeAccumulatorAccount
  deriving DecidableEq, Repr

def PumpInstruction.Args : PumpInstruction → Type
  | create => PumpCreateInstruction
  | createV2 => PumpCreateV2Instruction
  | buy => PumpBuyInstruction
  | buyExactIn => PumpBuyExactSolInInstruction
  | sell => PumpSellInstruction
  | closeAccumulatorAccount => CloseUserVolumeAccumulator

def PumpInstruction.args : (i : PumpInstruction) → InstructionArgs i.Args
  | create => PumpCreateInstruction.args
  | createV2 => PumpCreateV2Instruction.args
  | buy => PumpBuyInstruction.args
  | buyExactIn => PumpBuyExactSolInInstruction.args
  | sell => PumpSellInstruction.args
  | closeAccumulatorAccount => CloseUserVolumeAccumulator.args

/-- The instructions of all programs. -/
inductive Kind
  | pump (i : PumpInstruction)
  | transferChecked
  | closeAccount
  | transferChecked2022
  | closeAccount2022
  | createIdempotent
  | setComputeLimit
  | setUnitPrice
  | transfer
  deriving DecidableEq, Repr

def Kind.Args : Kind → Type
  | pump i => i.Args
  | transferChecked => SplToken.TransferCheckedInstruction
  | closeAccount => SplToken.CloseAccountInstruction
  | transferChecked2022 => TokenProgram2022.TransferCheckedInstruction
  | closeAccount2022 => TokenProgram2022.CloseAccountInstruction
  | createIdempotent => CreateIdempotentInstruction
  | setComputeLimit => ComputeUnitLimit
  | setUnitPrice => ComputeUnitPrice
  | transfer => Transfer

def Kind.args : (k : Kind) → InstructionArgs k.Args
  | pump i => i.args
  | transferChecked => SplToken.TransferCheckedInstruction.args
  | closeAccount => SplToken.CloseAccountInstruction.args
  | transferChecked2022 => TokenProgram2022.TransferCheckedInstruction.args
  | closeAccount2022 => TokenProgram2022.CloseAccountInstruction.args
  | createIdempotent => CreateIdempotentInstruction.args
  | setComputeLimit => ComputeUnitLimit.args
  | setUnitPrice => ComputeUnitPrice.args
  | transfer => Transfer.args

def PumpMetadata.texts (m : PumpMetadata) : List String := [m.name, m.symbol, m.uri.url]

/-- The texts among the arguments. -/
def PumpInstruction.texts : (i : PumpInstruction) → i.Args → List String
  | create, (v : PumpCreateInstruction) => v.metadata.texts
  | createV2, (v : PumpCreateV2Instruction) => v.metadata.texts
  | _, _ => []

def Kind.texts : (k : Kind) → k.Args → List String
  | pump i, (v : i.Args) => i.texts v
  | _, _ => []

/-! ## What can be written -/

theorem isSome_write_pumpMetadata (m : PumpMetadata) :
    (Codec.pumpMetadata.write m).isSome = true ↔ ∀ text ∈ m.texts, text.utf8ByteSize < 2 ^ 32 := by
  simp [Codec.pumpMetadata, Codec.link, PumpMetadata.texts]

/-- The bytes of the metadata, and fields of fixed width. -/
theorem isSome_write_metadata_pair {α : Type} (c : Codec α) (hc : ∀ v, (c.write v).isSome = true)
    (m : PumpMetadata) (v : α) :
    ((Codec.pumpMetadata.pair c).write (m, v)).isSome = true ↔
      ∀ text ∈ m.texts, text.utf8ByteSize < 2 ^ 32 := by
  rw [← isSome_write_pumpMetadata, Codec.isSome_write_pair, hc v, Bool.and_true]

theorem isSome_write_pump (i : PumpInstruction) (v : i.Args) :
    (i.args.borsh.write v).isSome = true ↔ ∀ text ∈ i.texts v, text.utf8ByteSize < 2 ^ 32 := by
  cases i with
  | create =>
    obtain ⟨metadata, creator⟩ := v
    exact isSome_write_metadata_pair Codec.address (fun _ => rfl) metadata creator
  | createV2 =>
    obtain ⟨metadata, creator, mayhem, isCashbackEnabled⟩ := v
    exact isSome_write_metadata_pair (Codec.address.pair (Codec.bool.pair Codec.optionBool))
      (fun _ => rfl) metadata (creator, mayhem, isCashbackEnabled)
  | buy | buyExactIn | sell | closeAccumulatorAccount =>
    exact iff_of_true rfl fun text htext => absurd htext List.not_mem_nil

/-- Only a text of 2^32 bytes or more stops the task. -/
theorem isSome_toLeBytes (k : Kind) (v : k.Args) :
    (k.args.toLeBytes v).isSome = true ↔ ∀ text ∈ k.texts v, text.utf8ByteSize < 2 ^ 32 := by
  rw [InstructionArgs.toLeBytes, Option.isSome_map]
  cases k with
  | pump i => exact isSome_write_pump i v
  | transferChecked | closeAccount | transferChecked2022 | closeAccount2022 | createIdempotent
  | setComputeLimit | setUnitPrice | transfer =>
    exact iff_of_true rfl fun text htext => absurd htext List.not_mem_nil

/-! ## The codec -/

theorem pump_discriminators {i j : PumpInstruction} (h : i ≠ j) :
    i.args.discriminator.length = j.args.discriminator.length ∧
      i.args.discriminator ≠ j.args.discriminator := by
  cases i <;> cases j <;> first | exact absurd rfl h | exact ⟨rfl, by decide⟩

/-- Writing and reading the arguments of an instruction. -/
structure ExactCodec (k : Kind) : Prop where
  read_written : ∀ v, (∀ text ∈ k.texts v, text.utf8ByteSize < 2 ^ 32) →
    ∃ data, k.args.toLeBytes v = some data ∧ k.args.fromBytes data = .ok v
  written_read : ∀ data v, k.args.fromBytes data = .ok v → k.args.toLeBytes v = some data

theorem exactCodec (k : Kind) : ExactCodec k where
  read_written v htexts := by
    obtain ⟨data, hdata⟩ := Option.isSome_iff_exists.mp ((isSome_toLeBytes k v).mpr htexts)
    exact ⟨data, hdata, (k.args.fromBytes_iff data v).mpr hdata⟩
  written_read data v := (k.args.fromBytes_iff data v).mp

/-- What one pump instruction writes, another does not read. -/
def Apart (i j : PumpInstruction) : Prop :=
  ∀ v data, i.args.toLeBytes v = some data → ∀ w, j.args.fromBytes data ≠ .ok w

theorem apart_of_ne {i j : PumpInstruction} (hne : i ≠ j) : Apart i j := by
  intro v data hdata w hw
  obtain ⟨hlength, hdiscriminator⟩ := pump_discriminators hne
  rw [i.args.fromBytes_other hlength hdiscriminator hdata] at hw
  exact absurd hw (by simp)

/-- **The data of an instruction is its arguments**, and of one pump instruction only. -/
theorem instructionCodec :
    (∀ k, ExactCodec k) ∧ ∀ i j : PumpInstruction, i ≠ j → Apart i j :=
  ⟨exactCodec, fun _ _ => apart_of_ne⟩

example : ComputeUnitLimit.args.toLeBytes ⟨300⟩ = some [2, 44, 1, 0, 0] := by decide

/-! ## A text that is too long -/

theorem utf8ByteSize_replicate (n : ℕ) :
    (String.ofList (List.replicate n 'a')).utf8ByteSize = n := by
  induction n with
  | zero => rfl
  | succ n ih =>
    have hletter : (String.singleton 'a').utf8ByteSize = 1 := rfl
    rw [List.replicate_succ, String.ofList_cons, String.utf8ByteSize_append, ih, hletter,
      Nat.add_comm]

/-- A token whose name has `n` letters. -/
def createNamed (n : ℕ) : PumpCreateInstruction where
  metadata := ⟨String.ofList (List.replicate n 'a'), "", ⟨""⟩⟩
  creator := Vector.replicate 32 0

/-- A name of 4 GiB. -/
theorem longName_stops :
    PumpCreateInstruction.args.toLeBytes (createNamed (2 ^ 32)) = none ∧
      ¬ ∃ data, PumpCreateInstruction.args.toLeBytes (createNamed (2 ^ 32)) = some data ∧
        PumpCreateInstruction.args.fromBytes data = .ok (createNamed (2 ^ 32)) := by
  have hnone : PumpCreateInstruction.args.toLeBytes (createNamed (2 ^ 32)) = none := by
    have hshort := isSome_toLeBytes (.pump .create) (createNamed (2 ^ 32))
    rw [← Option.not_isSome_iff_eq_none]
    intro hsome
    have hlt : (createNamed (2 ^ 32)).metadata.name.utf8ByteSize < 2 ^ 32 :=
      hshort.mp hsome _ List.mem_cons_self
    rw [createNamed, utf8ByteSize_replicate] at hlt
    exact absurd hlt (lt_irrefl _)
  refine ⟨hnone, ?_⟩
  rintro ⟨data, hdata, -⟩
  rw [hnone] at hdata
  exact absurd hdata (by simp)

end Loggaper.Sips
