import Loggaper.Feed.LogsFeed
import Loggaper.Lib.Base64
import Loggaper.Lib.Codec

/-!
# Events in the program logs

A program writes an event as a line "Program data: " with the base64 of a discriminator and the
borsh of the event. `PumpEvent.fromStr` and `PumpAmmEvent.fromStr` read such lines. The crates that
decode base64 and borsh are parameters, of which the results suppose only that they are canonical:
what they read is what is written, and nothing else can be read.

- `pumpEventLines`: the lines of the bonding curve program. Bytes after the event are
  ignored.
- `pumpAmmEventLines`: the lines of the pool program, in which nothing may follow, and which
  the other parser never accepts.
-/

namespace Loggaper.Logs

inductive Error
  | io
  | base64Decode
  | invalidDiscriminator
  | invalidLogEvent
  deriving DecidableEq, Repr

/-! ## The crates -/

/-- `base64::engine::general_purpose::STANDARD`. -/
structure Engine where
  encode : List UInt8 → List Char
  decode : List Char → Option (List UInt8)

/-- Only the canonical text of some bytes is decoded. -/
def Engine.Canonical (engine : Engine) : Prop :=
  ∀ text bytes, engine.decode text = some bytes ↔ engine.encode bytes = text

/-- Borsh for one type. -/
structure Borsh (α : Type) where
  /-- The bytes of a value in the format. A text or a list that is too long has none. -/
  bytes : α → Option (List UInt8)
  /-- The derived `deserialize_reader`: a value from the front of the input, and what is left. -/
  read : List UInt8 → Option (α × List UInt8)

/-- A value is read exactly from its bytes. -/
def Borsh.Canonical {α : Type} (borsh : Borsh α) : Prop :=
  ∀ input v rest, borsh.read input = some (v, rest) ↔
    ∃ bytes, borsh.bytes v = some bytes ∧ input = bytes ++ rest

theorem map_eq_ok {α β : Type} {f : α → β} {x : Except Error α} {v : β} :
    f <$> x = .ok v ↔ ∃ a, x = .ok a ∧ f a = v := by
  cases x with
  | ok a => simp
  | error e => simp

section
variable {α : Type} (borsh : Borsh α)

/-- `T::deserialize`: what is left of the data is not looked at. -/
def deserialize (data : List UInt8) : Except Error α :=
  match borsh.read data with
  | some (v, _) => .ok v
  | none => .error .io

/-- `borsh::from_slice`: the data must be used up. -/
def fromSlice (data : List UInt8) : Except Error α :=
  match borsh.read data with
  | some (v, rest) => if rest = [] then .ok v else .error .io
  | none => .error .io

variable {borsh} (hborsh : borsh.Canonical)
include hborsh

theorem deserialize_iff {data : List UInt8} {v : α} :
    deserialize borsh data = .ok v ↔
      ∃ bytes rest, borsh.bytes v = some bytes ∧ data = bytes ++ rest := by
  unfold deserialize
  constructor
  · intro h
    split at h
    · rename_i w rest hread
      obtain rfl := Except.ok.inj h
      obtain ⟨bytes, hbytes, hdata⟩ := (hborsh _ _ _).mp hread
      exact ⟨bytes, rest, hbytes, hdata⟩
    · cases h
  · rintro ⟨bytes, rest, hbytes, hdata⟩
    rw [(hborsh _ _ _).mpr ⟨bytes, hbytes, hdata⟩]

theorem fromSlice_iff {data : List UInt8} {v : α} :
    fromSlice borsh data = .ok v ↔ borsh.bytes v = some data := by
  have hread : borsh.read data = some (v, []) ↔ borsh.bytes v = some data := by
    rw [hborsh]
    simp only [List.append_nil, exists_eq_right']
  rw [← hread, fromSlice]
  constructor
  · intro h
    split at h
    · rename_i w rest hread
      split_ifs at h with hrest
      rw [hread, hrest, Except.ok.inj h]
    · cases h
  · intro h
    rw [h]
    exact if_pos rfl

end

/-! ## Lines -/

/-- The discriminator and the data of a line. -/
def splitBlob (engine : Engine) (s : String) : Except Error (List UInt8 × List UInt8) :=
  if textStartsWith s programDataPrefix then
    match engine.decode (s.toList.drop programDataPrefix.length) with
    | some blob =>
      if blob.length < 8 then .error .invalidLogEvent else .ok (blob.take 8, blob.drop 8)
    | none => .error .base64Decode
  else .error .invalidLogEvent

/-- The line of some bytes. -/
def programDataLine (engine : Engine) (blob : List UInt8) : String :=
  programDataPrefix ++ String.ofList (engine.encode blob)

theorem splitBlob_iff {engine : Engine} (hengine : engine.Canonical) {s : String}
    {discriminator data : List UInt8} :
    splitBlob engine s = .ok (discriminator, data) ↔
      discriminator.length = 8 ∧ s = programDataLine engine (discriminator ++ data) := by
  rw [programDataLine, ← String.toList_inj, String.toList_append, String.toList_ofList, splitBlob]
  constructor
  · intro h
    split_ifs at h with hstart
    obtain ⟨text, htext⟩ := List.isPrefixOf_iff_prefix.mp hstart
    rw [← htext, ← String.length_toList, List.drop_left] at h
    split at h
    · rename_i blob hblob
      split_ifs at h with hshort
      obtain ⟨rfl, rfl⟩ := Prod.mk.inj (Except.ok.inj h)
      refine ⟨List.length_take_of_le (not_lt.mp hshort), ?_⟩
      rw [List.take_append_drop, ← htext, (hengine _ _).mp hblob]
    · cases h
  · rintro ⟨hlength, hs⟩
    have hstart : textStartsWith s programDataPrefix = true := by
      rw [textStartsWith, hs]
      exact List.isPrefixOf_iff_prefix.mpr (List.prefix_append _ _)
    rw [if_pos hstart, hs, ← String.length_toList, List.drop_left, (hengine _ _).mpr rfl]
    simp only
    rw [if_neg (by rw [List.length_append]; omega), ← hlength, List.take_left, List.drop_left]

/-- Whatever is read from a line starts with its discriminator. -/
theorem line_of_bind {engine : Engine} (hengine : engine.Canonical) {α : Type} {s : String}
    {f : List UInt8 × List UInt8 → Except Error α} {v : α}
    (h : splitBlob engine s >>= f = .ok v) :
    ∃ disc data, disc.length = 8 ∧ s = programDataLine engine (disc ++ data) := by
  cases hblob : splitBlob engine s with
  | ok blob => exact ⟨blob.1, blob.2, (splitBlob_iff hengine).mp hblob⟩
  | error _ =>
    rw [hblob] at h
    cases h

/-! ## The bonding curve program -/

structure CreateEvent where
  name : String
  symbol : String
  uri : String
  mint : Address
  bondingCurve : Address
  user : Address
  creator : Address
  timestamp : Int64
  virtualTokenReserves : UInt64
  virtualSolReserves : UInt64
  realTokenReserves : UInt64
  tokenTotalSupply : UInt64
  tokenProgram : Address
  isMayhemMode : Bool
  isCashbackEnabled : Bool
  quoteMint : Address
  virtualQuoteReserves : UInt64

structure TradeEvent where
  mint : Address
  solAmount : UInt64
  tokenAmount : UInt64
  isBuy : Bool
  user : Address
  timestamp : Int64
  virtualSolReserves : UInt64
  virtualTokenReserves : UInt64
  realSolReserves : UInt64
  realTokenReserves : UInt64
  feeRecipient : Address
  feeBasisPoints : UInt64
  fee : UInt64
  creator : Address
  creatorFeeBasisPoints : UInt64
  creatorFee : UInt64
  trackVolume : Bool
  totalUnclaimedTokens : UInt64
  totalClaimedTokens : UInt64
  currentSolVolume : UInt64
  lastUpdateTimestamp : Int64
  ixName : String
  mayhemMode : Bool
  cashbackFeeBasisPoints : UInt64
  cashback : UInt64
  buybackFeeBasisPoints : UInt64
  buybackFee : UInt64
  shareholders : List Address
  quoteAmount : UInt64
  virtualQuoteReserves : UInt64
  realQuoteReserves : UInt64

inductive PumpEvent
  | create (e : CreateEvent)
  | tradeEvent (e : TradeEvent)

def createEvent : List UInt8 := [27, 114, 169, 77, 222, 235, 99, 118]

def tradeEvent : List UInt8 := [189, 219, 127, 211, 78, 230, 97, 238]

structure PumpBorsh where
  createEvent : Borsh CreateEvent
  tradeEvent : Borsh TradeEvent

structure PumpBorsh.Canonical (borsh : PumpBorsh) : Prop where
  createEvent : borsh.createEvent.Canonical
  tradeEvent : borsh.tradeEvent.Canonical

def PumpEvent.fromStr (engine : Engine) (borsh : PumpBorsh) (s : String) :
    Except Error PumpEvent := do
  let (discriminator, data) ← splitBlob engine s
  if discriminator = Logs.tradeEvent then .tradeEvent <$> deserialize borsh.tradeEvent data
  else if discriminator = Logs.createEvent then .create <$> deserialize borsh.createEvent data
  else .error .invalidDiscriminator

namespace PumpEvent

def discriminator : PumpEvent → List UInt8
  | create _ => createEvent
  | tradeEvent _ => Logs.tradeEvent

def bytes (borsh : PumpBorsh) : PumpEvent → Option (List UInt8)
  | create e => borsh.createEvent.bytes e
  | tradeEvent e => borsh.tradeEvent.bytes e

/-- The event of a discriminator and its data. -/
theorem fromStr_programDataLine {engine : Engine} (hengine : engine.Canonical) (borsh : PumpBorsh)
    {disc data : List UInt8} (h : disc.length = 8) :
    fromStr engine borsh (programDataLine engine (disc ++ data)) =
      if disc = Logs.tradeEvent then tradeEvent <$> deserialize borsh.tradeEvent data
      else if disc = createEvent then create <$> deserialize borsh.createEvent data
      else .error .invalidDiscriminator := by
  rw [fromStr, (splitBlob_iff hengine).mpr ⟨h, rfl⟩]
  rfl

end PumpEvent

/-- **Lines of the bonding curve program.** A line is read as an event exactly if it is the base64
of the discriminator of the event, its bytes and anything else. -/
theorem pumpEventLines {engine : Engine} (hengine : engine.Canonical) {borsh : PumpBorsh}
    (hborsh : borsh.Canonical) (s : String) (e : PumpEvent) :
    PumpEvent.fromStr engine borsh s = .ok e ↔ ∃ bytes rest, e.bytes borsh = some bytes ∧
      s = programDataLine engine (e.discriminator ++ (bytes ++ rest)) := by
  constructor
  · intro h
    obtain ⟨disc, data, hlength, rfl⟩ := line_of_bind hengine h
    rw [PumpEvent.fromStr_programDataLine hengine borsh hlength] at h
    split_ifs at h with htrade hcreate
    · obtain ⟨v, hv, rfl⟩ := map_eq_ok.mp h
      obtain ⟨bytes, rest, hbytes, rfl⟩ := (deserialize_iff hborsh.tradeEvent).mp hv
      exact ⟨bytes, rest, hbytes, htrade ▸ rfl⟩
    · obtain ⟨v, hv, rfl⟩ := map_eq_ok.mp h
      obtain ⟨bytes, rest, hbytes, rfl⟩ := (deserialize_iff hborsh.createEvent).mp hv
      exact ⟨bytes, rest, hbytes, hcreate ▸ rfl⟩
  · rintro ⟨bytes, rest, hbytes, rfl⟩
    cases e with
    | create e =>
      rw [PumpEvent.fromStr_programDataLine hengine borsh rfl, PumpEvent.discriminator,
        if_neg (by decide), if_pos rfl,
        (deserialize_iff hborsh.createEvent).mpr ⟨bytes, rest, hbytes, rfl⟩]
      rfl
    | tradeEvent e =>
      rw [PumpEvent.fromStr_programDataLine hengine borsh rfl, PumpEvent.discriminator,
        if_pos rfl, (deserialize_iff hborsh.tradeEvent).mpr ⟨bytes, rest, hbytes, rfl⟩]
      rfl

/-! ## A launch in the standard crates -/

def standardEngine : Engine := ⟨Base64.encode, Base64.decode⟩

theorem standardEngine_canonical : standardEngine.Canonical := fun _ _ => Base64.decode_iff

/-- What is derived for the fields one after the other. -/
def Borsh.derived {α : Type} (c : Codec α) : Borsh α := ⟨c.write, c.read⟩

theorem Borsh.derived_canonical {α : Type} (c : Codec α) : (Borsh.derived c).Canonical := c.read_iff

def Codec.address : Codec Address := Codec.fixed (Format.bits 32) 32 fun _ => length_leBytes _ _

def Codec.createEvent : Codec CreateEvent :=
  (Codec.string.pair <| Codec.string.pair <| Codec.string.pair <| Codec.address.pair <|
    Codec.address.pair <| Codec.address.pair <| Codec.address.pair <| Codec.i64.pair <|
    Codec.u64.pair <| Codec.u64.pair <| Codec.u64.pair <| Codec.u64.pair <| Codec.address.pair <|
    Codec.bool.pair <| Codec.bool.pair <| Codec.address.pair <| Codec.u64).congr {
    toFun := fun (name, symbol, uri, mint, bondingCurve, user, creator, timestamp,
      virtualTokenReserves, virtualSolReserves, realTokenReserves, tokenTotalSupply,
      tokenProgram, isMayhemMode, isCashbackEnabled, quoteMint, virtualQuoteReserves) =>
      ⟨name, symbol, uri, mint, bondingCurve, user, creator, timestamp, virtualTokenReserves,
        virtualSolReserves, realTokenReserves, tokenTotalSupply, tokenProgram, isMayhemMode,
        isCashbackEnabled, quoteMint, virtualQuoteReserves⟩
    invFun := fun e => (e.name, e.symbol, e.uri, e.mint, e.bondingCurve, e.user, e.creator,
      e.timestamp, e.virtualTokenReserves, e.virtualSolReserves, e.realTokenReserves,
      e.tokenTotalSupply, e.tokenProgram, e.isMayhemMode, e.isCashbackEnabled, e.quoteMint,
      e.virtualQuoteReserves)
    left_inv := fun _ => rfl
    right_inv := fun _ => rfl }

def Codec.tradeEvent : Codec TradeEvent :=
  (Codec.address.pair <| Codec.u64.pair <| Codec.u64.pair <| Codec.bool.pair <|
    Codec.address.pair <| Codec.i64.pair <| Codec.u64.pair <| Codec.u64.pair <| Codec.u64.pair <|
    Codec.u64.pair <| Codec.address.pair <| Codec.u64.pair <| Codec.u64.pair <|
    Codec.address.pair <| Codec.u64.pair <| Codec.u64.pair <| Codec.bool.pair <|
    Codec.u64.pair <| Codec.u64.pair <| Codec.u64.pair <| Codec.i64.pair <| Codec.string.pair <|
    Codec.bool.pair <| Codec.u64.pair <| Codec.u64.pair <| Codec.u64.pair <| Codec.u64.pair <|
    Codec.address.vec.pair <| Codec.u64.pair <| Codec.u64.pair <| Codec.u64).congr {
    toFun := fun (mint, solAmount, tokenAmount, isBuy, user, timestamp, virtualSolReserves,
      virtualTokenReserves, realSolReserves, realTokenReserves, feeRecipient, feeBasisPoints,
      fee, creator, creatorFeeBasisPoints, creatorFee, trackVolume, totalUnclaimedTokens,
      totalClaimedTokens, currentSolVolume, lastUpdateTimestamp, ixName, mayhemMode,
      cashbackFeeBasisPoints, cashback, buybackFeeBasisPoints, buybackFee, shareholders,
      quoteAmount, virtualQuoteReserves, realQuoteReserves) =>
      ⟨mint, solAmount, tokenAmount, isBuy, user, timestamp, virtualSolReserves,
        virtualTokenReserves, realSolReserves, realTokenReserves, feeRecipient, feeBasisPoints,
        fee, creator, creatorFeeBasisPoints, creatorFee, trackVolume, totalUnclaimedTokens,
        totalClaimedTokens, currentSolVolume, lastUpdateTimestamp, ixName, mayhemMode,
        cashbackFeeBasisPoints, cashback, buybackFeeBasisPoints, buybackFee, shareholders,
        quoteAmount, virtualQuoteReserves, realQuoteReserves⟩
    invFun := fun e => (e.mint, e.solAmount, e.tokenAmount, e.isBuy, e.user, e.timestamp,
      e.virtualSolReserves, e.virtualTokenReserves, e.realSolReserves, e.realTokenReserves,
      e.feeRecipient, e.feeBasisPoints, e.fee, e.creator, e.creatorFeeBasisPoints, e.creatorFee,
      e.trackVolume, e.totalUnclaimedTokens, e.totalClaimedTokens, e.currentSolVolume,
      e.lastUpdateTimestamp, e.ixName, e.mayhemMode, e.cashbackFeeBasisPoints, e.cashback,
      e.buybackFeeBasisPoints, e.buybackFee, e.shareholders, e.quoteAmount,
      e.virtualQuoteReserves, e.realQuoteReserves)
    left_inv := fun _ => rfl
    right_inv := fun _ => rfl }

def derivedPumpBorsh : PumpBorsh where
  createEvent := .derived Codec.createEvent
  tradeEvent := .derived Codec.tradeEvent

theorem derivedPumpBorsh_canonical : derivedPumpBorsh.Canonical where
  createEvent := Borsh.derived_canonical _
  tradeEvent := Borsh.derived_canonical _

def launchEvent : CreateEvent where
  name := "Frog"
  symbol := "FRG"
  uri := ""
  mint := 1
  bondingCurve := 2
  user := 3
  creator := 3
  timestamp := 1_700_000_000
  virtualTokenReserves := 1_073_000_000_000_000
  virtualSolReserves := 30_000_000_000
  realTokenReserves := 793_100_000_000_000
  tokenTotalSupply := 1_000_000_000_000_000
  tokenProgram := 4
  isMayhemMode := false
  isCashbackEnabled := false
  quoteMint := 5
  virtualQuoteReserves := 30_000_000_000

/-- A launch is read from its line, with a byte behind it. -/
theorem pumpEventLines_launch :
    ∃ bytes, (PumpEvent.create launchEvent).bytes derivedPumpBorsh = some bytes ∧
      PumpEvent.fromStr standardEngine derivedPumpBorsh
        (programDataLine standardEngine (createEvent ++ (bytes ++ [0]))) =
          .ok (.create launchEvent) := by
  have hsome : ((PumpEvent.create launchEvent).bytes derivedPumpBorsh).isSome = true := by
    decide +kernel
  obtain ⟨bytes, hbytes⟩ := Option.isSome_iff_exists.mp hsome
  exact ⟨bytes, hbytes, (pumpEventLines standardEngine_canonical derivedPumpBorsh_canonical _ _).mpr
    ⟨bytes, [0], hbytes, rfl⟩⟩

/-! ## The pool program -/

structure CreatePoolEvent where
  pool : Address
  creator : Address
  baseMint : Address
  quoteMint : Address
  baseAmount : UInt64
  quoteAmount : UInt64
  lpMint : Address
  lpSupply : UInt64
  timestamp : Int64

structure BuyEvent where
  timestamp : Int64
  baseAmountOut : UInt64
  maxQuoteAmountIn : UInt64
  userBaseTokenReserves : UInt64
  userQuoteTokenReserves : UInt64
  poolBaseTokenReserves : UInt64
  poolQuoteTokenReserves : UInt64
  quoteAmountIn : UInt64
  lpFeeBasisPoints : UInt64
  lpFee : UInt64
  protocolFeeBasisPoints : UInt64
  protocolFee : UInt64
  quoteAmountInWithLpFee : UInt64
  userQuoteAmountIn : UInt64
  pool : Address
  user : Address
  userBaseTokenAccount : Address
  userQuoteTokenAccount : Address
  protocolFeeRecipient : Address
  protocolFeeRecipientTokenAccount : Address
  coinCreator : Address
  coinCreatorFeeBasisPoints : UInt64
  coinCreatorFee : UInt64
  trackVolume : Bool
  totalUnclaimedTokens : UInt64
  totalClaimedTokens : UInt64
  currentSolVolume : UInt64
  lastUpdateTimestamp : Int64
  minBaseAmountOut : UInt64
  ixName : String
  cashbackFeeBasisPoints : UInt64
  cashback : UInt64

structure SellEvent where
  timestamp : Int64
  baseAmountIn : UInt64
  minQuoteAmountOut : UInt64
  userBaseTokenReserves : UInt64
  userQuoteTokenReserves : UInt64
  poolBaseTokenReserves : UInt64
  poolQuoteTokenReserves : UInt64
  quoteAmountOut : UInt64
  quoteAmountOutWithoutLpFee : UInt64
  lpFeeBasisPoints : UInt64
  lpFee : UInt64
  protocolFeeBasisPoints : UInt64
  protocolFee : UInt64
  userQuoteAmountOut : UInt64
  pool : Address
  user : Address
  userBaseTokenAccount : Address
  userQuoteTokenAccount : Address
  protocolFeeRecipient : Address
  protocolFeeRecipientTokenAccount : Address
  coinCreator : Address
  coinCreatorFeeBasisPoints : UInt64
  coinCreatorFee : UInt64

inductive PumpAmmEvent
  | buy (e : BuyEvent)
  | sell (e : SellEvent)
  | createPool (e : CreatePoolEvent)

def buyEvent : List UInt8 := [103, 244, 82, 31, 44, 245, 119, 119]

def sellEvent : List UInt8 := [62, 47, 55, 10, 165, 3, 220, 42]

def createPoolEvent : List UInt8 := [177, 49, 12, 210, 160, 118, 167, 116]

structure PumpAmmBorsh where
  buyEvent : Borsh BuyEvent
  sellEvent : Borsh SellEvent
  createPoolEvent : Borsh CreatePoolEvent

structure PumpAmmBorsh.Canonical (borsh : PumpAmmBorsh) : Prop where
  buyEvent : borsh.buyEvent.Canonical
  sellEvent : borsh.sellEvent.Canonical
  createPoolEvent : borsh.createPoolEvent.Canonical

def PumpAmmEvent.fromStr (engine : Engine) (borsh : PumpAmmBorsh) (s : String) :
    Except Error PumpAmmEvent := do
  let (disc, data) ← splitBlob engine s
  if disc = buyEvent then .buy <$> fromSlice borsh.buyEvent data
  else if disc = sellEvent then .sell <$> fromSlice borsh.sellEvent data
  else if disc = createPoolEvent then .createPool <$> fromSlice borsh.createPoolEvent data
  else .error .invalidDiscriminator

namespace PumpAmmEvent

def discriminator : PumpAmmEvent → List UInt8
  | buy _ => buyEvent
  | sell _ => sellEvent
  | createPool _ => createPoolEvent

def bytes (borsh : PumpAmmBorsh) : PumpAmmEvent → Option (List UInt8)
  | buy e => borsh.buyEvent.bytes e
  | sell e => borsh.sellEvent.bytes e
  | createPool e => borsh.createPoolEvent.bytes e

section
variable {engine : Engine} (hengine : engine.Canonical)
include hengine

theorem fromStr_programDataLine (borsh : PumpAmmBorsh) {disc data : List UInt8}
    (h : disc.length = 8) :
    fromStr engine borsh (programDataLine engine (disc ++ data)) =
      if disc = buyEvent then buy <$> fromSlice borsh.buyEvent data
      else if disc = sellEvent then sell <$> fromSlice borsh.sellEvent data
      else if disc = createPoolEvent then createPool <$> fromSlice borsh.createPoolEvent data
      else .error .invalidDiscriminator := by
  rw [fromStr, (splitBlob_iff hengine).mpr ⟨h, rfl⟩]
  rfl

theorem fromStr_iff {borsh : PumpAmmBorsh} (hborsh : borsh.Canonical) (s : String)
    (e : PumpAmmEvent) :
    fromStr engine borsh s = .ok e ↔ ∃ bytes, e.bytes borsh = some bytes ∧
      s = programDataLine engine (e.discriminator ++ bytes) := by
  constructor
  · intro h
    obtain ⟨disc, data, hlength, rfl⟩ := line_of_bind hengine h
    rw [fromStr_programDataLine hengine borsh hlength] at h
    split_ifs at h with hbuy hsell hcreate
    · obtain ⟨v, hv, rfl⟩ := map_eq_ok.mp h
      exact ⟨data, (fromSlice_iff hborsh.buyEvent).mp hv, hbuy ▸ rfl⟩
    · obtain ⟨v, hv, rfl⟩ := map_eq_ok.mp h
      exact ⟨data, (fromSlice_iff hborsh.sellEvent).mp hv, hsell ▸ rfl⟩
    · obtain ⟨v, hv, rfl⟩ := map_eq_ok.mp h
      exact ⟨data, (fromSlice_iff hborsh.createPoolEvent).mp hv, hcreate ▸ rfl⟩
  · rintro ⟨bytes, hbytes, rfl⟩
    cases e with
    | buy e =>
      rw [fromStr_programDataLine hengine borsh rfl, discriminator, if_pos rfl,
        (fromSlice_iff hborsh.buyEvent).mpr hbytes]
      rfl
    | sell e =>
      rw [fromStr_programDataLine hengine borsh rfl, discriminator, if_neg (by decide), if_pos rfl,
        (fromSlice_iff hborsh.sellEvent).mpr hbytes]
      rfl
    | createPool e =>
      rw [fromStr_programDataLine hengine borsh rfl, discriminator, if_neg (by decide),
        if_neg (by decide), if_pos rfl, (fromSlice_iff hborsh.createPoolEvent).mpr hbytes]
      rfl

/-- The other parser does not know the discriminator of a pool event. -/
theorem pumpEvent_fromStr_line (borsh : PumpBorsh) (e : PumpAmmEvent) (data : List UInt8) :
    PumpEvent.fromStr engine borsh (programDataLine engine (e.discriminator ++ data)) =
      .error .invalidDiscriminator := by
  cases e with
  | buy => rw [PumpEvent.fromStr_programDataLine hengine borsh rfl]; rfl
  | sell => rw [PumpEvent.fromStr_programDataLine hengine borsh rfl]; rfl
  | createPool => rw [PumpEvent.fromStr_programDataLine hengine borsh rfl]; rfl

end

end PumpAmmEvent

/-- **Lines of the pool program.** A line is read as an event exactly if it is the base64 of the
discriminator of the event and its bytes, and the parser of the other program refuses it. -/
theorem pumpAmmEventLines {engine : Engine} (hengine : engine.Canonical) {borsh : PumpAmmBorsh}
    (hborsh : borsh.Canonical) (other : PumpBorsh) (s : String) (e : PumpAmmEvent) :
    (PumpAmmEvent.fromStr engine borsh s = .ok e ↔ ∃ bytes, e.bytes borsh = some bytes ∧
      s = programDataLine engine (e.discriminator ++ bytes)) ∧
    (PumpAmmEvent.fromStr engine borsh s = .ok e →
      PumpEvent.fromStr engine other s = .error .invalidDiscriminator) := by
  refine ⟨PumpAmmEvent.fromStr_iff hengine hborsh s e, fun h => ?_⟩
  obtain ⟨bytes, -, rfl⟩ := (PumpAmmEvent.fromStr_iff hengine hborsh s e).mp h
  exact PumpAmmEvent.pumpEvent_fromStr_line hengine other e bytes

/-! ## A new pool in the standard crates -/

def Codec.createPoolEvent : Codec CreatePoolEvent :=
  (Codec.address.pair <| Codec.address.pair <| Codec.address.pair <| Codec.address.pair <|
    Codec.u64.pair <| Codec.u64.pair <| Codec.address.pair <| Codec.u64.pair <| Codec.i64).congr {
    toFun := fun (pool, creator, baseMint, quoteMint, baseAmount, quoteAmount, lpMint, lpSupply,
      timestamp) =>
      ⟨pool, creator, baseMint, quoteMint, baseAmount, quoteAmount, lpMint, lpSupply, timestamp⟩
    invFun := fun e => (e.pool, e.creator, e.baseMint, e.quoteMint, e.baseAmount, e.quoteAmount,
      e.lpMint, e.lpSupply, e.timestamp)
    left_inv := fun _ => rfl
    right_inv := fun _ => rfl }

def Codec.buyEvent : Codec BuyEvent :=
  (Codec.i64.pair <| Codec.u64.pair <| Codec.u64.pair <| Codec.u64.pair <| Codec.u64.pair <|
    Codec.u64.pair <| Codec.u64.pair <| Codec.u64.pair <| Codec.u64.pair <| Codec.u64.pair <|
    Codec.u64.pair <| Codec.u64.pair <| Codec.u64.pair <| Codec.u64.pair <| Codec.address.pair <|
    Codec.address.pair <| Codec.address.pair <| Codec.address.pair <| Codec.address.pair <|
    Codec.address.pair <| Codec.address.pair <| Codec.u64.pair <| Codec.u64.pair <|
    Codec.bool.pair <| Codec.u64.pair <| Codec.u64.pair <| Codec.u64.pair <| Codec.i64.pair <|
    Codec.u64.pair <| Codec.string.pair <| Codec.u64.pair <| Codec.u64).congr {
    toFun := fun (timestamp, baseAmountOut, maxQuoteAmountIn, userBaseTokenReserves,
      userQuoteTokenReserves, poolBaseTokenReserves, poolQuoteTokenReserves, quoteAmountIn,
      lpFeeBasisPoints, lpFee, protocolFeeBasisPoints, protocolFee, quoteAmountInWithLpFee,
      userQuoteAmountIn, pool, user, userBaseTokenAccount, userQuoteTokenAccount,
      protocolFeeRecipient, protocolFeeRecipientTokenAccount, coinCreator,
      coinCreatorFeeBasisPoints, coinCreatorFee, trackVolume, totalUnclaimedTokens,
      totalClaimedTokens, currentSolVolume, lastUpdateTimestamp, minBaseAmountOut, ixName,
      cashbackFeeBasisPoints, cashback) =>
      ⟨timestamp, baseAmountOut, maxQuoteAmountIn, userBaseTokenReserves, userQuoteTokenReserves,
        poolBaseTokenReserves, poolQuoteTokenReserves, quoteAmountIn, lpFeeBasisPoints, lpFee,
        protocolFeeBasisPoints, protocolFee, quoteAmountInWithLpFee, userQuoteAmountIn, pool,
        user, userBaseTokenAccount, userQuoteTokenAccount, protocolFeeRecipient,
        protocolFeeRecipientTokenAccount, coinCreator, coinCreatorFeeBasisPoints, coinCreatorFee,
        trackVolume, totalUnclaimedTokens, totalClaimedTokens, currentSolVolume,
        lastUpdateTimestamp, minBaseAmountOut, ixName, cashbackFeeBasisPoints, cashback⟩
    invFun := fun e => (e.timestamp, e.baseAmountOut, e.maxQuoteAmountIn,
      e.userBaseTokenReserves, e.userQuoteTokenReserves, e.poolBaseTokenReserves,
      e.poolQuoteTokenReserves, e.quoteAmountIn, e.lpFeeBasisPoints, e.lpFee,
      e.protocolFeeBasisPoints, e.protocolFee, e.quoteAmountInWithLpFee, e.userQuoteAmountIn,
      e.pool, e.user, e.userBaseTokenAccount, e.userQuoteTokenAccount, e.protocolFeeRecipient,
      e.protocolFeeRecipientTokenAccount, e.coinCreator, e.coinCreatorFeeBasisPoints,
      e.coinCreatorFee, e.trackVolume, e.totalUnclaimedTokens, e.totalClaimedTokens,
      e.currentSolVolume, e.lastUpdateTimestamp, e.minBaseAmountOut, e.ixName,
      e.cashbackFeeBasisPoints, e.cashback)
    left_inv := fun _ => rfl
    right_inv := fun _ => rfl }

def Codec.sellEvent : Codec SellEvent :=
  (Codec.i64.pair <| Codec.u64.pair <| Codec.u64.pair <| Codec.u64.pair <| Codec.u64.pair <|
    Codec.u64.pair <| Codec.u64.pair <| Codec.u64.pair <| Codec.u64.pair <| Codec.u64.pair <|
    Codec.u64.pair <| Codec.u64.pair <| Codec.u64.pair <| Codec.u64.pair <| Codec.address.pair <|
    Codec.address.pair <| Codec.address.pair <| Codec.address.pair <| Codec.address.pair <|
    Codec.address.pair <| Codec.address.pair <| Codec.u64.pair <| Codec.u64).congr {
    toFun := fun (timestamp, baseAmountIn, minQuoteAmountOut, userBaseTokenReserves,
      userQuoteTokenReserves, poolBaseTokenReserves, poolQuoteTokenReserves, quoteAmountOut,
      quoteAmountOutWithoutLpFee, lpFeeBasisPoints, lpFee, protocolFeeBasisPoints, protocolFee,
      userQuoteAmountOut, pool, user, userBaseTokenAccount, userQuoteTokenAccount,
      protocolFeeRecipient, protocolFeeRecipientTokenAccount, coinCreator,
      coinCreatorFeeBasisPoints, coinCreatorFee) =>
      ⟨timestamp, baseAmountIn, minQuoteAmountOut, userBaseTokenReserves, userQuoteTokenReserves,
        poolBaseTokenReserves, poolQuoteTokenReserves, quoteAmountOut,
        quoteAmountOutWithoutLpFee, lpFeeBasisPoints, lpFee, protocolFeeBasisPoints, protocolFee,
        userQuoteAmountOut, pool, user, userBaseTokenAccount, userQuoteTokenAccount,
        protocolFeeRecipient, protocolFeeRecipientTokenAccount, coinCreator,
        coinCreatorFeeBasisPoints, coinCreatorFee⟩
    invFun := fun e => (e.timestamp, e.baseAmountIn, e.minQuoteAmountOut,
      e.userBaseTokenReserves, e.userQuoteTokenReserves, e.poolBaseTokenReserves,
      e.poolQuoteTokenReserves, e.quoteAmountOut, e.quoteAmountOutWithoutLpFee,
      e.lpFeeBasisPoints, e.lpFee, e.protocolFeeBasisPoints, e.protocolFee, e.userQuoteAmountOut,
      e.pool, e.user, e.userBaseTokenAccount, e.userQuoteTokenAccount, e.protocolFeeRecipient,
      e.protocolFeeRecipientTokenAccount, e.coinCreator, e.coinCreatorFeeBasisPoints,
      e.coinCreatorFee)
    left_inv := fun _ => rfl
    right_inv := fun _ => rfl }

def derivedPumpAmmBorsh : PumpAmmBorsh where
  buyEvent := .derived Codec.buyEvent
  sellEvent := .derived Codec.sellEvent
  createPoolEvent := .derived Codec.createPoolEvent

theorem derivedPumpAmmBorsh_canonical : derivedPumpAmmBorsh.Canonical where
  buyEvent := Borsh.derived_canonical _
  sellEvent := Borsh.derived_canonical _
  createPoolEvent := Borsh.derived_canonical _

def newPoolEvent : CreatePoolEvent where
  pool := 1
  creator := 2
  baseMint := 3
  quoteMint := 4
  baseAmount := 206_900_000_000_000
  quoteAmount := 84_990_359_079
  lpMint := 5
  lpSupply := 4_193_388_288_189
  timestamp := 1_700_000_000

/-- A new pool is read from its line, by the one parser only. -/
theorem pumpAmmEventLines_newPool :
    ∃ line, PumpAmmEvent.fromStr standardEngine derivedPumpAmmBorsh line =
        .ok (.createPool newPoolEvent) ∧
      PumpEvent.fromStr standardEngine derivedPumpBorsh line = .error .invalidDiscriminator := by
  have hsome :
      ((PumpAmmEvent.createPool newPoolEvent).bytes derivedPumpAmmBorsh).isSome = true := by
    decide +kernel
  obtain ⟨bytes, hbytes⟩ := Option.isSome_iff_exists.mp hsome
  obtain ⟨hread, hother⟩ := pumpAmmEventLines standardEngine_canonical
    derivedPumpAmmBorsh_canonical derivedPumpBorsh
    (programDataLine standardEngine (createPoolEvent ++ bytes)) (.createPool newPoolEvent)
  have hok := hread.mpr ⟨bytes, hbytes, rfl⟩
  exact ⟨_, hok, hother hok⟩

end Loggaper.Logs
