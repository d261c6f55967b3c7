import Loggaper.Feed.Pump

/-!
# The bonding-curve pool and the migrated pool

`Bonding` is the cached pool of a launched token: the four reserves, as the last event left
them. Price and market cap are integer divisions, cut to 64 bits; without token reserves they
divide by zero, which stops the task (`none`). `Migrated` is what `migrate` makes of it.
-/

namespace Loggaper

structure Bonding where
  virtualSolReserves : Amount
  virtualTokenReserves : Amount
  realSolReserves : Amount
  realTokenReserves : Amount
  mint : Address
  creator : Address
  deriving DecidableEq, Repr

namespace Bonding

/-- `PumpPool::<Bonding>::new`. -/
def new (mint creator : Address) : Bonding where
  virtualSolReserves := .fromRaw 30_000_000_000 9
  virtualTokenReserves := .fromRaw 1_073_000_000_000_000 precision
  realSolReserves := .fromRaw 0 9
  realTokenReserves := .fromRaw 793_100_000_000_000 precision
  mint := mint
  creator := creator

variable (p : Bonding)

/-- The quotient of two `u64` reserves, scaled up in `u128` and cut by `as u64`. -/
def reserveRatio (scale : ℕ) : Option Currency :=
  if p.virtualTokenReserves.raw = 0 then none
  else
    let ratio := p.virtualSolReserves.raw * scale / p.virtualTokenReserves.raw
    some (.native (.fromRaw (ratio % 2 ^ 64) 9))

def price : Option Currency := p.reserveRatio 1_000_000_000

def marketCap : Option Currency := p.reserveRatio 1_000_000_000_000_000

/-- A trade carries the reserves that it leaves. -/
def update : PumpEvent → Bonding
  | .create _ => p
  | .trade e => { p with
      realSolReserves := .fromRaw e.realSolReserves.toNat 9
      realTokenReserves := .fromRaw e.realTokenReserves.toNat precision
      virtualSolReserves := .fromRaw e.virtualSolReserves.toNat 9
      virtualTokenReserves := .fromRaw e.virtualTokenReserves.toNat precision }

def creators : List Address := [p.creator]

def tokenDecimals (_p : Bonding) : ℕ := 6

def quoteDecimals (_p : Bonding) : ℕ := 9

@[simp] theorem update_mint (e : PumpEvent) : (p.update e).mint = p.mint := by cases e <;> rfl

@[simp] theorem update_creators (e : PumpEvent) : (p.update e).creators = p.creators := by
  cases e <;> rfl

end Bonding

structure Migrated where
  solReserves : Amount
  tokenReserves : Amount
  mint : Address
  creator : Address
  deriving DecidableEq, Repr

/-- `PumpPool::<Bonding>::migrate`: the real reserves go over. -/
def Bonding.migrate (p : Bonding) : Migrated where
  solReserves := p.realSolReserves
  tokenReserves := p.realTokenReserves
  mint := p.mint
  creator := p.creator

namespace Migrated

variable (p : Migrated)

/-- Divided in `u64`. -/
def price : Option Currency :=
  if p.tokenReserves.raw = 0 then none
  else some (.native (.fromRaw (p.solReserves.raw / p.tokenReserves.raw / 1000) 9))

/-- Divided in `u128` and cut by `as u64`. -/
def marketCap : Option Currency :=
  if p.tokenReserves.raw = 0 then none
  else
    let marketCap := p.solReserves.raw * 1_000_000_000 / p.tokenReserves.raw
    some (.native (.fromRaw (marketCap % 2 ^ 64) 9))

/-- A migrated pool takes no event. -/
def update (_event : PumpEvent) : Migrated := p

def creators : List Address := [p.creator]

def tokenDecimals (_p : Migrated) : ℕ := 6

def quoteDecimals (_p : Migrated) : ℕ := 9

end Migrated

end Loggaper
