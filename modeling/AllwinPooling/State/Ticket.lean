import AllwinPooling.State.Pool

/-!
# Ticket

The position record of `state/ticket.rs`: a user's deposits across pools, each with the pool
index it last accrued rewards at, and the rewards accrued so far.
-/

namespace AllwinPooling

/-- `MAX_OBLIGATION_RESERVES`, the deposit slots of a ticket. -/
def MAX_OBLIGATION_RESERVES : Nat := 10

/-- `TicketCollateral`: one deposit, with `index` the watermark of its reward accrual. -/
structure TicketCollateral where
  index : Decimal
  depositReserve : Pubkey
  depositedAmount : U64
  marketValue : Decimal
  deriving DecidableEq, Inhabited

/-- `Ticket`. -/
structure Ticket where
  version : UInt8
  lastUpdate : LastUpdate
  poolManager : Pubkey
  owner : Pubkey
  deposits : List TicketCollateral
  depositedValue : Decimal
  unclaimedMine : Decimal
  deriving DecidableEq, Inhabited

/-- `unclaimed + (index - watermark) * amount`, checked: the accrual of both
`refresh_deposit_unclaimed` and `Mining::refresh_unclaimed`. -/
def accrueMine (unclaimed watermark : Decimal) (amount : U64) (index : Decimal) : Result Decimal := do
  let delta ← index.trySub watermark
  let mined ← delta.tryMulU64 amount
  unclaimed.tryAdd mined

/-- `TicketCollateral::new`: a deposit of nothing, accruing from `l_token_mining_index`. -/
def TicketCollateral.new (depositReserve : Pubkey) (lTokenMiningIndex : Decimal) : TicketCollateral :=
  ⟨lTokenMiningIndex, depositReserve, 0, Decimal.zero⟩

namespace Ticket

/-- `InitTicketParams`. -/
structure InitParams where
  currentSlot : Slot
  poolManager : Pubkey
  owner : Pubkey
  deposits : List TicketCollateral

/-- `Ticket::init`: the value fields keep what the old record held. -/
def init (t : Ticket) (params : InitParams) : Ticket :=
  { t with
    version := PROGRAM_VERSION
    lastUpdate := LastUpdate.new params.currentSlot
    poolManager := params.poolManager
    owner := params.owner
    deposits := params.deposits }

/-- `refresh_deposit_unclaimed`: accrue the rewards of deposit `liquidity_index` up to the
pool's index, and move its watermark there. -/
def refreshDepositUnclaimed (t : Ticket) (liquidityIndex : Nat) (reserve : Pool) : Result Ticket := do
  let liquidity ← listIndex t.deposits liquidityIndex
  let unclaimedMine ← accrueMine t.unclaimedMine liquidity.index liquidity.depositedAmount
    reserve.lottery.lTokenMiningIndex
  return { t with
    unclaimedMine
    deposits := t.deposits.set liquidityIndex
      { liquidity with index := reserve.lottery.lTokenMiningIndex } }

/-- `deposit`: `deposited_amount += collateral_amount` on deposit `index`, checked. -/
def deposit (t : Ticket) (index : Nat) (collateralAmount : U64) : Result Ticket := do
  let liquidity ← listIndex t.deposits index
  let amount ← okOr (checkedAdd liquidity.depositedAmount collateralAmount) PoolingError.mathOverflow
  return { t with deposits := t.deposits.set index { liquidity with depositedAmount := amount } }

/-- `withdraw`: a withdrawal of the whole deposit removes it. -/
def withdraw (t : Ticket) (withdrawAmount : U64) (collateralIndex : Nat) : Result Ticket := do
  let collateral ← listIndex t.deposits collateralIndex
  if withdrawAmount = collateral.depositedAmount then
    return { t with deposits := t.deposits.eraseIdx collateralIndex }
  else
    let amount ← okOr (checkedSub collateral.depositedAmount withdrawAmount) PoolingError.mathOverflow
    return { t with deposits := t.deposits.set collateralIndex { collateral with depositedAmount := amount } }

/-- `_find_collateral_index_in_deposits`. -/
def findCollateralIndexInDeposits (t : Ticket) (depositReserve : Pubkey) : Option Nat :=
  t.deposits.findIdx? (fun c => c.depositReserve = depositReserve)

/-- `find_collateral_in_deposits`. -/
def findCollateralInDeposits (t : Ticket) (depositReserve : Pubkey) :
    Result (TicketCollateral × Nat) := do
  ensure (t.deposits ≠ []) PoolingError.obligationDepositsEmpty
  let collateralIndex ← okOr (t.findCollateralIndexInDeposits depositReserve)
    PoolingError.invalidObligationCollateral
  let collateral ← listIndex t.deposits collateralIndex
  return (collateral, collateralIndex)

/-- `find_or_add_collateral_to_deposits`: the deposit of `deposit_reserve`, added at the end
(accruing from `l_token_mining_index`) when absent and a slot is free. -/
def findOrAddCollateralToDeposits (t : Ticket) (depositReserve : Pubkey)
    (lTokenMiningIndex : Decimal) : Result (TicketCollateral × Nat × Ticket) := do
  match t.findCollateralIndexInDeposits depositReserve with
  | some collateralIndex =>
    let collateral ← listIndex t.deposits collateralIndex
    return (collateral, collateralIndex, t)
  | none =>
    ensure (t.deposits.length < MAX_OBLIGATION_RESERVES) PoolingError.obligationReserveLimit
    let collateral := TicketCollateral.new depositReserve lTokenMiningIndex
    return (collateral, t.deposits.length, { t with deposits := t.deposits ++ [collateral] })

end Ticket

end AllwinPooling
