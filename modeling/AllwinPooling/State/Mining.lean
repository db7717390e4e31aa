import AllwinPooling.State.Ticket

/-!
# Mining

The side ledger of `state/mining.rs`: a user's collateral tokens held outside any ticket, per
pool, each with its own reward watermark.
-/

namespace AllwinPooling

/-- `MAX_MINING_VOLUME`, the entry slots of a mining record. -/
def MAX_MINING_VOLUME : Nat := 10

/-- `MiningIndex`: one pool's holding, with `index` the watermark of its reward accrual. -/
structure MiningIndex where
  reserve : Pubkey
  unCollLTokenAmount : U64
  index : Decimal
  deriving DecidableEq, Inhabited

/-- `Mining`. -/
structure Mining where
  version : UInt8
  owner : Pubkey
  poolManager : Pubkey
  miningIndices : List MiningIndex
  unclaimedMine : Decimal
  deriving DecidableEq, Inhabited

/-- `MiningIndex::new`: a holding of nothing, accruing from `l_token_mining_index`. -/
def MiningIndex.new (reserve : Pubkey) (lTokenMiningIndex : Decimal) : MiningIndex :=
  ⟨reserve, 0, lTokenMiningIndex⟩

namespace Mining

/-- `refresh_unclaimed`: accrue the rewards of entry `index` up to the pool's index, and move
its watermark there. -/
def refreshUnclaimed (m : Mining) (index : Nat) (reserve : Pool) : Result Mining := do
  let miningIndex ← listIndex m.miningIndices index
  let unclaimedMine ← accrueMine m.unclaimedMine miningIndex.index miningIndex.unCollLTokenAmount
    reserve.lottery.lTokenMiningIndex
  let entry ← listIndex m.miningIndices index
  return { m with
    unclaimedMine
    miningIndices := m.miningIndices.set index { entry with index := reserve.lottery.lTokenMiningIndex } }

/-- `_find_index_in_mining_indices`. -/
def findIndexInMiningIndices (m : Mining) (reserve : Pubkey) : Option Nat :=
  m.miningIndices.findIdx? (fun e => e.reserve = reserve)

/-- `find_mining_index`. -/
def findMiningIndex (m : Mining) (reserve : Pubkey) : Result Nat := do
  ensure (m.miningIndices ≠ []) PoolingError.miningReserveEmpty
  okOr (m.findIndexInMiningIndices reserve) PoolingError.invalidMiningReserve

/-- `find_or_add_reserve_in_vec`: the entry of `reserve`, added at the end (accruing from
`l_token_mining_index`) when absent and a slot is free. -/
def findOrAddReserveInVec (m : Mining) (reserve : Pubkey) (lTokenMiningIndex : Decimal) :
    Result (MiningIndex × Nat × Mining) := do
  match m.findIndexInMiningIndices reserve with
  | some i =>
    let entry ← listIndex m.miningIndices i
    return (entry, i, m)
  | none =>
    ensure (m.miningIndices.length < MAX_MINING_VOLUME) PoolingError.miningVolumeLimit
    let entry := MiningIndex.new reserve lTokenMiningIndex
    return (entry, m.miningIndices.length, { m with miningIndices := m.miningIndices ++ [entry] })

/-- `deposit`: `un_coll_l_token_amount += amount` on entry `index`, checked. -/
def deposit (m : Mining) (index : Nat) (amount : U64) : Result Mining := do
  let entry ← listIndex m.miningIndices index
  let total ← okOr (checkedAdd entry.unCollLTokenAmount amount) PoolingError.mathOverflow
  return { m with miningIndices := m.miningIndices.set index { entry with unCollLTokenAmount := total } }

/-- `withdraw`: a withdrawal of the whole holding removes the entry. -/
def withdraw (m : Mining) (index : Nat) (amount : U64) : Result Mining := do
  let entry ← listIndex m.miningIndices index
  if amount = entry.unCollLTokenAmount then
    return { m with miningIndices := m.miningIndices.eraseIdx index }
  else
    let rest ← okOr (checkedSub entry.unCollLTokenAmount amount) PoolingError.mathOverflow
    return { m with miningIndices := m.miningIndices.set index { entry with unCollLTokenAmount := rest } }

end Mining

end AllwinPooling
