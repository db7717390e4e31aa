import AllwinPooling.State.Common

/-!
# Pool

The pool record of `state/pool.rs` and the operations the processor calls on it: the reward
index refresh, deposit and redeem through the collateral exchange rate, and the liquidity
bookkeeping under them.
-/

namespace AllwinPooling

/-- `ReserveLiquidity`. -/
structure ReserveLiquidity where
  mintPubkey : Pubkey
  mintDecimals : UInt8
  supplyPubkey : Pubkey
  feeReceiver : Pubkey
  usePythOracle : Bool
  pythOraclePubkey : Pubkey
  availableAmount : U64
  borrowedAmountWads : Decimal
  cumulativeBorrowRateWads : Decimal
  marketPrice : Decimal
  ownerUnclaimed : Decimal
  deriving DecidableEq, Inhabited

/-- `ReserveCollateral`. -/
structure ReserveCollateral where
  mintPubkey : Pubkey
  mintTotalSupply : U64
  supplyPubkey : Pubkey
  deriving DecidableEq, Inhabited

/-- `PoolConfig`. -/
structure PoolConfig where
  depositPaused : Bool
  deriving DecidableEq, Inhabited

/-- `Lottery`, the reward state of a pool. -/
structure Lottery where
  unCollSupplyAccount : Pubkey
  lTokenMiningIndex : Decimal
  borrowMiningIndex : Decimal
  totalMiningSpeed : U64
  kinkUtilRate : U64
  deriving DecidableEq, Inhabited

/-- `Pool`. -/
structure Pool where
  version : UInt8
  lastUpdate : LastUpdate
  poolManager : Pubkey
  liquidity : ReserveLiquidity
  collateral : ReserveCollateral
  config : PoolConfig
  lottery : Lottery
  reentryLock : Bool
  deriving DecidableEq, Inhabited

/-! ### Liquidity -/

/-- `NewReserveLiquidityParams`. -/
structure NewReserveLiquidityParams where
  mintPubkey : Pubkey
  mintDecimals : UInt8
  supplyPubkey : Pubkey
  feeReceiver : Pubkey
  usePythOracle : Bool
  pythOraclePubkey : Pubkey
  marketPrice : Decimal

namespace ReserveLiquidity

/-- `ReserveLiquidity::new`: nothing available or borrowed, borrow rate one, no owner fee. -/
def new (params : NewReserveLiquidityParams) : ReserveLiquidity where
  mintPubkey := params.mintPubkey
  mintDecimals := params.mintDecimals
  supplyPubkey := params.supplyPubkey
  feeReceiver := params.feeReceiver
  usePythOracle := params.usePythOracle
  pythOraclePubkey := params.pythOraclePubkey
  availableAmount := 0
  borrowedAmountWads := Decimal.zero
  cumulativeBorrowRateWads := Decimal.one
  marketPrice := params.marketPrice
  ownerUnclaimed := Decimal.zero

/-- `total_supply`: available plus borrowed, less the owner's fee, floored at zero. -/
def totalSupply (l : ReserveLiquidity) : Result Decimal := do
  let allLiquidity ← (Decimal.fromU64 l.availableAmount).tryAdd l.borrowedAmountWads
  if allLiquidity < l.ownerUnclaimed then return Decimal.zero
  else allLiquidity.trySub l.ownerUnclaimed

/-- `deposit`: `available_amount += liquidity_amount`, checked. -/
def deposit (l : ReserveLiquidity) (liquidityAmount : U64) : Result ReserveLiquidity := do
  let available ← okOr (checkedAdd l.availableAmount liquidityAmount) PoolingError.mathOverflow
  return { l with availableAmount := available }

/-- `liquidity_amount`: what is available above the owner's fee, rounded up. -/
def liquidityAmount (l : ReserveLiquidity) : Result U64 :=
  if Decimal.fromU64 l.availableAmount < l.ownerUnclaimed then return 0
  else do
    let fee ← l.ownerUnclaimed.tryCeilU64
    okOr (checkedSub l.availableAmount fee) PoolingError.mathOverflow

/-- `withdraw`: refuses more than `liquidity_amount` with `InsufficientLiquidity`. -/
def withdraw (l : ReserveLiquidity) (liquidityAmount : U64) : Result ReserveLiquidity := do
  let free ← l.liquidityAmount
  ensure (¬free < liquidityAmount) PoolingError.insufficientLiquidity
  let available ← okOr (checkedSub l.availableAmount liquidityAmount) PoolingError.mathOverflow
  return { l with availableAmount := available }

/-- `borrow`: refuses a borrow whose ceiling exceeds `liquidity_amount` with
`InsufficientLiquidity`; the borrow rounded half up leaves the available amount, and the exact
borrow joins the borrowed amount. -/
def borrow (l : ReserveLiquidity) (borrowDecimal : Decimal) : Result ReserveLiquidity := do
  let ceil ← borrowDecimal.tryCeilU64
  let free ← l.liquidityAmount
  ensure (¬free < ceil) PoolingError.insufficientLiquidity
  let rounded ← borrowDecimal.tryRoundU64
  let available ← okOr (checkedSub l.availableAmount rounded) PoolingError.mathOverflow
  let borrowed ← l.borrowedAmountWads.tryAdd borrowDecimal
  return { l with availableAmount := available, borrowedAmountWads := borrowed }

/-- `decimal_liquidity_amount`: what is available above the owner's fee, exact. -/
def decimalLiquidityAmount (l : ReserveLiquidity) : Result Decimal :=
  if Decimal.fromU64 l.availableAmount < l.ownerUnclaimed then return Decimal.zero
  else (Decimal.fromU64 l.availableAmount).trySub l.ownerUnclaimed

/-- `repay`: `repay_amount` back into the available amount, `settle_amount` off the borrowed
amount, both checked. -/
def repay (l : ReserveLiquidity) (repayAmount : U64) (settleAmount : Decimal) :
    Result ReserveLiquidity := do
  let available ← okOr (checkedAdd l.availableAmount repayAmount) PoolingError.mathOverflow
  let borrowed ← l.borrowedAmountWads.trySub settleAmount
  return { l with availableAmount := available, borrowedAmountWads := borrowed }

/-- `utilization_rate`: zero with nothing supplied or less than one unit borrowed, one when more is
borrowed than supplied, and otherwise borrowed over supplied. -/
def utilizationRate (l : ReserveLiquidity) : Result Rate := do
  let totalSupply ← l.totalSupply
  if totalSupply = Decimal.zero then return Rate.zero
  else if l.borrowedAmountWads < Decimal.one then return Rate.zero
  else if totalSupply < l.borrowedAmountWads then return Rate.one
  else do
    let ratio ← l.borrowedAmountWads.tryDiv totalSupply
    Rate.tryFromDecimal ratio

end ReserveLiquidity

/-! ### Collateral and the exchange rate -/

/-- `CollateralExchangeRate`, collateral per unit of liquidity. -/
structure CollateralExchangeRate where
  rate : Rate
  deriving DecidableEq

namespace ReserveCollateral

/-- `ReserveCollateral::new`: no collateral minted. -/
def new (mintPubkey supplyPubkey : Pubkey) : ReserveCollateral :=
  ⟨mintPubkey, 0, supplyPubkey⟩

/-- `mint`: `mint_total_supply += collateral_amount`, checked. -/
def mint (c : ReserveCollateral) (collateralAmount : U64) : Result ReserveCollateral := do
  let supply ← okOr (checkedAdd c.mintTotalSupply collateralAmount) PoolingError.mathOverflow
  return { c with mintTotalSupply := supply }

/-- `burn`: `mint_total_supply -= collateral_amount`, checked. -/
def burn (c : ReserveCollateral) (collateralAmount : U64) : Result ReserveCollateral := do
  let supply ← okOr (checkedSub c.mintTotalSupply collateralAmount) PoolingError.mathOverflow
  return { c with mintTotalSupply := supply }

/-- `exchange_rate`: supply over liquidity, or the initial rate while either is zero. -/
def exchangeRate (c : ReserveCollateral) (totalLiquidity : Decimal) :
    Result CollateralExchangeRate := do
  if c.mintTotalSupply = 0 ∨ totalLiquidity = Decimal.zero then
    return ⟨Rate.fromScaledVal INITIAL_COLLATERAL_RATE⟩
  else
    let ratio ← (Decimal.fromU64 c.mintTotalSupply).tryDiv totalLiquidity
    let rate ← Rate.tryFromDecimal ratio
    return ⟨rate⟩

end ReserveCollateral

namespace CollateralExchangeRate

/-- `collateral_to_liquidity`: `collateral / rate`, floored. -/
def collateralToLiquidity (r : CollateralExchangeRate) (collateralAmount : U64) : Result U64 := do
  let liquidity ← (Decimal.fromU64 collateralAmount).tryDivRate r.rate
  liquidity.tryFloorU64

/-- `decimal_collateral_to_liquidity`: `collateral / rate`. -/
def decimalCollateralToLiquidity (r : CollateralExchangeRate) (collateralAmount : Decimal) :
    Result Decimal :=
  collateralAmount.tryDivRate r.rate

/-- `liquidity_to_collateral`: `rate * liquidity`, rounded half up. -/
def liquidityToCollateral (r : CollateralExchangeRate) (liquidityAmount : U64) : Result U64 := do
  let collateral ← r.rate.tryMulU64 liquidityAmount
  collateral.tryRoundU64

/-- `decimal_liquidity_to_collateral`: `liquidity * rate`. -/
def decimalLiquidityToCollateral (r : CollateralExchangeRate) (liquidityAmount : Decimal) :
    Result Decimal :=
  liquidityAmount.tryMulRate r.rate

end CollateralExchangeRate

/-! ### The pool -/

/-- `Lottery::new`: both indices start at zero. -/
def Lottery.new (unCollSupplyAccount : Pubkey) (totalMiningSpeed kinkUtilRate : U64) : Lottery :=
  ⟨unCollSupplyAccount, Decimal.zero, Decimal.zero, totalMiningSpeed, kinkUtilRate⟩

/-- `InitPoolParams`. -/
structure InitPoolParams where
  currentSlot : Slot
  poolManager : Pubkey
  liquidity : ReserveLiquidity
  collateral : ReserveCollateral
  config : PoolConfig
  lottery : Lottery

namespace Pool

/-- `Pool::init`: every field is overwritten, so the old record does not matter. -/
def init (params : InitPoolParams) : Pool where
  version := PROGRAM_VERSION
  lastUpdate := LastUpdate.new params.currentSlot
  poolManager := params.poolManager
  liquidity := params.liquidity
  collateral := params.collateral
  config := params.config
  lottery := params.lottery
  reentryLock := false

/-- `get_mine_ratio`: the utilization curve is commented out; both sides are
`Rate::one().try_div(Rate::from_percent(50))`. -/
def getMineRatio (_p : Pool) : Result (Rate × Rate) := do
  let lendSideMineRatio ← Rate.one.tryDiv (Rate.fromPercent 50)
  let borrowSideMineRatio ← Rate.one.tryDiv (Rate.fromPercent 50)
  return (lendSideMineRatio, borrowSideMineRatio)

/-- `speed * elapsed * ratio`, the reward both indices are credited before division. -/
def minedAmount (p : Pool) (slot : Slot) (ratio : Rate) : Result Decimal := do
  let elapsed ← okOr (checkedSub slot p.lastUpdate.slot) PoolingError.mathOverflow
  let mined ← (Decimal.fromU64 p.lottery.totalMiningSpeed).tryMulU64 elapsed
  mined.tryMulRate ratio

/-- `refresh_index`: credit `speed * elapsed * ratio` per unit of collateral to the lending
index, and per unit of borrowed share to the borrowing index when that share is at least one. -/
def refreshIndex (p : Pool) (slot : Slot) : Result Pool :=
  if p.collateral.mintTotalSupply = 0 then .ok p
  else do
    let (lendSideMineRatio, borrowSideMineRatio) ← p.getMineRatio
    let lendMined ← p.minedAmount slot lendSideMineRatio
    let lendIncrement ← lendMined.tryDivU64 p.collateral.mintTotalSupply
    let lTokenMiningIndex ← p.lottery.lTokenMiningIndex.tryAdd lendIncrement
    let p := { p with lottery := { p.lottery with lTokenMiningIndex } }
    let originalShare ← p.liquidity.borrowedAmountWads.tryDiv p.liquidity.cumulativeBorrowRateWads
    if originalShare < Decimal.one then .ok p
    else do
      let borrowMined ← p.minedAmount slot borrowSideMineRatio
      let borrowIncrement ← borrowMined.tryDiv originalShare
      let borrowMiningIndex ← p.lottery.borrowMiningIndex.tryAdd borrowIncrement
      return { p with lottery := { p.lottery with borrowMiningIndex } }

/-- `collateral_exchange_rate`. -/
def collateralExchangeRate (p : Pool) : Result CollateralExchangeRate := do
  let totalLiquidity ← p.liquidity.totalSupply
  p.collateral.exchangeRate totalLiquidity

/-- `deposit_liquidity`: the collateral to mint for `liquidity_amount`, and the pool after. -/
def depositLiquidity (p : Pool) (liquidityAmount : U64) : Result (U64 × Pool) := do
  let rate ← p.collateralExchangeRate
  let collateralAmount ← rate.liquidityToCollateral liquidityAmount
  let liquidity ← p.liquidity.deposit liquidityAmount
  let collateral ← p.collateral.mint collateralAmount
  return (collateralAmount, { p with liquidity, collateral })

/-- `redeem_collateral`: the liquidity to pay out for `collateral_amount`, and the pool after. -/
def redeemCollateral (p : Pool) (collateralAmount : U64) : Result (U64 × Pool) := do
  let rate ← p.collateralExchangeRate
  let liquidityAmount ← rate.collateralToLiquidity collateralAmount
  let collateral ← p.collateral.burn collateralAmount
  let liquidity ← p.liquidity.withdraw liquidityAmount
  return (liquidityAmount, { p with liquidity, collateral })

end Pool

end AllwinPooling
