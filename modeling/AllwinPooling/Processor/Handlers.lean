import AllwinPooling.Processor.Oracle
import AllwinPooling.Processor.Instruction
import AllwinPooling.Reward.Watermark

/-!
# Handlers

The instruction handlers of `processor.rs`. A handler reads the accounts it is given and returns
the data it writes back, account by account; a handler that fails writes nothing, as the runtime
rolls the whole instruction back.
-/

namespace AllwinPooling

/-- The accounts an instruction rewrites, each with its new data. -/
abbrev Writes := List (Pubkey × List UInt8)

/-- The address `process_init_pool_manager` accepts as initializer, as `to_string` prints it. -/
def INIT_POOL_MANAGER_AUTHORITY : String := "7NzERexiPdyiNp5whD74AwTDpALp5VgPta6hmdcGuNm9"

/-! ### The account order of `InitPool`, `init_pool_accounts_index` -/

namespace InitPoolAccountsIndex

def RESERVE_ACCOUNT : Nat := 0
def LIQUIDITY_MINT : Nat := 1
def LIQUIDITY_SUPPLY : Nat := 2
def LIQUIDITY_FEE_RECEIVER : Nat := 3
def PYTH_PRODUCT : Nat := 4
def PYTH_PRICE : Nat := 5
def COLLATERAL_MINT : Nat := 6
def COLLATERAL_SUPPLY : Nat := 7
def POOL_MANAGER : Nat := 8
def POOL_MANAGER_OWNER : Nat := 9
def UN_COLL_SUPPLY : Nat := 10
def CLOCK_SYSVAR : Nat := 11
def RENT_SYSVAR : Nat := 12
def TOKEN_PROGRAM_ID : Nat := 13

end InitPoolAccountsIndex

open InitPoolAccountsIndex

/-! ### Token program calls -/

/-- A token instruction through `invoke_optionally_signed`: building it checks the token program's
address (`IncorrectProgramId`), and a failed invocation is the handler's own error. -/
def invokeToken (env : Env) (tokenProgram : AccountInfo) (instruction : TokenInstruction)
    (failed : PoolingError) : Result Unit := do
  ensure (tokenProgram.key = env.splTokenId) ProgramError.incorrectProgramId
  ensure (env.invoke instruction) failed

/-- `spl_token_transfer`. -/
def splTokenTransfer (env : Env) (source destination authority tokenProgram : AccountInfo)
    (amount : U64) : Result Unit :=
  invokeToken env tokenProgram (.transfer source.key destination.key authority.key amount)
    .tokenTransferFailed

/-- `spl_token_mint_to`. -/
def splTokenMintTo (env : Env) (mint destination authority tokenProgram : AccountInfo)
    (amount : U64) : Result Unit :=
  invokeToken env tokenProgram (.mintTo mint.key destination.key authority.key amount)
    .tokenMintToFailed

/-- `spl_token_burn`. -/
def splTokenBurn (env : Env) (mint source authority tokenProgram : AccountInfo)
    (amount : U64) : Result Unit :=
  invokeToken env tokenProgram (.burn source.key mint.key authority.key amount) .tokenBurnFailed

/-- `unpack_mint`: a mint that does not decode is `InvalidTokenMint`. -/
def unpackMint (env : Env) (data : List UInt8) : Result Mint :=
  match env.unpackMint data with
  | .ok mint => .ok mint
  | .error _ => fail .invalidTokenMint

/-! ### Initialization -/

/-- `process_init_pool_manager`. -/
def processInitPoolManager (programId : Pubkey) (env : Env) (owner : Pubkey)
    (quoteCurrency : Bytes32) (accounts : List AccountInfo) : Result Writes := do
  let (initPoolManagerAuthorityInfo, iter) ← nextAccountInfo accounts
  let (poolManagerInfo, iter) ← nextAccountInfo iter
  let (rentInfo, iter) ← nextAccountInfo iter
  let isExempt ← env.rentFromAccountInfo rentInfo
  let (tokenProgramId, iter) ← nextAccountInfo iter
  let (pythOracleProgramId, iter) ← nextAccountInfo iter
  let (mineAccountInfo, iter) ← nextAccountInfo iter
  let (mineSupplyAccountInfo, _) ← nextAccountInfo iter
  ensure (initPoolManagerAuthorityInfo.key.toBase58 = INIT_POOL_MANAGER_AUTHORITY)
    PoolingError.invalidAccountInput
  ensure initPoolManagerAuthorityInfo.isSigner PoolingError.invalidSigner
  assertRentExempt isExempt poolManagerInfo
  let _ ← assertUninitialized PoolManager.packable poolManagerInfo
  ensure (poolManagerInfo.owner = programId) PoolingError.invalidAccountOwner
  let poolManager := PoolManager.init {
    bumpSeed := (env.findProgramAddress [poolManagerInfo.key.toList] programId).2
    owner
    quoteCurrency
    tokenProgramId := tokenProgramId.key
    oracleProgramId := pythOracleProgramId.key
    mineMint := mineAccountInfo.key
    mineSupplyAccount := mineSupplyAccountInfo.key }
  let data ← PoolManager.packable.pack poolManager poolManagerInfo.data
  return [(poolManagerInfo.key, data)]

/-- `process_set_pool_manager_owner`: abandoned, it does nothing. -/
def processSetPoolManagerOwner (_programId : Pubkey) (_newOwner : Pubkey)
    (_accounts : List AccountInfo) : Result Writes :=
  .ok []

/-- `process_init_pool`. -/
def processInitPool (programId : Pubkey) (env : Env) (config : PoolConfig)
    (totalMiningSpeed kinkUtilRate : U64) (usePythOracle : Bool) (accounts : List AccountInfo) :
    Result Writes := do
  let _ ← env.clockFromAccountInfo (← accountAt accounts CLOCK_SYSVAR)
  let isExempt ← env.rentFromAccountInfo (← accountAt accounts RENT_SYSVAR)
  assertRentExempt isExempt (← accountAt accounts RESERVE_ACCOUNT)
  ensure ((← accountAt accounts RESERVE_ACCOUNT).owner = programId)
    PoolingError.invalidAccountOwner
  ensure ((← accountAt accounts LIQUIDITY_FEE_RECEIVER).owner = env.splTokenId)
    PoolingError.invalidAccountInput
  let liquidityFeeReceiver ←
    env.unpackTokenAccount (← accountAt accounts LIQUIDITY_FEE_RECEIVER).data
  ensure (liquidityFeeReceiver.mint = (← accountAt accounts LIQUIDITY_MINT).key)
    PoolingError.invalidAccountInput
  let poolManager ← PoolManager.packable.unpack (← accountAt accounts POOL_MANAGER).data
  ensure (poolManager.owner = (← accountAt accounts POOL_MANAGER_OWNER).key)
    PoolingError.invalidMarketOwner
  ensure (← accountAt accounts POOL_MANAGER_OWNER).isSigner PoolingError.invalidSigner
  ensure ((← accountAt accounts POOL_MANAGER).owner = programId) PoolingError.invalidAccountOwner
  ensure (poolManager.tokenProgramId = (← accountAt accounts TOKEN_PROGRAM_ID).key)
    PoolingError.invalidTokenProgram
  ensure (poolManager.oracleProgramId = (← accountAt accounts PYTH_PRODUCT).owner)
    PoolingError.invalidOracleConfig
  ensure (poolManager.oracleProgramId = (← accountAt accounts PYTH_PRICE).owner)
    PoolingError.invalidOracleConfig
  let pythProduct ← okOr (env.loadProduct (← accountAt accounts PYTH_PRODUCT).data)
    ProgramError.invalidAccountData
  ensure (pythProduct.magic = PYTH_MAGIC) PoolingError.invalidOracleConfig
  ensure (pythProduct.ver = PYTH_VERSION_2) PoolingError.invalidOracleConfig
  ensure (pythProduct.atype = PYTH_ACCOUNT_TYPE_PRODUCT) PoolingError.invalidOracleConfig
  ensure (pythProduct.pxAcc = (← accountAt accounts PYTH_PRICE).key)
    PoolingError.invalidOracleConfig
  let quoteCurrency ← getPythProductQuoteCurrency pythProduct
  ensure (poolManager.quoteCurrency = quoteCurrency) PoolingError.invalidOracleConfig
  ensure ((← accountAt accounts LIQUIDITY_MINT).owner = (← accountAt accounts TOKEN_PROGRAM_ID).key)
    PoolingError.invalidTokenOwner
  let marketPrice ← getPythPrice env (← accountAt accounts PYTH_PRICE)
  let reserveLiquidityMint ← unpackMint env (← accountAt accounts LIQUIDITY_MINT).data
  let slot ← env.clockFromAccountInfo (← accountAt accounts CLOCK_SYSVAR)
  let _ ← assertUninitialized Pool.packable (← accountAt accounts RESERVE_ACCOUNT)
  let reserve := Pool.init {
    currentSlot := slot
    poolManager := (← accountAt accounts POOL_MANAGER).key
    liquidity := ReserveLiquidity.new {
      mintPubkey := (← accountAt accounts LIQUIDITY_MINT).key
      mintDecimals := reserveLiquidityMint.decimals
      supplyPubkey := (← accountAt accounts LIQUIDITY_SUPPLY).key
      feeReceiver := (← accountAt accounts LIQUIDITY_FEE_RECEIVER).key
      usePythOracle
      pythOraclePubkey := (← accountAt accounts PYTH_PRICE).key
      marketPrice }
    collateral := ReserveCollateral.new (← accountAt accounts COLLATERAL_MINT).key
      (← accountAt accounts COLLATERAL_SUPPLY).key
    lottery := Lottery.new (← accountAt accounts UN_COLL_SUPPLY).key totalMiningSpeed kinkUtilRate
    config }
  let reserveInfo ← accountAt accounts RESERVE_ACCOUNT
  let data ← Pool.packable.pack reserve reserveInfo.data
  return [(reserveInfo.key, data)]

/-- `process_init_ticket`. -/
def processInitTicket (programId : Pubkey) (env : Env) (accounts : List AccountInfo) :
    Result Writes := do
  let (ticketInfo, iter) ← nextAccountInfo accounts
  let (poolManagerInfo, iter) ← nextAccountInfo iter
  let (ticketOwnerInfo, iter) ← nextAccountInfo iter
  let (clockInfo, iter) ← nextAccountInfo iter
  let slot ← env.clockFromAccountInfo clockInfo
  let (rentInfo, iter) ← nextAccountInfo iter
  let isExempt ← env.rentFromAccountInfo rentInfo
  let (tokenProgramId, _) ← nextAccountInfo iter
  assertRentExempt isExempt ticketInfo
  let ticket ← assertUninitialized Ticket.packable ticketInfo
  ensure (ticketInfo.owner = programId) PoolingError.invalidAccountOwner
  let poolManager ← PoolManager.packable.unpack poolManagerInfo.data
  ensure (poolManagerInfo.owner = programId) PoolingError.invalidAccountOwner
  ensure (poolManager.tokenProgramId = tokenProgramId.key) PoolingError.invalidTokenProgram
  ensure ticketOwnerInfo.isSigner PoolingError.invalidSigner
  let ticket := ticket.init {
    currentSlot := slot
    poolManager := poolManagerInfo.key
    owner := ticketOwnerInfo.key
    deposits := [] }
  let data ← Ticket.packable.pack ticket ticketInfo.data
  return [(ticketInfo.key, data)]

/-! ### Refreshing -/

/-- `process_refresh_reserve`: the oracle price, then the reward indices, then a fresh slot. -/
def processRefreshReserve (programId : Pubkey) (env : Env) (accounts : List AccountInfo) :
    Result Writes := do
  let (reserveInfo, iter) ← nextAccountInfo accounts
  let (reserveLiquidityOracleInfo, iter) ← nextAccountInfo iter
  let (clockInfo, _) ← nextAccountInfo iter
  let slot ← env.clockFromAccountInfo clockInfo
  let reserve ← Pool.packable.unpack reserveInfo.data
  ensure (reserveInfo.owner = programId) PoolingError.invalidAccountOwner
  ensure (reserve.liquidity.pythOraclePubkey = reserveLiquidityOracleInfo.key)
    PoolingError.invalidAccountInput
  let marketPrice ← getPythPrice env reserveLiquidityOracleInfo
  let reserve := { reserve with liquidity := { reserve.liquidity with marketPrice } }
  let reserve ← reserve.refreshIndex slot
  let reserve := { reserve with lastUpdate := reserve.lastUpdate.updateSlot slot }
  let data ← Pool.packable.pack reserve reserveInfo.data
  return [(reserveInfo.key, data)]

/-- The `for pos in 0..ticket.deposits.len()` loop of `process_refresh_ticket`: each deposit's
pool is the next account, must be fresh, and prices the deposit and accrues its rewards. -/
def refreshTicketDeposits (programId : Pubkey) (env : Env) (slot : Slot) :
    Nat → Nat → Ticket → Decimal → List AccountInfo → Result (Ticket × Decimal × List AccountInfo)
  | 0, _, ticket, depositedValue, iter => .ok (ticket, depositedValue, iter)
  | remaining + 1, pos, ticket, depositedValue, iter => do
    let (depositReserveInfo, iter) ← nextAccountInfo iter
    ensure (depositReserveInfo.owner = programId) PoolingError.invalidAccountOwner
    let collateral ← listIndex ticket.deposits pos
    ensure (collateral.depositReserve = depositReserveInfo.key) PoolingError.invalidAccountInput
    let depositReserve ← Pool.packable.unpack depositReserveInfo.data
    let stale ← depositReserve.lastUpdate.isStale slot
    ensure (stale = false) PoolingError.reserveStale
    let decimals ← okOr (checkedPow 10 depositReserve.liquidity.mintDecimals.toNat)
      PoolingError.mathOverflow
    let rate ← depositReserve.collateralExchangeRate
    let liquidity ← rate.decimalCollateralToLiquidity (Decimal.fromU64 collateral.depositedAmount)
    let value ← liquidity.tryMul depositReserve.liquidity.marketPrice
    let marketValue ← value.tryDivU64 decimals
    let ticket := { ticket with deposits := ticket.deposits.set pos { collateral with marketValue } }
    let depositedValue ← depositedValue.tryAdd marketValue
    let ticket ← ticket.refreshDepositUnclaimed pos depositReserve
    refreshTicketDeposits programId env slot remaining (pos + 1) ticket depositedValue iter

/-- `process_refresh_ticket`: exactly one fresh pool per deposit, in order, then the total value
and a fresh slot. -/
def processRefreshTicket (programId : Pubkey) (env : Env) (accounts : List AccountInfo) :
    Result Writes := do
  let (ticketInfo, iter) ← nextAccountInfo accounts
  let (clockInfo, iter) ← nextAccountInfo iter
  let slot ← env.clockFromAccountInfo clockInfo
  let ticket ← Ticket.packable.unpack ticketInfo.data
  ensure (ticketInfo.owner = programId) PoolingError.invalidAccountOwner
  let (ticket, depositedValue, iter) ←
    refreshTicketDeposits programId env slot ticket.deposits.length 0 ticket Decimal.zero iter
  ensure iter.isEmpty PoolingError.invalidAccountInput
  let ticket := { ticket with depositedValue, lastUpdate := ticket.lastUpdate.updateSlot slot }
  let data ← Ticket.packable.pack ticket ticketInfo.data
  return [(ticketInfo.key, data)]

/-! ### Deposits and redemptions -/

/-- `process_deposit_pool_liquidity`. -/
def processDepositPoolLiquidity (programId : Pubkey) (env : Env) (amount : U64)
    (accounts : List AccountInfo) : Result Writes := do
  ensure (amount ≠ 0) PoolingError.invalidAmount
  let (sourceLiquidityInfo, iter) ← nextAccountInfo accounts
  let (destinationCollateralInfo, iter) ← nextAccountInfo iter
  let (reserveInfo, iter) ← nextAccountInfo iter
  let (reserveCollateralMintInfo, iter) ← nextAccountInfo iter
  let (reserveLiquiditySupplyInfo, iter) ← nextAccountInfo iter
  let (poolManagerInfo, iter) ← nextAccountInfo iter
  let (poolManagerAuthorityInfo, iter) ← nextAccountInfo iter
  let (userTransferAuthorityInfo, iter) ← nextAccountInfo iter
  let (clockInfo, iter) ← nextAccountInfo iter
  let slot ← env.clockFromAccountInfo clockInfo
  let (tokenProgramId, _) ← nextAccountInfo iter
  let poolManager ← PoolManager.packable.unpack poolManagerInfo.data
  ensure (poolManagerInfo.owner = programId) PoolingError.invalidAccountOwner
  ensure (poolManager.tokenProgramId = tokenProgramId.key) PoolingError.invalidTokenProgram
  let reserve ← Pool.packable.unpack reserveInfo.data
  ensure (reserveInfo.owner = programId) PoolingError.invalidAccountOwner
  ensure (reserve.poolManager = poolManagerInfo.key) PoolingError.invalidAccountInput
  ensure (reserve.liquidity.supplyPubkey = reserveLiquiditySupplyInfo.key)
    PoolingError.invalidAccountInput
  ensure (reserve.collateral.mintPubkey = reserveCollateralMintInfo.key)
    PoolingError.invalidAccountInput
  ensure (reserve.liquidity.supplyPubkey ≠ sourceLiquidityInfo.key)
    PoolingError.invalidAccountInput
  ensure (reserve.collateral.supplyPubkey ≠ destinationCollateralInfo.key)
    PoolingError.invalidAccountInput
  let stale ← reserve.lastUpdate.isStale slot
  ensure (stale = false) PoolingError.reserveStale
  ensure (reserve.reentryLock = false) PoolingError.reentryLocked
  ensure (reserve.config.depositPaused = false) PoolingError.depositPaused
  let poolManagerAuthorityPubkey ←
    env.createProgramAddress [poolManagerInfo.key.toList, [poolManager.bumpSeed]] programId
  ensure (poolManagerAuthorityPubkey = poolManagerAuthorityInfo.key)
    PoolingError.invalidMarketAuthority
  let liquidityAccount ← env.unpackTokenAccount sourceLiquidityInfo.data
  let destinationCollateralAccount ← env.unpackTokenAccount destinationCollateralInfo.data
  ensure (destinationCollateralAccount.owner = liquidityAccount.owner)
    PoolingError.invalidAccountOwner
  let liquidityAmount ← (if amount.val = 2 ^ 64 - 1 then pure liquidityAccount.amount
    else do
      ensure (¬liquidityAccount.amount < amount) PoolingError.depositAmountTooLarge
      pure amount : Result U64)
  let (collateralAmount, reserve) ← reserve.depositLiquidity liquidityAmount
  let reserve := { reserve with lastUpdate := reserve.lastUpdate.markStale }
  let data ← Pool.packable.pack reserve reserveInfo.data
  splTokenTransfer env sourceLiquidityInfo reserveLiquiditySupplyInfo userTransferAuthorityInfo
    tokenProgramId liquidityAmount
  splTokenMintTo env reserveCollateralMintInfo destinationCollateralInfo poolManagerAuthorityInfo
    tokenProgramId collateralAmount
  return [(reserveInfo.key, data)]

/-- `process_redeem_pool_collateral`. -/
def processRedeemPoolCollateral (programId : Pubkey) (env : Env) (amount : U64)
    (accounts : List AccountInfo) : Result Writes := do
  ensure (amount ≠ 0) PoolingError.invalidAmount
  let (sourceCollateralInfo, iter) ← nextAccountInfo accounts
  let (destinationLiquidityInfo, iter) ← nextAccountInfo iter
  let (reserveInfo, iter) ← nextAccountInfo iter
  let (reserveCollateralMintInfo, iter) ← nextAccountInfo iter
  let (reserveLiquiditySupplyInfo, iter) ← nextAccountInfo iter
  let (lendingMarketInfo, iter) ← nextAccountInfo iter
  let (lendingMarketAuthorityInfo, iter) ← nextAccountInfo iter
  let (userTransferAuthorityInfo, iter) ← nextAccountInfo iter
  let (clockInfo, iter) ← nextAccountInfo iter
  let slot ← env.clockFromAccountInfo clockInfo
  let (tokenProgramId, _) ← nextAccountInfo iter
  let lendingMarket ← PoolManager.packable.unpack lendingMarketInfo.data
  ensure (lendingMarketInfo.owner = programId) PoolingError.invalidAccountOwner
  ensure (lendingMarket.tokenProgramId = tokenProgramId.key) PoolingError.invalidTokenProgram
  let reserve ← Pool.packable.unpack reserveInfo.data
  ensure (reserveInfo.owner = programId) PoolingError.invalidAccountOwner
  ensure (reserve.poolManager = lendingMarketInfo.key) PoolingError.invalidAccountInput
  ensure (reserve.collateral.mintPubkey = reserveCollateralMintInfo.key)
    PoolingError.invalidAccountInput
  ensure (reserve.collateral.supplyPubkey ≠ sourceCollateralInfo.key)
    PoolingError.invalidAccountInput
  ensure (reserve.liquidity.supplyPubkey = reserveLiquiditySupplyInfo.key)
    PoolingError.invalidAccountInput
  ensure (reserve.liquidity.supplyPubkey ≠ destinationLiquidityInfo.key)
    PoolingError.invalidAccountInput
  let stale ← reserve.lastUpdate.isStale slot
  ensure (stale = false) PoolingError.reserveStale
  ensure (reserve.reentryLock = false) PoolingError.reentryLocked
  let lendingMarketAuthorityPubkey ←
    env.createProgramAddress [lendingMarketInfo.key.toList, [lendingMarket.bumpSeed]] programId
  ensure (lendingMarketAuthorityPubkey = lendingMarketAuthorityInfo.key)
    PoolingError.invalidMarketAuthority
  let collateralAccount ← env.unpackTokenAccount sourceCollateralInfo.data
  let destinationLiquidityAccount ← env.unpackTokenAccount destinationLiquidityInfo.data
  ensure (destinationLiquidityAccount.owner = collateralAccount.owner)
    PoolingError.invalidAccountOwner
  let collateralAmount ← (if amount.val = 2 ^ 64 - 1 then pure collateralAccount.amount
    else do
      ensure (¬collateralAccount.amount < amount) PoolingError.redeemAmountTooLarge
      pure amount : Result U64)
  let (liquidityAmount, reserve) ← reserve.redeemCollateral collateralAmount
  let reserve := { reserve with lastUpdate := reserve.lastUpdate.markStale }
  let data ← Pool.packable.pack reserve reserveInfo.data
  splTokenBurn env reserveCollateralMintInfo sourceCollateralInfo userTransferAuthorityInfo
    tokenProgramId collateralAmount
  splTokenTransfer env reserveLiquiditySupplyInfo destinationLiquidityInfo
    lendingMarketAuthorityInfo tokenProgramId liquidityAmount
  return [(reserveInfo.key, data)]

/-- `process_lottery_draw`: does nothing. -/
def processLotteryDraw (_programId : Pubkey) (_accounts : List AccountInfo) : Result Writes :=
  .ok []

/-! ### Dispatch -/

/-- The `match instruction` of `process_instruction`. -/
def PoolingInstruction.process (programId : Pubkey) (env : Env) (accounts : List AccountInfo) :
    PoolingInstruction → Result Writes
  | .initPoolingManager owner quoteCurrency =>
    processInitPoolManager programId env owner quoteCurrency accounts
  | .initPool config totalMiningSpeed kinkUtilRate usePythOracle =>
    processInitPool programId env config totalMiningSpeed kinkUtilRate usePythOracle accounts
  | .initTicket => processInitTicket programId env accounts
  | .depositPoolLiquidity liquidityAmount =>
    processDepositPoolLiquidity programId env liquidityAmount accounts
  | .redeemPoolCollateral collateralAmount =>
    processRedeemPoolCollateral programId env collateralAmount accounts
  | .refreshPool => processRefreshReserve programId env accounts
  | .setPoolingManagerOwner newOwner => processSetPoolManagerOwner programId newOwner accounts
  | .refreshTicket => processRefreshTicket programId env accounts
  | .lotteryDraw => processLotteryDraw programId accounts

/-- `process_instruction`: decode, then dispatch. -/
def processInstruction (programId : Pubkey) (env : Env) (accounts : List AccountInfo)
    (input : List UInt8) : Result Writes := do
  let instruction ← PoolingInstruction.unpack env.unpackUtil input
  instruction.process programId env accounts

end AllwinPooling
