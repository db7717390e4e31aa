import AllwinPooling.State.Common

/-!
# Pool manager

The registry record of `state/pool_manager.rs`.
-/

namespace AllwinPooling

/-- `PoolManager`. -/
structure PoolManager where
  version : UInt8
  bumpSeed : UInt8
  pendingOwner : Pubkey
  owner : Pubkey
  quoteCurrency : Bytes32
  tokenProgramId : Pubkey
  oracleProgramId : Pubkey
  mineMint : Pubkey
  mineSupplyAccount : Pubkey
  deriving DecidableEq, Inhabited

/-- `InitPoolManagerParams`. -/
structure InitPoolManagerParams where
  bumpSeed : UInt8
  owner : Pubkey
  quoteCurrency : Bytes32
  tokenProgramId : Pubkey
  oracleProgramId : Pubkey
  mineMint : Pubkey
  mineSupplyAccount : Pubkey

/-- `PoolManager::init`: every field is overwritten, the pending owner with the default key. -/
def PoolManager.init (params : InitPoolManagerParams) : PoolManager where
  version := PROGRAM_VERSION
  bumpSeed := params.bumpSeed
  pendingOwner := default
  owner := params.owner
  quoteCurrency := params.quoteCurrency
  tokenProgramId := params.tokenProgramId
  oracleProgramId := params.oracleProgramId
  mineMint := params.mineMint
  mineSupplyAccount := params.mineSupplyAccount

end AllwinPooling
