import AllwinPooling.Runtime.Account

/-!
# Instructions

`PoolingInstruction` and its decoder: a tag byte, then the instruction's fields, each read by one of
the `unpack_util` readers.
-/

namespace AllwinPooling

/-- `PoolingInstruction`. -/
inductive PoolingInstruction where
  | initPoolingManager (owner : Pubkey) (quoteCurrency : Bytes32)
  | setPoolingManagerOwner (newOwner : Pubkey)
  | initPool (config : PoolConfig) (totalMiningSpeed kinkUtilRate : U64) (usePythOracle : Bool)
  | refreshPool
  | depositPoolLiquidity (liquidityAmount : U64)
  | redeemPoolCollateral (collateralAmount : U64)
  | initTicket
  | refreshTicket
  | lotteryDraw

/-- `PoolingInstruction::unpack`, with the readers of the missing `unpack_util` module as given:
an unknown tag is `InstructionUnpackError`, and `InitPool` always carries an unpaused config. -/
def PoolingInstruction.unpack (util : UnpackUtil) (input : List UInt8) :
    Result PoolingInstruction := do
  let (tag, rest) ← okOr (match input with | b :: rest => some (b, rest) | [] => none)
    PoolingError.instructionUnpackError
  match tag.toNat with
  | 0 => do
    let (owner, rest) ← util.unpackPubkey rest
    let (quoteCurrency, _) ← util.unpackBytes32 rest
    return .initPoolingManager owner quoteCurrency
  | 1 => do
    let (newOwner, _) ← util.unpackPubkey rest
    return .setPoolingManagerOwner newOwner
  | 2 => do
    let (totalMiningSpeed, rest) ← util.unpackU64 rest
    let (kinkUtilRate, rest) ← util.unpackU64 rest
    let (usePythOracle, _) ← util.unpackBool rest
    return .initPool ⟨false⟩ totalMiningSpeed kinkUtilRate usePythOracle
  | 3 => return .refreshPool
  | 4 => do
    let (liquidityAmount, _) ← util.unpackU64 rest
    return .depositPoolLiquidity liquidityAmount
  | 5 => do
    let (collateralAmount, _) ← util.unpackU64 rest
    return .redeemPoolCollateral collateralAmount
  | 6 => return .initTicket
  | 7 => return .refreshTicket
  | 8 => return .lotteryDraw
  | _ => fail .instructionUnpackError

end AllwinPooling
