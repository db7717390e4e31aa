import AllwinPooling.Codec.PoolManager
import AllwinPooling.State.Pool

/-!
# Pool layout

`impl Pack for Pool`: 646 bytes, 25 fields and 248 bytes of padding. A `Decimal` field is stored
as its `u128` scaled value, so packing panics on one at or above `2^128`.
-/

namespace AllwinPooling

/-- `RESERVE_LEN`. -/
def RESERVE_LEN : Nat := 646

namespace Pool

/-- `pack_into_slice`: the fields in layout order over the first 398 bytes, the padding kept. The
six `pack_decimal` calls run in the source's order, and the first that panics ends the call. -/
def packIntoSlice (p : Pool) (output : List UInt8) : Result (List UInt8) := do
  let _ ← arrayRef output RESERVE_LEN
  let liquidityBorrowedAmountWads ← packDecimal p.liquidity.borrowedAmountWads
  let liquidityCumulativeBorrowRateWads ← packDecimal p.liquidity.cumulativeBorrowRateWads
  let liquidityMarketPrice ← packDecimal p.liquidity.marketPrice
  let lTokenMiningIndex ← packDecimal p.lottery.lTokenMiningIndex
  let borrowMiningIndex ← packDecimal p.lottery.borrowMiningIndex
  let ownerUnclaimed ← packDecimal p.liquidity.ownerUnclaimed
  return [p.version] ++ u64ToLe p.lastUpdate.slot ++ packBool p.lastUpdate.stale ++
    p.poolManager.toList ++ p.liquidity.mintPubkey.toList ++ [p.liquidity.mintDecimals] ++
    p.liquidity.supplyPubkey.toList ++ p.liquidity.feeReceiver.toList ++
    packBool p.liquidity.usePythOracle ++ p.liquidity.pythOraclePubkey.toList ++
    u64ToLe p.liquidity.availableAmount ++ liquidityBorrowedAmountWads ++
    liquidityCumulativeBorrowRateWads ++ liquidityMarketPrice ++ ownerUnclaimed ++
    p.collateral.mintPubkey.toList ++ u64ToLe p.collateral.mintTotalSupply ++
    p.collateral.supplyPubkey.toList ++ packBool p.config.depositPaused ++
    p.lottery.unCollSupplyAccount.toList ++ lTokenMiningIndex ++ borrowMiningIndex ++
    u64ToLe p.lottery.totalMiningSpeed ++ u64ToLe p.lottery.kinkUtilRate ++
    packBool p.reentryLock ++ output.drop 398

/-- `unpack_from_slice`: a version above `PROGRAM_VERSION`, or a flag byte other than 0 and 1, is
`InvalidAccountData`. -/
def unpackFromSlice (input : List UInt8) : Result Pool := do
  let input ← arrayRef input RESERVE_LEN
  let (version, input) := input.splitAt 1
  let (lastUpdateSlot, input) := input.splitAt 8
  let (lastUpdateStale, input) := input.splitAt 1
  let (poolManager, input) := input.splitAt 32
  let (liquidityMintPubkey, input) := input.splitAt 32
  let (liquidityMintDecimals, input) := input.splitAt 1
  let (liquiditySupplyPubkey, input) := input.splitAt 32
  let (liquidityFeeReceiver, input) := input.splitAt 32
  let (liquidityUsePythOracle, input) := input.splitAt 1
  let (liquidityPythOraclePubkey, input) := input.splitAt 32
  let (liquidityAvailableAmount, input) := input.splitAt 8
  let (liquidityBorrowedAmountWads, input) := input.splitAt 16
  let (liquidityCumulativeBorrowRateWads, input) := input.splitAt 16
  let (liquidityMarketPrice, input) := input.splitAt 16
  let (ownerUnclaimed, input) := input.splitAt 16
  let (collateralMintPubkey, input) := input.splitAt 32
  let (collateralMintTotalSupply, input) := input.splitAt 8
  let (collateralSupplyPubkey, input) := input.splitAt 32
  let (depositPaused, input) := input.splitAt 1
  let (unCollSupplyAccount, input) := input.splitAt 32
  let (lTokenMiningIndex, input) := input.splitAt 16
  let (borrowMiningIndex, input) := input.splitAt 16
  let (totalMiningSpeed, input) := input.splitAt 8
  let (kinkUtilRate, input) := input.splitAt 8
  let (reentryLock, _padding) := input.splitAt 1
  let version := u8FromLe version
  ensure (¬PROGRAM_VERSION < version) ProgramError.invalidAccountData
  return {
    version
    lastUpdate := { slot := u64FromLe lastUpdateSlot, stale := ← unpackBool lastUpdateStale }
    poolManager := .ofList poolManager
    liquidity := {
      mintPubkey := .ofList liquidityMintPubkey
      mintDecimals := u8FromLe liquidityMintDecimals
      supplyPubkey := .ofList liquiditySupplyPubkey
      feeReceiver := .ofList liquidityFeeReceiver
      usePythOracle := ← unpackBool liquidityUsePythOracle
      pythOraclePubkey := .ofList liquidityPythOraclePubkey
      availableAmount := u64FromLe liquidityAvailableAmount
      borrowedAmountWads := unpackDecimal liquidityBorrowedAmountWads
      cumulativeBorrowRateWads := unpackDecimal liquidityCumulativeBorrowRateWads
      marketPrice := unpackDecimal liquidityMarketPrice
      ownerUnclaimed := unpackDecimal ownerUnclaimed }
    collateral := {
      mintPubkey := .ofList collateralMintPubkey
      mintTotalSupply := u64FromLe collateralMintTotalSupply
      supplyPubkey := .ofList collateralSupplyPubkey }
    config := { depositPaused := ← unpackBool depositPaused }
    lottery := {
      unCollSupplyAccount := .ofList unCollSupplyAccount
      lTokenMiningIndex := unpackDecimal lTokenMiningIndex
      borrowMiningIndex := unpackDecimal borrowMiningIndex
      totalMiningSpeed := u64FromLe totalMiningSpeed
      kinkUtilRate := u64FromLe kinkUtilRate }
    reentryLock := ← unpackBool reentryLock }

/-- Every `Decimal` of the pool fits the 128-bit packed form. -/
def DecimalsFit (p : Pool) : Prop :=
  p.liquidity.borrowedAmountWads.val < 2 ^ 128 ∧ p.liquidity.cumulativeBorrowRateWads.val < 2 ^ 128 ∧
    p.liquidity.marketPrice.val < 2 ^ 128 ∧ p.lottery.lTokenMiningIndex.val < 2 ^ 128 ∧
    p.lottery.borrowMiningIndex.val < 2 ^ 128 ∧ p.liquidity.ownerUnclaimed.val < 2 ^ 128

instance (p : Pool) : Decidable p.DecimalsFit :=
  inferInstanceAs (Decidable (_ ∧ _ ∧ _ ∧ _ ∧ _ ∧ _))

theorem unpackFromSlice_packIntoSlice (p : Pool) {output : List UInt8}
    (length : output.length = RESERVE_LEN) (current : p.version ≤ PROGRAM_VERSION)
    (fit : p.DecimalsFit) :
    (p.packIntoSlice output >>= unpackFromSlice) = .ok p := by
  obtain ⟨borrowed, rate, price, lending, borrowing, fee⟩ := fit
  have packed : ([p.version] ++ u64ToLe p.lastUpdate.slot ++ packBool p.lastUpdate.stale ++
      p.poolManager.toList ++ p.liquidity.mintPubkey.toList ++ [p.liquidity.mintDecimals] ++
      p.liquidity.supplyPubkey.toList ++ p.liquidity.feeReceiver.toList ++
      packBool p.liquidity.usePythOracle ++ p.liquidity.pythOraclePubkey.toList ++
      u64ToLe p.liquidity.availableAmount ++ toLE 16 p.liquidity.borrowedAmountWads.val ++
      toLE 16 p.liquidity.cumulativeBorrowRateWads.val ++ toLE 16 p.liquidity.marketPrice.val ++
      toLE 16 p.liquidity.ownerUnclaimed.val ++
      p.collateral.mintPubkey.toList ++ u64ToLe p.collateral.mintTotalSupply ++
      p.collateral.supplyPubkey.toList ++ packBool p.config.depositPaused ++
      p.lottery.unCollSupplyAccount.toList ++ toLE 16 p.lottery.lTokenMiningIndex.val ++
      toLE 16 p.lottery.borrowMiningIndex.val ++
      u64ToLe p.lottery.totalMiningSpeed ++ u64ToLe p.lottery.kinkUtilRate ++
      packBool p.reentryLock ++ output.drop 398).length = RESERVE_LEN := by
    simp [length, RESERVE_LEN]
  simp only [packIntoSlice, unpackFromSlice, arrayRef_of_length length, packDecimal_of_lt borrowed,
    packDecimal_of_lt rate, packDecimal_of_lt price, packDecimal_of_lt lending,
    packDecimal_of_lt borrowing, packDecimal_of_lt fee, ok_bind, pure_eq_ok,
    arrayRef_of_length packed]
  simp only [List.append_assoc, splitAt_append_of_length, List.length_singleton,
    Bytes32.length_toList, length_u64ToLe, length_packBool, length_toLE, u8FromLe_singleton,
    Bytes32.ofList_toList, u64FromLe_u64ToLe, unpackBool_packBool, unpackDecimal_toLE borrowed,
    unpackDecimal_toLE rate, unpackDecimal_toLE price, unpackDecimal_toLE lending,
    unpackDecimal_toLE borrowing, unpackDecimal_toLE fee, ensure_of_true (UInt8.not_lt.mpr current),
    ok_bind]

theorem packIntoSlice_unpackFromSlice {input : List UInt8} {p : Pool}
    (length : input.length = RESERVE_LEN) (decoded : unpackFromSlice input = .ok p) :
    p.packIntoSlice input = .ok input := by
  rw [unpackFromSlice, arrayRef_of_length length, ok_bind] at decoded
  dsimp only at decoded
  simp only [ensure_bind_ok] at decoded
  obtain ⟨-, decoded⟩ := decoded
  obtain ⟨stale, staleOk, decoded⟩ := bind_ok decoded
  obtain ⟨pyth, pythOk, decoded⟩ := bind_ok decoded
  obtain ⟨paused, pausedOk, decoded⟩ := bind_ok decoded
  obtain ⟨lock, lockOk, decoded⟩ := bind_ok decoded
  cases decoded
  rw [packIntoSlice, arrayRef_of_length length]
  simp [List.splitAt_eq, packBool_unpackBool staleOk, packBool_unpackBool pythOk,
    packBool_unpackBool pausedOk, packBool_unpackBool lockOk, packDecimal_unpackDecimal,
    u64ToLe_u64FromLe, Bytes32.toList_ofList, singleton_u8FromLe, take_drop_append_drop, length,
    RESERVE_LEN, -List.drop_one]

/-- A decoded pool has a version this code reads. -/
theorem unpackFromSlice_current {input : List UInt8} {p : Pool}
    (length : input.length = RESERVE_LEN) (decoded : unpackFromSlice input = .ok p) :
    p.version ≤ PROGRAM_VERSION := by
  rw [unpackFromSlice, arrayRef_of_length length, ok_bind] at decoded
  dsimp only at decoded
  simp only [ensure_bind_ok] at decoded
  obtain ⟨current, decoded⟩ := decoded
  iterate 4 obtain ⟨_, -, decoded⟩ := bind_ok decoded
  cases decoded
  exact UInt8.not_lt.mp current

/-- A pool that packed fits the layout; packing keeps the buffer's length and writes the version
first. -/
theorem packIntoSlice_ok {p : Pool} {output out : List UInt8}
    (length : output.length = RESERVE_LEN) (packed : p.packIntoSlice output = .ok out) :
    p.DecimalsFit ∧ out.length = RESERVE_LEN ∧ out.head? = some p.version := by
  rw [packIntoSlice, arrayRef_of_length length, ok_bind] at packed
  obtain ⟨_, borrowed, packed⟩ := bind_ok packed
  obtain ⟨_, rate, packed⟩ := bind_ok packed
  obtain ⟨_, price, packed⟩ := bind_ok packed
  obtain ⟨_, lending, packed⟩ := bind_ok packed
  obtain ⟨_, borrowing, packed⟩ := bind_ok packed
  obtain ⟨_, fee, packed⟩ := bind_ok packed
  rw [pure_eq_ok, Except.ok.injEq] at packed
  subst packed
  obtain ⟨borrowedFit, rfl⟩ := packDecimal_eq_ok.mp borrowed
  obtain ⟨rateFit, rfl⟩ := packDecimal_eq_ok.mp rate
  obtain ⟨priceFit, rfl⟩ := packDecimal_eq_ok.mp price
  obtain ⟨lendingFit, rfl⟩ := packDecimal_eq_ok.mp lending
  obtain ⟨borrowingFit, rfl⟩ := packDecimal_eq_ok.mp borrowing
  obtain ⟨feeFit, rfl⟩ := packDecimal_eq_ok.mp fee
  refine ⟨⟨borrowedFit, rateFit, priceFit, lendingFit, borrowingFit, feeFit⟩, ?_, ?_⟩
  · simp [length, RESERVE_LEN]
  · simp only [List.append_assoc, List.singleton_append]; rfl

theorem unpackFromSlice_ne_panic {input : List UInt8} (length : input.length = RESERVE_LEN) :
    unpackFromSlice input ≠ .error .panic := by
  rw [unpackFromSlice, arrayRef_of_length length, ok_bind]
  dsimp only
  refine bind_ne_panic (ensure_ne_panic _) fun _ => ?_
  refine bind_ne_panic (unpackBool_ne_panic _) fun _ => ?_
  refine bind_ne_panic (unpackBool_ne_panic _) fun _ => ?_
  refine bind_ne_panic (unpackBool_ne_panic _) fun _ => ?_
  exact bind_ne_panic (unpackBool_ne_panic _) fun _ => nofun

end Pool

/-- The pool manager and pool layouts are a bijection between the records that fit them and the
buffers that decode. -/
theorem fixed_layout_codecs_bijective :
    (∀ (m : PoolManager) (output : List UInt8), output.length = POOL_MANAGER_LEN →
      m.version ≤ PROGRAM_VERSION →
        (m.packIntoSlice output >>= PoolManager.unpackFromSlice) = .ok m) ∧
    (∀ (input : List UInt8) (m : PoolManager), input.length = POOL_MANAGER_LEN →
      PoolManager.unpackFromSlice input = .ok m → m.packIntoSlice input = .ok input) ∧
    (∀ (p : Pool) (output : List UInt8), output.length = RESERVE_LEN →
      p.version ≤ PROGRAM_VERSION → p.DecimalsFit →
        (p.packIntoSlice output >>= Pool.unpackFromSlice) = .ok p) ∧
    (∀ (input : List UInt8) (p : Pool), input.length = RESERVE_LEN →
      Pool.unpackFromSlice input = .ok p → p.packIntoSlice input = .ok input) :=
  ⟨fun m _ length current => m.unpackFromSlice_packIntoSlice length current,
    fun _ _ length decoded => PoolManager.packIntoSlice_unpackFromSlice length decoded,
    fun p _ length current fit => p.unpackFromSlice_packIntoSlice length current fit,
    fun _ _ length decoded => Pool.packIntoSlice_unpackFromSlice length decoded⟩

/-- A pool manager whose fields all differ, and none is zero. -/
def layoutPoolManager : PoolManager :=
  ⟨1, 254, layoutKey 10, layoutKey 40, layoutKey 70, layoutKey 100, layoutKey 130, layoutKey 160,
    layoutKey 190⟩

/-- A pool whose fields all differ, and none is zero or false. -/
def layoutPool : Pool where
  version := 1
  lastUpdate := ⟨123456789, true⟩
  poolManager := layoutKey 3
  liquidity := ⟨layoutKey 35, 9, layoutKey 67, layoutKey 99, true, layoutKey 131, 987654321,
    ⟨10 ^ 30 + 1, by decide⟩, ⟨10 ^ 31 + 2, by decide⟩, ⟨10 ^ 32 + 3, by decide⟩,
    ⟨10 ^ 33 + 4, by decide⟩⟩
  collateral := ⟨layoutKey 163, 55555, layoutKey 195⟩
  config := ⟨true⟩
  lottery := ⟨layoutKey 227, ⟨10 ^ 34 + 5, by decide⟩, ⟨10 ^ 35 + 6, by decide⟩, 777, 80⟩
  reentryLock := true

/-- Both codecs on records whose fields all differ, over buffers that are not zero: each record
packs, decodes back, and packs over its own bytes to those bytes. -/
theorem fixed_layout_codecs_on_distinct_fields : ∃ managerBytes poolBytes,
    layoutPoolManager.packIntoSlice (List.replicate 354 7) = .ok managerBytes ∧
    PoolManager.unpackFromSlice managerBytes = .ok layoutPoolManager ∧
    layoutPoolManager.packIntoSlice managerBytes = .ok managerBytes ∧
    layoutPool.packIntoSlice (List.replicate 646 7) = .ok poolBytes ∧
    Pool.unpackFromSlice poolBytes = .ok layoutPool ∧
    layoutPool.packIntoSlice poolBytes = .ok poolBytes := by
  have managerLength : (List.replicate 354 (7 : UInt8)).length = POOL_MANAGER_LEN := by
    simp only [List.length_replicate]; rfl
  have poolLength : (List.replicate 646 (7 : UInt8)).length = RESERVE_LEN := by
    simp only [List.length_replicate]; rfl
  obtain ⟨managerBytes, managerPacked, managerDecoded⟩ :=
    bind_ok (fixed_layout_codecs_bijective.1 layoutPoolManager _ managerLength (by decide))
  obtain ⟨poolBytes, poolPacked, poolDecoded⟩ :=
    bind_ok (fixed_layout_codecs_bijective.2.2.1 layoutPool _ poolLength (by decide) (by decide))
  exact ⟨managerBytes, poolBytes, managerPacked, managerDecoded,
    fixed_layout_codecs_bijective.2.1 _ _ (PoolManager.packIntoSlice_ok managerLength
      managerPacked).1 managerDecoded, poolPacked, poolDecoded,
    fixed_layout_codecs_bijective.2.2.2 _ _ (Pool.packIntoSlice_ok poolLength poolPacked).2.1
      poolDecoded⟩

end AllwinPooling
