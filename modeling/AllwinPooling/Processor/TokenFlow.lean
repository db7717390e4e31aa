import AllwinPooling.Processor.Integrity

/-!
# What deposits and redemptions ask of the token program

A deposit or a redemption writes the pool back and then invokes two token instructions. The
amounts the pool books are exactly the amounts those instructions move. A deposit books as
available the liquidity it transfers from the depositor into the pool's supply account, and as
minted the collateral it mints to the depositor under the pool manager's derived authority. A
redemption books as burnt the collateral it burns from the redeemer, and as withdrawn the liquidity
it transfers out of the pool's supply account under that authority. Neither accepts the pool's own
supply account on the user's side.
-/

namespace AllwinPooling

section
variable {programId : Pubkey} {env : Env} {accounts : List AccountInfo} {writes : Writes}

/-- A successful deposit books in the pool exactly the liquidity it has the token program move
from the depositor's account into the pool's supply account, and exactly the collateral it has
the token program mint to the depositor under the pool manager's authority. -/
theorem deposit_books_what_it_moves {amount : U64}
    (processed : processDepositPoolLiquidity programId env amount accounts = .ok writes) :
    ∃ reserveInfo ∈ accounts, ∃ p q new, Pool.packable.unpack reserveInfo.data = .ok p ∧
      Pool.packable.pack q reserveInfo.data = .ok new ∧ writes = [(reserveInfo.key, new)] ∧
      ∃ source destination user authority liquidity collateral,
        source ≠ p.liquidity.supplyPubkey ∧ destination ≠ p.collateral.supplyPubkey ∧
        ManagerAuthority programId env accounts p.poolManager authority ∧
        env.invoke (.transfer source p.liquidity.supplyPubkey user liquidity) = true ∧
        env.invoke (.mintTo p.collateral.mintPubkey destination authority collateral) = true ∧
        q.liquidity.availableAmount.val = p.liquidity.availableAmount.val + liquidity.val ∧
        q.collateral.mintTotalSupply.val = p.collateral.mintTotalSupply.val + collateral.val := by
  obtain ⟨reserveInfo, named, -, p, r, liquidity, collateral, new, unpacked, -, -, -, deposited,
    packed, rfl, source, destination, user, authority, sourceOther, destinationOther, derived,
    transfer, mint⟩ := processDepositPoolLiquidity_spec processed
  obtain ⟨_, -, -, -, -, available, supply, -⟩ := Pool.depositLiquidity_ok deposited
  exact ⟨reserveInfo, named, p, _, new, unpacked, packed, rfl, source, destination, user, authority,
    liquidity, collateral, sourceOther, destinationOther, derived, transfer, mint, available, supply⟩

theorem sample_deposit_books_what_it_moves : ∃ writes,
    processDepositPoolLiquidity sampleProgram (sampleEnv 0) 1
        (sampleSetUp.2.infos (depositSamplePool 0).metas) = .ok writes ∧
      ∃ reserveInfo ∈ sampleSetUp.2.infos (depositSamplePool 0).metas, ∃ p q new,
        Pool.packable.unpack reserveInfo.data = .ok p ∧
        Pool.packable.pack q reserveInfo.data = .ok new ∧ writes = [(reserveInfo.key, new)] ∧
        ∃ source destination user authority liquidity collateral,
          source ≠ p.liquidity.supplyPubkey ∧ destination ≠ p.collateral.supplyPubkey ∧
          ManagerAuthority sampleProgram (sampleEnv 0)
            (sampleSetUp.2.infos (depositSamplePool 0).metas) p.poolManager authority ∧
          (sampleEnv 0).invoke (.transfer source p.liquidity.supplyPubkey user liquidity) = true ∧
          (sampleEnv 0).invoke
            (.mintTo p.collateral.mintPubkey destination authority collateral) = true ∧
          q.liquidity.availableAmount.val = p.liquidity.availableAmount.val + liquidity.val ∧
          q.collateral.mintTotalSupply.val = p.collateral.mintTotalSupply.val + collateral.val := by
  obtain ⟨writes, processed⟩ := sampleSetUp_deposit
  have deposited := processInstruction_process
    (show PoolingInstruction.unpack (sampleEnv 0).unpackUtil (depositSamplePool 0).input =
      .ok (.depositPoolLiquidity 1)
      from rfl) processed
  exact ⟨writes, deposited, deposit_books_what_it_moves deposited⟩

/-- `RedeemPoolCollateral` of one collateral token of `sampleKey 9` from `sampleKey 41` into
`sampleKey 40`, at `slot`. -/
def redeemSamplePool (slot : Slot) : Transaction :=
  ⟨sampleEnv slot, [⟨sampleKey 41, false⟩, ⟨sampleKey 40, false⟩, ⟨sampleKey 9, false⟩,
      ⟨sampleKey 15, false⟩, ⟨sampleKey 11, false⟩, ⟨sampleKey 2, false⟩,
      ⟨sampleKey 21, false⟩, ⟨sampleKey 42, false⟩, ⟨sampleKey 4, false⟩, ⟨sampleKey 5, false⟩],
    5 :: u64ToLe 1⟩

/-- The sample deployment once one unit is deposited and the pool refreshed again. -/
def sampleDeposited : Ledger :=
  (execute sampleProgram [depositSamplePool 0, refreshSamplePool 0] ([], sampleSetUp.2)).2

set_option maxRecDepth 20000 in
theorem sampleDeposited_redeem : ∃ writes,
    processRedeemPoolCollateral sampleProgram (sampleEnv 0) 1
      (sampleDeposited.infos (redeemSamplePool 0).metas) = .ok writes :=
  exists_ok_of_toBool (by decide)

/-- A successful redemption books in the pool exactly the collateral it has the token program burn
from the redeemer's account, and exactly the liquidity it has the token program move out of the
pool's supply account under the pool manager's authority; both were there to take. -/
theorem redeem_books_what_it_moves {amount : U64}
    (processed : processRedeemPoolCollateral programId env amount accounts = .ok writes) :
    ∃ reserveInfo ∈ accounts, ∃ p q new, Pool.packable.unpack reserveInfo.data = .ok p ∧
      Pool.packable.pack q reserveInfo.data = .ok new ∧ writes = [(reserveInfo.key, new)] ∧
      ∃ source destination user authority collateral liquidity,
        source ≠ p.collateral.supplyPubkey ∧ destination ≠ p.liquidity.supplyPubkey ∧
        ManagerAuthority programId env accounts p.poolManager authority ∧
        env.invoke (.burn source p.collateral.mintPubkey user collateral) = true ∧
        env.invoke (.transfer p.liquidity.supplyPubkey destination authority liquidity) = true ∧
        collateral.val ≤ p.collateral.mintTotalSupply.val ∧
        liquidity.val ≤ p.liquidity.availableAmount.val ∧
        q.collateral.mintTotalSupply.val = p.collateral.mintTotalSupply.val - collateral.val ∧
        q.liquidity.availableAmount.val = p.liquidity.availableAmount.val - liquidity.val := by
  obtain ⟨reserveInfo, named, -, p, r, collateral, liquidity, new, unpacked, -, -, redeemed, packed,
    rfl, source, destination, user, authority, sourceOther, destinationOther, derived, burn,
    transfer⟩ := processRedeemPoolCollateral_spec processed
  obtain ⟨_, -, -, covered, -, paid, available, supply, -⟩ := Pool.redeemCollateral_ok redeemed
  exact ⟨reserveInfo, named, p, _, new, unpacked, packed, rfl, source, destination, user, authority,
    collateral, liquidity, sourceOther, destinationOther, derived, burn, transfer, covered, paid,
    supply, available⟩

theorem sample_redeem_books_what_it_moves : ∃ writes,
    processRedeemPoolCollateral sampleProgram (sampleEnv 0) 1
        (sampleDeposited.infos (redeemSamplePool 0).metas) = .ok writes ∧
      ∃ reserveInfo ∈ sampleDeposited.infos (redeemSamplePool 0).metas, ∃ p q new,
        Pool.packable.unpack reserveInfo.data = .ok p ∧
        Pool.packable.pack q reserveInfo.data = .ok new ∧ writes = [(reserveInfo.key, new)] ∧
        ∃ source destination user authority collateral liquidity,
          source ≠ p.collateral.supplyPubkey ∧ destination ≠ p.liquidity.supplyPubkey ∧
          ManagerAuthority sampleProgram (sampleEnv 0)
            (sampleDeposited.infos (redeemSamplePool 0).metas) p.poolManager authority ∧
          (sampleEnv 0).invoke (.burn source p.collateral.mintPubkey user collateral) = true ∧
          (sampleEnv 0).invoke
            (.transfer p.liquidity.supplyPubkey destination authority liquidity) = true ∧
          collateral.val ≤ p.collateral.mintTotalSupply.val ∧
          liquidity.val ≤ p.liquidity.availableAmount.val ∧
          q.collateral.mintTotalSupply.val = p.collateral.mintTotalSupply.val - collateral.val ∧
          q.liquidity.availableAmount.val = p.liquidity.availableAmount.val - liquidity.val := by
  obtain ⟨writes, processed⟩ := sampleDeposited_redeem
  exact ⟨writes, processed, redeem_books_what_it_moves processed⟩

end

end AllwinPooling
