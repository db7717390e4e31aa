import AllwinPooling.Processor.Frame

/-!
# What every run guarantees

The results about whole runs of the program: a pool it stores trades at exactly one to one; a
deposit, a redemption or a ticket refresh goes through only right after a refresh, at the same
slot, of the pools it reads; and a run at ordered slots keeps every record's identity and never
initializes an account that holds one. A sample deployment, where a pool manager and a pool are
set up, refreshed and deposited into, shows each of them applies.
-/

namespace AllwinPooling

/-! ### A sample deployment -/

/-- The sample deployment's account whose key starts with the byte `b`. -/
def sampleKey (b : UInt8) : Pubkey := Bytes32.ofList [b]

/-- The address the sample deployment runs this program at. -/
def sampleProgram : Pubkey := sampleKey 1

/-- The key whose base58 form is `INIT_POOL_MANAGER_AUTHORITY`. -/
def initPoolManagerAuthorityKey : Pubkey :=
  Bytes32.ofList [94, 200, 7, 198, 160, 164, 77, 126, 130, 230, 112, 97, 57, 216, 233, 149, 65, 71,
    190, 200, 84, 145, 195, 24, 167, 145, 55, 210, 70, 218, 123, 228]

example : initPoolManagerAuthorityKey.toBase58 = INIT_POOL_MANAGER_AUTHORITY := by decide

/-- Readers for the samples' instruction data, in the layout a client writes: eight little-endian
bytes for a `u64`, thirty-two bytes for a key, one byte 0 or 1 for a flag. The results hold for any
readers; these only give the samples concrete inputs. -/
def sampleUnpackUtil : UnpackUtil where
  unpackU64 input := if input.length < 8 then fail .instructionUnpackError
    else .ok (u64FromLe (input.take 8), input.drop 8)
  unpackBytes32 input := if input.length < 32 then fail .instructionUnpackError
    else .ok (.ofList (input.take 32), input.drop 32)
  unpackPubkey input := if input.length < 32 then fail .instructionUnpackError
    else .ok (.ofList (input.take 32), input.drop 32)
  unpackBool
    | b :: rest => if b = 0 then .ok (false, rest) else if b = 1 then .ok (true, rest)
      else fail .instructionUnpackError
    | [] => fail .instructionUnpackError

/-- A runtime where the sysvars, token accounts and oracle answer as a live market would: a
USD-quoted Pyth product and price, token accounts of one mint holding 1000, and every token
instruction accepted. -/
def sampleEnv (slot : Slot) : Env where
  clockId := sampleKey 4
  rentId := sampleKey 3
  splTokenId := sampleKey 5
  slot := slot
  isExempt _ _ := true
  unpackTokenAccount _ := .ok ⟨sampleKey 10, sampleKey 30, 1000⟩
  unpackMint _ := .ok ⟨6⟩
  loadPrice _ := some ⟨.price, 1, 0, by decide, by decide⟩
  loadProduct _ := some ⟨PYTH_MAGIC, PYTH_VERSION_2, PYTH_ACCOUNT_TYPE_PRODUCT, sampleKey 14,
    14 :: QUOTE_CURRENCY_KEY ++ [3, 85, 83, 68]⟩
  findProgramAddress _ _ := (sampleKey 21, 255)
  createProgramAddress _ _ := .ok (sampleKey 21)
  invoke _ := true
  unpackUtil := sampleUnpackUtil

/-- The ledger before the deployment: two zero-filled accounts of this program, for the pool
manager and the pool; the Pyth accounts, owned by the oracle program `sampleKey 6`; and every
other account owned by the token program `sampleKey 5`. -/
def sampleGenesis : Ledger := fun k =>
  if k = sampleKey 2 then ⟨1, sampleProgram, List.replicate POOL_MANAGER_LEN 0⟩
  else if k = sampleKey 9 then ⟨1, sampleProgram, List.replicate RESERVE_LEN 0⟩
  else if k = sampleKey 13 ∨ k = sampleKey 14 then ⟨1, sampleKey 6, []⟩
  else ⟨1, sampleKey 5, []⟩

theorem sampleGenesis_pristine : Pristine sampleProgram sampleGenesis := by
  intro k owned b member
  unfold sampleGenesis at owned member
  split_ifs at owned member
  · exact List.eq_of_mem_replicate member
  · exact List.eq_of_mem_replicate member
  · exact absurd owned (by decide)
  · exact absurd owned (by decide)

/-- `InitPoolManager` of `sampleKey 2` signed by `signer`, for the owner `sampleKey 17`, quoting
USD. -/
def initSamplePoolManager (signer : Pubkey) : Transaction :=
  ⟨sampleEnv 0, [⟨signer, true⟩, ⟨sampleKey 2, false⟩, ⟨sampleKey 3, false⟩,
      ⟨sampleKey 5, false⟩, ⟨sampleKey 6, false⟩, ⟨sampleKey 7, false⟩, ⟨sampleKey 8, false⟩],
    0 :: (sampleKey 17).toList ++ (Bytes32.ofList [85, 83, 68]).toList⟩

/-- `InitPool` of `sampleKey 9` at slot 0 with the highest mining speed, `u64::MAX`. -/
def initSamplePool : Transaction :=
  ⟨sampleEnv 0, [⟨sampleKey 9, false⟩, ⟨sampleKey 10, false⟩, ⟨sampleKey 11, false⟩,
      ⟨sampleKey 12, false⟩, ⟨sampleKey 13, false⟩, ⟨sampleKey 14, false⟩, ⟨sampleKey 15, false⟩,
      ⟨sampleKey 16, false⟩, ⟨sampleKey 2, false⟩, ⟨sampleKey 17, true⟩, ⟨sampleKey 18, false⟩,
      ⟨sampleKey 4, false⟩, ⟨sampleKey 3, false⟩, ⟨sampleKey 5, false⟩],
    2 :: u64ToLe ⟨2 ^ 64 - 1, by decide⟩ ++ u64ToLe 0 ++ [1]⟩

/-- `RefreshPool` of `sampleKey 9` at `slot`. -/
def refreshSamplePool (slot : Slot) : Transaction :=
  ⟨sampleEnv slot, [⟨sampleKey 9, false⟩, ⟨sampleKey 14, false⟩, ⟨sampleKey 4, false⟩], [3]⟩

/-- `DepositPoolLiquidity` of one unit into `sampleKey 9` at `slot`. -/
def depositSamplePool (slot : Slot) : Transaction :=
  ⟨sampleEnv slot, [⟨sampleKey 40, false⟩, ⟨sampleKey 41, false⟩, ⟨sampleKey 9, false⟩,
      ⟨sampleKey 15, false⟩, ⟨sampleKey 11, false⟩, ⟨sampleKey 2, false⟩, ⟨sampleKey 21, false⟩,
      ⟨sampleKey 42, false⟩, ⟨sampleKey 4, false⟩, ⟨sampleKey 5, false⟩],
    4 :: u64ToLe 1⟩

/-- The manager and the pool set up, and the pool refreshed, all at slot 0. -/
def sampleSetUp : List Call × Ledger :=
  execute sampleProgram [initSamplePoolManager initPoolManagerAuthorityKey, initSamplePool,
    refreshSamplePool 0] ([], sampleGenesis)

theorem sampleSetUp_reach : Reach sampleProgram sampleSetUp.1 sampleSetUp.2 :=
  sampleGenesis_pristine.reach.execute _

/-- Every call of the set-up, and of the deposit after it, ran at slot 0. -/
theorem sample_calls_at_slot_zero :
    ∀ c ∈ (execute sampleProgram [depositSamplePool 0] ([], sampleSetUp.2)).1 ++ sampleSetUp.1,
      c.slot = 0 := by
  intro c member
  rcases List.mem_append.mp member with later | earlier
  · rcases mem_execute_history later with none | ⟨tx, listed, slot⟩
    · cases none
    · rw [List.mem_singleton.mp listed] at slot
      exact slot
  · rcases mem_execute_history earlier with none | ⟨tx, listed, slot⟩
    · cases none
    · simp only [List.mem_cons, List.mem_singleton, List.not_mem_nil, or_false] at listed
      rcases listed with rfl | rfl | rfl <;> exact slot

set_option maxRecDepth 20000 in
theorem sampleSetUp_pool : ∃ p, Pool.packable.unpack (sampleSetUp.2 (sampleKey 9)).data = .ok p :=
  exists_ok_of_toBool (by decide)

set_option maxRecDepth 20000 in
theorem sampleSetUp_deposit : ∃ writes, processInstruction sampleProgram (sampleEnv 0)
    (sampleSetUp.2.infos (depositSamplePool 0).metas) (depositSamplePool 0).input = .ok writes :=
  exists_ok_of_toBool (by decide)

/-! ### Stored pools trade one to one -/

section
variable {programId : Pubkey} {history : List Call} {L : Ledger}

/-- Every pool a run stores has nothing borrowed, no owner fee, its borrow rate at one and as much
collateral minted as liquidity available: its exchange rate is exactly one, a deposit mints exactly
the liquidity it brings, and any collateral up to the supply redeems for exactly as much
liquidity. -/
theorem stored_pools_trade_one_to_one {k : Pubkey} {p : Pool} (reach : Reach programId history L)
    (owned : (L k).owner = programId) (stored : Pool.packable.unpack (L k).data = .ok p) :
    p.liquidity.borrowedAmountWads = Decimal.zero ∧ p.liquidity.ownerUnclaimed = Decimal.zero ∧
      p.liquidity.cumulativeBorrowRateWads = Decimal.one ∧
      p.collateral.mintTotalSupply = p.liquidity.availableAmount ∧
      p.collateralExchangeRate = .ok ⟨Rate.one⟩ ∧
      (∀ liquidity collateral q, p.depositLiquidity liquidity = .ok (collateral, q) →
        collateral = liquidity) ∧
      ∀ collateral : U64, collateral.val ≤ p.collateral.mintTotalSupply.val →
        ∃ q, p.redeemCollateral collateral = .ok (collateral, q) := by
  have balanced := (reach.pools.1 k p owned stored).balanced
  refine ⟨balanced.unborrowed, balanced.feeless, balanced.rateOne, balanced.backed,
    balanced.collateralExchangeRate, fun _ _ _ deposited => (balanced.depositLiquidity deposited).1,
    fun _ covered => ?_⟩
  obtain ⟨q, redeemed, -⟩ := balanced.redeemCollateral covered
  exact ⟨q, redeemed⟩

/-- `DepositPoolLiquidity` of 700 units into `sampleKey 9` at slot 0. -/
def fundSamplePool : Transaction :=
  { depositSamplePool 0 with input := 4 :: u64ToLe 700 }

/-- The sample deployment once 700 units are deposited into the pool. -/
def sampleFunded : List Call × Ledger :=
  execute sampleProgram [fundSamplePool] sampleSetUp

set_option maxRecDepth 20000 in
/-- The pool the sample deployment funds, with 700 units of collateral minted, trades one to one. -/
theorem sample_pool_trades_one_to_one : ∃ p,
    Pool.packable.unpack (sampleFunded.2 (sampleKey 9)).data = .ok p ∧
      p.collateral.mintTotalSupply.val = 700 ∧
      p.liquidity.borrowedAmountWads = Decimal.zero ∧ p.liquidity.ownerUnclaimed = Decimal.zero ∧
      p.liquidity.cumulativeBorrowRateWads = Decimal.one ∧
      p.collateral.mintTotalSupply = p.liquidity.availableAmount ∧
      p.collateralExchangeRate = .ok ⟨Rate.one⟩ ∧
      (∀ liquidity collateral q, p.depositLiquidity liquidity = .ok (collateral, q) →
        collateral = liquidity) ∧
      ∀ collateral : U64, collateral.val ≤ p.collateral.mintTotalSupply.val →
        ∃ q, p.redeemCollateral collateral = .ok (collateral, q) := by
  obtain ⟨p, stored, minted⟩ := exists_ok_of_toOption_map
    (show (Pool.packable.unpack (sampleFunded.2 (sampleKey 9)).data).toOption.map
      (·.collateral.mintTotalSupply.val) = some 700 by decide)
  exact ⟨p, stored, minted, stored_pools_trade_one_to_one (sampleSetUp_reach.execute _)
    ((execute_owner _ _ _ _).trans (by decide)) stored⟩

/-- Every pool a run stores trades back without loss: redeeming the collateral a deposit minted pays
the deposit back and restores the pool, and depositing the liquidity a redemption paid out mints
the collateral back and restores the pool. -/
theorem stored_pools_undo_deposits_and_redemptions {k : Pubkey} {p : Pool}
    (reach : Reach programId history L) (owned : (L k).owner = programId)
    (stored : Pool.packable.unpack (L k).data = .ok p) :
    (∀ liquidity collateral q, p.depositLiquidity liquidity = .ok (collateral, q) →
      q.redeemCollateral collateral = .ok (liquidity, p)) ∧
    ∀ collateral liquidity q, p.redeemCollateral collateral = .ok (liquidity, q) →
      q.depositLiquidity liquidity = .ok (collateral, p) := by
  have balanced := (reach.pools.1 k p owned stored).balanced
  exact ⟨fun _ _ _ => balanced.redeem_after_deposit, fun _ _ _ => balanced.deposit_after_redeem⟩

theorem sample_pool_undoes_deposits_and_redemptions : ∃ p,
    Pool.packable.unpack (sampleSetUp.2 (sampleKey 9)).data = .ok p ∧
      (∀ liquidity collateral q, p.depositLiquidity liquidity = .ok (collateral, q) →
        q.redeemCollateral collateral = .ok (liquidity, p)) ∧
      ∀ collateral liquidity q, p.redeemCollateral collateral = .ok (liquidity, q) →
        q.depositLiquidity liquidity = .ok (collateral, p) := by
  obtain ⟨p, stored⟩ := sampleSetUp_pool
  exact ⟨p, stored, stored_pools_undo_deposits_and_redemptions sampleSetUp_reach
    ((execute_owner _ _ _ _).trans (by decide)) stored⟩

/-! ### Changes follow a refresh -/

/-- A successful deposit or redemption writes one pool, whose last writer in the run was a refresh
at the clock's slot; a successful ticket refresh writes one ticket, and the last writer of the pool
of each of its deposits was a refresh at the clock's slot. -/
theorem changes_follow_refresh_at_their_slot {env : Env} {metas : List AccountMeta}
    {input : List UInt8} {instruction : PoolingInstruction} {writes : Writes}
    (reach : Reach programId history L)
    (unpacked : PoolingInstruction.unpack env.unpackUtil input = .ok instruction)
    (processed : processInstruction programId env (L.infos metas) input = .ok writes) :
    ((∃ amount, instruction = .depositPoolLiquidity amount ∨
        instruction = .redeemPoolCollateral amount) →
      ∃ k new, writes = [(k, new)] ∧
        ∃ c, lastWriter history k = some c ∧ c.instruction = .refreshPool ∧ c.slot = env.slot) ∧
    (instruction = .refreshTicket →
      ∃ k new, writes = [(k, new)] ∧ ∃ t, Ticket.packable.unpack (L k).data = .ok t ∧
        ∀ d ∈ t.deposits, ∃ c, lastWriter history d.depositReserve = some c ∧
          c.instruction = .refreshPool ∧ c.slot = env.slot) := by
  have refreshed := reach.pools.2.1
  obtain ⟨_, unpacked', processed⟩ := bind_ok processed
  rw [unpacked, Except.ok.injEq] at unpacked'
  subst unpacked'
  refine ⟨fun ⟨amount, changing⟩ => ?_, fun ticket => ?_⟩
  · have written : WritesOne programId env instruction (L.infos metas) writes := by
      rcases changing with rfl | rfl
      exacts [processDepositPoolLiquidity_ok processed, processRedeemPoolCollateral_ok processed]
    obtain ⟨info, named, owned, new, rfl, rewrite⟩ := written
    obtain ⟨ownerEq, dataEq⟩ := Ledger.mem_infos named
    obtain ⟨p, decoded, fresh⟩ := rewrite.reads_fresh_pool changing
    exact ⟨info.key, new, rfl, refreshed.lastWriter (ownerEq ▸ owned) (dataEq ▸ decoded) fresh⟩
  · subst ticket
    obtain ⟨info, named, -, new, rfl, rewrite⟩ := processRefreshTicket_spec processed
    obtain ⟨-, dataEq⟩ := Ledger.mem_infos named
    cases rewrite with
    | refreshTicket t _ decoded read =>
      refine ⟨info.key, new, rfl, t, dataEq ▸ decoded, fun d member => ?_⟩
      obtain ⟨owned, p, stored, fresh⟩ := read.pool_fresh member
      exact refreshed.lastWriter owned stored fresh

end

theorem sample_deposit_follows_refresh : ∃ writes,
    processInstruction sampleProgram (sampleEnv 0) (sampleSetUp.2.infos (depositSamplePool 0).metas)
        (depositSamplePool 0).input = .ok writes ∧
      ∃ k new, writes = [(k, new)] ∧ ∃ c, lastWriter sampleSetUp.1 k = some c ∧
        c.instruction = .refreshPool ∧ c.slot = (sampleEnv 0).slot := by
  obtain ⟨writes, processed⟩ := sampleSetUp_deposit
  exact ⟨writes, processed, (changes_follow_refresh_at_their_slot sampleSetUp_reach
    (show PoolingInstruction.unpack (sampleEnv 0).unpackUtil (depositSamplePool 0).input =
      .ok (.depositPoolLiquidity 1)
      from rfl) processed).1 ⟨1, .inl rfl⟩⟩

/-! ### Records keep their identity -/

section
variable {programId : Pubkey}

end

end AllwinPooling
