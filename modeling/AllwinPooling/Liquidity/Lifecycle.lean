import AllwinPooling.Liquidity.ExchangeRate
import AllwinPooling.Reward.Index
import AllwinPooling.Codec.Pool

/-!
# Pool lifecycle

The pools this program can store: the record `process_init_pool` writes, then what refreshes,
deposits and redemptions make of it. No instruction borrows, so every such pool has nothing
borrowed, no owner fee, its borrow rate at one and one collateral token per unit of liquidity;
its exchange rate is then exactly one and both conversions are the identity.
-/

namespace AllwinPooling

namespace Pool

/-! ### What the instructions do to a stored pool -/

/-- `RefreshPool` at `slot`, as `process_refresh_reserve` applies it: the oracle's price, the
reward indices brought to `slot`, and `last_update` fresh at `slot`. -/
def Refreshes (slot : Slot) (p q : Pool) : Prop :=
  ∃ marketPrice r,
    ({ p with liquidity := { p.liquidity with marketPrice } } : Pool).refreshIndex slot = .ok r ∧
      q = { r with lastUpdate := r.lastUpdate.updateSlot slot }

/-- `DepositPoolLiquidity` at `slot`, as `process_deposit_pool_liquidity` applies it to a pool
that is fresh, unlocked and unpaused: liquidity in, its collateral minted, the pool stale. -/
def Deposits (slot : Slot) (p q : Pool) : Prop :=
  p.lastUpdate.isStale slot = .ok false ∧ p.reentryLock = false ∧ p.config.depositPaused = false ∧
    ∃ liquidity collateral r, p.depositLiquidity liquidity = .ok (collateral, r) ∧
      q = { r with lastUpdate := r.lastUpdate.markStale }

/-- `RedeemPoolCollateral` at `slot`, as `process_redeem_pool_collateral` applies it to a pool
that is fresh and unlocked: collateral burnt, its liquidity paid out, the pool stale. -/
def Redeems (slot : Slot) (p q : Pool) : Prop :=
  p.lastUpdate.isStale slot = .ok false ∧ p.reentryLock = false ∧
    ∃ collateral liquidity r, p.redeemCollateral collateral = .ok (liquidity, r) ∧
      q = { r with lastUpdate := r.lastUpdate.markStale }

/-- One instruction on a stored pool, at the clock's `slot`. -/
def Step (slot : Slot) (p q : Pool) : Prop :=
  p.Refreshes slot q ∨ p.Deposits slot q ∨ p.Redeems slot q

/-- The record `process_init_pool` writes: fresh liquidity, collateral and reward state. -/
def Initial (p : Pool) : Prop :=
  ∃ (slot : Slot) (poolManager : Pubkey) (liquidity : NewReserveLiquidityParams)
    (collateralMint collateralSupply unCollSupply : Pubkey) (totalMiningSpeed kinkUtilRate : U64)
    (config : PoolConfig),
    p = Pool.init ⟨slot, poolManager, ReserveLiquidity.new liquidity,
      ReserveCollateral.new collateralMint collateralSupply, config,
      Lottery.new unCollSupply totalMiningSpeed kinkUtilRate⟩

/-- The pools the program can store: an initial record, and what one more instruction makes of a
stored pool. Each was packed, so each fits the layout. -/
inductive Reachable : Pool → Prop
  | init {p : Pool} : p.Initial → p.DecimalsFit → Reachable p
  | step {p q : Pool} (slot : Slot) : Reachable p → p.Step slot q → q.DecimalsFit → Reachable q

/-! ### What the instructions keep -/

/-- A pool with the fields the instructions move cleared: what is left is the pool's identity and
configuration. -/
def fixedPart (p : Pool) : Pool :=
  { p with
    lastUpdate := default
    liquidity := { p.liquidity with
      availableAmount := 0, borrowedAmountWads := default, cumulativeBorrowRateWads := default,
      marketPrice := default, ownerUnclaimed := default }
    collateral := { p.collateral with mintTotalSupply := 0 }
    lottery := { p.lottery with lTokenMiningIndex := default, borrowMiningIndex := default } }

/-- `q` is a later state of `p`: the same identity and configuration, reward indices that did not
go back, and a `last_update` slot that did not go back. -/
structure Evolves (p q : Pool) : Prop where
  fixed : q.fixedPart = p.fixedPart
  lending : p.lottery.lTokenMiningIndex.val ≤ q.lottery.lTokenMiningIndex.val
  borrowing : p.lottery.borrowMiningIndex.val ≤ q.lottery.borrowMiningIndex.val
  slot : p.lastUpdate.slot.val ≤ q.lastUpdate.slot.val

theorem Evolves.refl (p : Pool) : p.Evolves p := ⟨rfl, Nat.le_refl _, Nat.le_refl _, Nat.le_refl _⟩

theorem Evolves.trans {p q r : Pool} (first : p.Evolves q) (second : q.Evolves r) : p.Evolves r :=
  ⟨second.fixed.trans first.fixed, Nat.le_trans first.lending second.lending,
    Nat.le_trans first.borrowing second.borrowing, Nat.le_trans first.slot second.slot⟩

theorem Evolves.version {p q : Pool} (evolves : p.Evolves q) : q.version = p.version := by
  have same := congrArg Pool.version evolves.fixed
  exact same

theorem Refreshes.lastUpdate {slot : Slot} {p q : Pool} (refreshed : p.Refreshes slot q) :
    q.lastUpdate = ⟨slot, false⟩ := by
  obtain ⟨_, _, _, rfl⟩ := refreshed
  rfl

theorem Deposits.lastUpdate {slot : Slot} {p q : Pool} (deposited : p.Deposits slot q) :
    q.lastUpdate = p.lastUpdate.markStale := by
  obtain ⟨-, -, -, _, _, r, moved, rfl⟩ := deposited
  obtain ⟨_, -, -, -, -, -, -, frame⟩ := depositLiquidity_ok moved
  rw [frame]

theorem Redeems.lastUpdate {slot : Slot} {p q : Pool} (redeemed : p.Redeems slot q) :
    q.lastUpdate = p.lastUpdate.markStale := by
  obtain ⟨-, -, _, _, r, moved, rfl⟩ := redeemed
  obtain ⟨_, -, -, -, -, -, -, -, frame⟩ := redeemCollateral_ok moved
  rw [frame]

/-- A refresh at a slot no earlier than the pool's moves only the price, the reward indices
(forward) and `last_update`. -/
theorem Refreshes.evolves {slot : Slot} {p q : Pool} (refreshed : p.Refreshes slot q)
    (later : p.lastUpdate.slot.val ≤ slot.val) : p.Evolves q := by
  obtain ⟨marketPrice, r, indexed, rfl⟩ := refreshed
  obtain ⟨frame, lending, borrowing⟩ := refreshIndex_ok indexed
  refine ⟨?_, lending, borrowing, later⟩
  rw [frame]
  rfl

/-- A deposit or a redemption moves only the two counters and the stale flag. -/
theorem Deposits.evolves {slot : Slot} {p q : Pool} (deposited : p.Deposits slot q) :
    p.Evolves q := by
  obtain ⟨-, -, -, _, _, r, moved, rfl⟩ := deposited
  obtain ⟨_, -, -, -, -, -, -, frame⟩ := depositLiquidity_ok moved
  refine ⟨?_, ?_, ?_, ?_⟩ <;> rw [frame] <;> rfl

theorem Redeems.evolves {slot : Slot} {p q : Pool} (redeemed : p.Redeems slot q) :
    p.Evolves q := by
  obtain ⟨-, -, _, _, r, moved, rfl⟩ := redeemed
  obtain ⟨_, -, -, -, -, -, -, -, frame⟩ := redeemCollateral_ok moved
  refine ⟨?_, ?_, ?_, ?_⟩ <;> rw [frame] <;> rfl

theorem Step.evolves {slot : Slot} {p q : Pool} (stepped : p.Step slot q)
    (later : p.lastUpdate.slot.val ≤ slot.val) : p.Evolves q := by
  rcases stepped with refreshed | deposited | redeemed
  · exact refreshed.evolves later
  · exact deposited.evolves
  · exact redeemed.evolves

/-- After one instruction the pool is fresh at the clock's slot (a refresh), or stale at the
slot it had. -/
theorem Step.lastUpdate {slot : Slot} {p q : Pool} (stepped : p.Step slot q) :
    q.lastUpdate = ⟨slot, false⟩ ∨ q.lastUpdate = p.lastUpdate.markStale := by
  rcases stepped with refreshed | deposited | redeemed
  · exact .inl refreshed.lastUpdate
  · exact .inr deposited.lastUpdate
  · exact .inr redeemed.lastUpdate

theorem Step.version {slot : Slot} {p q : Pool} (stepped : p.Step slot q) :
    q.version = p.version := by
  rcases stepped with refreshed | deposited | redeemed
  · obtain ⟨marketPrice, r, indexed, rfl⟩ := refreshed
    rw [(refreshIndex_ok indexed).1]
  · exact deposited.evolves.version
  · exact redeemed.evolves.version

/-- Whatever the slot, an instruction keeps a pool's identity and configuration. -/
theorem Step.fixed {slot : Slot} {p q : Pool} (stepped : p.Step slot q) :
    q.fixedPart = p.fixedPart := by
  rcases stepped with ⟨marketPrice, r, indexed, rfl⟩ | deposited | redeemed
  · rw [(refreshIndex_ok indexed).1]
    rfl
  · exact deposited.evolves.fixed
  · exact redeemed.evolves.fixed

theorem Initial.version {p : Pool} (initial : p.Initial) : p.version = PROGRAM_VERSION := by
  obtain ⟨_, _, _, _, _, _, _, _, _, rfl⟩ := initial
  rfl

/-! ### Pools nobody borrowed from -/

/-- Nothing borrowed, no owner fee, the borrow rate at one, and one collateral token minted per
unit of liquidity available. -/
structure Balanced (p : Pool) : Prop where
  unborrowed : p.liquidity.borrowedAmountWads = Decimal.zero
  feeless : p.liquidity.ownerUnclaimed = Decimal.zero
  rateOne : p.liquidity.cumulativeBorrowRateWads = Decimal.one
  backed : p.collateral.mintTotalSupply = p.liquidity.availableAmount

theorem fromU64_scaled_lt (n : U64) : n.val * WAD * WAD < 2 ^ 192 :=
  Nat.lt_of_lt_of_le (Nat.mul_lt_mul_of_pos_right (Nat.mul_lt_mul_of_pos_right n.isLt wad_pos)
    wad_pos) (by decide)

/-- At rate one a deposit mints exactly the liquidity it brings. -/
theorem liquidityToCollateral_one (liquidity : U64) :
    (⟨Rate.one⟩ : CollateralExchangeRate).liquidityToCollateral liquidity = .ok liquidity := by
  have fits : Rate.one.val * liquidity.val < 2 ^ 128 := by
    have := liquidity.isLt; rw [Rate.one_val]; unfold WAD; omega
  have rounded : (HALF_WAD + WAD * liquidity.val) / WAD = liquidity.val := by
    rw [Nat.add_mul_div_left _ _ wad_pos, show HALF_WAD / WAD = 0 by decide, Nat.zero_add]
  rw [CollateralExchangeRate.liquidityToCollateral, Rate.tryMulU64, dif_pos fits, ok_bind]
  exact Rate.tryRoundU64_eq_ok.mpr ⟨by simp [rounded], by simp [rounded]⟩

/-- At rate one a redemption pays out exactly the collateral it burns. -/
theorem collateralToLiquidity_one (collateral : U64) :
    (⟨Rate.one⟩ : CollateralExchangeRate).collateralToLiquidity collateral = .ok collateral := by
  have scaled : (Decimal.fromU64 collateral).tryDivRate Rate.one = .ok (Decimal.fromU64 collateral) :=
    Decimal.tryDiv_eq_ok.mpr ⟨fromU64_scaled_lt collateral, by decide, by
      simp [Nat.mul_div_cancel _ wad_pos]⟩
  rw [CollateralExchangeRate.collateralToLiquidity, scaled, ok_bind]
  exact Decimal.tryFloorU64_eq_ok.mpr (by simp [Nat.mul_div_cancel _ wad_pos])

section
variable {p : Pool} (balanced : p.Balanced)
include balanced

theorem Balanced.totalSupply :
    p.liquidity.totalSupply = .ok (Decimal.fromU64 p.liquidity.availableAmount) := by
  have sum : (Decimal.fromU64 p.liquidity.availableAmount).tryAdd p.liquidity.borrowedAmountWads =
      .ok (Decimal.fromU64 p.liquidity.availableAmount) :=
    Decimal.tryAdd_eq_ok.mpr (by
      simpa [balanced.unborrowed] using (Decimal.fromU64 p.liquidity.availableAmount).val_lt)
  have unchanged : (Decimal.fromU64 p.liquidity.availableAmount).trySub Decimal.zero =
      .ok (Decimal.fromU64 p.liquidity.availableAmount) :=
    Decimal.trySub_eq_ok.mpr (by simp)
  rw [ReserveLiquidity.totalSupply, sum, ok_bind, balanced.feeless,
    if_neg (show ¬Decimal.fromU64 _ < Decimal.zero from Nat.not_lt_zero _), unchanged]

/-- The exchange rate of a balanced pool is exactly one. -/
theorem Balanced.collateralExchangeRate : p.collateralExchangeRate = .ok ⟨Rate.one⟩ := by
  rw [Pool.collateralExchangeRate, balanced.totalSupply, ok_bind, ReserveCollateral.exchangeRate,
    balanced.backed]
  split
  · rfl
  next filled =>
    have positive : p.liquidity.availableAmount.val ≠ 0 := fun zero => filled (.inl (Fin.ext zero))
    have ratio : (Decimal.fromU64 p.liquidity.availableAmount).tryDiv
        (Decimal.fromU64 p.liquidity.availableAmount) = .ok Decimal.one :=
      Decimal.tryDiv_eq_ok.mpr ⟨fromU64_scaled_lt _, by simpa using ⟨positive, wad_pos.ne'⟩, by
        simp [Nat.mul_div_cancel_left _ (Nat.mul_pos (Nat.pos_of_ne_zero positive) wad_pos)]⟩
    rw [ratio, ok_bind, Rate.tryFromDecimal, dif_pos (by decide)]
    rfl

/-- A deposit into a balanced pool mints exactly the liquidity it brings, and the pool stays
balanced. -/
theorem Balanced.depositLiquidity {q : Pool} {liquidity collateral : U64}
    (deposited : p.depositLiquidity liquidity = .ok (collateral, q)) :
    collateral = liquidity ∧ q.Balanced := by
  obtain ⟨r, rated, minted, -, -, available, supply, frame⟩ := depositLiquidity_ok deposited
  rw [balanced.collateralExchangeRate, Except.ok.injEq] at rated
  subst rated
  rw [liquidityToCollateral_one, Except.ok.injEq] at minted
  subst minted
  refine ⟨rfl, ?_, ?_, ?_, Fin.ext (by rw [supply, available, balanced.backed])⟩
  · rw [frame]; exact balanced.unborrowed
  · rw [frame]; exact balanced.feeless
  · rw [frame]; exact balanced.rateOne

/-- A balanced pool redeems any collateral up to its supply, paying out exactly that much
liquidity, and stays balanced. -/
theorem Balanced.redeemCollateral {collateral : U64}
    (covered : collateral.val ≤ p.collateral.mintTotalSupply.val) :
    ∃ q, p.redeemCollateral collateral = .ok (collateral, q) ∧ q.Balanced := by
  have available : collateral.val ≤ p.liquidity.availableAmount.val := balanced.backed ▸ covered
  have free : p.liquidity.liquidityAmount = .ok p.liquidity.availableAmount := by
    have fee : Decimal.zero.tryCeilU64 = .ok 0 := Decimal.tryCeilU64_eq_ok.mpr (by decide)
    rw [ReserveLiquidity.liquidityAmount, balanced.feeless,
      if_neg (show ¬Decimal.fromU64 _ < Decimal.zero from Nat.not_lt_zero _), fee, ok_bind]
    exact okOr_eq_ok.mpr (checkedSub_eq_some.mpr ⟨Nat.zero_le _, rfl⟩)
  let burnt : U64 := ⟨p.collateral.mintTotalSupply.val - collateral.val, by omega⟩
  let left : U64 := ⟨p.liquidity.availableAmount.val - collateral.val, by omega⟩
  refine ⟨{ p with
      liquidity := { p.liquidity with availableAmount := left }
      collateral := { p.collateral with mintTotalSupply := burnt } }, ?_,
    balanced.unborrowed, balanced.feeless, balanced.rateOne,
    Fin.ext (by simp only [burnt, left, balanced.backed])⟩
  have burn : p.collateral.burn collateral = .ok { p.collateral with mintTotalSupply := burnt } :=
    congrArg (· >>= _) (okOr_eq_ok.mpr (checkedSub_eq_some.mpr ⟨covered, rfl⟩))
  have withdraw : p.liquidity.withdraw collateral =
      .ok { p.liquidity with availableAmount := left } := by
    rw [ReserveLiquidity.withdraw, free, ok_bind,
      ensure_of_true (show ¬p.liquidity.availableAmount < collateral from Nat.not_lt.mpr available),
      ok_bind, okOr_eq_ok.mpr (show checkedSub _ _ = some left from
        checkedSub_eq_some.mpr ⟨available, rfl⟩)]
    rfl
  rw [Pool.redeemCollateral, balanced.collateralExchangeRate, ok_bind, collateralToLiquidity_one,
    ok_bind, burn, ok_bind, withdraw]
  rfl

/-- A refresh moves only the reward indices, so a balanced pool stays balanced. -/
theorem Balanced.refreshes {q : Pool} {slot : Slot} (refreshed : p.Refreshes slot q) :
    q.Balanced := by
  obtain ⟨marketPrice, r, indexed, rfl⟩ := refreshed
  have frame := (refreshIndex_ok indexed).1
  have liquidity : r.liquidity = { p.liquidity with marketPrice } := by rw [frame]
  have collateral : r.collateral = p.collateral := by rw [frame]
  exact ⟨(congrArg ReserveLiquidity.borrowedAmountWads liquidity).trans balanced.unborrowed,
    (congrArg ReserveLiquidity.ownerUnclaimed liquidity).trans balanced.feeless,
    (congrArg ReserveLiquidity.cumulativeBorrowRateWads liquidity).trans balanced.rateOne,
    (congrArg ReserveCollateral.mintTotalSupply collateral).trans
      (balanced.backed.trans (congrArg ReserveLiquidity.availableAmount liquidity).symm)⟩

theorem Balanced.step {q : Pool} {slot : Slot} (stepped : p.Step slot q) : q.Balanced := by
  rcases stepped with refreshed | ⟨-, -, -, liquidity, collateral, r, deposited, rfl⟩ |
    ⟨-, -, collateral, liquidity, r, redeemed, rfl⟩
  · exact balanced.refreshes refreshed
  · have after := (balanced.depositLiquidity deposited).2
    exact ⟨after.unborrowed, after.feeless, after.rateOne, after.backed⟩
  · obtain ⟨-, -, -, covered, -⟩ := redeemCollateral_ok redeemed
    obtain ⟨q', redeemedOk, after⟩ := balanced.redeemCollateral covered
    rw [redeemed, Except.ok.injEq, Prod.mk.injEq] at redeemedOk
    obtain ⟨-, rfl⟩ := redeemedOk
    exact ⟨after.unborrowed, after.feeless, after.rateOne, after.backed⟩

/-- With nothing borrowed the borrowed share is below one, so a refresh does not credit the
borrowing side of a balanced pool. -/
theorem Balanced.refreshIndex_borrowMiningIndex {r : Pool} {slot : Slot}
    (indexed : p.refreshIndex slot = .ok r) :
    r.lottery.borrowMiningIndex = p.lottery.borrowMiningIndex := by
  by_cases empty : p.collateral.mintTotalSupply = 0
  · rw [refreshIndex_of_unsupplied empty, Except.ok.injEq] at indexed
    rw [← indexed]
  · have unborrowed : p.liquidity.borrowedAmountWads.val = 0 := by rw [balanced.unborrowed]; rfl
    have rated : p.liquidity.cumulativeBorrowRateWads.val ≠ 0 := by
      rw [balanced.rateOne]
      exact wad_pos.ne'
    obtain ⟨-, -, -, -, frame⟩ := (refreshIndex_of_unborrowed empty unborrowed rated).mp indexed
    rw [frame]

/-- No instruction credits the borrowing side of a balanced pool. -/
theorem Balanced.step_borrowMiningIndex {q : Pool} {slot : Slot} (stepped : p.Step slot q) :
    q.lottery.borrowMiningIndex = p.lottery.borrowMiningIndex := by
  rcases stepped with ⟨marketPrice, r, indexed, rfl⟩ | ⟨-, -, -, _, _, r, deposited, rfl⟩ |
    ⟨-, -, _, _, r, redeemed, rfl⟩
  · have priced : ({ p with liquidity := { p.liquidity with marketPrice } } : Pool).Balanced :=
      ⟨balanced.unborrowed, balanced.feeless, balanced.rateOne, balanced.backed⟩
    have kept := priced.refreshIndex_borrowMiningIndex indexed
    exact kept
  · obtain ⟨_, -, -, -, -, -, -, frame⟩ := depositLiquidity_ok deposited
    rw [frame]
  · obtain ⟨_, -, -, -, -, -, -, -, frame⟩ := redeemCollateral_ok redeemed
    rw [frame]

/-- Redeeming the collateral a deposit minted pays the deposit back and restores the pool. -/
theorem Balanced.redeem_after_deposit {q : Pool} {liquidity collateral : U64}
    (deposited : p.depositLiquidity liquidity = .ok (collateral, q)) :
    q.redeemCollateral collateral = .ok (liquidity, p) := by
  obtain ⟨same, after⟩ := balanced.depositLiquidity deposited
  subst same
  obtain ⟨-, -, -, -, -, available, supply, frame⟩ := depositLiquidity_ok deposited
  obtain ⟨q', redeemed, -⟩ := after.redeemCollateral (show collateral.val ≤ _ by omega)
  obtain ⟨-, -, -, -, -, -, available', supply', frame'⟩ := redeemCollateral_ok redeemed
  have left : q'.liquidity.availableAmount = p.liquidity.availableAmount := Fin.ext (by omega)
  have burnt : q'.collateral.mintTotalSupply = p.collateral.mintTotalSupply := Fin.ext (by omega)
  rw [redeemed, frame', left, burnt, frame]

/-- Depositing the liquidity a redemption paid out mints the collateral back and restores the
pool. -/
theorem Balanced.deposit_after_redeem {q : Pool} {collateral liquidity : U64}
    (redeemed : p.redeemCollateral collateral = .ok (liquidity, q)) :
    q.depositLiquidity liquidity = .ok (collateral, p) := by
  obtain ⟨-, -, -, covered, -, -, available, supply, frame⟩ := redeemCollateral_ok redeemed
  obtain ⟨q', redeemed', after⟩ := balanced.redeemCollateral covered
  rw [redeemed, Except.ok.injEq, Prod.mk.injEq] at redeemed'
  obtain ⟨rfl, rfl⟩ := redeemed'
  have bounded := p.liquidity.availableAmount.isLt
  have backed := congrArg Fin.val balanced.backed
  have refilled : checkedAdd q.liquidity.availableAmount liquidity =
      some p.liquidity.availableAmount := checkedAdd_eq_some.mpr ⟨by omega, by omega⟩
  have reminted : checkedAdd q.collateral.mintTotalSupply liquidity =
      some p.collateral.mintTotalSupply := checkedAdd_eq_some.mpr ⟨by omega, by omega⟩
  rw [Pool.depositLiquidity, after.collateralExchangeRate, ok_bind, liquidityToCollateral_one,
    ok_bind, ReserveLiquidity.deposit, refilled, okOr_some, ok_bind, ReserveCollateral.mint,
    reminted, okOr_some, ok_bind, frame]
  rfl

end

theorem initial_balanced {p : Pool} (initial : p.Initial) : p.Balanced := by
  obtain ⟨_, _, _, _, _, _, _, _, _, rfl⟩ := initial
  exact ⟨rfl, rfl, rfl, rfl⟩

/-- Every pool the program can store is balanced. -/
theorem Reachable.balanced {p : Pool} (reachable : p.Reachable) : p.Balanced := by
  induction reachable with
  | init initial _ => exact initial_balanced initial
  | step _ _ stepped _ balanced => exact balanced.step stepped

/-- No pool the program can store has credited its borrowing side. -/
theorem Reachable.borrowMiningIndex {p : Pool} (reachable : p.Reachable) :
    p.lottery.borrowMiningIndex = Decimal.zero := by
  induction reachable with
  | init initial _ =>
    obtain ⟨_, _, _, _, _, _, _, _, _, rfl⟩ := initial
    rfl
  | step _ reachable stepped _ unborrowed =>
    rw [reachable.balanced.step_borrowMiningIndex stepped, unborrowed]

end Pool

end AllwinPooling
