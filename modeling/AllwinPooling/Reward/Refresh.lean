import AllwinPooling.Liquidity.Lifecycle

/-!
# Refreshing a stored pool

When `refresh_index` succeeds on a pool the program can store, and when the pool it returns can be
stored again. A refresh credits the lending index with `speed * elapsed * 2 * WAD / supply`, and
meets two ceilings: `2^192` for the checked `U192` product behind the reward, and `2^128` for the
index `pack_decimal` can store. With a large mining speed and a small supply both are passed after
a short idle gap, and the pool can then never be refreshed again.
-/

namespace AllwinPooling

namespace Pool

/-- A pool that differs from one that fits only in its lending index fits exactly when that index
does. -/
theorem decimalsFit_lending {p : Pool} {index : Decimal} (fit : p.DecimalsFit) :
    ({ p with lottery := { p.lottery with lTokenMiningIndex := index } } : Pool).DecimalsFit ↔
      index.val < 2 ^ 128 := by
  obtain ⟨borrowed, rate, price, -, borrowing, fee⟩ := fit
  exact ⟨fun fits => fits.2.2.2.1, fun lending => ⟨borrowed, rate, price, lending, borrowing, fee⟩⟩

theorem Reachable.decimalsFit {p : Pool} (reachable : p.Reachable) : p.DecimalsFit := by
  cases reachable with
  | init _ fit => exact fit
  | step _ _ _ fit => exact fit

/-! ### A pool with the highest mining speed -/

/-- The pool `InitPool` writes at slot 0 with the highest mining speed it accepts,
`u64::MAX`. -/
def fastPoolInit : Pool :=
  Pool.init ⟨0, default, ReserveLiquidity.new ⟨default, 6, default, default, true, default,
      Decimal.one⟩, ReserveCollateral.new default default, ⟨false⟩,
    Lottery.new default ⟨2 ^ 64 - 1, by decide⟩ 0⟩

/-- `fastPoolInit` refreshed at slot 0: with no collateral its indices stay at zero. -/
def fastPoolRefreshed : Pool := { fastPoolInit with lastUpdate := ⟨0, false⟩ }

/-- One unit of liquidity deposited into `fastPoolRefreshed`, which is then stale. -/
def fastPool : Pool :=
  { fastPoolRefreshed with
    lastUpdate := ⟨0, true⟩
    liquidity := { fastPoolRefreshed.liquidity with availableAmount := 1 }
    collateral := { fastPoolRefreshed.collateral with mintTotalSupply := 1 } }

theorem fastPool_reachable : fastPool.Reachable := by
  have initial : fastPoolInit.Initial :=
    ⟨0, default, _, default, default, default, ⟨2 ^ 64 - 1, by decide⟩, 0, ⟨false⟩, rfl⟩
  have refreshed : fastPoolInit.Refreshes 0 fastPoolRefreshed :=
    ⟨Decimal.one, _, refreshIndex_of_unsupplied rfl, rfl⟩
  have deposited : fastPoolRefreshed.Deposits 0 fastPool :=
    ⟨by decide, rfl, rfl, 1, 1, { fastPool with lastUpdate := ⟨0, false⟩ }, by decide, rfl⟩
  exact .step 0 (.step 0 (.init initial (by decide)) (.inl refreshed) (by decide))
    (.inr (.inl deposited)) (by decide)

/-- On a pool the program can store, a refresh at a slot no earlier than the pool's yields a pool
that can be stored exactly when there is no collateral, or the reward fits the checked product and
the lending index it reaches fits the packed layout. -/
theorem reachable_refresh_stored_iff {p : Pool} {slot : Slot} (reachable : p.Reachable)
    (later : p.lastUpdate.slot ≤ slot) :
    (∃ q, p.refreshIndex slot = .ok q ∧ q.DecimalsFit) ↔
      p.collateral.mintTotalSupply = 0 ∨
        (p.sideReward slot * WAD < 2 ^ 192 ∧
          p.lottery.lTokenMiningIndex.val + p.sideReward slot / p.collateral.mintTotalSupply.val <
            2 ^ 128) := by
  have fit := reachable.decimalsFit
  by_cases empty : p.collateral.mintTotalSupply = 0
  · exact iff_of_true ⟨p, refreshIndex_of_unsupplied empty, fit⟩ (.inl empty)
  have balanced := reachable.balanced
  have unborrowed : p.liquidity.borrowedAmountWads.val = 0 := by rw [balanced.unborrowed]; rfl
  have rated : p.liquidity.cumulativeBorrowRateWads.val ≠ 0 := by
    rw [balanced.rateOne]; exact wad_pos.ne'
  constructor
  · rintro ⟨q, indexed, fits⟩
    obtain ⟨-, product, -, raised, frame⟩ :=
      (refreshIndex_of_unborrowed empty unborrowed rated).mp indexed
    rw [frame, decimalsFit_lending fit, raised] at fits
    exact .inr ⟨product, fits⟩
  · rintro (empty' | ⟨product, fits⟩)
    · exact absurd empty' empty
    · exact ⟨{ p with lottery := { p.lottery with lTokenMiningIndex := ⟨_, by omega⟩ } },
        (refreshIndex_of_unborrowed empty unborrowed rated).mpr
          ⟨later, product, by omega, rfl, rfl⟩,
        (decimalsFit_lending fit).mpr fits⟩

theorem fast_pool_refresh_at_nine : fastPool.lastUpdate.slot ≤ 9 ∧
    ((∃ q, fastPool.refreshIndex 9 = .ok q ∧ q.DecimalsFit) ↔
      fastPool.collateral.mintTotalSupply = 0 ∨
        (fastPool.sideReward 9 * WAD < 2 ^ 192 ∧
          fastPool.lottery.lTokenMiningIndex.val +
              fastPool.sideReward 9 / fastPool.collateral.mintTotalSupply.val < 2 ^ 128)) :=
  ⟨by decide, reachable_refresh_stored_iff fastPool_reachable (by decide)⟩

/-- Refreshing `fastPool` at any slot from 10 on leaves a lending index of at least `2^128`, so no
refresh, and no other instruction, of the stale pool can be stored again; at slot 171 the refresh
fails outright with `MathOverflow`. -/
theorem fast_pool_locks_after_ten_idle_slots :
    fastPool.Reachable ∧ fastPool.refreshIndex 171 = .error (PoolingError.mathOverflow : Fault) ∧
      ∀ slot q, 10 ≤ slot.val → fastPool.Step slot q → ¬q.DecimalsFit := by
  refine ⟨fastPool_reachable, by decide, ?_⟩
  rintro slot q idle (⟨marketPrice, r, indexed, rfl⟩ | ⟨fresh, -⟩ | ⟨fresh, -⟩)
  · obtain ⟨-, -, -, raised, -⟩ := (refreshIndex_of_unborrowed (show (1 : U64) ≠ 0 by decide) rfl
      (show WAD ≠ 0 from wad_pos.ne')).mp indexed
    have big : 2 ^ 128 ≤ r.lottery.lTokenMiningIndex.val := by
      rw [raised]
      show 2 ^ 128 ≤ 0 + (2 ^ 64 - 1) * (slot.val - 0) * 2 * WAD / 1
      rw [Nat.div_one, Nat.sub_zero, Nat.zero_add]
      calc 2 ^ 128 ≤ (2 ^ 64 - 1) * 10 * 2 * WAD := by decide
        _ ≤ (2 ^ 64 - 1) * slot.val * 2 * WAD :=
          Nat.mul_le_mul_right _ (Nat.mul_le_mul_right _ (Nat.mul_le_mul_left _ idle))
    exact fun fits => Nat.not_lt.mpr big fits.2.2.2.1
  all_goals
    rw [LastUpdate.isStale_eq_ok_false] at fresh
    cases fresh.1

end Pool

end AllwinPooling
