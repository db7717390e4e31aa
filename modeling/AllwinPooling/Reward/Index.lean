import AllwinPooling.State.Pool
import Mathlib.Tactic.Ring
import Mathlib.Tactic.Linarith

/-!
# Reward index

What `refresh_index` does to a pool: the ratio pair `get_mine_ratio` returns, the reward it
credits for the elapsed slots, and the fields it may move. Only the two mining indices change,
and neither goes down.
-/

namespace AllwinPooling

namespace Pool

/-- `Rate::one().try_div(Rate::from_percent(50))`, the rate on both sides: two. -/
def twoRate : Rate := ⟨2 * WAD, by decide⟩

theorem getMineRatio_eq (p : Pool) : p.getMineRatio = .ok (twoRate, twoRate) := by
  unfold getMineRatio; decide

/-- The reward credited for `slot - last_update.slot` at a ratio `r`, before it is shared out. -/
theorem minedAmount_eq_ok {p : Pool} {slot : Slot} {r : Rate} {d : Decimal} :
    p.minedAmount slot r = .ok d ↔ p.lastUpdate.slot ≤ slot ∧
      p.lottery.totalMiningSpeed.val * WAD * (slot.val - p.lastUpdate.slot.val) < 2 ^ 192 ∧
      p.lottery.totalMiningSpeed.val * WAD * (slot.val - p.lastUpdate.slot.val) * r.val < 2 ^ 192 ∧
      d.val = p.lottery.totalMiningSpeed.val * WAD * (slot.val - p.lastUpdate.slot.val) * r.val / WAD := by
  simp only [minedAmount, bind_eq_ok, okOr_eq_ok, checkedSub_eq_some, Decimal.tryMulU64_eq_ok,
    Decimal.tryMulRate, Decimal.tryMul_eq_ok, Decimal.fromU64_val, Decimal.fromRate_val]
  constructor
  · rintro ⟨elapsed, ⟨back, elapsedVal⟩, scaled, ⟨fits, scaledVal⟩, product, credited⟩
    rw [scaledVal, elapsedVal] at *
    exact ⟨back, fits, product, credited⟩
  · rintro ⟨back, fits, product, credited⟩
    exact ⟨⟨slot.val - p.lastUpdate.slot.val, by omega⟩, ⟨back, rfl⟩,
      ⟨_, fits⟩, ⟨fits, rfl⟩, product, credited⟩

/-- The reward `refresh_index` credits one side of a pool for the slots since its last update,
scaled by `WAD`: `speed * elapsed * ratio` at the ratio two. -/
def sideReward (p : Pool) (slot : Slot) : Nat :=
  p.lottery.totalMiningSpeed.val * (slot.val - p.lastUpdate.slot.val) * 2 * WAD

theorem minedAmount_twoRate {p : Pool} {slot : Slot} {d : Decimal} :
    p.minedAmount slot twoRate = .ok d ↔ p.lastUpdate.slot ≤ slot ∧
      p.sideReward slot * WAD < 2 ^ 192 ∧ d.val = p.sideReward slot := by
  have scaled : ∀ n, n * WAD * (2 * WAD) = n * 2 * WAD * WAD := fun n => by ring
  rw [minedAmount_eq_ok]
  simp only [twoRate, sideReward, scaled, Nat.mul_div_cancel _ wad_pos, Nat.mul_right_comm _ WAD]
  constructor
  · rintro ⟨back, -, product, credited⟩
    exact ⟨back, product, credited⟩
  · rintro ⟨back, product, credited⟩
    refine ⟨back, ?_, product, credited⟩
    exact lt_of_le_of_lt (by nlinarith [wad_pos]) product

theorem refreshIndex_of_unsupplied {p : Pool} {slot : Slot}
    (empty : p.collateral.mintTotalSupply = 0) : p.refreshIndex slot = .ok p := by
  rw [refreshIndex, if_pos empty]

/-- A refresh of a pool with collateral: both sides are credited the side reward, the lending
side per unit of collateral, and the borrowing side per unit of borrowed share when that share is
at least one. -/
theorem refreshIndex_eq_ok {p q : Pool} {slot : Slot}
    (supplied : p.collateral.mintTotalSupply ≠ 0) :
    p.refreshIndex slot = .ok q ↔ p.lastUpdate.slot ≤ slot ∧ p.sideReward slot * WAD < 2 ^ 192 ∧
      ∃ share, p.liquidity.borrowedAmountWads.tryDiv p.liquidity.cumulativeBorrowRateWads =
          .ok share ∧
        q.lottery.lTokenMiningIndex.val =
          p.lottery.lTokenMiningIndex.val + p.sideReward slot / p.collateral.mintTotalSupply.val ∧
        q.lottery.borrowMiningIndex.val = p.lottery.borrowMiningIndex.val +
          (if share < Decimal.one then 0 else p.sideReward slot * WAD / share.val) ∧
        q = { p with lottery := { p.lottery with
          lTokenMiningIndex := q.lottery.lTokenMiningIndex
          borrowMiningIndex := q.lottery.borrowMiningIndex } } := by
  unfold refreshIndex
  rw [if_neg supplied, getMineRatio_eq, ok_bind]
  dsimp only
  constructor
  · intro refreshed
    obtain ⟨mined, minedOk, refreshed⟩ := bind_ok refreshed
    obtain ⟨back, product, minedVal⟩ := minedAmount_twoRate.mp minedOk
    obtain ⟨increment, incrementOk, refreshed⟩ := bind_ok refreshed
    obtain ⟨-, incrementVal⟩ := Decimal.tryDivU64_eq_ok.mp incrementOk
    obtain ⟨index, indexOk, refreshed⟩ := bind_ok refreshed
    obtain ⟨-, indexVal⟩ := Decimal.tryAdd_eq_ok.mp indexOk
    obtain ⟨share, shareOk, refreshed⟩ := bind_ok refreshed
    refine ⟨back, product, share, shareOk, ?_⟩
    split at refreshed
    · next small =>
      cases refreshed
      rw [if_pos small, Nat.add_zero]
      exact ⟨by rw [indexVal, incrementVal, minedVal], rfl, rfl⟩
    · next large =>
      obtain ⟨mined', minedOk', refreshed⟩ := bind_ok refreshed
      obtain ⟨-, -, minedVal'⟩ := minedAmount_twoRate.mp minedOk'
      obtain ⟨increment', incrementOk', refreshed⟩ := bind_ok refreshed
      obtain ⟨-, -, incrementVal'⟩ := Decimal.tryDiv_eq_ok.mp incrementOk'
      obtain ⟨borrowIndex, borrowOk, refreshed⟩ := bind_ok refreshed
      obtain ⟨-, borrowVal⟩ := Decimal.tryAdd_eq_ok.mp borrowOk
      cases refreshed
      rw [if_neg large]
      exact ⟨by rw [indexVal, incrementVal, minedVal],
        by rw [borrowVal, incrementVal', minedVal']; rfl, rfl⟩
  · rintro ⟨back, product, share, shareOk, lendVal, borrowVal, frame⟩
    have reward : p.sideReward slot < 2 ^ 192 :=
      Nat.lt_of_le_of_lt (Nat.le_mul_of_pos_right _ wad_pos) product
    have mined : p.minedAmount slot twoRate = .ok ⟨_, reward⟩ :=
      minedAmount_twoRate.mpr ⟨back, product, rfl⟩
    have increment : (⟨_, reward⟩ : Decimal).tryDivU64 p.collateral.mintTotalSupply =
        .ok ⟨_, Nat.lt_of_le_of_lt (Nat.div_le_self _ _) reward⟩ :=
      Decimal.tryDivU64_eq_ok.mpr ⟨fun zero => supplied (Fin.ext zero), rfl⟩
    rw [mined, ok_bind, increment, ok_bind,
      Decimal.tryAdd_eq_ok.mpr ⟨lendVal ▸ q.lottery.lTokenMiningIndex.val_lt, lendVal⟩, ok_bind,
      shareOk, ok_bind]
    by_cases small : share < Decimal.one
    · rw [if_pos small, frame]
      rw [if_pos small, Nat.add_zero] at borrowVal
      rw [show q.lottery.borrowMiningIndex = p.lottery.borrowMiningIndex from Decimal.ext borrowVal]
    · rw [if_neg small] at borrowVal ⊢
      have large : share.val ≠ 0 := fun zero => small (by rw [Decimal.lt_iff, zero]; exact wad_pos)
      have mined' : ({ p with lottery := { p.lottery with
          lTokenMiningIndex := q.lottery.lTokenMiningIndex } } : Pool).minedAmount slot twoRate =
          .ok ⟨_, reward⟩ :=
        minedAmount_twoRate.mpr ⟨back, product, rfl⟩
      have increment' : (⟨_, reward⟩ : Decimal).tryDiv share =
          .ok ⟨_, Nat.lt_of_le_of_lt (Nat.div_le_self _ _) product⟩ :=
        Decimal.tryDiv_eq_ok.mpr ⟨product, large, rfl⟩
      rw [mined', ok_bind, increment', ok_bind,
        Decimal.tryAdd_eq_ok.mpr ⟨borrowVal ▸ q.lottery.borrowMiningIndex.val_lt, borrowVal⟩,
        frame]
      rfl

/-- A successful refresh moves the two mining indices, up, and nothing else. -/
theorem refreshIndex_ok {p q : Pool} {slot : Slot} (refreshed : p.refreshIndex slot = .ok q) :
    q = { p with lottery := { p.lottery with
      lTokenMiningIndex := q.lottery.lTokenMiningIndex
      borrowMiningIndex := q.lottery.borrowMiningIndex } } ∧
    p.lottery.lTokenMiningIndex.val ≤ q.lottery.lTokenMiningIndex.val ∧
    p.lottery.borrowMiningIndex.val ≤ q.lottery.borrowMiningIndex.val := by
  by_cases empty : p.collateral.mintTotalSupply = 0
  · rw [refreshIndex_of_unsupplied empty, Except.ok.injEq] at refreshed
    subst refreshed
    exact ⟨rfl, Nat.le_refl _, Nat.le_refl _⟩
  obtain ⟨-, -, _, -, lendVal, borrowVal, frame⟩ := (refreshIndex_eq_ok empty).mp refreshed
  exact ⟨frame, le_of_le_of_eq (Nat.le_add_right _ _) lendVal.symm,
    le_of_le_of_eq (Nat.le_add_right _ _) borrowVal.symm⟩

/-- On a pool with collateral, nothing borrowed and a borrow rate set, a refresh moves only the
lending index, by the side reward over the collateral supply. -/
theorem refreshIndex_of_unborrowed {p q : Pool} {slot : Slot}
    (supplied : p.collateral.mintTotalSupply ≠ 0)
    (unborrowed : p.liquidity.borrowedAmountWads.val = 0)
    (rated : p.liquidity.cumulativeBorrowRateWads.val ≠ 0) :
    p.refreshIndex slot = .ok q ↔ p.lastUpdate.slot ≤ slot ∧ p.sideReward slot * WAD < 2 ^ 192 ∧
      p.lottery.lTokenMiningIndex.val + p.sideReward slot / p.collateral.mintTotalSupply.val <
        2 ^ 192 ∧
      q.lottery.lTokenMiningIndex.val =
        p.lottery.lTokenMiningIndex.val + p.sideReward slot / p.collateral.mintTotalSupply.val ∧
      q = { p with lottery := { p.lottery with lTokenMiningIndex := q.lottery.lTokenMiningIndex } } := by
  have share : p.liquidity.borrowedAmountWads.tryDiv p.liquidity.cumulativeBorrowRateWads =
      .ok Decimal.zero :=
    Decimal.tryDiv_eq_ok.mpr ⟨by simp [unborrowed], rated, by simp [unborrowed]⟩
  have small : Decimal.zero < Decimal.one := wad_pos
  rw [refreshIndex_eq_ok supplied]
  constructor
  · rintro ⟨back, product, share', shareOk, lendVal, borrowVal, frame⟩
    rw [share, Except.ok.injEq] at shareOk
    subst shareOk
    rw [if_pos small, Nat.add_zero] at borrowVal
    refine ⟨back, product, lendVal ▸ q.lottery.lTokenMiningIndex.val_lt, lendVal, ?_⟩
    rw [frame,
      show q.lottery.borrowMiningIndex = p.lottery.borrowMiningIndex from Decimal.ext borrowVal]
  · rintro ⟨back, product, -, lendVal, frame⟩
    refine ⟨back, product, _, share, lendVal, by rw [if_pos small, frame]; rfl, ?_⟩
    rw [frame]

theorem refreshIndex_credits_twice_the_budget_in_spec_scenario :
    (fun q : Pool => q.lottery.lTokenMiningIndex.val) <$>
      ({ (default : Pool) with
          liquidity := { (default : ReserveLiquidity) with cumulativeBorrowRateWads := .one }
          collateral := { (default : ReserveCollateral) with mintTotalSupply := 1000000 }
          lottery := { (default : Lottery) with totalMiningSpeed := 100 } } : Pool).refreshIndex 10 =
      .ok 2000000000000000 := by
  decide

end Pool

end AllwinPooling
