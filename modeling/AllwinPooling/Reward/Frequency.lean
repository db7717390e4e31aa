import AllwinPooling.Reward.Refresh
import Mathlib.Data.Nat.ModEq
import Mathlib.Data.List.Chain
import Mathlib.Order.Fin.Basic

/-!
# Refresh frequency

A refresh credits each reward index with the side reward for the slots since the last one,
divided down and truncated. Refreshing at `s₁` and then at `s₂` credits the rewards of the two
spans, each truncated; one refresh at `s₂` credits their sum, truncated once. So a split refresh
succeeds whenever the single one does, and leaves each index at most one unit (`10^-18`) below it;
over refreshes at any list of rising slots, at most one unit per extra refresh.
-/

namespace AllwinPooling

/-- The floor of a sum is the sum of the floors, or one more. -/
theorem div_add_div_le_add_div (a b d : Nat) :
    a / d + b / d ≤ (a + b) / d ∧ (a + b) / d ≤ a / d + b / d + 1 := by
  refine ⟨Nat.add_div_le_add_div a b d, ?_⟩
  rcases Nat.eq_zero_or_pos d with rfl | positive
  · simp
  rw [Nat.add_div positive]
  split <;> omega

namespace Pool

/-! ### One refresh of a pool with collateral -/

/-- `RefreshPool` on a pool with collateral, in full: the oracle's price, both indices credited as
`refresh_index` credits them, and `last_update` fresh at `slot`. -/
theorem refreshes_iff_of_supplied {p q : Pool} {slot : Slot}
    (supplied : p.collateral.mintTotalSupply ≠ 0) :
    p.Refreshes slot q ↔ p.lastUpdate.slot ≤ slot ∧ p.sideReward slot * WAD < 2 ^ 192 ∧
      ∃ marketPrice share,
        p.liquidity.borrowedAmountWads.tryDiv p.liquidity.cumulativeBorrowRateWads = .ok share ∧
        q.lottery.lTokenMiningIndex.val =
          p.lottery.lTokenMiningIndex.val + p.sideReward slot / p.collateral.mintTotalSupply.val ∧
        q.lottery.borrowMiningIndex.val = p.lottery.borrowMiningIndex.val +
          (if share < Decimal.one then 0 else p.sideReward slot * WAD / share.val) ∧
        q = { p with
          liquidity := { p.liquidity with marketPrice }
          lastUpdate := ⟨slot, false⟩
          lottery := { p.lottery with
            lTokenMiningIndex := q.lottery.lTokenMiningIndex
            borrowMiningIndex := q.lottery.borrowMiningIndex } } := by
  have priced (marketPrice : Decimal) : ({ p with
      liquidity := { p.liquidity with marketPrice } } : Pool).collateral.mintTotalSupply ≠ 0 :=
    supplied
  constructor
  · rintro ⟨marketPrice, r, refreshed, rfl⟩
    obtain ⟨back, product, share, shareOk, lendVal, borrowVal, frame⟩ :=
      (refreshIndex_eq_ok (priced marketPrice)).mp refreshed
    refine ⟨back, product, marketPrice, share, shareOk, lendVal, borrowVal, ?_⟩
    rw [frame]
    rfl
  · rintro ⟨back, product, marketPrice, share, shareOk, lendVal, borrowVal, frame⟩
    exact ⟨marketPrice, { p with
        liquidity := { p.liquidity with marketPrice }
        lottery := { p.lottery with
          lTokenMiningIndex := q.lottery.lTokenMiningIndex
          borrowMiningIndex := q.lottery.borrowMiningIndex } },
      (refreshIndex_eq_ok (priced marketPrice)).mpr
        ⟨back, product, share, shareOk, lendVal, borrowVal, rfl⟩, frame⟩

/-- A refresh whose credits fit is possible, at any market price. -/
theorem refreshes_of_fits {p : Pool} {slot : Slot} {share : Decimal} (marketPrice : Decimal)
    (supplied : p.collateral.mintTotalSupply ≠ 0) (back : p.lastUpdate.slot ≤ slot)
    (product : p.sideReward slot * WAD < 2 ^ 192)
    (shareOk :
      p.liquidity.borrowedAmountWads.tryDiv p.liquidity.cumulativeBorrowRateWads = .ok share)
    (lendFits : p.lottery.lTokenMiningIndex.val +
      p.sideReward slot / p.collateral.mintTotalSupply.val < 2 ^ 192)
    (borrowFits : p.lottery.borrowMiningIndex.val +
      (if share < Decimal.one then 0 else p.sideReward slot * WAD / share.val) < 2 ^ 192) :
    ∃ q, p.Refreshes slot q :=
  ⟨{ p with
      liquidity := { p.liquidity with marketPrice }
      lastUpdate := ⟨slot, false⟩
      lottery := { p.lottery with
        lTokenMiningIndex := ⟨_, lendFits⟩
        borrowMiningIndex := ⟨_, borrowFits⟩ } },
    (refreshes_iff_of_supplied supplied).mpr
      ⟨back, product, marketPrice, share, shareOk, rfl, rfl, rfl⟩⟩

/-! ### Without collateral -/

theorem refreshes_of_unsupplied {p : Pool} {slot : Slot} (empty : p.collateral.mintTotalSupply = 0)
    (marketPrice : Decimal) :
    p.Refreshes slot { p with
      liquidity := { p.liquidity with marketPrice }
      lastUpdate := ⟨slot, false⟩ } :=
  ⟨marketPrice, _, refreshIndex_of_unsupplied (by exact empty), rfl⟩

theorem Refreshes.lottery_of_unsupplied {p q : Pool} {slot : Slot}
    (empty : p.collateral.mintTotalSupply = 0) (refreshed : p.Refreshes slot q) :
    q.lottery = p.lottery := by
  obtain ⟨marketPrice, r, indexed, rfl⟩ := refreshed
  rw [refreshIndex_of_unsupplied (by exact empty), Except.ok.injEq] at indexed
  rw [← indexed]

/-! ### Two refreshes against one -/

/-- A refresh leaves the collateral, the borrowed amount, the borrow rate and the mining speed as
they were. -/
theorem Refreshes.frame {p q : Pool} {slot : Slot} (refreshed : p.Refreshes slot q) :
    q.collateral = p.collateral ∧ q.liquidity.borrowedAmountWads = p.liquidity.borrowedAmountWads ∧
      q.liquidity.cumulativeBorrowRateWads = p.liquidity.cumulativeBorrowRateWads ∧
      q.lottery.totalMiningSpeed = p.lottery.totalMiningSpeed := by
  obtain ⟨_, r, indexed, rfl⟩ := refreshed
  obtain ⟨frame, -, -⟩ := refreshIndex_ok indexed
  refine ⟨?_, ?_, ?_, ?_⟩ <;> rw [frame]

theorem sideReward_le {p : Pool} {s₁ s₂ : Slot} (second : s₁ ≤ s₂) :
    p.sideReward s₁ ≤ p.sideReward s₂ :=
  Nat.mul_le_mul_right _ (Nat.mul_le_mul_right _
    (Nat.mul_le_mul_left _ (Nat.sub_le_sub_right (second : s₁.val ≤ s₂.val) _)))

/-- The reward for the slots up to `s₂` is the reward up to `s₁` and the reward a pool refreshed at
`s₁`, with the same speed, earns from there. -/
theorem sideReward_split {p q : Pool} {s₁ s₂ : Slot}
    (speed : q.lottery.totalMiningSpeed = p.lottery.totalMiningSpeed)
    (last : q.lastUpdate.slot = s₁) (first : p.lastUpdate.slot ≤ s₁) (second : s₁ ≤ s₂) :
    p.sideReward s₂ = p.sideReward s₁ + q.sideReward s₂ := by
  have elapsed : s₂.val - p.lastUpdate.slot.val =
      (s₁.val - p.lastUpdate.slot.val) + (s₂.val - s₁.val) := by
    have : p.lastUpdate.slot.val ≤ s₁.val := first
    have : s₁.val ≤ s₂.val := second
    omega
  unfold sideReward
  rw [speed, last, elapsed]
  ring

section
variable {p q₁ q₂ r : Pool} {s₁ s₂ : Slot}

/-- A refresh that succeeds at `s₂` succeeds at any earlier slot from the pool's own. -/
theorem Refreshes.earlier (first : p.lastUpdate.slot ≤ s₁) (second : s₁ ≤ s₂)
    (single : p.Refreshes s₂ r) : ∃ q₁, p.Refreshes s₁ q₁ := by
  by_cases empty : p.collateral.mintTotalSupply = 0
  · exact ⟨_, refreshes_of_unsupplied empty Decimal.one⟩
  obtain ⟨-, product, -, share, shareOk, lendVal, borrowVal, -⟩ :=
    (refreshes_iff_of_supplied empty).mp single
  have less := sideReward_le (p := p) second
  refine refreshes_of_fits Decimal.one empty first
    (Nat.lt_of_le_of_lt (Nat.mul_le_mul_right _ less) product) shareOk
    (Nat.lt_of_le_of_lt ?_ r.lottery.lTokenMiningIndex.val_lt)
    (Nat.lt_of_le_of_lt ?_ r.lottery.borrowMiningIndex.val_lt)
  · rw [lendVal]
    exact Nat.add_le_add_left (Nat.div_le_div_right less) _
  · rw [borrowVal]
    by_cases small : share < Decimal.one
    · simp only [if_pos small, le_refl]
    · simp only [if_neg small]
      exact Nat.add_le_add_left (Nat.div_le_div_right (Nat.mul_le_mul_right _ less)) _

/-- After a refresh at `s₁`, what a refresh at `s₂` would credit on each side lands at most one
unit below what a single refresh at `s₂` credits, and never above it. -/
theorem Refreshes.split_credit (supplied : p.collateral.mintTotalSupply ≠ 0)
    (first : p.lastUpdate.slot ≤ s₁) (second : s₁ ≤ s₂)
    (early : p.Refreshes s₁ q₁) (single : p.Refreshes s₂ r) :
    q₁.sideReward s₂ ≤ p.sideReward s₂ ∧ ∃ share,
      q₁.liquidity.borrowedAmountWads.tryDiv q₁.liquidity.cumulativeBorrowRateWads = .ok share ∧
      q₁.lottery.lTokenMiningIndex.val + q₁.sideReward s₂ / q₁.collateral.mintTotalSupply.val ≤
        r.lottery.lTokenMiningIndex.val ∧
      r.lottery.lTokenMiningIndex.val ≤ q₁.lottery.lTokenMiningIndex.val +
        q₁.sideReward s₂ / q₁.collateral.mintTotalSupply.val + 1 ∧
      q₁.lottery.borrowMiningIndex.val +
          (if share < Decimal.one then 0 else q₁.sideReward s₂ * WAD / share.val) ≤
        r.lottery.borrowMiningIndex.val ∧
      r.lottery.borrowMiningIndex.val ≤ q₁.lottery.borrowMiningIndex.val +
          (if share < Decimal.one then 0 else q₁.sideReward s₂ * WAD / share.val) + 1 := by
  obtain ⟨collateral₁, borrowed₁, rate₁, speed₁⟩ := early.frame
  obtain ⟨-, -, -, share, shareOk, lend₁, borrow₁, -⟩ :=
    (refreshes_iff_of_supplied supplied).mp early
  obtain ⟨-, -, -, share', shareOk', lendVal, borrowVal, -⟩ :=
    (refreshes_iff_of_supplied supplied).mp single
  rw [shareOk, Except.ok.injEq] at shareOk'
  subst shareOk'
  have split := sideReward_split speed₁ (congrArg LastUpdate.slot early.lastUpdate) first second
  have lending := div_add_div_le_add_div (p.sideReward s₁) (q₁.sideReward s₂)
    p.collateral.mintTotalSupply.val
  rw [← split] at lending
  refine ⟨le_of_le_of_eq (Nat.le_add_left _ _) split.symm, share,
    by rw [borrowed₁, rate₁, shareOk], ?_⟩
  rw [collateral₁]
  by_cases small : share < Decimal.one
  · simp only [if_pos small] at borrowVal borrow₁ ⊢
    omega
  · simp only [if_neg small] at borrowVal borrow₁ ⊢
    have borrowing := div_add_div_le_add_div (p.sideReward s₁ * WAD) (q₁.sideReward s₂ * WAD)
      share.val
    rw [← Nat.add_mul, ← split] at borrowing
    omega

/-- Refreshed at `s₁`, a pool can go on to `s₂` whenever it could have gone there at once. -/
theorem Refreshes.continues (first : p.lastUpdate.slot ≤ s₁) (second : s₁ ≤ s₂)
    (early : p.Refreshes s₁ q₁) (single : p.Refreshes s₂ r) : ∃ q₂, q₁.Refreshes s₂ q₂ := by
  by_cases empty : p.collateral.mintTotalSupply = 0
  · exact ⟨_, refreshes_of_unsupplied (by rw [early.frame.1]; exact empty) Decimal.one⟩
  obtain ⟨less, share, shareOk, lend, -, borrow, -⟩ :=
    early.split_credit empty first second single
  obtain ⟨-, product, -⟩ := (refreshes_iff_of_supplied empty).mp single
  exact refreshes_of_fits Decimal.one (by rw [early.frame.1]; exact empty)
    (by rw [early.lastUpdate]; exact second)
    (Nat.lt_of_le_of_lt (Nat.mul_le_mul_right _ less) product) shareOk
    (Nat.lt_of_le_of_lt lend r.lottery.lTokenMiningIndex.val_lt)
    (Nat.lt_of_le_of_lt borrow r.lottery.borrowMiningIndex.val_lt)

/-- Refreshed at `s₁` and then at `s₂`, each index ends at most one unit below where one refresh at
`s₂` takes it, and never above. -/
theorem Refreshes.split_le (first : p.lastUpdate.slot ≤ s₁) (second : s₁ ≤ s₂)
    (early : p.Refreshes s₁ q₁) (late : q₁.Refreshes s₂ q₂) (single : p.Refreshes s₂ r) :
    q₂.lottery.lTokenMiningIndex.val ≤ r.lottery.lTokenMiningIndex.val ∧
      r.lottery.lTokenMiningIndex.val ≤ q₂.lottery.lTokenMiningIndex.val + 1 ∧
      q₂.lottery.borrowMiningIndex.val ≤ r.lottery.borrowMiningIndex.val ∧
      r.lottery.borrowMiningIndex.val ≤ q₂.lottery.borrowMiningIndex.val + 1 := by
  by_cases empty : p.collateral.mintTotalSupply = 0
  · have empty₁ : q₁.collateral.mintTotalSupply = 0 := by rw [early.frame.1]; exact empty
    rw [late.lottery_of_unsupplied empty₁, early.lottery_of_unsupplied empty,
      single.lottery_of_unsupplied empty]
    omega
  obtain ⟨-, share, shareOk, lend, lend', borrow, borrow'⟩ :=
    early.split_credit empty first second single
  obtain ⟨-, -, -, share', shareOk', lend₂, borrow₂, -⟩ :=
    (refreshes_iff_of_supplied (by rw [early.frame.1]; exact empty)).mp late
  rw [shareOk, Except.ok.injEq] at shareOk'
  subst shareOk'
  omega

end

theorem split_refresh_truncates_at_most_one_unit {p r : Pool} {s₁ s₂ : Slot}
    (first : p.lastUpdate.slot ≤ s₁) (second : s₁ ≤ s₂) (single : p.Refreshes s₂ r) :
    (∃ q₁ q₂, p.Refreshes s₁ q₁ ∧ q₁.Refreshes s₂ q₂) ∧
    ∀ q₁ q₂, p.Refreshes s₁ q₁ → q₁.Refreshes s₂ q₂ →
      q₂.lottery.lTokenMiningIndex.val ≤ r.lottery.lTokenMiningIndex.val ∧
      r.lottery.lTokenMiningIndex.val ≤ q₂.lottery.lTokenMiningIndex.val + 1 ∧
      q₂.lottery.borrowMiningIndex.val ≤ r.lottery.borrowMiningIndex.val ∧
      r.lottery.borrowMiningIndex.val ≤ q₂.lottery.borrowMiningIndex.val + 1 := by
  obtain ⟨q₁, early⟩ := single.earlier first second
  obtain ⟨q₂, late⟩ := early.continues first second single
  exact ⟨⟨q₁, q₂, early, late⟩, fun q₁ q₂ early late => early.split_le first second late single⟩

/-- `fastPool`, refreshed at slot 4 and again at 9, against once at 9. -/
theorem fast_pool_split_refresh :
    fastPool.lastUpdate.slot ≤ 4 ∧ (4 : Slot) ≤ 9 ∧ ∃ r, fastPool.Refreshes 9 r ∧
      (∃ q₁ q₂, fastPool.Refreshes 4 q₁ ∧ q₁.Refreshes 9 q₂) ∧
      ∀ q₁ q₂, fastPool.Refreshes 4 q₁ → q₁.Refreshes 9 q₂ →
        q₂.lottery.lTokenMiningIndex.val ≤ r.lottery.lTokenMiningIndex.val ∧
        r.lottery.lTokenMiningIndex.val ≤ q₂.lottery.lTokenMiningIndex.val + 1 ∧
        q₂.lottery.borrowMiningIndex.val ≤ r.lottery.borrowMiningIndex.val ∧
        r.lottery.borrowMiningIndex.val ≤ q₂.lottery.borrowMiningIndex.val + 1 := by
  obtain ⟨r, single⟩ : ∃ r, fastPool.Refreshes 9 r := ⟨_, Decimal.one, _, rfl, rfl⟩
  exact ⟨by decide, by decide, r, single,
    split_refresh_truncates_at_most_one_unit (by decide) (by decide) single⟩

/-! ### Any number of refreshes -/

/-- Refreshes of a pool at each slot of a list in turn, each as `process_refresh_reserve` applies
it. -/
inductive RefreshesAlong : Pool → List Slot → Pool → Prop
  | nil (p : Pool) : RefreshesAlong p [] p
  | cons {p p' q : Pool} {s : Slot} {slots : List Slot} :
      p.Refreshes s p' → RefreshesAlong p' slots q → RefreshesAlong p (s :: slots) q

/-- Two refreshes of one pool at one slot credit the same, whatever prices the oracle gives. -/
theorem Refreshes.lottery_eq {p q r : Pool} {slot : Slot} (one : p.Refreshes slot q)
    (other : p.Refreshes slot r) : q.lottery = r.lottery := by
  by_cases empty : p.collateral.mintTotalSupply = 0
  · rw [one.lottery_of_unsupplied empty, other.lottery_of_unsupplied empty]
  obtain ⟨-, -, _, share, shareOk, lend, borrow, frame⟩ := (refreshes_iff_of_supplied empty).mp one
  obtain ⟨-, -, _, share', shareOk', lend', borrow', frame'⟩ :=
    (refreshes_iff_of_supplied empty).mp other
  rw [shareOk, Except.ok.injEq] at shareOk'
  subst shareOk'
  have lottery := congrArg Pool.lottery frame
  have lottery' := congrArg Pool.lottery frame'
  rw [lottery, lottery', Decimal.ext (lend.trans lend'.symm),
    Decimal.ext (borrow.trans borrow'.symm)]

/-- Refreshes at rising slots ending at `s` succeed whenever one refresh at `s` does, and leave each
index at most one unit per extra refresh below where that one refresh takes it, and never above. -/
theorem RefreshesAlong.truncates {p r : Pool} {slots : List Slot} {s : Slot}
    (sorted : List.Chain (· ≤ ·) p.lastUpdate.slot (slots ++ [s])) (single : p.Refreshes s r) :
    (∃ q, p.RefreshesAlong (slots ++ [s]) q) ∧
    ∀ q, p.RefreshesAlong (slots ++ [s]) q →
      q.lottery.lTokenMiningIndex.val ≤ r.lottery.lTokenMiningIndex.val ∧
      r.lottery.lTokenMiningIndex.val ≤ q.lottery.lTokenMiningIndex.val + slots.length ∧
      q.lottery.borrowMiningIndex.val ≤ r.lottery.borrowMiningIndex.val ∧
      r.lottery.borrowMiningIndex.val ≤ q.lottery.borrowMiningIndex.val + slots.length := by
  induction slots generalizing p r with
  | nil =>
    refine ⟨⟨r, .cons single (.nil r)⟩, fun q along => ?_⟩
    cases along with
    | cons refreshed rest =>
      cases rest
      rw [refreshed.lottery_eq single, List.length_nil]
      omega
  | cons s₁ slots ih =>
    rw [List.cons_append, List.chain_cons] at sorted
    obtain ⟨first, sorted⟩ := sorted
    have second : s₁ ≤ s :=
      List.rel_of_pairwise_cons (List.chain_iff_pairwise.mp sorted) (by simp)
    have resorted {q₁ : Pool} (early : p.Refreshes s₁ q₁) :
        List.Chain (· ≤ ·) q₁.lastUpdate.slot (slots ++ [s]) := by
      rw [early.lastUpdate]; exact sorted
    refine ⟨?_, fun q along => ?_⟩
    · obtain ⟨q₁, early⟩ := single.earlier first second
      obtain ⟨r₁, late⟩ := early.continues first second single
      obtain ⟨q, along⟩ := (ih (resorted early) late).1
      exact ⟨q, .cons early along⟩
    · cases along with
      | cons early rest =>
        obtain ⟨r₁, late⟩ := early.continues first second single
        have rest := (ih (resorted early) late).2 q rest
        have split := early.split_le first second late single
        rw [List.length_cons]
        omega

/-- `fastPool`, refreshed at slots 2, 4 and 9, against once at 9. -/
theorem fast_pool_refreshed_along :
    List.Chain (· ≤ ·) fastPool.lastUpdate.slot ([2, 4] ++ [9]) ∧ ∃ r, fastPool.Refreshes 9 r ∧
      (∃ q, fastPool.RefreshesAlong ([2, 4] ++ [9]) q) ∧
      ∀ q, fastPool.RefreshesAlong ([2, 4] ++ [9]) q →
        q.lottery.lTokenMiningIndex.val ≤ r.lottery.lTokenMiningIndex.val ∧
        r.lottery.lTokenMiningIndex.val ≤ q.lottery.lTokenMiningIndex.val + [2, 4].length ∧
        q.lottery.borrowMiningIndex.val ≤ r.lottery.borrowMiningIndex.val ∧
        r.lottery.borrowMiningIndex.val ≤ q.lottery.borrowMiningIndex.val + [2, 4].length := by
  have sorted : List.Chain (· ≤ ·) fastPool.lastUpdate.slot ([2, 4] ++ [9]) :=
    .cons (by decide) (.cons (by decide) (.cons (by decide) .nil))
  obtain ⟨r, single⟩ : ∃ r, fastPool.Refreshes 9 r := ⟨_, Decimal.one, _, rfl, rfl⟩
  exact ⟨sorted, r, single, RefreshesAlong.truncates sorted single⟩

/-! ### Within one slot -/

theorem sideReward_self (p : Pool) : p.sideReward p.lastUpdate.slot = 0 := by
  simp [sideReward]

/-- A refresh at the slot the pool was last refreshed at credits nothing. -/
theorem Refreshes.lottery_at_slot {p q : Pool} {slot : Slot} (current : p.lastUpdate.slot = slot)
    (refreshed : p.Refreshes slot q) : q.lottery = p.lottery := by
  subst current
  by_cases empty : p.collateral.mintTotalSupply = 0
  · exact refreshed.lottery_of_unsupplied empty
  obtain ⟨-, -, _, share, -, lendVal, borrowVal, frame⟩ :=
    (refreshes_iff_of_supplied empty).mp refreshed
  rw [sideReward_self, Nat.zero_div, Nat.add_zero] at lendVal
  rw [sideReward_self, Nat.zero_mul, Nat.zero_div, ite_self, Nat.add_zero] at borrowVal
  rw [congrArg Pool.lottery frame, Decimal.ext lendVal, Decimal.ext borrowVal]

/-- One instruction on a pool last refreshed at the clock's slot leaves its reward indices, and
its slot, as they were. -/
theorem Step.lottery_at_slot {p q : Pool} {slot : Slot} (current : p.lastUpdate.slot = slot)
    (stepped : p.Step slot q) : q.lottery = p.lottery ∧ q.lastUpdate.slot = slot := by
  rcases stepped with refreshed | ⟨-, -, -, _, _, r, moved, rfl⟩ | ⟨-, -, _, _, r, moved, rfl⟩
  · exact ⟨refreshed.lottery_at_slot current, by rw [refreshed.lastUpdate]⟩
  · obtain ⟨_, -, -, -, -, -, -, frame⟩ := depositLiquidity_ok moved
    exact ⟨by rw [frame], by rw [frame]; exact current⟩
  · obtain ⟨_, -, -, -, -, -, -, -, frame⟩ := redeemCollateral_ok moved
    exact ⟨by rw [frame], by rw [frame]; exact current⟩

end Pool

end AllwinPooling
