import AllwinPooling.Liquidity.ExchangeRate

/-!
# The owner's fee

`withdraw` hands out only what is available above the reserve owner's accrued fee: while the
available amount covers the fee, `liquidity_amount` is the floor of their difference, and a
withdrawal either fits it, leaving at least the fee rounded up, or fails with
`InsufficientLiquidity`.
-/

namespace AllwinPooling

/-- The floor of `a - u / WAD`, for a whole `a`, is `a` less the ceiling of `u / WAD`. -/
theorem floor_sub_eq_sub_ceil {a u : Nat} (covered : u ≤ a * WAD) :
    (a * WAD - u) / WAD = a - (WAD - 1 + u) / WAD := by
  unfold WAD at *; omega

theorem ceil_le_of_covered {a u : Nat} (covered : u ≤ a * WAD) : (WAD - 1 + u) / WAD ≤ a := by
  unfold WAD at *; omega

namespace ReserveLiquidity

section
variable {l : ReserveLiquidity}

theorem liquidityAmount_of_covered (covered : l.ownerUnclaimed.val ≤ l.availableAmount.val * WAD) :
    ∃ free, l.liquidityAmount = .ok free ∧
      free.val = (l.availableAmount.val * WAD - l.ownerUnclaimed.val) / WAD := by
  have fee := ceil_le_of_covered covered
  have feeFits := Nat.lt_of_le_of_lt fee l.availableAmount.isLt
  unfold liquidityAmount
  rw [if_neg (show ¬Decimal.fromU64 l.availableAmount < l.ownerUnclaimed from
      Nat.not_lt.mpr covered),
    Decimal.tryCeilU64, if_pos (by unfold WAD at *; omega),
    (Decimal.toU64_eq_ok.mpr ⟨feeFits, rfl⟩ : Decimal.toU64 _ = .ok ⟨_, feeFits⟩), ok_bind]
  refine ⟨⟨_, Nat.lt_of_le_of_lt (Nat.sub_le _ _) l.availableAmount.isLt⟩,
    okOr_eq_ok.mpr (checkedSub_eq_some.mpr ⟨fee, rfl⟩), ?_⟩
  exact (floor_sub_eq_sub_ceil covered).symm

theorem withdraw_spares_owner_fee (liquidityAmount : U64)
    (covered : l.ownerUnclaimed.val ≤ l.availableAmount.val * WAD) :
    ∃ free, l.liquidityAmount = .ok free ∧
      free.val = (l.availableAmount.val * WAD - l.ownerUnclaimed.val) / WAD ∧
      (free.val < liquidityAmount.val ∧
          l.withdraw liquidityAmount = .error (PoolingError.insufficientLiquidity : Fault) ∨
        liquidityAmount.val ≤ free.val ∧ ∃ l', l.withdraw liquidityAmount = .ok l' ∧
          l' = { l with availableAmount := l'.availableAmount } ∧
          l'.availableAmount.val = l.availableAmount.val - liquidityAmount.val ∧
          (WAD - 1 + l.ownerUnclaimed.val) / WAD ≤ l'.availableAmount.val) := by
  obtain ⟨free, freeOk, freeVal⟩ := liquidityAmount_of_covered covered
  refine ⟨free, freeOk, freeVal, ?_⟩
  unfold withdraw
  rw [freeOk, ok_bind]
  by_cases short : free < liquidityAmount
  · exact .inl ⟨short, by rw [ensure_of_false (not_not.mpr short), error_bind]⟩
  have enough : liquidityAmount.val ≤ free.val := Nat.not_lt.mp short
  have left := enough
  rw [freeVal, floor_sub_eq_sub_ceil covered] at left
  have fee := ceil_le_of_covered covered
  have available : checkedSub l.availableAmount liquidityAmount =
      some ⟨_, Nat.lt_of_le_of_lt (Nat.sub_le _ _) l.availableAmount.isLt⟩ :=
    checkedSub_eq_some.mpr ⟨Nat.le_trans left (Nat.sub_le _ _), rfl⟩
  rw [ensure_of_true short, ok_bind, available, okOr_some, ok_bind]
  refine .inr ⟨enough, _, rfl, rfl, rfl, ?_⟩
  show _ ≤ l.availableAmount.val - liquidityAmount.val
  generalize (WAD - 1 + l.ownerUnclaimed.val) / WAD = ceil at left fee ⊢
  omega

/-- A reserve with 10 units available and an owner fee of 2.5: 7 can be withdrawn, leaving 3. -/
theorem withdraw_spares_fractional_owner_fee :
    let l : ReserveLiquidity :=
      { (default : ReserveLiquidity) with
        availableAmount := 10, ownerUnclaimed := ⟨5 * WAD / 2, by decide⟩ }
    l.ownerUnclaimed.val ≤ l.availableAmount.val * WAD ∧
      ∃ free, l.liquidityAmount = .ok free ∧
        free.val = (l.availableAmount.val * WAD - l.ownerUnclaimed.val) / WAD ∧
        (free.val < (7 : U64).val ∧
            l.withdraw 7 = .error (PoolingError.insufficientLiquidity : Fault) ∨
          (7 : U64).val ≤ free.val ∧ ∃ l', l.withdraw 7 = .ok l' ∧
            l' = { l with availableAmount := l'.availableAmount } ∧
            l'.availableAmount.val = l.availableAmount.val - (7 : U64).val ∧
            (WAD - 1 + l.ownerUnclaimed.val) / WAD ≤ l'.availableAmount.val) :=
  ⟨by decide, withdraw_spares_owner_fee 7 (by decide)⟩

end

end ReserveLiquidity

end AllwinPooling
