import AllwinPooling.Liquidity.OwnerFee

/-!
# The lending half of the reserve

`pool.rs` keeps the borrowing side of the reserve it started from: `borrow`, `repay`,
`decimal_liquidity_amount`, `utilization_rate` and `decimal_liquidity_to_collateral`. No
instruction of this program calls them; what follows holds for any caller. The free liquidity in
whole units is the floor of the free liquidity in decimals; a borrow never takes the owner's fee;
repaying a borrow's rounded amount while settling the borrow restores the reserve; the utilization
is borrowed over supplied, floored and capped at one; and the whole-unit conversion of liquidity to
collateral is the decimal one, rounded.
-/

namespace AllwinPooling

namespace ReserveLiquidity

/-- A reserve with 10 units available, 2 borrowed and an owner's fee of 2.5 units. -/
def sampleReserve : ReserveLiquidity :=
  { (default : ReserveLiquidity) with
    availableAmount := 10, borrowedAmountWads := ⟨2 * WAD, by decide⟩
    ownerUnclaimed := ⟨5 * WAD / 2, by decide⟩ }

/-- A borrow of 7 units. -/
def sampleBorrow : Decimal := ⟨7 * WAD, by decide⟩

section
variable {l l' : ReserveLiquidity} {d : Decimal}

/-- Both forms of the free liquidity always succeed, and the whole-unit one is the floor of the
decimal one. -/
theorem liquidityAmount_floor (l : ReserveLiquidity) :
    ∃ free d, l.liquidityAmount = .ok free ∧ l.decimalLiquidityAmount = .ok d ∧
      free.val = d.val / WAD := by
  by_cases short : Decimal.fromU64 l.availableAmount < l.ownerUnclaimed
  · refine ⟨0, Decimal.zero, ?_, ?_, (Nat.zero_div WAD).symm⟩
    · rw [liquidityAmount, if_pos short]
      rfl
    · rw [decimalLiquidityAmount, if_pos short]
      rfl
  · have covered : l.ownerUnclaimed.val ≤ l.availableAmount.val * WAD := Nat.not_lt.mp short
    obtain ⟨free, freeOk, freeVal⟩ := liquidityAmount_of_covered covered
    refine ⟨free, ⟨_, Nat.lt_of_le_of_lt (Nat.sub_le _ _)
      (Decimal.fromU64 l.availableAmount).val_lt⟩, freeOk, ?_, freeVal⟩
    rw [decimalLiquidityAmount, if_neg short]
    exact Decimal.trySub_eq_ok.mpr ⟨covered, rfl⟩

/-- What a successful borrow does: its ceiling fits in the free liquidity, its rounding leaves the
available amount, and the exact borrow joins the borrowed amount. -/
theorem borrow_ok (borrowed : l.borrow d = .ok l') :
    ∃ ceil free taken, d.tryCeilU64 = .ok ceil ∧ l.liquidityAmount = .ok free ∧
      ceil.val ≤ free.val ∧ d.tryRoundU64 = .ok taken ∧ taken.val ≤ l.availableAmount.val ∧
      l.borrowedAmountWads.val + d.val < 2 ^ 192 ∧
      l'.availableAmount.val = l.availableAmount.val - taken.val ∧
      l'.borrowedAmountWads.val = l.borrowedAmountWads.val + d.val ∧
      l' = { l with
        availableAmount := l'.availableAmount, borrowedAmountWads := l'.borrowedAmountWads } := by
  obtain ⟨ceil, ceilOk, borrowed⟩ := bind_ok borrowed
  obtain ⟨free, freeOk, borrowed⟩ := bind_ok borrowed
  obtain ⟨fits, borrowed⟩ := ensure_bind_ok.mp borrowed
  obtain ⟨taken, takenOk, borrowed⟩ := bind_ok borrowed
  obtain ⟨available, availableOk, borrowed⟩ := bind_ok borrowed
  obtain ⟨total, totalOk, borrowed⟩ := bind_ok borrowed
  cases borrowed
  obtain ⟨le, availableVal⟩ := checkedSub_eq_some.mp (okOr_ok availableOk)
  obtain ⟨lt, totalVal⟩ := Decimal.tryAdd_eq_ok.mp totalOk
  exact ⟨ceil, free, taken, ceilOk, freeOk, Nat.not_lt.mp (show ¬free.val < ceil.val from fits),
    takenOk, le, lt, availableVal, totalVal, rfl⟩

/-- A borrow never takes the owner's fee: it leaves available at least the fee rounded up, or all
that was available if that is less, and the fee untouched. -/
theorem borrow_spares_owner_fee (borrowed : l.borrow d = .ok l') :
    min l.availableAmount.val ((WAD - 1 + l.ownerUnclaimed.val) / WAD) ≤
      l'.availableAmount.val ∧ l'.ownerUnclaimed = l.ownerUnclaimed := by
  obtain ⟨ceil, free, taken, ceilOk, freeOk, fits, takenOk, -, -, available, -, frame⟩ :=
    borrow_ok borrowed
  have rounding : taken.val ≤ ceil.val := by
    rw [(Decimal.tryRoundU64_eq_ok.mp takenOk).2, (Decimal.tryCeilU64_eq_ok.mp ceilOk).2]
    exact Nat.div_le_div_right (by unfold HALF_WAD WAD; omega)
  refine ⟨?_, by rw [frame]⟩
  rw [available]
  by_cases short : Decimal.fromU64 l.availableAmount < l.ownerUnclaimed
  · rw [liquidityAmount, if_pos short] at freeOk
    obtain rfl : (0 : U64) = free := Except.ok.inj freeOk
    have nothing : taken.val = 0 := by
      have : ceil.val ≤ 0 := fits
      omega
    omega
  · have covered : l.ownerUnclaimed.val ≤ l.availableAmount.val * WAD := Nat.not_lt.mp short
    obtain ⟨free', freeOk', freeVal⟩ := liquidityAmount_of_covered covered
    obtain rfl := Except.ok.inj (freeOk'.symm.trans freeOk)
    rw [floor_sub_eq_sub_ceil covered] at freeVal
    have fee := ceil_le_of_covered covered
    generalize (WAD - 1 + l.ownerUnclaimed.val) / WAD = feeCeil at freeVal fee ⊢
    omega

theorem sample_borrow_spares_owner_fee : ∃ l', sampleReserve.borrow sampleBorrow = .ok l' ∧
    min sampleReserve.availableAmount.val ((WAD - 1 + sampleReserve.ownerUnclaimed.val) / WAD) ≤
      l'.availableAmount.val ∧ l'.ownerUnclaimed = sampleReserve.ownerUnclaimed := by
  obtain ⟨l', borrowed⟩ : ∃ l', sampleReserve.borrow sampleBorrow = .ok l' :=
    exists_ok_of_toBool (by decide)
  exact ⟨l', borrowed, borrow_spares_owner_fee borrowed⟩

/-- Repaying the rounded amount of a borrow while settling the borrow itself restores the
reserve exactly. -/
theorem borrow_then_repay_restores (borrowed : l.borrow d = .ok l') :
    ∃ taken, d.tryRoundU64 = .ok taken ∧ l'.repay taken d = .ok l := by
  obtain ⟨-, -, taken, -, -, -, takenOk, le, -, available, total, frame⟩ := borrow_ok borrowed
  refine ⟨taken, takenOk, ?_⟩
  have bounded := l.availableAmount.isLt
  have back : checkedAdd l'.availableAmount taken = some l.availableAmount :=
    checkedAdd_eq_some.mpr ⟨by omega, by omega⟩
  have settled : l'.borrowedAmountWads.trySub d = .ok l.borrowedAmountWads :=
    Decimal.trySub_eq_ok.mpr ⟨by omega, by omega⟩
  rw [repay, back, okOr_some, ok_bind, settled, ok_bind, frame]
  rfl

theorem sample_borrow_then_repay_restores : ∃ l', sampleReserve.borrow sampleBorrow = .ok l' ∧
    ∃ taken, sampleBorrow.tryRoundU64 = .ok taken ∧
      l'.repay taken sampleBorrow = .ok sampleReserve := by
  obtain ⟨l', borrowed⟩ : ∃ l', sampleReserve.borrow sampleBorrow = .ok l' :=
    exists_ok_of_toBool (by decide)
  exact ⟨l', borrowed, borrow_then_repay_restores borrowed⟩

/-- The utilization rate is borrowed over supplied, floored and capped at one, and zero with
nothing supplied or less than one unit borrowed; it fails only when the borrowed amount is too
large to scale. -/
theorem utilizationRate_eq_ok {total : Decimal} {r : Rate} (supplied : l.totalSupply = .ok total) :
    l.utilizationRate = .ok r ↔
      (total.val = 0 ∨ l.borrowedAmountWads.val < WAD ∨ total.val < l.borrowedAmountWads.val ∨
          l.borrowedAmountWads.val * WAD < 2 ^ 192) ∧
        r.val = if total.val = 0 ∨ l.borrowedAmountWads.val < WAD then 0
          else min WAD (l.borrowedAmountWads.val * WAD / total.val) := by
  rw [utilizationRate, supplied, ok_bind]
  by_cases empty : total.val = 0
  · rw [if_pos (Decimal.ext empty), if_pos (.inl empty), pure_eq_ok, Except.ok.injEq]
    exact ⟨fun same => ⟨.inl empty, same ▸ rfl⟩, fun ⟨_, zero⟩ => Rate.ext zero.symm⟩
  rw [if_neg (fun same => empty (congrArg Decimal.val same))]
  by_cases low : l.borrowedAmountWads.val < WAD
  · rw [if_pos (show l.borrowedAmountWads < Decimal.one from low), if_pos (.inr low), pure_eq_ok,
      Except.ok.injEq]
    exact ⟨fun same => ⟨.inr (.inl low), same ▸ rfl⟩, fun ⟨_, zero⟩ => Rate.ext zero.symm⟩
  rw [if_neg (show ¬l.borrowedAmountWads < Decimal.one from low),
    if_neg (show ¬(total.val = 0 ∨ l.borrowedAmountWads.val < WAD) from fun h => h.elim empty low)]
  have positive : 0 < total.val := Nat.pos_of_ne_zero empty
  by_cases over : total.val < l.borrowedAmountWads.val
  · have capped : WAD ≤ l.borrowedAmountWads.val * WAD / total.val :=
      (Nat.le_div_iff_mul_le positive).mpr (by
        rw [Nat.mul_comm]
        exact Nat.mul_le_mul_right WAD (Nat.le_of_lt over))
    rw [if_pos (show total < l.borrowedAmountWads from over), pure_eq_ok, Except.ok.injEq,
      Nat.min_eq_left capped]
    exact ⟨fun same => ⟨.inr (.inr (.inl over)), same ▸ rfl⟩, fun ⟨_, one⟩ => Rate.ext one.symm⟩
  have within : l.borrowedAmountWads.val * WAD / total.val ≤ WAD :=
    Nat.div_le_of_le_mul (Nat.mul_le_mul_right WAD (Nat.not_lt.mp over))
  rw [if_neg (show ¬total < l.borrowedAmountWads from over), Nat.min_eq_right within, bind_eq_ok]
  constructor
  · rintro ⟨ratio, divided, converted⟩
    obtain ⟨fits, -, ratioVal⟩ := Decimal.tryDiv_eq_ok.mp divided
    obtain ⟨-, rVal⟩ := Rate.tryFromDecimal_eq_ok.mp converted
    exact ⟨.inr (.inr (.inr fits)), rVal.trans ratioVal⟩
  · rintro ⟨fits, rVal⟩
    have fits : l.borrowedAmountWads.val * WAD < 2 ^ 192 := by omega
    refine ⟨⟨_, Nat.lt_of_le_of_lt (Nat.div_le_self _ _) fits⟩,
      Decimal.tryDiv_eq_ok.mpr ⟨fits, empty, rfl⟩, Rate.tryFromDecimal_eq_ok.mpr
        ⟨Nat.lt_of_le_of_lt within (by decide), rVal⟩⟩

theorem sample_utilization_rate : ∃ total r, sampleReserve.totalSupply = .ok total ∧
    sampleReserve.utilizationRate = .ok r ∧
    (total.val = 0 ∨ sampleReserve.borrowedAmountWads.val < WAD ∨
        total.val < sampleReserve.borrowedAmountWads.val ∨
        sampleReserve.borrowedAmountWads.val * WAD < 2 ^ 192) ∧
      r.val = if total.val = 0 ∨ sampleReserve.borrowedAmountWads.val < WAD then 0
        else min WAD (sampleReserve.borrowedAmountWads.val * WAD / total.val) := by
  obtain ⟨total, supplied⟩ : ∃ total, sampleReserve.totalSupply = .ok total :=
    exists_ok_of_toBool (by decide)
  obtain ⟨r, utilized⟩ : ∃ r, sampleReserve.utilizationRate = .ok r :=
    exists_ok_of_toBool (by decide)
  exact ⟨total, r, supplied, utilized, (utilizationRate_eq_ok supplied).mp utilized⟩

end

end ReserveLiquidity

namespace CollateralExchangeRate

/-- Whenever the whole-unit conversion of liquidity to collateral succeeds, it is the decimal
conversion rounded half up. -/
theorem liquidityToCollateral_rounds_decimal {r : CollateralExchangeRate} {n c : U64}
    (converted : r.liquidityToCollateral n = .ok c) :
    ∃ d, r.decimalLiquidityToCollateral (Decimal.fromU64 n) = .ok d ∧ d.tryRoundU64 = .ok c := by
  obtain ⟨m, scaled, rounded⟩ := bind_ok converted
  obtain ⟨fits, mVal⟩ := Rate.tryMulU64_eq_ok.mp scaled
  obtain ⟨small, cVal⟩ := Rate.tryRoundU64_eq_ok.mp rounded
  have reordered : n.val * WAD * r.rate.val = r.rate.val * n.val * WAD := by
    rw [Nat.mul_right_comm, Nat.mul_comm n.val]
  have wide : n.val * WAD * r.rate.val < 2 ^ 192 := by
    rw [reordered]
    exact Nat.lt_of_lt_of_le (Nat.mul_lt_mul_of_pos_right fits wad_pos) (by decide)
  have exact : n.val * WAD * r.rate.val / WAD = m.val := by
    rw [reordered, Nat.mul_div_cancel _ wad_pos, mVal]
  refine ⟨⟨_, Nat.lt_of_le_of_lt (Nat.div_le_self _ _) wide⟩,
    Decimal.tryMul_eq_ok.mpr ⟨wide, rfl⟩, Decimal.tryRoundU64_eq_ok.mpr ?_⟩
  show (HALF_WAD + n.val * WAD * r.rate.val / WAD) / WAD < 2 ^ 64 ∧
    c.val = (HALF_WAD + n.val * WAD * r.rate.val / WAD) / WAD
  rw [exact]
  exact ⟨small, cVal⟩

theorem sample_liquidity_to_collateral_rounds_decimal :
    ∃ c, (⟨Rate.fromPercent 150⟩ : CollateralExchangeRate).liquidityToCollateral 7 = .ok c ∧
      ∃ d, (⟨Rate.fromPercent 150⟩ : CollateralExchangeRate).decimalLiquidityToCollateral
        (Decimal.fromU64 7) = .ok d ∧ d.tryRoundU64 = .ok c := by
  obtain ⟨c, converted⟩ : ∃ c,
      (⟨Rate.fromPercent 150⟩ : CollateralExchangeRate).liquidityToCollateral 7 = .ok c :=
    exists_ok_of_toBool (by decide)
  exact ⟨c, converted, liquidityToCollateral_rounds_decimal converted⟩

end CollateralExchangeRate

end AllwinPooling
