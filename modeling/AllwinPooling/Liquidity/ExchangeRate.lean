import AllwinPooling.State.Pool
import Mathlib.Tactic.Ring
import Mathlib.Tactic.Linarith

/-!
# Exchange rate

The collateral exchange rate and the two conversions through it. The rate is `M / T` truncated
to 18 decimals, a deposit rounds the collateral it mints half up, and a redemption floors the
liquidity it pays out at the truncated rate. On a pool whose collateral supply equals its
liquidity the rate is exactly one and both conversions are the identity.
-/

namespace AllwinPooling

namespace ReserveCollateral

theorem exchangeRate_ok {c : ReserveCollateral} {total : Decimal} {r : CollateralExchangeRate}
    (rated : c.exchangeRate total = .ok r) :
    ((c.mintTotalSupply = 0 ∨ total = Decimal.zero) ∧ r.rate.val = WAD) ∨
      (c.mintTotalSupply ≠ 0 ∧ total ≠ Decimal.zero ∧
        r.rate.val = c.mintTotalSupply.val * WAD * WAD / total.val) := by
  unfold exchangeRate at rated
  split at rated
  next empty =>
    cases rated
    exact .inl ⟨empty, rfl⟩
  next filled =>
    obtain ⟨ratio, ratioOk, rated⟩ := bind_ok rated
    obtain ⟨rate, rateOk, rated⟩ := bind_ok rated
    cases rated
    obtain ⟨-, -, ratioVal⟩ := Decimal.tryDiv_eq_ok.mp ratioOk
    obtain ⟨-, rateVal⟩ := Rate.tryFromDecimal_eq_ok.mp rateOk
    exact .inr ⟨fun zero => filled (.inl zero), fun zero => filled (.inr zero), by
      rw [rateVal, ratioVal, Decimal.fromU64_val]⟩

end ReserveCollateral

namespace CollateralExchangeRate

theorem liquidityToCollateral_ok {r : CollateralExchangeRate} {liquidity collateral : U64}
    (converted : r.liquidityToCollateral liquidity = .ok collateral) :
    collateral.val = (HALF_WAD + r.rate.val * liquidity.val) / WAD := by
  obtain ⟨scaled, scaledOk, rounded⟩ := bind_ok converted
  rw [(Rate.tryRoundU64_eq_ok.mp rounded).2, (Rate.tryMulU64_eq_ok.mp scaledOk).2]

theorem collateralToLiquidity_ok {r : CollateralExchangeRate} {collateral liquidity : U64}
    (converted : r.collateralToLiquidity collateral = .ok liquidity) :
    liquidity.val = collateral.val * WAD / r.rate.val := by
  obtain ⟨scaled, scaledOk, floored⟩ := bind_ok converted
  obtain ⟨-, positive, scaledVal⟩ := Decimal.tryDiv_eq_ok.mp scaledOk
  rw [(Decimal.tryFloorU64_eq_ok.mp floored).2, scaledVal, Decimal.fromU64_val,
    Decimal.fromRate_val, Nat.div_div_eq_div_mul, Nat.mul_comm r.rate.val WAD,
    ← Nat.div_div_eq_div_mul, Nat.mul_div_cancel _ wad_pos]

end CollateralExchangeRate

namespace Pool

/-- What a successful deposit does: mint at the pool's exchange rate, and add the liquidity and the
minted collateral to the two counters. -/
theorem depositLiquidity_ok {p q : Pool} {liquidity collateral : U64}
    (deposited : p.depositLiquidity liquidity = .ok (collateral, q)) :
    ∃ r, p.collateralExchangeRate = .ok r ∧ r.liquidityToCollateral liquidity = .ok collateral ∧
      p.liquidity.availableAmount.val + liquidity.val < 2 ^ 64 ∧
      p.collateral.mintTotalSupply.val + collateral.val < 2 ^ 64 ∧
      q.liquidity.availableAmount.val = p.liquidity.availableAmount.val + liquidity.val ∧
      q.collateral.mintTotalSupply.val = p.collateral.mintTotalSupply.val + collateral.val ∧
      q = { p with
        liquidity := { p.liquidity with availableAmount := q.liquidity.availableAmount }
        collateral := { p.collateral with mintTotalSupply := q.collateral.mintTotalSupply } } := by
  obtain ⟨r, rated, deposited⟩ := bind_ok deposited
  obtain ⟨minted, mintedOk, deposited⟩ := bind_ok deposited
  obtain ⟨reserve, reserveOk, deposited⟩ := bind_ok deposited
  obtain ⟨supply, supplyOk, deposited⟩ := bind_ok deposited
  cases deposited
  obtain ⟨available, availableOk, built⟩ := bind_ok reserveOk
  cases built
  obtain ⟨fits, sum⟩ := checkedAdd_eq_some.mp (okOr_ok availableOk)
  obtain ⟨supplied, suppliedOk, built⟩ := bind_ok supplyOk
  cases built
  obtain ⟨fitsSupply, supplySum⟩ := checkedAdd_eq_some.mp (okOr_ok suppliedOk)
  exact ⟨r, rated, mintedOk, fits, fitsSupply, sum, supplySum, rfl⟩

/-- What a successful redemption does: pay out at the pool's exchange rate, burn the collateral,
and take the liquidity out of what is available above the owner's fee. -/
theorem redeemCollateral_ok {p q : Pool} {collateral liquidity : U64}
    (redeemed : p.redeemCollateral collateral = .ok (liquidity, q)) :
    ∃ r, p.collateralExchangeRate = .ok r ∧ r.collateralToLiquidity collateral = .ok liquidity ∧
      collateral.val ≤ p.collateral.mintTotalSupply.val ∧
      (∃ free, p.liquidity.liquidityAmount = .ok free ∧ liquidity.val ≤ free.val) ∧
      liquidity.val ≤ p.liquidity.availableAmount.val ∧
      q.liquidity.availableAmount.val = p.liquidity.availableAmount.val - liquidity.val ∧
      q.collateral.mintTotalSupply.val = p.collateral.mintTotalSupply.val - collateral.val ∧
      q = { p with
        liquidity := { p.liquidity with availableAmount := q.liquidity.availableAmount }
        collateral := { p.collateral with mintTotalSupply := q.collateral.mintTotalSupply } } := by
  obtain ⟨r, rated, redeemed⟩ := bind_ok redeemed
  obtain ⟨paid, paidOk, redeemed⟩ := bind_ok redeemed
  obtain ⟨reserve, reserveOk, redeemed⟩ := bind_ok redeemed
  obtain ⟨withdrawn, withdrawnOk, redeemed⟩ := bind_ok redeemed
  cases redeemed
  obtain ⟨supply, burntOk, built⟩ := bind_ok reserveOk
  cases built
  obtain ⟨burnt, supplyVal⟩ := checkedSub_eq_some.mp (okOr_ok burntOk)
  obtain ⟨free, freeOk, withdrawnOk⟩ := bind_ok withdrawnOk
  obtain ⟨enough, withdrawnOk⟩ := ensure_bind_ok.mp withdrawnOk
  obtain ⟨available, availableOk, built⟩ := bind_ok withdrawnOk
  cases built
  obtain ⟨covered, availableVal⟩ := checkedSub_eq_some.mp (okOr_ok availableOk)
  exact ⟨r, rated, paidOk, burnt, ⟨free, freeOk, Nat.not_lt.mp enough⟩, covered, availableVal,
    supplyVal, rfl⟩

/-- The rate of a pool with collateral and liquidity: `M * WAD^2 / T`, truncated. -/
theorem collateralExchangeRate_val {p : Pool} {total : Decimal} {r : CollateralExchangeRate}
    (totalOk : p.liquidity.totalSupply = .ok total) (supplied : 0 < p.collateral.mintTotalSupply.val)
    (liquid : 0 < total.val) (rated : p.collateralExchangeRate = .ok r) :
    r.rate.val = p.collateral.mintTotalSupply.val * WAD * WAD / total.val := by
  rw [collateralExchangeRate, totalOk, ok_bind] at rated
  rcases ReserveCollateral.exchangeRate_ok rated with ⟨empty | empty, -⟩ | ⟨-, -, rateVal⟩
  · exact absurd (congrArg Fin.val empty) (Nat.ne_of_gt supplied)
  · exact absurd (congrArg Decimal.val empty) (Nat.ne_of_gt liquid)
  · exact rateVal

/-- A deposit of `L` mints `c` with `c * T ≤ L * M + T / 2`: the share `L * M / T` rounded half up,
at most half a unit above it. -/
theorem depositLiquidity_mint_le {p q : Pool} {liquidity collateral : U64} {total : Decimal}
    (totalOk : p.liquidity.totalSupply = .ok total) (supplied : 0 < p.collateral.mintTotalSupply.val)
    (liquid : 0 < total.val) (deposited : p.depositLiquidity liquidity = .ok (collateral, q)) :
    2 * collateral.val * total.val ≤
      2 * liquidity.val * p.collateral.mintTotalSupply.val * WAD + total.val := by
  obtain ⟨r, rated, minted, -⟩ := depositLiquidity_ok deposited
  have rounded : collateral.val * WAD ≤ HALF_WAD + r.rate.val * liquidity.val := by
    rw [CollateralExchangeRate.liquidityToCollateral_ok minted]; exact Nat.div_mul_le_self _ _
  have truncated : r.rate.val * total.val ≤ p.collateral.mintTotalSupply.val * WAD * WAD := by
    rw [collateralExchangeRate_val totalOk supplied liquid rated]; exact Nat.div_mul_le_self _ _
  apply Nat.le_of_mul_le_mul_left _ wad_pos
  calc WAD * (2 * collateral.val * total.val)
      = 2 * total.val * (collateral.val * WAD) := by ring
    _ ≤ 2 * total.val * (HALF_WAD + r.rate.val * liquidity.val) := Nat.mul_le_mul_left _ rounded
    _ = WAD * total.val + 2 * liquidity.val * (r.rate.val * total.val) := by
      unfold HALF_WAD WAD; ring
    _ ≤ WAD * total.val + 2 * liquidity.val * (p.collateral.mintTotalSupply.val * WAD * WAD) :=
      Nat.add_le_add_left (Nat.mul_le_mul_left _ truncated) _
    _ = WAD * (2 * liquidity.val * p.collateral.mintTotalSupply.val * WAD + total.val) := by ring

/-- A redemption of `c` pays `l` with `l * M ≤ c * T + l * T / WAD`: the floor of `c` over the
truncated rate, which pays above `c * T / M` by the truncation. -/
theorem redeemCollateral_payout_le {p q : Pool} {collateral liquidity : U64} {total : Decimal}
    (totalOk : p.liquidity.totalSupply = .ok total) (supplied : 0 < p.collateral.mintTotalSupply.val)
    (liquid : 0 < total.val) (redeemed : p.redeemCollateral collateral = .ok (liquidity, q)) :
    liquidity.val * p.collateral.mintTotalSupply.val * WAD * WAD ≤
      collateral.val * WAD * total.val + liquidity.val * total.val := by
  obtain ⟨r, rated, paid, -⟩ := redeemCollateral_ok redeemed
  have rateVal := collateralExchangeRate_val totalOk supplied liquid rated
  have floored : liquidity.val * r.rate.val ≤ collateral.val * WAD := by
    rw [CollateralExchangeRate.collateralToLiquidity_ok paid]; exact Nat.div_mul_le_self _ _
  have below : p.collateral.mintTotalSupply.val * WAD * WAD < total.val * (r.rate.val + 1) := by
    rw [rateVal]; exact Nat.lt_mul_div_succ _ liquid
  calc liquidity.val * p.collateral.mintTotalSupply.val * WAD * WAD
      = liquidity.val * (p.collateral.mintTotalSupply.val * WAD * WAD) := by ring
    _ ≤ liquidity.val * (total.val * (r.rate.val + 1)) := Nat.mul_le_mul_left _ below.le
    _ = liquidity.val * r.rate.val * total.val + liquidity.val * total.val := by ring
    _ ≤ collateral.val * WAD * total.val + liquidity.val * total.val :=
      Nat.add_le_add_right (Nat.mul_le_mul_right _ floored) _

end Pool

end AllwinPooling
