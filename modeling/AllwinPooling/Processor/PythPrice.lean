import AllwinPooling.Processor.Oracle

/-!
# Oracle prices

What `get_pyth_price` accepts and what it returns. It takes a reading of type `Price` with a
non-negative aggregate price and an exponent of magnitude at most 19, and returns the price times
`10^expo`, scaled by `WAD` and truncated; every other reading is refused with an error, never a
panic. A zero price is accepted, and so is a positive one that truncation takes to zero.
-/

namespace AllwinPooling

/-! ### The checked conversions -/

theorem ten_pow_lt_u64 {k : Nat} : 10 ^ k < 2 ^ 64 ↔ k ≤ 19 := by
  constructor
  · intro fits
    by_contra big
    have : 10 ^ 20 ≤ 10 ^ k := Nat.pow_le_pow_right (by decide) (by omega)
    exact absurd (Nat.lt_of_le_of_lt this fits) (by decide)
  · intro small
    calc 10 ^ k ≤ 10 ^ 19 := Nat.pow_le_pow_right (by decide) small
      _ < 2 ^ 64 := by decide

theorem checkedPow_ten_eq_some {k : Nat} {z : U64} :
    checkedPow 10 k = some z ↔ k ≤ 19 ∧ z.val = 10 ^ k := by
  unfold checkedPow
  split
  · next fits =>
    exact ⟨fun same => ⟨ten_pow_lt_u64.mp fits, by rw [← Option.some.inj same]; rfl⟩,
      fun ⟨_, val⟩ => congrArg some (Fin.ext val.symm)⟩
  · next big => exact iff_of_false nofun fun ⟨small, _⟩ => big (ten_pow_lt_u64.mpr small)

theorem u64TryFromI64_eq_some {n : Int} {m : U64} :
    u64TryFromI64 n = some m ↔ 0 ≤ n ∧ n < 2 ^ 64 ∧ m.val = n.toNat := by
  unfold u64TryFromI64
  split
  · next fits =>
    exact ⟨fun same => ⟨fits.1, fits.2, by rw [← Option.some.inj same]⟩,
      fun ⟨_, _, val⟩ => congrArg some (Fin.ext val.symm)⟩
  · next out => exact iff_of_false nofun fun ⟨low, high, _⟩ => out ⟨low, high⟩

theorem checkedAbsI32_eq_some {n : Int} {k : Nat} :
    checkedAbsI32 n = some k ↔ n ≠ -2 ^ 31 ∧ k = n.natAbs := by
  unfold checkedAbsI32
  split
  · next least => exact iff_of_false nofun fun ⟨other, _⟩ => other least
  · next other => exact ⟨fun same => ⟨other, (Option.some.inj same).symm⟩, fun ⟨_, k⟩ => k ▸ rfl⟩

theorem okOr_ne_panic {α : Type} (x : Option α) (e : ProgramError) :
    okOr x (e : Fault) ≠ .error .panic := by
  cases x <;> simp [okOr]

theorem Decimal.tryMulU64_ne_panic (a : Decimal) (n : U64) : a.tryMulU64 n ≠ .error .panic := by
  unfold Decimal.tryMulU64; split <;> simp

theorem Decimal.tryDivU64_ne_panic (a : Decimal) (n : U64) : a.tryDivU64 n ≠ .error .panic := by
  unfold Decimal.tryDivU64; split <;> simp

/-! ### What `get_pyth_price` returns -/

section
variable {env : Env} {pythPriceInfo : AccountInfo}

theorem getPythPrice_eq_ok {d : Decimal} :
    getPythPrice env pythPriceInfo = .ok d ↔ ∃ reading,
      env.loadPrice pythPriceInfo.data = some reading ∧ reading.ptype = .price ∧
      0 ≤ reading.aggPrice ∧ reading.expo.natAbs ≤ 19 ∧
      d.val = if 0 ≤ reading.expo then reading.aggPrice.toNat * 10 ^ (18 + reading.expo.toNat)
        else reading.aggPrice.toNat * 10 ^ 18 / 10 ^ reading.expo.natAbs := by
  unfold getPythPrice
  constructor
  · intro priced
    obtain ⟨reading, loaded, priced⟩ := bind_ok priced
    obtain ⟨isPrice, priced⟩ := ensure_bind_ok.mp priced
    obtain ⟨price, priceOk, priced⟩ := bind_ok priced
    obtain ⟨nonneg, -, priceVal⟩ := u64TryFromI64_eq_some.mp (okOr_ok priceOk)
    refine ⟨reading, okOr_ok loaded, isPrice, nonneg, ?_⟩
    by_cases up : 0 ≤ reading.expo
    · rw [if_pos up] at priced ⊢
      obtain ⟨zeros, zerosOk, priced⟩ := bind_ok priced
      obtain ⟨small, zerosVal⟩ := checkedPow_ten_eq_some.mp (okOr_ok zerosOk)
      obtain ⟨-, dVal⟩ := Decimal.tryMulU64_eq_ok.mp priced
      refine ⟨by omega, ?_⟩
      rw [dVal, Decimal.fromU64_val, priceVal, zerosVal, Nat.pow_add, ← Nat.mul_assoc]
      rfl
    · rw [if_neg up] at priced ⊢
      obtain ⟨exponent, exponentOk, priced⟩ := bind_ok priced
      obtain ⟨-, rfl⟩ := checkedAbsI32_eq_some.mp (okOr_ok exponentOk)
      obtain ⟨decimals, decimalsOk, priced⟩ := bind_ok priced
      obtain ⟨small, decimalsVal⟩ := checkedPow_ten_eq_some.mp (okOr_ok decimalsOk)
      obtain ⟨-, dVal⟩ := Decimal.tryDivU64_eq_ok.mp priced
      exact ⟨small, by rw [dVal, Decimal.fromU64_val, priceVal, decimalsVal]; rfl⟩
  · rintro ⟨reading, loaded, isPrice, nonneg, small, dVal⟩
    have priceLt : reading.aggPrice < 2 ^ 63 := reading.aggPrice_range.2
    have priced : u64TryFromI64 reading.aggPrice = some ⟨reading.aggPrice.toNat, by omega⟩ :=
      u64TryFromI64_eq_some.mpr ⟨nonneg, by omega, rfl⟩
    have priceLe : reading.aggPrice.toNat ≤ 2 ^ 63 := by omega
    rw [loaded, okOr_some, ok_bind, ensure_of_true isPrice, ok_bind, priced, okOr_some, ok_bind]
    by_cases up : 0 ≤ reading.expo
    · rw [if_pos up] at dVal ⊢
      have exponent : reading.expo.toNat ≤ 19 := by omega
      rw [(checkedPow_ten_eq_some.mpr ⟨exponent, rfl⟩ :
        checkedPow 10 _ = some ⟨_, ten_pow_lt_u64.mpr exponent⟩), okOr_some, ok_bind]
      refine Decimal.tryMulU64_eq_ok.mpr ⟨?_, ?_⟩
      · calc reading.aggPrice.toNat * WAD * 10 ^ reading.expo.toNat ≤ 2 ^ 63 * WAD * 10 ^ 19 :=
            Nat.mul_le_mul (Nat.mul_le_mul_right _ priceLe)
              (Nat.pow_le_pow_right (by decide) exponent)
          _ < 2 ^ 192 := by decide
      · rw [dVal, Nat.pow_add, ← Nat.mul_assoc]
        rfl
    · rw [if_neg up] at dVal ⊢
      rw [(checkedAbsI32_eq_some.mpr ⟨by omega, rfl⟩ : checkedAbsI32 _ = some _), okOr_some,
        ok_bind, (checkedPow_ten_eq_some.mpr ⟨small, rfl⟩ :
          checkedPow 10 _ = some ⟨_, ten_pow_lt_u64.mpr small⟩), okOr_some, ok_bind]
      exact Decimal.tryDivU64_eq_ok.mpr ⟨(Nat.pos_pow_of_pos _ (by decide)).ne', dVal⟩

theorem getPythPrice_ne_panic : getPythPrice env pythPriceInfo ≠ .error .panic := by
  unfold getPythPrice
  refine bind_ne_panic (okOr_ne_panic _ _) fun reading => bind_ne_panic (ensure_ne_panic _) fun _ =>
    bind_ne_panic (okOr_ne_panic _ _) fun price => ?_
  split
  · exact bind_ne_panic (okOr_ne_panic _ _) fun _ => Decimal.tryMulU64_ne_panic _ _
  · exact bind_ne_panic (okOr_ne_panic _ _) fun _ =>
      bind_ne_panic (okOr_ne_panic _ _) fun _ => Decimal.tryDivU64_ne_panic _ _

end

theorem pyth_price_exact_or_refused (env : Env) (pythPriceInfo : AccountInfo) :
    (∀ d, getPythPrice env pythPriceInfo = .ok d → ∃ reading,
      env.loadPrice pythPriceInfo.data = some reading ∧ reading.ptype = .price ∧
      0 ≤ reading.aggPrice ∧ reading.expo.natAbs ≤ 19 ∧
      d.val = if 0 ≤ reading.expo then reading.aggPrice.toNat * 10 ^ (18 + reading.expo.toNat)
        else reading.aggPrice.toNat * 10 ^ 18 / 10 ^ reading.expo.natAbs) ∧
    ∀ reading, env.loadPrice pythPriceInfo.data = some reading →
      reading.aggPrice < 0 ∨ 19 < reading.expo.natAbs ∨ reading.expo = -2 ^ 31 →
      ∃ e : ProgramError, getPythPrice env pythPriceInfo = .error (.error e) := by
  refine ⟨fun d priced => getPythPrice_eq_ok.mp priced, fun reading loaded refused => ?_⟩
  cases priced : getPythPrice env pythPriceInfo with
  | ok d =>
    obtain ⟨reading', loaded', -, nonneg, small, -⟩ := getPythPrice_eq_ok.mp priced
    rw [loaded, Option.some.injEq] at loaded'
    subst loaded'
    omega
  | error fault =>
    cases fault with
    | error e => exact ⟨e, rfl⟩
    | panic => exact absurd priced getPythPrice_ne_panic

/-! ### Sample readings -/

/-- An environment whose oracle price accounts all hold `reading`; nothing else of it is read. -/
def priceEnv (reading : PythPrice) : Env where
  clockId := default
  rentId := default
  splTokenId := default
  slot := 0
  isExempt _ _ := false
  unpackTokenAccount _ := .error (.error .invalidAccountData)
  unpackMint _ := .error (.error .invalidAccountData)
  loadPrice _ := some reading
  loadProduct _ := none
  findProgramAddress _ _ := (default, 0)
  createProgramAddress _ _ := .error (.error .invalidSeeds)
  invoke _ := false
  unpackUtil := ⟨fun _ => fail .instructionUnpackError, fun _ => fail .instructionUnpackError,
    fun _ => fail .instructionUnpackError, fun _ => fail .instructionUnpackError⟩

/-- The oracle account `get_pyth_price` is given in the samples. -/
def priceInfo : AccountInfo := ⟨default, false, 0, default, []⟩

/-- A reading of 123456789 at exponent -8 is the price 1.23456789, exactly; a reading with
exponent 20 is refused. -/
theorem pyth_price_sample_readings :
    (∃ d, getPythPrice (priceEnv ⟨.price, 123456789, -8, by decide, by decide⟩) priceInfo = .ok d ∧
      d.val = 123456789 * 10 ^ 10) ∧
    let reading : PythPrice := ⟨.price, 5, 20, by decide, by decide⟩
    (priceEnv reading).loadPrice priceInfo.data = some reading ∧
      (reading.aggPrice < 0 ∨ 19 < reading.expo.natAbs ∨ reading.expo = -2 ^ 31) ∧
      ∃ e : ProgramError, getPythPrice (priceEnv reading) priceInfo = .error (.error e) := by
  obtain ⟨d, priced⟩ := exists_ok_of_toBool (show (getPythPrice
    (priceEnv ⟨.price, 123456789, -8, by decide, by decide⟩) priceInfo).toBool = true by decide)
  obtain ⟨reading, loaded, -, -, -, value⟩ := (pyth_price_exact_or_refused _ _).1 d priced
  cases Option.some.inj loaded
  exact ⟨⟨d, priced, value.trans (by decide)⟩, rfl, .inr (.inl (by decide)),
    (pyth_price_exact_or_refused _ _).2 _ rfl (.inr (.inl (by decide)))⟩

/-- A zero price, and a price of `10^-19` that truncation to 18 decimals takes to zero, are both
accepted, as a market price of zero. -/
theorem pyth_price_accepts_zero :
    getPythPrice (priceEnv ⟨.price, 0, -8, by decide, by decide⟩) priceInfo = .ok Decimal.zero ∧
      getPythPrice (priceEnv ⟨.price, 1, -19, by decide, by decide⟩) priceInfo = .ok Decimal.zero :=
  ⟨getPythPrice_eq_ok.mpr ⟨_, rfl, rfl, by decide, by decide, by decide⟩,
    getPythPrice_eq_ok.mpr ⟨_, rfl, rfl, by decide, by decide, by decide⟩⟩

end AllwinPooling
