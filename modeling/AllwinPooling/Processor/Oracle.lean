import AllwinPooling.Runtime.Account

/-!
# Oracle readings

`get_pyth_price`, which turns an oracle reading into a `Decimal`, and
`get_pyth_product_quote_currency`, which walks a product's attribute records for the
`quote_currency` entry.
-/

namespace AllwinPooling

/-- `base.checked_pow(exp)` on `u64`. -/
def checkedPow (base : U64) (exp : Nat) : Option U64 :=
  if h : base.val ^ exp < 2 ^ 64 then some ⟨_, h⟩ else none

/-- `u64::try_from(i64)`: a negative value is refused. -/
def u64TryFromI64 (n : Int) : Option U64 :=
  if h : 0 ≤ n ∧ n < 2 ^ 64 then some ⟨n.toNat, by omega⟩ else none

/-- `i32::checked_abs`: `None` only for `i32::MIN`. -/
def checkedAbsI32 (n : Int) : Option Nat :=
  if n = -2 ^ 31 then none else some n.natAbs

/-- `get_pyth_price`: the aggregate price times `10^expo`, refusing a reading that is not a
price or is negative. -/
def getPythPrice (env : Env) (pythPriceInfo : AccountInfo) : Result Decimal := do
  let pythPrice ← okOr (env.loadPrice pythPriceInfo.data) ProgramError.invalidAccountData
  ensure (pythPrice.ptype = .price) PoolingError.invalidOracleConfig
  let price ← okOr (u64TryFromI64 pythPrice.aggPrice) PoolingError.invalidOracleConfig
  if 0 ≤ pythPrice.expo then
    let zeros ← okOr (checkedPow 10 pythPrice.expo.toNat) PoolingError.mathOverflow
    (Decimal.fromU64 price).tryMulU64 zeros
  else
    let exponent ← okOr (checkedAbsI32 pythPrice.expo) PoolingError.mathOverflow
    let decimals ← okOr (checkedPow 10 exponent) PoolingError.mathOverflow
    (Decimal.fromU64 price).tryDivU64 decimals

/-- `b"quote_currency"`, the key `get_pyth_product_quote_currency` looks for. -/
def QUOTE_CURRENCY_KEY : List UInt8 :=
  [113, 117, 111, 116, 101, 95, 99, 117, 114, 114, 101, 110, 99, 121]

/-- The value after the `quote_currency` key: its length byte, at most 32 bytes within the
attributes, copied into a zeroed `[u8; 32]`. -/
def quoteCurrencyValue (attr : List UInt8) (start : Nat) : Result Bytes32 := do
  let length ← listIndex attr start
  if 32 < length.toNat ∨ attr.length < start + 1 + length.toNat then fail .invalidOracleConfig
  else return Bytes32.ofList ((attr.drop (start + 1)).take length.toNat)

/-- The `while start < PROD_ATTR_SIZE` loop of `get_pyth_product_quote_currency`, with `fuel` turns
left: read a key length, and either take the value of the `quote_currency` key or skip the key
and its value. A turn moves `start` forward, so `attr.length` turns run the loop to its end
(`quoteCurrencyFrom_fuel`), where the key was not found. -/
def quoteCurrencyFrom (attr : List UInt8) : Nat → Nat → Result Bytes32
  | 0, _ => fail .invalidOracleConfig
  | fuel + 1, start =>
    if h : start < attr.length then
      let length := (attr.get ⟨start, h⟩).toNat
      if length = 14 ∧ attr.length < start + 1 + length then fail .invalidOracleConfig
      else if length = 14 ∧ (attr.drop (start + 1)).take length = QUOTE_CURRENCY_KEY then
        quoteCurrencyValue attr (start + 1 + length)
      else do
        let valueLength ← listIndex attr (start + 1 + length)
        quoteCurrencyFrom attr fuel (start + 1 + length + 1 + valueLength.toNat)
    else fail .invalidOracleConfig

/-- More turns than the attributes have bytes left change nothing. -/
theorem quoteCurrencyFrom_fuel (attr : List UInt8) {fuel start : Nat}
    (enough : attr.length ≤ start + fuel) (more : Nat) :
    quoteCurrencyFrom attr (fuel + more) start = quoteCurrencyFrom attr fuel start := by
  induction fuel generalizing start with
  | zero =>
    cases more with
    | zero => rfl
    | succ more => simp [quoteCurrencyFrom, show ¬start < attr.length by omega]
  | succ fuel ih =>
    rw [Nat.add_right_comm]
    simp only [quoteCurrencyFrom]
    split
    · split
      · rfl
      · split
        · rfl
        · cases listIndex attr _ with
          | error e => rfl
          | ok valueLength => exact ih (by omega)
    · rfl

/-- `get_pyth_product_quote_currency`. -/
def getPythProductQuoteCurrency (pythProduct : PythProduct) : Result Bytes32 :=
  quoteCurrencyFrom pythProduct.attr pythProduct.attr.length 0

end AllwinPooling
