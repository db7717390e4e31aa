import AllwinPooling.Processor.Oracle
import Mathlib.Logic.Relation

/-!
# The quote currency of an oracle product

`get_pyth_product_quote_currency` walks the product's attributes as consecutive records
`[key length][key][value length][value]` from offset 0. It returns the zero-padded value of the
first record whose key is `quote_currency`, when that value has at most 32 bytes and lies within
the attributes, and `InvalidOracleConfig` otherwise; but a walk whose cursor stops on the last
byte, or whose key runs to the end, reads past the attributes and panics.
-/

namespace AllwinPooling

/-! ### The record walk -/

/-- The record at offset `start` of the attributes: its key, its value, and the offset of the
record after it; `none` when its value length byte lies past the end. The key and the value are
cut short at the end of the attributes. -/
def attrRecord (attr : List UInt8) (start : Nat) : Option (List UInt8 × List UInt8 × Nat) := do
  let keyLength ← attr[start]?
  let valueLength ← attr[start + 1 + keyLength.toNat]?
  return ((attr.drop (start + 1)).take keyLength.toNat,
    (attr.drop (start + 1 + keyLength.toNat + 1)).take valueLength.toNat,
    start + 1 + keyLength.toNat + 1 + valueLength.toNat)

/-- The walk passes the record at `start`, whose key is not `quote_currency`, on to `next`. -/
def SkipsRecord (attr : List UInt8) (start next : Nat) : Prop :=
  ∃ key value, attrRecord attr start = some (key, value, next) ∧ key ≠ QUOTE_CURRENCY_KEY

section
variable {attr : List UInt8}

theorem attrRecord_eq_some {start : Nat} {key value : List UInt8} {next : Nat} :
    attrRecord attr start = some (key, value, next) ↔ ∃ keyLength valueLength,
      attr[start]? = some keyLength ∧ attr[start + 1 + keyLength.toNat]? = some valueLength ∧
      key = (attr.drop (start + 1)).take keyLength.toNat ∧
      value = (attr.drop (start + 1 + keyLength.toNat + 1)).take valueLength.toNat ∧
      next = start + 1 + keyLength.toNat + 1 + valueLength.toNat := by
  simp only [attrRecord, Option.bind_eq_bind, Option.bind_eq_some, Option.pure_def,
    Option.some.injEq, Prod.mk.injEq]
  constructor
  · rintro ⟨keyLength, at_start, valueLength, at_value, rfl, rfl, rfl⟩
    exact ⟨keyLength, valueLength, at_start, at_value, rfl, rfl, rfl⟩
  · rintro ⟨keyLength, valueLength, at_start, at_value, rfl, rfl, rfl⟩
    exact ⟨keyLength, at_start, valueLength, at_value, rfl, rfl, rfl⟩

theorem attrRecord_of_le {start : Nat} (past : attr.length ≤ start) :
    attrRecord attr start = none := by
  simp [attrRecord, List.getElem?_eq_none past]

theorem SkipsRecord.advances {start next : Nat} (skips : SkipsRecord attr start next) :
    start + 2 ≤ next := by
  obtain ⟨_, _, recorded, -⟩ := skips
  obtain ⟨_, _, -, -, -, -, rfl⟩ := attrRecord_eq_some.mp recorded
  omega

theorem attrRecord_eq_none {start : Nat} (inRange : start < attr.length)
    (none : attrRecord attr start = none) : ∃ keyLength, attr[start]? = some keyLength ∧
      attr.length ≤ start + 1 + keyLength.toNat := by
  refine ⟨attr[start], List.getElem?_eq_getElem inRange, Nat.not_lt.mp fun within => ?_⟩
  have recorded := attrRecord_eq_some.mpr ⟨attr[start], _, List.getElem?_eq_getElem inRange,
    List.getElem?_eq_getElem within, rfl, rfl, rfl⟩
  rw [none] at recorded
  cases recorded

/-- From a record the walk cannot read, it goes nowhere. -/
theorem walk_of_none {start s : Nat} (none : attrRecord attr start = none)
    (walk : Relation.ReflTransGen (SkipsRecord attr) start s) : s = start := by
  rcases walk.cases_head with same | ⟨_, ⟨_, _, recorded, -⟩, -⟩
  · exact same.symm
  · rw [none] at recorded; cases recorded

/-! ### One turn of the loop -/

/-- A turn from a byte within the attributes, which holds the key length. -/
theorem quoteCurrencyFrom_succ {fuel start : Nat} {keyLength : UInt8}
    (at_start : attr[start]? = some keyLength) :
    quoteCurrencyFrom attr (fuel + 1) start =
      if keyLength.toNat = 14 ∧ attr.length < start + 1 + keyLength.toNat then
        fail .invalidOracleConfig
      else if keyLength.toNat = 14 ∧
          (attr.drop (start + 1)).take keyLength.toNat = QUOTE_CURRENCY_KEY then
        quoteCurrencyValue attr (start + 1 + keyLength.toNat)
      else listIndex attr (start + 1 + keyLength.toNat) >>= fun valueLength =>
        quoteCurrencyFrom attr fuel (start + 1 + keyLength.toNat + 1 + valueLength.toNat) := by
  obtain ⟨inRange, named⟩ := List.getElem?_eq_some_iff.mp at_start
  rw [quoteCurrencyFrom, dif_pos inRange, List.get_eq_getElem, named]

theorem quoteCurrencyFrom_finished {fuel start : Nat} (past : attr.length ≤ start) :
    quoteCurrencyFrom attr fuel start = fail .invalidOracleConfig := by
  cases fuel with
  | zero => rfl
  | succ fuel => rw [quoteCurrencyFrom, dif_neg (Nat.not_lt.mpr past)]

/-- A record whose value length byte lies past the end: a key of 14 bytes that runs past the end
is refused, and anything else reads past the end. -/
theorem quoteCurrencyFrom_stuck {fuel start : Nat} {keyLength : UInt8}
    (at_start : attr[start]? = some keyLength) (past : attr.length ≤ start + 1 + keyLength.toNat) :
    quoteCurrencyFrom attr (fuel + 1) start =
      if keyLength.toNat = 14 ∧ attr.length < start + 1 + keyLength.toNat then
        fail .invalidOracleConfig
      else .error .panic := by
  rw [quoteCurrencyFrom_succ at_start]
  by_cases refused : keyLength.toNat = 14 ∧ attr.length < start + 1 + keyLength.toNat
  · rw [if_pos refused, if_pos refused]
  rw [if_neg refused, if_neg refused, listIndex_of_le past]
  split
  · next quote =>
    rw [quoteCurrencyValue, listIndex_of_le (by omega), error_bind]
  · rfl

/-- A record of another key passes the loop on to the next record. -/
theorem quoteCurrencyFrom_skip {fuel start next : Nat} (skips : SkipsRecord attr start next) :
    quoteCurrencyFrom attr (fuel + 1) start = quoteCurrencyFrom attr fuel next := by
  obtain ⟨key, value, recorded, other⟩ := skips
  obtain ⟨keyLength, valueLength, at_start, at_value, rfl, -, rfl⟩ := attrRecord_eq_some.mp recorded
  obtain ⟨valueInRange, valueNamed⟩ := List.getElem?_eq_some_iff.mp at_value
  rw [quoteCurrencyFrom_succ at_start, if_neg (fun ⟨_, short⟩ => by omega),
    if_neg (fun ⟨_, quote⟩ => other quote), listIndex_of_lt valueInRange, valueNamed, ok_bind]

/-- The `quote_currency` record: its value, padded, when it has at most 32 bytes and lies within
the attributes. -/
theorem quoteCurrencyFrom_found {fuel start next : Nat} {value : List UInt8}
    (recorded : attrRecord attr start = some (QUOTE_CURRENCY_KEY, value, next)) :
    quoteCurrencyFrom attr (fuel + 1) start =
      if value.length ≤ 32 ∧ next ≤ attr.length then .ok (Bytes32.ofList value)
      else fail .invalidOracleConfig := by
  obtain ⟨keyLength, valueLength, at_start, at_value, named, rfl, rfl⟩ :=
    attrRecord_eq_some.mp recorded
  obtain ⟨valueInRange, valueNamed⟩ := List.getElem?_eq_some_iff.mp at_value
  have fourteen : keyLength.toNat = 14 := by
    have length := congrArg List.length named
    simp only [QUOTE_CURRENCY_KEY, List.length_take, List.length_drop, List.length_cons,
      List.length_nil] at length
    omega
  rw [quoteCurrencyFrom_succ at_start, if_neg (fun ⟨_, short⟩ => by omega),
    if_pos ⟨fourteen, named.symm⟩, quoteCurrencyValue, listIndex_of_lt valueInRange, valueNamed,
    ok_bind]
  by_cases fits : valueLength.toNat ≤ 32 ∧
      start + 1 + keyLength.toNat + 1 + valueLength.toNat ≤ attr.length
  · rw [if_neg (by omega), if_pos ⟨by simp only [List.length_take]; omega, fits.2⟩]
    rfl
  · have unfit :
        ¬(((attr.drop (start + 1 + keyLength.toNat + 1)).take valueLength.toNat).length ≤ 32 ∧
          start + 1 + keyLength.toNat + 1 + valueLength.toNat ≤ attr.length) :=
      fun ⟨short, within⟩ =>
        fits ⟨by simp only [List.length_take, List.length_drop] at short; omega, within⟩
    rw [if_pos (by omega), if_neg unfit]

/-! ### The whole loop -/

/-- A walk from past the end finds nothing. -/
theorem not_found_of_le {start : Nat} (past : attr.length ≤ start) {v : Bytes32} :
    ¬∃ s value next, Relation.ReflTransGen (SkipsRecord attr) start s ∧
      attrRecord attr s = some (QUOTE_CURRENCY_KEY, value, next) ∧
      value.length ≤ 32 ∧ next ≤ attr.length ∧ v = Bytes32.ofList value := by
  rintro ⟨s, value, next, walk, found, -⟩
  rw [walk_of_none (attrRecord_of_le past) walk, attrRecord_of_le past] at found
  cases found

/-- With a turn for every byte left, the loop from `start` returns a value exactly when the walk
from `start` reaches a `quote_currency` record whose value has at most 32 bytes and lies within the
attributes; the value returned is that one, padded. -/
theorem quoteCurrencyFrom_eq_ok {fuel start : Nat} (enough : attr.length ≤ start + fuel)
    {v : Bytes32} :
    quoteCurrencyFrom attr fuel start = .ok v ↔ ∃ s value next,
      Relation.ReflTransGen (SkipsRecord attr) start s ∧
      attrRecord attr s = some (QUOTE_CURRENCY_KEY, value, next) ∧
      value.length ≤ 32 ∧ next ≤ attr.length ∧ v = Bytes32.ofList value := by
  induction fuel generalizing start with
  | zero =>
    exact iff_of_false (by rw [quoteCurrencyFrom_finished (by omega)]; nofun)
      (not_found_of_le (by omega))
  | succ fuel ih =>
    by_cases inRange : start < attr.length
    swap
    · exact iff_of_false (by rw [quoteCurrencyFrom_finished (by omega)]; nofun)
        (not_found_of_le (by omega))
    cases recorded : attrRecord attr start with
    | none =>
      obtain ⟨keyLength, at_start, past⟩ := attrRecord_eq_none inRange recorded
      rw [quoteCurrencyFrom_stuck at_start past]
      refine iff_of_false (by split <;> nofun) ?_
      rintro ⟨s, value, next, walk, found, -⟩
      rw [walk_of_none recorded walk, recorded] at found
      cases found
    | some record =>
      obtain ⟨key, value, next⟩ := record
      by_cases quote : key = QUOTE_CURRENCY_KEY
      · subst quote
        rw [quoteCurrencyFrom_found recorded]
        constructor
        · intro returned
          split at returned
          · next fits =>
            exact ⟨start, value, next, .refl, recorded, fits.1, fits.2,
              (Except.ok.inj returned).symm⟩
          · cases returned
        · rintro ⟨s, value', next', walk, found, short, within, rfl⟩
          rcases walk.cases_head with same | ⟨c, ⟨key', value'', recorded', other⟩, -⟩
          · subst same
            rw [recorded, Option.some.injEq, Prod.mk.injEq, Prod.mk.injEq] at found
            obtain ⟨-, rfl, rfl⟩ := found
            rw [if_pos ⟨short, within⟩]
          · rw [recorded, Option.some.injEq] at recorded'
            exact absurd (congrArg Prod.fst recorded').symm other
      · have skips : SkipsRecord attr start next := ⟨key, value, recorded, quote⟩
        rw [quoteCurrencyFrom_skip skips, ih (by have := skips.advances; omega)]
        constructor
        · rintro ⟨s, value', next', walk, rest⟩
          exact ⟨s, value', next', .head skips walk, rest⟩
        · rintro ⟨s, value', next', walk, found, rest⟩
          rcases walk.cases_head with same | ⟨c, ⟨key', value'', recorded', -⟩, walk'⟩
          · subst same
            rw [recorded, Option.some.injEq] at found
            exact absurd (congrArg Prod.fst found) quote
          · rw [recorded, Option.some.injEq] at recorded'
            obtain rfl : next = c := congrArg (fun r => r.2.2) recorded'
            exact ⟨s, value', next', walk', found, rest⟩

/-- The loop fails only with `InvalidOracleConfig` or a panic. -/
theorem quoteCurrencyFrom_error {fuel start : Nat} {e : Fault}
    (failed : quoteCurrencyFrom attr fuel start = .error e) :
    e = PoolingError.invalidOracleConfig ∨ e = .panic := by
  induction fuel generalizing start with
  | zero => cases failed; exact .inl rfl
  | succ fuel ih =>
    by_cases inRange : start < attr.length
    swap
    · rw [quoteCurrencyFrom_finished (by omega)] at failed
      cases failed
      exact .inl rfl
    cases recorded : attrRecord attr start with
    | none =>
      obtain ⟨keyLength, at_start, past⟩ := attrRecord_eq_none inRange recorded
      rw [quoteCurrencyFrom_stuck at_start past] at failed
      split at failed <;> cases failed
      exacts [.inl rfl, .inr rfl]
    | some record =>
      obtain ⟨key, value, next⟩ := record
      by_cases quote : key = QUOTE_CURRENCY_KEY
      · subst quote
        rw [quoteCurrencyFrom_found recorded] at failed
        split at failed <;> cases failed
        exact .inl rfl
      · exact ih (by rwa [← quoteCurrencyFrom_skip ⟨key, value, recorded, quote⟩])

/-! ### Attributes that read past the end -/

/-- An odd run of zero bytes from a record boundary to the end: the walk passes two-byte records of
empty keys and values until its cursor stops on the last byte, and then reads past the end. -/
theorem quoteCurrencyFrom_zeros {k fuel start : Nat}
    (zeros : attr.drop start = List.replicate (2 * k + 1) 0) (enough : k < fuel) :
    quoteCurrencyFrom attr fuel start = .error .panic := by
  obtain ⟨fuel, rfl⟩ : ∃ f, fuel = f + 1 := ⟨fuel - 1, by omega⟩
  have zero_at (i : Nat) (within : i < 2 * k + 1) : attr[start + i]? = some 0 := by
    rw [← List.getElem?_drop, zeros, List.getElem?_replicate, if_pos within]
  induction k generalizing start fuel with
  | zero =>
    have length := congrArg List.length zeros
    simp only [List.length_drop, List.length_replicate] at length
    have at_start : attr[start]? = some 0 := zero_at 0 (by omega)
    rw [quoteCurrencyFrom_stuck at_start (by show _ ≤ start + 1 + 0; omega),
      if_neg fun ⟨fourteen, _⟩ => absurd fourteen (by decide)]
  | succ k ih =>
    have at_start : attr[start]? = some 0 := zero_at 0 (by omega)
    have skips : SkipsRecord attr start (start + 2) :=
      ⟨[], [], attrRecord_eq_some.mpr ⟨0, 0, at_start, zero_at 1 (by omega), rfl, rfl,
        by show _ = start + 1 + 0 + 1 + 0; omega⟩, by decide⟩
    rw [quoteCurrencyFrom_skip skips]
    obtain ⟨fuel, rfl⟩ : ∃ f, fuel = f + 1 := ⟨fuel - 1, by omega⟩
    refine ih (by rw [← List.drop_drop 2 start attr, zeros, List.drop_replicate,
      show 2 * (k + 1) + 1 - 2 = 2 * k + 1 by omega]) fuel (by omega) fun i within => ?_
    rw [Nat.add_assoc]
    exact zero_at (2 + i) (by omega)

end

theorem Bytes32.toList_ofList_of_le {l : List UInt8} (short : l.length ≤ 32) :
    (Bytes32.ofList l).toList = l ++ List.replicate (32 - l.length) 0 := by
  show (l ++ List.replicate 32 0).take 32 = _
  rw [List.take_append_eq_append_take, List.take_of_length_le short, List.take_replicate,
    Nat.min_eq_left (Nat.sub_le _ _)]

/-! ### `get_pyth_product_quote_currency` -/

theorem quote_currency_follows_record_walk (pythProduct : PythProduct)
    (inBounds : getPythProductQuoteCurrency pythProduct ≠ .error .panic) :
    (∀ v, getPythProductQuoteCurrency pythProduct = .ok v ↔ ∃ s value next,
      Relation.ReflTransGen (SkipsRecord pythProduct.attr) 0 s ∧
      attrRecord pythProduct.attr s = some (QUOTE_CURRENCY_KEY, value, next) ∧
      value.length ≤ 32 ∧ next ≤ pythProduct.attr.length ∧
      v.toList = value ++ List.replicate (32 - value.length) 0) ∧
    ∀ e, getPythProductQuoteCurrency pythProduct = .error e →
      e = PoolingError.invalidOracleConfig := by
  refine ⟨fun v => ?_, fun e failed => ?_⟩
  · rw [getPythProductQuoteCurrency, quoteCurrencyFrom_eq_ok (Nat.le_add_left _ _)]
    refine exists_congr fun s => exists_congr fun value => exists_congr fun next =>
      and_congr_right fun _ => and_congr_right fun _ => and_congr_right fun short =>
        and_congr_right fun _ => ?_
    rw [← Bytes32.toList_ofList_of_le short]
    exact ⟨congrArg Bytes32.toList, Bytes32.ext⟩
  · rcases quoteCurrencyFrom_error failed with refused | panicked
    · exact refused
    · exact absurd (panicked ▸ failed) inBounds

/-- A product whose records are `asset_type = Crypto`, `symbol = SOL/USD`, `quote_currency = USD`
and `base = SOL`, in that order. -/
def solUsdProduct : PythProduct :=
  ⟨PYTH_MAGIC, PYTH_VERSION_2, PYTH_ACCOUNT_TYPE_PRODUCT, default,
    10 :: [97, 115, 115, 101, 116, 95, 116, 121, 112, 101] ++ 6 :: [67, 114, 121, 112, 116, 111] ++
    6 :: [115, 121, 109, 98, 111, 108] ++ 7 :: [83, 79, 76, 47, 85, 83, 68] ++
    14 :: QUOTE_CURRENCY_KEY ++ 3 :: [85, 83, 68] ++ 4 :: [98, 97, 115, 101] ++ 3 :: [83, 79, 76]⟩

/-- The walk over the product's records skips two and stops at the third, `USD`. -/
theorem sol_usd_product_quote_currency :
    getPythProductQuoteCurrency solUsdProduct = .ok (Bytes32.ofList [85, 83, 68]) ∧
      getPythProductQuoteCurrency solUsdProduct ≠ .error .panic ∧
      (∀ v, getPythProductQuoteCurrency solUsdProduct = .ok v ↔ ∃ s value next,
        Relation.ReflTransGen (SkipsRecord solUsdProduct.attr) 0 s ∧
        attrRecord solUsdProduct.attr s = some (QUOTE_CURRENCY_KEY, value, next) ∧
        value.length ≤ 32 ∧ next ≤ solUsdProduct.attr.length ∧
        v.toList = value ++ List.replicate (32 - value.length) 0) ∧
      ∀ e, getPythProductQuoteCurrency solUsdProduct = .error e →
        e = PoolingError.invalidOracleConfig :=
  have returned : getPythProductQuoteCurrency solUsdProduct = .ok (Bytes32.ofList [85, 83, 68]) :=
    rfl
  have inBounds := fun panicked => Except.noConfusion (returned.symm.trans panicked)
  ⟨returned, inBounds, quote_currency_follows_record_walk _ inBounds⟩

/-- Whatever the attribute size, some attributes of that size make the parser read past the end:
an odd run of zero bytes, or a one-byte key followed by an odd run of zero bytes. -/
theorem quote_currency_panics_at_every_attribute_size (n : Nat) (nonempty : 0 < n) :
    ∃ attr : List UInt8, attr.length = n ∧ ∀ magic ver atype pxAcc,
      getPythProductQuoteCurrency ⟨magic, ver, atype, pxAcc, attr⟩ = .error .panic := by
  obtain ⟨k, rfl | rfl⟩ : ∃ k, n = 2 * k + 1 ∨ n = 2 * k + 2 := ⟨(n - 1) / 2, by omega⟩
  · refine ⟨List.replicate (2 * k + 1) 0, List.length_replicate _ _, fun _ _ _ _ => ?_⟩
    exact quoteCurrencyFrom_zeros (List.drop_zero _) (by rw [List.length_replicate]; omega)
  · refine ⟨1 :: List.replicate (2 * k + 1) 0, by simp, fun _ _ _ _ => ?_⟩
    cases k with
    | zero => rfl
    | succ k =>
      have skips : SkipsRecord (1 :: List.replicate (2 * (k + 1) + 1) 0) 0 3 :=
        ⟨[0], [], attrRecord_eq_some.mpr ⟨1, 0, rfl, by simp, by simp, by simp, rfl⟩, by decide⟩
      rw [getPythProductQuoteCurrency, List.length_cons, quoteCurrencyFrom_skip skips]
      exact quoteCurrencyFrom_zeros (k := k) (by simp; omega) (by simp; omega)

/-- The case of 464 bytes. -/
theorem quote_currency_panics_on_464_attribute_bytes :
    0 < 464 ∧ ∃ attr : List UInt8, attr.length = 464 ∧ ∀ magic ver atype pxAcc,
      getPythProductQuoteCurrency ⟨magic, ver, atype, pxAcc, attr⟩ = .error .panic :=
  ⟨by decide, quote_currency_panics_at_every_attribute_size 464 (by decide)⟩

end AllwinPooling
