import AllwinPooling.Error
import Mathlib.Order.Basic

/-!
# Fixed-point numbers

`Decimal` and `Rate` hold a value scaled by `WAD = 10^18`, in 192 and 128 bits. Every operation
is checked: it fails with `MathOverflow` where the machine integer would overflow, and division
truncates. Each operation has an `_eq_ok` lemma saying exactly when it succeeds and what it returns.
-/

namespace AllwinPooling

/-- A `u64`. -/
abbrev U64 := Fin (2 ^ 64)

/-- `10^18`, the scale of `Decimal` and `Rate`. -/
def WAD : Nat := 1000000000000000000

/-- Half of `WAD`, the offset of round-half-up. -/
def HALF_WAD : Nat := 500000000000000000

/-- `10^16`, one percent of `WAD`. -/
def PERCENT_SCALER : Nat := 10000000000000000

theorem wad_pos : 0 < WAD := by decide

/-- `checked_add` on `u64`. -/
def checkedAdd (a b : U64) : Option U64 :=
  if h : a.val + b.val < 2 ^ 64 then some ⟨_, h⟩ else none

/-- `checked_sub` on `u64`. -/
def checkedSub (a b : U64) : Option U64 :=
  if h : b.val ≤ a.val then some ⟨a.val - b.val, by omega⟩ else none

theorem checkedAdd_eq_some {a b c : U64} :
    checkedAdd a b = some c ↔ a.val + b.val < 2 ^ 64 ∧ c.val = a.val + b.val := by
  unfold checkedAdd
  split
  · simp only [Option.some.injEq]
    exact ⟨fun h => h ▸ ⟨‹_›, rfl⟩, fun h => Fin.ext h.2.symm⟩
  · simp_all

theorem checkedSub_eq_some {a b c : U64} :
    checkedSub a b = some c ↔ b.val ≤ a.val ∧ c.val = a.val - b.val := by
  unfold checkedSub
  split
  · simp only [Option.some.injEq]
    exact ⟨fun h => h ▸ ⟨‹_›, rfl⟩, fun h => Fin.ext h.2.symm⟩
  · simp_all

/-- Modelled from the spec: the `math` module's `Decimal`, an unsigned 192-bit integer read as
`val / WAD`. -/
@[ext] structure Decimal where
  val : Nat
  val_lt : val < 2 ^ 192
  deriving DecidableEq

/-- Modelled from the spec: the `math` module's `Rate`, an unsigned 128-bit integer read as
`val / WAD`. -/
@[ext] structure Rate where
  val : Nat
  val_lt : val < 2 ^ 128
  deriving DecidableEq

instance : Repr Decimal := ⟨fun d _ => repr d.val⟩

instance : Repr Rate := ⟨fun r _ => repr r.val⟩

namespace Decimal

def zero : Decimal := ⟨0, by decide⟩

def one : Decimal := ⟨WAD, by decide⟩

instance : Inhabited Decimal := ⟨zero⟩

/-- `Decimal::from(u64)`. -/
def fromU64 (n : U64) : Decimal :=
  ⟨n.val * WAD, Nat.lt_of_lt_of_le (Nat.mul_lt_mul_of_pos_right n.isLt wad_pos) (by decide)⟩

/-- `Decimal::from(Rate)`: the same scaled value. -/
def fromRate (r : Rate) : Decimal :=
  ⟨r.val, Nat.lt_trans r.val_lt (by decide)⟩

def tryAdd (a b : Decimal) : Result Decimal :=
  if h : a.val + b.val < 2 ^ 192 then .ok ⟨_, h⟩ else fail .mathOverflow

def trySub (a b : Decimal) : Result Decimal :=
  if _h : b.val ≤ a.val then .ok ⟨a.val - b.val, Nat.lt_of_le_of_lt (Nat.sub_le _ _) a.val_lt⟩
  else fail .mathOverflow

/-- `Decimal * Decimal`: the 192-bit product, then `/ WAD`. -/
def tryMul (a b : Decimal) : Result Decimal :=
  if h : a.val * b.val < 2 ^ 192 then .ok ⟨a.val * b.val / WAD, Nat.lt_of_le_of_lt (Nat.div_le_self _ _) h⟩
  else fail .mathOverflow

def tryMulRate (a : Decimal) (b : Rate) : Result Decimal := a.tryMul (fromRate b)

def tryMulU64 (a : Decimal) (n : U64) : Result Decimal :=
  if h : a.val * n.val < 2 ^ 192 then .ok ⟨_, h⟩ else fail .mathOverflow

/-- `Decimal / Decimal`: `val * WAD` in 192 bits, then `/ b`. -/
def tryDiv (a b : Decimal) : Result Decimal :=
  if h : a.val * WAD < 2 ^ 192 then
    if b.val = 0 then fail .mathOverflow
    else .ok ⟨a.val * WAD / b.val, Nat.lt_of_le_of_lt (Nat.div_le_self _ _) h⟩
  else fail .mathOverflow

def tryDivRate (a : Decimal) (b : Rate) : Result Decimal := a.tryDiv (fromRate b)

def tryDivU64 (a : Decimal) (n : U64) : Result Decimal :=
  if n.val = 0 then fail .mathOverflow
  else .ok ⟨a.val / n.val, Nat.lt_of_le_of_lt (Nat.div_le_self _ _) a.val_lt⟩

/-- `u64::try_from` of a 192-bit value. -/
def toU64 (n : Nat) : Result U64 :=
  if h : n < 2 ^ 64 then .ok ⟨n, h⟩ else fail .mathOverflow

def tryFloorU64 (a : Decimal) : Result U64 := toU64 (a.val / WAD)

def tryCeilU64 (a : Decimal) : Result U64 :=
  if WAD - 1 + a.val < 2 ^ 192 then toU64 ((WAD - 1 + a.val) / WAD)
  else fail .mathOverflow

def tryRoundU64 (a : Decimal) : Result U64 :=
  if HALF_WAD + a.val < 2 ^ 192 then toU64 ((HALF_WAD + a.val) / WAD)
  else fail .mathOverflow

/-- `to_scaled_val`: the value as a `u128`, failing above. -/
def toScaledVal (a : Decimal) : Result Nat :=
  if a.val < 2 ^ 128 then .ok a.val else fail .mathOverflow

instance : LT Decimal := ⟨fun a b => a.val < b.val⟩

instance (a b : Decimal) : Decidable (a < b) := inferInstanceAs (Decidable (a.val < b.val))

theorem lt_iff {a b : Decimal} : a < b ↔ a.val < b.val := Iff.rfl

@[simp] theorem zero_val : zero.val = 0 := rfl

@[simp] theorem one_val : one.val = WAD := rfl

@[simp] theorem fromU64_val (n : U64) : (fromU64 n).val = n.val * WAD := rfl

@[simp] theorem fromRate_val (r : Rate) : (fromRate r).val = r.val := rfl

@[simp] theorem mk_eq_iff {v : Nat} {lt : v < 2 ^ 192} {c : Decimal} :
    (⟨v, lt⟩ : Decimal) = c ↔ c.val = v :=
  ⟨fun h => h ▸ rfl, fun h => Decimal.ext h.symm⟩

theorem tryAdd_eq_ok {a b c : Decimal} :
    a.tryAdd b = .ok c ↔ a.val + b.val < 2 ^ 192 ∧ c.val = a.val + b.val := by
  simp only [tryAdd, fail_eq, dite_eq_ok, exists_prop, mk_eq_iff]

theorem trySub_eq_ok {a b c : Decimal} :
    a.trySub b = .ok c ↔ b.val ≤ a.val ∧ c.val = a.val - b.val := by
  simp only [trySub, fail_eq, dite_eq_ok, exists_prop, mk_eq_iff]

theorem tryMul_eq_ok {a b c : Decimal} :
    a.tryMul b = .ok c ↔ a.val * b.val < 2 ^ 192 ∧ c.val = a.val * b.val / WAD := by
  simp only [tryMul, fail_eq, dite_eq_ok, exists_prop, mk_eq_iff]

theorem tryMulU64_eq_ok {a c : Decimal} {n : U64} :
    a.tryMulU64 n = .ok c ↔ a.val * n.val < 2 ^ 192 ∧ c.val = a.val * n.val := by
  simp only [tryMulU64, fail_eq, dite_eq_ok, exists_prop, mk_eq_iff]

theorem tryDiv_eq_ok {a b c : Decimal} :
    a.tryDiv b = .ok c ↔ a.val * WAD < 2 ^ 192 ∧ b.val ≠ 0 ∧ c.val = a.val * WAD / b.val := by
  unfold tryDiv
  by_cases fits : a.val * WAD < 2 ^ 192
  · rw [dif_pos fits]
    by_cases zero : b.val = 0
    · rw [if_pos zero, fail_eq]
      exact ⟨nofun, fun ⟨_, nonzero, _⟩ => absurd zero nonzero⟩
    · rw [if_neg zero, Except.ok.injEq, mk_eq_iff]
      exact ⟨fun quotient => ⟨fits, zero, quotient⟩, fun ⟨_, _, quotient⟩ => quotient⟩
  · rw [dif_neg fits, fail_eq]
    exact ⟨nofun, fun ⟨small, _⟩ => absurd small fits⟩

theorem tryDivU64_eq_ok {a c : Decimal} {n : U64} :
    a.tryDivU64 n = .ok c ↔ n.val ≠ 0 ∧ c.val = a.val / n.val := by
  unfold tryDivU64
  split <;> simp_all

theorem toU64_eq_ok {n : Nat} {m : U64} : toU64 n = .ok m ↔ n < 2 ^ 64 ∧ m.val = n := by
  simp only [toU64, fail_eq, dite_eq_ok]
  exact ⟨fun ⟨lt, e⟩ => ⟨lt, e ▸ rfl⟩, fun ⟨lt, e⟩ => ⟨lt, Fin.ext e.symm⟩⟩

theorem tryFloorU64_eq_ok {a : Decimal} {m : U64} :
    a.tryFloorU64 = .ok m ↔ a.val / WAD < 2 ^ 64 ∧ m.val = a.val / WAD :=
  toU64_eq_ok

/-- Past `2^128` the quotient by `WAD` is past `2^64`, so the overflow check of the offset sum
never decides a conversion to `u64`. -/
theorem div_wad_big {n : Nat} (big : 2 ^ 128 ≤ n) : ¬n / WAD < 2 ^ 64 := by
  have : 2 ^ 64 ≤ n / WAD := (Nat.le_div_iff_mul_le wad_pos).mpr (by unfold WAD; omega)
  omega

theorem tryRoundU64_eq_ok {a : Decimal} {m : U64} :
    a.tryRoundU64 = .ok m ↔ (HALF_WAD + a.val) / WAD < 2 ^ 64 ∧ m.val = (HALF_WAD + a.val) / WAD := by
  unfold tryRoundU64
  split
  · exact toU64_eq_ok
  · exact iff_of_false (by simp) (fun h => div_wad_big (by omega) h.1)

theorem tryCeilU64_eq_ok {a : Decimal} {m : U64} :
    a.tryCeilU64 = .ok m ↔ (WAD - 1 + a.val) / WAD < 2 ^ 64 ∧ m.val = (WAD - 1 + a.val) / WAD := by
  unfold tryCeilU64
  split
  · exact toU64_eq_ok
  · exact iff_of_false (by simp) (fun h => div_wad_big (by omega) h.1)

end Decimal

namespace Rate

def zero : Rate := ⟨0, by decide⟩

def one : Rate := ⟨WAD, by decide⟩

/-- `Rate::from_percent(percent: u8)`. -/
def fromPercent (percent : Fin 256) : Rate :=
  ⟨percent.val * PERCENT_SCALER, Nat.lt_of_lt_of_le
    (Nat.mul_lt_mul_of_pos_right percent.isLt (by decide)) (by decide)⟩

/-- `Rate::from_scaled_val(u64)`. -/
def fromScaledVal (n : U64) : Rate := ⟨n.val, Nat.lt_trans n.isLt (by decide)⟩

/-- `Rate / Rate`: `val * WAD` in 128 bits, then `/ b`. -/
def tryDiv (a b : Rate) : Result Rate :=
  if h : a.val * WAD < 2 ^ 128 then
    if b.val = 0 then fail .mathOverflow
    else .ok ⟨a.val * WAD / b.val, Nat.lt_of_le_of_lt (Nat.div_le_self _ _) h⟩
  else fail .mathOverflow

def tryMulU64 (a : Rate) (n : U64) : Result Rate :=
  if h : a.val * n.val < 2 ^ 128 then .ok ⟨_, h⟩ else fail .mathOverflow

def tryRoundU64 (a : Rate) : Result U64 :=
  if HALF_WAD + a.val < 2 ^ 128 then Decimal.toU64 ((HALF_WAD + a.val) / WAD)
  else fail .mathOverflow

/-- `Rate::try_from(Decimal)`, through `to_scaled_val`. -/
def tryFromDecimal (d : Decimal) : Result Rate :=
  if h : d.val < 2 ^ 128 then .ok ⟨d.val, h⟩ else fail .mathOverflow

@[simp] theorem one_val : one.val = WAD := rfl

@[simp] theorem fromScaledVal_val (n : U64) : (fromScaledVal n).val = n.val := rfl

@[simp] theorem mk_eq_iff {v : Nat} {lt : v < 2 ^ 128} {c : Rate} :
    (⟨v, lt⟩ : Rate) = c ↔ c.val = v :=
  ⟨fun h => h ▸ rfl, fun h => Rate.ext h.symm⟩

theorem tryDiv_eq_ok {a b c : Rate} :
    a.tryDiv b = .ok c ↔ a.val * WAD < 2 ^ 128 ∧ b.val ≠ 0 ∧ c.val = a.val * WAD / b.val := by
  unfold tryDiv
  by_cases fits : a.val * WAD < 2 ^ 128
  · rw [dif_pos fits]
    by_cases zero : b.val = 0
    · rw [if_pos zero, fail_eq]
      exact ⟨nofun, fun ⟨_, nonzero, _⟩ => absurd zero nonzero⟩
    · rw [if_neg zero, Except.ok.injEq, mk_eq_iff]
      exact ⟨fun quotient => ⟨fits, zero, quotient⟩, fun ⟨_, _, quotient⟩ => quotient⟩
  · rw [dif_neg fits, fail_eq]
    exact ⟨nofun, fun ⟨small, _⟩ => absurd small fits⟩

theorem tryMulU64_eq_ok {a c : Rate} {n : U64} :
    a.tryMulU64 n = .ok c ↔ a.val * n.val < 2 ^ 128 ∧ c.val = a.val * n.val := by
  simp only [tryMulU64, fail_eq, dite_eq_ok, exists_prop, Rate.mk_eq_iff]

theorem tryRoundU64_eq_ok {a : Rate} {m : U64} :
    a.tryRoundU64 = .ok m ↔ (HALF_WAD + a.val) / WAD < 2 ^ 64 ∧ m.val = (HALF_WAD + a.val) / WAD := by
  unfold tryRoundU64
  split
  · exact Decimal.toU64_eq_ok
  · exact iff_of_false (by simp) (fun h => Decimal.div_wad_big (by omega) h.1)

theorem tryFromDecimal_eq_ok {d : Decimal} {r : Rate} :
    tryFromDecimal d = .ok r ↔ d.val < 2 ^ 128 ∧ r.val = d.val := by
  simp only [tryFromDecimal, fail_eq, dite_eq_ok, exists_prop, Rate.mk_eq_iff]

end Rate

end AllwinPooling
