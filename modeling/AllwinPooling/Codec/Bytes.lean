import AllwinPooling.Math.Decimal
import Mathlib.Data.List.Basic

/-!
# Byte encodings

Little-endian integers, 32-byte keys, and the `pack_*`/`unpack_*` helpers the record layouts are
built from. Each comes with its round trip in both directions: decoding an encoding gives the
value back, and encoding a successful decoding gives the bytes back.
-/

namespace AllwinPooling

/-! ### Little-endian naturals -/

theorem byte_lt (b : UInt8) : b.toNat < 256 := b.toBitVec.isLt

theorem byte_ext {a b : UInt8} (same : a.toNat = b.toNat) : a = b := UInt8.eq_of_val_eq (Fin.ext same)

/-- The `w` little-endian bytes of `n`, bits above `8 * w` dropped. -/
def toLE : Nat → Nat → List UInt8
  | 0, _ => []
  | w + 1, n => UInt8.ofNat n :: toLE w (n / 256)

/-- The natural with the given little-endian bytes. -/
def ofLE : List UInt8 → Nat
  | [] => 0
  | b :: bs => b.toNat + 256 * ofLE bs

@[simp] theorem length_toLE (w n : Nat) : (toLE w n).length = w := by
  induction w generalizing n with
  | zero => rfl
  | succ w ih => simp [toLE, ih]

theorem ofLE_lt (l : List UInt8) : ofLE l < 256 ^ l.length := by
  induction l with
  | nil => decide
  | cons b bs ih =>
    have byte := byte_lt b
    simp only [ofLE, List.length_cons, Nat.pow_succ]
    omega

theorem ofLE_toLE {w n : Nat} (fits : n < 256 ^ w) : ofLE (toLE w n) = n := by
  induction w generalizing n with
  | zero => simp_all [toLE, ofLE]
  | succ w ih =>
    have below : n / 256 < 256 ^ w := by rw [Nat.pow_succ] at fits; omega
    show (UInt8.ofNat n).toNat + 256 * ofLE (toLE w (n / 256)) = n
    rw [ih below]
    show n % 256 + 256 * (n / 256) = n
    omega

theorem toLE_ofLE (l : List UInt8) : toLE l.length (ofLE l) = l := by
  induction l with
  | nil => rfl
  | cons b bs ih =>
    have byte := byte_lt b
    have low : UInt8.ofNat (b.toNat + 256 * ofLE bs) = b :=
      byte_ext (show (b.toNat + 256 * ofLE bs) % 256 = b.toNat by omega)
    have high : (b.toNat + 256 * ofLE bs) / 256 = ofLE bs := by omega
    show toLE (bs.length + 1) (b.toNat + 256 * ofLE bs) = b :: bs
    simp only [toLE, low, high, ih]

/-! ### Fixed-width fields -/

/-- A `[u8; 32]`: a `Pubkey`, or a tag such as the quote currency. -/
@[ext] structure Bytes32 where
  toList : List UInt8
  length_toList : toList.length = 32
  deriving DecidableEq

/-- A `Pubkey`, 32 bytes. -/
abbrev Pubkey := Bytes32

/-- `Pubkey::new_from_array` (or `*array`) on a field of 32 bytes. -/
def Bytes32.ofList (l : List UInt8) : Bytes32 :=
  ⟨(l ++ List.replicate 32 0).take 32, by simp⟩

instance : Inhabited Bytes32 := ⟨Bytes32.ofList []⟩

attribute [simp] Bytes32.length_toList

theorem Bytes32.toList_ofList {l : List UInt8} (length : l.length = 32) :
    (Bytes32.ofList l).toList = l :=
  List.take_left' length

@[simp] theorem Bytes32.ofList_toList (b : Bytes32) : Bytes32.ofList b.toList = b :=
  Bytes32.ext (Bytes32.toList_ofList b.length_toList)

/-- A key whose thirty-two bytes count up from `n`, so that a key read from the wrong offset, or
with its bytes in another order, reads differently. -/
def layoutKey (n : Nat) : Pubkey := Bytes32.ofList ((List.range 32).map fun i => UInt8.ofNat (n + i))

/-- `u64::to_le_bytes`. -/
def u64ToLe (n : U64) : List UInt8 := toLE 8 n.val

/-- `u64::from_le_bytes` on a field of 8 bytes. -/
def u64FromLe (l : List UInt8) : U64 := ⟨ofLE l % 2 ^ 64, Nat.mod_lt _ (by decide)⟩

@[simp] theorem length_u64ToLe (n : U64) : (u64ToLe n).length = 8 := length_toLE _ _

@[simp] theorem u64FromLe_u64ToLe (n : U64) : u64FromLe (u64ToLe n) = n := by
  have fits : n.val < 256 ^ 8 := Nat.lt_of_lt_of_eq n.isLt (by decide)
  apply Fin.ext
  show ofLE (toLE 8 n.val) % 2 ^ 64 = n.val
  rw [ofLE_toLE fits, Nat.mod_eq_of_lt n.isLt]

theorem u64ToLe_u64FromLe {l : List UInt8} (length : l.length = 8) : u64ToLe (u64FromLe l) = l := by
  have fits : ofLE l < 2 ^ 64 := by simpa [length] using ofLE_lt l
  simp only [u64ToLe, u64FromLe, Nat.mod_eq_of_lt fits, ← length, toLE_ofLE]

/-- `u8::from_le_bytes` on a field of one byte. -/
def u8FromLe (l : List UInt8) : UInt8 := l.headD 0

@[simp] theorem u8FromLe_singleton (b : UInt8) : u8FromLe [b] = b := rfl

theorem singleton_u8FromLe {l : List UInt8} (length : l.length = 1) : [u8FromLe l] = l := by
  match l, length with
  | [b], _ => rfl

theorem u8FromLe_cons {l : List UInt8} (length : l.length = 1) (rest : List UInt8) :
    u8FromLe l :: rest = l ++ rest := by
  rw [← singleton_u8FromLe length, List.singleton_append, singleton_u8FromLe length]

/-- `u8::try_from(n).unwrap()`: panics from 256 up. -/
def u8TryFromUnwrap (n : Nat) : Result UInt8 :=
  if n < 256 then .ok (UInt8.ofNat n) else .error .panic

theorem u8TryFromUnwrap_of_lt {n : Nat} (fits : n < 256) :
    u8TryFromUnwrap n = .ok (UInt8.ofNat n) := if_pos fits

@[simp] theorem u8TryFromUnwrap_toNat (b : UInt8) : u8TryFromUnwrap b.toNat = .ok b := by
  rw [u8TryFromUnwrap_of_lt (byte_lt b)]
  exact congrArg Except.ok (byte_ext (UInt8.toNat_ofNat_of_lt (byte_lt b)))

/-- The state module's `pack_bool`: `(boolean as u8).to_le_bytes()`. -/
def packBool (b : Bool) : List UInt8 := [if b then 1 else 0]

/-- The state module's `unpack_bool`: 0 and 1 only, any other byte is `InvalidAccountData`. -/
def unpackBool (l : List UInt8) : Result Bool :=
  if u8FromLe l = 0 then .ok false
  else if u8FromLe l = 1 then .ok true
  else throw (ProgramError.invalidAccountData : Fault)

@[simp] theorem length_packBool (b : Bool) : (packBool b).length = 1 := rfl

@[simp] theorem unpackBool_packBool (b : Bool) : unpackBool (packBool b) = .ok b := by
  cases b <;> rfl

theorem unpackBool_ne_panic (l : List UInt8) : unpackBool l ≠ .error .panic := by
  unfold unpackBool
  split
  · simp
  · split <;> simp

theorem packBool_unpackBool {l : List UInt8} {b : Bool} (decoded : unpackBool l = .ok b)
    (length : l.length = 1) : packBool b = l := by
  rw [← singleton_u8FromLe length]
  unfold unpackBool at decoded
  split at decoded
  · cases decoded; simp_all [packBool]
  · split at decoded
    · cases decoded; simp_all [packBool]
    · cases decoded

/-- The state module's `unpack_decimal`: `Decimal::from_scaled_val(u128::from_le_bytes(..))`. -/
def unpackDecimal (l : List UInt8) : Decimal :=
  ⟨ofLE l % 2 ^ 128, Nat.lt_trans (Nat.mod_lt _ (by decide)) (by decide)⟩

/-- `.expect(..)`: a failure becomes a panic. -/
def expect {α : Type} (x : Result α) : Result α :=
  match x with
  | .ok a => .ok a
  | .error _ => .error .panic

/-- The state module's `pack_decimal`: the `u128` scaled value, which panics above `2^128`. -/
def packDecimal (d : Decimal) : Result (List UInt8) := do
  let v ← expect d.toScaledVal
  return toLE 16 v

theorem packDecimal_eq_ok {d : Decimal} {l : List UInt8} :
    packDecimal d = .ok l ↔ d.val < 2 ^ 128 ∧ l = toLE 16 d.val := by
  unfold packDecimal Decimal.toScaledVal
  split <;> simp_all [expect, eq_comm]

theorem packDecimal_of_lt {d : Decimal} (fits : d.val < 2 ^ 128) :
    packDecimal d = .ok (toLE 16 d.val) :=
  packDecimal_eq_ok.mpr ⟨fits, rfl⟩

theorem unpackDecimal_toLE {d : Decimal} (fits : d.val < 2 ^ 128) :
    unpackDecimal (toLE 16 d.val) = d :=
  Decimal.ext (by
    have fits' : d.val < 256 ^ 16 := Nat.lt_of_lt_of_eq fits (by decide)
    show ofLE (toLE 16 d.val) % 2 ^ 128 = d.val
    rw [ofLE_toLE fits', Nat.mod_eq_of_lt fits])

theorem unpackDecimal_lt (l : List UInt8) : (unpackDecimal l).val < 2 ^ 128 :=
  Nat.mod_lt _ (by decide)

theorem toLE_unpackDecimal {l : List UInt8} (length : l.length = 16) :
    toLE 16 (unpackDecimal l).val = l := by
  have fits : ofLE l < 2 ^ 128 := by simpa [length] using ofLE_lt l
  simp only [unpackDecimal, Nat.mod_eq_of_lt fits, ← length, toLE_ofLE]

theorem packDecimal_unpackDecimal {l : List UInt8} (length : l.length = 16) :
    packDecimal (unpackDecimal l) = .ok l := by
  rw [packDecimal_of_lt (unpackDecimal_lt l), toLE_unpackDecimal length]

/-! ### Fixed layouts

A record is packed by `mut_array_refs!` into consecutive fields, each written whole, and
unpacked by `array_refs!` from the same fields; here the packed bytes are the concatenation of
the fields and unpacking cuts them off the front one after the other. -/

/-- `array_ref![buf, 0, len]` or `array_mut_ref!`: the first `len` bytes; a shorter buffer
panics. -/
def arrayRef (buf : List UInt8) (len : Nat) : Result (List UInt8) :=
  if len ≤ buf.length then .ok (buf.take len) else .error .panic

theorem arrayRef_of_length {buf : List UInt8} {len : Nat} (length : buf.length = len) :
    arrayRef buf len = .ok buf := by
  simp [arrayRef, length]

@[simp] theorem splitAt_append_of_length {a b : List UInt8} {n : Nat} (length : a.length = n) :
    (a ++ b).splitAt n = (a, b) := by
  subst length
  simp [List.splitAt_eq]

/-- Gluing the fields cut off a buffer gives the buffer back. -/
theorem take_drop_append_drop {l : List UInt8} {k n m : Nat} (next : m = k + n) :
    (l.drop k).take n ++ l.drop m = l.drop k := by
  subst next
  rw [← List.drop_drop]
  exact List.take_append_drop n (l.drop k)

end AllwinPooling
