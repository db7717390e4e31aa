import AllwinPooling.Codec.Bytes

/-!
# Shared state

The constants and the `LastUpdate` staleness record that every record type uses.
-/

namespace AllwinPooling

/-- A clock slot, a `u64`. -/
abbrev Slot := U64

/-- Modelled from the spec: the state module's `PROGRAM_VERSION`, the highest record version this
code decodes, and the version `init` writes. -/
def PROGRAM_VERSION : UInt8 := 1

/-- Modelled from the spec: the state module's `UNINITIALIZED_VERSION`, the version of a record
that was never initialized (a zeroed account). -/
def UNINITIALIZED_VERSION : UInt8 := 0

/-- Modelled from the spec: the state module's `INITIAL_COLLATERAL_RATE`, the configured rate
of an empty pool, the 1:1 ratio `1 · WAD`. -/
def INITIAL_COLLATERAL_RATE : U64 := ⟨WAD, by decide⟩

/-- Modelled from the spec: `STALE_AFTER_SLOTS_ELAPSED`, a record refreshed in an earlier slot
is stale. -/
def STALE_AFTER_SLOTS_ELAPSED : Nat := 1

/-- Modelled from the spec: the state module's `LastUpdate`, the slot of the last refresh and
whether the record changed since. -/
structure LastUpdate where
  slot : Slot
  stale : Bool
  deriving DecidableEq, Repr, Inhabited

namespace LastUpdate

/-- `LastUpdate::new`: a new record is stale. -/
def new (slot : Slot) : LastUpdate := ⟨slot, true⟩

/-- `slots_elapsed`: `slot - self.slot`, failing when the clock went back. -/
def slotsElapsed (u : LastUpdate) (slot : Slot) : Result U64 :=
  okOr (checkedSub slot u.slot) PoolingError.mathOverflow

/-- `update_slot`: refreshed at `slot`. -/
def updateSlot (_u : LastUpdate) (slot : Slot) : LastUpdate := ⟨slot, false⟩

/-- `mark_stale`. -/
def markStale (u : LastUpdate) : LastUpdate := { u with stale := true }

/-- `is_stale`: `self.stale || self.slots_elapsed(slot)? >= STALE_AFTER_SLOTS_ELAPSED`, the
right side only evaluated when the flag is clear. -/
def isStale (u : LastUpdate) (slot : Slot) : Result Bool :=
  if u.stale then .ok true
  else do
    let elapsed ← u.slotsElapsed slot
    return decide (STALE_AFTER_SLOTS_ELAPSED ≤ elapsed.val)

@[simp] theorem new_slot (slot : Slot) : (new slot).slot = slot := rfl

@[simp] theorem new_stale (slot : Slot) : (new slot).stale = true := rfl

@[simp] theorem updateSlot_slot (u : LastUpdate) (slot : Slot) : (u.updateSlot slot).slot = slot := rfl

@[simp] theorem updateSlot_stale (u : LastUpdate) (slot : Slot) : (u.updateSlot slot).stale = false :=
  rfl

@[simp] theorem markStale_slot (u : LastUpdate) : u.markStale.slot = u.slot := rfl

@[simp] theorem markStale_stale (u : LastUpdate) : u.markStale.stale = true := rfl

/-- A record is fresh at `slot` exactly when its flag is clear and it was refreshed at `slot`. -/
theorem isStale_eq_ok_false {u : LastUpdate} {slot : Slot} :
    u.isStale slot = .ok false ↔ u.stale = false ∧ u.slot = slot := by
  unfold isStale slotsElapsed checkedSub
  cases u.stale with
  | true => simp
  | false =>
    simp only [Bool.false_eq_true, ite_false, true_and]
    by_cases le : u.slot.val ≤ slot.val
    · simp only [dif_pos le, okOr_some, ok_bind, pure_eq_ok, Except.ok.injEq,
        decide_eq_false_iff_not, STALE_AFTER_SLOTS_ELAPSED, Fin.ext_iff]
      omega
    · simp only [dif_neg le, okOr_none, error_bind, reduceCtorEq, false_iff]
      exact fun same => le (same ▸ Nat.le_refl _)

end LastUpdate

end AllwinPooling
