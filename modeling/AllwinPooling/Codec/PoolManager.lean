import AllwinPooling.State.PoolManager

/-!
# Pool manager layout

`impl Pack for PoolManager`: 354 bytes, of which the last 128 are padding. Unpacking a packed
record gives it back, and packing an unpacked buffer over itself rewrites every byte as it was.
-/

namespace AllwinPooling

/-- `POOL_MANAGER_LEN`. -/
def POOL_MANAGER_LEN : Nat := 354

namespace PoolManager

/-- `pack_into_slice`: the fields in layout order over the first 226 bytes; the padding and
whatever follows the record keep what `output` held. -/
def packIntoSlice (m : PoolManager) (output : List UInt8) : Result (List UInt8) := do
  let _ ← arrayRef output POOL_MANAGER_LEN
  return [m.version] ++ [m.bumpSeed] ++ m.pendingOwner.toList ++ m.owner.toList ++
    m.quoteCurrency.toList ++ m.tokenProgramId.toList ++ m.oracleProgramId.toList ++
    m.mineMint.toList ++ m.mineSupplyAccount.toList ++ output.drop 226

/-- `unpack_from_slice`: a version above `PROGRAM_VERSION` is `InvalidAccountData`. -/
def unpackFromSlice (input : List UInt8) : Result PoolManager := do
  let input ← arrayRef input POOL_MANAGER_LEN
  let (version, input) := input.splitAt 1
  let (bumpSeed, input) := input.splitAt 1
  let (pendingOwner, input) := input.splitAt 32
  let (owner, input) := input.splitAt 32
  let (quoteCurrency, input) := input.splitAt 32
  let (tokenProgramId, input) := input.splitAt 32
  let (oracleProgramId, input) := input.splitAt 32
  let (mineMint, input) := input.splitAt 32
  let (mineSupplyAccount, _padding) := input.splitAt 32
  let version := u8FromLe version
  ensure (¬PROGRAM_VERSION < version) ProgramError.invalidAccountData
  return {
    version
    bumpSeed := u8FromLe bumpSeed
    pendingOwner := .ofList pendingOwner
    owner := .ofList owner
    quoteCurrency := .ofList quoteCurrency
    tokenProgramId := .ofList tokenProgramId
    oracleProgramId := .ofList oracleProgramId
    mineMint := .ofList mineMint
    mineSupplyAccount := .ofList mineSupplyAccount }

theorem unpackFromSlice_packIntoSlice (m : PoolManager) {output : List UInt8}
    (length : output.length = POOL_MANAGER_LEN) (current : m.version ≤ PROGRAM_VERSION) :
    (m.packIntoSlice output >>= unpackFromSlice) = .ok m := by
  have packed : ([m.version] ++ [m.bumpSeed] ++ m.pendingOwner.toList ++ m.owner.toList ++
      m.quoteCurrency.toList ++ m.tokenProgramId.toList ++ m.oracleProgramId.toList ++
      m.mineMint.toList ++ m.mineSupplyAccount.toList ++ output.drop 226).length =
        POOL_MANAGER_LEN := by
    simp [length, POOL_MANAGER_LEN]
  simp only [packIntoSlice, unpackFromSlice, arrayRef_of_length length, arrayRef_of_length packed,
    ok_bind, pure_eq_ok]
  simp only [List.append_assoc, splitAt_append_of_length, List.length_singleton,
    Bytes32.length_toList, u8FromLe_singleton, Bytes32.ofList_toList, ensure_of_true (UInt8.not_lt.mpr current),
    ok_bind]

theorem packIntoSlice_unpackFromSlice {input : List UInt8} {m : PoolManager}
    (length : input.length = POOL_MANAGER_LEN) (decoded : unpackFromSlice input = .ok m) :
    m.packIntoSlice input = .ok input := by
  simp only [unpackFromSlice, arrayRef_of_length length, ok_bind, ensure_bind_ok, pure_eq_ok,
    Except.ok.injEq] at decoded
  obtain ⟨-, rfl⟩ := decoded
  rw [packIntoSlice, arrayRef_of_length length]
  simp [List.splitAt_eq, Bytes32.toList_ofList, length, POOL_MANAGER_LEN, singleton_u8FromLe,
    take_drop_append_drop, -List.drop_one]

/-- A decoded record has a version this code reads. -/
theorem unpackFromSlice_current {input : List UInt8} {m : PoolManager}
    (length : input.length = POOL_MANAGER_LEN) (decoded : unpackFromSlice input = .ok m) :
    m.version ≤ PROGRAM_VERSION := by
  simp only [unpackFromSlice, arrayRef_of_length length, ok_bind, ensure_bind_ok, pure_eq_ok,
    Except.ok.injEq] at decoded
  obtain ⟨current, rfl⟩ := decoded
  exact UInt8.not_lt.mp current

/-- Packing keeps the buffer's length and writes the version first. -/
theorem packIntoSlice_ok {m : PoolManager} {output out : List UInt8}
    (length : output.length = POOL_MANAGER_LEN) (packed : m.packIntoSlice output = .ok out) :
    out.length = POOL_MANAGER_LEN ∧ out.head? = some m.version := by
  rw [packIntoSlice, arrayRef_of_length length, ok_bind] at packed
  cases packed
  exact ⟨by simp [length, POOL_MANAGER_LEN], rfl⟩

theorem unpackFromSlice_ne_panic {input : List UInt8} (length : input.length = POOL_MANAGER_LEN) :
    unpackFromSlice input ≠ .error .panic := by
  simp only [unpackFromSlice, arrayRef_of_length length, ok_bind, List.splitAt_eq]
  exact bind_ne_panic (ensure_ne_panic _) fun _ => nofun

end PoolManager

end AllwinPooling
