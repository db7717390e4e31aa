import AllwinPooling.Codec.Entries
import AllwinPooling.State.Ticket

/-!
# Ticket layout

`impl Pack for Ticket`: a 107-byte header and room for `MAX_OBLIGATION_RESERVES` deposits of 72
bytes. The deposit count is a byte of the header, and unpacking trusts it: a count above ten runs
the loop past the room and panics.
-/

namespace AllwinPooling

/-- `OBLIGATION_COLLATERAL_LEN`. -/
def OBLIGATION_COLLATERAL_LEN : Nat := 72

/-- `OBLIGATION_LEN`. -/
def OBLIGATION_LEN : Nat := 827

namespace TicketCollateral

/-- The body of the `pack_into_slice` loop: `deposit_reserve`, `deposited_amount`,
`market_value` and `index` over 72 bytes. -/
def pack (c : TicketCollateral) : Result (List UInt8) := do
  let marketValue ← packDecimal c.marketValue
  let index ← packDecimal c.index
  return c.depositReserve.toList ++ u64ToLe c.depositedAmount ++ marketValue ++ index

/-- The body of the `unpack_from_slice` loop. -/
def unpack (depositsFlat : List UInt8) : TicketCollateral :=
  let (depositReserve, depositsFlat) := depositsFlat.splitAt 32
  let (depositedAmount, depositsFlat) := depositsFlat.splitAt 8
  let (marketValue, index) := depositsFlat.splitAt 16
  { index := unpackDecimal index
    depositReserve := .ofList depositReserve
    depositedAmount := u64FromLe depositedAmount
    marketValue := unpackDecimal marketValue }

/-- Both `Decimal`s of the deposit fit the 128-bit packed form. -/
def DecimalsFit (c : TicketCollateral) : Prop :=
  c.marketValue.val < 2 ^ 128 ∧ c.index.val < 2 ^ 128

instance (c : TicketCollateral) : Decidable c.DecimalsFit :=
  inferInstanceAs (Decidable (_ ∧ _))

theorem pack_eq_ok {c : TicketCollateral} {bytes : List UInt8} :
    c.pack = .ok bytes ↔ c.DecimalsFit ∧ bytes = c.depositReserve.toList ++
      u64ToLe c.depositedAmount ++ toLE 16 c.marketValue.val ++ toLE 16 c.index.val := by
  by_cases fit : c.DecimalsFit
  · simp [pack, packDecimal_of_lt fit.1, packDecimal_of_lt fit.2, fit, eq_comm]
  · simp only [pack, fit, false_and, iff_false]
    intro packed
    obtain ⟨marketValue, marketOk, packed⟩ := bind_ok packed
    obtain ⟨index, indexOk, -⟩ := bind_ok packed
    exact fit ⟨(packDecimal_eq_ok.mp marketOk).1, (packDecimal_eq_ok.mp indexOk).1⟩

theorem entryCodec : EntryCodec OBLIGATION_COLLATERAL_LEN pack unpack where
  length_of_pack packed := by
    obtain ⟨-, rfl⟩ := pack_eq_ok.mp packed
    simp [OBLIGATION_COLLATERAL_LEN]
  unpack_of_pack packed := by
    obtain ⟨⟨market, index⟩, rfl⟩ := pack_eq_ok.mp packed
    simp [unpack, List.append_assoc, unpackDecimal_toLE market, unpackDecimal_toLE index]
  pack_of_unpack length := by
    simp [unpack, pack, List.splitAt_eq, packDecimal_unpackDecimal, u64ToLe_u64FromLe,
      Bytes32.toList_ofList, length, OBLIGATION_COLLATERAL_LEN, take_drop_append_drop,
      -List.drop_one]

end TicketCollateral

namespace Ticket

/-- `pack_into_slice`: the header, then the deposits from offset 107. The deposit count goes
through `u8::try_from(..).unwrap()`, and a deposit past the tenth panics in `array_mut_ref!`. -/
def packIntoSlice (t : Ticket) (dst : List UInt8) : Result (List UInt8) := do
  let output ← arrayRef dst OBLIGATION_LEN
  let depositedValue ← packDecimal t.depositedValue
  let depositsLen ← u8TryFromUnwrap t.deposits.length
  let unclaimedMine ← packDecimal t.unclaimedMine
  let dataFlat ← packEntries OBLIGATION_COLLATERAL_LEN TicketCollateral.pack t.deposits
    (output.drop 107)
  return [t.version] ++ u64ToLe t.lastUpdate.slot ++ packBool t.lastUpdate.stale ++
    t.poolManager.toList ++ t.owner.toList ++ depositedValue ++ [depositsLen] ++ unclaimedMine ++
    dataFlat ++ dst.drop OBLIGATION_LEN

/-- `unpack_from_slice`: the version check, then the loop over `deposits_len` entries, then the
stale flag. -/
def unpackFromSlice (src : List UInt8) : Result Ticket := do
  let input ← arrayRef src OBLIGATION_LEN
  let (version, input) := input.splitAt 1
  let (lastUpdateSlot, input) := input.splitAt 8
  let (lastUpdateStale, input) := input.splitAt 1
  let (poolManager, input) := input.splitAt 32
  let (owner, input) := input.splitAt 32
  let (depositedValue, input) := input.splitAt 16
  let (depositsLen, input) := input.splitAt 1
  let (unclaimedMine, dataFlat) := input.splitAt 16
  let version := u8FromLe version
  ensure (¬PROGRAM_VERSION < version) ProgramError.invalidAccountData
  let depositsLen := u8FromLe depositsLen
  let deposits ← unpackEntries OBLIGATION_COLLATERAL_LEN TicketCollateral.unpack
    depositsLen.toNat dataFlat
  return {
    version
    lastUpdate := { slot := u64FromLe lastUpdateSlot, stale := ← unpackBool lastUpdateStale }
    poolManager := .ofList poolManager
    owner := .ofList owner
    deposits
    depositedValue := unpackDecimal depositedValue
    unclaimedMine := unpackDecimal unclaimedMine }

/-- Every `Decimal` of the ticket, its deposits' included, fits the 128-bit packed form. -/
def DecimalsFit (t : Ticket) : Prop :=
  t.depositedValue.val < 2 ^ 128 ∧ t.unclaimedMine.val < 2 ^ 128 ∧
    ∀ c ∈ t.deposits, c.DecimalsFit

instance (t : Ticket) : Decidable t.DecimalsFit :=
  inferInstanceAs (Decidable (_ ∧ _ ∧ ∀ c ∈ t.deposits, c.DecimalsFit))

theorem unpackFromSlice_packIntoSlice (t : Ticket) {dst : List UInt8}
    (length : dst.length = OBLIGATION_LEN) (current : t.version ≤ PROGRAM_VERSION)
    (few : t.deposits.length ≤ MAX_OBLIGATION_RESERVES) (fit : t.DecimalsFit) :
    (t.packIntoSlice dst >>= unpackFromSlice) = .ok t := by
  obtain ⟨value, mine, deposits⟩ := fit
  have room : OBLIGATION_COLLATERAL_LEN * t.deposits.length ≤ (dst.drop 107).length := by
    simp only [List.length_drop, length, OBLIGATION_COLLATERAL_LEN, OBLIGATION_LEN]
    unfold MAX_OBLIGATION_RESERVES at few
    omega
  have count : t.deposits.length < 256 := by unfold MAX_OBLIGATION_RESERVES at few; omega
  obtain ⟨dataFlat, packed⟩ := packEntries_ok room fun c member =>
    ⟨_, TicketCollateral.pack_eq_ok.mpr ⟨deposits c member, rfl⟩⟩
  obtain ⟨decoded, dataLength⟩ := unpackEntries_packEntries TicketCollateral.entryCodec packed
  have tail : dst.drop OBLIGATION_LEN = [] := List.drop_eq_nil_of_le (Nat.le_of_eq length)
  simp only [packIntoSlice, arrayRef_of_length length, packDecimal_of_lt value,
    packDecimal_of_lt mine, u8TryFromUnwrap_of_lt count, packed, ok_bind, pure_eq_ok]
  rw [unpackFromSlice, arrayRef_of_length (by simp [dataLength, length, OBLIGATION_LEN])]
  simp only [List.append_assoc, splitAt_append_of_length, List.length_singleton,
    Bytes32.length_toList, length_u64ToLe, length_packBool, length_toLE, u8FromLe_singleton,
    Bytes32.ofList_toList, u64FromLe_u64ToLe, unpackBool_packBool, unpackDecimal_toLE value,
    unpackDecimal_toLE mine, ensure_of_true (UInt8.not_lt.mpr current), ok_bind, tail,
    List.append_nil, UInt8.toNat_ofNat_of_lt count, decoded, pure_eq_ok]

theorem packIntoSlice_unpackFromSlice {src : List UInt8} {t : Ticket}
    (length : src.length = OBLIGATION_LEN) (decoded : unpackFromSlice src = .ok t) :
    t.packIntoSlice src = .ok src := by
  rw [unpackFromSlice, arrayRef_of_length length, ok_bind] at decoded
  dsimp only at decoded
  simp only [ensure_bind_ok] at decoded
  obtain ⟨-, decoded⟩ := decoded
  obtain ⟨deposits, depositsOk, decoded⟩ := bind_ok decoded
  obtain ⟨stale, staleOk, decoded⟩ := bind_ok decoded
  cases decoded
  simp only [List.splitAt_eq, List.drop_drop, Nat.reduceAdd] at depositsOk staleOk
  have tail : src.drop 827 = [] := List.drop_eq_nil_of_le (Nat.le_of_eq length)
  rw [packIntoSlice, arrayRef_of_length length]
  simp [List.splitAt_eq, unpackEntries_length depositsOk,
    packEntries_unpackEntries TicketCollateral.entryCodec depositsOk, packBool_unpackBool staleOk,
    packDecimal_unpackDecimal, u64ToLe_u64FromLe, Bytes32.toList_ofList, singleton_u8FromLe,
    u8FromLe_cons, take_drop_append_drop, length, tail, OBLIGATION_LEN, -List.drop_one]

/-- A decoded ticket has a version this code reads. -/
theorem unpackFromSlice_current {src : List UInt8} {t : Ticket}
    (length : src.length = OBLIGATION_LEN) (decoded : unpackFromSlice src = .ok t) :
    t.version ≤ PROGRAM_VERSION := by
  rw [unpackFromSlice, arrayRef_of_length length, ok_bind] at decoded
  dsimp only at decoded
  simp only [ensure_bind_ok] at decoded
  obtain ⟨current, decoded⟩ := decoded
  obtain ⟨_, -, decoded⟩ := bind_ok decoded
  obtain ⟨_, -, decoded⟩ := bind_ok decoded
  cases decoded
  exact UInt8.not_lt.mp current

/-- A ticket that packed has at most `MAX_OBLIGATION_RESERVES` deposits and fits the layout;
packing keeps the buffer's length and writes the version first. -/
theorem packIntoSlice_ok {t : Ticket} {dst out : List UInt8}
    (length : dst.length = OBLIGATION_LEN) (packed : t.packIntoSlice dst = .ok out) :
    t.deposits.length ≤ MAX_OBLIGATION_RESERVES ∧ t.DecimalsFit ∧
      out.length = OBLIGATION_LEN ∧ out.head? = some t.version := by
  rw [packIntoSlice, arrayRef_of_length length, ok_bind] at packed
  obtain ⟨_, value, packed⟩ := bind_ok packed
  obtain ⟨_, -, packed⟩ := bind_ok packed
  obtain ⟨_, mine, packed⟩ := bind_ok packed
  obtain ⟨dataFlat, deposits, packed⟩ := bind_ok packed
  cases packed
  obtain ⟨valueFit, rfl⟩ := packDecimal_eq_ok.mp value
  obtain ⟨mineFit, rfl⟩ := packDecimal_eq_ok.mp mine
  obtain ⟨room, packs⟩ := packEntries_room deposits
  have dataLength := (unpackEntries_packEntries TicketCollateral.entryCodec deposits).2
  have tail : dst.drop OBLIGATION_LEN = [] := List.drop_eq_nil_of_le (Nat.le_of_eq length)
  refine ⟨?_, ⟨valueFit, mineFit, fun c member => ?_⟩, ?_, rfl⟩
  · simp only [List.length_drop, List.length_take, length, OBLIGATION_COLLATERAL_LEN,
      OBLIGATION_LEN] at room
    unfold MAX_OBLIGATION_RESERVES; omega
  · obtain ⟨_, packedEntry⟩ := packs c member
    exact (TicketCollateral.pack_eq_ok.mp packedEntry).1
  · simp [dataLength, tail, length, OBLIGATION_LEN]

/-- Decoding a buffer of the layout's length panics exactly when the version passes and the
deposit count byte is above `MAX_OBLIGATION_RESERVES`. -/
theorem unpackFromSlice_eq_panic_iff {src : List UInt8} (length : src.length = OBLIGATION_LEN) :
    unpackFromSlice src = .error .panic ↔
      u8FromLe (src.take 1) ≤ PROGRAM_VERSION ∧
        MAX_OBLIGATION_RESERVES < (u8FromLe ((src.drop 90).take 1)).toNat := by
  have region : (src.drop 107).length = OBLIGATION_COLLATERAL_LEN * MAX_OBLIGATION_RESERVES := by
    simp [length, OBLIGATION_LEN, OBLIGATION_COLLATERAL_LEN, MAX_OBLIGATION_RESERVES]
  rw [unpackFromSlice, arrayRef_of_length length, ok_bind]
  dsimp only
  simp only [List.splitAt_eq, List.drop_drop, Nat.reduceAdd]
  by_cases current : u8FromLe (src.take 1) ≤ PROGRAM_VERSION
  · rw [ensure_of_true (UInt8.not_lt.mpr current), ok_bind]
    by_cases many : MAX_OBLIGATION_RESERVES < (u8FromLe ((src.drop 90).take 1)).toNat
    · have short : (src.drop 107).length <
          OBLIGATION_COLLATERAL_LEN * (u8FromLe ((src.drop 90).take 1)).toNat := by
        rw [region]; unfold OBLIGATION_COLLATERAL_LEN MAX_OBLIGATION_RESERVES at *; omega
      simp [current, many, unpackEntries_eq_panic short]
    · obtain ⟨deposits, decoded⟩ : ∃ es, unpackEntries OBLIGATION_COLLATERAL_LEN
          TicketCollateral.unpack (u8FromLe ((src.drop 90).take 1)).toNat (src.drop 107) = .ok es :=
        unpackEntries_ok (by rw [region]; unfold OBLIGATION_COLLATERAL_LEN at *; omega)
      rw [decoded, ok_bind]
      exact iff_of_false (bind_ne_panic (unpackBool_ne_panic _) fun _ => nofun) (fun h => many h.2)
  · rw [ensure_of_false (fun passes => current (UInt8.not_lt.mp passes)), error_bind]
    exact iff_of_false nofun (fun h => current h.1)

theorem unpackFromSlice_panics_on_eleven_deposits :
    unpackFromSlice (List.replicate 90 0 ++ 11 :: List.replicate 736 0) = .error .panic := by
  have length : (List.replicate 90 (0 : UInt8) ++ 11 :: List.replicate 736 0).length =
      OBLIGATION_LEN := by
    simp only [List.length_append, List.length_cons, List.length_replicate]; rfl
  exact (unpackFromSlice_eq_panic_iff length).mpr ⟨by decide, by decide⟩

end Ticket

end AllwinPooling
