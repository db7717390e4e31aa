import AllwinPooling.Codec.Ticket
import AllwinPooling.State.Mining

/-!
# Mining layout

`impl Pack for Mining`: an 82-byte header and room for `MAX_MINING_VOLUME` entries of 56 bytes,
with the same trusted count byte as the ticket layout.
-/

namespace AllwinPooling

/-- `MINING_LEN`. -/
def MINING_LEN : Nat := 642

/-- `MINING_INDEX_LEN`. -/
def MINING_INDEX_LEN : Nat := 56

namespace MiningIndex

/-- The body of the `pack_into_slice` loop: `reserve`, `un_coll_l_token_amount` and `index` over
56 bytes. -/
def pack (m : MiningIndex) : Result (List UInt8) := do
  let index ← packDecimal m.index
  return m.reserve.toList ++ u64ToLe m.unCollLTokenAmount ++ index

/-- The body of the `unpack_from_slice` loop. -/
def unpack (miningIndexFlat : List UInt8) : MiningIndex :=
  let (reserve, miningIndexFlat) := miningIndexFlat.splitAt 32
  let (unCollLTokenAmount, index) := miningIndexFlat.splitAt 8
  { reserve := .ofList reserve
    unCollLTokenAmount := u64FromLe unCollLTokenAmount
    index := unpackDecimal index }

theorem pack_eq_ok {m : MiningIndex} {bytes : List UInt8} :
    m.pack = .ok bytes ↔
      m.index.val < 2 ^ 128 ∧ bytes = m.reserve.toList ++ u64ToLe m.unCollLTokenAmount ++
        toLE 16 m.index.val := by
  by_cases fit : m.index.val < 2 ^ 128
  · rw [pack, packDecimal_of_lt fit, ok_bind, pure_eq_ok, Except.ok.injEq]
    exact ⟨fun packed => ⟨fit, packed.symm⟩, fun ⟨_, packed⟩ => packed.symm⟩
  · refine iff_of_false (fun packed => ?_) (fun ⟨small, _⟩ => fit small)
    obtain ⟨_, indexOk, -⟩ := bind_ok packed
    exact fit (packDecimal_eq_ok.mp indexOk).1

theorem entryCodec : EntryCodec MINING_INDEX_LEN pack unpack where
  length_of_pack packed := by
    obtain ⟨-, rfl⟩ := pack_eq_ok.mp packed
    simp [MINING_INDEX_LEN]
  unpack_of_pack packed := by
    obtain ⟨fit, rfl⟩ := pack_eq_ok.mp packed
    simp [unpack, List.append_assoc, unpackDecimal_toLE fit]
  pack_of_unpack length := by
    simp [unpack, pack, List.splitAt_eq, packDecimal_unpackDecimal, u64ToLe_u64FromLe,
      Bytes32.toList_ofList, length, MINING_INDEX_LEN, take_drop_append_drop, -List.drop_one]

end MiningIndex

namespace Mining

/-- `pack_into_slice`: the header, then the entries from offset 82. -/
def packIntoSlice (m : Mining) (dst : List UInt8) : Result (List UInt8) := do
  let output ← arrayRef dst MINING_LEN
  let reservesLen ← u8TryFromUnwrap m.miningIndices.length
  let unclaimedMine ← packDecimal m.unclaimedMine
  let dataFlat ← packEntries MINING_INDEX_LEN MiningIndex.pack m.miningIndices (output.drop 82)
  return [m.version] ++ m.owner.toList ++ m.poolManager.toList ++ [reservesLen] ++ unclaimedMine ++
    dataFlat ++ dst.drop MINING_LEN

/-- `unpack_from_slice`: the version check, then the loop over `reserves_len` entries. -/
def unpackFromSlice (src : List UInt8) : Result Mining := do
  let input ← arrayRef src MINING_LEN
  let (version, input) := input.splitAt 1
  let (owner, input) := input.splitAt 32
  let (lendingMarket, input) := input.splitAt 32
  let (reservesLen, input) := input.splitAt 1
  let (unclaimedMine, dataFlat) := input.splitAt 16
  let version := u8FromLe version
  ensure (¬PROGRAM_VERSION < version) ProgramError.invalidAccountData
  let reservesLen := u8FromLe reservesLen
  let miningIndices ← unpackEntries MINING_INDEX_LEN MiningIndex.unpack reservesLen.toNat dataFlat
  return {
    version
    owner := .ofList owner
    poolManager := .ofList lendingMarket
    miningIndices
    unclaimedMine := unpackDecimal unclaimedMine }

/-- Every `Decimal` of the record, its entries' included, fits the 128-bit packed form. -/
def DecimalsFit (m : Mining) : Prop :=
  m.unclaimedMine.val < 2 ^ 128 ∧ ∀ i ∈ m.miningIndices, i.index.val < 2 ^ 128

instance (m : Mining) : Decidable m.DecimalsFit :=
  inferInstanceAs (Decidable (_ ∧ ∀ i ∈ m.miningIndices, i.index.val < 2 ^ 128))

theorem unpackFromSlice_packIntoSlice (m : Mining) {dst : List UInt8}
    (length : dst.length = MINING_LEN) (current : m.version ≤ PROGRAM_VERSION)
    (few : m.miningIndices.length ≤ MAX_MINING_VOLUME) (fit : m.DecimalsFit) :
    (m.packIntoSlice dst >>= unpackFromSlice) = .ok m := by
  obtain ⟨mine, indices⟩ := fit
  have room : MINING_INDEX_LEN * m.miningIndices.length ≤ (dst.drop 82).length := by
    simp only [List.length_drop, length, MINING_INDEX_LEN, MINING_LEN]
    unfold MAX_MINING_VOLUME at few
    omega
  have count : m.miningIndices.length < 256 := by unfold MAX_MINING_VOLUME at few; omega
  obtain ⟨dataFlat, packed⟩ := packEntries_ok room fun i member =>
    ⟨_, MiningIndex.pack_eq_ok.mpr ⟨indices i member, rfl⟩⟩
  obtain ⟨decoded, dataLength⟩ := unpackEntries_packEntries MiningIndex.entryCodec packed
  have tail : dst.drop MINING_LEN = [] := List.drop_eq_nil_of_le (Nat.le_of_eq length)
  simp only [packIntoSlice, arrayRef_of_length length, packDecimal_of_lt mine,
    u8TryFromUnwrap_of_lt count, packed, ok_bind, pure_eq_ok]
  rw [unpackFromSlice, arrayRef_of_length (by simp [dataLength, length, MINING_LEN])]
  simp only [List.append_assoc, splitAt_append_of_length, List.length_singleton,
    Bytes32.length_toList, length_toLE, u8FromLe_singleton, Bytes32.ofList_toList,
    unpackDecimal_toLE mine, ensure_of_true (UInt8.not_lt.mpr current), ok_bind, tail,
    List.append_nil, UInt8.toNat_ofNat_of_lt count, decoded, pure_eq_ok]

theorem packIntoSlice_unpackFromSlice {src : List UInt8} {m : Mining}
    (length : src.length = MINING_LEN) (decoded : unpackFromSlice src = .ok m) :
    m.packIntoSlice src = .ok src := by
  rw [unpackFromSlice, arrayRef_of_length length, ok_bind] at decoded
  dsimp only at decoded
  simp only [ensure_bind_ok] at decoded
  obtain ⟨-, decoded⟩ := decoded
  obtain ⟨indices, indicesOk, decoded⟩ := bind_ok decoded
  cases decoded
  simp only [List.splitAt_eq, List.drop_drop, Nat.reduceAdd] at indicesOk
  have tail : src.drop 642 = [] := List.drop_eq_nil_of_le (Nat.le_of_eq length)
  rw [packIntoSlice, arrayRef_of_length length]
  simp [List.splitAt_eq, unpackEntries_length indicesOk,
    packEntries_unpackEntries MiningIndex.entryCodec indicesOk, packDecimal_unpackDecimal,
    Bytes32.toList_ofList, singleton_u8FromLe, u8FromLe_cons, take_drop_append_drop, length, tail,
    MINING_LEN, -List.drop_one]

/-- Decoding a buffer of the layout's length panics exactly when the version passes and the
entry count byte is above `MAX_MINING_VOLUME`. -/
theorem unpackFromSlice_eq_panic_iff {src : List UInt8} (length : src.length = MINING_LEN) :
    unpackFromSlice src = .error .panic ↔
      u8FromLe (src.take 1) ≤ PROGRAM_VERSION ∧
        MAX_MINING_VOLUME < (u8FromLe ((src.drop 65).take 1)).toNat := by
  have region : (src.drop 82).length = MINING_INDEX_LEN * MAX_MINING_VOLUME := by
    simp [length, MINING_LEN, MINING_INDEX_LEN, MAX_MINING_VOLUME]
  rw [unpackFromSlice, arrayRef_of_length length, ok_bind]
  dsimp only
  simp only [List.splitAt_eq, List.drop_drop, Nat.reduceAdd]
  by_cases current : u8FromLe (src.take 1) ≤ PROGRAM_VERSION
  · rw [ensure_of_true (UInt8.not_lt.mpr current), ok_bind]
    by_cases many : MAX_MINING_VOLUME < (u8FromLe ((src.drop 65).take 1)).toNat
    · have short : (src.drop 82).length <
          MINING_INDEX_LEN * (u8FromLe ((src.drop 65).take 1)).toNat := by
        rw [region]; unfold MINING_INDEX_LEN MAX_MINING_VOLUME at *; omega
      simp [current, many, unpackEntries_eq_panic short]
    · obtain ⟨indices, decoded⟩ : ∃ es, unpackEntries MINING_INDEX_LEN MiningIndex.unpack
          (u8FromLe ((src.drop 65).take 1)).toNat (src.drop 82) = .ok es :=
        unpackEntries_ok (by rw [region]; unfold MINING_INDEX_LEN at *; omega)
      rw [decoded, ok_bind]
      exact iff_of_false nofun (fun h => many h.2)
  · rw [ensure_of_false (fun passes => current (UInt8.not_lt.mp passes)), error_bind]
    exact iff_of_false nofun (fun h => current h.1)

end Mining

/-- The ticket and mining layouts are a bijection between the records that fit them, at most ten
entries included, and the buffers that decode. -/
theorem list_layout_codecs_bijective :
    (∀ (t : Ticket) (dst : List UInt8), dst.length = OBLIGATION_LEN →
      t.version ≤ PROGRAM_VERSION → t.deposits.length ≤ MAX_OBLIGATION_RESERVES →
        t.DecimalsFit → (t.packIntoSlice dst >>= Ticket.unpackFromSlice) = .ok t) ∧
    (∀ (src : List UInt8) (t : Ticket), src.length = OBLIGATION_LEN →
      Ticket.unpackFromSlice src = .ok t → t.packIntoSlice src = .ok src) ∧
    (∀ (m : Mining) (dst : List UInt8), dst.length = MINING_LEN →
      m.version ≤ PROGRAM_VERSION → m.miningIndices.length ≤ MAX_MINING_VOLUME →
        m.DecimalsFit → (m.packIntoSlice dst >>= Mining.unpackFromSlice) = .ok m) ∧
    (∀ (src : List UInt8) (m : Mining), src.length = MINING_LEN →
      Mining.unpackFromSlice src = .ok m → m.packIntoSlice src = .ok src) :=
  ⟨fun t _ length current few fit => t.unpackFromSlice_packIntoSlice length current few fit,
    fun _ _ length decoded => Ticket.packIntoSlice_unpackFromSlice length decoded,
    fun m _ length current few fit => m.unpackFromSlice_packIntoSlice length current few fit,
    fun _ _ length decoded => Mining.packIntoSlice_unpackFromSlice length decoded⟩

/-- A ticket with three deposits whose fields all differ, and none is zero. -/
def layoutTicket : Ticket where
  version := 1
  lastUpdate := ⟨123456789, true⟩
  poolManager := layoutKey 3
  owner := layoutKey 20
  deposits :=
    [⟨⟨10 ^ 30 + 1, by decide⟩, layoutKey 50, 100, ⟨10 ^ 31 + 2, by decide⟩⟩,
      ⟨⟨10 ^ 32 + 3, by decide⟩, layoutKey 80, 300, ⟨10 ^ 33 + 4, by decide⟩⟩,
      ⟨⟨10 ^ 34 + 5, by decide⟩, layoutKey 140, 5000, ⟨10 ^ 35 + 6, by decide⟩⟩]
  depositedValue := ⟨10 ^ 36 + 7, by decide⟩
  unclaimedMine := ⟨10 ^ 37 + 8, by decide⟩

/-- A mining record with three entries whose fields all differ, and none is zero. -/
def layoutMining : Mining where
  version := 1
  owner := layoutKey 20
  poolManager := layoutKey 3
  miningIndices :=
    [⟨layoutKey 50, 100, ⟨10 ^ 30 + 1, by decide⟩⟩, ⟨layoutKey 80, 300, ⟨10 ^ 32 + 3, by decide⟩⟩,
      ⟨layoutKey 140, 5000, ⟨10 ^ 34 + 5, by decide⟩⟩]
  unclaimedMine := ⟨10 ^ 37 + 8, by decide⟩

set_option maxRecDepth 8000 in
/-- Both list codecs on records of three entries whose fields all differ, over buffers that are
not zero: each record packs, decodes back, and packs over its own bytes to those bytes. -/
theorem list_layout_codecs_on_three_entries : ∃ ticketBytes miningBytes,
    layoutTicket.packIntoSlice (List.replicate 827 7) = .ok ticketBytes ∧
    Ticket.unpackFromSlice ticketBytes = .ok layoutTicket ∧
    layoutTicket.packIntoSlice ticketBytes = .ok ticketBytes ∧
    layoutMining.packIntoSlice (List.replicate 642 7) = .ok miningBytes ∧
    Mining.unpackFromSlice miningBytes = .ok layoutMining ∧
    layoutMining.packIntoSlice miningBytes = .ok miningBytes := by
  have ticketLength : (List.replicate 827 (7 : UInt8)).length = OBLIGATION_LEN :=
    List.length_replicate _ _
  have miningLength : (List.replicate 642 (7 : UInt8)).length = MINING_LEN :=
    List.length_replicate _ _
  obtain ⟨ticketBytes, ticketPacked, ticketDecoded⟩ := bind_ok
    (list_layout_codecs_bijective.1 layoutTicket _ ticketLength (by decide) (by decide) (by decide))
  obtain ⟨miningBytes, miningPacked, miningDecoded⟩ := bind_ok
    (list_layout_codecs_bijective.2.2.1 layoutMining _ miningLength (by decide) (by decide)
      (by decide))
  have miningSize : (layoutMining.packIntoSlice (List.replicate 642 7)).toOption.map List.length =
      some MINING_LEN := by
    decide
  rw [miningPacked] at miningSize
  exact ⟨ticketBytes, miningBytes, ticketPacked, ticketDecoded,
    list_layout_codecs_bijective.2.1 _ _ (Ticket.packIntoSlice_ok ticketLength ticketPacked).2.2.1
      ticketDecoded, miningPacked, miningDecoded,
    list_layout_codecs_bijective.2.2.2 _ _ (Option.some.inj miningSize) miningDecoded⟩

end AllwinPooling
