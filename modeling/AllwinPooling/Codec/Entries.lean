import AllwinPooling.Codec.Bytes

/-!
# List fields

The loops that pack and unpack a record's list field: entry `k` sits at offset `width * k` of the
field's region and is cut with `array_mut_ref!` or `array_ref!`, which panic past the region's
end. Both loops are written once, for any entry codec, with their round trips and their panics.
-/

namespace AllwinPooling

variable {α : Type}

/-- The `for entry in &self.entries` loop of `pack_into_slice`: each entry is written over the
front of the region the entries before it left. -/
def packEntries (width : Nat) (packEntry : α → Result (List UInt8)) :
    List α → List UInt8 → Result (List UInt8)
  | [], dataFlat => .ok dataFlat
  | e :: es, dataFlat => do
    let _ ← arrayRef dataFlat width
    let entry ← packEntry e
    let rest ← packEntries width packEntry es (dataFlat.drop width)
    return entry ++ rest

/-- The `for _ in 0..len` loop of `unpack_from_slice`. -/
def unpackEntries (width : Nat) (unpackEntry : List UInt8 → α) :
    Nat → List UInt8 → Result (List α)
  | 0, _ => .ok []
  | n + 1, dataFlat => do
    let entry ← arrayRef dataFlat width
    let rest ← unpackEntries width unpackEntry n (dataFlat.drop width)
    return unpackEntry entry :: rest

/-- The laws of an entry codec of fixed `width` that the loops need. -/
structure EntryCodec (width : Nat) (packEntry : α → Result (List UInt8))
    (unpackEntry : List UInt8 → α) : Prop where
  length_of_pack : ∀ {e bytes}, packEntry e = .ok bytes → bytes.length = width
  unpack_of_pack : ∀ {e bytes}, packEntry e = .ok bytes → unpackEntry bytes = e
  pack_of_unpack : ∀ {bytes}, bytes.length = width → packEntry (unpackEntry bytes) = .ok bytes

section
variable {width : Nat} {packEntry : α → Result (List UInt8)} {unpackEntry : List UInt8 → α}

theorem arrayRef_ok {buf entry : List UInt8} (h : arrayRef buf width = .ok entry) :
    width ≤ buf.length ∧ entry = buf.take width := by
  unfold arrayRef at h
  split at h
  · cases h; exact ⟨‹_›, rfl⟩
  · cases h

theorem arrayRef_of_lt {buf : List UInt8} (short : buf.length < width) :
    arrayRef buf width = .error .panic :=
  if_neg (Nat.not_le.mpr short)

theorem unpackEntries_length {n : Nat} {dataFlat : List UInt8} {es : List α}
    (decoded : unpackEntries width unpackEntry n dataFlat = .ok es) : es.length = n := by
  induction n generalizing dataFlat es with
  | zero => cases decoded; rfl
  | succ n ih =>
    obtain ⟨entry, -, decoded⟩ := bind_ok decoded
    obtain ⟨rest, restOk, decoded⟩ := bind_ok decoded
    cases decoded
    simp [ih restOk]

theorem unpackEntries_eq_panic {n : Nat} {dataFlat : List UInt8}
    (short : dataFlat.length < width * n) :
    unpackEntries width unpackEntry n dataFlat = .error .panic := by
  induction n generalizing dataFlat with
  | zero => simp at short
  | succ n ih =>
    by_cases room : width ≤ dataFlat.length
    · have rest : (dataFlat.drop width).length < width * n := by
        rw [List.length_drop, Nat.mul_succ] at *; omega
      simp [unpackEntries, arrayRef_of_length (List.length_take_of_le room), arrayRef, room,
        ih rest]
    · simp [unpackEntries, arrayRef_of_lt (Nat.lt_of_not_le room)]

theorem unpackEntries_ok {n : Nat} {dataFlat : List UInt8} (room : width * n ≤ dataFlat.length) :
    ∃ es, unpackEntries width unpackEntry n dataFlat = .ok es := by
  induction n generalizing dataFlat with
  | zero => exact ⟨[], rfl⟩
  | succ n ih =>
    have rest : width * n ≤ (dataFlat.drop width).length := by
      rw [List.length_drop, Nat.mul_succ] at *; omega
    obtain ⟨es, decoded⟩ := ih rest
    have first : width ≤ dataFlat.length := by rw [Nat.mul_succ] at room; omega
    exact ⟨unpackEntry (dataFlat.take width) :: es, by simp [unpackEntries, arrayRef, first, decoded]⟩

theorem packEntries_ok {es : List α} {dataFlat : List UInt8}
    (room : width * es.length ≤ dataFlat.length)
    (packs : ∀ e ∈ es, ∃ bytes, packEntry e = .ok bytes) :
    ∃ out, packEntries width packEntry es dataFlat = .ok out := by
  induction es generalizing dataFlat with
  | nil => exact ⟨_, rfl⟩
  | cons e es ih =>
    have rest : width * es.length ≤ (dataFlat.drop width).length := by
      rw [List.length_drop]; rw [List.length_cons, Nat.mul_succ] at room; omega
    have first : width ≤ dataFlat.length := by
      rw [List.length_cons, Nat.mul_succ] at room; omega
    obtain ⟨bytes, packed⟩ := packs e (List.mem_cons_self e es)
    obtain ⟨out, restPacked⟩ := ih rest fun e member => packs e (List.mem_cons_of_mem _ member)
    exact ⟨bytes ++ out, by simp [packEntries, arrayRef, first, packed, restPacked]⟩

/-- A loop that packed every entry had room for all of them, and each entry packed. -/
theorem packEntries_room {es : List α} {dataFlat out : List UInt8}
    (packed : packEntries width packEntry es dataFlat = .ok out) :
    width * es.length ≤ dataFlat.length ∧ ∀ e ∈ es, ∃ bytes, packEntry e = .ok bytes := by
  induction es generalizing dataFlat out with
  | nil => exact ⟨by simp, nofun⟩
  | cons e es ih =>
    obtain ⟨_, first, packed⟩ := bind_ok packed
    obtain ⟨entry, entryPacked, packed⟩ := bind_ok packed
    obtain ⟨rest, restPacked, -⟩ := bind_ok packed
    have width_le := (arrayRef_ok first).1
    obtain ⟨room, packs⟩ := ih restPacked
    refine ⟨?_, ?_⟩
    · rw [List.length_drop] at room; rw [List.length_cons, Nat.mul_succ]; omega
    · rintro e' (_ | ⟨_, member⟩)
      exacts [⟨entry, entryPacked⟩, packs e' member]

variable (codec : EntryCodec width packEntry unpackEntry)
include codec

theorem unpackEntries_packEntries {es : List α} {dataFlat out : List UInt8}
    (packed : packEntries width packEntry es dataFlat = .ok out) :
    unpackEntries width unpackEntry es.length out = .ok es ∧ out.length = dataFlat.length := by
  induction es generalizing dataFlat out with
  | nil => cases packed; exact ⟨rfl, rfl⟩
  | cons e es ih =>
    obtain ⟨_, first, packed⟩ := bind_ok packed
    obtain ⟨entry, entryPacked, packed⟩ := bind_ok packed
    obtain ⟨rest, restPacked, packed⟩ := bind_ok packed
    cases packed
    have width_le := (arrayRef_ok first).1
    have entryLength := codec.length_of_pack entryPacked
    obtain ⟨restDecoded, restLength⟩ := ih restPacked
    refine ⟨?_, by simp [entryLength, restLength]; omega⟩
    simp [unpackEntries, arrayRef, entryLength, List.take_left' entryLength,
      List.drop_left' entryLength, restDecoded, codec.unpack_of_pack entryPacked]

theorem packEntries_unpackEntries {n : Nat} {dataFlat : List UInt8} {es : List α}
    (decoded : unpackEntries width unpackEntry n dataFlat = .ok es) :
    packEntries width packEntry es dataFlat = .ok dataFlat := by
  induction n generalizing dataFlat es with
  | zero => cases decoded; rfl
  | succ n ih =>
    obtain ⟨entry, first, decoded⟩ := bind_ok decoded
    obtain ⟨rest, restDecoded, decoded⟩ := bind_ok decoded
    cases decoded
    obtain ⟨room, rfl⟩ := arrayRef_ok first
    simp [packEntries, first, codec.pack_of_unpack (List.length_take_of_le room), ih restDecoded]

end

end AllwinPooling
