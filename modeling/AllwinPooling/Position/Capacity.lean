import AllwinPooling.Codec.Ticket
import AllwinPooling.Codec.Mining
import Mathlib.Logic.Relation
import Mathlib.Data.List.Nodup

/-!
# Position lists

A ticket's deposits and a mining record's entries are position lists: one entry per pool, at
most ten. Every call on them rewrites an entry in place, removes one, or appends one for a pool
not yet listed while a slot is free, so a list that starts without a repeated pool and within its
slots stays so, and `pack_into_slice` always has room for it.
-/

namespace AllwinPooling

section
variable {α σ : Type} (key : α → Pubkey) (limit : Nat)

/-- A position list names each pool at most once and has at most `limit` entries. -/
def PositionsValid (l : List α) : Prop :=
  (l.map key).Nodup ∧ l.length ≤ limit

/-- What one call may do to a position list: rewrite an entry in place keeping its pool, remove
an entry, or append one for a pool not yet listed while a slot is free. -/
inductive PositionChange : List α → List α → Prop
  | rewrite {l : List α} {i : Nat} {e : α} (inRange : i < l.length) (same : key e = key l[i]) :
      PositionChange l (l.set i e)
  | remove (l : List α) (i : Nat) : PositionChange l (l.eraseIdx i)
  | append {l : List α} {e : α} (absent : key e ∉ l.map key) (room : l.length < limit) :
      PositionChange l (l ++ [e])

/-- What a find-or-add on the position list `l` of a record is for: the entry of pool `r` and its
position, with the record kept when `r` is listed, or `update` applied to the list with `new`
appended when it is not and a slot is free; otherwise the error `full`. -/
def FindsOrAdds (full : PoolingError) (l : List α) (update : List α → σ) (r : Pubkey) (new : α) :
    Result (α × Nat × σ) → Prop
  | .ok (e, i, s) => ∃ l', s = update l' ∧ l'[i]? = some e ∧ key e = r ∧
      (∀ j d, l'[j]? = some d → key d = r → j = i) ∧
      (r ∈ l.map key ∧ l' = l ∨ r ∉ l.map key ∧ l.length < limit ∧ e = new ∧ l' = l ++ [new])
  | .error err => r ∉ l.map key ∧ limit ≤ l.length ∧ err = full

variable {key limit}

theorem map_set_of_key {l : List α} {i : Nat} {e : α} (inRange : i < l.length)
    (same : key e = key l[i]) : (l.set i e).map key = l.map key := by
  apply List.ext_getElem (by simp)
  intro j _ _
  by_cases here : i = j
  · subst here; simp [same]
  · simp [List.getElem_set, here]

theorem PositionChange.valid {l l' : List α} (change : PositionChange key limit l l')
    (valid : PositionsValid key limit l) : PositionsValid key limit l' := by
  obtain ⟨unique, bounded⟩ := valid
  cases change with
  | rewrite inRange same =>
    exact ⟨by rw [map_set_of_key inRange same]; exact unique,
      by rw [List.length_set]; exact bounded⟩
  | remove i =>
    exact ⟨unique.sublist ((List.eraseIdx_sublist l i).map key),
      Nat.le_trans (List.length_eraseIdx_le l i) bounded⟩
  | append absent room =>
    refine ⟨?_, by rw [List.length_append, List.length_singleton]; exact room⟩
    rw [List.map_append, List.map_singleton, List.nodup_append]
    exact ⟨unique, List.nodup_singleton _, fun k member single =>
      absent (List.mem_singleton.mp single ▸ member)⟩

theorem PositionsValid.reflGen {l l' : List α}
    (changed : Relation.ReflGen (PositionChange key limit) l l')
    (valid : PositionsValid key limit l) :
    PositionsValid key limit l' := by
  cases changed with
  | refl => exact valid
  | single change => exact change.valid valid

theorem findIdx?_key_some {l : List α} {r : Pubkey} {i : Nat}
    (found : l.findIdx? (fun e => key e = r) = some i) :
    ∃ inRange : i < l.length, key l[i] = r := by
  obtain ⟨inRange, named, -⟩ := List.findIdx?_eq_some_iff_getElem.mp found
  exact ⟨inRange, of_decide_eq_true named⟩

theorem findIdx?_key_none {l : List α} {r : Pubkey}
    (absent : l.findIdx? (fun e => key e = r) = none) : r ∉ l.map key := by
  rw [List.findIdx?_eq_none_iff] at absent
  intro member
  obtain ⟨e, member, named⟩ := List.mem_map.mp member
  exact of_decide_eq_false (absent e member) named

/-! ### The three outcomes of a find-or-add -/

variable {full : PoolingError} {update : List α → σ} {r : Pubkey} {new : α}

theorem findsOrAdds_listed {l : List α} {i : Nat} (unique : (l.map key).Nodup)
    (found : l.findIdx? (fun e => key e = r) = some i) (inRange : i < l.length) :
    FindsOrAdds key limit full l update r new (.ok (l[i], i, update l)) := by
  obtain ⟨_, named⟩ := findIdx?_key_some found
  refine ⟨l, rfl, List.getElem?_eq_getElem inRange, named, fun j d at_j named' => ?_,
    .inl ⟨List.mem_map.mpr ⟨l[i], List.getElem_mem inRange, named⟩, rfl⟩⟩
  have keys : (l.map key)[i]? = (l.map key)[j]? := by
    rw [List.getElem?_map, List.getElem?_map, List.getElem?_eq_getElem inRange, at_j]
    simp [named, named']
  exact (List.getElem?_inj (by simpa using inRange) unique keys).symm

theorem findsOrAdds_appended {l : List α} (absent : l.findIdx? (fun e => key e = r) = none)
    (room : l.length < limit) (named : key new = r) :
    FindsOrAdds key limit full l update r new (.ok (new, l.length, update (l ++ [new]))) := by
  have unlisted := findIdx?_key_none absent
  refine ⟨l ++ [new], rfl, by simp, named, fun j d at_j named' => ?_,
    .inr ⟨unlisted, room, rfl, rfl⟩⟩
  by_cases before : j < l.length
  · rw [List.getElem?_append_left before] at at_j
    exact absurd (List.mem_map.mpr ⟨d, List.mem_iff_getElem?.mpr ⟨j, at_j⟩, named'⟩) unlisted
  · rw [List.getElem?_append_right (by omega)] at at_j
    have : j - l.length < 1 := (List.getElem?_eq_some_iff.mp at_j).1
    omega

theorem findsOrAdds_full {l : List α} (absent : l.findIdx? (fun e => key e = r) = none)
    (noRoom : ¬l.length < limit) :
    FindsOrAdds key limit full l update r new (.error full) :=
  ⟨findIdx?_key_none absent, Nat.le_of_not_lt noRoom, rfl⟩

end

/-! ### Tickets -/

namespace Ticket

/-- One call on a ticket's deposits, at any index: `find_or_add_collateral_to_deposits`,
`deposit`, `withdraw` or `refresh_deposit_unclaimed`. -/
inductive PositionStep (t : Ticket) : Ticket → Prop
  | findOrAdd {t' : Ticket} (depositReserve : Pubkey) (lTokenMiningIndex : Decimal)
      (c : TicketCollateral) (i : Nat) :
      t.findOrAddCollateralToDeposits depositReserve lTokenMiningIndex = .ok (c, i, t') →
      PositionStep t t'
  | deposit {t' : Ticket} (index : Nat) (collateralAmount : U64) :
      t.deposit index collateralAmount = .ok t' → PositionStep t t'
  | withdraw {t' : Ticket} (withdrawAmount : U64) (collateralIndex : Nat) :
      t.withdraw withdrawAmount collateralIndex = .ok t' → PositionStep t t'
  | refresh {t' : Ticket} (liquidityIndex : Nat) (reserve : Pool) :
      t.refreshDepositUnclaimed liquidityIndex reserve = .ok t' → PositionStep t t'

theorem findOrAddCollateralToDeposits_finds {t : Ticket} {depositReserve : Pubkey}
    {lTokenMiningIndex : Decimal} (unique : (t.deposits.map (·.depositReserve)).Nodup) :
    FindsOrAdds (·.depositReserve) MAX_OBLIGATION_RESERVES .obligationReserveLimit t.deposits
      (fun deposits => { t with deposits }) depositReserve
      (TicketCollateral.new depositReserve lTokenMiningIndex)
      (t.findOrAddCollateralToDeposits depositReserve lTokenMiningIndex) := by
  unfold findOrAddCollateralToDeposits findCollateralIndexInDeposits
  split
  · next i found =>
    obtain ⟨inRange, -⟩ := findIdx?_key_some found
    rw [listIndex_of_lt inRange]
    exact findsOrAdds_listed unique found inRange
  · next absent =>
    by_cases room : t.deposits.length < MAX_OBLIGATION_RESERVES
    · rw [ensure_of_true room]
      exact findsOrAdds_appended absent room rfl
    · rw [ensure_of_false room]
      exact findsOrAdds_full absent room

theorem PositionStep.changes {t t' : Ticket} (step : t.PositionStep t') :
    Relation.ReflGen (PositionChange (·.depositReserve) MAX_OBLIGATION_RESERVES)
      t.deposits t'.deposits := by
  cases step with
  | findOrAdd depositReserve lTokenMiningIndex c i found =>
    unfold findOrAddCollateralToDeposits findCollateralIndexInDeposits at found
    split at found
    · obtain ⟨_, -, found⟩ := bind_ok found
      cases found
      exact .refl
    · obtain ⟨room, found⟩ := ensure_bind_ok.mp found
      cases found
      exact .single (.append (findIdx?_key_none (by assumption)) room)
  | deposit index amount deposited =>
    obtain ⟨c, at_index, deposited⟩ := bind_ok deposited
    obtain ⟨inRange, rfl⟩ := listIndex_eq_ok.mp at_index
    obtain ⟨_, -, deposited⟩ := bind_ok deposited
    cases deposited
    exact .single (.rewrite inRange rfl)
  | withdraw amount index withdrawn =>
    obtain ⟨c, at_index, withdrawn⟩ := bind_ok withdrawn
    obtain ⟨inRange, rfl⟩ := listIndex_eq_ok.mp at_index
    split at withdrawn
    · cases withdrawn
      exact .single (.remove _ _)
    · obtain ⟨_, -, withdrawn⟩ := bind_ok withdrawn
      cases withdrawn
      exact .single (.rewrite inRange rfl)
  | refresh index reserve refreshed =>
    obtain ⟨c, at_index, refreshed⟩ := bind_ok refreshed
    obtain ⟨inRange, rfl⟩ := listIndex_eq_ok.mp at_index
    obtain ⟨_, -, refreshed⟩ := bind_ok refreshed
    cases refreshed
    exact .single (.rewrite inRange rfl)

theorem positionsValid_of_steps {t t' : Ticket} (run : Relation.ReflTransGen PositionStep t t')
    (valid : PositionsValid (·.depositReserve) MAX_OBLIGATION_RESERVES t.deposits) :
    PositionsValid (·.depositReserve) MAX_OBLIGATION_RESERVES t'.deposits := by
  induction run with
  | refl => exact valid
  | tail _ step ih => exact ih.reflGen step.changes

end Ticket

/-! ### Mining records -/

namespace Mining

/-- One call on a mining record's entries, at any index: `find_or_add_reserve_in_vec`,
`deposit`, `withdraw` or `refresh_unclaimed`. -/
inductive PositionStep (m : Mining) : Mining → Prop
  | findOrAdd {m' : Mining} (reserve : Pubkey) (lTokenMiningIndex : Decimal) (e : MiningIndex)
      (i : Nat) :
      m.findOrAddReserveInVec reserve lTokenMiningIndex = .ok (e, i, m') → PositionStep m m'
  | deposit {m' : Mining} (index : Nat) (amount : U64) :
      m.deposit index amount = .ok m' → PositionStep m m'
  | withdraw {m' : Mining} (index : Nat) (amount : U64) :
      m.withdraw index amount = .ok m' → PositionStep m m'
  | refresh {m' : Mining} (index : Nat) (reserve : Pool) :
      m.refreshUnclaimed index reserve = .ok m' → PositionStep m m'

theorem findOrAddReserveInVec_finds {m : Mining} {reserve : Pubkey} {lTokenMiningIndex : Decimal}
    (unique : (m.miningIndices.map (·.reserve)).Nodup) :
    FindsOrAdds (·.reserve) MAX_MINING_VOLUME .miningVolumeLimit m.miningIndices
      (fun miningIndices => { m with miningIndices }) reserve
      (MiningIndex.new reserve lTokenMiningIndex)
      (m.findOrAddReserveInVec reserve lTokenMiningIndex) := by
  unfold findOrAddReserveInVec findIndexInMiningIndices
  split
  · next i found =>
    obtain ⟨inRange, -⟩ := findIdx?_key_some found
    rw [listIndex_of_lt inRange]
    exact findsOrAdds_listed unique found inRange
  · next absent =>
    by_cases room : m.miningIndices.length < MAX_MINING_VOLUME
    · rw [ensure_of_true room]
      exact findsOrAdds_appended absent room rfl
    · rw [ensure_of_false room]
      exact findsOrAdds_full absent room

theorem PositionStep.changes {m m' : Mining} (step : m.PositionStep m') :
    Relation.ReflGen (PositionChange (·.reserve) MAX_MINING_VOLUME)
      m.miningIndices m'.miningIndices := by
  cases step with
  | findOrAdd reserve lTokenMiningIndex e i found =>
    unfold findOrAddReserveInVec findIndexInMiningIndices at found
    split at found
    · obtain ⟨_, -, found⟩ := bind_ok found
      cases found
      exact .refl
    · obtain ⟨room, found⟩ := ensure_bind_ok.mp found
      cases found
      exact .single (.append (findIdx?_key_none (by assumption)) room)
  | deposit index amount deposited =>
    obtain ⟨e, at_index, deposited⟩ := bind_ok deposited
    obtain ⟨inRange, rfl⟩ := listIndex_eq_ok.mp at_index
    obtain ⟨_, -, deposited⟩ := bind_ok deposited
    cases deposited
    exact .single (.rewrite inRange rfl)
  | withdraw index amount withdrawn =>
    obtain ⟨e, at_index, withdrawn⟩ := bind_ok withdrawn
    obtain ⟨inRange, rfl⟩ := listIndex_eq_ok.mp at_index
    split at withdrawn
    · cases withdrawn
      exact .single (.remove _ _)
    · obtain ⟨_, -, withdrawn⟩ := bind_ok withdrawn
      cases withdrawn
      exact .single (.rewrite inRange rfl)
  | refresh index reserve refreshed =>
    iterate 2 obtain ⟨_, -, refreshed⟩ := bind_ok refreshed
    obtain ⟨e, at_index, refreshed⟩ := bind_ok refreshed
    obtain ⟨inRange, rfl⟩ := listIndex_eq_ok.mp at_index
    cases refreshed
    exact .single (.rewrite inRange rfl)

theorem positionsValid_of_steps {m m' : Mining} (run : Relation.ReflTransGen PositionStep m m')
    (valid : PositionsValid (·.reserve) MAX_MINING_VOLUME m.miningIndices) :
    PositionsValid (·.reserve) MAX_MINING_VOLUME m'.miningIndices := by
  induction run with
  | refl => exact valid
  | tail _ step ih => exact ih.reflGen step.changes

end Mining

/-! ### Both position lists -/

theorem position_lists_stay_unique_within_capacity :
    (∀ t t' : Ticket, PositionsValid (·.depositReserve) MAX_OBLIGATION_RESERVES t.deposits →
      Relation.ReflTransGen Ticket.PositionStep t t' →
      PositionsValid (·.depositReserve) MAX_OBLIGATION_RESERVES t'.deposits ∧
        ∀ dst, dst.length = OBLIGATION_LEN → t'.version ≤ PROGRAM_VERSION → t'.DecimalsFit →
          (t'.packIntoSlice dst >>= Ticket.unpackFromSlice) = .ok t') ∧
    (∀ (t : Ticket) depositReserve lTokenMiningIndex,
      PositionsValid (·.depositReserve) MAX_OBLIGATION_RESERVES t.deposits →
      FindsOrAdds (·.depositReserve) MAX_OBLIGATION_RESERVES .obligationReserveLimit t.deposits
        (fun deposits => { t with deposits }) depositReserve
        ⟨lTokenMiningIndex, depositReserve, 0, Decimal.zero⟩
        (t.findOrAddCollateralToDeposits depositReserve lTokenMiningIndex)) ∧
    (∀ m m' : Mining, PositionsValid (·.reserve) MAX_MINING_VOLUME m.miningIndices →
      Relation.ReflTransGen Mining.PositionStep m m' →
      PositionsValid (·.reserve) MAX_MINING_VOLUME m'.miningIndices ∧
        ∀ dst, dst.length = MINING_LEN → m'.version ≤ PROGRAM_VERSION → m'.DecimalsFit →
          (m'.packIntoSlice dst >>= Mining.unpackFromSlice) = .ok m') ∧
    (∀ (m : Mining) reserve lTokenMiningIndex,
      PositionsValid (·.reserve) MAX_MINING_VOLUME m.miningIndices →
      FindsOrAdds (·.reserve) MAX_MINING_VOLUME .miningVolumeLimit m.miningIndices
        (fun miningIndices => { m with miningIndices }) reserve ⟨reserve, 0, lTokenMiningIndex⟩
        (m.findOrAddReserveInVec reserve lTokenMiningIndex)) := by
  refine ⟨fun t t' valid run => ?_,
    fun t _ _ valid => Ticket.findOrAddCollateralToDeposits_finds valid.1,
    fun m m' valid run => ?_, fun m _ _ valid => Mining.findOrAddReserveInVec_finds valid.1⟩
  · have valid' := Ticket.positionsValid_of_steps run valid
    exact ⟨valid', fun dst length current fit =>
      Ticket.unpackFromSlice_packIntoSlice t' length current valid'.2 fit⟩
  · have valid' := Mining.positionsValid_of_steps run valid
    exact ⟨valid', fun dst length current fit =>
      Mining.unpackFromSlice_packIntoSlice m' length current valid'.2 fit⟩

/-- A ticket of ten deposits, one per pool: every slot is taken. -/
def tenDepositTicket : Ticket :=
  { layoutTicket with
    deposits := (List.range 10).map fun i => ⟨Decimal.one, layoutKey (10 * i), 100, Decimal.zero⟩ }

/-- The three-deposit ticket finds the pool of its second deposit, adds a fourth pool and deposits
into it, and stays valid; the ten-deposit ticket refuses an eleventh pool. -/
theorem layout_ticket_positions_stay_valid :
    let grown : Ticket := { layoutTicket with
      deposits := layoutTicket.deposits ++
        [{ TicketCollateral.new (layoutKey 170) Decimal.one with depositedAmount := 50 }] }
    Relation.ReflTransGen Ticket.PositionStep layoutTicket grown ∧
      PositionsValid (·.depositReserve) MAX_OBLIGATION_RESERVES grown.deposits ∧
      (∀ dst, dst.length = OBLIGATION_LEN → grown.version ≤ PROGRAM_VERSION → grown.DecimalsFit →
        (grown.packIntoSlice dst >>= Ticket.unpackFromSlice) = .ok grown) ∧
      ∃ err, tenDepositTicket.findOrAddCollateralToDeposits (layoutKey 170) Decimal.one =
          .error err ∧
        layoutKey 170 ∉ tenDepositTicket.deposits.map (·.depositReserve) ∧
        MAX_OBLIGATION_RESERVES ≤ tenDepositTicket.deposits.length ∧
        err = PoolingError.obligationReserveLimit := by
  have valid : PositionsValid (·.depositReserve) MAX_OBLIGATION_RESERVES layoutTicket.deposits :=
    ⟨by decide, by decide⟩
  obtain ⟨c, found⟩ : ∃ c, layoutTicket.findOrAddCollateralToDeposits (layoutKey 80) Decimal.one =
      .ok (c, 1, layoutTicket) := ⟨_, rfl⟩
  intro grown
  let added : Ticket := { layoutTicket with
    deposits := layoutTicket.deposits ++ [TicketCollateral.new (layoutKey 170) Decimal.one] }
  have appended : Ticket.PositionStep layoutTicket added :=
    .findOrAdd (layoutKey 170) Decimal.one _ 3 rfl
  have deposited : Ticket.PositionStep added grown := .deposit 3 50 rfl
  have run : Relation.ReflTransGen Ticket.PositionStep layoutTicket grown :=
    .tail (.tail (.single (.findOrAdd _ _ c 1 found)) appended) deposited
  obtain ⟨valid', codec⟩ := position_lists_stay_unique_within_capacity.1 _ _ valid run
  have full := position_lists_stay_unique_within_capacity.2.1 tenDepositTicket (layoutKey 170)
    Decimal.one ⟨by decide, by decide⟩
  have refused : tenDepositTicket.findOrAddCollateralToDeposits (layoutKey 170) Decimal.one =
      .error PoolingError.obligationReserveLimit := rfl
  rw [refused] at full
  exact ⟨run, valid', codec, _, refused, full⟩

/-! ### Withdrawing a deposit -/

section
variable {α : Type}

theorem eraseIdx_set_self (l : List α) (i : Nat) (x : α) :
    (l.set i x).eraseIdx i = l.eraseIdx i := by
  induction l generalizing i with
  | nil => rfl
  | cons a rest ih => cases i <;> simp [ih]

theorem set_self_of_eq {l : List α} {i : Nat} {x : α} (inRange : i < l.length) (same : x = l[i]) :
    l.set i x = l := by
  subst same
  induction l generalizing i with
  | nil => cases inRange
  | cons a rest ih =>
    cases i with
    | zero => rfl
    | succ i => exact congrArg (a :: ·) (ih (Nat.lt_of_succ_lt_succ inRange))

end

/-- Taking `amount` back out of `held + amount` takes all of it exactly when nothing was held, and
leaves `held`. -/
theorem take_back {held amount total : U64} (added : checkedAdd held amount = some total) :
    (amount = total ↔ held = 0) ∧ checkedSub total amount = some held := by
  obtain ⟨-, totalVal⟩ := checkedAdd_eq_some.mp added
  refine ⟨⟨fun same => Fin.ext ?_, fun zero => Fin.ext ?_⟩,
    checkedSub_eq_some.mpr ⟨by omega, by omega⟩⟩
  · have := congrArg Fin.val same
    show _ = 0
    omega
  · rw [totalVal, zero]
    exact (Nat.zero_add _).symm

/-- Withdrawing right after depositing the same amount restores the position, of a ticket and of a
mining record alike, except that an entry which held nothing is removed. -/
theorem positions_withdraw_what_was_deposited :
    (∀ (t t' : Ticket) index amount, t.deposit index amount = .ok t' →
      ∃ c, listIndex t.deposits index = .ok c ∧ t'.withdraw amount index =
        .ok (if c.depositedAmount = 0 then { t with deposits := t.deposits.eraseIdx index }
          else t)) ∧
    ∀ (m m' : Mining) index amount, m.deposit index amount = .ok m' →
      ∃ e, listIndex m.miningIndices index = .ok e ∧ m'.withdraw index amount =
        .ok (if e.unCollLTokenAmount = 0 then
            { m with miningIndices := m.miningIndices.eraseIdx index }
          else m) := by
  constructor
  · intro t t' index amount deposited
    obtain ⟨c, atIndex, deposited⟩ := bind_ok deposited
    obtain ⟨total, added, deposited⟩ := bind_ok deposited
    cases deposited
    obtain ⟨inRange, rfl⟩ := listIndex_eq_ok.mp atIndex
    obtain ⟨whole, back⟩ := take_back (okOr_ok added)
    refine ⟨_, atIndex, ?_⟩
    rw [Ticket.withdraw, listIndex_of_lt (by simpa using inRange), ok_bind, List.getElem_set_self]
    by_cases empty : t.deposits[index].depositedAmount = 0
    · rw [if_pos (whole.mpr empty), if_pos empty, eraseIdx_set_self]
      rfl
    · rw [if_neg (mt whole.mp empty), if_neg empty, back, okOr_some, ok_bind, List.set_set,
        set_self_of_eq inRange rfl]
      rfl
  · intro m m' index amount deposited
    obtain ⟨e, atIndex, deposited⟩ := bind_ok deposited
    obtain ⟨total, added, deposited⟩ := bind_ok deposited
    cases deposited
    obtain ⟨inRange, rfl⟩ := listIndex_eq_ok.mp atIndex
    obtain ⟨whole, back⟩ := take_back (okOr_ok added)
    refine ⟨_, atIndex, ?_⟩
    rw [Mining.withdraw, listIndex_of_lt (by simpa using inRange), ok_bind, List.getElem_set_self]
    by_cases empty : m.miningIndices[index].unCollLTokenAmount = 0
    · rw [if_pos (whole.mpr empty), if_pos empty, eraseIdx_set_self]
      rfl
    · rw [if_neg (mt whole.mp empty), if_neg empty, back, okOr_some, ok_bind, List.set_set,
        set_self_of_eq inRange rfl]
      rfl

/-- The mining record with a fourth entry that holds nothing. -/
def layoutMiningWithEmptyEntry : Mining :=
  { layoutMining with
    miningIndices := layoutMining.miningIndices ++ [⟨layoutKey 170, 0, Decimal.one⟩] }

/-- Depositing 50 into the ticket's second deposit and taking it back restores the ticket; the
same into the mining record's empty entry removes that entry. -/
theorem layout_positions_withdraw_what_was_deposited :
    ∃ t' m', layoutTicket.deposit 1 50 = .ok t' ∧ t'.withdraw 50 1 = .ok layoutTicket ∧
      layoutMiningWithEmptyEntry.deposit 3 50 = .ok m' ∧ m'.withdraw 3 50 = .ok layoutMining := by
  obtain ⟨t', deposited⟩ :=
    exists_ok_of_toBool (show (layoutTicket.deposit 1 50).toBool = true by decide)
  obtain ⟨m', minted⟩ :=
    exists_ok_of_toBool (show (layoutMiningWithEmptyEntry.deposit 3 50).toBool = true by decide)
  obtain ⟨c, found, restored⟩ := positions_withdraw_what_was_deposited.1 _ _ _ _ deposited
  obtain ⟨e, found', removed⟩ := positions_withdraw_what_was_deposited.2 _ _ _ _ minted
  have held : (listIndex layoutTicket.deposits 1).toOption.map (·.depositedAmount) = some 300 := by
    decide
  have empty : (listIndex layoutMiningWithEmptyEntry.miningIndices 3).toOption.map
      (·.unCollLTokenAmount) = some 0 := by
    decide
  rw [found] at held
  rw [found'] at empty
  rw [show c.depositedAmount = 300 from Option.some.inj held, if_neg (by decide)] at restored
  rw [show e.unCollLTokenAmount = 0 from Option.some.inj empty, if_pos rfl] at removed
  exact ⟨t', m', deposited, restored, minted, removed⟩

end AllwinPooling
