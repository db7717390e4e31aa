import AllwinPooling.Processor.TokenFlow
import AllwinPooling.Reward.Frequency

/-!
# What this program's accounts hold

A successful call writes at most one account: one it was given and this program owns, keeping its
length, and leaving an initialized record there. Along every run each account this program owns is
then zero-filled or holds a pool manager, a pool or a ticket. `InitTicket` therefore always starts
from zeros, and since no instruction adds a deposit to a ticket, every stored ticket stays inert:
no deposits, no value, no rewards. Since no instruction borrows, no stored pool ever credits its
borrowing side.
-/

namespace AllwinPooling

/-- The data holds an initialized pool manager, pool or ticket. -/
def IsRecord (data : List UInt8) : Prop :=
  (∃ m, PoolManager.packable.unpack data = .ok m) ∨ (∃ p, Pool.packable.unpack data = .ok p) ∨
    ∃ t, Ticket.packable.unpack data = .ok t

section
variable {programId : Pubkey} {env : Env} {accounts : List AccountInfo}
  {instruction : PoolingInstruction} {old new : List UInt8} {writes : Writes}

/-- What a rewrite leaves is an initialized record. -/
theorem Rewrite.isRecord (rewrite : Rewrite programId env accounts instruction old new) :
    IsRecord new := by
  cases rewrite with
  | initPoolingManager _ _ _ _ packed =>
    exact .inl ⟨_, PoolManager.packable_lawful.unpack_pack packed
      (show PROGRAM_VERSION ≤ PROGRAM_VERSION by decide)
      (show PROGRAM_VERSION ≠ UNINITIALIZED_VERSION by decide)⟩
  | initPool _ _ _ _ initial _ packed =>
    exact .inr (.inl ⟨_, Pool.packable_lawful.unpack_pack packed (by rw [initial.version]; decide)
      (by rw [initial.version]; decide)⟩)
  | initTicket _ _ _ _ _ packed =>
    exact .inr (.inr ⟨_, Ticket.packable_lawful.unpack_pack packed
      (show PROGRAM_VERSION ≤ PROGRAM_VERSION by decide)
      (show PROGRAM_VERSION ≠ UNINITIALIZED_VERSION by decide)⟩)
  | refreshPool _ _ decoded refreshed packed =>
    exact .inr (.inl ⟨_, Pool.stored_after_step decoded (.inl refreshed) packed⟩)
  | depositPoolLiquidity _ _ decoded deposited packed =>
    exact .inr (.inl ⟨_, Pool.stored_after_step decoded (.inr (.inl deposited)) packed⟩)
  | redeemPoolCollateral _ _ decoded redeemed packed =>
    exact .inr (.inl ⟨_, Pool.stored_after_step decoded (.inr (.inr redeemed)) packed⟩)
  | refreshTicket t _ decoded refreshed packed =>
    obtain ⟨-, _, stored, -⟩ :=
      (Rewrite.refreshTicket t _ decoded refreshed packed).ticket_before decoded
    exact .inr (.inr ⟨_, stored⟩)

/-- A successful call writes at most one account, one it was given and this program owns; it keeps
that account's length and leaves an initialized record in it. -/
theorem calls_write_one_owned_record {input : List UInt8}
    (processed : processInstruction programId env accounts input = .ok writes) :
    writes.length ≤ 1 ∧ ∀ w ∈ writes, ∃ info ∈ accounts, info.key = w.1 ∧
      info.owner = programId ∧ w.2.length = info.data.length ∧ IsRecord w.2 := by
  obtain ⟨_, -, rfl | ⟨info, named, owned, new, rfl, rewrite⟩⟩ := processInstruction_ok processed
  · exact ⟨Nat.zero_le 1, fun _ member => absurd member (List.not_mem_nil _)⟩
  · refine ⟨Nat.le_refl 1, fun w member => ?_⟩
    obtain rfl := List.mem_singleton.mp member
    exact ⟨info, named, rfl, owned, rewrite.length, rewrite.isRecord⟩

theorem sample_deposit_writes_one_owned_record : ∃ writes,
    processInstruction sampleProgram (sampleEnv 0) (sampleSetUp.2.infos (depositSamplePool 0).metas)
        (depositSamplePool 0).input = .ok writes ∧
      writes.length ≤ 1 ∧ ∀ w ∈ writes, ∃ info ∈ sampleSetUp.2.infos (depositSamplePool 0).metas,
        info.key = w.1 ∧ info.owner = sampleProgram ∧ w.2.length = info.data.length ∧
        IsRecord w.2 := by
  obtain ⟨writes, processed⟩ := sampleSetUp_deposit
  exact ⟨writes, processed, calls_write_one_owned_record processed⟩

end

/-! ### Accounts along runs -/

/-- Every account this program owns is zero-filled or holds an initialized record. -/
def BlankOrRecord (programId : Pubkey) (L : Ledger) : Prop :=
  ∀ k, (L k).owner = programId → (∀ b ∈ (L k).data, b = 0) ∨ IsRecord (L k).data

/-- Every ticket this program stores has no deposits, no deposited value and no rewards. -/
def TicketsInert (programId : Pubkey) (L : Ledger) : Prop :=
  ∀ k t, (L k).owner = programId → Ticket.packable.unpack (L k).data = .ok t →
    t.deposits = [] ∧ t.depositedValue = Decimal.zero ∧ t.unclaimedMine = Decimal.zero

set_option maxRecDepth 20000 in
theorem Ticket.zeroed_value :
    (Ticket.packable.unpackUnchecked (List.replicate Ticket.packable.len 0)).toOption.map
        (fun t => (t.deposits, t.depositedValue, t.unclaimedMine)) =
      some ([], Decimal.zero, Decimal.zero) := by
  decide

/-- A ticket read from zeros has no deposits, no value and no rewards. -/
theorem Ticket.of_zeroed {t : Ticket}
    (decoded : Ticket.packable.unpackUnchecked (List.replicate Ticket.packable.len 0) = .ok t) :
    t.deposits = [] ∧ t.depositedValue = Decimal.zero ∧ t.unclaimedMine = Decimal.zero := by
  have value := Ticket.zeroed_value
  rw [decoded] at value
  simpa [Except.toOption] using value

/-- A refresh of a ticket with no deposits reads no pool and only resets the value and the slot. -/
theorem Ticket.Refreshes.of_empty {t t' : Ticket}
    (refreshed : t.Refreshes programId env accounts t') (empty : t.deposits = []) :
    t' = { t with
      depositedValue := Decimal.zero, lastUpdate := t.lastUpdate.updateSlot env.slot } := by
  obtain ⟨pools, -, u, value, looped, rfl⟩ := refreshed
  rw [empty] at looped
  obtain ⟨rfl, rfl, -⟩ : t = u ∧ Decimal.zero = value ∧ pools = [] := by
    simpa [refreshTicketDeposits] using looped
  rfl

section
variable {programId : Pubkey} {L L' : Ledger}

theorem blankOrRecord_call {env : Env} {metas : List AccountMeta} {input : List UInt8}
    {writes : Writes} (tidy : BlankOrRecord programId L)
    (processed : processInstruction programId env (L.infos metas) input = .ok writes) :
    BlankOrRecord programId (L.commit writes) := by
  intro k owned
  obtain ⟨_, -, ⟨same, -⟩ | ⟨-, -, rewrite⟩⟩ := call_account processed k
  · rw [same] at owned ⊢
    exact tidy k owned
  · exact .inr rewrite.isRecord

theorem blankOrRecord_external (tidy : BlankOrRecord programId L)
    (changed : External programId L L') : BlankOrRecord programId L' := by
  intro k owned
  by_cases before : (L k).owner = programId
  · rw [(changed.owned k before).2]
    exact tidy k before
  · exact .inl (changed.assigned k before owned)

/-- An `InitTicket` over an account of a tidy ledger writes a ticket with no deposits, no value and
no rewards. -/
theorem Rewrite.initTicket_inert {k : Pubkey} {accounts : List AccountInfo} {env : Env}
    {t' : Ticket} (tidy : BlankOrRecord programId L) (owned : (L k).owner = programId)
    (rewrite : Rewrite programId env accounts .initTicket (L k).data new)
    (after : Ticket.packable.unpack new = .ok t') :
    t'.deposits = [] ∧ t'.depositedValue = Decimal.zero ∧ t'.unclaimedMine = Decimal.zero := by
  cases rewrite with
  | initTicket blank _ _ decoded uninitialized packed =>
    obtain rfl := Packable.unpack_unique (Ticket.packable_lawful.unpack_pack packed
      (show PROGRAM_VERSION ≤ PROGRAM_VERSION by decide)
      (show PROGRAM_VERSION ≠ UNINITIALIZED_VERSION by decide)) after
    have length := (Packable.unpackFromSlice_of_unpackUnchecked decoded).1
    rcases tidy k owned with zeroed | ⟨m, stored⟩ | ⟨p, stored⟩ | ⟨t, stored⟩
    · rw [List.eq_replicate_iff.mpr ⟨length, zeroed⟩] at decoded
      obtain ⟨-, value, rewards⟩ := Ticket.of_zeroed decoded
      exact ⟨rfl, value, rewards⟩
    · exact (Packable.unpack_of_other_len (by decide) stored decoded).elim
    · exact (Packable.unpack_of_other_len (by decide) stored decoded).elim
    · exact (not_unpack_of_blank decoded uninitialized stored).elim

theorem ticketsInert_call {env : Env} {metas : List AccountMeta} {input : List UInt8}
    {writes : Writes} (tidy : BlankOrRecord programId L) (inert : TicketsInert programId L)
    (processed : processInstruction programId env (L.infos metas) input = .ok writes) :
    TicketsInert programId (L.commit writes) := by
  intro k t' owned decoded
  obtain ⟨_, -, ⟨same, -⟩ | ⟨-, keyOwned, rewrite⟩⟩ := call_account processed k
  · rw [same] at owned decoded
    exact inert k t' owned decoded
  by_cases held : ∃ t, Ticket.packable.unpack (L k).data = .ok t
  · obtain ⟨t, before⟩ := held
    obtain ⟨empty, -, rewards⟩ := inert k t keyOwned before
    obtain ⟨rfl, -⟩ := rewrite.ticket_before before
    cases rewrite with
    | refreshTicket _ _ read refreshed packed =>
      obtain rfl := Packable.unpack_unique before read
      have next := refreshed.of_empty empty
      obtain ⟨-, live, current⟩ := Ticket.packable_lawful.version_of_unpack read
      subst next
      obtain rfl := Packable.unpack_unique
        (Ticket.packable_lawful.unpack_pack packed current live) decoded
      exact ⟨empty, rfl, rewards⟩
  · obtain rfl := rewrite.initTicket_of_created decoded fun t before => held ⟨t, before⟩
    exact rewrite.initTicket_inert tidy keyOwned decoded

theorem ticketsInert_external (inert : TicketsInert programId L)
    (changed : External programId L L') : TicketsInert programId L' := by
  intro k t owned decoded
  obtain ⟨before, same⟩ := changed.stored Ticket.packable_lawful owned decoded
  exact inert k t before (same ▸ decoded)

/-- Along every run, each account this program owns is zero-filled or holds an initialized pool
manager, pool or ticket. -/
theorem owned_accounts_blank_or_records {history : List Call} (reach : Reach programId history L) :
    BlankOrRecord programId L :=
  reach.inv (fun _ L => BlankOrRecord programId L)
    (fun _ pristine k owned => .inl (pristine k owned))
    (fun _ _ _ _ _ _ _ tidy _ processed => blankOrRecord_call tidy processed)
    (fun _ _ _ tidy changed => blankOrRecord_external tidy changed)

theorem sample_accounts_blank_or_records : BlankOrRecord sampleProgram sampleSetUp.2 :=
  owned_accounts_blank_or_records sampleSetUp_reach

/-- Along every run, each ticket this program stores has no deposits, no deposited value and no
unclaimed rewards. -/
theorem stored_tickets_stay_inert {history : List Call} (reach : Reach programId history L) :
    TicketsInert programId L :=
  (reach.inv (fun _ L => BlankOrRecord programId L ∧ TicketsInert programId L)
    (fun _ pristine => ⟨fun k owned => .inl (pristine k owned), fun _ _ owned decoded =>
      absurd decoded (pristine.unpack Ticket.packable_lawful owned)⟩)
    (fun _ _ _ _ _ _ _ ⟨tidy, inert⟩ _ processed =>
      ⟨blankOrRecord_call tidy processed, ticketsInert_call tidy inert processed⟩)
    (fun _ _ _ ⟨tidy, inert⟩ changed =>
      ⟨blankOrRecord_external tidy changed, ticketsInert_external inert changed⟩)).2

end

/-- The sample deployment once the token program hands this program a zero-filled account,
`sampleKey 60`, of a ticket's length. -/
def sampleTicketAccount : Ledger := fun k =>
  if k = sampleKey 60 then ⟨1, sampleProgram, List.replicate OBLIGATION_LEN 0⟩ else sampleSetUp.2 k

set_option maxRecDepth 20000 in
theorem sampleTicketAccount_external :
    External sampleProgram sampleSetUp.2 sampleTicketAccount where
  owned k owned := by
    have other : k ≠ sampleKey 60 := by
      rintro rfl
      exact absurd ((execute_owner _ _ _ _).symm.trans owned) (by decide)
    rw [show sampleTicketAccount k = sampleSetUp.2 k from if_neg other]
    exact ⟨owned, rfl⟩
  assigned k before after b member := by
    by_cases here : k = sampleKey 60
    · rw [sampleTicketAccount, if_pos here] at member
      exact List.eq_of_mem_replicate member
    · rw [sampleTicketAccount, if_neg here] at after
      exact absurd after before

/-- `InitTicket` of `sampleKey 60` for the owner `sampleKey 61` under the sample pool manager,
then `RefreshTicket` of it, at slot 0. -/
def sampleTicketed : List Call × Ledger :=
  execute sampleProgram
    [⟨sampleEnv 0, [⟨sampleKey 60, false⟩, ⟨sampleKey 2, false⟩, ⟨sampleKey 61, true⟩,
        ⟨sampleKey 4, false⟩, ⟨sampleKey 3, false⟩, ⟨sampleKey 5, false⟩], [6]⟩,
      ⟨sampleEnv 0, [⟨sampleKey 60, false⟩, ⟨sampleKey 4, false⟩], [7]⟩]
    (sampleSetUp.1, sampleTicketAccount)

theorem sampleTicketed_reach : Reach sampleProgram sampleTicketed.1 sampleTicketed.2 := by
  have reach := sampleSetUp_reach.steps (Steps.start.external sampleTicketAccount_external)
  rw [List.nil_append] at reach
  exact reach.execute _

set_option maxRecDepth 20000 in
theorem sampleTicketed_ticket :
    ∃ t, Ticket.packable.unpack (sampleTicketed.2 (sampleKey 60)).data = .ok t :=
  exists_ok_of_toBool (by decide)

set_option maxRecDepth 20000 in
theorem sample_ticket_stays_inert : ∃ t,
    Ticket.packable.unpack (sampleTicketed.2 (sampleKey 60)).data = .ok t ∧
      t.deposits = [] ∧ t.depositedValue = Decimal.zero ∧ t.unclaimedMine = Decimal.zero := by
  obtain ⟨t, stored⟩ := sampleTicketed_ticket
  exact ⟨t, stored, stored_tickets_stay_inert sampleTicketed_reach _ t
    ((execute_owner _ _ _ _).trans (by decide)) stored⟩

/-- Along every run, no pool this program stores has credited its borrowing side. -/
theorem stored_pools_never_credit_borrowing {programId : Pubkey} {history : List Call} {L : Ledger}
    {k : Pubkey} {p : Pool} (reach : Reach programId history L) (owned : (L k).owner = programId)
    (stored : Pool.packable.unpack (L k).data = .ok p) :
    p.lottery.borrowMiningIndex = Decimal.zero :=
  (reach.pools.1 k p owned stored).borrowMiningIndex

theorem sample_pool_never_credits_borrowing : ∃ p,
    Pool.packable.unpack (sampleSetUp.2 (sampleKey 9)).data = .ok p ∧
      p.lottery.borrowMiningIndex = Decimal.zero := by
  obtain ⟨p, stored⟩ := sampleSetUp_pool
  exact ⟨p, stored, stored_pools_never_credit_borrowing sampleSetUp_reach
    ((execute_owner _ _ _ _).trans (by decide)) stored⟩

/-! ### One credit per slot -/

section
variable {programId : Pubkey} {L₀ : Ledger} {slot : Slot} {k : Pubkey} {p : Pool}

theorem steps_keep_lottery_at_slot {later : List Call} {L : Ledger}
    (steps : Steps programId L₀ later L) (sameSlot : ∀ c ∈ later, c.slot = slot)
    (owned : (L₀ k).owner = programId) (stored : Pool.packable.unpack (L₀ k).data = .ok p)
    (current : p.lastUpdate.slot = slot) :
    (L k).owner = programId ∧ ∃ q, Pool.packable.unpack (L k).data = .ok q ∧
      q.lottery = p.lottery ∧ q.lastUpdate.slot = slot := by
  induction steps with
  | start => exact ⟨owned, p, stored, rfl, current⟩
  | call env metas input _ _ processed ih =>
    obtain ⟨owned', q, stored', lottery, atSlot⟩ :=
      ih fun c member => sameSlot c (List.mem_cons_of_mem _ member)
    have clock : env.slot = slot := sameSlot _ (List.mem_cons_self _ _)
    refine ⟨(Ledger.commit_owner _ _ k).trans owned', ?_⟩
    obtain ⟨_, -, ⟨same, -⟩ | ⟨-, -, rewrite⟩⟩ := call_account processed k
    · exact ⟨q, by rw [same]; exact stored', lottery, atSlot⟩
    · obtain ⟨-, q', stored'', stepped⟩ := rewrite.pool_before stored'
      rw [clock] at stepped
      obtain ⟨lottery', atSlot'⟩ := stepped.lottery_at_slot atSlot
      exact ⟨q', stored'', lottery'.trans lottery, atSlot'⟩
  | external _ changed ih =>
    obtain ⟨owned', q, stored', rest⟩ := ih sameSlot
    obtain ⟨kept, same⟩ := changed.owned k owned'
    exact ⟨kept, q, by rw [same]; exact stored', rest⟩

/-- Once a stored pool has been refreshed at a slot, nothing that happens within that slot changes
its reward indices: refreshing it again credits nothing more. -/
theorem pools_earn_once_per_slot {later : List Call} {L : Ledger}
    (steps : Steps programId L₀ later L) (sameSlot : ∀ c ∈ later, c.slot = slot)
    (owned : (L₀ k).owner = programId) (stored : Pool.packable.unpack (L₀ k).data = .ok p)
    (current : p.lastUpdate.slot = slot) :
    ∃ q, Pool.packable.unpack (L k).data = .ok q ∧ q.lottery = p.lottery :=
  let ⟨_, q, stored', lottery, _⟩ := steps_keep_lottery_at_slot steps sameSlot owned stored current
  ⟨q, stored', lottery⟩

end

set_option maxRecDepth 20000 in
theorem sample_pool_earns_once_in_slot_zero : ∃ p,
    Pool.packable.unpack (sampleSetUp.2 (sampleKey 9)).data = .ok p ∧ p.lastUpdate.slot = 0 ∧
      ∃ q, Pool.packable.unpack (sampleDeposited (sampleKey 9)).data = .ok q ∧
        q.lottery = p.lottery := by
  obtain ⟨p, stored⟩ := sampleSetUp_pool
  have owned : (sampleSetUp.2 (sampleKey 9)).owner = sampleProgram :=
    (execute_owner _ _ _ _).trans (by decide)
  have current : p.lastUpdate.slot = 0 := by
    obtain ⟨c, member, le⟩ := sampleSetUp_reach.pools.2.2 _ p owned stored
    rw [sample_calls_at_slot_zero c (List.mem_append_right _ member)] at le
    exact Fin.ext (Nat.le_zero.mp le)
  have sameSlot : ∀ c ∈ (execute sampleProgram [depositSamplePool 0, refreshSamplePool 0]
      ([], sampleSetUp.2)).1, c.slot = 0 := by
    intro c member
    rcases mem_execute_history member with none | ⟨tx, listed, slot⟩
    · cases none
    · simp only [List.mem_cons, List.mem_singleton, List.not_mem_nil, or_false] at listed
      rcases listed with rfl | rfl <;> exact slot
  exact ⟨p, stored, current,
    pools_earn_once_per_slot (Steps.start.execute _) sameSlot owned stored current⟩

end AllwinPooling
