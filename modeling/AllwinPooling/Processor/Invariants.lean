import AllwinPooling.Processor.Effects

/-!
# Invariants of runs

What holds of the records this program stores, along every run. Each invariant is carried by
`Reach.inv` (or `Steps.inv`) from three facts: pristine ledgers hold no records, a change by
another program leaves this program's accounts as they were, and a successful call rewrites one
account as `Rewrite` says. The last is read once per record type: what a rewrite leaves that
decodes as a pool, what it makes of a stored pool or ticket, and that it never touches an
initialized pool manager.
-/

namespace AllwinPooling

/-- The `Init*` instructions, each of which writes a record over a blank account. -/
def PoolingInstruction.initializes : PoolingInstruction → Bool
  | .initPoolingManager .. | .initPool .. | .initTicket => true
  | _ => false

section
variable {programId : Pubkey} {env : Env} {accounts : List AccountInfo}
  {instruction : PoolingInstruction} {old new : List UInt8}

/-- Data that holds a blank record holds no initialized record of that type. -/
theorem not_unpack_of_blank {α : Type} {P : Packable α} {blank v : α}
    (decoded : P.unpackUnchecked old = .ok blank) (uninitialized : P.isInitialized blank = false) :
    P.unpack old ≠ .ok v := fun stored => by
  obtain ⟨unchecked, live⟩ := Packable.unpack_eq_ok.mp stored
  rw [decoded, Except.ok.injEq] at unchecked
  subst unchecked
  rw [uninitialized] at live
  cases live

theorem Rewrite.length (rewrite : Rewrite programId env accounts instruction old new) :
    new.length = old.length := by
  cases rewrite with
  | initPoolingManager _ _ _ _ packed => exact PoolManager.packable_lawful.length_of_pack packed
  | initPool _ _ _ _ _ _ packed => exact Pool.packable_lawful.length_of_pack packed
  | initTicket _ _ _ _ _ packed => exact Ticket.packable_lawful.length_of_pack packed
  | refreshPool _ _ _ _ packed => exact Pool.packable_lawful.length_of_pack packed
  | depositPoolLiquidity _ _ _ _ packed => exact Pool.packable_lawful.length_of_pack packed
  | redeemPoolCollateral _ _ _ _ packed => exact Pool.packable_lawful.length_of_pack packed
  | refreshTicket _ _ _ _ packed => exact Ticket.packable_lawful.length_of_pack packed

/-- A pool stored and stepped by an instruction is stored again, as the step leaves it. -/
theorem Pool.stored_after_step {p q : Pool} {slot : Slot}
    (decoded : Pool.packable.unpack old = .ok p) (stepped : p.Step slot q)
    (packed : Pool.packable.pack q old = .ok new) : Pool.packable.unpack new = .ok q := by
  obtain ⟨-, live, current⟩ := Pool.packable_lawful.version_of_unpack decoded
  rw [← stepped.version] at live current
  exact Pool.packable_lawful.unpack_pack packed current live

/-- What a rewrite leaves that decodes as a pool: a fresh record over a blank one, or a step of the
pool that was there; and a pool left fresh was left by a refresh at the clock's slot. -/
theorem Rewrite.pool_after {q : Pool} (rewrite : Rewrite programId env accounts instruction old new)
    (after : Pool.packable.unpack new = .ok q) :
    q.DecimalsFit ∧
      ((∃ blank, Pool.packable.unpackUnchecked old = .ok blank ∧
          Pool.packable.isInitialized blank = false ∧ q.Initial ∧
          q.lastUpdate = LastUpdate.new env.slot) ∨
        ∃ p, Pool.packable.unpack old = .ok p ∧ p.Step env.slot q ∧
          (q.lastUpdate.stale = false →
            instruction = .refreshPool ∧ q.lastUpdate.slot = env.slot)) := by
  have wrong : ∀ {α : Type} {P : Packable α}, old.length = P.len → P.len ≠ Pool.packable.len →
      False := fun oldLength different =>
    different (oldLength.symm.trans (rewrite.length.symm.trans (Packable.unpack_length after)))
  cases rewrite with
  | initPoolingManager _ _ decoded =>
    exact (wrong (Packable.unpackFromSlice_of_unpackUnchecked decoded).1 (by decide)).elim
  | initPool blank p decoded uninitialized initial fresh packed =>
    obtain rfl := Packable.unpack_unique (Pool.packable_lawful.unpack_pack packed
      (by rw [initial.version]; decide) (by rw [initial.version]; decide)) after
    exact ⟨Pool.fit_of_pack packed, .inl ⟨blank, decoded, uninitialized, initial, fresh⟩⟩
  | initTicket _ _ _ decoded =>
    exact (wrong (Packable.unpackFromSlice_of_unpackUnchecked decoded).1 (by decide)).elim
  | refreshPool p _ decoded refreshed packed =>
    obtain rfl :=
      Packable.unpack_unique (Pool.stored_after_step decoded (.inl refreshed) packed) after
    exact ⟨Pool.fit_of_pack packed, .inr ⟨p, decoded, .inl refreshed,
      fun _ => ⟨rfl, by rw [refreshed.lastUpdate]⟩⟩⟩
  | depositPoolLiquidity p _ decoded deposited packed =>
    obtain rfl := Packable.unpack_unique
      (Pool.stored_after_step decoded (.inr (.inl deposited)) packed) after
    exact ⟨Pool.fit_of_pack packed, .inr ⟨p, decoded, .inr (.inl deposited),
      fun fresh => by rw [deposited.lastUpdate] at fresh; cases fresh⟩⟩
  | redeemPoolCollateral p _ decoded redeemed packed =>
    obtain rfl := Packable.unpack_unique
      (Pool.stored_after_step decoded (.inr (.inr redeemed)) packed) after
    exact ⟨Pool.fit_of_pack packed, .inr ⟨p, decoded, .inr (.inr redeemed),
      fun fresh => by rw [redeemed.lastUpdate] at fresh; cases fresh⟩⟩
  | refreshTicket _ _ decoded =>
    exact (wrong (Packable.unpack_length decoded) (by decide)).elim

/-- What a rewrite makes of a stored pool: one instruction's step of it, by an instruction that
does not initialize. -/
theorem Rewrite.pool_before {p : Pool}
    (rewrite : Rewrite programId env accounts instruction old new)
    (before : Pool.packable.unpack old = .ok p) :
    instruction.initializes = false ∧
      ∃ q, Pool.packable.unpack new = .ok q ∧ p.Step env.slot q := by
  cases rewrite with
  | initPoolingManager _ _ decoded =>
    exact (Packable.unpack_of_other_len (by decide) before decoded).elim
  | initPool _ _ decoded uninitialized =>
    exact (not_unpack_of_blank decoded uninitialized before).elim
  | initTicket _ _ _ decoded => exact (Packable.unpack_of_other_len (by decide) before decoded).elim
  | refreshPool _ q decoded refreshed packed =>
    obtain rfl := Packable.unpack_unique before decoded
    exact ⟨rfl, q, Pool.stored_after_step decoded (.inl refreshed) packed, .inl refreshed⟩
  | depositPoolLiquidity _ q decoded deposited packed =>
    obtain rfl := Packable.unpack_unique before decoded
    exact ⟨rfl, q, Pool.stored_after_step decoded (.inr (.inl deposited)) packed,
      .inr (.inl deposited)⟩
  | redeemPoolCollateral _ q decoded redeemed packed =>
    obtain rfl := Packable.unpack_unique before decoded
    exact ⟨rfl, q, Pool.stored_after_step decoded (.inr (.inr redeemed)) packed,
      .inr (.inr redeemed)⟩
  | refreshTicket _ _ decoded =>
    exact (Packable.unpack_exclusive (by decide) before decoded).elim

/-- A deposit or a redemption rewrites a stored pool that was fresh at the clock's slot. -/
theorem Rewrite.reads_fresh_pool {amount : U64}
    (rewrite : Rewrite programId env accounts instruction old new)
    (changing : instruction = .depositPoolLiquidity amount ∨
      instruction = .redeemPoolCollateral amount) :
    ∃ p, Pool.packable.unpack old = .ok p ∧ p.lastUpdate.isStale env.slot = .ok false := by
  cases rewrite with
  | depositPoolLiquidity p _ decoded deposited => exact ⟨p, decoded, deposited.1⟩
  | redeemPoolCollateral p _ decoded redeemed => exact ⟨p, decoded, redeemed.1⟩
  | _ => simp at changing

/-- No rewrite touches an initialized pool manager. -/
theorem Rewrite.not_poolManager {m : PoolManager}
    (rewrite : Rewrite programId env accounts instruction old new)
    (before : PoolManager.packable.unpack old = .ok m) : False := by
  cases rewrite with
  | initPoolingManager _ _ decoded uninitialized =>
    exact not_unpack_of_blank decoded uninitialized before
  | initPool _ _ decoded => exact Packable.unpack_of_other_len (by decide) before decoded
  | initTicket _ _ _ decoded => exact Packable.unpack_of_other_len (by decide) before decoded
  | refreshPool _ _ decoded =>
    exact Packable.unpack_exclusive (by decide) before decoded
  | depositPoolLiquidity _ _ decoded =>
    exact Packable.unpack_exclusive (by decide) before decoded
  | redeemPoolCollateral _ _ decoded =>
    exact Packable.unpack_exclusive (by decide) before decoded
  | refreshTicket _ _ decoded =>
    exact Packable.unpack_exclusive (by decide) before decoded

/-- A refreshed ticket only grew. -/
theorem Ticket.Refreshes.grows {t t' : Ticket}
    (refreshed : t.Refreshes programId env accounts t') : t.Grows t' := by
  obtain ⟨_, -, u, value, looped, rfl⟩ := refreshed
  have grows := refreshTicketDeposits_grows looped
  exact ⟨grows.version, grows.owner, grows.poolManager, grows.positions, grows.unclaimed⟩

/-- What a rewrite makes of a stored ticket: a refresh of it, which only grows it. -/
theorem Rewrite.ticket_before {t : Ticket}
    (rewrite : Rewrite programId env accounts instruction old new)
    (before : Ticket.packable.unpack old = .ok t) :
    instruction = .refreshTicket ∧ ∃ t', Ticket.packable.unpack new = .ok t' ∧ t.Grows t' := by
  cases rewrite with
  | initPoolingManager _ _ decoded =>
    exact (Packable.unpack_of_other_len (by decide) before decoded).elim
  | initPool _ _ decoded => exact (Packable.unpack_of_other_len (by decide) before decoded).elim
  | initTicket _ _ _ decoded uninitialized =>
    exact (not_unpack_of_blank decoded uninitialized before).elim
  | refreshPool _ _ decoded =>
    exact (Packable.unpack_exclusive (by decide) before decoded).elim
  | depositPoolLiquidity _ _ decoded =>
    exact (Packable.unpack_exclusive (by decide) before decoded).elim
  | redeemPoolCollateral _ _ decoded =>
    exact (Packable.unpack_exclusive (by decide) before decoded).elim
  | refreshTicket _ t' decoded refreshed packed =>
    obtain rfl := Packable.unpack_unique before decoded
    have grows := refreshed.grows
    obtain ⟨-, live, current⟩ := Ticket.packable_lawful.version_of_unpack decoded
    rw [← grows.version] at live current
    exact ⟨rfl, t', Ticket.packable_lawful.unpack_pack packed current live, grows⟩

/-- What a rewrite leaves that decodes as a ticket: a new one with no deposits, or one that grew
from the ticket that was there. -/
theorem Rewrite.ticket_after {t' : Ticket}
    (rewrite : Rewrite programId env accounts instruction old new)
    (after : Ticket.packable.unpack new = .ok t') :
    t'.deposits = [] ∨ ∃ t, Ticket.packable.unpack old = .ok t ∧ t.Grows t' := by
  have wrong : ∀ {α : Type} {P : Packable α}, old.length = P.len → P.len ≠ Ticket.packable.len →
      False := fun oldLength different =>
    different (oldLength.symm.trans (rewrite.length.symm.trans (Packable.unpack_length after)))
  cases rewrite with
  | initPoolingManager _ _ decoded =>
    exact (wrong (Packable.unpackFromSlice_of_unpackUnchecked decoded).1 (by decide)).elim
  | initPool _ _ decoded =>
    exact (wrong (Packable.unpackFromSlice_of_unpackUnchecked decoded).1 (by decide)).elim
  | initTicket _ _ _ _ _ packed =>
    obtain rfl := Packable.unpack_unique (Ticket.packable_lawful.unpack_pack packed
      (show PROGRAM_VERSION ≤ PROGRAM_VERSION by decide)
      (show PROGRAM_VERSION ≠ UNINITIALIZED_VERSION by decide)) after
    exact .inl rfl
  | refreshPool _ _ decoded => exact (wrong (Packable.unpack_length decoded) (by decide)).elim
  | depositPoolLiquidity _ _ decoded =>
    exact (wrong (Packable.unpack_length decoded) (by decide)).elim
  | redeemPoolCollateral _ _ decoded =>
    exact (wrong (Packable.unpack_length decoded) (by decide)).elim
  | refreshTicket t _ decoded refreshed packed =>
    obtain ⟨-, _, stored, grows⟩ :=
      (Rewrite.refreshTicket t _ decoded refreshed packed).ticket_before decoded
    obtain rfl := Packable.unpack_unique stored after
    exact .inr ⟨t, decoded, grows⟩

end

/-! ### A call and an external change, account by account -/

section
variable {programId : Pubkey} {L L' : Ledger}

theorem lastWriter_cons (c : Call) (history : List Call) (k : Pubkey) :
    lastWriter (c :: history) k = if k ∈ c.written then some c else lastWriter history k := by
  unfold lastWriter
  rw [List.find?_cons]
  by_cases written : k ∈ c.written <;> simp [written]

/-- One account after a successful call: as it was and not written, or written by the call, as
its instruction's handler does, while this program owns it. -/
theorem call_account {env : Env} {metas : List AccountMeta} {input : List UInt8} {writes : Writes}
    (processed : processInstruction programId env (L.infos metas) input = .ok writes) (k : Pubkey) :
    ∃ instruction, PoolingInstruction.unpack env.unpackUtil input = .ok instruction ∧
      ((L.commit writes k = L k ∧ k ∉ writes.map Prod.fst) ∨
        (writes.map Prod.fst = [k] ∧ (L k).owner = programId ∧
          Rewrite programId env (L.infos metas) instruction (L k).data
            (L.commit writes k).data)) := by
  obtain ⟨instruction, unpacked, none | ⟨info, named, owned, new, rfl, rewrite⟩⟩ :=
    processInstruction_ok processed
  · subst none
    exact ⟨instruction, unpacked, .inl ⟨rfl, List.not_mem_nil _⟩⟩
  · obtain ⟨ownerEq, dataEq⟩ := Ledger.mem_infos named
    refine ⟨instruction, unpacked, ?_⟩
    by_cases written : k = info.key
    · subst written
      refine .inr ⟨rfl, ownerEq ▸ owned, ?_⟩
      rw [Ledger.commit_single, if_pos rfl]
      exact dataEq ▸ rewrite
    · exact .inl ⟨by rw [Ledger.commit_single, if_neg written], by simpa using written⟩

theorem Pristine.unpack {α : Type} {P : Packable α} {version : α → UInt8} {v : α} {k : Pubkey}
    (law : P.Lawful version) (pristine : Pristine programId L) (owned : (L k).owner = programId) :
    P.unpack (L k).data ≠ .ok v :=
  law.unpack_of_zeroed (pristine k owned)

/-- A record this program holds after an external change, it held before. -/
theorem External.stored {α : Type} {P : Packable α} {version : α → UInt8} {v : α} {k : Pubkey}
    (law : P.Lawful version) (changed : External programId L L') (owned : (L' k).owner = programId)
    (decoded : P.unpack (L' k).data = .ok v) :
    (L k).owner = programId ∧ (L' k).data = (L k).data := by
  by_cases before : (L k).owner = programId
  · exact ⟨before, (changed.owned k before).2⟩
  · exact absurd decoded (law.unpack_of_zeroed (changed.assigned k before owned))

end

/-! ### Stored pools -/

/-- Every pool this program stores is one of the pools it can produce. -/
def PoolsReachable (programId : Pubkey) (L : Ledger) : Prop :=
  ∀ k p, (L k).owner = programId → Pool.packable.unpack (L k).data = .ok p → p.Reachable

/-- Every pool this program stores that is fresh was last written by a refresh at its slot. -/
def FreshPoolsRefreshed (programId : Pubkey) (history : List Call) (L : Ledger) : Prop :=
  ∀ k p, (L k).owner = programId → Pool.packable.unpack (L k).data = .ok p →
    p.lastUpdate.stale = false →
      ∃ c, lastWriter history k = some c ∧ c.instruction = .refreshPool ∧ c.slot = p.lastUpdate.slot

/-- Every pool this program stores has a slot no later than some call of the run. -/
def PoolSlotsSeen (programId : Pubkey) (history : List Call) (L : Ledger) : Prop :=
  ∀ k p, (L k).owner = programId → Pool.packable.unpack (L k).data = .ok p →
    ∃ c ∈ history, p.lastUpdate.slot.val ≤ c.slot.val

section
variable {programId : Pubkey}

theorem poolsReachable_call {L : Ledger} {env : Env} {metas : List AccountMeta}
    {input : List UInt8} {writes : Writes} (reachable : PoolsReachable programId L)
    (processed : processInstruction programId env (L.infos metas) input = .ok writes) :
    PoolsReachable programId (L.commit writes) := by
  intro k q owned decoded
  obtain ⟨_, -, ⟨same, -⟩ | ⟨-, keyOwned, rewrite⟩⟩ := call_account processed k
  · rw [same] at owned decoded
    exact reachable k q owned decoded
  · obtain ⟨fit, ⟨_, -, -, initial, -⟩ | ⟨p, before, stepped, -⟩⟩ := rewrite.pool_after decoded
    · exact .init initial fit
    · exact .step _ (reachable k p keyOwned before) stepped fit

theorem freshPoolsRefreshed_call {history : List Call} {L : Ledger} {env : Env}
    {metas : List AccountMeta} {input : List UInt8} {instruction : PoolingInstruction}
    {writes : Writes} (refreshed : FreshPoolsRefreshed programId history L)
    (unpacked : PoolingInstruction.unpack env.unpackUtil input = .ok instruction)
    (processed : processInstruction programId env (L.infos metas) input = .ok writes) :
    FreshPoolsRefreshed programId (⟨instruction, env.slot, writes.map Prod.fst⟩ :: history)
      (L.commit writes) := by
  intro k q owned decoded fresh
  obtain ⟨instruction', unpacked', ⟨same, unwritten⟩ | ⟨written, keyOwned, rewrite⟩⟩ :=
    call_account processed k
  · rw [same] at owned decoded
    rw [lastWriter_cons, if_neg unwritten]
    exact refreshed k q owned decoded fresh
  · rw [unpacked, Except.ok.injEq] at unpacked'
    subst unpacked'
    obtain ⟨-, ⟨_, -, -, -, initialized⟩ | ⟨-, -, -, refresh⟩⟩ := rewrite.pool_after decoded
    · rw [initialized] at fresh
      cases fresh
    · obtain ⟨rfl, slot⟩ := refresh fresh
      rw [lastWriter_cons, if_pos (by simp [written])]
      exact ⟨_, rfl, rfl, slot.symm⟩

theorem poolSlotsSeen_call {history : List Call} {L : Ledger} {env : Env}
    {metas : List AccountMeta} {input : List UInt8} {instruction : PoolingInstruction}
    {writes : Writes} (seen : PoolSlotsSeen programId history L)
    (processed : processInstruction programId env (L.infos metas) input = .ok writes) :
    PoolSlotsSeen programId (⟨instruction, env.slot, writes.map Prod.fst⟩ :: history)
      (L.commit writes) := by
  intro k q owned decoded
  obtain ⟨_, -, ⟨same, -⟩ | ⟨-, keyOwned, rewrite⟩⟩ := call_account processed k
  · rw [same] at owned decoded
    obtain ⟨c, member, le⟩ := seen k q owned decoded
    exact ⟨c, List.mem_cons_of_mem _ member, le⟩
  · obtain ⟨-, ⟨_, -, -, -, initialized⟩ | ⟨p, before, stepped, -⟩⟩ := rewrite.pool_after decoded
    · exact ⟨_, List.mem_cons_self _ _, by rw [initialized]; exact Nat.le_refl _⟩
    · rcases stepped.lastUpdate with refreshed | marked
      · exact ⟨_, List.mem_cons_self _ _, by rw [refreshed]⟩
      · obtain ⟨c, member, le⟩ := seen k p keyOwned before
        exact ⟨c, List.mem_cons_of_mem _ member, by rw [marked]; exact le⟩

/-- The three pool invariants together, along every run from a pristine ledger. -/
theorem Reach.pools {history : List Call} {L : Ledger} (reach : Reach programId history L) :
    PoolsReachable programId L ∧ FreshPoolsRefreshed programId history L ∧
      PoolSlotsSeen programId history L := by
  refine reach.inv (fun history L => PoolsReachable programId L ∧
      FreshPoolsRefreshed programId history L ∧ PoolSlotsSeen programId history L) ?_ ?_ ?_
  · intro L pristine
    refine ⟨fun k p owned decoded => ?_, fun k p owned decoded => ?_,
      fun k p owned decoded => ?_⟩ <;> exact absurd decoded (pristine.unpack Pool.packable_lawful owned)
  · intro _ L env metas input instruction writes ⟨reachable, refreshed, seen⟩ unpacked processed
    exact ⟨poolsReachable_call reachable processed,
      freshPoolsRefreshed_call refreshed unpacked processed, poolSlotsSeen_call seen processed⟩
  · intro history L L' ⟨reachable, refreshed, seen⟩ changed
    refine ⟨fun k p owned decoded => ?_, fun k p owned decoded => ?_,
      fun k p owned decoded => ?_⟩ <;>
      obtain ⟨before, same⟩ := changed.stored Pool.packable_lawful owned decoded <;>
      rw [same] at decoded
    · exact reachable k p before decoded
    · exact refreshed k p before decoded
    · exact seen k p before decoded

/-- A pool fresh at `slot` in a ledger where fresh pools were refreshed was last written by a
refresh at `slot`. -/
theorem FreshPoolsRefreshed.lastWriter {history : List Call} {L : Ledger} {k : Pubkey} {p : Pool}
    {slot : Slot} (refreshed : FreshPoolsRefreshed programId history L)
    (owned : (L k).owner = programId) (stored : Pool.packable.unpack (L k).data = .ok p)
    (fresh : p.lastUpdate.isStale slot = .ok false) :
    ∃ c, lastWriter history k = some c ∧ c.instruction = .refreshPool ∧ c.slot = slot := by
  obtain ⟨clear, atSlot⟩ := LastUpdate.isStale_eq_ok_false.mp fresh
  obtain ⟨c, last, refresh, slotEq⟩ := refreshed k p owned stored clear
  exact ⟨c, last, refresh, slotEq.trans atSlot⟩

/-- Every pool `RefreshTicket` reads for a deposit of the ticket is this program's and fresh at the
clock's slot. -/
theorem Ticket.Refreshes.pool_fresh {env : Env} {L : Ledger} {metas : List AccountMeta}
    {t t' : Ticket} (refreshed : t.Refreshes programId env (L.infos metas) t')
    {d : TicketCollateral} (member : d ∈ t.deposits) :
    (L d.depositReserve).owner = programId ∧ ∃ p,
      Pool.packable.unpack (L d.depositReserve).data = .ok p ∧
        p.lastUpdate.isStale env.slot = .ok false := by
  obtain ⟨pools, given, u, value, looped, -⟩ := refreshed
  obtain ⟨j, named⟩ := List.mem_iff_getElem?.mp (List.mem_map_of_mem (·.depositReserve) member)
  have inRange : j < t.deposits.length := by
    simpa using (List.getElem?_eq_some_iff.mp named).1
  obtain ⟨info, read, key, owned, p, stored, fresh⟩ :=
    refreshTicketDeposits_fresh looped (Nat.zero_le j) (by omega) named
  obtain ⟨ownerEq, dataEq⟩ := Ledger.mem_infos (given info read)
  rw [key] at ownerEq dataEq
  exact ⟨ownerEq ▸ owned, p, dataEq ▸ stored, fresh⟩

end

end AllwinPooling
