import AllwinPooling.Processor.Guarantees

/-!
# Records name a live pool manager

`InitPool` and `InitTicket` check that the pool manager account they are given is this program's
and holds an initialized pool manager, and record its address. No instruction changes that address
afterwards, and none writes over an initialized pool manager. So along every run each pool and
each ticket this program stores names an account that still holds a pool manager.
-/

namespace AllwinPooling

/-- The account `key` is this program's and holds an initialized pool manager. -/
def ManagerStored (programId : Pubkey) (L : Ledger) (key : Pubkey) : Prop :=
  (L key).owner = programId ∧ ∃ m, PoolManager.packable.unpack (L key).data = .ok m

/-! ### Calls and their instructions -/

section
variable {programId : Pubkey} {env : Env} {accounts : List AccountInfo} {writes : Writes}

theorem processInstruction_process {input : List UInt8} {instruction : PoolingInstruction}
    (unpacked : PoolingInstruction.unpack env.unpackUtil input = .ok instruction)
    (processed : processInstruction programId env accounts input = .ok writes) :
    instruction.process programId env accounts = .ok writes := by
  rwa [processInstruction, unpacked, ok_bind] at processed

end

/-! ### What a rewrite creates -/

section
variable {programId : Pubkey} {env : Env} {accounts : List AccountInfo}
  {instruction : PoolingInstruction} {old new : List UInt8}

/-- A rewrite that leaves a record of some layout read data of that layout's length. -/
theorem Rewrite.old_length {α : Type} {P : Packable α} {v : α}
    (rewrite : Rewrite programId env accounts instruction old new) (after : P.unpack new = .ok v) :
    old.length = P.len :=
  rewrite.length.symm.trans (Packable.unpack_length after)

/-- A rewrite that leaves a pool where none was stored is an `InitPool`. -/
theorem Rewrite.initPool_of_created {q : Pool}
    (rewrite : Rewrite programId env accounts instruction old new)
    (after : Pool.packable.unpack new = .ok q)
    (created : ∀ p, Pool.packable.unpack old ≠ .ok p) :
    ∃ config totalMiningSpeed kinkUtilRate usePythOracle,
      instruction = .initPool config totalMiningSpeed kinkUtilRate usePythOracle := by
  have length := rewrite.old_length after
  cases rewrite with
  | initPool => exact ⟨_, _, _, _, rfl⟩
  | initPoolingManager _ _ decoded =>
    exact absurd ((Packable.unpackFromSlice_of_unpackUnchecked decoded).1.symm.trans length)
      (by decide)
  | initTicket _ _ _ decoded =>
    exact absurd ((Packable.unpackFromSlice_of_unpackUnchecked decoded).1.symm.trans length)
      (by decide)
  | refreshPool p _ decoded => exact absurd decoded (created p)
  | depositPoolLiquidity p _ decoded => exact absurd decoded (created p)
  | redeemPoolCollateral p _ decoded => exact absurd decoded (created p)
  | refreshTicket _ _ decoded =>
    exact absurd ((Packable.unpack_length decoded).symm.trans length) (by decide)

/-- A rewrite that leaves a ticket where none was stored is an `InitTicket`. -/
theorem Rewrite.initTicket_of_created {t' : Ticket}
    (rewrite : Rewrite programId env accounts instruction old new)
    (after : Ticket.packable.unpack new = .ok t')
    (created : ∀ t, Ticket.packable.unpack old ≠ .ok t) :
    instruction = .initTicket := by
  have length := rewrite.old_length after
  cases rewrite with
  | initTicket => rfl
  | initPoolingManager _ _ decoded =>
    exact absurd ((Packable.unpackFromSlice_of_unpackUnchecked decoded).1.symm.trans length)
      (by decide)
  | initPool _ _ decoded =>
    exact absurd ((Packable.unpackFromSlice_of_unpackUnchecked decoded).1.symm.trans length)
      (by decide)
  | refreshPool _ _ decoded =>
    exact absurd ((Packable.unpack_length decoded).symm.trans length) (by decide)
  | depositPoolLiquidity _ _ decoded =>
    exact absurd ((Packable.unpack_length decoded).symm.trans length) (by decide)
  | redeemPoolCollateral _ _ decoded =>
    exact absurd ((Packable.unpack_length decoded).symm.trans length) (by decide)
  | refreshTicket t _ decoded => exact absurd decoded (created t)

end

/-! ### Along runs -/

/-- Every pool and every ticket this program stores names as its pool manager an account that is
this program's and holds an initialized pool manager. -/
structure ManagersStored (programId : Pubkey) (L : Ledger) : Prop where
  pool : ∀ k p, (L k).owner = programId → Pool.packable.unpack (L k).data = .ok p →
    ManagerStored programId L p.poolManager
  ticket : ∀ k t, (L k).owner = programId → Ticket.packable.unpack (L k).data = .ok t →
    ManagerStored programId L t.poolManager

section
variable {programId : Pubkey} {L L' : Ledger} {key : Pubkey}

theorem Ledger.mem_of_written {writes : Writes} {k : Pubkey} (written : writes.map Prod.fst = [k]) :
    (k, (L.commit writes k).data) ∈ writes := by
  obtain ⟨⟨k', data⟩, rest, rfl, rfl, restNil⟩ := List.map_eq_cons_iff.mp written
  rw [List.map_eq_nil_iff] at restNil
  subst restNil
  simp [Ledger.commit_single]

theorem ManagerGiven.stored {metas : List AccountMeta}
    (given : ManagerGiven programId (L.infos metas) key) : ManagerStored programId L key := by
  obtain ⟨info, named, rfl, owned, m, unpacked⟩ := given
  obtain ⟨ownerEq, dataEq⟩ := Ledger.mem_infos named
  exact ⟨ownerEq ▸ owned, m, dataEq ▸ unpacked⟩

/-- A call never writes over a pool manager. -/
theorem ManagerStored.call {env : Env} {metas : List AccountMeta} {input : List UInt8}
    {writes : Writes} (stored : ManagerStored programId L key)
    (processed : processInstruction programId env (L.infos metas) input = .ok writes) :
    ManagerStored programId (L.commit writes) key := by
  obtain ⟨owned, m, unpacked⟩ := stored
  obtain ⟨_, -, ⟨same, -⟩ | ⟨-, -, rewrite⟩⟩ := call_account processed key
  · rw [ManagerStored, same]
    exact ⟨owned, m, unpacked⟩
  · exact (rewrite.not_poolManager unpacked).elim

theorem ManagerStored.external (stored : ManagerStored programId L key)
    (changed : External programId L L') : ManagerStored programId L' key := by
  obtain ⟨owned, m, unpacked⟩ := stored
  obtain ⟨owned', same⟩ := changed.owned key owned
  exact ⟨owned', m, same ▸ unpacked⟩

theorem managersStored_call {env : Env} {metas : List AccountMeta} {input : List UInt8}
    {writes : Writes} (stored : ManagersStored programId L)
    (processed : processInstruction programId env (L.infos metas) input = .ok writes) :
    ManagersStored programId (L.commit writes) where
  pool k q owned decoded := by
    obtain ⟨_, unpacked, ⟨same, -⟩ | ⟨written, keyOwned, rewrite⟩⟩ :=
      call_account processed k
    · rw [same] at owned decoded
      exact (stored.pool k q owned decoded).call processed
    by_cases held : ∃ p, Pool.packable.unpack (L k).data = .ok p
    · obtain ⟨p, before⟩ := held
      obtain ⟨-, q', after, stepped⟩ := rewrite.pool_before before
      obtain rfl := Packable.unpack_unique after decoded
      have manager := congrArg Pool.poolManager stepped.fixed
      rw [show q.poolManager = p.poolManager from manager]
      exact (stored.pool k p keyOwned before).call processed
    · obtain ⟨_, _, _, _, rfl⟩ :=
        rewrite.initPool_of_created decoded fun p before => held ⟨p, before⟩
      exact ((processInitPool_spec (processInstruction_process unpacked processed)).2 _
        (Ledger.mem_of_written written) _ decoded).stored.call processed
  ticket k t' owned decoded := by
    obtain ⟨_, unpacked, ⟨same, -⟩ | ⟨written, keyOwned, rewrite⟩⟩ :=
      call_account processed k
    · rw [same] at owned decoded
      exact (stored.ticket k t' owned decoded).call processed
    by_cases held : ∃ t, Ticket.packable.unpack (L k).data = .ok t
    · obtain ⟨t, before⟩ := held
      obtain ⟨-, t'', after, grows⟩ := rewrite.ticket_before before
      obtain rfl := Packable.unpack_unique after decoded
      rw [grows.poolManager]
      exact (stored.ticket k t keyOwned before).call processed
    · obtain rfl := rewrite.initTicket_of_created decoded fun t before => held ⟨t, before⟩
      exact ((processInitTicket_spec (processInstruction_process unpacked processed)).2 _
        (Ledger.mem_of_written written) _ decoded).stored.call processed

theorem managersStored_external (stored : ManagersStored programId L)
    (changed : External programId L L') : ManagersStored programId L' where
  pool k p owned decoded := by
    obtain ⟨before, same⟩ := changed.stored Pool.packable_lawful owned decoded
    exact (stored.pool k p before (same ▸ decoded)).external changed
  ticket k t owned decoded := by
    obtain ⟨before, same⟩ := changed.stored Ticket.packable_lawful owned decoded
    exact (stored.ticket k t before (same ▸ decoded)).external changed

/-- Along every run, each pool and each ticket this program stores names as its pool manager an
account that is this program's and holds an initialized pool manager. -/
theorem stored_records_name_live_managers {history : List Call}
    (reach : Reach programId history L) : ManagersStored programId L :=
  reach.inv (fun _ L => ManagersStored programId L)
    (fun _ pristine => ⟨fun _ _ owned decoded =>
        absurd decoded (pristine.unpack Pool.packable_lawful owned),
      fun _ _ owned decoded => absurd decoded (pristine.unpack Ticket.packable_lawful owned)⟩)
    (fun _ _ _ _ _ _ _ stored _ processed => managersStored_call stored processed)
    (fun _ _ _ stored changed => managersStored_external stored changed)

theorem sample_pool_names_live_manager : ∃ p,
    Pool.packable.unpack (sampleSetUp.2 (sampleKey 9)).data = .ok p ∧
      ManagerStored sampleProgram sampleSetUp.2 p.poolManager := by
  obtain ⟨p, stored⟩ := sampleSetUp_pool
  exact ⟨p, stored, (stored_records_name_live_managers sampleSetUp_reach).pool _ p
    ((execute_owner _ _ _ _).trans (by decide)) stored⟩

end

end AllwinPooling
