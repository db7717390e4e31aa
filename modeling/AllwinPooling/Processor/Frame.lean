import AllwinPooling.Processor.Invariants

/-!
# What runs keep

Along a run at slots that do not go back, the accounts this program owns stay its own, an
initialized pool manager is never written, a stored pool keeps its identity and configuration
while its reward indices and its slot only go up, and a stored ticket only grows. No `Init*` call
writes an account that holds a record.
-/

namespace AllwinPooling

/-- A history whose slots never go back: each call's slot is at least every earlier call's. -/
def SlotsOrdered (history : List Call) : Prop :=
  history.Pairwise fun later earlier => earlier.slot.val ≤ later.slot.val

instance (history : List Call) : Decidable (SlotsOrdered history) :=
  inferInstanceAs (Decidable (List.Pairwise _ _))

theorem slotsOrdered_of_one_slot {history : List Call} {slot : Slot}
    (same : ∀ c ∈ history, c.slot = slot) : SlotsOrdered history :=
  List.pairwise_of_forall_mem_list fun later member earlier member' => by
    rw [same later member, same earlier member']

/-- The account `k` is this program's and holds an initialized pool manager, pool or ticket. -/
def HoldsRecord (programId : Pubkey) (L : Ledger) (k : Pubkey) : Prop :=
  (L k).owner = programId ∧ ((∃ m, PoolManager.packable.unpack (L k).data = .ok m) ∨
    (∃ p, Pool.packable.unpack (L k).data = .ok p) ∨ ∃ t, Ticket.packable.unpack (L k).data = .ok t)

/-- What `L'` keeps of the records `L` holds: the accounts stay this program's, a pool manager is
untouched, a pool evolves and a ticket grows. -/
structure Keeps (programId : Pubkey) (L L' : Ledger) : Prop where
  owned : ∀ k, (L k).owner = programId → (L' k).owner = programId
  poolManager : ∀ k m, (L k).owner = programId → PoolManager.packable.unpack (L k).data = .ok m →
    (L' k).data = (L k).data
  pool : ∀ k p, (L k).owner = programId → Pool.packable.unpack (L k).data = .ok p →
    ∃ q, Pool.packable.unpack (L' k).data = .ok q ∧ p.Evolves q
  ticket : ∀ k t, (L k).owner = programId → Ticket.packable.unpack (L k).data = .ok t →
    ∃ t', Ticket.packable.unpack (L' k).data = .ok t' ∧ t.Grows t'

section
variable {programId : Pubkey} {L L₁ L' : Ledger}

theorem Keeps.refl (L : Ledger) : Keeps programId L L :=
  ⟨fun _ owned => owned, fun _ _ _ _ => rfl, fun _ p _ stored => ⟨p, stored, .refl p⟩,
    fun _ t _ stored => ⟨t, stored, .refl t⟩⟩

theorem Keeps.trans (first : Keeps programId L L₁) (second : Keeps programId L₁ L') :
    Keeps programId L L' where
  owned k owned := second.owned k (first.owned k owned)
  poolManager k m owned stored := by
    have same := first.poolManager k m owned stored
    rw [second.poolManager k m (first.owned k owned) (same ▸ stored), same]
  pool k p owned stored := by
    obtain ⟨q, stored', evolves⟩ := first.pool k p owned stored
    obtain ⟨r, stored'', evolves'⟩ := second.pool k q (first.owned k owned) stored'
    exact ⟨r, stored'', evolves.trans evolves'⟩
  ticket k t owned stored := by
    obtain ⟨t', stored', grows⟩ := first.ticket k t owned stored
    obtain ⟨t'', stored'', grows'⟩ := second.ticket k t' (first.owned k owned) stored'
    exact ⟨t'', stored'', grows.trans grows'⟩

theorem Keeps.holds (kept : Keeps programId L L') {k : Pubkey} (holds : HoldsRecord programId L k) :
    HoldsRecord programId L' k := by
  obtain ⟨owned, ⟨m, stored⟩ | ⟨p, stored⟩ | ⟨t, stored⟩⟩ := holds
  · exact ⟨kept.owned k owned, .inl ⟨m, by rw [kept.poolManager k m owned stored]; exact stored⟩⟩
  · obtain ⟨q, stored', -⟩ := kept.pool k p owned stored
    exact ⟨kept.owned k owned, .inr (.inl ⟨q, stored'⟩)⟩
  · obtain ⟨t', stored', -⟩ := kept.ticket k t owned stored
    exact ⟨kept.owned k owned, .inr (.inr ⟨t', stored'⟩)⟩

theorem External.keeps (changed : External programId L L') : Keeps programId L L' where
  owned k owned := (changed.owned k owned).1
  poolManager k _ owned _ := (changed.owned k owned).2
  pool k p owned stored := ⟨p, by rw [(changed.owned k owned).2]; exact stored, .refl p⟩
  ticket k t owned stored := ⟨t, by rw [(changed.owned k owned).2]; exact stored, .refl t⟩

/-- A call at a slot no earlier than any before it keeps every record. -/
theorem call_keeps {history : List Call} {env : Env} {metas : List AccountMeta}
    {input : List UInt8} {writes : Writes} (seen : PoolSlotsSeen programId history L)
    (after : ∀ c ∈ history, c.slot.val ≤ env.slot.val)
    (processed : processInstruction programId env (L.infos metas) input = .ok writes) :
    Keeps programId L (L.commit writes) where
  owned k owned := (Ledger.commit_owner L writes k).trans owned
  poolManager k _ _ stored := by
    obtain ⟨_, -, ⟨same, -⟩ | ⟨-, -, rewrite⟩⟩ := call_account processed k
    · rw [same]
    · exact (rewrite.not_poolManager stored).elim
  pool k p owned stored := by
    obtain ⟨_, -, ⟨same, -⟩ | ⟨-, -, rewrite⟩⟩ := call_account processed k
    · exact ⟨p, by rw [same]; exact stored, .refl p⟩
    · obtain ⟨-, q, stored', stepped⟩ := rewrite.pool_before stored
      obtain ⟨c, member, seenAt⟩ := seen k p owned stored
      exact ⟨q, stored', stepped.evolves (Nat.le_trans seenAt (after c member))⟩
  ticket k t _ stored := by
    obtain ⟨_, -, ⟨same, -⟩ | ⟨-, -, rewrite⟩⟩ := call_account processed k
    · exact ⟨t, by rw [same]; exact stored, .refl t⟩
    · exact (rewrite.ticket_before stored).2

/-- A successful `Init*` call writes no account that holds a record. -/
theorem call_initializes_blank {env : Env} {metas : List AccountMeta} {input : List UInt8}
    {instruction : PoolingInstruction} {writes : Writes} {k : Pubkey}
    (unpacked : PoolingInstruction.unpack env.unpackUtil input = .ok instruction)
    (processed : processInstruction programId env (L.infos metas) input = .ok writes)
    (initializing : instruction.initializes = true) (holds : HoldsRecord programId L k) :
    k ∉ writes.map Prod.fst := by
  obtain ⟨_, unpacked', ⟨-, unwritten⟩ | ⟨-, -, rewrite⟩⟩ := call_account processed k
  · exact unwritten
  · rw [unpacked, Except.ok.injEq] at unpacked'
    subst unpacked'
    obtain ⟨-, ⟨m, stored⟩ | ⟨p, stored⟩ | ⟨t, stored⟩⟩ := holds
    · exact (rewrite.not_poolManager stored).elim
    · rw [(rewrite.pool_before stored).1] at initializing
      cases initializing
    · rw [(rewrite.ticket_before stored).1] at initializing
      cases initializing

end

end AllwinPooling
