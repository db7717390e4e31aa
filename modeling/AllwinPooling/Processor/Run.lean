import AllwinPooling.Processor.Handlers

/-!
# Runs

The chain around the program: a ledger of accounts, the instructions of this program that succeed
(each commits the data its handler wrote; one that fails changes nothing), and what other
programs do in between. The token instructions a call invokes are carried out by the token
program, on token accounts it owns and this program does not: in a run they are among the
`External` steps, which may change any such account. So `Steps` holds every run of the chain,
and more. A run starts from a ledger where this program owns only zero-filled accounts, and keeps
the history of its successful calls, latest first.
-/

namespace AllwinPooling

/-- What the chain keeps of an account. -/
structure Account where
  lamports : Nat
  owner : Pubkey
  data : List UInt8

/-- Every account of the chain, by address. -/
abbrev Ledger := Pubkey → Account

/-- `AccountMeta`: an account an instruction names, and whether it signed. -/
structure AccountMeta where
  pubkey : Pubkey
  isSigner : Bool

namespace Ledger

/-- The `AccountInfo`s the runtime hands the program for the accounts `metas` names. -/
def infos (L : Ledger) (metas : List AccountMeta) : List AccountInfo :=
  metas.map fun m => ⟨m.pubkey, m.isSigner, (L m.pubkey).lamports, (L m.pubkey).owner,
    (L m.pubkey).data⟩

/-- The ledger once `key`'s data is `data`. -/
def write (L : Ledger) (key : Pubkey) (data : List UInt8) : Ledger :=
  fun k => if k = key then { L k with data } else L k

/-- The ledger once a successful instruction's writes are committed, in order. -/
def commit (L : Ledger) : Writes → Ledger
  | [] => L
  | (key, data) :: rest => (L.write key data).commit rest

variable {L : Ledger}

theorem mem_infos {metas : List AccountMeta} {info : AccountInfo} (named : info ∈ L.infos metas) :
    info.owner = (L info.key).owner ∧ info.data = (L info.key).data := by
  obtain ⟨m, -, rfl⟩ := List.mem_map.mp named
  exact ⟨rfl, rfl⟩

@[simp] theorem commit_nil : L.commit [] = L := rfl

theorem commit_owner (L : Ledger) (writes : Writes) (k : Pubkey) :
    (L.commit writes k).owner = (L k).owner := by
  induction writes generalizing L with
  | nil => rfl
  | cons w rest ih =>
    rw [show L.commit (w :: rest) = (L.write w.1 w.2).commit rest from rfl, ih]
    unfold Ledger.write
    split <;> rfl

theorem commit_single (key : Pubkey) (data : List UInt8) (k : Pubkey) :
    L.commit [(key, data)] k = if k = key then { L k with data } else L k :=
  rfl

end Ledger

/-- A successful call as the history keeps it: the instruction, the clock's slot, and the
accounts it wrote. -/
structure Call where
  instruction : PoolingInstruction
  slot : Slot
  written : List Pubkey

/-- The latest call of a history that wrote `key`. -/
def lastWriter (history : List Call) (key : Pubkey) : Option Call :=
  history.find? fun c => decide (key ∈ c.written)

/-- What other programs can do between two calls of this one, the token program's side of a call
included: anything to the accounts they own, and hand this program a zero-filled account; an
account this program owns keeps its owner and its data. -/
structure External (programId : Pubkey) (L L' : Ledger) : Prop where
  owned : ∀ k, (L k).owner = programId → (L' k).owner = programId ∧ (L' k).data = (L k).data
  assigned : ∀ k, (L k).owner ≠ programId → (L' k).owner = programId → ∀ b ∈ (L' k).data, b = 0

/-- A ledger where every account this program owns is zero-filled. -/
def Pristine (programId : Pubkey) (L : Ledger) : Prop :=
  ∀ k, (L k).owner = programId → ∀ b ∈ (L k).data, b = 0

/-- The runs from `L`: the calls that succeeded, latest first, and the ledger they reach. -/
inductive Steps (programId : Pubkey) (L : Ledger) : List Call → Ledger → Prop
  | start : Steps programId L [] L
  | call {history : List Call} {L₁ : Ledger} {instruction : PoolingInstruction} {writes : Writes}
      (env : Env) (metas : List AccountMeta) (input : List UInt8) :
      Steps programId L history L₁ → PoolingInstruction.unpack env.unpackUtil input = .ok instruction →
      processInstruction programId env (L₁.infos metas) input = .ok writes →
      Steps programId L (⟨instruction, env.slot, writes.map Prod.fst⟩ :: history) (L₁.commit writes)
  | external {history : List Call} {L₁ L₂ : Ledger} :
      Steps programId L history L₁ → External programId L₁ L₂ → Steps programId L history L₂

/-- A transaction calling this program: the runtime it sees, the accounts it names and its
instruction data. -/
structure Transaction where
  env : Env
  metas : List AccountMeta
  input : List UInt8

/-- One call on the history and the ledger, with no step of another program after it: a call that
succeeds commits its handler's writes and joins the history; one that fails changes nothing. What
the token program does for the call is left out, so runs built from these are runs of `Steps`
(`Steps.execute`), used to build the samples, and not every run of the chain. -/
def transact (programId : Pubkey) (state : List Call × Ledger) (tx : Transaction) :
    List Call × Ledger :=
  match PoolingInstruction.unpack tx.env.unpackUtil tx.input,
      processInstruction programId tx.env (state.2.infos tx.metas) tx.input with
  | .ok instruction, .ok writes =>
    (⟨instruction, tx.env.slot, writes.map Prod.fst⟩ :: state.1, state.2.commit writes)
  | _, _ => state

/-- The transactions `txs`, oldest first. -/
def execute (programId : Pubkey) (txs : List Transaction) (state : List Call × Ledger) :
    List Call × Ledger :=
  txs.foldl (transact programId) state

/-- Transactions never change an account's owner. -/
theorem execute_owner (programId : Pubkey) (txs : List Transaction) (state : List Call × Ledger)
    (k : Pubkey) : ((execute programId txs state).2 k).owner = (state.2 k).owner := by
  induction txs generalizing state with
  | nil => rfl
  | cons tx rest ih =>
    rw [show execute programId (tx :: rest) state =
      execute programId rest (transact programId state tx) from rfl, ih]
    unfold transact
    split
    · exact Ledger.commit_owner _ _ _
    · rfl

/-- Every call the history of an execution gains ran at the slot of one of its transactions. -/
theorem mem_execute_history {programId : Pubkey} {txs : List Transaction}
    {state : List Call × Ledger} {c : Call} (member : c ∈ (execute programId txs state).1) :
    c ∈ state.1 ∨ ∃ tx ∈ txs, c.slot = tx.env.slot := by
  induction txs generalizing state with
  | nil => exact .inl member
  | cons tx rest ih =>
    rcases ih member with earlier | ⟨tx', later, slot⟩
    · unfold transact at earlier
      split at earlier
      · rcases List.mem_cons.mp earlier with rfl | before
        · exact .inr ⟨tx, List.mem_cons_self _ _, rfl⟩
        · exact .inl before
      · exact .inl earlier
    · exact .inr ⟨tx', List.mem_cons_of_mem _ later, slot⟩

/-- A ledger a run of this program reaches from a pristine one, with the run's history. -/
def Reach (programId : Pubkey) (history : List Call) (L : Ledger) : Prop :=
  ∃ L₀, Pristine programId L₀ ∧ Steps programId L₀ history L

section
variable {programId : Pubkey}

theorem Steps.trans {L L₁ L₂ : Ledger} {history later : List Call}
    (first : Steps programId L history L₁) (second : Steps programId L₁ later L₂) :
    Steps programId L (later ++ history) L₂ := by
  induction second with
  | start => exact first
  | call env metas input _ unpacked processed ih =>
    exact .call env metas input ih unpacked processed
  | external _ external ih => exact .external ih external

theorem Reach.steps {history later : List Call} {L L' : Ledger}
    (reach : Reach programId history L) (steps : Steps programId L later L') :
    Reach programId (later ++ history) L' :=
  let ⟨L₀, pristine, first⟩ := reach
  ⟨L₀, pristine, first.trans steps⟩

/-- Executing transactions extends a run. -/
theorem Steps.execute {L L' : Ledger} {history : List Call} (steps : Steps programId L history L')
    (txs : List Transaction) :
    Steps programId L (execute programId txs (history, L')).1
      (execute programId txs (history, L')).2 := by
  induction txs generalizing history L' with
  | nil => exact steps
  | cons tx rest ih =>
    have next : Steps programId L (transact programId (history, L') tx).1
        (transact programId (history, L') tx).2 := by
      unfold transact
      split
      next instruction writes unpacked processed =>
        exact .call tx.env tx.metas tx.input steps unpacked processed
      next => exact steps
    exact ih next

theorem Pristine.reach {L : Ledger} (pristine : Pristine programId L) : Reach programId [] L :=
  ⟨L, pristine, .start⟩

theorem Reach.execute {history : List Call} {L : Ledger} (reach : Reach programId history L)
    (txs : List Transaction) :
    Reach programId (execute programId txs (history, L)).1 (execute programId txs (history, L)).2 :=
  let ⟨L₀, pristine, steps⟩ := reach
  ⟨L₀, pristine, steps.execute txs⟩

/-- An invariant of the history and the ledger that every successful call and every external
change keep holds along every run. -/
theorem Steps.inv (I : List Call → Ledger → Prop)
    (call : ∀ history L env metas input instruction writes, I history L →
      PoolingInstruction.unpack env.unpackUtil input = .ok instruction →
      processInstruction programId env (L.infos metas) input = .ok writes →
      I (⟨instruction, env.slot, writes.map Prod.fst⟩ :: history) (L.commit writes))
    (external : ∀ history L L', I history L → External programId L L' → I history L')
    {L L' : Ledger} {history later : List Call} (start : I history L)
    (steps : Steps programId L later L') : I (later ++ history) L' := by
  induction steps with
  | start => exact start
  | call env metas input _ unpacked processed ih =>
    exact call _ _ env metas input _ _ ih unpacked processed
  | external _ changed ih => exact external _ _ _ ih changed

/-- An invariant that holds of pristine ledgers and is kept along runs holds wherever the program
can get. -/
theorem Reach.inv (I : List Call → Ledger → Prop)
    (pristine : ∀ L, Pristine programId L → I [] L)
    (call : ∀ history L env metas input instruction writes, I history L →
      PoolingInstruction.unpack env.unpackUtil input = .ok instruction →
      processInstruction programId env (L.infos metas) input = .ok writes →
      I (⟨instruction, env.slot, writes.map Prod.fst⟩ :: history) (L.commit writes))
    (external : ∀ history L L', I history L → External programId L L' → I history L')
    {history : List Call} {L : Ledger} (reach : Reach programId history L) : I history L := by
  obtain ⟨L₀, zeroed, steps⟩ := reach
  simpa using Steps.inv I call external (pristine L₀ zeroed) steps

end

end AllwinPooling
