import AllwinPooling.Processor.Run
import AllwinPooling.Liquidity.Lifecycle

/-!
# What a successful instruction does

One inversion lemma per handler: a successful call writes nothing, or writes one account it was
given, which this program owns, and leaves there either a new record over a blank one or an
updated copy of the record that account held. Each handler is taken apart once, in its lemma;
`processInstruction_ok` gathers them, and every invariant of a run is proved from it rather than
from the handlers.
-/

namespace AllwinPooling

/-- `RefreshTicket` at the clock's slot: the loop over the deposits with the pool accounts that
follow the ticket and the clock among the call's `accounts`, then the total value and a fresh
`last_update`. -/
def Ticket.Refreshes (programId : Pubkey) (env : Env) (accounts : List AccountInfo)
    (t t' : Ticket) : Prop :=
  ∃ pools, (∀ info ∈ pools, info ∈ accounts) ∧ ∃ u value,
    refreshTicketDeposits programId env env.slot t.deposits.length 0 t Decimal.zero pools =
      .ok (u, value, []) ∧
    t' = { u with depositedValue := value, lastUpdate := u.lastUpdate.updateSlot env.slot }

/-- What a successful instruction, given `accounts`, leaves in the one account it writes, over the
data `old` that account held. -/
inductive Rewrite (programId : Pubkey) (env : Env) (accounts : List AccountInfo) :
    PoolingInstruction → List UInt8 → List UInt8 → Prop
  | initPoolingManager {owner quoteCurrency : Pubkey} {old new : List UInt8} (blank : PoolManager)
      (params : InitPoolManagerParams) :
      PoolManager.packable.unpackUnchecked old = .ok blank →
      PoolManager.packable.isInitialized blank = false →
      PoolManager.packable.pack (PoolManager.init params) old = .ok new →
      Rewrite programId env accounts (.initPoolingManager owner quoteCurrency) old new
  | initPool {config : PoolConfig} {totalMiningSpeed kinkUtilRate : U64} {usePythOracle : Bool}
      {old new : List UInt8} (blank p : Pool) :
      Pool.packable.unpackUnchecked old = .ok blank → Pool.packable.isInitialized blank = false →
      p.Initial → p.lastUpdate = LastUpdate.new env.slot → Pool.packable.pack p old = .ok new →
      Rewrite programId env accounts (.initPool config totalMiningSpeed kinkUtilRate usePythOracle)
        old new
  | initTicket {old new : List UInt8} (blank : Ticket) (poolManager owner : Pubkey) :
      Ticket.packable.unpackUnchecked old = .ok blank →
      Ticket.packable.isInitialized blank = false →
      Ticket.packable.pack (blank.init ⟨env.slot, poolManager, owner, []⟩) old = .ok new →
      Rewrite programId env accounts .initTicket old new
  | refreshPool {old new : List UInt8} (p q : Pool) :
      Pool.packable.unpack old = .ok p → p.Refreshes env.slot q →
      Pool.packable.pack q old = .ok new →
      Rewrite programId env accounts .refreshPool old new
  | depositPoolLiquidity {amount : U64} {old new : List UInt8} (p q : Pool) :
      Pool.packable.unpack old = .ok p → p.Deposits env.slot q →
      Pool.packable.pack q old = .ok new →
      Rewrite programId env accounts (.depositPoolLiquidity amount) old new
  | redeemPoolCollateral {amount : U64} {old new : List UInt8} (p q : Pool) :
      Pool.packable.unpack old = .ok p → p.Redeems env.slot q → Pool.packable.pack q old = .ok new →
      Rewrite programId env accounts (.redeemPoolCollateral amount) old new
  | refreshTicket {old new : List UInt8} (t t' : Ticket) :
      Ticket.packable.unpack old = .ok t → t.Refreshes programId env accounts t' →
      Ticket.packable.pack t' old = .ok new → Rewrite programId env accounts .refreshTicket old new

/-- The one account a call wrote: one it was given and this program owns, and what it left. -/
def WritesOne (programId : Pubkey) (env : Env) (instruction : PoolingInstruction)
    (accounts : List AccountInfo) (writes : Writes) : Prop :=
  ∃ info ∈ accounts, info.owner = programId ∧
    ∃ new, writes = [(info.key, new)] ∧ Rewrite programId env accounts instruction info.data new

/-- Among the accounts a call was given, one at `key` that this program owns and that holds an
initialized pool manager. -/
def ManagerGiven (programId : Pubkey) (accounts : List AccountInfo) (key : Pubkey) : Prop :=
  ∃ info ∈ accounts, info.key = key ∧ info.owner = programId ∧
    ∃ m, PoolManager.packable.unpack info.data = .ok m

/-- `authority` is the address derived from the pool manager at `key`, one of the call's accounts,
and that manager's bump seed: the signer the pool's mint and supply account answer to. -/
def ManagerAuthority (programId : Pubkey) (env : Env) (accounts : List AccountInfo)
    (key authority : Pubkey) : Prop :=
  ∃ info ∈ accounts, info.key = key ∧ ∃ m, PoolManager.packable.unpack info.data = .ok m ∧
    env.createProgramAddress [key.toList, [m.bumpSeed]] programId = .ok authority

section
variable {programId : Pubkey} {env : Env} {accounts rest : List AccountInfo} {info : AccountInfo}
  {writes : Writes}

theorem nextAccountInfo_ok :
    nextAccountInfo accounts = .ok (info, rest) ↔ accounts = info :: rest := by
  cases accounts <;> simp [nextAccountInfo, eq_comm]

theorem clockFromAccountInfo_ok {slot : Slot} (clock : env.clockFromAccountInfo info = .ok slot) :
    slot = env.slot := by
  unfold Env.clockFromAccountInfo at clock
  split at clock
  · cases clock; rfl
  · cases clock

theorem accountAt_mem {i : Nat} (found : accountAt accounts i = .ok info) : info ∈ accounts :=
  List.getElem?_mem (okOr_ok found)

theorem accountAt_unique {i : Nat} {info' : AccountInfo} (found : accountAt accounts i = .ok info)
    (again : accountAt accounts i = .ok info') : info' = info :=
  Except.ok.inj (again.symm.trans found)

theorem assertUninitialized_ok {α : Type} {P : Packable α} {v : α}
    (checked : assertUninitialized P info = .ok v) :
    P.unpackUnchecked info.data = .ok v ∧ P.isInitialized v = false := by
  obtain ⟨w, decoded, checked⟩ := bind_ok checked
  unfold fail at checked
  split at checked
  · cases checked
  next live =>
    cases checked
    exact ⟨decoded, Bool.eq_false_iff.mpr live⟩

theorem invokeToken_ok {tokenProgram : AccountInfo} {instruction : TokenInstruction}
    {failed : PoolingError} {u : Unit}
    (invoked : invokeToken env tokenProgram instruction failed = .ok u) :
    tokenProgram.key = env.splTokenId ∧ env.invoke instruction = true := by
  obtain ⟨key, invoked⟩ := ensure_bind_ok.mp invoked
  exact ⟨key, ensure_ok invoked⟩

/-! ### One lemma per handler -/

theorem processRefreshReserve_spec
    (processed : processRefreshReserve programId env accounts = .ok writes) :
    WritesOne programId env .refreshPool accounts writes := by
  obtain ⟨⟨reserveInfo, iter⟩, first, processed⟩ := bind_ok processed
  obtain ⟨_, -, processed⟩ := bind_ok processed
  obtain ⟨_, -, processed⟩ := bind_ok processed
  obtain ⟨slot, clock, processed⟩ := bind_ok processed
  obtain ⟨p, unpacked, processed⟩ := bind_ok processed
  obtain ⟨owned, processed⟩ := ensure_bind_ok.mp processed
  obtain ⟨-, processed⟩ := ensure_bind_ok.mp processed
  obtain ⟨marketPrice, -, processed⟩ := bind_ok processed
  obtain ⟨r, indexed, processed⟩ := bind_ok processed
  obtain ⟨new, packed, processed⟩ := bind_ok processed
  cases processed
  cases clockFromAccountInfo_ok clock
  exact ⟨reserveInfo, by simp [nextAccountInfo_ok.mp first], owned, new, rfl,
    .refreshPool p _ unpacked ⟨marketPrice, r, indexed, rfl⟩ packed⟩

theorem processInitPoolManager_spec {owner quoteCurrency : Pubkey}
    (processed : processInitPoolManager programId env owner quoteCurrency accounts = .ok writes) :
    WritesOne programId env (.initPoolingManager owner quoteCurrency) accounts writes := by
  obtain ⟨⟨_, iter⟩, first, processed⟩ := bind_ok processed
  obtain ⟨⟨poolManagerInfo, _⟩, second, processed⟩ := bind_ok processed
  iterate 9 obtain ⟨_, -, processed⟩ := bind_ok processed
  obtain ⟨blank, uninitialized, processed⟩ := bind_ok processed
  obtain ⟨owned, processed⟩ := ensure_bind_ok.mp processed
  obtain ⟨new, packed, processed⟩ := bind_ok processed
  cases processed
  obtain ⟨decoded, blankUninitialized⟩ := assertUninitialized_ok uninitialized
  exact ⟨poolManagerInfo, by simp [nextAccountInfo_ok.mp first, nextAccountInfo_ok.mp second],
    owned, new, rfl, .initPoolingManager blank _ decoded blankUninitialized packed⟩

/-- `InitPool` writes a new pool over the blank reserve account, and the pool names the pool
manager account it checked. -/
theorem processInitPool_spec {config : PoolConfig} {totalMiningSpeed kinkUtilRate : U64}
    {usePythOracle : Bool}
    (processed : processInitPool programId env config totalMiningSpeed kinkUtilRate usePythOracle
      accounts = .ok writes) :
    WritesOne programId env (.initPool config totalMiningSpeed kinkUtilRate usePythOracle)
      accounts writes ∧
    ∀ w ∈ writes, ∀ q, Pool.packable.unpack w.2 = .ok q →
      ManagerGiven programId accounts q.poolManager := by
  iterate 6 obtain ⟨_, -, processed⟩ := bind_ok processed
  obtain ⟨ownedInfo, ownedAt, processed⟩ := bind_ok processed
  obtain ⟨owned, processed⟩ := ensure_bind_ok.mp processed
  iterate 6 obtain ⟨_, -, processed⟩ := bind_ok processed
  obtain ⟨managerInfo, managerAt, processed⟩ := bind_ok processed
  obtain ⟨m, unpacked, processed⟩ := bind_ok processed
  iterate 4 obtain ⟨_, -, processed⟩ := bind_ok processed
  obtain ⟨checkedInfo, checkedAt, processed⟩ := bind_ok processed
  obtain ⟨managerOwned, processed⟩ := ensure_bind_ok.mp processed
  iterate 23 obtain ⟨_, -, processed⟩ := bind_ok processed
  obtain ⟨slot, clock, processed⟩ := bind_ok processed
  obtain ⟨blankInfo, blankAt, processed⟩ := bind_ok processed
  obtain ⟨blank, uninitialized, processed⟩ := bind_ok processed
  obtain ⟨recordedInfo, recordedAt, processed⟩ := bind_ok processed
  iterate 7 obtain ⟨_, -, processed⟩ := bind_ok processed
  obtain ⟨reserveInfo, reserveAt, processed⟩ := bind_ok processed
  obtain ⟨new, packed, processed⟩ := bind_ok processed
  cases processed
  cases clockFromAccountInfo_ok clock
  rw [accountAt_unique reserveAt ownedAt] at owned
  rw [accountAt_unique reserveAt blankAt] at uninitialized
  rw [accountAt_unique managerAt checkedAt] at managerOwned
  obtain ⟨decoded, blankUninitialized⟩ := assertUninitialized_ok uninitialized
  refine ⟨⟨reserveInfo, accountAt_mem reserveAt, owned, new, rfl,
    .initPool blank _ decoded blankUninitialized ⟨_, _, _, _, _, _, _, _, _, rfl⟩ rfl packed⟩, ?_⟩
  intro w written q stored
  obtain rfl := List.mem_singleton.mp written
  obtain rfl := Packable.unpack_unique (Pool.packable_lawful.unpack_pack packed
    (show PROGRAM_VERSION ≤ PROGRAM_VERSION by decide)
    (show PROGRAM_VERSION ≠ UNINITIALIZED_VERSION by decide)) stored
  exact ⟨managerInfo, accountAt_mem managerAt, by rw [accountAt_unique managerAt recordedAt]; rfl,
    managerOwned, m, unpacked⟩

/-- `InitTicket` writes a new ticket over the blank account it is given first, and the ticket
names the pool manager account it checked. -/
theorem processInitTicket_spec (processed : processInitTicket programId env accounts = .ok writes) :
    WritesOne programId env .initTicket accounts writes ∧
    ∀ w ∈ writes, ∀ t, Ticket.packable.unpack w.2 = .ok t →
      ManagerGiven programId accounts t.poolManager := by
  obtain ⟨⟨ticketInfo, iter⟩, first, processed⟩ := bind_ok processed
  obtain ⟨⟨managerInfo, _⟩, second, processed⟩ := bind_ok processed
  iterate 2 obtain ⟨_, -, processed⟩ := bind_ok processed
  obtain ⟨slot, clock, processed⟩ := bind_ok processed
  iterate 4 obtain ⟨_, -, processed⟩ := bind_ok processed
  obtain ⟨blank, uninitialized, processed⟩ := bind_ok processed
  obtain ⟨owned, processed⟩ := ensure_bind_ok.mp processed
  obtain ⟨m, unpacked, processed⟩ := bind_ok processed
  obtain ⟨managerOwned, processed⟩ := ensure_bind_ok.mp processed
  iterate 2 obtain ⟨_, -, processed⟩ := bind_ok processed
  obtain ⟨new, packed, processed⟩ := bind_ok processed
  cases processed
  cases clockFromAccountInfo_ok clock
  obtain ⟨decoded, blankUninitialized⟩ := assertUninitialized_ok uninitialized
  rw [nextAccountInfo_ok] at first second
  subst first second
  refine ⟨⟨ticketInfo, List.mem_cons_self _ _, owned, new, rfl,
    .initTicket blank _ _ decoded blankUninitialized packed⟩, ?_⟩
  intro w written t stored
  obtain rfl := List.mem_singleton.mp written
  obtain rfl := Packable.unpack_unique (Ticket.packable_lawful.unpack_pack packed
    (show PROGRAM_VERSION ≤ PROGRAM_VERSION by decide)
    (show PROGRAM_VERSION ≠ UNINITIALIZED_VERSION by decide)) stored
  exact ⟨managerInfo, by simp, rfl, managerOwned, m, unpacked⟩

/-- What a successful deposit checked and did: the pool it read was the program's, fresh, unlocked
and open to deposits; it wrote back the pool `deposit_liquidity` left, marked stale; and it asked
the token program to move the liquidity in and to mint the collateral out under the pool
manager's authority. -/
theorem processDepositPoolLiquidity_spec {amount : U64}
    (processed : processDepositPoolLiquidity programId env amount accounts = .ok writes) :
    ∃ reserveInfo ∈ accounts, reserveInfo.owner = programId ∧ ∃ p r liquidity collateral new,
      Pool.packable.unpack reserveInfo.data = .ok p ∧ p.lastUpdate.isStale env.slot = .ok false ∧
      p.reentryLock = false ∧ p.config.depositPaused = false ∧
      p.depositLiquidity liquidity = .ok (collateral, r) ∧
      Pool.packable.pack { r with lastUpdate := r.lastUpdate.markStale } reserveInfo.data =
        .ok new ∧ writes = [(reserveInfo.key, new)] ∧
      ∃ source destination user authority, source ≠ p.liquidity.supplyPubkey ∧
        destination ≠ p.collateral.supplyPubkey ∧
        ManagerAuthority programId env accounts p.poolManager authority ∧
        env.invoke (.transfer source p.liquidity.supplyPubkey user liquidity) = true ∧
        env.invoke (.mintTo p.collateral.mintPubkey destination authority collateral) = true := by
  obtain ⟨-, processed⟩ := ensure_bind_ok.mp processed
  obtain ⟨⟨sourceInfo, iter⟩, first, processed⟩ := bind_ok processed
  obtain ⟨⟨destinationInfo, iter⟩, second, processed⟩ := bind_ok processed
  obtain ⟨⟨reserveInfo, iter⟩, third, processed⟩ := bind_ok processed
  obtain ⟨⟨mintInfo, iter⟩, fourth, processed⟩ := bind_ok processed
  obtain ⟨⟨supplyInfo, iter⟩, fifth, processed⟩ := bind_ok processed
  obtain ⟨⟨managerInfo, iter⟩, sixth, processed⟩ := bind_ok processed
  iterate 3 obtain ⟨_, -, processed⟩ := bind_ok processed
  obtain ⟨slot, clock, processed⟩ := bind_ok processed
  obtain ⟨_, -, processed⟩ := bind_ok processed
  obtain ⟨m, managerOk, processed⟩ := bind_ok processed
  iterate 2 obtain ⟨-, processed⟩ := ensure_bind_ok.mp processed
  obtain ⟨p, unpacked, processed⟩ := bind_ok processed
  obtain ⟨owned, processed⟩ := ensure_bind_ok.mp processed
  obtain ⟨managed, processed⟩ := ensure_bind_ok.mp processed
  obtain ⟨supplied, processed⟩ := ensure_bind_ok.mp processed
  obtain ⟨minted, processed⟩ := ensure_bind_ok.mp processed
  obtain ⟨sourceOther, processed⟩ := ensure_bind_ok.mp processed
  obtain ⟨destinationOther, processed⟩ := ensure_bind_ok.mp processed
  obtain ⟨stale, staleOk, processed⟩ := bind_ok processed
  obtain ⟨fresh, processed⟩ := ensure_bind_ok.mp processed
  obtain ⟨unlocked, processed⟩ := ensure_bind_ok.mp processed
  obtain ⟨unpaused, processed⟩ := ensure_bind_ok.mp processed
  obtain ⟨authority, derived, processed⟩ := bind_ok processed
  obtain ⟨authorized, processed⟩ := ensure_bind_ok.mp processed
  iterate 3 obtain ⟨_, -, processed⟩ := bind_ok processed
  obtain ⟨liquidity, -, processed⟩ := bind_ok processed
  obtain ⟨⟨collateral, r⟩, deposited, processed⟩ := bind_ok processed
  obtain ⟨new, packed, processed⟩ := bind_ok processed
  obtain ⟨_, transferred, processed⟩ := bind_ok processed
  obtain ⟨_, mintedTo, processed⟩ := bind_ok processed
  cases processed
  cases clockFromAccountInfo_ok clock
  subst fresh
  rw [nextAccountInfo_ok] at first second third fourth fifth sixth
  subst first second third fourth fifth sixth
  have transfer := (invokeToken_ok transferred).2
  have mint := (invokeToken_ok mintedTo).2
  rw [← supplied] at transfer
  rw [← minted, ← authorized] at mint
  refine ⟨reserveInfo, by simp, owned, p, r, liquidity, collateral, new, unpacked, staleOk, unlocked,
    unpaused, deposited, packed, rfl, sourceInfo.key, destinationInfo.key, _, authority,
    Ne.symm sourceOther, Ne.symm destinationOther,
    ⟨managerInfo, by simp, managed.symm, m, managerOk, ?_⟩, transfer, mint⟩
  rwa [managed]

theorem processDepositPoolLiquidity_ok {amount : U64}
    (processed : processDepositPoolLiquidity programId env amount accounts = .ok writes) :
    WritesOne programId env (.depositPoolLiquidity amount) accounts writes :=
  let ⟨reserveInfo, named, owned, p, r, liquidity, collateral, new, unpacked, staleOk, unlocked,
    unpaused, deposited, packed, written, _⟩ := processDepositPoolLiquidity_spec processed
  ⟨reserveInfo, named, owned, new, written, .depositPoolLiquidity p _ unpacked
    ⟨staleOk, unlocked, unpaused, liquidity, collateral, r, deposited, rfl⟩ packed⟩

/-- What a successful redemption checked and did: the pool it read was the program's, fresh and
unlocked; it wrote back the pool `redeem_collateral` left, marked stale; and it asked the token
program to burn the collateral and to move the liquidity out under the pool manager's
authority. -/
theorem processRedeemPoolCollateral_spec {amount : U64}
    (processed : processRedeemPoolCollateral programId env amount accounts = .ok writes) :
    ∃ reserveInfo ∈ accounts, reserveInfo.owner = programId ∧ ∃ p r collateral liquidity new,
      Pool.packable.unpack reserveInfo.data = .ok p ∧ p.lastUpdate.isStale env.slot = .ok false ∧
      p.reentryLock = false ∧ p.redeemCollateral collateral = .ok (liquidity, r) ∧
      Pool.packable.pack { r with lastUpdate := r.lastUpdate.markStale } reserveInfo.data =
        .ok new ∧ writes = [(reserveInfo.key, new)] ∧
      ∃ source destination user authority, source ≠ p.collateral.supplyPubkey ∧
        destination ≠ p.liquidity.supplyPubkey ∧
        ManagerAuthority programId env accounts p.poolManager authority ∧
        env.invoke (.burn source p.collateral.mintPubkey user collateral) = true ∧
        env.invoke (.transfer p.liquidity.supplyPubkey destination authority liquidity) = true := by
  obtain ⟨-, processed⟩ := ensure_bind_ok.mp processed
  obtain ⟨⟨sourceInfo, iter⟩, first, processed⟩ := bind_ok processed
  obtain ⟨⟨destinationInfo, iter⟩, second, processed⟩ := bind_ok processed
  obtain ⟨⟨reserveInfo, iter⟩, third, processed⟩ := bind_ok processed
  obtain ⟨⟨mintInfo, iter⟩, fourth, processed⟩ := bind_ok processed
  obtain ⟨⟨supplyInfo, iter⟩, fifth, processed⟩ := bind_ok processed
  obtain ⟨⟨managerInfo, iter⟩, sixth, processed⟩ := bind_ok processed
  iterate 3 obtain ⟨_, -, processed⟩ := bind_ok processed
  obtain ⟨slot, clock, processed⟩ := bind_ok processed
  obtain ⟨_, -, processed⟩ := bind_ok processed
  obtain ⟨m, managerOk, processed⟩ := bind_ok processed
  iterate 2 obtain ⟨-, processed⟩ := ensure_bind_ok.mp processed
  obtain ⟨p, unpacked, processed⟩ := bind_ok processed
  obtain ⟨owned, processed⟩ := ensure_bind_ok.mp processed
  obtain ⟨managed, processed⟩ := ensure_bind_ok.mp processed
  obtain ⟨minted, processed⟩ := ensure_bind_ok.mp processed
  obtain ⟨sourceOther, processed⟩ := ensure_bind_ok.mp processed
  obtain ⟨supplied, processed⟩ := ensure_bind_ok.mp processed
  obtain ⟨destinationOther, processed⟩ := ensure_bind_ok.mp processed
  obtain ⟨stale, staleOk, processed⟩ := bind_ok processed
  obtain ⟨fresh, processed⟩ := ensure_bind_ok.mp processed
  obtain ⟨unlocked, processed⟩ := ensure_bind_ok.mp processed
  obtain ⟨authority, derived, processed⟩ := bind_ok processed
  obtain ⟨authorized, processed⟩ := ensure_bind_ok.mp processed
  iterate 3 obtain ⟨_, -, processed⟩ := bind_ok processed
  obtain ⟨collateral, -, processed⟩ := bind_ok processed
  obtain ⟨⟨liquidity, r⟩, redeemed, processed⟩ := bind_ok processed
  obtain ⟨new, packed, processed⟩ := bind_ok processed
  obtain ⟨_, burnt, processed⟩ := bind_ok processed
  obtain ⟨_, transferred, processed⟩ := bind_ok processed
  cases processed
  cases clockFromAccountInfo_ok clock
  subst fresh
  rw [nextAccountInfo_ok] at first second third fourth fifth sixth
  subst first second third fourth fifth sixth
  have burn := (invokeToken_ok burnt).2
  have transfer := (invokeToken_ok transferred).2
  rw [← minted] at burn
  rw [← supplied, ← authorized] at transfer
  refine ⟨reserveInfo, by simp, owned, p, r, collateral, liquidity, new, unpacked, staleOk, unlocked,
    redeemed, packed, rfl, sourceInfo.key, destinationInfo.key, _, authority,
    Ne.symm sourceOther, Ne.symm destinationOther,
    ⟨managerInfo, by simp, managed.symm, m, managerOk, ?_⟩, burn, transfer⟩
  rwa [managed]

theorem processRedeemPoolCollateral_ok {amount : U64}
    (processed : processRedeemPoolCollateral programId env amount accounts = .ok writes) :
    WritesOne programId env (.redeemPoolCollateral amount) accounts writes :=
  let ⟨reserveInfo, named, owned, p, r, collateral, liquidity, new, unpacked, staleOk, unlocked,
    redeemed, packed, written, _⟩ := processRedeemPoolCollateral_spec processed
  ⟨reserveInfo, named, owned, new, written, .redeemPoolCollateral p _ unpacked
    ⟨staleOk, unlocked, collateral, liquidity, r, redeemed, rfl⟩ packed⟩

/-! ### The deposit loop of `RefreshTicket` -/

/-- What a ticket refresh never changes: the version, owner and pool manager, and each deposit's
pool and amount; the unclaimed rewards only grow. -/
structure Ticket.Grows (t u : Ticket) : Prop where
  version : u.version = t.version
  owner : u.owner = t.owner
  poolManager : u.poolManager = t.poolManager
  positions : u.deposits.map (fun c => (c.depositReserve, c.depositedAmount)) =
    t.deposits.map (fun c => (c.depositReserve, c.depositedAmount))
  unclaimed : t.unclaimedMine.val ≤ u.unclaimedMine.val

theorem Ticket.Grows.refl (t : Ticket) : t.Grows t := ⟨rfl, rfl, rfl, rfl, Nat.le_refl _⟩

theorem Ticket.Grows.trans {t u v : Ticket} (first : t.Grows u) (second : u.Grows v) : t.Grows v :=
  ⟨second.version.trans first.version, second.owner.trans first.owner,
    second.poolManager.trans first.poolManager, second.positions.trans first.positions,
    Nat.le_trans first.unclaimed second.unclaimed⟩

theorem Ticket.Grows.reserves {t u : Ticket} (grows : t.Grows u) :
    u.deposits.map (·.depositReserve) = t.deposits.map (·.depositReserve) := by
  have := congrArg (List.map Prod.fst) grows.positions
  simpa only [List.map_map] using this

/-- Rewriting deposit `pos` with one of the same pool and amount keeps the positions. -/
theorem positions_set {l : List TicketCollateral} {pos : Nat} {c : TicketCollateral}
    (inRange : pos < l.length)
    (same : c.depositReserve = l[pos].depositReserve ∧ c.depositedAmount = l[pos].depositedAmount) :
    (l.set pos c).map (fun c => (c.depositReserve, c.depositedAmount)) =
      l.map (fun c => (c.depositReserve, c.depositedAmount)) := by
  apply List.ext_getElem (by simp)
  intro j _ _
  by_cases here : pos = j
  · subst here; simp [same.1, same.2]
  · simp [List.getElem_set, here]

/-- One turn of the deposit loop, in full: the pool it reads, and the ticket it goes on with, in
which deposit `pos` has its price and its pool's index and the rewards in between are accrued. -/
theorem refreshTicketDeposits_succ_eq_ok {slot : Slot} {n pos : Nat} {t u : Ticket}
    {value value' : Decimal} {iter rest : List AccountInfo}
    (looped : refreshTicketDeposits programId env slot (n + 1) pos t value iter =
      .ok (u, value', rest)) :
    ∃ (inRange : pos < t.deposits.length) (info : AccountInfo) (iter' : List AccountInfo)
      (p : Pool) (marketValue value'' : Decimal) (t' : Ticket),
      iter = info :: iter' ∧ info.owner = programId ∧
      info.key = t.deposits[pos].depositReserve ∧
      Pool.packable.unpack info.data = .ok p ∧ p.lastUpdate.isStale slot = .ok false ∧
      value''.val = value.val + marketValue.val ∧
      t'.unclaimedMine.val = t.unclaimedMine.val + t.deposits[pos].depositedAmount.val *
        (p.lottery.lTokenMiningIndex.val - t.deposits[pos].index.val) ∧
      t' = { t with
        unclaimedMine := t'.unclaimedMine
        deposits := t.deposits.set pos
          { t.deposits[pos] with marketValue, index := p.lottery.lTokenMiningIndex } } ∧
      refreshTicketDeposits programId env slot n (pos + 1) t' value'' iter' =
        .ok (u, value', rest) := by
  obtain ⟨⟨info, iter'⟩, next, looped⟩ := bind_ok looped
  obtain ⟨owned, looped⟩ := ensure_bind_ok.mp looped
  obtain ⟨collateral, found, looped⟩ := bind_ok looped
  obtain ⟨named, looped⟩ := ensure_bind_ok.mp looped
  obtain ⟨p, unpacked, looped⟩ := bind_ok looped
  obtain ⟨stale, staleOk, looped⟩ := bind_ok looped
  obtain ⟨fresh, looped⟩ := ensure_bind_ok.mp looped
  iterate 4 obtain ⟨_, -, looped⟩ := bind_ok looped
  obtain ⟨marketValue, -, looped⟩ := bind_ok looped
  obtain ⟨value'', summed, looped⟩ := bind_ok looped
  obtain ⟨t', refreshed, continued⟩ := bind_ok looped
  subst fresh
  obtain ⟨inRange, rfl⟩ := listIndex_eq_ok.mp found
  obtain ⟨-, -, accrued, frame⟩ :=
    (Ticket.refreshDepositUnclaimed_eq_ok (by simpa using inRange)).mp refreshed
  simp only [List.getElem_set_self] at accrued frame
  refine ⟨inRange, info, iter', p, marketValue, value'', t', nextAccountInfo_ok.mp next, owned,
    named.symm, unpacked, staleOk, (Decimal.tryAdd_eq_ok.mp summed).2, ?_, ?_, continued⟩
  · rw [accrued, Nat.mul_comm]
  · rw [frame, List.set_set]

/-- One turn of the deposit loop: the next account is the pool of deposit `pos`, owned by the
program and fresh at `slot`; the ticket only grows; and the loop goes on from the next deposit. -/
theorem refreshTicketDeposits_succ_ok {slot : Slot} {n pos : Nat} {t u : Ticket}
    {value value' : Decimal} {iter rest : List AccountInfo}
    (looped : refreshTicketDeposits programId env slot (n + 1) pos t value iter =
      .ok (u, value', rest)) :
    ∃ info iter' t' value'', iter = info :: iter' ∧ info.owner = programId ∧
      (t.deposits.map (·.depositReserve))[pos]? = some info.key ∧
      (∃ p, Pool.packable.unpack info.data = .ok p ∧ p.lastUpdate.isStale slot = .ok false) ∧
      t.Grows t' ∧
      refreshTicketDeposits programId env slot n (pos + 1) t' value'' iter' =
        .ok (u, value', rest) := by
  obtain ⟨inRange, info, iter', p, _, value'', t', rfl, owned, named, unpacked, fresh, -, accrued,
    frame, continued⟩ := refreshTicketDeposits_succ_eq_ok looped
  refine ⟨info, iter', t', value'', rfl, owned, by simp [inRange, named], ⟨p, unpacked, fresh⟩, ?_,
    continued⟩
  rw [frame]
  exact ⟨rfl, rfl, rfl, positions_set inRange ⟨rfl, rfl⟩,
    le_of_le_of_eq (Nat.le_add_right _ _) accrued.symm⟩

/-- Every pool the loop reads is named in order by the deposits, owned by the program, and fresh
at `slot`. -/
theorem refreshTicketDeposits_fresh {slot : Slot} {n pos : Nat} {t u : Ticket}
    {value value' : Decimal} {iter rest : List AccountInfo}
    (looped : refreshTicketDeposits programId env slot n pos t value iter = .ok (u, value', rest))
    {j : Nat} (from_pos : pos ≤ j) (before : j < pos + n) {key : Pubkey}
    (named : (t.deposits.map (·.depositReserve))[j]? = some key) :
    ∃ info ∈ iter, info.key = key ∧ info.owner = programId ∧
      ∃ p, Pool.packable.unpack info.data = .ok p ∧ p.lastUpdate.isStale slot = .ok false := by
  induction n generalizing pos t value iter with
  | zero => omega
  | succ n ih =>
    obtain ⟨info, iter', t', value'', rfl, owned, head, fresh, grows, looped⟩ :=
      refreshTicketDeposits_succ_ok looped
    by_cases here : j = pos
    · subst here
      rw [named, Option.some.injEq] at head
      exact ⟨info, List.mem_cons_self _ _, head.symm, owned, fresh⟩
    · obtain ⟨info', member, found⟩ := ih looped (by omega) (by omega) (grows.reserves ▸ named)
      exact ⟨info', List.mem_cons_of_mem _ member, found⟩

/-- The loop leaves a ticket that only grew. -/
theorem refreshTicketDeposits_grows {slot : Slot} {n pos : Nat} {t u : Ticket}
    {value value' : Decimal} {iter rest : List AccountInfo}
    (looped : refreshTicketDeposits programId env slot n pos t value iter = .ok (u, value', rest)) :
    t.Grows u := by
  induction n generalizing pos t value iter with
  | zero => cases looped; exact .refl _
  | succ n ih =>
    obtain ⟨_, _, _, _, -, -, -, -, grows, looped⟩ := refreshTicketDeposits_succ_ok looped
    exact grows.trans (ih looped)

theorem processRefreshTicket_spec
    (processed : processRefreshTicket programId env accounts = .ok writes) :
    WritesOne programId env .refreshTicket accounts writes := by
  obtain ⟨⟨ticketInfo, iter⟩, first, processed⟩ := bind_ok processed
  obtain ⟨⟨clockInfo, pools⟩, second, processed⟩ := bind_ok processed
  obtain ⟨slot, clock, processed⟩ := bind_ok processed
  obtain ⟨t, unpacked, processed⟩ := bind_ok processed
  obtain ⟨owned, processed⟩ := ensure_bind_ok.mp processed
  obtain ⟨⟨u, value, left⟩, looped, processed⟩ := bind_ok processed
  obtain ⟨empty, processed⟩ := ensure_bind_ok.mp processed
  obtain ⟨new, packed, processed⟩ := bind_ok processed
  cases processed
  cases clockFromAccountInfo_ok clock
  cases List.isEmpty_iff.mp empty
  rw [nextAccountInfo_ok.mp first, nextAccountInfo_ok.mp second]
  exact ⟨ticketInfo, List.mem_cons_self _ _, owned, new, rfl, .refreshTicket t _ unpacked
    ⟨pools, fun _ member => .tail _ (.tail _ member), u, value, looped, rfl⟩ packed⟩

/-- A successful call decoded its instruction, and wrote nothing or one account as that
instruction's handler does. -/
theorem processInstruction_ok {input : List UInt8}
    (processed : processInstruction programId env accounts input = .ok writes) :
    ∃ instruction, PoolingInstruction.unpack env.unpackUtil input = .ok instruction ∧
      (writes = [] ∨ WritesOne programId env instruction accounts writes) := by
  obtain ⟨instruction, unpacked, processed⟩ := bind_ok processed
  refine ⟨instruction, unpacked, ?_⟩
  cases instruction with
  | initPoolingManager => exact .inr (processInitPoolManager_spec processed)
  | setPoolingManagerOwner => exact .inl (Except.ok.inj processed).symm
  | initPool => exact .inr (processInitPool_spec processed).1
  | refreshPool => exact .inr (processRefreshReserve_spec processed)
  | depositPoolLiquidity => exact .inr (processDepositPoolLiquidity_ok processed)
  | redeemPoolCollateral => exact .inr (processRedeemPoolCollateral_ok processed)
  | initTicket => exact .inr (processInitTicket_spec processed).1
  | refreshTicket => exact .inr (processRefreshTicket_spec processed)
  | lotteryDraw => exact .inl (Except.ok.inj processed).symm

end

end AllwinPooling
