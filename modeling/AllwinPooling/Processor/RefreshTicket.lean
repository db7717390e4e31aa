import AllwinPooling.Processor.Effects
import AllwinPooling.Processor.PythPrice

/-!
# Refreshing a ticket

What `process_refresh_ticket` stores. It reads, after the ticket and the clock, exactly one
account per deposit, in order: the deposit's pool, owned by the program and fresh at the clock's
slot. It prices every deposit, moves each watermark to its pool's lending index and accrues the
rewards in between, sums the prices into `deposited_value`, and marks the ticket fresh.
-/

namespace AllwinPooling

theorem take_set_self {α : Type} (l : List α) (i : Nat) (a : α) :
    (l.set i a).take i = l.take i := by
  apply List.ext_getElem (by simp)
  intro j inSet _
  have before : j < i := by simp only [List.length_take, List.length_set] at inSet; omega
  simp only [List.getElem_take, List.getElem_set, if_neg (Nat.ne_of_gt before)]

section
variable {programId : Pubkey} {env : Env}

/-- The deposit loop from deposit `pos` to the last: the accounts it reads, one fresh pool of the
program per deposit and in order; the deposits from `pos` on keep their pool and amount and take
their pool's index; the prices they take add up to what the running total grew by; and the
rewards accrued are the amounts times the index each watermark moved by. -/
theorem refreshTicketDeposits_eq_ok {slot : Slot} {n pos : Nat} {t u : Ticket}
    {value value' : Decimal} {iter rest : List AccountInfo}
    (looped : refreshTicketDeposits programId env slot n pos t value iter = .ok (u, value', rest))
    (through : pos + n = t.deposits.length) :
    ∃ reads : List (AccountInfo × Pool), iter = reads.map Prod.fst ++ rest ∧
      (∀ read ∈ reads, read.1.owner = programId ∧ Pool.packable.unpack read.1.data = .ok read.2 ∧
        read.2.lastUpdate.isStale slot = .ok false) ∧
      reads.map (·.1.key) = (t.deposits.drop pos).map (·.depositReserve) ∧
      u.deposits.take pos = t.deposits.take pos ∧
      (u.deposits.drop pos).map (fun c => (c.depositReserve, c.depositedAmount)) =
        (t.deposits.drop pos).map (fun c => (c.depositReserve, c.depositedAmount)) ∧
      (u.deposits.drop pos).map (·.index) = reads.map (·.2.lottery.lTokenMiningIndex) ∧
      value'.val = value.val + ((u.deposits.drop pos).map (·.marketValue.val)).sum ∧
      u.unclaimedMine.val = t.unclaimedMine.val + (List.zipWith
        (fun c p => c.depositedAmount.val * (p.lottery.lTokenMiningIndex.val - c.index.val))
        (t.deposits.drop pos) (reads.map Prod.snd)).sum ∧
      u = { t with deposits := u.deposits, unclaimedMine := u.unclaimedMine } := by
  induction n generalizing pos t value iter with
  | zero =>
    cases looped
    rw [List.drop_eq_nil_of_le (by omega)]
    exact ⟨[], rfl, fun _ member => absurd member (List.not_mem_nil _), rfl, rfl, rfl, rfl, rfl,
      rfl, rfl⟩
  | succ n ih =>
    obtain ⟨inRange, info, iter', p, marketValue, value'', t', rfl, owned, named, unpacked, fresh,
      summed, accrued, frame, continued⟩ := refreshTicketDeposits_succ_eq_ok looped
    have deposits' : t'.deposits = t.deposits.set pos
        { t.deposits[pos] with marketValue, index := p.lottery.lTokenMiningIndex } :=
      congrArg Ticket.deposits frame
    have through' : pos + 1 + n = t'.deposits.length := by rw [deposits', List.length_set]; omega
    obtain ⟨reads, rfl, reads_ok, keys, before, positions, indices, total, rewards, frame'⟩ :=
      ih continued through'
    have after : t'.deposits.drop (pos + 1) = t.deposits.drop (pos + 1) := by
      rw [deposits', List.drop_set_of_lt _ _ (Nat.lt_succ_self pos)]
    have long : pos < u.deposits.length := by
      have := congrArg List.length before
      simp only [List.length_take, deposits', List.length_set] at this
      omega
    have at_pos : u.deposits[pos] =
        { t.deposits[pos] with marketValue, index := p.lottery.lTokenMiningIndex } := by
      have := congrArg (·[pos]?) before
      simp only [List.getElem?_take, if_pos (Nat.lt_succ_self pos), deposits',
        List.getElem?_set_self inRange, List.getElem?_eq_getElem long, Option.some.injEq] at this
      exact this
    have tail : u.deposits.drop pos = u.deposits[pos] :: u.deposits.drop (pos + 1) :=
      List.drop_eq_getElem_cons long
    have tail' : t.deposits.drop pos = t.deposits[pos] :: t.deposits.drop (pos + 1) :=
      List.drop_eq_getElem_cons inRange
    refine ⟨(info, p) :: reads, rfl, ?_, ?_, ?_, ?_, ?_, ?_, ?_, ?_⟩
    · rintro read (_ | ⟨_, member⟩)
      exacts [⟨owned, unpacked, fresh⟩, reads_ok read member]
    · rw [tail', List.map_cons, List.map_cons, keys, after, named]
    · have := congrArg (List.take pos) before
      rwa [List.take_take, List.take_take, Nat.min_eq_left (Nat.le_succ pos), deposits',
        take_set_self] at this
    · rw [tail, tail', List.map_cons, List.map_cons, positions, after, at_pos]
    · rw [tail, List.map_cons, List.map_cons, indices, at_pos]
    · rw [total, summed, tail, List.map_cons, List.sum_cons, at_pos, Nat.add_assoc]
    · rw [rewards, accrued, after, tail', List.map_cons, List.zipWith_cons_cons, List.sum_cons,
        Nat.add_assoc]
    · rw [frame', frame]

end

/-! ### `process_refresh_ticket` -/

theorem refresh_ticket_prices_its_own_fresh_pools {programId : Pubkey} {env : Env}
    {accounts : List AccountInfo} {writes : Writes}
    (processed : processRefreshTicket programId env accounts = .ok writes) :
    ∃ (ticketInfo clockInfo : AccountInfo) (t : Ticket) (reads : List (AccountInfo × Pool))
      (data : List UInt8) (t' : Ticket),
      accounts = ticketInfo :: clockInfo :: reads.map Prod.fst ∧
      Ticket.packable.unpack ticketInfo.data = .ok t ∧
      reads.map (·.1.key) = t.deposits.map (·.depositReserve) ∧
      (∀ read ∈ reads, read.1.owner = programId ∧ Pool.packable.unpack read.1.data = .ok read.2 ∧
        read.2.lastUpdate.isStale env.slot = .ok false) ∧
      writes = [(ticketInfo.key, data)] ∧ Ticket.packable.unpack data = .ok t' ∧
      t'.depositedValue.val = (t'.deposits.map (·.marketValue.val)).sum ∧
      t'.deposits.map (·.index) = reads.map (·.2.lottery.lTokenMiningIndex) ∧
      t'.unclaimedMine.val = t.unclaimedMine.val + (List.zipWith
        (fun c p => c.depositedAmount.val * (p.lottery.lTokenMiningIndex.val - c.index.val))
        t.deposits (reads.map Prod.snd)).sum ∧
      t'.lastUpdate = ⟨env.slot, false⟩ ∧
      t'.version = t.version ∧ t'.poolManager = t.poolManager ∧ t'.owner = t.owner ∧
      t'.deposits.map (fun c => (c.depositReserve, c.depositedAmount)) =
        t.deposits.map (fun c => (c.depositReserve, c.depositedAmount)) := by
  obtain ⟨⟨ticketInfo, iter⟩, first, processed⟩ := bind_ok processed
  obtain ⟨⟨clockInfo, pools⟩, second, processed⟩ := bind_ok processed
  obtain ⟨slot, clock, processed⟩ := bind_ok processed
  obtain ⟨t, unpacked, processed⟩ := bind_ok processed
  obtain ⟨-, processed⟩ := ensure_bind_ok.mp processed
  obtain ⟨⟨u, value, left⟩, looped, processed⟩ := bind_ok processed
  obtain ⟨empty, processed⟩ := ensure_bind_ok.mp processed
  obtain ⟨data, packed, processed⟩ := bind_ok processed
  cases processed
  cases clockFromAccountInfo_ok clock
  cases List.isEmpty_iff.mp empty
  obtain ⟨reads, rfl, reads_ok, keys, -, positions, indices, total, rewards, frame⟩ :=
    refreshTicketDeposits_eq_ok looped (Nat.zero_add _)
  simp only [List.drop_zero] at keys positions indices total rewards
  obtain ⟨-, live, current⟩ := Ticket.packable_lawful.version_of_unpack unpacked
  have version : u.version = t.version := by rw [frame]
  rw [← version] at live current
  refine ⟨ticketInfo, clockInfo, t, reads, data, _, ?_, unpacked, keys, reads_ok, rfl,
    Ticket.packable_lawful.unpack_pack packed current live, ?_, indices, rewards, rfl, version,
    show u.poolManager = t.poolManager by rw [frame], show u.owner = t.owner by rw [frame],
    positions⟩
  · rw [nextAccountInfo_ok.mp first, nextAccountInfo_ok.mp second, List.append_nil]
  · rw [total, Decimal.zero_val, Nat.zero_add]

/-- A pool of the program that is fresh at slot 0 and lends at `index`. -/
def freshLayoutPool (index : Decimal) : Pool :=
  { layoutPool with
    lastUpdate := ⟨0, false⟩
    lottery := { layoutPool.lottery with lTokenMiningIndex := index } }

/-- A ticket with two deposits, in two pools, whose watermarks lag behind their pools' indices. -/
def twoDepositTicket : Ticket where
  version := 1
  lastUpdate := ⟨0, true⟩
  poolManager := layoutKey 3
  owner := layoutKey 20
  deposits := [⟨⟨10 ^ 18, by decide⟩, layoutKey 50, 100, Decimal.zero⟩,
    ⟨⟨2 * 10 ^ 18, by decide⟩, layoutKey 80, 300, Decimal.zero⟩]
  depositedValue := Decimal.zero
  unclaimedMine := ⟨7 * 10 ^ 18, by decide⟩

/-- The ticket, the clock, and the ticket's two pools in the order of its deposits. -/
def twoDepositAccounts : List AccountInfo :=
  [⟨layoutKey 110, false, 0, layoutKey 1,
      (Ticket.packable.pack twoDepositTicket (List.replicate OBLIGATION_LEN 0)).toOption.getD []⟩,
    ⟨default, false, 0, default, []⟩,
    ⟨layoutKey 50, false, 0, layoutKey 1,
      (Pool.packable.pack (freshLayoutPool ⟨5 * 10 ^ 18, by decide⟩)
        (List.replicate RESERVE_LEN 0)).toOption.getD []⟩,
    ⟨layoutKey 80, false, 0, layoutKey 1,
      (Pool.packable.pack (freshLayoutPool ⟨9 * 10 ^ 18, by decide⟩)
        (List.replicate RESERVE_LEN 0)).toOption.getD []⟩]

set_option maxRecDepth 8000 in
/-- The two-deposit ticket refreshed at slot 0 reads both its pools. -/
theorem two_deposit_ticket_refresh_reads_its_pools :
    let env := priceEnv ⟨.price, 1, 0, by decide, by decide⟩
    ∃ writes, processRefreshTicket (layoutKey 1) env twoDepositAccounts = .ok writes ∧
    ∃ (ticketInfo clockInfo : AccountInfo) (t : Ticket) (reads : List (AccountInfo × Pool))
      (data : List UInt8) (t' : Ticket),
      twoDepositAccounts = ticketInfo :: clockInfo :: reads.map Prod.fst ∧
      Ticket.packable.unpack ticketInfo.data = .ok t ∧
      reads.map (·.1.key) = t.deposits.map (·.depositReserve) ∧
      (∀ read ∈ reads, read.1.owner = layoutKey 1 ∧
        Pool.packable.unpack read.1.data = .ok read.2 ∧
        read.2.lastUpdate.isStale env.slot = .ok false) ∧
      writes = [(ticketInfo.key, data)] ∧ Ticket.packable.unpack data = .ok t' ∧
      t'.depositedValue.val = (t'.deposits.map (·.marketValue.val)).sum ∧
      t'.deposits.map (·.index) = reads.map (·.2.lottery.lTokenMiningIndex) ∧
      t'.unclaimedMine.val = t.unclaimedMine.val + (List.zipWith
        (fun c p => c.depositedAmount.val * (p.lottery.lTokenMiningIndex.val - c.index.val))
        t.deposits (reads.map Prod.snd)).sum ∧
      t'.lastUpdate = ⟨env.slot, false⟩ ∧
      t'.version = t.version ∧ t'.poolManager = t.poolManager ∧ t'.owner = t.owner ∧
      t'.deposits.map (fun c => (c.depositReserve, c.depositedAmount)) =
        t.deposits.map (fun c => (c.depositReserve, c.depositedAmount)) := by
  have succeeded : (processRefreshTicket (layoutKey 1) (priceEnv ⟨.price, 1, 0, by decide, by decide⟩)
      twoDepositAccounts).toBool = true := by decide
  obtain ⟨writes, run⟩ := exists_ok_of_toBool succeeded
  exact ⟨writes, run, refresh_ticket_prices_its_own_fresh_pools run⟩

end AllwinPooling
