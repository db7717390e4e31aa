import AllwinPooling.State.Mining
import Mathlib.Data.List.Chain

/-!
# Watermark accrual

`refresh_deposit_unclaimed` and `refresh_unclaimed` accrue `(index - watermark) * amount` and
move the watermark to the index. Along any non-decreasing sequence of pool indices the deltas
telescope, and an overflow anywhere on the way is an overflow of the total, so a run of refreshes
is the single refresh to the last index.
-/

namespace AllwinPooling

/-! ### The accrual -/

theorem accrueMine_eq (u w : Decimal) (a : U64) (i : Decimal) :
    accrueMine u w a i =
      if fits : w.val ≤ i.val ∧ u.val + (i.val - w.val) * a.val < 2 ^ 192 then .ok ⟨_, fits.2⟩
      else fail .mathOverflow := by
  unfold accrueMine Decimal.trySub Decimal.tryMulU64 Decimal.tryAdd
  by_cases le : w.val ≤ i.val
  · rw [dif_pos le, ok_bind]
    by_cases fits : u.val + (i.val - w.val) * a.val < 2 ^ 192
    · have small : (i.val - w.val) * a.val < 2 ^ 192 := by omega
      rw [dif_pos small, ok_bind, dif_pos fits, dif_pos ⟨le, fits⟩]
    · rw [dif_neg (fun both : w.val ≤ i.val ∧ _ => fits both.2)]
      by_cases small : (i.val - w.val) * a.val < 2 ^ 192
      · rw [dif_pos small, ok_bind, dif_neg fits]
      · rw [dif_neg small, fail_eq, error_bind]
  · rw [dif_neg le, dif_neg (fun both : w.val ≤ i.val ∧ _ => le both.1), fail_eq, error_bind]

theorem accrueMine_eq_ok {u w i u' : Decimal} {a : U64} :
    accrueMine u w a i = .ok u' ↔
      w.val ≤ i.val ∧ u.val + (i.val - w.val) * a.val < 2 ^ 192 ∧
        u'.val = u.val + (i.val - w.val) * a.val := by
  rw [accrueMine_eq]
  by_cases fits : w.val ≤ i.val ∧ u.val + (i.val - w.val) * a.val < 2 ^ 192
  · rw [dif_pos fits, Except.ok.injEq, Decimal.mk_eq_iff]
    exact ⟨fun sum => ⟨fits.1, fits.2, sum⟩, fun ⟨_, _, sum⟩ => sum⟩
  · rw [dif_neg fits, fail_eq]
    exact ⟨nofun, fun ⟨le, small, _⟩ => absurd ⟨le, small⟩ fits⟩

/-- Two accruals along `w ≤ i ≤ j` are the one accrual from `w` to `j`, failures included. -/
theorem accrueMine_twice {u w i j : Decimal} {a : U64} (first : w.val ≤ i.val)
    (second : i.val ≤ j.val) :
    (accrueMine u w a i >>= fun u' => accrueMine u' i a j) = accrueMine u w a j := by
  have split : (j.val - w.val) * a.val = (i.val - w.val) * a.val + (j.val - i.val) * a.val := by
    rw [← Nat.add_mul]; congr 1; omega
  have grows : (i.val - w.val) * a.val ≤ (j.val - w.val) * a.val :=
    Nat.mul_le_mul_right _ (by omega)
  rw [accrueMine_eq u w a i, accrueMine_eq u w a j]
  by_cases fits : u.val + (i.val - w.val) * a.val < 2 ^ 192
  · simp only [first, fits, and_self, dite_true, ok_bind, accrueMine_eq, second, true_and,
      Nat.le_trans first second, split, ← Nat.add_assoc]
  · simp only [first, fits, and_false, dite_false, fail_eq, error_bind]
    rw [dif_neg (fun h => fits (by omega))]

/-- A run of steps that each move a watermark to the pool's index is the last step alone, when
two steps along non-decreasing indices are always the second step alone. -/
theorem foldlM_telescopes {σ : Type} (step : σ → Pool → Result σ) (mark : σ → Nat)
    (moves : ∀ s q s', step s q = .ok s' → mark s' = q.lottery.lTokenMiningIndex.val)
    (twice : ∀ s q r, mark s ≤ q.lottery.lTokenMiningIndex.val →
      q.lottery.lTokenMiningIndex.val ≤ r.lottery.lTokenMiningIndex.val →
      (step s q >>= fun s' => step s' r) = step s r) :
    ∀ (pools : List Pool) (last : Pool) (s : σ),
      List.Chain (· ≤ ·) (mark s) ((pools ++ [last]).map (·.lottery.lTokenMiningIndex.val)) →
      (pools ++ [last]).foldlM step s = step s last := by
  intro pools last
  induction pools with
  | nil =>
    intro s _
    show (step s last >>= fun s' => pure s') = step s last
    cases step s last <;> rfl
  | cons q pools ih =>
    intro s sorted
    rw [List.cons_append, List.map_cons, List.chain_cons] at sorted
    obtain ⟨first, rest⟩ := sorted
    have next : q.lottery.lTokenMiningIndex.val ≤ last.lottery.lTokenMiningIndex.val :=
      List.rel_of_pairwise_cons (List.chain_iff_pairwise.mp rest) (by simp)
    rw [List.cons_append, List.foldlM_cons, ← twice s q last first next]
    cases stepped : step s q with
    | error e => rfl
    | ok s' =>
      show (pools ++ [last]).foldlM step s' = step s' last
      exact ih s' (by rw [moves s q s' stepped]; exact rest)

/-! ### Tickets -/

namespace Ticket

variable {t t' : Ticket} {p : Nat} {reserve : Pool}

theorem refreshDepositUnclaimed_eq (inRange : p < t.deposits.length) (reserve : Pool) :
    t.refreshDepositUnclaimed p reserve =
      accrueMine t.unclaimedMine t.deposits[p].index t.deposits[p].depositedAmount
          reserve.lottery.lTokenMiningIndex >>= fun u =>
        .ok { t with
          unclaimedMine := u
          deposits := t.deposits.set p { t.deposits[p] with index := reserve.lottery.lTokenMiningIndex } } := by
  simp only [refreshDepositUnclaimed, listIndex_of_lt inRange, ok_bind]
  rfl

theorem refreshDepositUnclaimed_eq_ok (inRange : p < t.deposits.length) :
    t.refreshDepositUnclaimed p reserve = .ok t' ↔
      t.deposits[p].index.val ≤ reserve.lottery.lTokenMiningIndex.val ∧
      t.unclaimedMine.val + (reserve.lottery.lTokenMiningIndex.val - t.deposits[p].index.val) *
        t.deposits[p].depositedAmount.val < 2 ^ 192 ∧
      t'.unclaimedMine.val = t.unclaimedMine.val +
        (reserve.lottery.lTokenMiningIndex.val - t.deposits[p].index.val) * t.deposits[p].depositedAmount.val ∧
      t' = { t with
        unclaimedMine := t'.unclaimedMine
        deposits := t.deposits.set p { t.deposits[p] with index := reserve.lottery.lTokenMiningIndex } } := by
  rw [refreshDepositUnclaimed_eq inRange]
  constructor
  · intro h
    obtain ⟨u, accrued, h⟩ := bind_ok h
    cases h
    exact (accrueMine_eq_ok.mp accrued).imp_right fun ⟨fits, val⟩ => ⟨fits, val, rfl⟩
  · rintro ⟨le, fits, val, same⟩
    rw [accrueMine_eq_ok.mpr ⟨le, fits, val⟩, ok_bind]
    exact congrArg Except.ok same.symm

/-- The watermark of deposit `p`, zero when there is none. -/
def watermark (p : Nat) (t : Ticket) : Nat := (t.deposits[p]?.map (·.index.val)).getD 0

theorem refreshDepositUnclaimed_moves (h : t.refreshDepositUnclaimed p reserve = .ok t') :
    watermark p t' = reserve.lottery.lTokenMiningIndex.val := by
  unfold refreshDepositUnclaimed at h
  obtain ⟨e, found, h⟩ := bind_ok h
  obtain ⟨u, -, h⟩ := bind_ok h
  cases h
  obtain ⟨inRange, -⟩ := listIndex_eq_ok.mp found
  simp [watermark, List.getElem?_set, inRange]

theorem refreshDepositUnclaimed_twice (q r : Pool)
    (first : watermark p t ≤ q.lottery.lTokenMiningIndex.val)
    (second : q.lottery.lTokenMiningIndex.val ≤ r.lottery.lTokenMiningIndex.val) :
    (t.refreshDepositUnclaimed p q >>= fun t' => t'.refreshDepositUnclaimed p r) =
      t.refreshDepositUnclaimed p r := by
  by_cases inRange : p < t.deposits.length
  · have first : t.deposits[p].index.val ≤ q.lottery.lTokenMiningIndex.val := by
      simpa [watermark, List.getElem?_eq_getElem inRange] using first
    rw [refreshDepositUnclaimed_eq inRange, refreshDepositUnclaimed_eq inRange,
      ← accrueMine_twice first second]
    cases accrueMine t.unclaimedMine t.deposits[p].index t.deposits[p].depositedAmount
      q.lottery.lTokenMiningIndex with
    | error e => rfl
    | ok u =>
      simp only [ok_bind]
      rw [refreshDepositUnclaimed_eq (by simpa using inRange)]
      simp
  · simp [refreshDepositUnclaimed, listIndex_of_le (Nat.le_of_not_lt inRange)]

theorem refreshDepositUnclaimed_run (pools : List Pool) (last : Pool)
    (sorted : List.Chain (· ≤ ·) (watermark p t)
      ((pools ++ [last]).map (·.lottery.lTokenMiningIndex.val))) :
    (pools ++ [last]).foldlM (fun t q => t.refreshDepositUnclaimed p q) t =
      t.refreshDepositUnclaimed p last :=
  foldlM_telescopes _ (watermark p) (fun _ _ _ => refreshDepositUnclaimed_moves)
    (fun _ q r => refreshDepositUnclaimed_twice q r) pools last t sorted

theorem watermark_of_lt (inRange : p < t.deposits.length) :
    watermark p t = t.deposits[p].index.val := by
  simp [watermark, List.getElem?_eq_getElem inRange]

theorem refreshDepositUnclaimed_below (inRange : p < t.deposits.length)
    (below : reserve.lottery.lTokenMiningIndex.val < t.deposits[p].index.val) :
    t.refreshDepositUnclaimed p reserve = fail .mathOverflow := by
  rw [refreshDepositUnclaimed_eq inRange, accrueMine_eq, dif_neg (fun h => by omega)]
  rfl

theorem refreshDepositUnclaimed_idempotent (inRange : p < t.deposits.length) :
    (t.refreshDepositUnclaimed p reserve >>= fun t' => t'.refreshDepositUnclaimed p reserve) =
      t.refreshDepositUnclaimed p reserve := by
  by_cases le : t.deposits[p].index.val ≤ reserve.lottery.lTokenMiningIndex.val
  · exact refreshDepositUnclaimed_twice reserve reserve (by rwa [watermark_of_lt inRange])
      (Nat.le_refl _)
  · rw [refreshDepositUnclaimed_below inRange (by omega)]
    rfl

end Ticket

/-! ### Mining records -/

namespace Mining

variable {m m' : Mining} {p : Nat} {reserve : Pool}

theorem refreshUnclaimed_eq (inRange : p < m.miningIndices.length) (reserve : Pool) :
    m.refreshUnclaimed p reserve =
      accrueMine m.unclaimedMine m.miningIndices[p].index m.miningIndices[p].unCollLTokenAmount
          reserve.lottery.lTokenMiningIndex >>= fun u =>
        .ok { m with
          unclaimedMine := u
          miningIndices := m.miningIndices.set p
            { m.miningIndices[p] with index := reserve.lottery.lTokenMiningIndex } } := by
  simp only [refreshUnclaimed, listIndex_of_lt inRange, ok_bind]
  rfl

theorem refreshUnclaimed_eq_ok (inRange : p < m.miningIndices.length) :
    m.refreshUnclaimed p reserve = .ok m' ↔
      m.miningIndices[p].index.val ≤ reserve.lottery.lTokenMiningIndex.val ∧
      m.unclaimedMine.val + (reserve.lottery.lTokenMiningIndex.val - m.miningIndices[p].index.val) *
        m.miningIndices[p].unCollLTokenAmount.val < 2 ^ 192 ∧
      m'.unclaimedMine.val = m.unclaimedMine.val +
        (reserve.lottery.lTokenMiningIndex.val - m.miningIndices[p].index.val) *
          m.miningIndices[p].unCollLTokenAmount.val ∧
      m' = { m with
        unclaimedMine := m'.unclaimedMine
        miningIndices := m.miningIndices.set p
          { m.miningIndices[p] with index := reserve.lottery.lTokenMiningIndex } } := by
  rw [refreshUnclaimed_eq inRange]
  constructor
  · intro h
    obtain ⟨u, accrued, h⟩ := bind_ok h
    cases h
    exact (accrueMine_eq_ok.mp accrued).imp_right fun ⟨fits, val⟩ => ⟨fits, val, rfl⟩
  · rintro ⟨le, fits, val, same⟩
    rw [accrueMine_eq_ok.mpr ⟨le, fits, val⟩, ok_bind]
    exact congrArg Except.ok same.symm

/-- The watermark of entry `p`, zero when there is none. -/
def watermark (p : Nat) (m : Mining) : Nat := (m.miningIndices[p]?.map (·.index.val)).getD 0

theorem refreshUnclaimed_moves (h : m.refreshUnclaimed p reserve = .ok m') :
    watermark p m' = reserve.lottery.lTokenMiningIndex.val := by
  have inRange : p < m.miningIndices.length := by
    by_contra out
    simp [refreshUnclaimed, listIndex_of_le (Nat.le_of_not_lt out)] at h
  obtain ⟨-, -, -, same⟩ := (refreshUnclaimed_eq_ok inRange).mp h
  rw [same]
  simp [watermark, List.getElem?_set, inRange]

theorem refreshUnclaimed_twice (q r : Pool)
    (first : watermark p m ≤ q.lottery.lTokenMiningIndex.val)
    (second : q.lottery.lTokenMiningIndex.val ≤ r.lottery.lTokenMiningIndex.val) :
    (m.refreshUnclaimed p q >>= fun m' => m'.refreshUnclaimed p r) = m.refreshUnclaimed p r := by
  by_cases inRange : p < m.miningIndices.length
  · have first : m.miningIndices[p].index.val ≤ q.lottery.lTokenMiningIndex.val := by
      simpa [watermark, List.getElem?_eq_getElem inRange] using first
    rw [refreshUnclaimed_eq inRange, refreshUnclaimed_eq inRange, ← accrueMine_twice first second]
    cases accrueMine m.unclaimedMine m.miningIndices[p].index m.miningIndices[p].unCollLTokenAmount
      q.lottery.lTokenMiningIndex with
    | error e => rfl
    | ok u =>
      simp only [ok_bind]
      rw [refreshUnclaimed_eq (by simpa using inRange)]
      simp
  · simp [refreshUnclaimed, listIndex_of_le (Nat.le_of_not_lt inRange)]

theorem refreshUnclaimed_run (pools : List Pool) (last : Pool)
    (sorted : List.Chain (· ≤ ·) (watermark p m)
      ((pools ++ [last]).map (·.lottery.lTokenMiningIndex.val))) :
    (pools ++ [last]).foldlM (fun m q => m.refreshUnclaimed p q) m = m.refreshUnclaimed p last :=
  foldlM_telescopes _ (watermark p) (fun _ _ _ => refreshUnclaimed_moves)
    (fun _ q r => refreshUnclaimed_twice q r) pools last m sorted

theorem watermark_of_lt (inRange : p < m.miningIndices.length) :
    watermark p m = m.miningIndices[p].index.val := by
  simp [watermark, List.getElem?_eq_getElem inRange]

theorem refreshUnclaimed_below (inRange : p < m.miningIndices.length)
    (below : reserve.lottery.lTokenMiningIndex.val < m.miningIndices[p].index.val) :
    m.refreshUnclaimed p reserve = fail .mathOverflow := by
  rw [refreshUnclaimed_eq inRange, accrueMine_eq, dif_neg (fun h => by omega)]
  rfl

theorem refreshUnclaimed_idempotent (inRange : p < m.miningIndices.length) :
    (m.refreshUnclaimed p reserve >>= fun m' => m'.refreshUnclaimed p reserve) =
      m.refreshUnclaimed p reserve := by
  by_cases le : m.miningIndices[p].index.val ≤ reserve.lottery.lTokenMiningIndex.val
  · exact refreshUnclaimed_twice reserve reserve (by rwa [watermark_of_lt inRange]) (Nat.le_refl _)
  · rw [refreshUnclaimed_below inRange (by omega)]
    rfl

end Mining

/-- In a chain rising from `w`, the last element is at least `w`. -/
theorem chain_last_ge {w : Nat} {l : List Nat} {x : Nat} (sorted : List.Chain (· ≤ ·) w (l ++ [x])) :
    w ≤ x :=
  List.rel_of_pairwise_cons (List.chain_iff_pairwise.mp sorted) (by simp)

/-! ### Path independence -/

/-- Refreshing deposit `p` of a ticket at pools whose indices rise from its watermark `w` to a
last index `i` is the single refresh at the last pool: it succeeds exactly when
`unclaimed + amount * (i - w)` fits, raises `unclaimed_mine` by that much and moves the
watermark to `i`. A pool below the watermark is refused. The same for an entry of a mining
record. -/
theorem watermark_refresh_path_independent :
    (∀ (t : Ticket) (p : Nat) (inRange : p < t.deposits.length) (pools : List Pool) (last : Pool),
      List.Chain (· ≤ ·) t.deposits[p].index.val
        ((pools ++ [last]).map (·.lottery.lTokenMiningIndex.val)) →
      (pools ++ [last]).foldlM (fun t q => t.refreshDepositUnclaimed p q) t =
        t.refreshDepositUnclaimed p last ∧
      ∀ t', t.refreshDepositUnclaimed p last = .ok t' ↔
        t.unclaimedMine.val + (last.lottery.lTokenMiningIndex.val - t.deposits[p].index.val) *
          t.deposits[p].depositedAmount.val < 2 ^ 192 ∧
        t'.unclaimedMine.val = t.unclaimedMine.val +
          (last.lottery.lTokenMiningIndex.val - t.deposits[p].index.val) *
            t.deposits[p].depositedAmount.val ∧
        t' = { t with
          unclaimedMine := t'.unclaimedMine
          deposits := t.deposits.set p { t.deposits[p] with index := last.lottery.lTokenMiningIndex } }) ∧
    (∀ (t : Ticket) (p : Nat) (pool : Pool) (inRange : p < t.deposits.length),
      (t.refreshDepositUnclaimed p pool >>= fun t' => t'.refreshDepositUnclaimed p pool) =
        t.refreshDepositUnclaimed p pool ∧
      (pool.lottery.lTokenMiningIndex.val < t.deposits[p].index.val →
        t.refreshDepositUnclaimed p pool = fail .mathOverflow)) ∧
    (∀ (m : Mining) (p : Nat) (inRange : p < m.miningIndices.length) (pools : List Pool) (last : Pool),
      List.Chain (· ≤ ·) m.miningIndices[p].index.val
        ((pools ++ [last]).map (·.lottery.lTokenMiningIndex.val)) →
      (pools ++ [last]).foldlM (fun m q => m.refreshUnclaimed p q) m = m.refreshUnclaimed p last ∧
      ∀ m', m.refreshUnclaimed p last = .ok m' ↔
        m.unclaimedMine.val + (last.lottery.lTokenMiningIndex.val - m.miningIndices[p].index.val) *
          m.miningIndices[p].unCollLTokenAmount.val < 2 ^ 192 ∧
        m'.unclaimedMine.val = m.unclaimedMine.val +
          (last.lottery.lTokenMiningIndex.val - m.miningIndices[p].index.val) *
            m.miningIndices[p].unCollLTokenAmount.val ∧
        m' = { m with
          unclaimedMine := m'.unclaimedMine
          miningIndices := m.miningIndices.set p
            { m.miningIndices[p] with index := last.lottery.lTokenMiningIndex } }) ∧
    (∀ (m : Mining) (p : Nat) (pool : Pool) (inRange : p < m.miningIndices.length),
      (m.refreshUnclaimed p pool >>= fun m' => m'.refreshUnclaimed p pool) =
        m.refreshUnclaimed p pool ∧
      (pool.lottery.lTokenMiningIndex.val < m.miningIndices[p].index.val →
        m.refreshUnclaimed p pool = fail .mathOverflow)) := by
  refine ⟨fun t p inRange pools last sorted => ⟨?_, fun t' => ?_⟩, fun t p pool inRange => ⟨?_, ?_⟩,
    fun m p inRange pools last sorted => ⟨?_, fun m' => ?_⟩, fun m p pool inRange => ⟨?_, ?_⟩⟩
  · exact Ticket.refreshDepositUnclaimed_run pools last (by rwa [Ticket.watermark_of_lt inRange])
  · have le := chain_last_ge (by simpa only [List.map_append, List.map_singleton] using sorted)
    exact (Ticket.refreshDepositUnclaimed_eq_ok inRange).trans ⟨fun h => h.2, fun h => ⟨le, h⟩⟩
  · exact Ticket.refreshDepositUnclaimed_idempotent inRange
  · exact Ticket.refreshDepositUnclaimed_below inRange
  · exact Mining.refreshUnclaimed_run pools last (by rwa [Mining.watermark_of_lt inRange])
  · have le := chain_last_ge (by simpa only [List.map_append, List.map_singleton] using sorted)
    exact (Mining.refreshUnclaimed_eq_ok inRange).trans ⟨fun h => h.2, fun h => ⟨le, h⟩⟩
  · exact Mining.refreshUnclaimed_idempotent inRange
  · exact Mining.refreshUnclaimed_below inRange

/-- The spec's scenario: a deposit of 500 at index 0, refreshed through pools at indices 0.0001
and 0.0005, accrues `0.0005 × 500 = 0.25` exactly as one refresh at 0.0005 does. -/
theorem watermark_refresh_spec_scenario :
    ([{ (default : Pool) with lottery := { (default : Lottery) with
        lTokenMiningIndex := ⟨100000000000000, by decide⟩ } }] ++
      [{ (default : Pool) with lottery := { (default : Lottery) with
        lTokenMiningIndex := ⟨500000000000000, by decide⟩ } }]).foldlM
      (fun t q => t.refreshDepositUnclaimed 0 q)
      { (default : Ticket) with deposits := [{ (default : TicketCollateral) with depositedAmount := 500 }] } =
    Ticket.refreshDepositUnclaimed
      { (default : Ticket) with deposits := [{ (default : TicketCollateral) with depositedAmount := 500 }] } 0
      { (default : Pool) with lottery := { (default : Lottery) with
        lTokenMiningIndex := ⟨500000000000000, by decide⟩ } } :=
  (watermark_refresh_path_independent.1 _ 0 (by decide)
    [{ (default : Pool) with lottery := { (default : Lottery) with
        lTokenMiningIndex := ⟨100000000000000, by decide⟩ } }]
    { (default : Pool) with lottery := { (default : Lottery) with
        lTokenMiningIndex := ⟨500000000000000, by decide⟩ } }
    (.cons (by decide) (.cons (by decide) .nil))).1

end AllwinPooling
