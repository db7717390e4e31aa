import Mathlib.Logic.Basic
import Mathlib.Algebra.Group.Int

/-!
# Errors and the failure monad

The program's calls return `Result<_, ProgramError>` and can also panic. Both are failures of
the call; `Fault` keeps them apart so that "never panics" can be stated.
-/

namespace AllwinPooling

/-- Modelled from the spec: the `error` module's `PoolingError`, the variants the modelled code
raises. -/
inductive PoolingError where
  | mathOverflow
  | insufficientLiquidity
  | invalidAmount
  | invalidAccountInput
  | invalidAccountOwner
  | invalidSigner
  | invalidMarketOwner
  | invalidMarketAuthority
  | invalidTokenProgram
  | invalidTokenOwner
  | invalidTokenMint
  | invalidOracleConfig
  | notRentExempt
  | alreadyInitialized
  | reserveStale
  | reentryLocked
  | depositPaused
  | depositAmountTooLarge
  | redeemAmountTooLarge
  | tokenTransferFailed
  | tokenMintToFailed
  | tokenBurnFailed
  | obligationDepositsEmpty
  | invalidObligationCollateral
  | obligationReserveLimit
  | miningReserveEmpty
  | invalidMiningReserve
  | miningVolumeLimit
  | instructionUnpackError
  deriving DecidableEq, Repr

/-- The runtime's `ProgramError`, with `PoolingError::X.into()` as `custom`. -/
inductive ProgramError where
  | custom (e : PoolingError)
  | invalidAccountData
  | uninitializedAccount
  | notEnoughAccountKeys
  | invalidArgument
  | incorrectProgramId
  | invalidSeeds
  deriving DecidableEq, Repr

/-- How a call fails: it returns a `ProgramError`, or it panics (a slice or index out of range,
an `unwrap` or `expect` on a failure). -/
inductive Fault where
  | error (e : ProgramError)
  | panic
  deriving DecidableEq, Repr

instance : Coe PoolingError Fault := ⟨fun e => .error (.custom e)⟩

instance : Coe ProgramError Fault := ⟨.error⟩

/-- A call of the program: a value, or the failure that ended it. -/
abbrev Result (α : Type) := Except Fault α

instance instDecidableEqExcept {ε α : Type} [DecidableEq ε] [DecidableEq α] :
    DecidableEq (Except ε α)
  | .error a, .error b => decidable_of_iff (a = b) ⟨congrArg _, Except.error.inj⟩
  | .ok a, .ok b => decidable_of_iff (a = b) ⟨congrArg _, Except.ok.inj⟩
  | .error _, .ok _ => isFalse nofun
  | .ok _, .error _ => isFalse nofun

/-- `Err(e.into())` for a `PoolingError`. -/
def fail {α : Type} (e : PoolingError) : Result α := throw (e : Fault)

/-- `if !cond { msg!(..); return Err(e) }`, the guard the handlers are written in. -/
def ensure (cond : Prop) [Decidable cond] (e : Fault) : Result Unit :=
  if cond then pure () else throw e

/-- `x.ok_or(e)?` on an `Option`. -/
def okOr {α : Type} (x : Option α) (e : Fault) : Result α :=
  match x with
  | some a => pure a
  | none => throw e

/-- `v[i]` on a `Vec`: panics out of range. -/
def listIndex {α : Type} (l : List α) (i : Nat) : Result α :=
  match l[i]? with
  | some a => .ok a
  | none => .error .panic

/-! ### Peeling successful calls -/

section
variable {α β : Type} {x : Result α} {f : α → Result β} {b : β}

theorem bind_ok (h : x >>= f = .ok b) : ∃ a, x = .ok a ∧ f a = .ok b := by
  cases x with
  | error e => cases h
  | ok a => exact ⟨a, rfl, h⟩

theorem bind_eq_ok : x >>= f = .ok b ↔ ∃ a, x = .ok a ∧ f a = .ok b :=
  ⟨bind_ok, fun ⟨_, first, rest⟩ => by rw [first]; exact rest⟩

@[simp] theorem ok_bind (a : α) : (Except.ok a : Result α) >>= f = f a := rfl

@[simp] theorem error_bind (e : Fault) : (Except.error e : Result α) >>= f = .error e := rfl

@[simp] theorem pure_eq_ok (a : α) : (pure a : Result α) = .ok a := rfl

@[simp] theorem throw_eq_error (e : Fault) : (throw e : Result α) = .error e := rfl

@[simp] theorem fail_eq (e : PoolingError) : (fail e : Result α) = .error (.error (.custom e)) := rfl

theorem exists_ok_of_toBool (succeeded : x.toBool = true) : ∃ a, x = .ok a := by
  cases x with
  | ok a => exact ⟨a, rfl⟩
  | error _ => cases succeeded

theorem exists_ok_of_toOption_map {g : α → β} (mapped : x.toOption.map g = some b) :
    ∃ a, x = .ok a ∧ g a = b := by
  cases x with
  | ok a => exact ⟨a, rfl, Option.some.inj mapped⟩
  | error _ => cases mapped

theorem dite_eq_ok {P : Prop} [Decidable P] {v : P → α} {e : Fault} {a : α} :
    (if h : P then (.ok (v h) : Result α) else .error e) = .ok a ↔ ∃ h : P, v h = a := by
  split <;> simp_all

theorem ensure_ok {cond : Prop} [Decidable cond] {e : Fault} {u : Unit}
    (h : ensure cond e = .ok u) : cond := by
  unfold ensure at h
  split at h
  · assumption
  · cases h

@[simp] theorem ensure_bind_ok {cond : Prop} [Decidable cond] {e : Fault} {g : Unit → Result β} :
    ensure cond e >>= g = .ok b ↔ cond ∧ g () = .ok b := by
  unfold ensure
  split <;> simp_all

@[simp] theorem ensure_of_true {cond : Prop} [Decidable cond] {e : Fault} (holds : cond) :
    ensure cond e = .ok () := by
  simp [ensure, holds]

theorem ensure_of_false {cond : Prop} [Decidable cond] {e : Fault} (fails : ¬cond) :
    ensure cond e = .error e := by
  simp [ensure, fails]

/-! ### Calls that do not panic -/

theorem bind_ne_panic (first : x ≠ .error .panic) (rest : ∀ a, f a ≠ .error .panic) :
    x >>= f ≠ .error .panic := by
  cases x with
  | error e => simpa using first
  | ok a => exact rest a

theorem ensure_ne_panic {cond : Prop} [Decidable cond] (e : ProgramError) :
    ensure cond (e : Fault) ≠ .error .panic := by
  unfold ensure
  split <;> simp

theorem okOr_ok {x : Option α} {e : Fault} {a : α} (h : okOr x e = .ok a) : x = some a := by
  cases x with
  | none => cases h
  | some a' => cases h; rfl

theorem okOr_eq_ok {x : Option α} {e : Fault} {a : α} : okOr x e = .ok a ↔ x = some a :=
  ⟨okOr_ok, fun some => by rw [some]; rfl⟩

@[simp] theorem okOr_some (a : α) (e : Fault) : okOr (some a) e = .ok a := rfl

theorem listIndex_of_lt {l : List α} {i : Nat} (inRange : i < l.length) :
    listIndex l i = .ok l[i] := by
  simp [listIndex, List.getElem?_eq_getElem inRange]

theorem listIndex_of_le {l : List α} {i : Nat} (outOfRange : l.length ≤ i) :
    listIndex l i = .error .panic := by
  simp [listIndex, List.getElem?_eq_none outOfRange]

theorem listIndex_eq_ok {l : List α} {i : Nat} {a : α} :
    listIndex l i = .ok a ↔ ∃ inRange : i < l.length, l[i] = a := by
  by_cases inRange : i < l.length
  · rw [listIndex_of_lt inRange, Except.ok.injEq]
    exact ⟨fun same => ⟨inRange, same⟩, fun ⟨_, same⟩ => same⟩
  · rw [listIndex_of_le (Nat.le_of_not_lt inRange)]
    exact iff_of_false nofun fun ⟨within, _⟩ => inRange within

@[simp] theorem okOr_none (e : Fault) : okOr (none : Option α) e = .error e := rfl

end

end AllwinPooling
