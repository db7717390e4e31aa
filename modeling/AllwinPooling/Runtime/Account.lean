import AllwinPooling.Codec.Mining
import AllwinPooling.Codec.Pool

/-!
# Accounts

What the runtime hands an instruction: the accounts it names, each with its key, owner, balance
and data, and the `Pack` trait that turns account data into records and back. The other programs
an instruction talks to, the sysvars, the token program and the oracle, make up an `Env`.
-/

namespace AllwinPooling

/-- `AccountInfo`: one account named by an instruction. -/
structure AccountInfo where
  key : Pubkey
  isSigner : Bool
  lamports : Nat
  owner : Pubkey
  data : List UInt8

/-- `next_account_info`: the next account of the iterator, `NotEnoughAccountKeys` past the end. -/
def nextAccountInfo : List AccountInfo → Result (AccountInfo × List AccountInfo)
  | [] => throw (ProgramError.notEnoughAccountKeys : Fault)
  | info :: rest => .ok (info, rest)

/-- `accounts.get(i).ok_or(PoolingError::InvalidAccountInput)?`. -/
def accountAt (accounts : List AccountInfo) (i : Nat) : Result AccountInfo :=
  okOr accounts[i]? PoolingError.invalidAccountInput

/-- The base-58 alphabet of `Pubkey::to_string`. -/
def BASE58_ALPHABET : List Char :=
  "123456789ABCDEFGHJKLMNPQRSTUVWXYZabcdefghijkmnopqrstuvwxyz".toList

/-- The base-58 digits of `n`, most significant first, at most `fuel` of them. -/
def base58Digits : Nat → Nat → List Nat
  | 0, _ => []
  | fuel + 1, n => if n = 0 then [] else base58Digits fuel (n / 58) ++ [n % 58]

/-- `Pubkey::to_string`: the key's bytes read big-endian in base 58, after a `1` for each leading
zero byte. Forty-four digits hold any 32-byte key. -/
def Pubkey.toBase58 (key : Pubkey) : String :=
  let zeros := (key.toList.takeWhile (· = 0)).length
  let value := key.toList.foldl (fun acc b => acc * 256 + b.toNat) 0
  String.mk (List.replicate zeros '1' ++ (base58Digits 44 value).map (BASE58_ALPHABET.getD · '1'))

/-! ### The `Pack` trait -/

/-- A record type with its `Pack` and `IsInitialized` implementations. -/
structure Packable (α : Type) where
  len : Nat
  packIntoSlice : α → List UInt8 → Result (List UInt8)
  unpackFromSlice : List UInt8 → Result α
  isInitialized : α → Bool

namespace Packable

variable {α : Type} (P : Packable α)

/-- `Pack::pack`: a buffer of another length is `InvalidAccountData`. -/
def pack (src : α) (dst : List UInt8) : Result (List UInt8) :=
  if dst.length = P.len then P.packIntoSlice src dst
  else throw (ProgramError.invalidAccountData : Fault)

/-- `Pack::unpack_unchecked`: a buffer of another length is `InvalidAccountData`. -/
def unpackUnchecked (input : List UInt8) : Result α :=
  if input.length = P.len then P.unpackFromSlice input
  else throw (ProgramError.invalidAccountData : Fault)

/-- `Pack::unpack`: an uninitialized record is `UninitializedAccount`. -/
def unpack (input : List UInt8) : Result α := do
  let value ← P.unpackUnchecked input
  if P.isInitialized value then return value
  else throw (ProgramError.uninitializedAccount : Fault)

end Packable

/-- `impl Pack for PoolManager`. -/
def PoolManager.packable : Packable PoolManager where
  len := POOL_MANAGER_LEN
  packIntoSlice := PoolManager.packIntoSlice
  unpackFromSlice := PoolManager.unpackFromSlice
  isInitialized m := m.version != UNINITIALIZED_VERSION

/-- `impl Pack for Pool`. -/
def Pool.packable : Packable Pool where
  len := RESERVE_LEN
  packIntoSlice := Pool.packIntoSlice
  unpackFromSlice := Pool.unpackFromSlice
  isInitialized p := p.version != UNINITIALIZED_VERSION

/-- `impl Pack for Ticket`. -/
def Ticket.packable : Packable Ticket where
  len := OBLIGATION_LEN
  packIntoSlice := Ticket.packIntoSlice
  unpackFromSlice := Ticket.unpackFromSlice
  isInitialized t := t.version != UNINITIALIZED_VERSION

/-- `impl Pack for Mining`. -/
def Mining.packable : Packable Mining where
  len := MINING_LEN
  packIntoSlice := Mining.packIntoSlice
  unpackFromSlice := Mining.unpackFromSlice
  isInitialized m := m.version != UNINITIALIZED_VERSION

/-! ### Laws of the record codecs -/

/-- What the processor proofs use of a record's `Pack` implementation, with `version` the field
`IsInitialized` reads: packing keeps the buffer's length, a packed record of a version this code
reads decodes back, decoding only yields such versions, and a zeroed buffer holds no record. -/
structure Packable.Lawful {α : Type} (P : Packable α) (version : α → UInt8) : Prop where
  initialized : ∀ v, P.isInitialized v = (version v != UNINITIALIZED_VERSION)
  length_of_pack : ∀ {v dst out}, P.pack v dst = .ok out → out.length = dst.length
  unpack_of_pack : ∀ {v dst out}, P.pack v dst = .ok out → version v ≤ PROGRAM_VERSION →
    P.unpackUnchecked out = .ok v
  current : ∀ {input v}, P.unpackUnchecked input = .ok v → version v ≤ PROGRAM_VERSION
  zeroed : ∀ {v}, P.unpackUnchecked (List.replicate P.len 0) = .ok v →
    version v = UNINITIALIZED_VERSION

namespace Packable

variable {α : Type} {P : Packable α} {input : List UInt8} {v : α}

theorem unpackUnchecked_of_length (length : input.length = P.len) :
    P.unpackUnchecked input = P.unpackFromSlice input :=
  if_pos length

theorem unpackFromSlice_of_unpackUnchecked (decoded : P.unpackUnchecked input = .ok v) :
    input.length = P.len ∧ P.unpackFromSlice input = .ok v := by
  unfold unpackUnchecked at decoded
  split at decoded
  · exact ⟨‹_›, decoded⟩
  · cases decoded

theorem packIntoSlice_of_pack {dst out : List UInt8} (packed : P.pack v dst = .ok out) :
    dst.length = P.len ∧ P.packIntoSlice v dst = .ok out := by
  unfold pack at packed
  split at packed
  · exact ⟨‹_›, packed⟩
  · cases packed

theorem unpack_eq_ok : P.unpack input = .ok v ↔
    P.unpackUnchecked input = .ok v ∧ P.isInitialized v = true := by
  unfold unpack
  rcases P.unpackUnchecked input with e | w
  · simp
  · by_cases init : P.isInitialized w
    · simp only [ok_bind, init, if_true, pure_eq_ok, Except.ok.injEq]
      exact ⟨fun same => ⟨same, same ▸ init⟩, And.left⟩
    · simp only [ok_bind, init, Bool.false_eq_true, if_false, throw_eq_error, Except.ok.injEq]
      exact ⟨nofun, fun ⟨same, live⟩ => absurd (same ▸ live) init⟩

theorem unpack_length (decoded : P.unpack input = .ok v) : input.length = P.len :=
  (unpackFromSlice_of_unpackUnchecked (unpack_eq_ok.mp decoded).1).1

theorem unpack_unique {w : α} (decoded : P.unpack input = .ok v) (again : P.unpack input = .ok w) :
    w = v :=
  Except.ok.inj (again.symm.trans decoded)

/-- Data that decodes as one record type does not decode as one of another length. -/
theorem unpack_of_other_len {β : Type} {Q : Packable β} {w : β} (different : P.len ≠ Q.len)
    (decoded : P.unpack input = .ok v) : Q.unpackUnchecked input ≠ .ok w := fun other =>
  different ((unpack_length decoded).symm.trans (unpackFromSlice_of_unpackUnchecked other).1)

/-- No data holds records of two layouts of different lengths. -/
theorem unpack_exclusive {β : Type} {Q : Packable β} {w : β} (different : P.len ≠ Q.len)
    (decoded : P.unpack input = .ok v) (other : Q.unpack input = .ok w) : False :=
  unpack_of_other_len different decoded (unpack_eq_ok.mp other).1

namespace Lawful

variable {version : α → UInt8} (law : P.Lawful version)
include law

/-- A packed record of a version this code reads, and not the uninitialized one, decodes back. -/
theorem unpack_pack {dst out : List UInt8} (packed : P.pack v dst = .ok out)
    (current : version v ≤ PROGRAM_VERSION) (live : version v ≠ UNINITIALIZED_VERSION) :
    P.unpack out = .ok v :=
  unpack_eq_ok.mpr ⟨law.unpack_of_pack packed current, by simp [law.initialized, live]⟩

/-- A decoded record is initialized exactly when its version is not the uninitialized one. -/
theorem version_of_unpack (decoded : P.unpack input = .ok v) :
    P.unpackUnchecked input = .ok v ∧ version v ≠ UNINITIALIZED_VERSION ∧
      version v ≤ PROGRAM_VERSION := by
  obtain ⟨unchecked, init⟩ := unpack_eq_ok.mp decoded
  exact ⟨unchecked, by simpa [law.initialized] using init, law.current unchecked⟩

/-- Zero-filled data holds no initialized record. -/
theorem unpack_of_zeroed (zeroed : ∀ b ∈ input, b = 0) : P.unpack input ≠ .ok v := by
  intro decoded
  obtain ⟨unchecked, live, -⟩ := law.version_of_unpack decoded
  have filled : input = List.replicate P.len 0 :=
    List.eq_replicate_iff.mpr ⟨(unpackFromSlice_of_unpackUnchecked unchecked).1, zeroed⟩
  exact live (law.zeroed (filled ▸ unchecked))

end Lawful

end Packable

theorem head_of_replicate_zero {n : Nat} {b : UInt8} (positive : 0 < n)
    (head : (List.replicate n (0 : UInt8)).head? = some b) : b = 0 := by
  obtain ⟨m, rfl⟩ := Nat.exists_eq_add_of_lt positive
  simpa [List.replicate_succ] using head.symm

theorem PoolManager.packable_lawful : PoolManager.packable.Lawful PoolManager.version where
  initialized _ := rfl
  length_of_pack packed := by
    obtain ⟨length, packed⟩ := Packable.packIntoSlice_of_pack packed
    exact (PoolManager.packIntoSlice_ok length packed).1.trans length.symm
  unpack_of_pack packed current := by
    obtain ⟨length, packed⟩ := Packable.packIntoSlice_of_pack packed
    have decoded := PoolManager.unpackFromSlice_packIntoSlice _ length current
    rw [show PoolManager.packIntoSlice _ _ = _ from packed, ok_bind] at decoded
    exact (Packable.unpackUnchecked_of_length (PoolManager.packIntoSlice_ok length packed).1).trans
      decoded
  current decoded :=
    let ⟨length, decoded⟩ := Packable.unpackFromSlice_of_unpackUnchecked decoded
    PoolManager.unpackFromSlice_current length decoded
  zeroed decoded := by
    obtain ⟨length, decoded⟩ := Packable.unpackFromSlice_of_unpackUnchecked decoded
    have packed := PoolManager.packIntoSlice_unpackFromSlice length decoded
    exact head_of_replicate_zero (by decide) (PoolManager.packIntoSlice_ok length packed).2

theorem Pool.packable_lawful : Pool.packable.Lawful Pool.version where
  initialized _ := rfl
  length_of_pack packed := by
    obtain ⟨length, packed⟩ := Packable.packIntoSlice_of_pack packed
    exact (Pool.packIntoSlice_ok length packed).2.1.trans length.symm
  unpack_of_pack packed current := by
    obtain ⟨length, packed⟩ := Packable.packIntoSlice_of_pack packed
    obtain ⟨fit, packedLength, -⟩ := Pool.packIntoSlice_ok length packed
    have decoded := Pool.unpackFromSlice_packIntoSlice _ length current fit
    rw [show Pool.packIntoSlice _ _ = _ from packed, ok_bind] at decoded
    exact (Packable.unpackUnchecked_of_length packedLength).trans decoded
  current decoded :=
    let ⟨length, decoded⟩ := Packable.unpackFromSlice_of_unpackUnchecked decoded
    Pool.unpackFromSlice_current length decoded
  zeroed decoded := by
    obtain ⟨length, decoded⟩ := Packable.unpackFromSlice_of_unpackUnchecked decoded
    have packed := Pool.packIntoSlice_unpackFromSlice length decoded
    exact head_of_replicate_zero (by decide) (Pool.packIntoSlice_ok length packed).2.2

theorem Pool.fit_of_pack {p : Pool} {dst out : List UInt8}
    (packed : Pool.packable.pack p dst = .ok out) : p.DecimalsFit :=
  let ⟨length, packed⟩ := Packable.packIntoSlice_of_pack packed
  (Pool.packIntoSlice_ok length packed).1

theorem Ticket.packable_lawful : Ticket.packable.Lawful Ticket.version where
  initialized _ := rfl
  length_of_pack packed := by
    obtain ⟨length, packed⟩ := Packable.packIntoSlice_of_pack packed
    exact (Ticket.packIntoSlice_ok length packed).2.2.1.trans length.symm
  unpack_of_pack packed current := by
    obtain ⟨length, packed⟩ := Packable.packIntoSlice_of_pack packed
    obtain ⟨few, fit, packedLength, -⟩ := Ticket.packIntoSlice_ok length packed
    have decoded := Ticket.unpackFromSlice_packIntoSlice _ length current few fit
    rw [show Ticket.packIntoSlice _ _ = _ from packed, ok_bind] at decoded
    exact (Packable.unpackUnchecked_of_length packedLength).trans decoded
  current decoded :=
    let ⟨length, decoded⟩ := Packable.unpackFromSlice_of_unpackUnchecked decoded
    Ticket.unpackFromSlice_current length decoded
  zeroed decoded := by
    obtain ⟨length, decoded⟩ := Packable.unpackFromSlice_of_unpackUnchecked decoded
    have packed := Ticket.packIntoSlice_unpackFromSlice length decoded
    exact head_of_replicate_zero (by decide) (Ticket.packIntoSlice_ok length packed).2.2.2

/-! ### The rest of the chain -/

/-- What `spl_token::state::Account::unpack` reads of a token account. -/
structure TokenAccount where
  mint : Pubkey
  owner : Pubkey
  amount : U64

/-- What `spl_token::state::Mint::unpack` reads of a mint. -/
structure Mint where
  decimals : UInt8

/-- Modelled from the spec: `pyth::PriceType`, whether an oracle account holds a price. -/
inductive PriceType where
  | unknown
  | price
  deriving DecidableEq

/-- Modelled from the spec: the fields of `pyth::Price` that `get_pyth_price` reads, the price
type, the aggregate price (an `i64`) and the decimal exponent (an `i32`). -/
structure PythPrice where
  ptype : PriceType
  aggPrice : Int
  expo : Int
  aggPrice_range : -2 ^ 63 ≤ aggPrice ∧ aggPrice < 2 ^ 63
  expo_range : -2 ^ 31 ≤ expo ∧ expo < 2 ^ 31

/-- Modelled from the spec: the fields of `pyth::Product` that `process_init_pool` reads: the
magic number, version and account type it checks, the price account it names, and the attribute
bytes, `PROD_ATTR_SIZE` of them. -/
structure PythProduct where
  magic : UInt32
  ver : UInt32
  atype : UInt32
  pxAcc : Bytes32
  attr : List UInt8

/-- Modelled from the spec: `pyth::MAGIC`, the number an oracle account starts with. -/
def PYTH_MAGIC : UInt32 := 0xa1b2c3d4

/-- Modelled from the spec: `pyth::VERSION_2`, the oracle layout version this code reads. -/
def PYTH_VERSION_2 : UInt32 := 2

/-- Modelled from the spec: `pyth::AccountType::Product as u32`. -/
def PYTH_ACCOUNT_TYPE_PRODUCT : UInt32 := 2

/-- A token instruction the handlers invoke, with the accounts it names. -/
inductive TokenInstruction where
  | transfer (source destination authority : Pubkey) (amount : U64)
  | mintTo (mint destination authority : Pubkey) (amount : U64)
  | burn (source mint authority : Pubkey) (amount : U64)

/-- The readers of the crate's `unpack_util` module, which `PoolingInstruction::unpack` imports but
`src/` does not contain. Each takes one field off the front of the instruction data and returns
it with the rest. The model assumes nothing about how they read: the decoder takes them as
given, so every result holds whatever they do. -/
structure UnpackUtil where
  unpackU64 : List UInt8 → Result (U64 × List UInt8)
  unpackBytes32 : List UInt8 → Result (Bytes32 × List UInt8)
  unpackPubkey : List UInt8 → Result (Pubkey × List UInt8)
  unpackBool : List UInt8 → Result (Bool × List UInt8)

/-- What one instruction relies on and `src/` does not contain. From the chain: the sysvars'
addresses and contents, the token program's address and account codecs, the oracle's account
loaders and address derivation. `invoke` is whether the token program accepts a token
instruction the handler invokes. What the token program then does to its own accounts is a step of
another program in a run (`External`), not part of the call. From the crate: the readers of the
missing `unpack_util` module. -/
structure Env where
  clockId : Pubkey
  rentId : Pubkey
  splTokenId : Pubkey
  slot : Slot
  isExempt : Nat → Nat → Bool
  unpackTokenAccount : List UInt8 → Result TokenAccount
  unpackMint : List UInt8 → Result Mint
  loadPrice : List UInt8 → Option PythPrice
  loadProduct : List UInt8 → Option PythProduct
  findProgramAddress : List (List UInt8) → Pubkey → Pubkey × UInt8
  createProgramAddress : List (List UInt8) → Pubkey → Result Pubkey
  invoke : TokenInstruction → Bool
  unpackUtil : UnpackUtil

namespace Env

variable (env : Env)

/-- `Clock::from_account_info(..)?.slot`: `InvalidArgument` for an account other than the
clock sysvar. -/
def clockFromAccountInfo (info : AccountInfo) : Result Slot :=
  if info.key = env.clockId then .ok env.slot
  else throw (ProgramError.invalidArgument : Fault)

/-- `Rent::from_account_info`: `InvalidArgument` for an account other than the rent sysvar. -/
def rentFromAccountInfo (info : AccountInfo) : Result (Nat → Nat → Bool) :=
  if info.key = env.rentId then .ok env.isExempt
  else throw (ProgramError.invalidArgument : Fault)

end Env

/-- `assert_rent_exempt`. -/
def assertRentExempt (isExempt : Nat → Nat → Bool) (info : AccountInfo) : Result Unit :=
  ensure (isExempt info.lamports info.data.length) PoolingError.notRentExempt

/-- `assert_uninitialized`: the record of an account, `AlreadyInitialized` when it is. -/
def assertUninitialized {α : Type} (P : Packable α) (info : AccountInfo) : Result α := do
  let account ← P.unpackUnchecked info.data
  if P.isInitialized account then fail .alreadyInitialized
  else return account

end AllwinPooling
