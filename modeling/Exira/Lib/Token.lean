import Exira.Lib.Checked
import Exira.Lib.Table

/-!
# A token program

Mints and token accounts as the SPL token program keeps them: an account holds an amount of one mint's
tokens for an owner, a mint records the supply and the key that may mint. `Bank.transfer`, `Bank.mintTo`
and `Bank.burn` make the program's own checks, in its order; the caller has checked that `authority`
signed.

Clients of this file do not look into accounts. They use four observations (`balance`, `supply`,
`holder`, `minter`) and one lemma for each operation and observation. `Bank.Sound` says that no mint has
more tokens in accounts than its supply; it is why adding to an account cannot overflow
(`Bank.transfer_ok`).
-/

namespace Token

/-- A mint account. -/
structure Mint (K : Type) where
  mintAuthority : Option K
  supply : BitVec 64
  decimals : BitVec 8
  freezeAuthority : Option K
deriving DecidableEq

/-- A token account. -/
structure Account (K : Type) where
  mint : K
  owner : K
  amount : BitVec 64
deriving DecidableEq

/-- The errors of the token program. -/
inductive Error where
  | uninitializedState
  | alreadyInUse
  | invalidMint
  | insufficientFunds
  | mintMismatch
  | ownerMismatch
  | fixedSupply
  | overflow
deriving DecidableEq

/-- All mints and token accounts. -/
structure Bank (K : Type) where
  mints : Table K (Mint K)
  accounts : Table K (Account K)

namespace Bank

variable {K : Type} [DecidableEq K]

/-! ## Operations -/

/-- The token account at a key. -/
def account (b : Bank K) (k : K) : Except Error (Account K) :=
  (b.accounts.lookup k).okOr .uninitializedState

/-- The mint at a key. -/
def mint (b : Bank K) (k : K) : Except Error (Mint K) :=
  (b.mints.lookup k).okOr .invalidMint

/-- Write a token account. -/
def put (b : Bank K) (k : K) (a : Account K) : Bank K :=
  { b with accounts := b.accounts.insert k a }

/-- Write a mint. -/
def putMint (b : Bank K) (k : K) (m : Mint K) : Bank K :=
  { b with mints := b.mints.insert k m }

/-- `Transfer` -/
def transfer (b : Bank K) (source dest authority : K) (amount : BitVec 64) :
    Except Error (Bank K) := do
  let src ← b.account source
  let dst ← b.account dest
  Except.require (amount ≤ src.amount) .insufficientFunds
  Except.require (src.mint = dst.mint) .mintMismatch
  Except.require (authority = src.owner) .ownerMismatch
  -- a self-transfer is checked and then changes nothing
  if source = dest then
    return b
  let less ← (src.amount.checkedSub amount).okOr .overflow
  let more ← (dst.amount.checkedAdd amount).okOr .overflow
  return (b.put source { src with amount := less }).put dest { dst with amount := more }

/-- `MintTo` -/
def mintTo (b : Bank K) (mint dest authority : K) (amount : BitVec 64) :
    Except Error (Bank K) := do
  let dst ← b.account dest
  Except.require (dst.mint = mint) .mintMismatch
  let m ← b.mint mint
  Except.require (m.mintAuthority ≠ none) .fixedSupply
  Except.require (m.mintAuthority = some authority) .ownerMismatch
  let more ← (dst.amount.checkedAdd amount).okOr .overflow
  let supply ← (m.supply.checkedAdd amount).okOr .overflow
  return (b.put dest { dst with amount := more }).putMint mint { m with supply := supply }

/-- `Burn` -/
def burn (b : Bank K) (source mint authority : K) (amount : BitVec 64) :
    Except Error (Bank K) := do
  let src ← b.account source
  let m ← b.mint mint
  Except.require (amount ≤ src.amount) .insufficientFunds
  Except.require (src.mint = mint) .mintMismatch
  Except.require (authority = src.owner) .ownerMismatch
  let less ← (src.amount.checkedSub amount).okOr .overflow
  let supply ← (m.supply.checkedSub amount).okOr .overflow
  return (b.put source { src with amount := less }).putMint mint { m with supply := supply }

/-- `InitializeMint` at a free key -/
def initMint (b : Bank K) (key : K) (mintAuthority freezeAuthority : Option K)
    (decimals : BitVec 8) : Except Error (Bank K) := do
  Except.require (b.mints.lookup key = none) .alreadyInUse
  return b.putMint key ⟨mintAuthority, 0, decimals, freezeAuthority⟩

/-- `InitializeAccount` at a free key -/
def initAccount (b : Bank K) (key mint owner : K) : Except Error (Bank K) := do
  Except.require (b.accounts.lookup key = none) .alreadyInUse
  let _ ← b.mint mint
  return b.put key ⟨mint, owner, 0⟩

/-! ## Observations -/

/-- The amount in a token account, zero where there is none. -/
def balance (b : Bank K) (k : K) : ℕ :=
  (b.accounts.lookup k).elim 0 fun a => a.amount.toNat

/-- The supply of a mint, zero where there is none. -/
def supply (b : Bank K) (m : K) : ℕ :=
  (b.mints.lookup m).elim 0 fun m => m.supply.toNat

/-- The mint and the owner of a token account. -/
def holder (b : Bank K) (k : K) : Option (K × K) :=
  (b.accounts.lookup k).map fun a => (a.mint, a.owner)

/-- The mint authority of a mint. -/
def minter (b : Bank K) (m : K) : Option (Option K) :=
  (b.mints.lookup m).map fun m => m.mintAuthority

/-- The tokens of mint `m` in all accounts. -/
def circulating (b : Bank K) (m : K) : ℕ :=
  b.accounts.sum fun a => if a.mint = m then a.amount.toNat else 0

/-- No mint has more tokens in accounts than its supply. -/
def Sound (b : Bank K) : Prop :=
  ∀ m, b.circulating m ≤ b.supply m

variable {b b' : Bank K} {k m : K}

/-- Writing an account sets its balance. -/
lemma balance_put (k' : K) (a : Account K) :
    (b.put k a).balance k' = if k' = k then a.amount.toNat else b.balance k' := by
  simp only [balance, put, Finmap.lookup_insert_ite]
  split <;> rfl

/-- Writing an account sets its mint and its owner. -/
lemma holder_put (k' : K) (a : Account K) :
    (b.put k a).holder k' = if k' = k then some (a.mint, a.owner) else b.holder k' := by
  simp only [holder, put, Finmap.lookup_insert_ite]
  split <;> rfl

/-- Writing a mint sets its supply. -/
lemma supply_putMint (k' : K) (a : Mint K) :
    (b.putMint k a).supply k' = if k' = k then a.supply.toNat else b.supply k' := by
  simp only [supply, putMint, Finmap.lookup_insert_ite]
  split <;> rfl

/-- Writing a mint sets who may mint. -/
lemma minter_putMint (k' : K) (a : Mint K) :
    (b.putMint k a).minter k' = if k' = k then some a.mintAuthority else b.minter k' := by
  simp only [minter, putMint, Finmap.lookup_insert_ite]
  split <;> rfl

@[simp] lemma balance_putMint (k' : K) (a : Mint K) : (b.putMint k a).balance k' = b.balance k' := rfl

@[simp] lemma holder_putMint (k' : K) (a : Mint K) : (b.putMint k a).holder k' = b.holder k' := rfl

/-- The balance of an account that is there. -/
lemma balance_eq {a : Account K} (h : b.accounts.lookup k = some a) :
    b.balance k = a.amount.toNat := by
  simp only [balance, h, Option.elim]

/-- The supply of a mint that is there. -/
lemma supply_eq {a : Mint K} (h : b.mints.lookup k = some a) : b.supply k = a.supply.toNat := by
  simp only [supply, h, Option.elim]

/-- The mint and the owner of an account that is there. -/
lemma holder_eq {a : Account K} (h : b.accounts.lookup k = some a) :
    b.holder k = some (a.mint, a.owner) := by
  simp only [holder, h, Option.map_some]

/-- A key that has a mint and an owner is an account. -/
lemma holder_eq_some {x : K × K} (h : b.holder k = some x) :
    ∃ a, b.accounts.lookup k = some a ∧ a.mint = x.1 ∧ a.owner = x.2 := by
  obtain ⟨a, own, rfl⟩ := Option.map_eq_some_iff.mp h
  exact ⟨a, own, rfl, rfl⟩

/-- The authority of a mint that is there. -/
lemma minter_eq {a : Mint K} (h : b.mints.lookup k = some a) :
    b.minter k = some a.mintAuthority := by
  simp only [minter, h, Option.map_some]

/-- Where there is no mint there is no supply. -/
lemma supply_of_minter_none (h : b.minter m = none) : b.supply m = 0 := by
  have e := Option.map_eq_none_iff.mp h
  simp only [supply, e, Option.elim]

/-- Where there is no account there is no balance. -/
lemma balance_of_holder_none (h : b.holder k = none) : b.balance k = 0 := by
  have e := Option.map_eq_none_iff.mp h
  simp only [balance, e, Option.elim]

/-- An account is its mint, its owner and its balance. -/
lemma lookup_congr {k' : K} (holder : b.holder k = b'.holder k') (balance : b.balance k = b'.balance k') :
    b.accounts.lookup k = b'.accounts.lookup k' := by
  unfold Bank.holder at holder
  unfold Bank.balance at balance
  cases e : b.accounts.lookup k with
  | none =>
    rw [e, Option.map_none] at holder
    exact (Option.map_eq_none_iff.mp holder.symm).symm
  | some x =>
    rw [e, Option.map_some] at holder
    obtain ⟨y, own, parts⟩ := Option.map_eq_some_iff.mp holder.symm
    rw [e, own] at balance
    injection parts with mint owner
    have amount : x.amount = y.amount := BitVec.eq_of_toNat_eq balance
    obtain ⟨m, o, n⟩ := x
    obtain ⟨m', o', n'⟩ := y
    cases mint
    cases owner
    cases amount
    exact own.symm

/-- Changing an account's amount changes what circulates of its mint. -/
lemma circulating_put {a : Account K} (h : b.accounts.lookup k = some a) (n : BitVec 64) (m : K) :
    (b.put k { a with amount := n }).circulating m + (if a.mint = m then a.amount.toNat else 0)
      = b.circulating m + if a.mint = m then n.toNat else 0 := by
  have s := Finmap.sum_insert b.accounts k { a with amount := n }
    fun a => if a.mint = m then a.amount.toNat else 0
  rw [h] at s
  exact s

/-! ## Transfers -/

section Transfer
variable {source dest authority : K} {n : BitVec 64}

/-- What a transfer checks, and the accounts it writes. -/
lemma transfer_inv (h : b.transfer source dest authority n = .ok b') :
    ∃ src dst, b.accounts.lookup source = some src ∧ b.accounts.lookup dest = some dst ∧
      n.toNat ≤ src.amount.toNat ∧ src.mint = dst.mint ∧ authority = src.owner ∧
      (source = dest ∧ b' = b ∨
        source ≠ dest ∧ ∃ less more : BitVec 64, less.toNat + n.toNat = src.amount.toNat ∧
          more.toNat = dst.amount.toNat + n.toNat ∧
          b' = (b.put source { src with amount := less }).put dest { dst with amount := more }) := by
  simp only [transfer, account, Except.bind_eq_ok, Option.okOr_eq_ok, Except.require_eq_ok,
    exists_and_left, exists_const] at h
  obtain ⟨src, hs, dst, hd, le, hm, ho, h⟩ := h
  have le' : n.toNat ≤ src.amount.toNat := BitVec.le_def.mp le
  refine ⟨src, dst, hs, hd, le', hm, ho, ?_⟩
  split at h
  · next e =>
    cases h
    exact .inl ⟨e, rfl⟩
  · next ne =>
    simp only [Except.bind_eq_ok, Option.okOr_eq_ok, BitVec.checkedSub_eq_some,
      BitVec.checkedAdd_eq_some] at h
    obtain ⟨less, ⟨-, hl⟩, more, hm', h⟩ := h
    cases h
    exact .inr ⟨ne, less, more, by omega, hm', rfl⟩

/-- A transfer writes no mint. -/
lemma transfer_mints (h : b.transfer source dest authority n = .ok b') : b'.mints = b.mints := by
  obtain ⟨_, _, -, -, -, -, -, ⟨-, rfl⟩ | ⟨-, _, _, -, -, rfl⟩⟩ := transfer_inv h
  · rfl
  · rfl

/-- A transfer keeps every supply. -/
lemma transfer_supply (h : b.transfer source dest authority n = .ok b') (m : K) :
    b'.supply m = b.supply m := by
  simp only [supply, transfer_mints h]

/-- A transfer keeps every mint's authority. -/
lemma transfer_minter (h : b.transfer source dest authority n = .ok b') (m : K) :
    b'.minter m = b.minter m := by
  simp only [minter, transfer_mints h]

/-- A transfer keeps every account's mint and owner. -/
lemma transfer_holder (h : b.transfer source dest authority n = .ok b') (k : K) :
    b'.holder k = b.holder k := by
  obtain ⟨src, dst, hs, hd, -, -, -, ⟨-, rfl⟩ | ⟨-, _, _, -, -, rfl⟩⟩ := transfer_inv h
  · rfl
  · rw [holder_put, holder_put]
    by_cases ed : k = dest
    · rw [if_pos ed, ed, holder_eq hd]
    · by_cases es : k = source
      · rw [if_neg ed, if_pos es, es, holder_eq hs]
      · rw [if_neg ed, if_neg es]

/-- A transfer writes two accounts. -/
lemma transfer_lookup_ne (h : b.transfer source dest authority n = .ok b') (ns : k ≠ source)
    (nd : k ≠ dest) : b'.accounts.lookup k = b.accounts.lookup k := by
  obtain ⟨_, _, -, -, -, -, -, ⟨-, rfl⟩ | ⟨-, _, _, -, -, rfl⟩⟩ := transfer_inv h
  · rfl
  · rw [put, put, Finmap.lookup_insert_of_ne _ nd, Finmap.lookup_insert_of_ne _ ns]

/-- The amount moves from the source to the destination; no other balance changes. -/
lemma transfer_balance (h : b.transfer source dest authority n = .ok b') (k : K) :
    b'.balance k + (if k = source then n.toNat else 0)
      = b.balance k + (if k = dest then n.toNat else 0) := by
  obtain ⟨src, dst, hs, hd, -, -, -, ⟨rfl, rfl⟩ | ⟨ne, less, more, hl, hm, rfl⟩⟩ := transfer_inv h
  · rfl
  · rw [balance_put, balance_put]
    by_cases ed : k = dest
    · have es : k ≠ source := fun e => ne (e.symm.trans ed)
      rw [if_pos ed, if_neg es, if_pos ed, ed, balance_eq hd, hm, Nat.add_zero]
    · by_cases es : k = source
      · rw [if_neg ed, if_pos es, if_pos es, if_neg ed, es, balance_eq hs, hl, Nat.add_zero]
      · rw [if_neg ed, if_neg es, if_neg es, if_neg ed]

/-- A transfer keeps the balances of other accounts. -/
lemma transfer_balance_ne (h : b.transfer source dest authority n = .ok b') (ns : k ≠ source)
    (nd : k ≠ dest) : b'.balance k = b.balance k := by
  have e := transfer_balance h k
  rwa [if_neg ns, if_neg nd] at e

/-- The source loses the amount. -/
lemma transfer_balance_source (h : b.transfer source dest authority n = .ok b')
    (ne : source ≠ dest) : b'.balance source + n.toNat = b.balance source := by
  have e := transfer_balance h source
  rwa [if_pos rfl, if_neg ne] at e

/-- The destination gets the amount. -/
lemma transfer_balance_dest (h : b.transfer source dest authority n = .ok b')
    (ne : dest ≠ source) : b'.balance dest = b.balance dest + n.toNat := by
  have e := transfer_balance h dest
  rwa [if_neg ne, if_pos rfl] at e

/-- Only the owner of the source moves its tokens, and both accounts are of one mint. -/
lemma transfer_holders (h : b.transfer source dest authority n = .ok b') :
    ∃ m o, b.holder source = some (m, authority) ∧ b.holder dest = some (m, o) := by
  obtain ⟨src, dst, hs, hd, -, hm, ho, -⟩ := transfer_inv h
  exact ⟨src.mint, dst.owner, by rw [holder_eq hs, ho], by rw [holder_eq hd, hm]⟩

/-- A transfer is covered by its source. -/
lemma transfer_covered (h : b.transfer source dest authority n = .ok b') : n.toNat ≤ b.balance source := by
  obtain ⟨src, dst, hs, -, le, -⟩ := transfer_inv h
  rwa [balance_eq hs]

end Transfer

/-! ## Minting and burning -/

section Mint
variable {dest source authority : K} {n : BitVec 64}

/-- What a mint of new tokens checks and writes. -/
lemma mintTo_inv (h : b.mintTo m dest authority n = .ok b') :
    ∃ dst mt, b.accounts.lookup dest = some dst ∧ b.mints.lookup m = some mt ∧ dst.mint = m ∧
      mt.mintAuthority = some authority ∧ ∃ more supply : BitVec 64,
        more.toNat = dst.amount.toNat + n.toNat ∧ supply.toNat = mt.supply.toNat + n.toNat ∧
        b' = (b.put dest { dst with amount := more }).putMint m { mt with supply := supply } := by
  simp only [mintTo, account, mint, Except.bind_eq_ok, Option.okOr_eq_ok, Except.require_eq_ok,
    BitVec.checkedAdd_eq_some, exists_and_left, exists_const] at h
  obtain ⟨dst, hd, hm, mt, ht, -, ha, more, h1, supply, h2, h⟩ := h
  cases h
  exact ⟨dst, mt, hd, ht, hm, ha, more, supply, h1, h2, rfl⟩

/-- New tokens raise the balance of their account only. -/
lemma mintTo_balance (h : b.mintTo m dest authority n = .ok b') (k : K) :
    b'.balance k = b.balance k + if k = dest then n.toNat else 0 := by
  obtain ⟨dst, mt, hd, -, -, -, more, _, hm, -, rfl⟩ := mintTo_inv h
  rw [balance_putMint, balance_put]
  split
  · next e => rw [e, balance_eq hd, hm]
  · rfl

/-- New tokens raise the supply of their mint only. -/
lemma mintTo_supply (h : b.mintTo m dest authority n = .ok b') (k : K) :
    b'.supply k = b.supply k + if k = m then n.toNat else 0 := by
  obtain ⟨_, mt, -, ht, -, -, _, supply, -, hs, rfl⟩ := mintTo_inv h
  rw [supply_putMint]
  split
  · next e => rw [e, supply_eq ht, hs]
  · rfl

/-- New tokens keep every account's mint and owner. -/
lemma mintTo_holder (h : b.mintTo m dest authority n = .ok b') (k : K) :
    b'.holder k = b.holder k := by
  obtain ⟨dst, _, hd, -, -, -, _, _, -, -, rfl⟩ := mintTo_inv h
  rw [holder_putMint, holder_put]
  split
  · next e => rw [e, holder_eq hd]
  · rfl

/-- New tokens keep every mint's authority. -/
lemma mintTo_minter (h : b.mintTo m dest authority n = .ok b') (k : K) :
    b'.minter k = b.minter k := by
  obtain ⟨_, mt, -, ht, -, -, _, _, -, -, rfl⟩ := mintTo_inv h
  rw [minter_putMint]
  split
  · next e => rw [e, minter_eq ht]
  · rfl

/-- Only the mint authority mints, and the destination is an account of the mint. -/
lemma mintTo_authority (h : b.mintTo m dest authority n = .ok b') :
    b.minter m = some (some authority) ∧ ∃ o, b.holder dest = some (m, o) := by
  obtain ⟨dst, mt, hd, ht, hm, ha, -⟩ := mintTo_inv h
  exact ⟨by rw [minter_eq ht, ha], dst.owner, by rw [holder_eq hd, hm]⟩

/-- What a burn checks and writes. -/
lemma burn_inv (h : b.burn source m authority n = .ok b') :
    ∃ src mt, b.accounts.lookup source = some src ∧ b.mints.lookup m = some mt ∧ src.mint = m ∧
      authority = src.owner ∧ ∃ less supply : BitVec 64,
        less.toNat + n.toNat = src.amount.toNat ∧ supply.toNat + n.toNat = mt.supply.toNat ∧
        b' = (b.put source { src with amount := less }).putMint m { mt with supply := supply } := by
  simp only [burn, account, mint, Except.bind_eq_ok, Option.okOr_eq_ok, Except.require_eq_ok,
    BitVec.checkedSub_eq_some, exists_and_left, exists_const] at h
  obtain ⟨src, hs, mt, ht, -, hm, ho, less, ⟨l1, h1⟩, supply, ⟨l2, h2⟩, h⟩ := h
  cases h
  exact ⟨src, mt, hs, ht, hm, ho, less, supply, by omega, by omega, rfl⟩

/-- A burn lowers the balance of its account only. -/
lemma burn_balance (h : b.burn source m authority n = .ok b') (k : K) :
    b'.balance k + (if k = source then n.toNat else 0) = b.balance k := by
  obtain ⟨src, mt, hs, -, -, -, less, _, hl, -, rfl⟩ := burn_inv h
  rw [balance_putMint, balance_put]
  split
  · next e => rw [e, balance_eq hs, hl]
  · rfl

/-- A burn lowers the supply of its mint only. -/
lemma burn_supply (h : b.burn source m authority n = .ok b') (k : K) :
    b'.supply k + (if k = m then n.toNat else 0) = b.supply k := by
  obtain ⟨_, mt, -, ht, -, -, _, supply, -, hs, rfl⟩ := burn_inv h
  rw [supply_putMint]
  split
  · next e => rw [e, supply_eq ht, hs]
  · rfl

/-- A burn keeps every account's mint and owner. -/
lemma burn_holder (h : b.burn source m authority n = .ok b') (k : K) :
    b'.holder k = b.holder k := by
  obtain ⟨src, _, hs, -, -, -, _, _, -, -, rfl⟩ := burn_inv h
  rw [holder_putMint, holder_put]
  split
  · next e => rw [e, holder_eq hs]
  · rfl

/-- A burn keeps every mint's authority. -/
lemma burn_minter (h : b.burn source m authority n = .ok b') (k : K) :
    b'.minter k = b.minter k := by
  obtain ⟨_, mt, -, ht, -, -, _, _, -, -, rfl⟩ := burn_inv h
  rw [minter_putMint]
  split
  · next e => rw [e, minter_eq ht]
  · rfl

/-- Only the owner of an account burns its tokens. -/
lemma burn_holders (h : b.burn source m authority n = .ok b') :
    b.holder source = some (m, authority) := by
  obtain ⟨src, _, hs, -, hm, ho, -⟩ := burn_inv h
  rw [holder_eq hs, hm, ho]

/-- A burn is covered by the balance. -/
lemma burn_covered (h : b.burn source m authority n = .ok b') : n.toNat ≤ b.balance source := by
  have spent := burn_balance h source
  rw [if_pos rfl] at spent
  omega

end Mint

/-! ## New mints and accounts -/

section Init
variable {key owner : K} {auth freeze : Option K} {d : BitVec 8}

/-- A mint is made at a key that has none. -/
lemma initMint_inv (h : b.initMint key auth freeze d = .ok b') :
    b.mints.lookup key = none ∧ b' = b.putMint key ⟨auth, 0, d, freeze⟩ := by
  simp only [initMint, Except.bind_eq_ok, Except.require_eq_ok, exists_and_left, exists_const] at h
  obtain ⟨free, h⟩ := h
  cases h
  exact ⟨free, rfl⟩

/-- A new mint has its authority, and the others keep theirs. -/
lemma initMint_minter (h : b.initMint key auth freeze d = .ok b') (k : K) :
    b'.minter k = if k = key then some auth else b.minter k := by
  obtain ⟨-, rfl⟩ := initMint_inv h
  exact minter_putMint k _

/-- A new mint has no supply. -/
lemma initMint_supply (h : b.initMint key auth freeze d = .ok b') (k : K) :
    b'.supply k = b.supply k := by
  obtain ⟨free, rfl⟩ := initMint_inv h
  rw [supply_putMint]
  split
  · next e => rw [e, supply, free]; rfl
  · rfl

/-- A new mint writes no account. -/
lemma initMint_accounts (h : b.initMint key auth freeze d = .ok b') : b'.accounts = b.accounts := by
  obtain ⟨-, rfl⟩ := initMint_inv h
  rfl

/-- An account is made at a key that has none, with nothing in it. -/
lemma initAccount_inv (h : b.initAccount key m owner = .ok b') :
    b.accounts.lookup key = none ∧ b' = b.put key ⟨m, owner, 0⟩ := by
  simp only [initAccount, Except.bind_eq_ok, Except.require_eq_ok, exists_and_left, exists_const] at h
  obtain ⟨free, _, -, h⟩ := h
  cases h
  exact ⟨free, rfl⟩

/-- A new account has its mint and owner, and the others keep theirs. -/
lemma initAccount_holder (h : b.initAccount key m owner = .ok b') (k : K) :
    b'.holder k = if k = key then some (m, owner) else b.holder k := by
  obtain ⟨-, rfl⟩ := initAccount_inv h
  exact holder_put k _

/-- There was no account at the key of a new one. -/
lemma initAccount_free (h : b.initAccount key m owner = .ok b') : b.holder key = none := by
  obtain ⟨free, -⟩ := initAccount_inv h
  simp only [holder, free, Option.map_none]

/-- A new account is empty. -/
lemma initAccount_balance (h : b.initAccount key m owner = .ok b') (k : K) :
    b'.balance k = b.balance k := by
  obtain ⟨free, rfl⟩ := initAccount_inv h
  rw [balance_put]
  split
  · next e => rw [e, balance, free]; rfl
  · rfl

/-- A new account leaves the others alone. -/
lemma initAccount_lookup_ne (h : b.initAccount key m owner = .ok b') (ne : k ≠ key) :
    b'.accounts.lookup k = b.accounts.lookup k := by
  obtain ⟨-, rfl⟩ := initAccount_inv h
  rw [put, Finmap.lookup_insert_of_ne _ ne]

/-- A new account writes no mint. -/
lemma initAccount_mints (h : b.initAccount key m owner = .ok b') : b'.mints = b.mints := by
  obtain ⟨-, rfl⟩ := initAccount_inv h
  rfl

end Init

/-! ## Soundness -/

/-- Two accounts of a mint hold no more than its supply. -/
lemma Sound.add_balance_le (sound : b.Sound) {k' o o' : K} (ne : k ≠ k')
    (h : b.holder k = some (m, o)) (h' : b.holder k' = some (m, o')) :
    b.balance k + b.balance k' ≤ b.supply m := by
  obtain ⟨a, own, hm, -⟩ := holder_eq_some h
  obtain ⟨a', own', hm', -⟩ := holder_eq_some h'
  have le := Finmap.add_le_sum ne own own' fun a => if a.mint = m then a.amount.toNat else 0
  rw [if_pos hm, if_pos hm', ← balance_eq own, ← balance_eq own'] at le
  exact le.trans (sound m)

/-- An account has at most the supply of its mint. -/
lemma Sound.balance_le (sound : b.Sound) {o : K} (h : b.holder k = some (m, o)) :
    b.balance k ≤ b.supply m := by
  obtain ⟨a, own, hm, -⟩ := holder_eq_some h
  have le := Finmap.le_sum own fun a => if a.mint = m then a.amount.toNat else 0
  rw [if_pos hm, ← balance_eq own] at le
  exact le.trans (sound m)

/-- A supply is a u64. -/
lemma supply_lt (b : Bank K) (m : K) : b.supply m < 2 ^ 64 := by
  unfold supply
  cases b.mints.lookup m with
  | none => exact Nat.two_pow_pos 64
  | some mt => exact mt.supply.isLt

/-- Transfers keep a bank sound. -/
lemma Sound.transfer {source dest authority : K} {n : BitVec 64} (sound : b.Sound)
    (h : b.transfer source dest authority n = .ok b') : b'.Sound := by
  intro m
  rw [transfer_supply h]
  obtain ⟨src, dst, hs, hd, -, em, -, ⟨-, rfl⟩ | ⟨ne, less, more, hl, hm, rfl⟩⟩ := transfer_inv h
  · exact sound m
  · have hd' : (b.put source { src with amount := less }).accounts.lookup dest = some dst := by
      rw [put, Finmap.lookup_insert_of_ne _ ne.symm, hd]
    have c₁ := circulating_put hs less m
    have c₂ := circulating_put hd' more m
    have le := sound m
    by_cases e : dst.mint = m
    · rw [if_pos (em.trans e), if_pos (em.trans e)] at c₁
      rw [if_pos e, if_pos e] at c₂
      omega
    · rw [if_neg fun h => e (em.symm.trans h), if_neg fun h => e (em.symm.trans h)] at c₁
      rw [if_neg e, if_neg e] at c₂
      omega

/-- New tokens keep a bank sound. -/
lemma Sound.mintTo {dest authority : K} {n : BitVec 64} (sound : b.Sound)
    (h : b.mintTo m dest authority n = .ok b') : b'.Sound := by
  intro x
  rw [mintTo_supply h]
  obtain ⟨dst, mt, hd, -, em, -, more, _, hm, -, rfl⟩ := mintTo_inv h
  have c := circulating_put hd more x
  have le := sound x
  change (b.put dest _).circulating x ≤ _
  by_cases e : m = x
  · rw [if_pos (em.trans e), if_pos (em.trans e)] at c
    rw [if_pos e.symm]
    omega
  · rw [if_neg fun h => e (em.symm.trans h), if_neg fun h => e (em.symm.trans h)] at c
    rw [if_neg (Ne.symm e)]
    omega

/-- Burns keep a bank sound. -/
lemma Sound.burn {source authority : K} {n : BitVec 64} (sound : b.Sound)
    (h : b.burn source m authority n = .ok b') : b'.Sound := by
  intro x
  have s := burn_supply h x
  obtain ⟨src, mt, hs, -, em, -, less, _, hl, -, rfl⟩ := burn_inv h
  have c := circulating_put hs less x
  have le := sound x
  change (b.put source _).circulating x ≤ _
  by_cases e : m = x
  · rw [if_pos (em.trans e), if_pos (em.trans e)] at c
    rw [if_pos e.symm] at s
    omega
  · rw [if_neg fun h => e (em.symm.trans h), if_neg fun h => e (em.symm.trans h)] at c
    rw [if_neg (Ne.symm e)] at s
    omega

/-- New mints keep a bank sound. -/
lemma Sound.initMint {key : K} {auth freeze : Option K} {d : BitVec 8} (sound : b.Sound)
    (h : b.initMint key auth freeze d = .ok b') : b'.Sound := by
  intro m
  rw [initMint_supply h, circulating, initMint_accounts h]
  exact sound m

/-- New accounts keep a bank sound. -/
lemma Sound.initAccount {key owner : K} (sound : b.Sound)
    (h : b.initAccount key m owner = .ok b') : b'.Sound := by
  intro x
  rw [supply, initAccount_mints h]
  obtain ⟨free, rfl⟩ := initAccount_inv h
  have s := Finmap.sum_insert_new free ⟨m, owner, 0⟩ fun a => if a.mint = x then a.amount.toNat else 0
  have e : (b.put key ⟨m, owner, 0⟩).circulating x = b.circulating x := by
    simpa [circulating, put] using s
  rw [e]
  exact sound x

/-- A transfer between two accounts of one mint that the source covers goes through. -/
lemma transfer_ok {source dest authority o : K} {n : BitVec 64} (sound : b.Sound)
    (hs : b.holder source = some (m, authority)) (hd : b.holder dest = some (m, o))
    (le : n.toNat ≤ b.balance source) : ∃ b', b.transfer source dest authority n = .ok b' := by
  obtain ⟨src, own, ms, os⟩ := holder_eq_some hs
  obtain ⟨dst, own', md, -⟩ := holder_eq_some hd
  have le' : n ≤ src.amount := by rwa [balance_eq own] at le
  by_cases e : source = dest
  · refine ⟨b, ?_⟩
    simp only [transfer, account, Except.bind_eq_ok, Option.okOr_eq_ok, Except.require_eq_ok]
    refine ⟨src, own, dst, own', (), le', (), ms.trans md.symm, (), os.symm, ?_⟩
    rw [if_pos e]
    rfl
  · have sum := sound.add_balance_le e hs hd
    have lt := b.supply_lt m
    rw [balance_eq own, balance_eq own'] at sum
    have le'' := BitVec.le_def.mp le'
    obtain ⟨less, hl⟩ := BitVec.checkedSub_of_le le''
    obtain ⟨more, hm⟩ := BitVec.checkedAdd_of_lt (a := dst.amount) (b := n) (by omega)
    refine ⟨(b.put source { src with amount := less }).put dest { dst with amount := more }, ?_⟩
    simp only [transfer, account, Except.bind_eq_ok, Option.okOr_eq_ok, Except.require_eq_ok]
    refine ⟨src, own, dst, own', (), le', (), ms.trans md.symm, (), os.symm, ?_⟩
    rw [if_neg e]
    simp only [hl, hm, Except.bind_eq_ok, Option.okOr_eq_ok, Option.some.injEq]
    exact ⟨less, rfl, more, rfl, rfl⟩

/-- An owner burns tokens that the account has. -/
lemma burn_ok {source authority : K} {x : Option K} {n : BitVec 64} (sound : b.Sound)
    (hs : b.holder source = some (m, authority)) (hm : b.minter m = some x)
    (le : n.toNat ≤ b.balance source) : ∃ b', b.burn source m authority n = .ok b' := by
  have covered := le.trans (sound.balance_le hs)
  obtain ⟨src, own, ms, os⟩ := holder_eq_some hs
  obtain ⟨mt, own', -⟩ := Option.map_eq_some_iff.mp hm
  rw [balance_eq own] at le
  rw [supply_eq own'] at covered
  obtain ⟨less, hl⟩ := BitVec.checkedSub_of_le le
  obtain ⟨supply, hu⟩ := BitVec.checkedSub_of_le covered
  refine ⟨(b.put source { src with amount := less }).putMint m { mt with supply := supply }, ?_⟩
  simp only [burn, account, mint, Except.bind_eq_ok, Option.okOr_eq_ok, Except.require_eq_ok]
  exact ⟨src, own, mt, own', (), BitVec.le_def.mpr le, (), ms, (), os.symm, less, hl, supply, hu, rfl⟩

/-- The mint authority mints as long as the supply does not overflow. -/
lemma mintTo_ok {dest authority o : K} {n : BitVec 64} (sound : b.Sound)
    (hd : b.holder dest = some (m, o)) (hm : b.minter m = some (some authority))
    (fits : b.supply m + n.toNat < 2 ^ 64) : ∃ b', b.mintTo m dest authority n = .ok b' := by
  have le := sound.balance_le hd
  obtain ⟨dst, own, md, -⟩ := holder_eq_some hd
  obtain ⟨mt, own', auth⟩ := Option.map_eq_some_iff.mp hm
  rw [balance_eq own, supply_eq own'] at le
  rw [supply_eq own'] at fits
  obtain ⟨more, hm⟩ := BitVec.checkedAdd_of_lt (a := dst.amount) (b := n) (by omega)
  obtain ⟨supply, hu⟩ := BitVec.checkedAdd_of_lt fits
  refine ⟨(b.put dest { dst with amount := more }).putMint m { mt with supply := supply }, ?_⟩
  simp only [mintTo, account, mint, Except.bind_eq_ok, Option.okOr_eq_ok, Except.require_eq_ok]
  exact ⟨dst, own, (), md, mt, own', (), by rw [auth]; simp, (), auth, more, hm, supply, hu, rfl⟩

end Bank

end Token
