import Mathlib.Data.BitVec
import Mathlib.Tactic.Lemma

/-!
# Addresses

Every account lives at an address of some type `K`. What the program relies on is the class `Addresses`:
program-derived addresses are injective in the seed list and the bump, associated token accounts are
injective in owner and mint, and neither of them, nor the zero key, can sign a transaction. The
seed lists are those of `constants.rs`; each is one constructor of `Seeds`.

`Addr` is a symbolic address space, where an address is the term that derives it. It shows that the
assumptions can be met, and it is computable.
-/

namespace Exira

abbrev U8 := BitVec 8
abbrev U16 := BitVec 16
abbrev U32 := BitVec 32
abbrev U64 := BitVec 64
abbrev U128 := BitVec 128

/-- The seed lists of the program's accounts, such as `[PROJECT_SEED, project_id.to_le_bytes()]`. -/
inductive Seeds (K : Type) where
  | platform
  | project (projectId : U64)
  | pool (poolId : U64)
  | poolLink (pool project : K)
  | position (target owner : K)
  | mrvProject (projectId : U64)
  | baseline (mrvProject : K)
  | verification (mrvProject : K) (index : U8)
  | auditor (wallet : K)
deriving DecidableEq

/-- What the program uses of the runtime's addresses. -/
class Addresses (K : Type) where
  /-- `Pubkey::default()`, the owner field of a zeroed account -/
  default : K
  /-- `create_program_address` -/
  createProgramAddress : Seeds K → U8 → K
  /-- the bump that `find_program_address` returns -/
  findBump : Seeds K → U8
  /-- `get_associated_token_address`, of an owner and a mint -/
  associatedToken : K → K → K
  /-- keys that can sign a transaction without this program's help -/
  canSign : K → Bool
  createProgramAddress_inj : ∀ {σ τ b c},
    createProgramAddress σ b = createProgramAddress τ c → σ = τ ∧ b = c
  associatedToken_inj : ∀ {o o' m m'},
    associatedToken o m = associatedToken o' m' → o = o' ∧ m = m'
  associatedToken_ne : ∀ {o m σ b}, associatedToken o m ≠ createProgramAddress σ b
  not_canSign_default : canSign default = false
  not_canSign_program : ∀ σ b, canSign (createProgramAddress σ b) = false
  not_canSign_associated : ∀ o m, canSign (associatedToken o m) = false

export Addresses (createProgramAddress findBump associatedToken canSign)

section
variable {K : Type} [Addresses K]

/-- `find_program_address` -/
def findProgramAddress (σ : Seeds K) : K :=
  createProgramAddress σ (findBump σ)

/-- Different seeds lead to different addresses. -/
lemma findProgramAddress_inj {σ τ : Seeds K} (e : findProgramAddress σ = findProgramAddress τ) :
    σ = τ :=
  (Addresses.createProgramAddress_inj e).1

/-- A key that can sign is no address of the program. -/
lemma ne_findProgramAddress {k : K} (h : canSign k) (σ : Seeds K) : k ≠ findProgramAddress σ := by
  rintro rfl
  rw [findProgramAddress, Addresses.not_canSign_program] at h
  cases h

/-- A key that can sign is no associated account. -/
lemma ne_associatedToken {k : K} (h : canSign k) (o m : K) : k ≠ associatedToken o m := by
  rintro rfl
  rw [Addresses.not_canSign_associated] at h
  cases h

/-- A key that can sign is not the default key. -/
lemma ne_default {k : K} (h : canSign k) : k ≠ Addresses.default := by
  rintro rfl
  rw [Addresses.not_canSign_default] at h
  cases h

/-- An associated account is no address of the program. -/
lemma associatedToken_ne_find (o m : K) (σ : Seeds K) :
    associatedToken o m ≠ findProgramAddress σ :=
  Addresses.associatedToken_ne

end

/-- Symbolic addresses: key pairs, associated token accounts, and one constructor for each seed list. -/
inductive Addr where
  | zero
  | wallet (n : ℕ)
  | ata (owner mint : Addr)
  | platform (bump : U8)
  | project (projectId : U64) (bump : U8)
  | pool (poolId : U64) (bump : U8)
  | poolLink (pool project : Addr) (bump : U8)
  | position (target owner : Addr) (bump : U8)
  | mrvProject (projectId : U64) (bump : U8)
  | baseline (mrvProject : Addr) (bump : U8)
  | verification (mrvProject : Addr) (index : U8) (bump : U8)
  | auditor (wallet : Addr) (bump : U8)
deriving DecidableEq

namespace Addr

/-- The address that a seed list and a bump derive. -/
def derive : Seeds Addr → U8 → Addr
  | .platform, b => .platform b
  | .project i, b => .project i b
  | .pool i, b => .pool i b
  | .poolLink p q, b => .poolLink p q b
  | .position t o, b => .position t o b
  | .mrvProject i, b => .mrvProject i b
  | .baseline m, b => .baseline m b
  | .verification m i, b => .verification m i b
  | .auditor w, b => .auditor w b

/-- Key pairs sign. -/
def isWallet : Addr → Bool
  | .wallet _ => true
  | _ => false

instance : Addresses Addr where
  default := .zero
  createProgramAddress := derive
  findBump := fun _ => 255
  associatedToken := .ata
  canSign := isWallet
  createProgramAddress_inj := by
    intro σ τ b c e
    cases σ <;> cases τ <;> cases e <;> exact ⟨rfl, rfl⟩
  associatedToken_inj := by
    rintro o o' m m' ⟨⟩
    exact ⟨rfl, rfl⟩
  associatedToken_ne := by
    intro o m σ b e
    cases σ <;> cases e
  not_canSign_default := rfl
  not_canSign_program := by
    intro σ b
    cases σ <;> rfl
  not_canSign_associated := fun _ _ => rfl

end Addr

end Exira
