import Exira.Lib.Token
import Exira.State.Address

/-!
# Accounts and errors

The account types of `state/`, the constants of `constants.rs` and the errors of `error.rs`, and the
state of the chain as far as the program sees it: one table for each account type, keyed by address, and
the token program's bank. A typed lookup stands for Anchor's owner and discriminator checks.
-/

namespace Exira

/-! ## Constants -/

/-- Scale of the distribution accumulator. -/
def PRECISION : U128 := 1000000000000#128

/-- 100 %, in basis points. -/
def MAX_FEE_BPS : U16 := 10000#16

def MIN_TERM_MONTHS : U8 := 6#8
def MAX_TERM_MONTHS : U8 := 60#8

def MAX_POOL_PROJECTS_V1 : U16 := 20#16

def EXIRA_TOKEN_DECIMALS : U8 := 6#8

def MSME_NAME_LEN : ℕ := 64
def SECTOR_LEN : ℕ := 32
def LOCATION_LEN : ℕ := 64
def UPGRADE_TYPE_LEN : ℕ := 32
def FUEL_TYPE_LEN : ℕ := 16
def AUDITOR_NAME_LEN : ℕ := 64
def CERTIFICATION_LEN : ℕ := 32

/-! ## Errors -/

/-- `error.rs` -/
inductive ExiraError where
  | unauthorized
  | platformAlreadyInitialized
  | invalidUsdcMint
  | invalidFeeBps
  | invalidTargetAmount
  | invalidTermMonths
  | mrvBaselineMissing
  | duplicateId
  | poolFull
  | notFunding
  | notActiveOrRepaying
  | notCompleted
  | cannotWithdraw
  | notFullyFunded
  | cannotCancelActive
  | nothingToClaim
  | zeroAmount
  | noTokensSold
  | mathOverflow
  | mathUnderflow
  | insufficientVaultBalance
  | auditorInactive
  | baselineAlreadySubmitted
  | invalidVerificationPeriod
  | alreadyAttested
  | attestationAuditorMismatch
  | poolTooManyProjects
  | projectAlreadyLinked
  | projectNotLinked
  | wrongVault
  | wrongMint
  | wrongPlatform
  | stringTooLong
deriving DecidableEq

/-- Failed checks of Anchor's account validation, and of the runtime. -/
inductive AnchorError where
  | accountNotInitialized
  | accountAlreadyInUse
  | missingRequiredSignature
  | constraintSeeds
  | constraintTokenMint
  | constraintTokenOwner
  | constraintAssociated
  | constraintDuplicateMutableAccount
  | tryingToInitPayerAsProgramAccount
  | accountDidNotSerialize
deriving DecidableEq

/-- What a call can fail with. -/
inductive Error where
  | exira (e : ExiraError)
  | anchor (e : AnchorError)
  | token (e : Token.Error)
deriving DecidableEq

/-- What a handler returns. -/
abbrev Result := Except Error

/-! ## Account types -/

/-- `state/platform.rs` -/
structure Platform (K : Type) where
  admin : K
  treasury : K
  usdcMint : K
  originationFeeBps : U16
  performanceFeeBps : U16
  hurdleRateBps : U16
  projectCount : U64
  poolCount : U64
  bump : U8

/-- The life of a project. -/
inductive ProjectStatus where
  | funding
  | active
  | repaying
  | completed
  | cancelled
deriving DecidableEq

/-- `state/project.rs` -/
structure Project (K : Type) where
  projectId : U64
  mrvProject : K
  tokenMint : K
  usdcVault : K
  targetAmount : U64
  tokensSold : U64
  totalDistributed : U64
  cumulativeUsdcPerToken : U128
  termMonths : U8
  status : ProjectStatus
  activatedAt : Int64
  createdAt : Int64
  originationFeeCollected : U64
  bump : U8

/-- The life of a pool. -/
inductive PoolStatus where
  | funding
  | active
  | distributing
  | completed
  | cancelled
deriving DecidableEq

/-- `state/pool.rs` -/
structure Pool (K : Type) where
  poolId : U64
  poolTokenMint : K
  usdcVault : K
  targetAmount : U64
  tokensSold : U64
  totalDistributed : U64
  cumulativeUsdcPerToken : U128
  underlyingProjectCount : U16
  status : PoolStatus
  createdAt : Int64
  bump : U8

/-- A project that a pool has. -/
structure PoolProjectLink (K : Type) where
  pool : K
  project : K
  projectTokensHeld : U64
  bump : U8

/-- `state/investor_position.rs` -/
structure InvestorPosition (K : Type) where
  owner : K
  target : K
  tokensHeld : U64
  lastClaimedPerToken : U128
  totalClaimed : U64
  bump : U8

/-- The position that `init_if_needed` makes of a fresh account: all bytes zero. -/
def InvestorPosition.zeroed {K : Type} [Addresses K] : InvestorPosition K where
  owner := Addresses.default
  target := Addresses.default
  tokensHeld := 0
  lastClaimedPerToken := 0
  totalClaimed := 0
  bump := 0

/-- The progress of an MRV entry. -/
inductive MrvProjectStatus where
  | registered
  | baselineSubmitted
  | inProgress
  | completed
deriving DecidableEq

/-- `state/mrv.rs` -/
structure MrvProject where
  projectId : U64
  msmeName : Vector U8 MSME_NAME_LEN
  sector : Vector U8 SECTOR_LEN
  location : Vector U8 LOCATION_LEN
  upgradeType : Vector U8 UPGRADE_TYPE_LEN
  status : MrvProjectStatus
  baselineSubmitted : Bool
  verificationCount : U8
  createdAt : Int64
  bump : U8

/-- What an auditor found before the upgrade. -/
structure Baseline (K : Type) where
  mrvProject : K
  auditor : K
  energyKwhPerYear : U64
  fuelType : Vector U8 FUEL_TYPE_LEN
  costInrPerYear : U64
  co2TonsPerYearX100 : U64
  reportHash : Vector U8 32
  submittedAt : Int64
  bump : U8

/-- What an auditor found in a period after it. -/
structure Verification (K : Type) where
  mrvProject : K
  auditor : K
  index : U8
  periodStart : Int64
  periodEnd : Int64
  energyKwhSaved : U64
  costInrSaved : U64
  co2TonsAvoidedX100 : U64
  savingsVsExpectedBps : U16
  reportHash : Vector U8 32
  attested : Bool
  submittedAt : Int64
  bump : U8

/-- An auditor's account. -/
structure Auditor (K : Type) where
  wallet : K
  name : Vector U8 AUDITOR_NAME_LEN
  certification : Vector U8 CERTIFICATION_LEN
  isActive : Bool
  projectsAudited : U32
  addedAt : Int64
  bump : U8

/-! ## The state -/

/-- All accounts that the program or its token calls can read and write. -/
structure State (K : Type) where
  platforms : Table K (Platform K)
  projects : Table K (Project K)
  pools : Table K (Pool K)
  links : Table K (PoolProjectLink K)
  positions : Table K (InvestorPosition K)
  mrvProjects : Table K MrvProject
  baselines : Table K (Baseline K)
  verifications : Table K (Verification K)
  auditors : Table K (Auditor K)
  bank : Token.Bank K

namespace State

variable {K : Type} [DecidableEq K]

/-- An address at which the program has an account. -/
def Owned (s : State K) (k : K) : Prop :=
  k ∈ s.platforms ∨ k ∈ s.projects ∨ k ∈ s.pools ∨ k ∈ s.links ∨ k ∈ s.positions ∨
    k ∈ s.mrvProjects ∨ k ∈ s.baselines ∨ k ∈ s.verifications ∨ k ∈ s.auditors

/-- An address without an account: `init` may create one there. -/
def Vacant (s : State K) (k : K) : Prop :=
  ¬ s.Owned k ∧ k ∉ s.bank.mints ∧ k ∉ s.bank.accounts

instance (s : State K) (k : K) : Decidable (s.Owned k) :=
  inferInstanceAs (Decidable (_ ∨ _))

instance (s : State K) (k : K) : Decidable (s.Vacant k) :=
  inferInstanceAs (Decidable (_ ∧ _))

end State

/-! ## Account constraints -/

section
variable {K V : Type} [DecidableEq K]

/-- `require!` with an error of the program -/
def require (c : Prop) [Decidable c] (e : ExiraError) : Result Unit :=
  Except.require c (.exira e)

/-- A constraint that Anchor reports under its own error. -/
def constraint (c : Prop) [Decidable c] (e : AnchorError) : Result Unit :=
  Except.require c (.anchor e)

/-- `Account<'info, T>`: the account exists and is of type `T`. -/
def load (m : Table K V) (k : K) : Result V :=
  (m.lookup k).okOr (.anchor .accountNotInitialized)

/-- Anchor's check that no account is passed as two mutable ones. -/
def noDuplicates (ks : List K) : Result Unit :=
  constraint ks.Nodup .constraintDuplicateMutableAccount

/-- An operation of the token program, called by the program or by a holder. -/
def cpi {α : Type} (x : Except Token.Error α) : Result α :=
  x.mapError .token

/-- A requirement is passed when it holds. -/
@[simp]
lemma require_eq_ok {c : Prop} [Decidable c] {e : ExiraError} {u : Unit} :
    require c e = .ok u ↔ c :=
  Except.require_eq_ok

/-- A constraint is passed when it holds. -/
@[simp]
lemma constraint_eq_ok {c : Prop} [Decidable c] {e : AnchorError} {u : Unit} :
    constraint c e = .ok u ↔ c :=
  Except.require_eq_ok

/-- A requirement that holds is passed. -/
lemma require_ok {c : Prop} [Decidable c] (h : c) (e : ExiraError) : require c e = .ok () :=
  require_eq_ok.mpr h

/-- A constraint that holds is passed. -/
lemma constraint_ok {c : Prop} [Decidable c] (h : c) (e : AnchorError) : constraint c e = .ok () :=
  constraint_eq_ok.mpr h

/-- An account is loaded when it is there. -/
@[simp]
lemma load_eq_ok {m : Table K V} {k : K} {v : V} : load m k = .ok v ↔ m.lookup k = some v :=
  Option.okOr_eq_ok

/-- Writable accounts are accepted when no two are one. -/
@[simp]
lemma noDuplicates_eq_ok {ks : List K} {u : Unit} : noDuplicates ks = .ok u ↔ ks.Nodup :=
  constraint_eq_ok

/-- A call of the token program succeeds when it does there. -/
@[simp]
lemma cpi_eq_ok {α : Type} {x : Except Token.Error α} {a : α} : cpi x = .ok a ↔ x = .ok a :=
  Except.mapError_eq_ok

end

end Exira
