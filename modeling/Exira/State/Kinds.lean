import Exira.State.Accounts
import Exira.State.Preimage

/-!
# Kinds

The nine kinds of accounts as one family: the table of a kind, the seeds and the bump that a record names, and its
terms, which are the record with all that instructions may write later put back to what it was first.
-/

namespace Exira

variable {K : Type}

/-! ## Tables and records -/

/-- The account type of a kind. -/
abbrev SeedKind.Record (K : Type) : SeedKind → Type
  | .platform => Platform K
  | .project => Project K
  | .pool => Pool K
  | .poolLink => PoolProjectLink K
  | .position => InvestorPosition K
  | .mrvProject => MrvProject
  | .baseline => Baseline K
  | .verification => Verification K
  | .auditor => Auditor K

/-- An account of the program. -/
abbrev Account (K : Type) := Σ κ : SeedKind, κ.Record K

/-- The table that holds the records of a kind. -/
def State.table (s : State K) : (κ : SeedKind) → Table K (κ.Record K)
  | .platform => s.platforms
  | .project => s.projects
  | .pool => s.pools
  | .poolLink => s.links
  | .position => s.positions
  | .mrvProject => s.mrvProjects
  | .baseline => s.baselines
  | .verification => s.verifications
  | .auditor => s.auditors

namespace SeedKind

/-- The seeds that a record's own fields give. -/
def seeds : (κ : SeedKind) → κ.Record K → Seeds K
  | .platform, _ => .platform
  | .project, p => .project (Project.projectId p)
  | .pool, p => .pool (Pool.poolId p)
  | .poolLink, l => .poolLink (PoolProjectLink.pool l) (PoolProjectLink.project l)
  | .position, q => .position (InvestorPosition.target q) (InvestorPosition.owner q)
  | .mrvProject, m => .mrvProject (MrvProject.projectId m)
  | .baseline, b => .baseline (Baseline.mrvProject b)
  | .verification, v => .verification (Verification.mrvProject v) (Verification.index v)
  | .auditor, a => .auditor (Auditor.wallet a)

/-- The bump that a record carries. -/
def bump : (κ : SeedKind) → κ.Record K → U8
  | .platform => Platform.bump
  | .project => Project.bump
  | .pool => Pool.bump
  | .poolLink => PoolProjectLink.bump
  | .position => InvestorPosition.bump
  | .mrvProject => MrvProject.bump
  | .baseline => Baseline.bump
  | .verification => Verification.bump
  | .auditor => Auditor.bump

end SeedKind

/-! ## Terms -/

/-- The fields of the platform that are fixed when it is made. -/
def Platform.terms (p : Platform K) : Platform K :=
  { p with projectCount := 0, poolCount := 0 }

/-- The fields of a project that are fixed when it is made. -/
def Project.terms (p : Project K) : Project K :=
  { p with
    tokensSold := 0
    totalDistributed := 0
    cumulativeUsdcPerToken := 0
    status := .funding
    activatedAt := 0
    originationFeeCollected := 0 }

/-- The status is not among what is put back: no instruction writes it. -/
def Pool.terms (p : Pool K) : Pool K :=
  { p with tokensSold := 0, totalDistributed := 0, cumulativeUsdcPerToken := 0, underlyingProjectCount := 0 }

/-- The fields of a position that are fixed when it is made. -/
def InvestorPosition.terms (q : InvestorPosition K) : InvestorPosition K :=
  { q with tokensHeld := 0, lastClaimedPerToken := 0, totalClaimed := 0 }

/-- The fields of an MRV project that are fixed when it is registered. -/
def MrvProject.terms (m : MrvProject) : MrvProject :=
  { m with status := .registered, baselineSubmitted := false, verificationCount := 0 }

/-- The fields of a verification that are fixed when it is submitted. -/
def Verification.terms (v : Verification K) : Verification K :=
  { v with attested := false }

/-- A record with all that may change put back. Links, baselines and auditors are never written again. -/
def SeedKind.terms : (κ : SeedKind) → κ.Record K → κ.Record K
  | .platform => Platform.terms
  | .project => Project.terms
  | .pool => Pool.terms
  | .poolLink => id
  | .position => InvestorPosition.terms
  | .mrvProject => MrvProject.terms
  | .baseline => id
  | .verification => Verification.terms
  | .auditor => id

/-- The seeds of a record are among its terms. -/
@[simp]
lemma SeedKind.seeds_terms (κ : SeedKind) (r : κ.Record K) : κ.seeds (κ.terms r) = κ.seeds r := by
  cases κ <;> rfl

/-- The bump of a record is among its terms. -/
@[simp]
lemma SeedKind.bump_terms (κ : SeedKind) (r : κ.Record K) : κ.bump (κ.terms r) = κ.bump r := by
  cases κ <;> rfl

/-- The seeds of a record are seeds of its kind. -/
@[simp]
lemma SeedKind.kind_seeds (κ : SeedKind) (r : κ.Record K) : (κ.seeds r).kind = κ := by
  cases κ <;> rfl

/-- Records of equal terms are at the same place. -/
lemma SeedKind.seeds_congr {κ : SeedKind} {r r' : κ.Record K} (e : κ.terms r' = κ.terms r) :
    κ.seeds r' = κ.seeds r := by
  rw [← κ.seeds_terms r', e, κ.seeds_terms]

end Exira
