import Exira.Instructions.Inversion
import Exira.State.Kinds
import Exira.View

/-!
# What an instruction writes and opens

For each instruction the accounts that its struct marks, the keys that its token calls are signed with, and the
record that it opens. `Effects s now i s'` is everything that the instruction `i` may do from `s` to `s'`: to the
table of each kind it does nothing, or it writes one of its accounts or makes one; its calls of the token program
are between its accounts. `handle_effects` goes through the instructions once, and what they leave alone is read
off from it.
-/

namespace Exira

variable {K : Type} [DecidableEq K] [Addresses K]

/-! ## What an instruction is about -/

/-- The project or the pool that an instruction is about. -/
def Instruction.target : Instruction K → Option (Target K)
  | .createProject a _ _ _ => some (.project a.project)
  | .activateProject a => some (.project a.project)
  | .distributeRepayment a _ => some (.project a.project)
  | .closeProject a => some (.project a.project)
  | .withdrawProjectFunds a _ => some (.project a.project)
  | .buyProjectTokens a _ => some (.project a.project)
  | .claimProjectReturns a => some (.project a.project)
  | .withdrawInvestment a => some (.project a.project)
  | .createPool a _ _ => some (.pool a.pool)
  | .addProjectToPool a => some (.pool a.pool)
  | .distributePoolReturns a _ => some (.pool a.pool)
  | .buyPoolTokens a _ => some (.pool a.pool)
  | .claimPoolReturns a => some (.pool a.pool)
  | _ => none

/-- The keys that sign the transfers and burns of an instruction: its signer, or a project or a pool with the
seeds of the program. -/
def Instruction.spenders : Instruction K → List K
  | .activateProject a => [a.project]
  | .distributeRepayment a _ => [a.admin]
  | .distributePoolReturns a _ => [a.admin]
  | .withdrawProjectFunds a _ => [a.project]
  | .buyProjectTokens a _ => [a.investor]
  | .claimProjectReturns a => [a.project]
  | .withdrawInvestment a => [a.investor, a.project]
  | .buyPoolTokens a _ => [a.investor]
  | .claimPoolReturns a => [a.pool]
  | _ => []

/-- The seeds of the accounts that an instruction can make. -/
def Instruction.seeds : Instruction K → List (Seeds K)
  | .initializePlatform _ _ _ _ => [.platform]
  | .createProject _ id _ _ => [.project id]
  | .createPool _ id _ => [.pool id]
  | .addProjectToPool a => [.poolLink a.pool a.project]
  | .buyProjectTokens a _ => [.position a.project a.investor]
  | .buyPoolTokens a _ => [.position a.pool a.investor]
  | .registerMrvProject _ id _ _ _ _ => [.mrvProject id]
  | .addAuditor a _ _ => [.auditor a.auditorWallet]
  | .submitBaseline a _ _ _ _ _ => [.baseline a.mrvProject]
  | .submitVerification a index _ _ _ _ _ _ _ => [.verification a.mrvProject index]
  | _ => []

/-- The owners of the token accounts that an instruction can open: its target, or its signer. -/
def Instruction.openers : Instruction K → List K
  | .createProject a _ _ _ => [a.project]
  | .createPool a _ _ => [a.pool]
  | .buyProjectTokens a _ => [a.investor]
  | .buyPoolTokens a _ => [a.investor]
  | .claimProjectReturns a => [a.investor]
  | .claimPoolReturns a => [a.investor]
  | _ => []

/-! ## Accounts -/

/-- The accounts that the struct of an instruction marks `mut` or `init`, but for its signers, which are marked
to pay for rent. -/
def Instruction.writable : Instruction K → List K
  | .initializePlatform a _ _ _ => [a.platform]
  | .createProject a _ _ _ => [a.platform, a.project, a.tokenMint, a.usdcVault]
  | .activateProject a => [a.project, a.usdcVault, a.treasuryUsdcAta]
  | .distributeRepayment a _ => [a.project, a.adminUsdcAta, a.usdcVault]
  | .closeProject a => [a.project]
  | .createPool a _ _ => [a.platform, a.pool, a.poolTokenMint, a.usdcVault]
  | .addProjectToPool a => [a.pool, a.poolProjectLink]
  | .distributePoolReturns a _ => [a.pool, a.adminUsdcAta, a.usdcVault]
  | .withdrawProjectFunds a _ => [a.project, a.usdcVault, a.destination]
  | .buyProjectTokens a _ =>
    [a.project, a.tokenMint, a.usdcVault, a.investorUsdcAta, a.investorTokenAta, a.position]
  | .claimProjectReturns a => [a.usdcVault, a.position, a.investorUsdcAta]
  | .withdrawInvestment a =>
    [a.project, a.tokenMint, a.usdcVault, a.position, a.investorTokenAta, a.investorUsdcAta]
  | .buyPoolTokens a _ =>
    [a.pool, a.poolTokenMint, a.usdcVault, a.investorUsdcAta, a.investorPoolTokenAta, a.position]
  | .claimPoolReturns a => [a.usdcVault, a.position, a.investorUsdcAta]
  | .registerMrvProject a _ _ _ _ _ => [a.mrvProject]
  | .addAuditor a _ _ => [a.auditor]
  | .submitBaseline a _ _ _ _ _ => [a.mrvProject, a.baseline]
  | .submitVerification a _ _ _ _ _ _ _ _ => [a.mrvProject, a.verification]
  | .attestVerification a => [a.verification]

/-- The accounts of the program among these, with the types that the struct gives them. -/
def Instruction.writes : Instruction K → List (SeedKind × K)
  | .initializePlatform a _ _ _ => [(.platform, a.platform)]
  | .createProject a _ _ _ => [(.platform, a.platform), (.project, a.project)]
  | .activateProject a => [(.project, a.project)]
  | .distributeRepayment a _ => [(.project, a.project)]
  | .closeProject a => [(.project, a.project)]
  | .createPool a _ _ => [(.platform, a.platform), (.pool, a.pool)]
  | .addProjectToPool a => [(.pool, a.pool), (.poolLink, a.poolProjectLink)]
  | .distributePoolReturns a _ => [(.pool, a.pool)]
  | .withdrawProjectFunds a _ => [(.project, a.project)]
  | .buyProjectTokens a _ => [(.project, a.project), (.position, a.position)]
  | .claimProjectReturns a => [(.position, a.position)]
  | .withdrawInvestment a => [(.project, a.project), (.position, a.position)]
  | .buyPoolTokens a _ => [(.pool, a.pool), (.position, a.position)]
  | .claimPoolReturns a => [(.position, a.position)]
  | .registerMrvProject a _ _ _ _ _ => [(.mrvProject, a.mrvProject)]
  | .addAuditor a _ _ => [(.auditor, a.auditor)]
  | .submitBaseline a _ _ _ _ _ => [(.mrvProject, a.mrvProject), (.baseline, a.baseline)]
  | .submitVerification a _ _ _ _ _ _ _ _ => [(.mrvProject, a.mrvProject), (.verification, a.verification)]
  | .attestVerification a => [(.verification, a.verification)]

omit [DecidableEq K] [Addresses K] in
/-- The accounts of the program are among those marked. -/
lemma Instruction.writable_of_writes {i : Instruction K} {κ : SeedKind} {k : K} (mem : (κ, k) ∈ i.writes) :
    k ∈ i.writable := by
  cases i <;> simp only [Instruction.writes, Instruction.writable, List.mem_cons, List.not_mem_nil, Prod.mk.injEq,
    or_false] at mem ⊢ <;> tauto

omit [DecidableEq K] [Addresses K] in
/-- A project that is written is the one that the instruction is about. -/
lemma Instruction.target_project {i : Instruction K} {k : K} (mem : (.project, k) ∈ i.writes) :
    i.target = some (.project k) := by
  cases i <;> simp_all [Instruction.writes, Instruction.target]

omit [DecidableEq K] [Addresses K] in
/-- A pool that is written is the one that the instruction is about. -/
lemma Instruction.target_pool {i : Instruction K} {k : K} (mem : (.pool, k) ∈ i.writes) :
    i.target = some (.pool k) := by
  cases i <;> simp_all [Instruction.writes, Instruction.target]

/-- The instructions that only the admin can call. -/
def Instruction.governs : Instruction K → Bool
  | .createProject _ _ _ _ | .activateProject _ | .distributeRepayment _ _ | .closeProject _ | .createPool _ _ _
  | .addProjectToPool _ | .distributePoolReturns _ _ | .withdrawProjectFunds _ _ | .registerMrvProject _ _ _ _ _ _
  | .addAuditor _ _ _ => true
  | _ => false

/-! ## Records -/

/-- The record that an instruction opens, its terms only. A purchase opens a position the first time. -/
def Instruction.record (now : Int64) : Instruction K → Option (Account K)
  | .initializePlatform a orig perf hurdle => some ⟨.platform, {
      admin := a.admin
      treasury := a.treasury
      usdcMint := a.usdcMint
      originationFeeBps := orig
      performanceFeeBps := perf
      hurdleRateBps := hurdle
      projectCount := 0
      poolCount := 0
      bump := findBump (K := K) .platform }⟩
  | .createProject a id target term => some ⟨.project, {
      projectId := id
      mrvProject := a.mrvProject
      tokenMint := a.tokenMint
      usdcVault := a.usdcVault
      targetAmount := target
      tokensSold := 0
      totalDistributed := 0
      cumulativeUsdcPerToken := 0
      termMonths := term
      status := .funding
      activatedAt := 0
      createdAt := now
      originationFeeCollected := 0
      bump := findBump (K := K) (.project id) }⟩
  | .createPool a id target => some ⟨.pool, {
      poolId := id
      poolTokenMint := a.poolTokenMint
      usdcVault := a.usdcVault
      targetAmount := target
      tokensSold := 0
      totalDistributed := 0
      cumulativeUsdcPerToken := 0
      underlyingProjectCount := 0
      status := .funding
      createdAt := now
      bump := findBump (K := K) (.pool id) }⟩
  | .addProjectToPool a => some ⟨.poolLink, {
      pool := a.pool
      project := a.project
      projectTokensHeld := 0
      bump := findBump (.poolLink a.pool a.project) }⟩
  | .buyProjectTokens a _ => some ⟨.position, {
      owner := a.investor
      target := a.project
      tokensHeld := 0
      lastClaimedPerToken := 0
      totalClaimed := 0
      bump := findBump (.position a.project a.investor) }⟩
  | .buyPoolTokens a _ => some ⟨.position, {
      owner := a.investor
      target := a.pool
      tokensHeld := 0
      lastClaimedPerToken := 0
      totalClaimed := 0
      bump := findBump (.position a.pool a.investor) }⟩
  | .registerMrvProject _ id name sector location upgrade => do
    let msmeName ← (padInto MSME_NAME_LEN name).toOption
    let sector ← (padInto SECTOR_LEN sector).toOption
    let location ← (padInto LOCATION_LEN location).toOption
    let upgradeType ← (padInto UPGRADE_TYPE_LEN upgrade).toOption
    some ⟨.mrvProject, {
      projectId := id
      msmeName := msmeName
      sector := sector
      location := location
      upgradeType := upgradeType
      status := .registered
      baselineSubmitted := false
      verificationCount := 0
      createdAt := now
      bump := findBump (K := K) (.mrvProject id) }⟩
  | .addAuditor a name certification => do
    let name ← (padInto AUDITOR_NAME_LEN name).toOption
    let certification ← (padInto CERTIFICATION_LEN certification).toOption
    some ⟨.auditor, {
      wallet := a.auditorWallet
      name := name
      certification := certification
      isActive := true
      projectsAudited := 0
      addedAt := now
      bump := findBump (.auditor a.auditorWallet) }⟩
  | .submitBaseline a energy fuel cost co2 hash => do
    let fuelType ← (padInto FUEL_TYPE_LEN fuel).toOption
    some ⟨.baseline, {
      mrvProject := a.mrvProject
      auditor := a.auditorSigner
      energyKwhPerYear := energy
      fuelType := fuelType
      costInrPerYear := cost
      co2TonsPerYearX100 := co2
      reportHash := hash
      submittedAt := now
      bump := findBump (.baseline a.mrvProject) }⟩
  | .submitVerification a index start stop energy cost co2 bps hash =>
    some ⟨.verification, a.record now index start stop energy cost co2 bps hash⟩
  | _ => none

section
variable {now : Int64} {i : Instruction K} {κ : SeedKind} {r : κ.Record K}

omit [DecidableEq K] in
/-- A record is opened at the seeds that it names, with the bump of these. -/
lemma Instruction.record_place (opens : i.record now = some ⟨κ, r⟩) :
    i.seeds = [κ.seeds r] ∧ κ.bump r = findBump (κ.seeds r) ∧ κ.terms r = r := by
  cases i <;> simp only [Instruction.record, Option.bind_eq_bind, Option.bind_eq_some_iff, Option.some.injEq,
    reduceCtorEq, Sigma.mk.injEq] at opens
  case registerMrvProject =>
    obtain ⟨_, -, _, -, _, -, _, -, rfl, opens⟩ := opens
    cases opens
    exact ⟨rfl, rfl, rfl⟩
  case addAuditor =>
    obtain ⟨_, -, _, -, rfl, opens⟩ := opens
    cases opens
    exact ⟨rfl, rfl, rfl⟩
  case submitBaseline =>
    obtain ⟨_, -, rfl, opens⟩ := opens
    cases opens
    exact ⟨rfl, rfl, rfl⟩
  all_goals
    obtain ⟨rfl, opens⟩ := opens
    cases opens
    exact ⟨rfl, rfl, rfl⟩

end

/-! ## Token calls -/

/-- The calls of the token program that an instruction makes, one after the other, from the bank `b`. Its
spenders sign the transfers and the burns, its accounts are opened at associated addresses, and all that is
written is marked. -/
inductive TokenCalls (i : Instruction K) (b : Token.Bank K) : Token.Bank K → Prop
  | none : TokenCalls i b b
  | transfer {b' b'' source dest authority n} (before : TokenCalls i b b')
      (run : b'.transfer source dest authority n = .ok b'')
      (signs : authority ∈ i.spenders := by simp [Instruction.spenders])
      (out : source ∈ i.writable := by simp [Instruction.writable])
      (into : dest ∈ i.writable := by simp [Instruction.writable]) : TokenCalls i b b''
  | burn {b' b'' source mint authority n} (before : TokenCalls i b b')
      (run : b'.burn source mint authority n = .ok b'')
      (signs : authority ∈ i.spenders := by simp [Instruction.spenders])
      (out : source ∈ i.writable := by simp [Instruction.writable])
      (less : mint ∈ i.writable := by simp [Instruction.writable]) : TokenCalls i b b''
  | mintTo {b' b'' mint dest authority n} (before : TokenCalls i b b')
      (run : b'.mintTo mint dest authority n = .ok b'')
      (more : mint ∈ i.writable := by simp [Instruction.writable])
      (into : dest ∈ i.writable := by simp [Instruction.writable]) : TokenCalls i b b''
  | newMint {b' b'' key auth freeze d} (before : TokenCalls i b b')
      (run : b'.initMint key auth freeze d = .ok b'')
      (mem : key ∈ i.writable := by simp [Instruction.writable]) : TokenCalls i b b''
  | newAccount {b' b'' key mint owner} (before : TokenCalls i b b')
      (run : b'.initAccount key mint owner = .ok b'') (place : key = associatedToken owner mint)
      (opener : owner ∈ i.openers := by simp [Instruction.openers])
      (mem : key ∈ i.writable := by simp [Instruction.writable]) : TokenCalls i b b''

section
variable {s : State K} {i : Instruction K} {b b' : Token.Bank K} {k owner mint : K}

/-- `init_if_needed` opens the account of its owner, or makes no call. -/
lemma TokenCalls.ensure (h : ensureAssociatedToken s k owner mint = .ok b)
    (opener : owner ∈ i.openers := by simp [Instruction.openers])
    (mem : k ∈ i.writable := by simp [Instruction.writable]) : TokenCalls i s.bank b := by
  obtain ⟨place, run | ⟨rfl, -⟩⟩ := ensureAssociatedToken_ok h
  · exact .newAccount .none run place opener mem
  · exact .none

/-- The mint and the vault of a new target. -/
lemma TokenCalls.found {payer vault usdc : K} (h : initMint s mint payer k = .ok b)
    (h' : initAssociatedToken { s with bank := b } vault k usdc = .ok b')
    (opener : k ∈ i.openers := by simp [Instruction.openers])
    (mem : mint ∈ i.writable := by simp [Instruction.writable])
    (mem' : vault ∈ i.writable := by simp [Instruction.writable]) : TokenCalls i s.bank b' := by
  obtain ⟨-, -, run⟩ := initMint_ok.mp h
  obtain ⟨place, -, run'⟩ := initAssociatedToken_ok.mp h'
  exact .newAccount (.newMint .none run mem) run' place opener mem'

/-- The origination fee. -/
lemma TokenCalls.fee {a : ActivateProject K} {project : Project K} {n : U64} (h : payFee s a project n = .ok b) :
    TokenCalls (.activateProject a) s.bank b := by
  rcases payFee_ok h with paid | ⟨-, rfl⟩
  · exact .transfer .none paid
  · exact .none

end

/-! ## Tables -/

/-- What an instruction may write in a project: nothing when it is completed, and no more than the tokens sold
unless it is the admin's instruction. -/
structure Project.Changes (i : Instruction K) (p p' : Project K) : Prop where
  live : p.status ≠ .completed
  sold : i.governs = true ∨ p' = { p with tokensSold := p'.tokensSold }

/-- What an instruction may write in a pool. It counts a project only when it links it. -/
structure Pool.Changes (i : Instruction K) (p p' : Pool K) : Prop where
  sold : i.governs = true ∨ p' = { p with tokensSold := p'.tokensSold }
  count : (∃ k, (.poolLink, k) ∈ i.writes) ∨ p'.underlyingProjectCount = p.underlyingProjectCount

/-- A position that is written is checked to be at the seeds of the target and the signer. -/
def InvestorPosition.Checked (i : Instruction K) (k : K) (q : InvestorPosition K) : Prop :=
  ∃ t w, i.target = some t ∧ w ∈ i.signers ∧ k = createProgramAddress (.position t.key w) q.bump

/-- What an instruction may write over a record, besides keeping its terms. -/
def SeedKind.Changes (i : Instruction K) (k : K) : (κ : SeedKind) → κ.Record K → κ.Record K → Prop
  | .project => Project.Changes i
  | .pool => Pool.Changes i
  | .position => fun q _ => InvestorPosition.Checked i k q
  | _ => fun _ _ => True

/-- What becomes of the table of a kind: nothing, or one account is written over, or made at a vacant address, or
written by a purchase, which makes it the first time. -/
inductive Written (s : State K) (now : Int64) (i : Instruction K) : (κ : SeedKind) → Table K (κ.Record K) → Prop
  | same {κ} : Written s now i κ (s.table κ)
  | write {κ k r r'} (own : (s.table κ).lookup k = some r) (terms : κ.terms r' = κ.terms r)
      (changes : κ.Changes i k r r') (mem : (κ, k) ∈ i.writes := by simp [Instruction.writes]) :
      Written s now i κ ((s.table κ).insert k r')
  | make {κ k r} (vacant : s.Vacant k) (opens : i.record now = some ⟨κ, κ.terms r⟩)
      (place : k = findProgramAddress (κ.seeds r)) (mem : (κ, k) ∈ i.writes := by simp [Instruction.writes])
      (sort : κ ≠ .position := by nofun) : Written s now i κ ((s.table κ).insert k r)
  | purchase {t : Target K} {w k index q held} (target : i.target = some t) (signs : w ∈ i.signers)
      (made : ensurePosition s k t.key w = .ok q)
      (opens : i.record now = some ⟨.position, ⟨w, t.key, 0, 0, 0, findBump (.position t.key w)⟩⟩)
      (mem : (.position, k) ∈ i.writes := by simp [Instruction.writes]) :
      Written s now i .position (s.positions.insert k { openPosition q w t.key index with tokensHeld := held })

/-- Everything that a successful instruction does. -/
structure Effects (s : State K) (now : Int64) (i : Instruction K) (s' : State K) : Prop where
  platforms : Written s now i .platform s'.platforms := by exact .same
  projects : Written s now i .project s'.projects := by exact .same
  pools : Written s now i .pool s'.pools := by exact .same
  links : Written s now i .poolLink s'.links := by exact .same
  positions : Written s now i .position s'.positions := by exact .same
  mrvProjects : Written s now i .mrvProject s'.mrvProjects := by exact .same
  baselines : Written s now i .baseline s'.baselines := by exact .same
  verifications : Written s now i .verification s'.verifications := by exact .same
  auditors : Written s now i .auditor s'.auditors := by exact .same
  calls : TokenCalls i s.bank s'.bank := by exact .none
  /-- the accounts of the instruction's seeds are there -/
  made : ∀ σ ∈ i.seeds, findProgramAddress σ ∈ s'.table σ.kind := by nofun
  /-- but for positions, they were not there -/
  vacant : ∀ σ ∈ i.seeds, σ.kind ≠ .position → s.Vacant (findProgramAddress σ) := by nofun
  /-- the admin has signed -/
  admin : i.governs = true → ∃ k w platform, w ∈ i.signers ∧ AdminOf s k w platform := by nofun

/-! ## The instructions -/

section
variable {s s' : State K} {now : Int64}

/-- A registration opens the entry of its arguments. -/
lemma RegisterMrvProject.Done.opens {a : RegisterMrvProject K} {id : U64} {name sector location upgrade : String}
    (done : a.Done s id name sector location upgrade) :
    (Instruction.registerMrvProject a id name sector location upgrade).record now
      = some ⟨.mrvProject, done.entry now⟩ := by
  simp only [Instruction.record, done.name_fits, done.sector_fits, done.location_fits, done.upgrade_fits]
  rfl

/-- The addition of an auditor opens the account of its arguments. -/
lemma AddAuditor.Done.opens {a : AddAuditor K} {name certification : String} (done : a.Done s name certification) :
    (Instruction.addAuditor a name certification).record now = some ⟨.auditor, done.record now⟩ := by
  simp only [Instruction.record, done.name_fits, done.certification_fits]
  rfl

/-- A baseline is opened with what the auditor submits. -/
lemma SubmitBaseline.Done.opens {a : SubmitBaseline K} {energy cost co2 : U64} {fuel : String}
    {hash : Vector U8 32} (done : a.Done s fuel) :
    (Instruction.submitBaseline a energy fuel cost co2 hash).record now
      = some ⟨.baseline, done.record now energy cost co2 hash⟩ := by
  simp only [Instruction.record, done.fuel_fits]
  rfl

omit [DecidableEq K] [Addresses K] in
/-- A claim keeps the terms of its position. -/
lemma settlePosition_terms {q q' : InvestorPosition K} {cumulative : U128} {owed : U64}
    (h : settlePosition q cumulative owed = .ok q') : q'.terms = q.terms := by
  obtain ⟨_, -, rfl⟩ := settlePosition_ok h
  rfl

omit [Addresses K] in
/-- What was made is in the table. -/
lemma opened_at {V : Type} {m : Table K V} {k k' : K} {v : V} (place : k = k') : k' ∈ m.insert k v :=
  Finmap.mem_insert.mpr (.inl place.symm)

/-- The effects of each instruction. -/
theorem handle_effects {i : Instruction K} (h : handle s now i = .ok s') : Effects s now i s' := by
  cases i with
  | initializePlatform a =>
    obtain ⟨done, rfl⟩ := initializePlatform_ok.mp h
    exact {
      platforms := .make done.vacant rfl done.place
      made := List.forall_mem_singleton.mpr (opened_at done.place)
      vacant := List.forall_mem_singleton.mpr fun _ => done.place ▸ done.vacant }
  | createProject a =>
    obtain ⟨done, rfl⟩ := createProject_ok.mp h
    exact {
      platforms := .write done.loaded.own rfl trivial
      projects := .make done.vacant rfl done.place
      calls := .found done.mints done.founded
      made := List.forall_mem_singleton.mpr (opened_at done.place)
      vacant := List.forall_mem_singleton.mpr fun _ => done.place ▸ done.vacant
      admin := fun _ => ⟨_, a.admin, _, .head _, done.loaded⟩ }
  | activateProject a =>
    obtain ⟨done, rfl⟩ := activateProject_ok.mp h
    exact {
      -- the status is `Funding`, so the project is not completed
      projects := .write done.own rfl ⟨done.status ▸ nofun, .inl rfl⟩
      calls := .fee done.paid
      admin := fun _ => ⟨_, a.admin, _, .head _, done.loaded⟩ }
  | distributeRepayment a =>
    obtain ⟨done, rfl⟩ := distributeRepayment_ok.mp h
    -- `Active` or `Repaying`
    have live : done.project.status ≠ .completed := by
      rcases done.status with e | e <;> rw [e] <;> nofun
    exact {
      projects := .write done.own rfl ⟨live, .inl rfl⟩
      calls := .transfer .none done.paid
      admin := fun _ => ⟨_, a.admin, _, .head _, done.loaded⟩ }
  | closeProject a =>
    obtain ⟨done, rfl⟩ := closeProject_ok.mp h
    have live : done.project.status ≠ .completed := by
      rcases done.status with e | e <;> rw [e] <;> nofun
    exact {
      projects := .write done.own rfl ⟨live, .inl rfl⟩
      admin := fun _ => ⟨_, a.admin, _, .head _, done.loaded⟩ }
  | createPool a =>
    obtain ⟨done, rfl⟩ := createPool_ok.mp h
    exact {
      platforms := .write done.loaded.own rfl trivial
      pools := .make done.vacant rfl done.place
      calls := .found done.mints done.founded
      made := List.forall_mem_singleton.mpr (opened_at done.place)
      vacant := List.forall_mem_singleton.mpr fun _ => done.place ▸ done.vacant
      admin := fun _ => ⟨_, a.admin, _, .head _, done.loaded⟩ }
  | addProjectToPool a =>
    obtain ⟨done, rfl⟩ := addProjectToPool_ok.mp h
    exact {
      pools := .write done.own rfl ⟨.inl rfl, .inl ⟨a.poolProjectLink, .tail _ (.head _)⟩⟩
      links := .make done.vacant rfl done.place
      made := List.forall_mem_singleton.mpr (opened_at done.place)
      vacant := List.forall_mem_singleton.mpr fun _ => done.place ▸ done.vacant
      admin := fun _ => ⟨_, a.admin, _, .head _, done.loaded⟩ }
  | distributePoolReturns a =>
    obtain ⟨done, rfl⟩ := distributePoolReturns_ok.mp h
    exact {
      pools := .write done.own rfl ⟨.inl rfl, .inr rfl⟩
      calls := .transfer .none done.paid
      admin := fun _ => ⟨_, a.admin, _, .head _, done.loaded⟩ }
  | withdrawProjectFunds a =>
    obtain ⟨done, rfl⟩ := withdrawProjectFunds_ok.mp h
    exact {
      calls := .transfer .none done.paid
      admin := fun _ => ⟨_, a.admin, _, .head _, done.loaded⟩ }
  | buyProjectTokens a =>
    obtain ⟨done, rfl⟩ := buyProjectTokens_ok.mp h
    exact {
      projects := .write done.own rfl ⟨done.status ▸ nofun, .inr rfl⟩
      positions := .purchase (t := .project a.project) rfl (.head _) done.made rfl
      calls := .mintTo (.transfer (.ensure done.ensured) done.paid) done.minted
      made := List.forall_mem_singleton.mpr (opened_at (ensurePosition_ok done.made).1)
      -- `init_if_needed`: the position may be there
      vacant := List.forall_mem_singleton.mpr (absurd rfl) }
  | claimProjectReturns a =>
    obtain ⟨done, rfl⟩ := claimProjectReturns_ok.mp h
    exact {
      -- of the records a claim writes its position only
      positions := .write done.held (settlePosition_terms done.settled)
        ⟨.project a.project, a.investor, rfl, .head _, done.placed⟩
      calls := .transfer (.ensure done.ensured) done.paid }
  | withdrawInvestment a =>
    obtain ⟨done, rfl⟩ := withdrawInvestment_ok.mp h
    have live : done.project.status ≠ .completed := by
      rcases done.status with e | e <;> rw [e] <;> nofun
    exact {
      projects := .write done.own rfl ⟨live, .inr rfl⟩
      positions := .write done.held rfl ⟨.project a.project, a.investor, rfl, .head _, done.placed⟩
      calls := .transfer (.burn .none done.burns) done.refunded }
  | buyPoolTokens a =>
    obtain ⟨done, rfl⟩ := buyPoolTokens_ok.mp h
    exact {
      pools := .write done.own rfl ⟨.inr rfl, .inr rfl⟩
      positions := .purchase (t := .pool a.pool) rfl (.head _) done.made rfl
      calls := .mintTo (.transfer (.ensure done.ensured) done.paid) done.minted
      made := List.forall_mem_singleton.mpr (opened_at (ensurePosition_ok done.made).1)
      vacant := List.forall_mem_singleton.mpr (absurd rfl) }
  | claimPoolReturns a =>
    obtain ⟨done, rfl⟩ := claimPoolReturns_ok.mp h
    exact {
      positions := .write done.held (settlePosition_terms done.settled)
        ⟨.pool a.pool, a.investor, rfl, .head _, done.placed⟩
      calls := .transfer (.ensure done.ensured) done.paid }
  | registerMrvProject a =>
    obtain ⟨done, rfl⟩ := registerMrvProject_ok.mp h
    exact {
      mrvProjects := .make done.vacant done.opens done.place
      made := List.forall_mem_singleton.mpr (opened_at done.place)
      vacant := List.forall_mem_singleton.mpr fun _ => done.place ▸ done.vacant
      admin := fun _ => ⟨_, a.admin, _, .head _, done.loaded⟩ }
  | addAuditor a =>
    obtain ⟨done, rfl⟩ := addAuditor_ok.mp h
    exact {
      auditors := .make done.vacant done.opens done.place
      made := List.forall_mem_singleton.mpr (opened_at done.place)
      vacant := List.forall_mem_singleton.mpr fun _ => done.place ▸ done.vacant
      admin := fun _ => ⟨_, a.admin, _, .head _, done.loaded⟩ }
  | submitBaseline a =>
    obtain ⟨done, rfl⟩ := submitBaseline_ok.mp h
    exact {
      -- the report, and the entry it is about
      mrvProjects := .write done.own rfl trivial
      baselines := .make done.vacant done.opens done.place
      made := List.forall_mem_singleton.mpr (opened_at done.place)
      vacant := List.forall_mem_singleton.mpr fun _ => done.place ▸ done.vacant }
  | submitVerification a =>
    obtain ⟨done, rfl⟩ := submitVerification_ok.mp h
    exact {
      mrvProjects := .write done.own rfl trivial
      verifications := .make done.vacant rfl done.place
      made := List.forall_mem_singleton.mpr (opened_at done.place)
      vacant := List.forall_mem_singleton.mpr fun _ => done.place ▸ done.vacant }
  | attestVerification a =>
    obtain ⟨done, rfl⟩ := attestVerification_ok.mp h
    exact { verifications := .write done.own rfl trivial }

end

/-! ## What is read off -/

/-- The table of a kind. -/
lemma Effects.table {s s' : State K} {now : Int64} {i : Instruction K} (h : Effects s now i s') (κ : SeedKind) :
    Written s now i κ (s'.table κ) := by
  cases κ with
  | platform => exact h.platforms
  | project => exact h.projects
  | pool => exact h.pools
  | poolLink => exact h.links
  | position => exact h.positions
  | mrvProject => exact h.mrvProjects
  | baseline => exact h.baselines
  | verification => exact h.verifications
  | auditor => exact h.auditors

section
variable {s s' : State K} {now : Int64} {i : Instruction K} {κ : SeedKind} {m : Table K (κ.Record K)} {k : K}
  {r' : κ.Record K}

omit [Addresses K] in
/-- A vacant address is in no table. -/
lemma State.Vacant.table (vacant : s.Vacant k) (κ : SeedKind) : (s.table κ).lookup k = none := by
  have free := vacant.1
  simp only [State.Owned, not_or, ← Finmap.lookup_eq_none] at free
  obtain ⟨platform, project, pool, link, position, mrvProject, baseline, verification, auditor⟩ := free
  cases κ <;> assumption

omit [DecidableEq K] in
/-- What the instruction opens is at its seeds. -/
lemma Instruction.mem_seeds {r : κ.Record K} (opens : i.record now = some ⟨κ, r⟩) : κ.seeds r ∈ i.seeds :=
  (record_place opens).1 ▸ .head _

omit [DecidableEq K] [Addresses K] in
/-- Only the admin's instructions open projects, pools, links, entries and auditors. -/
lemma Instruction.governs_of_seeds {σ : Seeds K} (mem : σ ∈ i.seeds)
    (kind : σ.kind ∈ [.project, .pool, .poolLink, .mrvProject, .auditor]) : i.governs = true := by
  cases i <;> simp_all [Instruction.seeds, Instruction.governs, Seeds.kind]

namespace Written

/-- An account that is not among those marked stays. -/
lemma other (h : Written s now i κ m) (out : (κ, k) ∉ i.writes) : m.lookup k = (s.table κ).lookup k := by
  cases h with
  | same => rfl
  | write _ _ _ mem =>
    apply Finmap.lookup_insert_of_ne _
    rintro rfl
    exact out mem
  | make _ _ _ mem =>
    apply Finmap.lookup_insert_of_ne _
    rintro rfl
    exact out mem
  | purchase _ _ _ _ mem =>
    apply Finmap.lookup_insert_of_ne _
    rintro rfl
    exact out mem

/-- A table without marked accounts stays. -/
lemma unmarked (h : Written s now i κ m) (out : ∀ k, (κ, k) ∉ i.writes) : m = s.table κ :=
  Finmap.ext_lookup fun k => h.other (out k)

/-- Accounts stay. -/
lemma stays {r : κ.Record K} (h : Written s now i κ m) (own : (s.table κ).lookup k = some r) :
    ∃ r', m.lookup k = some r' := by
  cases h with
  | same => exact ⟨r, own⟩
  | write => exact Finmap.mem_iff.mp (Finmap.mem_insert.mpr (.inr (Finmap.mem_of_lookup_eq_some own)))
  | make => exact Finmap.mem_iff.mp (Finmap.mem_insert.mpr (.inr (Finmap.mem_of_lookup_eq_some own)))
  | purchase => exact Finmap.mem_iff.mp (Finmap.mem_insert.mpr (.inr (Finmap.mem_of_lookup_eq_some own)))

/-- An account was there, and only what may change did, or it is the one that the instruction opens. -/
lemma origin (h : Written s now i κ m) (sort : κ ≠ .position) (own : m.lookup k = some r') :
    (∃ r, (s.table κ).lookup k = some r ∧ κ.terms r' = κ.terms r ∧ (r' = r ∨ κ.Changes i k r r')) ∨
      s.Vacant k ∧ i.record now = some ⟨κ, κ.terms r'⟩ ∧ k = findProgramAddress (κ.seeds r') := by
  cases h with
  | same => exact .inl ⟨r', own, rfl, .inl rfl⟩
  | @write _ k₀ r r₁ old terms changes =>
    rw [Finmap.lookup_insert_ite] at own
    split at own
    · next e =>
      cases own
      subst e
      exact .inl ⟨r, old, terms, .inr changes⟩
    · exact .inl ⟨r', own, rfl, .inl rfl⟩
  | @make _ k₀ r vacant opens place =>
    rw [Finmap.lookup_insert_ite] at own
    split at own
    · next e =>
      cases own
      subst e
      exact .inr ⟨vacant, opens, place⟩
    · exact .inl ⟨r', own, rfl, .inl rfl⟩
  | purchase => exact absurd rfl sort

/-- Accounts of a kind that the instruction does not open were there. -/
lemma old (h : Written s now i κ m) (sort : κ ≠ .position) (closed : ∀ σ ∈ i.seeds, σ.kind ≠ κ)
    (own : m.lookup k = some r') : ∃ r, (s.table κ).lookup k = some r ∧ κ.terms r' = κ.terms r ∧
      (r' = r ∨ κ.Changes i k r r') := by
  rcases h.origin sort own with old | ⟨-, opens, -⟩
  · exact old
  · exact absurd (κ.kind_seeds _) (closed _ (Instruction.mem_seeds opens))

end Written

end

end Exira
