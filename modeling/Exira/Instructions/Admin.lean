import Exira.Instructions.Constraints

/-!
# Admin instructions

`instructions/admin/`: for each instruction its accounts, under the names of the source, and its effect
on the state. The parts are in the order of Anchor: the accounts that have to be there are loaded, those of
`init` and `init_if_needed` are made, no two that are `mut` or `init_if_needed` may be one, the constraints of
the loaded ones are checked, and then the handler runs.
-/

namespace Exira

variable {K : Type} [DecidableEq K] [Addresses K]

/-- The accounts of `initialize_platform`. -/
structure InitializePlatform (K : Type) where
  platform : K
  admin : K
  treasury : K
  usdcMint : K

/-- Makes the platform, with fees of at most 100 %. -/
def initializePlatform (s : State K) (a : InitializePlatform K)
    (originationFeeBps performanceFeeBps hurdleRateBps : U16) : Result (State K) := do
  let _ ← load s.bank.mints a.usdcMint
  initProgramAccount s a.platform .platform
  require (originationFeeBps ≤ MAX_FEE_BPS ∧ performanceFeeBps ≤ MAX_FEE_BPS ∧
    hurdleRateBps ≤ MAX_FEE_BPS) .invalidFeeBps
  let platform : Platform K := {
    admin := a.admin
    treasury := a.treasury
    usdcMint := a.usdcMint
    originationFeeBps := originationFeeBps
    performanceFeeBps := performanceFeeBps
    hurdleRateBps := hurdleRateBps
    projectCount := 0
    poolCount := 0
    bump := findBump (K := K) .platform }
  return { s with platforms := s.platforms.insert a.platform platform }

/-- The accounts of `create_project`. -/
structure CreateProject (K : Type) where
  platform : K
  admin : K
  mrvProject : K
  project : K
  tokenMint : K
  usdcVault : K
  usdcMint : K

/-- Makes a project for an MRV entry with a baseline, its mint and its vault. -/
def createProject (s : State K) (a : CreateProject K) (now : Int64) (projectId targetAmount : U64)
    (termMonths : U8) : Result (State K) := do
  let platform ← load s.platforms a.platform
  let mrvProject ← load s.mrvProjects a.mrvProject
  let _ ← load s.bank.mints a.usdcMint
  initProgramAccount s a.project (.project projectId)
  let bank ← initMint s a.tokenMint a.admin a.project
  let bank ← initAssociatedToken { s with bank := bank } a.usdcVault a.project a.usdcMint
  checkPlatform a.platform platform a.admin
  require (platform.usdcMint = a.usdcMint) .invalidUsdcMint
  require (mrvProject.baselineSubmitted = true) .mrvBaselineMissing
  require (0 < targetAmount) .invalidTargetAmount
  require (MIN_TERM_MONTHS ≤ termMonths ∧ termMonths ≤ MAX_TERM_MONTHS) .invalidTermMonths
  let project : Project K := {
    projectId := projectId
    mrvProject := a.mrvProject
    tokenMint := a.tokenMint
    usdcVault := a.usdcVault
    targetAmount := targetAmount
    tokensSold := 0
    totalDistributed := 0
    cumulativeUsdcPerToken := 0
    termMonths := termMonths
    status := .funding
    activatedAt := 0
    createdAt := now
    originationFeeCollected := 0
    bump := findBump (K := K) (.project projectId) }
  return { s with
    platforms := s.platforms.insert a.platform
      { platform with projectCount := platform.projectCount.saturatingAdd 1 }
    projects := s.projects.insert a.project project
    bank := bank }

/-- The accounts of `activate_project`. -/
structure ActivateProject (K : Type) where
  platform : K
  admin : K
  project : K
  usdcVault : K
  treasuryUsdcAta : K
  treasury : K
  usdcMint : K

/-- The transfer of the origination fee to the treasury, when there is one. -/
def payFee (s : State K) (a : ActivateProject K) (project : Project K) (feeAmount : U64) :
    Result (Token.Bank K) :=
  if 0 < feeAmount then do
    signWith a.project (.project project.projectId) project.bump
    cpi (s.bank.transfer a.usdcVault a.treasuryUsdcAta a.project feeAmount)
  else
    .ok s.bank

/-- Activates a project that is sold out, and takes the origination fee. -/
def activateProject (s : State K) (a : ActivateProject K) (now : Int64) : Result (State K) := do
  let platform ← load s.platforms a.platform
  let project ← load s.projects a.project
  let _ ← load s.bank.accounts a.usdcVault
  let treasuryUsdcAta ← load s.bank.accounts a.treasuryUsdcAta
  let _ ← load s.bank.mints a.usdcMint
  noDuplicates [a.project, a.usdcVault, a.treasuryUsdcAta]
  checkPlatform a.platform platform a.admin
  require (platform.treasury = a.treasury) .unauthorized
  require (platform.usdcMint = a.usdcMint) .invalidUsdcMint
  checkSeeds a.project (.project project.projectId) project.bump
  require (project.usdcVault = a.usdcVault) .wrongVault
  checkToken treasuryUsdcAta a.usdcMint a.treasury
  require (project.status = .funding) .notFunding
  require (project.tokensSold = project.targetAmount) .notFullyFunded
  let feeAmount ← originationFee project.targetAmount platform.originationFeeBps
  let bank ← payFee s a project feeAmount
  return { s with
    projects := s.projects.insert a.project { project with
      status := .active
      activatedAt := now
      originationFeeCollected := feeAmount }
    bank := bank }

/-- The accounts of `distribute_repayment`. -/
structure DistributeRepayment (K : Type) where
  platform : K
  admin : K
  project : K
  adminUsdcAta : K
  usdcVault : K
  usdcMint : K

/-- Takes a repayment, and raises the project's index. -/
def distributeRepayment (s : State K) (a : DistributeRepayment K) (amount : U64) :
    Result (State K) := do
  let platform ← load s.platforms a.platform
  let project ← load s.projects a.project
  let adminUsdcAta ← load s.bank.accounts a.adminUsdcAta
  let _ ← load s.bank.accounts a.usdcVault
  let _ ← load s.bank.mints a.usdcMint
  noDuplicates [a.project, a.adminUsdcAta, a.usdcVault]
  checkPlatform a.platform platform a.admin
  require (platform.usdcMint = a.usdcMint) .invalidUsdcMint
  checkSeeds a.project (.project project.projectId) project.bump
  require (project.usdcVault = a.usdcVault) .wrongVault
  checkToken adminUsdcAta a.usdcMint a.admin
  require (0 < amount) .zeroAmount
  require (project.status = .active ∨ project.status = .repaying) .notActiveOrRepaying
  require (0 < project.tokensSold) .noTokensSold
  let bank ← cpi (s.bank.transfer a.adminUsdcAta a.usdcVault a.admin amount)
  let (cumulative, totalDistributed) ← accumulate project.cumulativeUsdcPerToken
    project.totalDistributed project.tokensSold amount
  return { s with
    projects := s.projects.insert a.project { project with
      cumulativeUsdcPerToken := cumulative
      totalDistributed := totalDistributed
      status := if project.status = .active then .repaying else project.status }
    bank := bank }

/-- The accounts of `close_project`. -/
structure CloseProject (K : Type) where
  platform : K
  admin : K
  project : K

/-- Completes a project. -/
def closeProject (s : State K) (a : CloseProject K) : Result (State K) := do
  let platform ← load s.platforms a.platform
  let project ← load s.projects a.project
  checkPlatform a.platform platform a.admin
  checkSeeds a.project (.project project.projectId) project.bump
  require (project.status = .repaying ∨ project.status = .active) .notActiveOrRepaying
  return { s with projects := s.projects.insert a.project { project with status := .completed } }

/-- The accounts of `create_pool`. -/
structure CreatePool (K : Type) where
  platform : K
  admin : K
  pool : K
  poolTokenMint : K
  usdcVault : K
  usdcMint : K

/-- Makes a pool, its mint and its vault. -/
def createPool (s : State K) (a : CreatePool K) (now : Int64) (poolId targetAmount : U64) :
    Result (State K) := do
  let platform ← load s.platforms a.platform
  let _ ← load s.bank.mints a.usdcMint
  initProgramAccount s a.pool (.pool poolId)
  let bank ← initMint s a.poolTokenMint a.admin a.pool
  let bank ← initAssociatedToken { s with bank := bank } a.usdcVault a.pool a.usdcMint
  checkPlatform a.platform platform a.admin
  require (platform.usdcMint = a.usdcMint) .invalidUsdcMint
  require (0 < targetAmount) .invalidTargetAmount
  let pool : Pool K := {
    poolId := poolId
    poolTokenMint := a.poolTokenMint
    usdcVault := a.usdcVault
    targetAmount := targetAmount
    tokensSold := 0
    totalDistributed := 0
    cumulativeUsdcPerToken := 0
    underlyingProjectCount := 0
    status := .funding
    createdAt := now
    bump := findBump (K := K) (.pool poolId) }
  return { s with
    platforms := s.platforms.insert a.platform
      { platform with poolCount := platform.poolCount.saturatingAdd 1 }
    pools := s.pools.insert a.pool pool
    bank := bank }

/-- The accounts of `add_project_to_pool`. -/
structure AddProjectToPool (K : Type) where
  platform : K
  admin : K
  pool : K
  project : K
  poolProjectLink : K

/-- Links a project to a pool. -/
def addProjectToPool (s : State K) (a : AddProjectToPool K) : Result (State K) := do
  let platform ← load s.platforms a.platform
  let pool ← load s.pools a.pool
  let project ← load s.projects a.project
  initProgramAccount s a.poolProjectLink (.poolLink a.pool a.project)
  checkPlatform a.platform platform a.admin
  checkSeeds a.pool (.pool pool.poolId) pool.bump
  checkSeeds a.project (.project project.projectId) project.bump
  require (pool.underlyingProjectCount < MAX_POOL_PROJECTS_V1) .poolTooManyProjects
  let link : PoolProjectLink K := {
    pool := a.pool
    project := a.project
    projectTokensHeld := 0
    bump := findBump (.poolLink a.pool a.project) }
  return { s with
    pools := s.pools.insert a.pool
      { pool with underlyingProjectCount := pool.underlyingProjectCount.saturatingAdd 1 }
    links := s.links.insert a.poolProjectLink link }

/-- The accounts of `distribute_pool_returns`. -/
structure DistributePoolReturns (K : Type) where
  platform : K
  admin : K
  pool : K
  adminUsdcAta : K
  usdcVault : K
  usdcMint : K

/-- Takes returns, and raises the pool's index. -/
def distributePoolReturns (s : State K) (a : DistributePoolReturns K) (amount : U64) :
    Result (State K) := do
  let platform ← load s.platforms a.platform
  let pool ← load s.pools a.pool
  let adminUsdcAta ← load s.bank.accounts a.adminUsdcAta
  let _ ← load s.bank.accounts a.usdcVault
  let _ ← load s.bank.mints a.usdcMint
  noDuplicates [a.pool, a.adminUsdcAta, a.usdcVault]
  checkPlatform a.platform platform a.admin
  require (platform.usdcMint = a.usdcMint) .invalidUsdcMint
  checkSeeds a.pool (.pool pool.poolId) pool.bump
  require (pool.usdcVault = a.usdcVault) .wrongVault
  checkToken adminUsdcAta a.usdcMint a.admin
  require (0 < amount) .zeroAmount
  require (0 < pool.tokensSold) .noTokensSold
  let bank ← cpi (s.bank.transfer a.adminUsdcAta a.usdcVault a.admin amount)
  let (cumulative, totalDistributed) ← accumulate pool.cumulativeUsdcPerToken
    pool.totalDistributed pool.tokensSold amount
  return { s with
    pools := s.pools.insert a.pool { pool with
      cumulativeUsdcPerToken := cumulative
      totalDistributed := totalDistributed }
    bank := bank }

/-- The accounts of `withdraw_project_funds`. -/
structure WithdrawProjectFunds (K : Type) where
  platform : K
  admin : K
  project : K
  usdcVault : K
  destination : K
  usdcMint : K

/-- Moves USDC out of a project's vault, in any status. -/
def withdrawProjectFunds (s : State K) (a : WithdrawProjectFunds K) (amount : U64) :
    Result (State K) := do
  let platform ← load s.platforms a.platform
  let project ← load s.projects a.project
  let usdcVault ← load s.bank.accounts a.usdcVault
  let destination ← load s.bank.accounts a.destination
  let _ ← load s.bank.mints a.usdcMint
  noDuplicates [a.project, a.usdcVault, a.destination]
  checkPlatform a.platform platform a.admin
  require (platform.usdcMint = a.usdcMint) .invalidUsdcMint
  checkSeeds a.project (.project project.projectId) project.bump
  require (project.usdcVault = a.usdcVault) .wrongVault
  constraint (destination.mint = a.usdcMint) .constraintTokenMint
  require (0 < amount) .zeroAmount
  require (amount ≤ usdcVault.amount) .insufficientVaultBalance
  signWith a.project (.project project.projectId) project.bump
  let bank ← cpi (s.bank.transfer a.usdcVault a.destination a.project amount)
  return { s with bank := bank }

end Exira
