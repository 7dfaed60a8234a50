import Exira.Instructions.Admin
import Exira.Instructions.Investor
import Exira.Instructions.Mrv

/-!
# What the instructions check and write

For each handler a structure `Done`: the accounts that a successful call found, the checks that held and the
calls of the token program. A handler succeeds exactly when there is one, and then returns the state that
the lemma of the handler names. No later proof unfolds a handler that succeeds.
-/

namespace Exira

variable {K : Type} [DecidableEq K] [Addresses K] {s s' : State K}

/-! ## Admin instructions -/

/-- What `initialize_platform` found and checked. -/
structure InitializePlatform.Done (s : State K) (a : InitializePlatform K) (orig perf hurdle : U16) where
  mint : Token.Mint K
  exist : s.bank.mints.lookup a.usdcMint = some mint
  place : a.platform = findProgramAddress .platform
  vacant : s.Vacant a.platform
  fees : orig ≤ MAX_FEE_BPS ∧ perf ≤ MAX_FEE_BPS ∧ hurdle ≤ MAX_FEE_BPS

/-- `initialize_platform` makes the platform account. -/
lemma initializePlatform_ok {a : InitializePlatform K} {orig perf hurdle : U16} :
    initializePlatform s a orig perf hurdle = .ok s' ↔ ∃ _ : a.Done s orig perf hurdle,
      s' = { s with platforms := s.platforms.insert a.platform ⟨a.admin, a.treasury, a.usdcMint, orig,
        perf, hurdle, 0, 0, findBump (K := K) .platform⟩ } := by
  simp only [initializePlatform, Except.bind_eq_ok, load_eq_ok, require_eq_ok, initProgramAccount_ok,
    exists_and_left, exists_const]
  constructor
  · rintro ⟨mint, exist, ⟨place, vacant⟩, fees, ⟨⟩⟩
    exact ⟨{ mint, exist, place, vacant, fees }, rfl⟩
  · rintro ⟨done, rfl⟩
    exact ⟨done.mint, done.exist, ⟨done.place, done.vacant⟩, done.fees, rfl⟩

/-- What `create_project` found, checked and called. -/
structure CreateProject.Done (s : State K) (a : CreateProject K) (id target : U64) (term : U8) where
  platform : Platform K
  loaded : AdminOf s a.platform a.admin platform
  usdc : platform.usdcMint = a.usdcMint
  mrvProject : MrvProject
  found : s.mrvProjects.lookup a.mrvProject = some mrvProject
  gate : mrvProject.baselineSubmitted = true
  mint : Token.Mint K
  exist : s.bank.mints.lookup a.usdcMint = some mint
  place : a.project = findProgramAddress (.project id)
  vacant : s.Vacant a.project
  /-- the bank with the mint -/
  minted : Token.Bank K
  mints : initMint s a.tokenMint a.admin a.project = .ok minted
  /-- the bank with the mint and the vault -/
  bank : Token.Bank K
  founded : initAssociatedToken { s with bank := minted } a.usdcVault a.project a.usdcMint = .ok bank
  pos : 0 < target
  term : MIN_TERM_MONTHS ≤ term ∧ term ≤ MAX_TERM_MONTHS

/-- `create_project` makes the project, its mint and its vault, and counts it. -/
lemma createProject_ok {a : CreateProject K} {now : Int64} {id target : U64} {term : U8} :
    createProject s a now id target term = .ok s' ↔ ∃ done : a.Done s id target term,
      s' = { s with
        platforms := s.platforms.insert a.platform
          { done.platform with projectCount := done.platform.projectCount.saturatingAdd 1 }
        projects := s.projects.insert a.project ⟨id, a.mrvProject, a.tokenMint, a.usdcVault, target, 0,
          0, 0, term, .funding, 0, now, 0, findBump (K := K) (.project id)⟩
        bank := done.bank } := by
  simp only [createProject, Except.bind_eq_ok, load_eq_ok, require_eq_ok, initProgramAccount_ok,
    checkPlatform_eq_ok, exists_and_left, exists_const]
  constructor
  · rintro ⟨platform, own, mrvProject, found, mint, exist, ⟨place, vacant⟩, minted, mints, bank, founded,
      ⟨seeds, admin⟩, usdc, gate, pos, term, ⟨⟩⟩
    exact ⟨{
      platform, loaded := ⟨own, seeds, admin⟩, usdc, mrvProject, found, gate, mint, exist, place, vacant,
      minted, mints, bank, founded, pos, term }, rfl⟩
  · rintro ⟨done, rfl⟩
    exact ⟨done.platform, done.loaded.own, done.mrvProject, done.found, done.mint, done.exist,
      ⟨done.place, done.vacant⟩, done.minted, done.mints, done.bank, done.founded,
      ⟨done.loaded.seeds, done.loaded.admin⟩, done.usdc, done.gate, done.pos, done.term, rfl⟩

/-- The fee is transferred when there is one, and nothing moves without. -/
lemma payFee_ok {a : ActivateProject K} {project : Project K} {fee : U64} {b : Token.Bank K}
    (h : payFee s a project fee = .ok b) :
    s.bank.transfer a.usdcVault a.treasuryUsdcAta a.project fee = .ok b ∨ (fee = 0 ∧ b = s.bank) := by
  unfold payFee at h
  split at h
  · simp only [signWith_eq_ok, Except.bind_eq_ok, cpi_eq_ok, exists_const] at h
    exact .inl h.2
  · next zero =>
    cases h
    rw [BitVec.lt_def, Nat.not_lt] at zero
    exact .inr ⟨BitVec.eq_of_toNat_eq_zero (Nat.eq_zero_of_le_zero zero), rfl⟩

/-- What `activate_project` found, checked and called. -/
structure ActivateProject.Done (s : State K) (a : ActivateProject K) where
  platform : Platform K
  loaded : AdminOf s a.platform a.admin platform
  treasury : platform.treasury = a.treasury
  usdc : platform.usdcMint = a.usdcMint
  project : Project K
  own : s.projects.lookup a.project = some project
  seeds : a.project = createProgramAddress (.project project.projectId) project.bump
  vault : project.usdcVault = a.usdcVault
  account : Token.Account K
  inVault : s.bank.accounts.lookup a.usdcVault = some account
  treasuryUsdcAta : Token.Account K
  found : s.bank.accounts.lookup a.treasuryUsdcAta = some treasuryUsdcAta
  ata : treasuryUsdcAta.owner = a.treasury ∧ treasuryUsdcAta.mint = a.usdcMint
  mint : Token.Mint K
  exist : s.bank.mints.lookup a.usdcMint = some mint
  distinct : [a.project, a.usdcVault, a.treasuryUsdcAta].Nodup
  status : project.status = .funding
  full : project.tokensSold = project.targetAmount
  fee : U64
  priced : originationFee project.targetAmount platform.originationFeeBps = .ok fee
  bank : Token.Bank K
  paid : payFee s a project fee = .ok bank

/-- `activate_project` writes the project and moves the fee. -/
lemma activateProject_ok {a : ActivateProject K} {now : Int64} :
    activateProject s a now = .ok s' ↔ ∃ done : a.Done s,
      s' = { s with
        projects := s.projects.insert a.project { done.project with
          status := .active
          activatedAt := now
          originationFeeCollected := done.fee }
        bank := done.bank } := by
  simp only [activateProject, Except.bind_eq_ok, load_eq_ok, checkPlatform_eq_ok, checkSeeds_eq_ok,
    checkToken_eq_ok, noDuplicates_eq_ok, require_eq_ok, exists_and_left, exists_const]
  constructor
  · rintro ⟨platform, own', project, own, account, inVault, treasuryUsdcAta, found, mint, exist, distinct,
      ⟨seeds', admin⟩, treasury, usdc, seeds, vault, ata, status, full, fee, priced, bank, paid, ⟨⟩⟩
    exact ⟨{
      platform, loaded := ⟨own', seeds', admin⟩, treasury, usdc, project, own, seeds, vault, account,
      inVault, treasuryUsdcAta, found, ata, mint, exist, distinct, status, full, fee, priced, bank, paid }, rfl⟩
  · rintro ⟨done, rfl⟩
    exact ⟨done.platform, done.loaded.own, done.project, done.own, done.account, done.inVault,
      done.treasuryUsdcAta, done.found, done.mint, done.exist, done.distinct,
      ⟨done.loaded.seeds, done.loaded.admin⟩, done.treasury, done.usdc, done.seeds, done.vault, done.ata,
      done.status, done.full, done.fee, done.priced, done.bank, done.paid, rfl⟩

/-- The fee is not paid to the vault that pays it. -/
lemma ActivateProject.Done.apart {a : ActivateProject K} (done : a.Done s) :
    a.usdcVault ≠ a.treasuryUsdcAta := by
  intro e
  have distinct := done.distinct
  simp [e] at distinct

/-- What `distribute_repayment` found, checked and called. -/
structure DistributeRepayment.Done (s : State K) (a : DistributeRepayment K) (n : U64) where
  platform : Platform K
  loaded : AdminOf s a.platform a.admin platform
  usdc : platform.usdcMint = a.usdcMint
  project : Project K
  own : s.projects.lookup a.project = some project
  seeds : a.project = createProgramAddress (.project project.projectId) project.bump
  vault : project.usdcVault = a.usdcVault
  adminUsdcAta : Token.Account K
  found : s.bank.accounts.lookup a.adminUsdcAta = some adminUsdcAta
  ata : adminUsdcAta.owner = a.admin ∧ adminUsdcAta.mint = a.usdcMint
  account : Token.Account K
  inVault : s.bank.accounts.lookup a.usdcVault = some account
  mint : Token.Mint K
  exist : s.bank.mints.lookup a.usdcMint = some mint
  distinct : [a.project, a.adminUsdcAta, a.usdcVault].Nodup
  pos : 0 < n
  status : project.status = .active ∨ project.status = .repaying
  sold : 0 < project.tokensSold
  bank : Token.Bank K
  paid : s.bank.transfer a.adminUsdcAta a.usdcVault a.admin n = .ok bank
  cumulative : U128
  distributed : U64
  accrued : accumulate project.cumulativeUsdcPerToken project.totalDistributed project.tokensSold n
    = .ok (cumulative, distributed)

/-- `distribute_repayment` raises the index and the total of the project. -/
lemma distributeRepayment_ok {a : DistributeRepayment K} {n : U64} :
    distributeRepayment s a n = .ok s' ↔ ∃ done : a.Done s n,
      s' = { s with
        projects := s.projects.insert a.project { done.project with
          cumulativeUsdcPerToken := done.cumulative
          totalDistributed := done.distributed
          status := if done.project.status = .active then .repaying else done.project.status }
        bank := done.bank } := by
  simp only [distributeRepayment, Except.bind_eq_ok, load_eq_ok, checkPlatform_eq_ok, checkSeeds_eq_ok,
    checkToken_eq_ok, noDuplicates_eq_ok, require_eq_ok, cpi_eq_ok, exists_and_left, exists_const]
  constructor
  · rintro ⟨platform, own', project, own, adminUsdcAta, found, account, inVault, mint, exist, distinct,
      ⟨seeds', admin⟩, usdc, seeds, vault, ata, pos, status, sold, bank, paid, ⟨cumulative, distributed⟩,
      accrued, ⟨⟩⟩
    exact ⟨{
      platform, loaded := ⟨own', seeds', admin⟩, usdc, project, own, seeds, vault, adminUsdcAta, found,
      ata, account, inVault, mint, exist, distinct, pos, status, sold, bank, paid, cumulative,
      distributed, accrued }, rfl⟩
  · rintro ⟨done, rfl⟩
    exact ⟨done.platform, done.loaded.own, done.project, done.own, done.adminUsdcAta, done.found,
      done.account, done.inVault, done.mint, done.exist, done.distinct,
      ⟨done.loaded.seeds, done.loaded.admin⟩, done.usdc, done.seeds, done.vault, done.ata, done.pos,
      done.status, done.sold, done.bank, done.paid, (done.cumulative, done.distributed), done.accrued, rfl⟩

/-- What `close_project` found and checked. -/
structure CloseProject.Done (s : State K) (a : CloseProject K) where
  platform : Platform K
  loaded : AdminOf s a.platform a.admin platform
  project : Project K
  own : s.projects.lookup a.project = some project
  seeds : a.project = createProgramAddress (.project project.projectId) project.bump
  status : project.status = .repaying ∨ project.status = .active

/-- `close_project` completes the project. -/
lemma closeProject_ok {a : CloseProject K} :
    closeProject s a = .ok s' ↔ ∃ done : a.Done s,
      s' = { s with
        projects := s.projects.insert a.project { done.project with status := .completed } } := by
  simp only [closeProject, Except.bind_eq_ok, load_eq_ok, checkPlatform_eq_ok, checkSeeds_eq_ok,
    require_eq_ok, exists_and_left, exists_const]
  constructor
  · rintro ⟨platform, own', project, own, ⟨seeds', admin⟩, seeds, status, ⟨⟩⟩
    exact ⟨{ platform, loaded := ⟨own', seeds', admin⟩, project, own, seeds, status }, rfl⟩
  · rintro ⟨done, rfl⟩
    exact ⟨done.platform, done.loaded.own, done.project, done.own,
      ⟨done.loaded.seeds, done.loaded.admin⟩, done.seeds, done.status, rfl⟩

/-- What `create_pool` found, checked and called. -/
structure CreatePool.Done (s : State K) (a : CreatePool K) (id target : U64) where
  platform : Platform K
  loaded : AdminOf s a.platform a.admin platform
  usdc : platform.usdcMint = a.usdcMint
  mint : Token.Mint K
  exist : s.bank.mints.lookup a.usdcMint = some mint
  place : a.pool = findProgramAddress (.pool id)
  vacant : s.Vacant a.pool
  /-- the bank with the mint -/
  minted : Token.Bank K
  mints : initMint s a.poolTokenMint a.admin a.pool = .ok minted
  /-- the bank with the mint and the vault -/
  bank : Token.Bank K
  founded : initAssociatedToken { s with bank := minted } a.usdcVault a.pool a.usdcMint = .ok bank
  pos : 0 < target

/-- `create_pool` makes the pool, its mint and its vault, and counts it. -/
lemma createPool_ok {a : CreatePool K} {now : Int64} {id target : U64} :
    createPool s a now id target = .ok s' ↔ ∃ done : a.Done s id target,
      s' = { s with
        platforms := s.platforms.insert a.platform
          { done.platform with poolCount := done.platform.poolCount.saturatingAdd 1 }
        pools := s.pools.insert a.pool ⟨id, a.poolTokenMint, a.usdcVault, target, 0, 0, 0, 0, .funding,
          now, findBump (K := K) (.pool id)⟩
        bank := done.bank } := by
  simp only [createPool, Except.bind_eq_ok, load_eq_ok, require_eq_ok, initProgramAccount_ok,
    checkPlatform_eq_ok, exists_and_left, exists_const]
  constructor
  · rintro ⟨platform, own, mint, exist, ⟨place, vacant⟩, minted, mints, bank, founded, ⟨seeds, admin⟩, usdc,
      pos, ⟨⟩⟩
    exact ⟨{
      platform, loaded := ⟨own, seeds, admin⟩, usdc, mint, exist, place, vacant, minted, mints, bank,
      founded, pos }, rfl⟩
  · rintro ⟨done, rfl⟩
    exact ⟨done.platform, done.loaded.own, done.mint, done.exist, ⟨done.place, done.vacant⟩, done.minted,
      done.mints, done.bank, done.founded, ⟨done.loaded.seeds, done.loaded.admin⟩, done.usdc, done.pos, rfl⟩

/-- What `add_project_to_pool` found and checked. -/
structure AddProjectToPool.Done (s : State K) (a : AddProjectToPool K) where
  platform : Platform K
  loaded : AdminOf s a.platform a.admin platform
  pool : Pool K
  own : s.pools.lookup a.pool = some pool
  seeds : a.pool = createProgramAddress (.pool pool.poolId) pool.bump
  project : Project K
  member : s.projects.lookup a.project = some project
  seeds' : a.project = createProgramAddress (.project project.projectId) project.bump
  place : a.poolProjectLink = findProgramAddress (.poolLink a.pool a.project)
  vacant : s.Vacant a.poolProjectLink
  room : pool.underlyingProjectCount < MAX_POOL_PROJECTS_V1

/-- `add_project_to_pool` makes the link, and counts it. -/
lemma addProjectToPool_ok {a : AddProjectToPool K} :
    addProjectToPool s a = .ok s' ↔ ∃ done : a.Done s,
      s' = { s with
        pools := s.pools.insert a.pool { done.pool with
          underlyingProjectCount := done.pool.underlyingProjectCount.saturatingAdd 1 }
        links := s.links.insert a.poolProjectLink
          ⟨a.pool, a.project, 0, findBump (.poolLink a.pool a.project)⟩ } := by
  simp only [addProjectToPool, Except.bind_eq_ok, load_eq_ok, require_eq_ok, initProgramAccount_ok,
    checkPlatform_eq_ok, checkSeeds_eq_ok, exists_and_left, exists_const]
  constructor
  · rintro ⟨platform, own', pool, own, project, member, ⟨place, vacant⟩, ⟨seeds₀, admin⟩, seeds, seeds', room,
      ⟨⟩⟩
    exact ⟨{
      platform, loaded := ⟨own', seeds₀, admin⟩, pool, own, seeds, project, member, seeds', place,
      vacant, room }, rfl⟩
  · rintro ⟨done, rfl⟩
    exact ⟨done.platform, done.loaded.own, done.pool, done.own, done.project, done.member,
      ⟨done.place, done.vacant⟩, ⟨done.loaded.seeds, done.loaded.admin⟩, done.seeds, done.seeds', done.room,
      rfl⟩

/-- What `distribute_pool_returns` found, checked and called. -/
structure DistributePoolReturns.Done (s : State K) (a : DistributePoolReturns K) (n : U64) where
  platform : Platform K
  loaded : AdminOf s a.platform a.admin platform
  usdc : platform.usdcMint = a.usdcMint
  pool : Pool K
  own : s.pools.lookup a.pool = some pool
  seeds : a.pool = createProgramAddress (.pool pool.poolId) pool.bump
  vault : pool.usdcVault = a.usdcVault
  adminUsdcAta : Token.Account K
  found : s.bank.accounts.lookup a.adminUsdcAta = some adminUsdcAta
  ata : adminUsdcAta.owner = a.admin ∧ adminUsdcAta.mint = a.usdcMint
  account : Token.Account K
  inVault : s.bank.accounts.lookup a.usdcVault = some account
  mint : Token.Mint K
  exist : s.bank.mints.lookup a.usdcMint = some mint
  distinct : [a.pool, a.adminUsdcAta, a.usdcVault].Nodup
  pos : 0 < n
  sold : 0 < pool.tokensSold
  bank : Token.Bank K
  paid : s.bank.transfer a.adminUsdcAta a.usdcVault a.admin n = .ok bank
  cumulative : U128
  distributed : U64
  accrued : accumulate pool.cumulativeUsdcPerToken pool.totalDistributed pool.tokensSold n
    = .ok (cumulative, distributed)

/-- `distribute_pool_returns` raises the index and the total of the pool. -/
lemma distributePoolReturns_ok {a : DistributePoolReturns K} {n : U64} :
    distributePoolReturns s a n = .ok s' ↔ ∃ done : a.Done s n,
      s' = { s with
        pools := s.pools.insert a.pool { done.pool with
          cumulativeUsdcPerToken := done.cumulative
          totalDistributed := done.distributed }
        bank := done.bank } := by
  simp only [distributePoolReturns, Except.bind_eq_ok, load_eq_ok, checkPlatform_eq_ok, checkSeeds_eq_ok,
    checkToken_eq_ok, noDuplicates_eq_ok, require_eq_ok, cpi_eq_ok, exists_and_left, exists_const]
  constructor
  · rintro ⟨platform, own', pool, own, adminUsdcAta, found, account, inVault, mint, exist, distinct,
      ⟨seeds', admin⟩, usdc, seeds, vault, ata, pos, sold, bank, paid, ⟨cumulative, distributed⟩, accrued, ⟨⟩⟩
    exact ⟨{
      platform, loaded := ⟨own', seeds', admin⟩, usdc, pool, own, seeds, vault, adminUsdcAta, found, ata,
      account, inVault, mint, exist, distinct, pos, sold, bank, paid, cumulative, distributed, accrued }, rfl⟩
  · rintro ⟨done, rfl⟩
    exact ⟨done.platform, done.loaded.own, done.pool, done.own, done.adminUsdcAta, done.found,
      done.account, done.inVault, done.mint, done.exist, done.distinct,
      ⟨done.loaded.seeds, done.loaded.admin⟩, done.usdc, done.seeds, done.vault, done.ata, done.pos,
      done.sold, done.bank, done.paid, (done.cumulative, done.distributed), done.accrued, rfl⟩

/-- What `withdraw_project_funds` found, checked and called. -/
structure WithdrawProjectFunds.Done (s : State K) (a : WithdrawProjectFunds K) (n : U64) where
  platform : Platform K
  loaded : AdminOf s a.platform a.admin platform
  usdc : platform.usdcMint = a.usdcMint
  project : Project K
  own : s.projects.lookup a.project = some project
  seeds : a.project = createProgramAddress (.project project.projectId) project.bump
  vault : project.usdcVault = a.usdcVault
  usdcVault : Token.Account K
  inVault : s.bank.accounts.lookup a.usdcVault = some usdcVault
  destination : Token.Account K
  found : s.bank.accounts.lookup a.destination = some destination
  mint : destination.mint = a.usdcMint
  usdcMint : Token.Mint K
  exist : s.bank.mints.lookup a.usdcMint = some usdcMint
  distinct : [a.project, a.usdcVault, a.destination].Nodup
  pos : 0 < n
  covered : n ≤ usdcVault.amount
  bank : Token.Bank K
  paid : s.bank.transfer a.usdcVault a.destination a.project n = .ok bank

/-- `withdraw_project_funds` moves USDC, and nothing else. -/
lemma withdrawProjectFunds_ok {a : WithdrawProjectFunds K} {n : U64} :
    withdrawProjectFunds s a n = .ok s' ↔ ∃ done : a.Done s n, s' = { s with bank := done.bank } := by
  simp only [withdrawProjectFunds, Except.bind_eq_ok, load_eq_ok, checkPlatform_eq_ok, checkSeeds_eq_ok,
    signWith_eq_ok, noDuplicates_eq_ok, constraint_eq_ok, require_eq_ok, cpi_eq_ok, exists_and_left,
    exists_const]
  constructor
  · rintro ⟨platform, own', project, own, usdcVault, inVault, destination, found, usdcMint, exist, distinct,
      ⟨seeds', admin⟩, usdc, seeds, vault, mint, pos, covered, -, bank, paid, ⟨⟩⟩
    exact ⟨{
      platform, loaded := ⟨own', seeds', admin⟩, usdc, project, own, seeds, vault, usdcVault, inVault,
      destination, found, mint, usdcMint, exist, distinct, pos, covered, bank, paid }, rfl⟩
  · rintro ⟨done, rfl⟩
    exact ⟨done.platform, done.loaded.own, done.project, done.own, done.usdcVault, done.inVault,
      done.destination, done.found, done.usdcMint, done.exist, done.distinct,
      ⟨done.loaded.seeds, done.loaded.admin⟩, done.usdc, done.seeds, done.vault, done.mint, done.pos,
      done.covered, done.seeds, done.bank, done.paid, rfl⟩

/-- Funds are not withdrawn to the vault itself. -/
lemma WithdrawProjectFunds.Done.apart {a : WithdrawProjectFunds K} {n : U64} (done : a.Done s n) :
    a.usdcVault ≠ a.destination := by
  intro e
  have distinct := done.distinct
  simp [e] at distinct

/-! ## Investor instructions -/

/-- What `buy_project_tokens` found, checked and called. -/
structure BuyProjectTokens.Done (s : State K) (a : BuyProjectTokens K) (n : U64) where
  project : Project K
  own : s.projects.lookup a.project = some project
  seeds : a.project = createProgramAddress (.project project.projectId) project.bump
  mint : project.tokenMint = a.tokenMint
  vault : project.usdcVault = a.usdcVault
  tokenMint : Token.Mint K
  hasMint : s.bank.mints.lookup a.tokenMint = some tokenMint
  account : Token.Account K
  inVault : s.bank.accounts.lookup a.usdcVault = some account
  investorUsdcAta : Token.Account K
  found : s.bank.accounts.lookup a.investorUsdcAta = some investorUsdcAta
  ata : investorUsdcAta.owner = a.investor ∧ investorUsdcAta.mint = a.usdcMint
  usdcMint : Token.Mint K
  exist : s.bank.mints.lookup a.usdcMint = some usdcMint
  /-- the bank in which the investor has an account for the tokens -/
  opened : Token.Bank K
  ensured : ensureAssociatedToken s a.investorTokenAta a.investor a.tokenMint = .ok opened
  position : InvestorPosition K
  made : ensurePosition s a.position a.project a.investor = .ok position
  distinct : [a.project, a.tokenMint, a.usdcVault, a.investorUsdcAta, a.investorTokenAta, a.position].Nodup
  pos : 0 < n
  status : project.status = .funding
  room : project.tokensSold.toNat + n.toNat ≤ project.targetAmount.toNat
  /-- the bank after the payment -/
  funded : Token.Bank K
  paid : opened.transfer a.investorUsdcAta a.usdcVault a.investor n = .ok funded
  bank : Token.Bank K
  minted : funded.mintTo a.tokenMint a.investorTokenAta a.project n = .ok bank
  held : U64
  holds : held.toNat
    = (openPosition position a.investor a.project project.cumulativeUsdcPerToken).tokensHeld.toNat + n.toNat
  sold : U64
  sells : sold.toNat = project.tokensSold.toNat + n.toNat

/-- `buy_project_tokens` writes the project and the position. -/
lemma buyProjectTokens_ok {a : BuyProjectTokens K} {n : U64} :
    buyProjectTokens s a n = .ok s' ↔ ∃ done : a.Done s n,
      s' = { s with
        projects := s.projects.insert a.project { done.project with tokensSold := done.sold }
        positions := s.positions.insert a.position
          { openPosition done.position a.investor a.project done.project.cumulativeUsdcPerToken with
            tokensHeld := done.held }
        bank := done.bank } := by
  simp only [buyProjectTokens, Except.bind_eq_ok, load_eq_ok, checkSeeds_eq_ok, checkToken_eq_ok,
    signWith_eq_ok, noDuplicates_eq_ok, require_eq_ok, cpi_eq_ok, Option.okOr_eq_ok,
    BitVec.checkedAdd_eq_some, BitVec.checkedSub_eq_some, exists_and_left, exists_const]
  constructor
  · rintro ⟨project, own, tokenMint, hasMint, account, inVault, investorUsdcAta, found, usdcMint, exist, opened,
      ensured, position, made, distinct, seeds, mint, vault, ata, pos, status, left, ⟨le, hleft⟩, fits, funded,
      paid, -, bank, minted, held, holds, sold, sells, ⟨⟩⟩
    have fits : n.toNat ≤ left.toNat := fits
    have room : project.tokensSold.toNat + n.toNat ≤ project.targetAmount.toNat := by omega
    exact ⟨{
      project, own, seeds, mint, vault, tokenMint, hasMint, account, inVault, investorUsdcAta, found,
      ata, usdcMint, exist, opened, ensured, position, made, distinct, pos, status, room, funded, paid,
      bank, minted, held, holds, sold, sells }, rfl⟩
  · rintro ⟨done, rfl⟩
    have room := done.room
    have le : done.project.tokensSold.toNat ≤ done.project.targetAmount.toNat := by omega
    obtain ⟨left, hleft⟩ := BitVec.checkedSub_of_le le
    have value := BitVec.checkedSub_eq_some.mp hleft
    have fits : n ≤ left := BitVec.le_def.mpr (by omega)
    exact ⟨done.project, done.own, done.tokenMint, done.hasMint, done.account, done.inVault,
      done.investorUsdcAta, done.found, done.usdcMint, done.exist, done.opened, done.ensured, done.position,
      done.made, done.distinct, done.seeds, done.mint, done.vault, done.ata, done.pos, done.status, left, value,
      fits, done.funded, done.paid, done.seeds, done.bank, done.minted, done.held, done.holds, done.sold,
      done.sells, rfl⟩

/-- What `buy_pool_tokens` found, checked and called. -/
structure BuyPoolTokens.Done (s : State K) (a : BuyPoolTokens K) (n : U64) where
  pool : Pool K
  own : s.pools.lookup a.pool = some pool
  seeds : a.pool = createProgramAddress (.pool pool.poolId) pool.bump
  mint : pool.poolTokenMint = a.poolTokenMint
  vault : pool.usdcVault = a.usdcVault
  tokenMint : Token.Mint K
  hasMint : s.bank.mints.lookup a.poolTokenMint = some tokenMint
  account : Token.Account K
  inVault : s.bank.accounts.lookup a.usdcVault = some account
  investorUsdcAta : Token.Account K
  found : s.bank.accounts.lookup a.investorUsdcAta = some investorUsdcAta
  ata : investorUsdcAta.owner = a.investor ∧ investorUsdcAta.mint = a.usdcMint
  usdcMint : Token.Mint K
  exist : s.bank.mints.lookup a.usdcMint = some usdcMint
  /-- the bank in which the investor has an account for the tokens -/
  opened : Token.Bank K
  ensured : ensureAssociatedToken s a.investorPoolTokenAta a.investor a.poolTokenMint = .ok opened
  position : InvestorPosition K
  made : ensurePosition s a.position a.pool a.investor = .ok position
  distinct : [a.pool, a.poolTokenMint, a.usdcVault, a.investorUsdcAta, a.investorPoolTokenAta, a.position].Nodup
  pos : 0 < n
  status : pool.status = .funding
  room : pool.tokensSold.toNat + n.toNat ≤ pool.targetAmount.toNat
  /-- the bank after the payment -/
  funded : Token.Bank K
  paid : opened.transfer a.investorUsdcAta a.usdcVault a.investor n = .ok funded
  bank : Token.Bank K
  minted : funded.mintTo a.poolTokenMint a.investorPoolTokenAta a.pool n = .ok bank
  held : U64
  holds : held.toNat
    = (openPosition position a.investor a.pool pool.cumulativeUsdcPerToken).tokensHeld.toNat + n.toNat
  sold : U64
  sells : sold.toNat = pool.tokensSold.toNat + n.toNat

/-- `buy_pool_tokens` writes the pool and the position. -/
lemma buyPoolTokens_ok {a : BuyPoolTokens K} {n : U64} :
    buyPoolTokens s a n = .ok s' ↔ ∃ done : a.Done s n,
      s' = { s with
        pools := s.pools.insert a.pool { done.pool with tokensSold := done.sold }
        positions := s.positions.insert a.position
          { openPosition done.position a.investor a.pool done.pool.cumulativeUsdcPerToken with
            tokensHeld := done.held }
        bank := done.bank } := by
  simp only [buyPoolTokens, Except.bind_eq_ok, load_eq_ok, checkSeeds_eq_ok, checkToken_eq_ok,
    signWith_eq_ok, noDuplicates_eq_ok, require_eq_ok, cpi_eq_ok, Option.okOr_eq_ok,
    BitVec.checkedAdd_eq_some, BitVec.checkedSub_eq_some, exists_and_left, exists_const]
  constructor
  · rintro ⟨pool, own, tokenMint, hasMint, account, inVault, investorUsdcAta, found, usdcMint, exist, opened,
      ensured, position, made, distinct, seeds, mint, vault, ata, pos, status, left, ⟨le, hleft⟩, fits, funded,
      paid, -, bank, minted, held, holds, sold, sells, ⟨⟩⟩
    have fits : n.toNat ≤ left.toNat := fits
    have room : pool.tokensSold.toNat + n.toNat ≤ pool.targetAmount.toNat := by omega
    exact ⟨{
      pool, own, seeds, mint, vault, tokenMint, hasMint, account, inVault, investorUsdcAta, found, ata,
      usdcMint, exist, opened, ensured, position, made, distinct, pos, status, room, funded, paid, bank,
      minted, held, holds, sold, sells }, rfl⟩
  · rintro ⟨done, rfl⟩
    have room := done.room
    have le : done.pool.tokensSold.toNat ≤ done.pool.targetAmount.toNat := by omega
    obtain ⟨left, hleft⟩ := BitVec.checkedSub_of_le le
    have value := BitVec.checkedSub_eq_some.mp hleft
    have fits : n ≤ left := BitVec.le_def.mpr (by omega)
    exact ⟨done.pool, done.own, done.tokenMint, done.hasMint, done.account, done.inVault,
      done.investorUsdcAta, done.found, done.usdcMint, done.exist, done.opened, done.ensured, done.position,
      done.made, done.distinct, done.seeds, done.mint, done.vault, done.ata, done.pos, done.status, left, value,
      fits, done.funded, done.paid, done.seeds, done.bank, done.minted, done.held, done.holds, done.sold,
      done.sells, rfl⟩

/-- What `claim_project_returns` found, checked and called. -/
structure ClaimProjectReturns.Done (s : State K) (a : ClaimProjectReturns K) where
  project : Project K
  own : s.projects.lookup a.project = some project
  seeds : a.project = createProgramAddress (.project project.projectId) project.bump
  vault : project.usdcVault = a.usdcVault
  usdcVault : Token.Account K
  inVault : s.bank.accounts.lookup a.usdcVault = some usdcVault
  position : InvestorPosition K
  held : s.positions.lookup a.position = some position
  placed : a.position = createProgramAddress (.position a.project a.investor) position.bump
  owner : position.owner = a.investor
  target : position.target = a.project
  mint : Token.Mint K
  exist : s.bank.mints.lookup a.usdcMint = some mint
  /-- the bank in which the investor has an account for USDC -/
  opened : Token.Bank K
  ensured : ensureAssociatedToken s a.investorUsdcAta a.investor a.usdcMint = .ok opened
  distinct : [a.usdcVault, a.position, a.investorUsdcAta].Nodup
  owed : U64
  pays : claimable project.cumulativeUsdcPerToken position.lastClaimedPerToken position.tokensHeld = .ok owed
  pos : 0 < owed
  covered : owed ≤ usdcVault.amount
  bank : Token.Bank K
  paid : opened.transfer a.usdcVault a.investorUsdcAta a.project owed = .ok bank
  position' : InvestorPosition K
  settled : settlePosition position project.cumulativeUsdcPerToken owed = .ok position'

/-- `claim_project_returns` writes the position. -/
lemma claimProjectReturns_ok {a : ClaimProjectReturns K} :
    claimProjectReturns s a = .ok s' ↔ ∃ done : a.Done s,
      s' = { s with positions := s.positions.insert a.position done.position', bank := done.bank } := by
  simp only [claimProjectReturns, Except.bind_eq_ok, load_eq_ok, checkSeeds_eq_ok, signWith_eq_ok,
    noDuplicates_eq_ok, require_eq_ok, cpi_eq_ok, exists_and_left, exists_const]
  constructor
  · rintro ⟨project, own, usdcVault, inVault, position, held, mint, exist, opened, ensured, distinct, seeds,
      vault, placed, owner, target, owed, pays, pos, covered, -, bank, paid, position', settled, ⟨⟩⟩
    exact ⟨{
      project, own, seeds, vault, usdcVault, inVault, position, held, placed, owner, target, mint, exist,
      opened, ensured, distinct, owed, pays, pos, covered, bank, paid, position', settled }, rfl⟩
  · rintro ⟨done, rfl⟩
    exact ⟨done.project, done.own, done.usdcVault, done.inVault, done.position, done.held, done.mint,
      done.exist, done.opened, done.ensured, done.distinct, done.seeds, done.vault, done.placed, done.owner,
      done.target, done.owed, done.pays, done.pos, done.covered, done.seeds, done.bank, done.paid,
      done.position', done.settled, rfl⟩

/-- What `claim_pool_returns` found, checked and called. -/
structure ClaimPoolReturns.Done (s : State K) (a : ClaimPoolReturns K) where
  pool : Pool K
  own : s.pools.lookup a.pool = some pool
  seeds : a.pool = createProgramAddress (.pool pool.poolId) pool.bump
  vault : pool.usdcVault = a.usdcVault
  usdcVault : Token.Account K
  inVault : s.bank.accounts.lookup a.usdcVault = some usdcVault
  position : InvestorPosition K
  held : s.positions.lookup a.position = some position
  placed : a.position = createProgramAddress (.position a.pool a.investor) position.bump
  owner : position.owner = a.investor
  target : position.target = a.pool
  mint : Token.Mint K
  exist : s.bank.mints.lookup a.usdcMint = some mint
  /-- the bank in which the investor has an account for USDC -/
  opened : Token.Bank K
  ensured : ensureAssociatedToken s a.investorUsdcAta a.investor a.usdcMint = .ok opened
  distinct : [a.usdcVault, a.position, a.investorUsdcAta].Nodup
  owed : U64
  pays : claimable pool.cumulativeUsdcPerToken position.lastClaimedPerToken position.tokensHeld = .ok owed
  pos : 0 < owed
  covered : owed ≤ usdcVault.amount
  bank : Token.Bank K
  paid : opened.transfer a.usdcVault a.investorUsdcAta a.pool owed = .ok bank
  position' : InvestorPosition K
  settled : settlePosition position pool.cumulativeUsdcPerToken owed = .ok position'

/-- `claim_pool_returns` writes the position. -/
lemma claimPoolReturns_ok {a : ClaimPoolReturns K} :
    claimPoolReturns s a = .ok s' ↔ ∃ done : a.Done s,
      s' = { s with positions := s.positions.insert a.position done.position', bank := done.bank } := by
  simp only [claimPoolReturns, Except.bind_eq_ok, load_eq_ok, checkSeeds_eq_ok, signWith_eq_ok,
    noDuplicates_eq_ok, require_eq_ok, cpi_eq_ok, exists_and_left, exists_const]
  constructor
  · rintro ⟨pool, own, usdcVault, inVault, position, held, mint, exist, opened, ensured, distinct, seeds,
      vault, placed, owner, target, owed, pays, pos, covered, -, bank, paid, position', settled, ⟨⟩⟩
    exact ⟨{
      pool, own, seeds, vault, usdcVault, inVault, position, held, placed, owner, target, mint, exist,
      opened, ensured, distinct, owed, pays, pos, covered, bank, paid, position', settled }, rfl⟩
  · rintro ⟨done, rfl⟩
    exact ⟨done.pool, done.own, done.usdcVault, done.inVault, done.position, done.held, done.mint,
      done.exist, done.opened, done.ensured, done.distinct, done.seeds, done.vault, done.placed, done.owner,
      done.target, done.owed, done.pays, done.pos, done.covered, done.seeds, done.bank, done.paid,
      done.position', done.settled, rfl⟩

/-- What `withdraw_investment` found, checked and called. -/
structure WithdrawInvestment.Done (s : State K) (a : WithdrawInvestment K) where
  project : Project K
  own : s.projects.lookup a.project = some project
  seeds : a.project = createProgramAddress (.project project.projectId) project.bump
  mint : project.tokenMint = a.tokenMint
  vault : project.usdcVault = a.usdcVault
  tokenMint : Token.Mint K
  hasMint : s.bank.mints.lookup a.tokenMint = some tokenMint
  account : Token.Account K
  inVault : s.bank.accounts.lookup a.usdcVault = some account
  position : InvestorPosition K
  held : s.positions.lookup a.position = some position
  placed : a.position = createProgramAddress (.position a.project a.investor) position.bump
  owner : position.owner = a.investor
  investorTokenAta : Token.Account K
  source : s.bank.accounts.lookup a.investorTokenAta = some investorTokenAta
  tokens : investorTokenAta.owner = a.investor ∧ investorTokenAta.mint = a.tokenMint
  investorUsdcAta : Token.Account K
  dest : s.bank.accounts.lookup a.investorUsdcAta = some investorUsdcAta
  usdc : investorUsdcAta.owner = a.investor ∧ investorUsdcAta.mint = a.usdcMint
  usdcMint : Token.Mint K
  exist : s.bank.mints.lookup a.usdcMint = some usdcMint
  distinct : [a.project, a.tokenMint, a.usdcVault, a.position, a.investorTokenAta, a.investorUsdcAta].Nodup
  status : project.status = .funding ∨ project.status = .cancelled
  pos : 0 < position.tokensHeld
  /-- the bank without the tokens -/
  burnt : Token.Bank K
  burns : s.bank.burn a.investorTokenAta a.tokenMint a.investor position.tokensHeld = .ok burnt
  bank : Token.Bank K
  refunded : burnt.transfer a.usdcVault a.investorUsdcAta a.project position.tokensHeld = .ok bank
  le : position.tokensHeld.toNat ≤ project.tokensSold.toNat
  sold : U64
  sells : sold.toNat = project.tokensSold.toNat - position.tokensHeld.toNat

/-- `withdraw_investment` writes the project and the position. -/
lemma withdrawInvestment_ok {a : WithdrawInvestment K} :
    withdrawInvestment s a = .ok s' ↔ ∃ done : a.Done s,
      s' = { s with
        projects := s.projects.insert a.project { done.project with tokensSold := done.sold }
        positions := s.positions.insert a.position { done.position with tokensHeld := 0 }
        bank := done.bank } := by
  simp only [withdrawInvestment, Except.bind_eq_ok, load_eq_ok, checkSeeds_eq_ok, checkToken_eq_ok,
    signWith_eq_ok, noDuplicates_eq_ok, require_eq_ok, cpi_eq_ok, Option.okOr_eq_ok,
    BitVec.checkedSub_eq_some, exists_and_left, exists_const]
  constructor
  · rintro ⟨project, own, tokenMint, hasMint, account, inVault, position, held, investorTokenAta, source,
      investorUsdcAta, dest, usdcMint, exist, distinct, seeds, mint, vault, placed, owner, tokens, usdc, status,
      pos, burnt, burns, -, bank, refunded, sold, ⟨le, sells⟩, ⟨⟩⟩
    exact ⟨{
      project, own, seeds, mint, vault, tokenMint, hasMint, account, inVault, position, held, placed,
      owner, investorTokenAta, source, tokens, investorUsdcAta, dest, usdc, usdcMint, exist, distinct,
      status, pos, burnt, burns, bank, refunded, le, sold, sells }, rfl⟩
  · rintro ⟨done, rfl⟩
    exact ⟨done.project, done.own, done.tokenMint, done.hasMint, done.account, done.inVault, done.position,
      done.held, done.investorTokenAta, done.source, done.investorUsdcAta, done.dest, done.usdcMint, done.exist,
      done.distinct, done.seeds, done.mint, done.vault, done.placed, done.owner, done.tokens, done.usdc,
      done.status, done.pos, done.burnt, done.burns, done.seeds, done.bank, done.refunded, done.sold,
      ⟨done.le, done.sells⟩, rfl⟩

/-! ## MRV instructions -/

/-- What `register_mrv_project` found and checked. -/
structure RegisterMrvProject.Done (s : State K) (a : RegisterMrvProject K) (id : U64)
    (name sector location upgrade : String) where
  platform : Platform K
  loaded : AdminOf s a.platform a.admin platform
  place : a.mrvProject = findProgramAddress (.mrvProject id)
  vacant : s.Vacant a.mrvProject
  msmeName : Vector U8 MSME_NAME_LEN
  name_fits : padInto MSME_NAME_LEN name = .ok msmeName
  sectorText : Vector U8 SECTOR_LEN
  sector_fits : padInto SECTOR_LEN sector = .ok sectorText
  locationText : Vector U8 LOCATION_LEN
  location_fits : padInto LOCATION_LEN location = .ok locationText
  upgradeType : Vector U8 UPGRADE_TYPE_LEN
  upgrade_fits : padInto UPGRADE_TYPE_LEN upgrade = .ok upgradeType

/-- The entry that a registration makes. -/
def RegisterMrvProject.Done.entry {a : RegisterMrvProject K} {id : U64} {name sector location upgrade : String}
    (done : a.Done s id name sector location upgrade) (now : Int64) : MrvProject where
  projectId := id
  msmeName := done.msmeName
  sector := done.sectorText
  location := done.locationText
  upgradeType := done.upgradeType
  status := .registered
  baselineSubmitted := false
  verificationCount := 0
  createdAt := now
  bump := findBump (K := K) (.mrvProject id)

/-- `register_mrv_project` makes the entry. -/
lemma registerMrvProject_ok {a : RegisterMrvProject K} {now : Int64} {id : U64}
    {name sector location upgrade : String} :
    registerMrvProject s a now id name sector location upgrade = .ok s' ↔
      ∃ done : a.Done s id name sector location upgrade,
        s' = { s with mrvProjects := s.mrvProjects.insert a.mrvProject (done.entry now) } := by
  simp only [registerMrvProject, Except.bind_eq_ok, load_eq_ok, initProgramAccount_ok, checkPlatform_eq_ok,
    exists_and_left, exists_const]
  constructor
  · rintro ⟨platform, own, ⟨place, vacant⟩, ⟨seeds, admin⟩, msmeName, name_fits, sectorText, sector_fits,
      locationText, location_fits, upgradeType, upgrade_fits, ⟨⟩⟩
    exact ⟨{
      platform, loaded := ⟨own, seeds, admin⟩, place, vacant, msmeName, name_fits, sectorText,
      sector_fits, locationText, location_fits, upgradeType, upgrade_fits }, rfl⟩
  · rintro ⟨done, rfl⟩
    exact ⟨done.platform, done.loaded.own, ⟨done.place, done.vacant⟩,
      ⟨done.loaded.seeds, done.loaded.admin⟩, done.msmeName, done.name_fits, done.sectorText, done.sector_fits,
      done.locationText, done.location_fits, done.upgradeType, done.upgrade_fits, rfl⟩

/-- What `add_auditor` found and checked. -/
structure AddAuditor.Done (s : State K) (a : AddAuditor K) (name certification : String) where
  platform : Platform K
  loaded : AdminOf s a.platform a.admin platform
  place : a.auditor = findProgramAddress (.auditor a.auditorWallet)
  vacant : s.Vacant a.auditor
  nameText : Vector U8 AUDITOR_NAME_LEN
  name_fits : padInto AUDITOR_NAME_LEN name = .ok nameText
  certificationText : Vector U8 CERTIFICATION_LEN
  certification_fits : padInto CERTIFICATION_LEN certification = .ok certificationText

/-- The account that the addition of an auditor makes. -/
def AddAuditor.Done.record {a : AddAuditor K} {name certification : String} (done : a.Done s name certification)
    (now : Int64) : Auditor K where
  wallet := a.auditorWallet
  name := done.nameText
  certification := done.certificationText
  isActive := true
  projectsAudited := 0
  addedAt := now
  bump := findBump (.auditor a.auditorWallet)

/-- `add_auditor` makes the auditor account. -/
lemma addAuditor_ok {a : AddAuditor K} {now : Int64} {name certification : String} :
    addAuditor s a now name certification = .ok s' ↔ ∃ done : a.Done s name certification,
      s' = { s with auditors := s.auditors.insert a.auditor (done.record now) } := by
  simp only [addAuditor, Except.bind_eq_ok, load_eq_ok, initProgramAccount_ok, checkPlatform_eq_ok,
    exists_and_left, exists_const]
  constructor
  · rintro ⟨platform, own, ⟨place, vacant⟩, ⟨seeds, admin⟩, nameText, name_fits, certificationText,
      certification_fits, ⟨⟩⟩
    exact ⟨{
      platform, loaded := ⟨own, seeds, admin⟩, place, vacant, nameText, name_fits, certificationText,
      certification_fits }, rfl⟩
  · rintro ⟨done, rfl⟩
    exact ⟨done.platform, done.loaded.own, ⟨done.place, done.vacant⟩,
      ⟨done.loaded.seeds, done.loaded.admin⟩, done.nameText, done.name_fits, done.certificationText,
      done.certification_fits, rfl⟩

/-- What `submit_baseline` found and checked. -/
structure SubmitBaseline.Done (s : State K) (a : SubmitBaseline K) (fuel : String) where
  auditor : Auditor K
  loaded : AuditorOf s a.auditor a.auditorSigner auditor
  mrvProject : MrvProject
  own : s.mrvProjects.lookup a.mrvProject = some mrvProject
  seeds : a.mrvProject = createProgramAddress (.mrvProject mrvProject.projectId) mrvProject.bump
  first : mrvProject.baselineSubmitted = false
  place : a.baseline = findProgramAddress (.baseline a.mrvProject)
  vacant : s.Vacant a.baseline
  fuelType : Vector U8 FUEL_TYPE_LEN
  fuel_fits : padInto FUEL_TYPE_LEN fuel = .ok fuelType

/-- The baseline that a submission makes. -/
def SubmitBaseline.Done.record {a : SubmitBaseline K} {fuel : String} (done : a.Done s fuel) (now : Int64)
    (energyKwhPerYear costInrPerYear co2TonsPerYearX100 : U64) (reportHash : Vector U8 32) : Baseline K where
  mrvProject := a.mrvProject
  auditor := a.auditorSigner
  energyKwhPerYear := energyKwhPerYear
  fuelType := done.fuelType
  costInrPerYear := costInrPerYear
  co2TonsPerYearX100 := co2TonsPerYearX100
  reportHash := reportHash
  submittedAt := now
  bump := findBump (.baseline a.mrvProject)

/-- `submit_baseline` makes the baseline and writes the entry. -/
lemma submitBaseline_ok {a : SubmitBaseline K} {now : Int64} {energy cost co2 : U64} {fuel : String}
    {hash : Vector U8 32} :
    submitBaseline s a now energy fuel cost co2 hash = .ok s' ↔ ∃ done : a.Done s fuel,
      s' = { s with
        mrvProjects := s.mrvProjects.insert a.mrvProject
          { done.mrvProject with baselineSubmitted := true, status := .baselineSubmitted }
        baselines := s.baselines.insert a.baseline (done.record now energy cost co2 hash) } := by
  simp only [submitBaseline, Except.bind_eq_ok, load_eq_ok, require_eq_ok, initProgramAccount_ok,
    checkAuditor_eq_ok, checkSeeds_eq_ok, exists_and_left, exists_const]
  constructor
  · rintro ⟨auditor, own', mrvProject, own, ⟨place, vacant⟩, ⟨seeds', active, wallet⟩, seeds, first, fuelType,
      fuel_fits, ⟨⟩⟩
    exact ⟨{
      auditor, loaded := ⟨own', seeds', active, wallet⟩, mrvProject, own, seeds, first, place, vacant,
      fuelType, fuel_fits }, rfl⟩
  · rintro ⟨done, rfl⟩
    exact ⟨done.auditor, done.loaded.own, done.mrvProject, done.own, ⟨done.place, done.vacant⟩,
      ⟨done.loaded.seeds, done.loaded.active, done.loaded.wallet⟩, done.seeds, done.first, done.fuelType,
      done.fuel_fits, rfl⟩

/-- The verification that a submission writes. -/
def SubmitVerification.record (a : SubmitVerification K) (now : Int64) (index : U8)
    (periodStart periodEnd : Int64) (energyKwhSaved costInrSaved co2TonsAvoidedX100 : U64)
    (savingsVsExpectedBps : U16) (reportHash : Vector U8 32) : Verification K where
  mrvProject := a.mrvProject
  auditor := a.auditorSigner
  index := index
  periodStart := periodStart
  periodEnd := periodEnd
  energyKwhSaved := energyKwhSaved
  costInrSaved := costInrSaved
  co2TonsAvoidedX100 := co2TonsAvoidedX100
  savingsVsExpectedBps := savingsVsExpectedBps
  reportHash := reportHash
  attested := false
  submittedAt := now
  bump := findBump (.verification a.mrvProject index)

/-- What `submit_verification` found and checked. -/
structure SubmitVerification.Done (s : State K) (a : SubmitVerification K) (index : U8) (start stop : Int64) where
  auditor : Auditor K
  loaded : AuditorOf s a.auditor a.auditorSigner auditor
  mrvProject : MrvProject
  own : s.mrvProjects.lookup a.mrvProject = some mrvProject
  seeds : a.mrvProject = createProgramAddress (.mrvProject mrvProject.projectId) mrvProject.bump
  gate : mrvProject.baselineSubmitted = true
  place : a.verification = findProgramAddress (.verification a.mrvProject index)
  vacant : s.Vacant a.verification
  period : start < stop

/-- `submit_verification` makes the verification and writes the entry. -/
lemma submitVerification_ok {a : SubmitVerification K} {now start stop : Int64} {index : U8}
    {energy cost co2 : U64} {bps : U16} {hash : Vector U8 32} :
    submitVerification s a now index start stop energy cost co2 bps hash = .ok s' ↔
      ∃ done : a.Done s index start stop,
        s' = { s with
          mrvProjects := s.mrvProjects.insert a.mrvProject { done.mrvProject with
            verificationCount := done.mrvProject.verificationCount.saturatingAdd 1
            status := .inProgress }
          verifications := s.verifications.insert a.verification
            (a.record now index start stop energy cost co2 bps hash) } := by
  simp only [submitVerification, Except.bind_eq_ok, load_eq_ok, require_eq_ok, initProgramAccount_ok,
    checkAuditor_eq_ok, checkSeeds_eq_ok, exists_and_left, exists_const]
  constructor
  · rintro ⟨auditor, own', mrvProject, own, ⟨place, vacant⟩, ⟨seeds', active, wallet⟩, seeds, gate, period, ⟨⟩⟩
    exact ⟨{
      auditor, loaded := ⟨own', seeds', active, wallet⟩, mrvProject, own, seeds, gate, place, vacant,
      period }, rfl⟩
  · rintro ⟨done, rfl⟩
    exact ⟨done.auditor, done.loaded.own, done.mrvProject, done.own, ⟨done.place, done.vacant⟩,
      ⟨done.loaded.seeds, done.loaded.active, done.loaded.wallet⟩, done.seeds, done.gate, done.period, rfl⟩

/-- What `attest_verification` found and checked. -/
structure AttestVerification.Done (s : State K) (a : AttestVerification K) where
  auditor : Auditor K
  loaded : AuditorOf s a.auditor a.auditorSigner auditor
  mrvProject : MrvProject
  entry : s.mrvProjects.lookup a.mrvProject = some mrvProject
  seeds : a.mrvProject = createProgramAddress (.mrvProject mrvProject.projectId) mrvProject.bump
  verification : Verification K
  own : s.verifications.lookup a.verification = some verification
  placed : a.verification
    = createProgramAddress (.verification a.mrvProject verification.index) verification.bump
  fresh : verification.attested = false
  author : verification.auditor = a.auditorSigner

/-- `attest_verification` writes the verification. -/
lemma attestVerification_ok {a : AttestVerification K} :
    attestVerification s a = .ok s' ↔ ∃ done : a.Done s,
      s' = { s with
        verifications := s.verifications.insert a.verification { done.verification with attested := true } } := by
  simp only [attestVerification, Except.bind_eq_ok, load_eq_ok, require_eq_ok, checkAuditor_eq_ok,
    checkSeeds_eq_ok, exists_and_left, exists_const]
  constructor
  · rintro ⟨auditor, own', mrvProject, entry, verification, own, ⟨seeds', active, wallet⟩, seeds, placed, fresh,
      author, ⟨⟩⟩
    exact ⟨{
      auditor, loaded := ⟨own', seeds', active, wallet⟩, mrvProject, entry, seeds, verification, own,
      placed, fresh, author }, rfl⟩
  · rintro ⟨done, rfl⟩
    exact ⟨done.auditor, done.loaded.own, done.mrvProject, done.entry, done.verification, done.own,
      ⟨done.loaded.seeds, done.loaded.active, done.loaded.wallet⟩, done.seeds, done.placed, done.fresh,
      done.author, rfl⟩

end Exira
