import Exira.Instructions.Constraints

/-!
# Investor instructions

`instructions/investor/`: purchases, claims and the exit before activation, each with its parts in the order of
Anchor. The project handlers and the pool handlers are separate copies in the source and are here.
-/

namespace Exira

variable {K : Type} [DecidableEq K] [Addresses K]

/-- The accounts of `buy_project_tokens`. -/
structure BuyProjectTokens (K : Type) where
  project : K
  tokenMint : K
  usdcVault : K
  investor : K
  investorUsdcAta : K
  investorTokenAta : K
  position : K
  usdcMint : K

/-- Sells tokens of a project in funding, up to its target. -/
def buyProjectTokens (s : State K) (a : BuyProjectTokens K) (amount : U64) :
    Result (State K) := do
  let project ← load s.projects a.project
  let _ ← load s.bank.mints a.tokenMint
  let _ ← load s.bank.accounts a.usdcVault
  let investorUsdcAta ← load s.bank.accounts a.investorUsdcAta
  let _ ← load s.bank.mints a.usdcMint
  let bank ← ensureAssociatedToken s a.investorTokenAta a.investor a.tokenMint
  let position ← ensurePosition s a.position a.project a.investor
  noDuplicates [a.project, a.tokenMint, a.usdcVault, a.investorUsdcAta, a.investorTokenAta, a.position]
  checkSeeds a.project (.project project.projectId) project.bump
  require (project.tokenMint = a.tokenMint) .wrongMint
  require (project.usdcVault = a.usdcVault) .wrongVault
  checkToken investorUsdcAta a.usdcMint a.investor
  require (0 < amount) .zeroAmount
  require (project.status = .funding) .notFunding
  let remaining ← (project.targetAmount.checkedSub project.tokensSold).okOr (.exira .mathUnderflow)
  require (amount ≤ remaining) .poolFull
  -- 1) USDC from the investor to the vault
  let bank ← cpi (bank.transfer a.investorUsdcAta a.usdcVault a.investor amount)
  -- 2) project tokens 1:1, signed by the project
  signWith a.project (.project project.projectId) project.bump
  let bank ← cpi (bank.mintTo a.tokenMint a.investorTokenAta a.project amount)
  -- 3) position and project
  let position := openPosition position a.investor a.project project.cumulativeUsdcPerToken
  let tokensHeld ← (position.tokensHeld.checkedAdd amount).okOr (.exira .mathOverflow)
  let tokensSold ← (project.tokensSold.checkedAdd amount).okOr (.exira .mathOverflow)
  return { s with
    projects := s.projects.insert a.project { project with tokensSold := tokensSold }
    positions := s.positions.insert a.position { position with tokensHeld := tokensHeld }
    bank := bank }

/-- The accounts of `buy_pool_tokens`. -/
structure BuyPoolTokens (K : Type) where
  pool : K
  poolTokenMint : K
  usdcVault : K
  investor : K
  investorUsdcAta : K
  investorPoolTokenAta : K
  position : K
  usdcMint : K

/-- Sells tokens of an open pool. -/
def buyPoolTokens (s : State K) (a : BuyPoolTokens K) (amount : U64) : Result (State K) := do
  let pool ← load s.pools a.pool
  let _ ← load s.bank.mints a.poolTokenMint
  let _ ← load s.bank.accounts a.usdcVault
  let investorUsdcAta ← load s.bank.accounts a.investorUsdcAta
  let _ ← load s.bank.mints a.usdcMint
  let bank ← ensureAssociatedToken s a.investorPoolTokenAta a.investor a.poolTokenMint
  let position ← ensurePosition s a.position a.pool a.investor
  noDuplicates [a.pool, a.poolTokenMint, a.usdcVault, a.investorUsdcAta, a.investorPoolTokenAta, a.position]
  checkSeeds a.pool (.pool pool.poolId) pool.bump
  require (pool.poolTokenMint = a.poolTokenMint) .wrongMint
  require (pool.usdcVault = a.usdcVault) .wrongVault
  checkToken investorUsdcAta a.usdcMint a.investor
  require (0 < amount) .zeroAmount
  require (pool.status = .funding) .notFunding
  let remaining ← (pool.targetAmount.checkedSub pool.tokensSold).okOr (.exira .mathUnderflow)
  require (amount ≤ remaining) .poolFull
  -- 1) USDC from the investor to the vault
  let bank ← cpi (bank.transfer a.investorUsdcAta a.usdcVault a.investor amount)
  -- 2) pool tokens 1:1, signed by the pool
  signWith a.pool (.pool pool.poolId) pool.bump
  let bank ← cpi (bank.mintTo a.poolTokenMint a.investorPoolTokenAta a.pool amount)
  -- 3) position and pool; an existing position keeps its baseline
  let position := openPosition position a.investor a.pool pool.cumulativeUsdcPerToken
  let tokensHeld ← (position.tokensHeld.checkedAdd amount).okOr (.exira .mathOverflow)
  let tokensSold ← (pool.tokensSold.checkedAdd amount).okOr (.exira .mathOverflow)
  return { s with
    pools := s.pools.insert a.pool { pool with tokensSold := tokensSold }
    positions := s.positions.insert a.position { position with tokensHeld := tokensHeld }
    bank := bank }

/-- The accounts of `claim_project_returns`. -/
structure ClaimProjectReturns (K : Type) where
  project : K
  usdcVault : K
  investor : K
  position : K
  investorUsdcAta : K
  usdcMint : K

/-- Pays a holder of a project what it is owed. -/
def claimProjectReturns (s : State K) (a : ClaimProjectReturns K) : Result (State K) := do
  let project ← load s.projects a.project
  let usdcVault ← load s.bank.accounts a.usdcVault
  let position ← load s.positions a.position
  let _ ← load s.bank.mints a.usdcMint
  let bank ← ensureAssociatedToken s a.investorUsdcAta a.investor a.usdcMint
  noDuplicates [a.usdcVault, a.position, a.investorUsdcAta]
  checkSeeds a.project (.project project.projectId) project.bump
  require (project.usdcVault = a.usdcVault) .wrongVault
  checkSeeds a.position (.position a.project a.investor) position.bump
  require (position.owner = a.investor) .unauthorized
  require (position.target = a.project) .wrongPlatform
  let owed ← claimable project.cumulativeUsdcPerToken position.lastClaimedPerToken
    position.tokensHeld
  require (0 < owed) .nothingToClaim
  require (owed ≤ usdcVault.amount) .insufficientVaultBalance
  signWith a.project (.project project.projectId) project.bump
  let bank ← cpi (bank.transfer a.usdcVault a.investorUsdcAta a.project owed)
  let position ← settlePosition position project.cumulativeUsdcPerToken owed
  return { s with
    positions := s.positions.insert a.position position
    bank := bank }

/-- The accounts of `claim_pool_returns`. -/
structure ClaimPoolReturns (K : Type) where
  pool : K
  usdcVault : K
  investor : K
  position : K
  investorUsdcAta : K
  usdcMint : K

/-- Pays a holder of a pool what it is owed. -/
def claimPoolReturns (s : State K) (a : ClaimPoolReturns K) : Result (State K) := do
  let pool ← load s.pools a.pool
  let usdcVault ← load s.bank.accounts a.usdcVault
  let position ← load s.positions a.position
  let _ ← load s.bank.mints a.usdcMint
  let bank ← ensureAssociatedToken s a.investorUsdcAta a.investor a.usdcMint
  noDuplicates [a.usdcVault, a.position, a.investorUsdcAta]
  checkSeeds a.pool (.pool pool.poolId) pool.bump
  require (pool.usdcVault = a.usdcVault) .wrongVault
  checkSeeds a.position (.position a.pool a.investor) position.bump
  require (position.owner = a.investor) .unauthorized
  require (position.target = a.pool) .wrongPlatform
  let owed ← claimable pool.cumulativeUsdcPerToken position.lastClaimedPerToken position.tokensHeld
  require (0 < owed) .nothingToClaim
  require (owed ≤ usdcVault.amount) .insufficientVaultBalance
  signWith a.pool (.pool pool.poolId) pool.bump
  let bank ← cpi (bank.transfer a.usdcVault a.investorUsdcAta a.pool owed)
  let position ← settlePosition position pool.cumulativeUsdcPerToken owed
  return { s with
    positions := s.positions.insert a.position position
    bank := bank }

/-- The accounts of `withdraw_investment`. -/
structure WithdrawInvestment (K : Type) where
  project : K
  tokenMint : K
  usdcVault : K
  investor : K
  position : K
  investorTokenAta : K
  investorUsdcAta : K
  usdcMint : K

/-- Gives a holder its money back, before the project is active. -/
def withdrawInvestment (s : State K) (a : WithdrawInvestment K) : Result (State K) := do
  let project ← load s.projects a.project
  let _ ← load s.bank.mints a.tokenMint
  let _ ← load s.bank.accounts a.usdcVault
  let position ← load s.positions a.position
  let investorTokenAta ← load s.bank.accounts a.investorTokenAta
  let investorUsdcAta ← load s.bank.accounts a.investorUsdcAta
  let _ ← load s.bank.mints a.usdcMint
  noDuplicates [a.project, a.tokenMint, a.usdcVault, a.position, a.investorTokenAta,
    a.investorUsdcAta]
  checkSeeds a.project (.project project.projectId) project.bump
  require (project.tokenMint = a.tokenMint) .wrongMint
  require (project.usdcVault = a.usdcVault) .wrongVault
  -- the position's target is not compared here: the seeds are
  checkSeeds a.position (.position a.project a.investor) position.bump
  require (position.owner = a.investor) .unauthorized
  checkToken investorTokenAta a.tokenMint a.investor
  checkToken investorUsdcAta a.usdcMint a.investor
  require (project.status = .funding ∨ project.status = .cancelled) .cannotWithdraw
  require (0 < position.tokensHeld) .nothingToClaim
  -- 1) burn the investor's project tokens
  let bank ← cpi (s.bank.burn a.investorTokenAta a.tokenMint a.investor position.tokensHeld)
  -- 2) refund, signed by the project
  signWith a.project (.project project.projectId) project.bump
  let bank ← cpi (bank.transfer a.usdcVault a.investorUsdcAta a.project position.tokensHeld)
  -- 3) position and project
  let tokensSold ← (project.tokensSold.checkedSub position.tokensHeld).okOr (.exira .mathUnderflow)
  return { s with
    projects := s.projects.insert a.project { project with tokensSold := tokensSold }
    positions := s.positions.insert a.position { position with tokensHeld := 0 }
    bank := bank }

end Exira
