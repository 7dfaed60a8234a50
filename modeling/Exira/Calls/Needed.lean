import Exira.Orders
import Exira.Records.Provenance
import Exira.Records.Texts

/-!
# What a call needs

A call reaches the program in a transaction, whose first signer pays for the accounts that it creates
(`Instruction.creates`); the system program takes the rent from a plain wallet only (`State.Takes`).

`Serves` says what is left of the checks of an instruction in a reachable state. The accounts are those of a
client: a caller chooses the token accounts that pay and receive and the mint of a new target, and nothing else.
What is left is about amounts, statuses, signatures and addresses that are taken. This file shows that a call
that went through is served.
-/

namespace Exira

variable {K : Type} [DecidableEq K] [Addresses K]

/-! ## Accounts of a client -/

/-- The account of a registered auditor. -/
def Client.auditor (w : K) : K := findProgramAddress (.auditor w)

/-- The address of an MRV entry. -/
def Client.mrvProject (id : U64) : K := findProgramAddress (.mrvProject id)

/-- The address of an entry's baseline. -/
def Client.baseline (m : K) : K := findProgramAddress (.baseline m)

/-- The address of a verification. -/
def Client.verification (m : K) (index : U8) : K := findProgramAddress (.verification m index)

/-- The address of a link. -/
def Client.poolLink (pool project : K) : K := findProgramAddress (.poolLink pool project)

/-- A string fits a field. -/
def Fits (s : String) (n : ℕ) : Prop :=
  (utf8 s).length ≤ n

instance decidableFits (s : String) (n : ℕ) : Decidable (Fits s n) :=
  inferInstanceAs (Decidable ((utf8 s).length ≤ n))

/-! ## Transactions -/

/-- The accounts with `init` or `init_if_needed`. -/
def Instruction.creates : Instruction K → List K
  | .initializePlatform a _ _ _ => [a.platform]
  | .createProject a _ _ _ => [a.project, a.tokenMint, a.usdcVault]
  | .activateProject _ => []
  | .distributeRepayment _ _ => []
  | .closeProject _ => []
  | .createPool a _ _ => [a.pool, a.poolTokenMint, a.usdcVault]
  | .addProjectToPool a => [a.poolProjectLink]
  | .distributePoolReturns _ _ => []
  | .withdrawProjectFunds _ _ => []
  | .buyProjectTokens a _ => [a.investorTokenAta, a.position]
  | .claimProjectReturns a => [a.investorUsdcAta]
  | .withdrawInvestment _ => []
  | .buyPoolTokens a _ => [a.investorPoolTokenAta, a.position]
  | .claimPoolReturns a => [a.investorUsdcAta]
  | .registerMrvProject a _ _ _ _ _ => [a.mrvProject]
  | .addAuditor a _ _ => [a.auditor]
  | .submitBaseline a _ _ _ _ _ => [a.baseline]
  | .submitVerification a _ _ _ _ _ _ _ _ => [a.verification]
  | .attestVerification _ => []

/-- The payer of an instruction is its first signer. Where an account is created it is a plain wallet: the system
program takes no lamports from an account with data. -/
def State.PaysRent (s : State K) (i : Instruction K) : Prop :=
  ∀ w ∈ i.signers.head?, ∀ k ∈ i.creates, s.Vacant k → s.Vacant w

/-- The instruction goes through in a transaction of its own: the rent is paid, and the program accepts it. How
many lamports a wallet has is not in the state; that the payer has enough is taken for granted. -/
def State.Takes (s : State K) (now : Int64) (i : Instruction K) : Prop :=
  s.PaysRent i ∧ ∃ s', step s (.call now i) = .ok s'

/-- The associated account of a wallet is to be made, or it is there and the wallet's. -/
def State.FreeAta (s : State K) (w m : K) : Prop :=
  s.Vacant (associatedToken w m) ∨ s.bank.holder (associatedToken w m) = some (m, w)

/-! ## Calls that are served -/

/-- The calls that a deployment serves in the state `s`. -/
inductive Serves (s : State K) (platform : Platform K) : Instruction K → Prop
  | createProject {id target : U64} {term : U8} {mrv mint : K} {entry : MrvProject}
      (found : s.mrvProjects.lookup mrv = some entry) (gate : entry.baselineSubmitted = true)
      (signs : canSign mint = true) (freeMint : s.Vacant mint) (free : s.Vacant (Client.project id))
      (freeVault : s.Vacant (platform.client.usdcOf (Client.project id))) (pos : 0 < target)
      (terms : MIN_TERM_MONTHS ≤ term ∧ term ≤ MAX_TERM_MONTHS)
      (apart : platform.admin ≠ mint) :
      Serves s platform (platform.client.createProject id target term mrv mint)
  | activateProject {p dest : K} {project : Project K} (own : s.projects.lookup p = some project)
      (status : project.status = .funding) (full : project.tokensSold = project.targetAmount)
      (covered : project.targetAmount.toNat * platform.originationFeeBps.toNat / 10000
        ≤ s.bank.balance project.usdcVault)
      (receiver : s.bank.holder dest = some (platform.usdcMint, platform.treasury))
      (apart : project.usdcVault ≠ dest) :
      Serves s platform (.activateProject (platform.client.activation p project dest))
  | distributeRepayment {p src : K} {project : Project K} {n : U64} (own : s.projects.lookup p = some project)
      (status : project.status = .active ∨ project.status = .repaying) (pos : 0 < n.toNat)
      (fits : project.totalDistributed.toNat + n.toNat < 2 ^ 64)
      (funds : s.bank.holder src = some (platform.usdcMint, platform.admin))
      (enough : n.toNat ≤ s.bank.balance src) :
      Serves s platform (.distributeRepayment (platform.client.repayment p project src) n)
  | closeProject {p : K} {project : Project K} (own : s.projects.lookup p = some project)
      (status : project.status = .repaying ∨ project.status = .active) :
      Serves s platform (.closeProject ⟨Client.platform, platform.admin, p⟩)
  | createPool {id target : U64} {mint : K} (signs : canSign mint = true) (freeMint : s.Vacant mint)
      (free : s.Vacant (Client.pool id)) (freeVault : s.Vacant (platform.client.usdcOf (Client.pool id)))
      (pos : 0 < target) (apart : platform.admin ≠ mint) :
      Serves s platform (platform.client.createPool id target mint)
  | addProjectToPool {p q : K} {pool : Pool K} {project : Project K} (own : s.pools.lookup p = some pool)
      (member : s.projects.lookup q = some project) (free : s.Vacant (Client.poolLink p q))
      (room : pool.underlyingProjectCount < MAX_POOL_PROJECTS_V1) :
      Serves s platform (.addProjectToPool ⟨Client.platform, platform.admin, p, q, Client.poolLink p q⟩)
  | distributePoolReturns {p src : K} {pool : Pool K} {n : U64} (own : s.pools.lookup p = some pool)
      (pos : 0 < n.toNat) (sold : 0 < pool.tokensSold.toNat)
      (fits : pool.totalDistributed.toNat + n.toNat < 2 ^ 64)
      (funds : s.bank.holder src = some (platform.usdcMint, platform.admin))
      (enough : n.toNat ≤ s.bank.balance src) :
      Serves s platform (.distributePoolReturns (platform.client.poolReturn p pool src) n)
  | withdrawProjectFunds {p dest o : K} {project : Project K} {n : U64}
      (own : s.projects.lookup p = some project) (pos : 0 < n.toNat)
      (covered : n.toNat ≤ s.bank.balance project.usdcVault)
      (receiver : s.bank.holder dest = some (platform.usdcMint, o)) (apart : project.usdcVault ≠ dest) :
      Serves s platform (.withdrawProjectFunds (platform.client.payout p project dest) n)
  | buyProjectTokens {p w src : K} {project : Project K} {n : U64} (own : s.projects.lookup p = some project)
      (signs : canSign w = true) (free : s.Free p w) (status : project.status = .funding) (pos : 0 < n.toNat)
      (room : project.tokensSold.toNat + n.toNat ≤ project.targetAmount.toNat)
      (funds : s.bank.holder src = some (platform.usdcMint, w)) (enough : n.toNat ≤ s.bank.balance src)
      (account : s.FreeAta w project.tokenMint) :
      Serves s platform (.buyProjectTokens (Client.projectSale platform.usdcMint p project w src) n)
  | claimProjectReturns {p w : K} {project : Project K} {q : InvestorPosition K}
      (own : s.projects.lookup p = some project) (held : s.positions.lookup (Client.position p w) = some q)
      (pos : 0 < q.owed project.cumulativeUsdcPerToken)
      (covered : q.owed project.cumulativeUsdcPerToken ≤ s.bank.balance project.usdcVault)
      (account : s.FreeAta w platform.usdcMint) :
      Serves s platform (Client.claimProject platform.usdcMint p project.usdcVault w)
  | withdrawInvestment {p w source dest : K} {project : Project K} {q : InvestorPosition K}
      (own : s.projects.lookup p = some project) (status : project.status = .funding)
      (held : s.positions.lookup (Client.position p w) = some q) (pos : 0 < q.tokensHeld.toNat)
      (tokens : s.bank.holder source = some (project.tokenMint, w))
      (enough : q.tokensHeld.toNat ≤ s.bank.balance source)
      (receiver : s.bank.holder dest = some (platform.usdcMint, w))
      (covered : q.tokensHeld.toNat ≤ s.bank.balance project.usdcVault) :
      Serves s platform (.withdrawInvestment (Client.withdrawal platform.usdcMint p project w source dest))
  | buyPoolTokens {p w src : K} {pool : Pool K} {n : U64} (own : s.pools.lookup p = some pool)
      (signs : canSign w = true) (free : s.Free p w) (pos : 0 < n.toNat)
      (room : pool.tokensSold.toNat + n.toNat ≤ pool.targetAmount.toNat)
      (funds : s.bank.holder src = some (platform.usdcMint, w)) (enough : n.toNat ≤ s.bank.balance src)
      (account : s.FreeAta w pool.poolTokenMint) :
      Serves s platform (.buyPoolTokens (Client.poolSale platform.usdcMint p pool w src) n)
  | claimPoolReturns {p w : K} {pool : Pool K} {q : InvestorPosition K}
      (own : s.pools.lookup p = some pool) (held : s.positions.lookup (Client.position p w) = some q)
      (pos : 0 < q.owed pool.cumulativeUsdcPerToken)
      (covered : q.owed pool.cumulativeUsdcPerToken ≤ s.bank.balance pool.usdcVault)
      (fits : q.totalClaimed.toNat + q.owed pool.cumulativeUsdcPerToken < 2 ^ 64)
      (account : s.FreeAta w platform.usdcMint) :
      Serves s platform (Client.claimPool platform.usdcMint p pool.usdcVault w)
  | registerMrvProject {id : U64} {name sector location upgrade : String}
      (free : s.Vacant (Client.mrvProject id)) (name_fits : Fits name MSME_NAME_LEN)
      (sector_fits : Fits sector SECTOR_LEN) (location_fits : Fits location LOCATION_LEN)
      (upgrade_fits : Fits upgrade UPGRADE_TYPE_LEN) :
      Serves s platform (.registerMrvProject ⟨Client.platform, platform.admin, Client.mrvProject id⟩ id
        name sector location upgrade)
  | addAuditor {w : K} {name certification : String} (free : s.Vacant (Client.auditor w))
      (name_fits : Fits name AUDITOR_NAME_LEN) (certification_fits : Fits certification CERTIFICATION_LEN)
      :
      Serves s platform (.addAuditor ⟨Client.platform, platform.admin, w, Client.auditor w⟩ name certification)

/-- The calls that are accepted in the state `s`: without a platform its initialization; of the registry what an
auditor files; and what the deployment serves. -/
inductive Accepts (s : State K) : Instruction K → Prop
  | initializePlatform {c : Client K} {orig perf hurdle : U16} (free : s.Vacant Client.platform)
      (signs : canSign c.admin = true) (exist : c.usdc ∈ s.bank.mints)
      (fees : orig ≤ MAX_FEE_BPS ∧ perf ≤ MAX_FEE_BPS ∧ hurdle ≤ MAX_FEE_BPS) :
      Accepts s (c.initializePlatform orig perf hurdle)
  | submitBaseline {w m : K} {auditor : Auditor K} {entry : MrvProject} {energy cost co2 : U64} {fuel : String}
      {hash : Vector U8 32} (known : s.auditors.lookup (Client.auditor w) = some auditor)
      (signs : canSign w = true) (found : s.mrvProjects.lookup m = some entry)
      (free : s.Vacant (Client.baseline m)) (fuel_fits : Fits fuel FUEL_TYPE_LEN) :
      Accepts s (.submitBaseline ⟨w, Client.auditor w, m, Client.baseline m⟩ energy fuel cost co2 hash)
  | submitVerification {w m : K} {auditor : Auditor K} {entry : MrvProject} {index : U8} {start stop : Int64}
      {energy cost co2 : U64} {bps : U16} {hash : Vector U8 32}
      (known : s.auditors.lookup (Client.auditor w) = some auditor) (signs : canSign w = true)
      (found : s.mrvProjects.lookup m = some entry) (gate : entry.baselineSubmitted = true)
      (free : s.Vacant (Client.verification m index)) (period : start < stop) :
      Accepts s (.submitVerification ⟨w, Client.auditor w, m, Client.verification m index⟩ index start stop energy
        cost co2 bps hash)
  | attestVerification {w m : K} {index : U8} {auditor : Auditor K} {v : Verification K}
      (known : s.auditors.lookup (Client.auditor w) = some auditor) (signs : canSign w = true)
      (found : s.verifications.lookup (Client.verification m index) = some v) (fresh : v.attested = false)
      (author : v.auditor = w) :
      Accepts s (.attestVerification ⟨w, Client.auditor w, m, Client.verification m index⟩)
  | serves {platform : Platform K} {i : Instruction K}
      (known : s.platforms.lookup Client.platform = some platform) (h : Serves s platform i) : Accepts s i

/-! ## What is read from a call that went through -/

section
variable {g : Genesis K} {as : List (Action K)} {s s' : State K} {t : Target K} {l : Listing K}
  {platform : Platform K} {k w : K}

/-- The platform of an admin instruction is the one that there is, and its admin signs. -/
lemma Genesis.loads (g : Genesis K) (as : List (Action K)) (loaded : AdminOf (g.run as) k w platform) :
    k = Client.platform ∧ w = platform.admin ∧
      (g.run as).platforms.lookup Client.platform = some platform := by
  obtain ⟨place, known, -⟩ := (g.run_wf as).side.platform loaded
  exact ⟨place, loaded.admin.symm, known⟩

/-- A listed target stands in its deployment. -/
lemma Genesis.standing (g : Genesis K) (as : List (Action K)) (listed : (g.run as).view.listing t = some l)
    (known : (g.run as).platforms.lookup Client.platform = some platform) :
    Standing g platform.client t l (g.run as) ((g.run as).view.fundOf t l) where
  reached := ⟨as, rfl⟩
  deployed := ⟨platform, g.deployed as known⟩
  listed := ⟨l, listed, .refl l, rfl⟩

/-- The auditor of a report is at the address of its signer. -/
lemma Genesis.files (g : Genesis K) (as : List (Action K)) {auditor : Auditor K}
    (loaded : AuditorOf (g.run as) k w auditor) :
    k = Client.auditor w ∧ (g.run as).auditors.lookup (Client.auditor w) = some auditor := by
  obtain ⟨own, -, -, wallet⟩ := loaded
  obtain ⟨place, -⟩ := g.opened as .auditor k auditor own
  have place : k = Client.auditor w := place.trans (congrArg Client.auditor wallet)
  exact ⟨place, place ▸ own⟩

/-- An associated account that is made or found is free for its wallet. -/
lemma ensureAssociatedToken_free {mint : K} {b : Token.Bank K} (h : ensureAssociatedToken s k w mint = .ok b) :
    k = associatedToken w mint ∧ s.FreeAta w mint := by
  obtain ⟨place, -⟩ := ensureAssociatedToken_ok h
  subst place
  refine ⟨rfl, ?_⟩
  by_cases vacant : s.Vacant (associatedToken w mint)
  · exact .inl vacant
  · rw [ensureAssociatedToken, if_neg vacant] at h
    simp only [Except.bind_eq_ok, load_eq_ok, constraint_eq_ok, exists_const] at h
    obtain ⟨account, own, rfl, rfl, -⟩ := h
    exact .inr (Token.Bank.holder_eq own)

/-- A field is padded only when the string fits. -/
lemma fits_of_padInto {n : ℕ} {x : String} {v : Vector U8 n} (h : padInto n x = .ok v) : Fits x n :=
  (padInto_ok h).1

omit [Addresses K] in
/-- A mint that is made takes no other address. -/
lemma Vacant.of_initMint {mint payer authority : K} {b : Token.Bank K}
    (h : initMint s mint payer authority = .ok b)
    (free : State.Vacant { s with bank := b } k) : s.Vacant k := by
  obtain ⟨-, -, made⟩ := initMint_ok.mp h
  obtain ⟨-, rfl⟩ := Token.Bank.initMint_inv made
  exact ⟨free.1, fun mem => free.2.1 (Finmap.mem_insert.mpr (.inr mem)), free.2.2⟩

end

/-! ## Calls of the admin -/

section
variable {g : Genesis K} {as : List (Action K)} {s' : State K} {now : Int64} {n : U64}

/-- What `initialize_platform` needs. -/
lemma initializePlatform_accepts {a : InitializePlatform K} {orig perf hurdle : U16}
    (st : step (g.run as) (.call now (.initializePlatform a orig perf hurdle)) = .ok s') :
    Accepts (g.run as) (.initializePlatform a orig perf hurdle) := by
  obtain ⟨signed, h⟩ := step_call st
  obtain ⟨done, -⟩ := initializePlatform_ok.mp h
  have free := done.vacant
  have accounts : a = ⟨Client.platform, a.admin, a.treasury, a.usdcMint⟩ := by
    cases a
    rw [← show _ = Client.platform from done.place]
  rw [done.place] at free
  rw [accounts]
  exact .initializePlatform (c := ⟨a.usdcMint, a.admin, a.treasury⟩) free (signed _ (.head _))
    (Finmap.mem_of_lookup_eq_some done.exist) done.fees

/-- What `create_project` needs. -/
lemma createProject_accepts {a : CreateProject K} {id target : U64} {term : U8}
    (st : step (g.run as) (.call now (.createProject a id target term)) = .ok s') :
    Accepts (g.run as) (.createProject a id target term) := by
  obtain ⟨signed, h⟩ := step_call st
  obtain ⟨done, -⟩ := createProject_ok.mp h
  have free := done.vacant
  obtain ⟨apart, freeMint, -⟩ := initMint_ok.mp done.mints
  obtain ⟨loads, admin, known⟩ := g.loads as done.loaded
  obtain ⟨placeVault, freeVault, -⟩ := initAssociatedToken_ok.mp done.founded
  rw [done.place, ← done.usdc] at placeVault
  rw [done.place] at free
  rw [admin] at apart
  rw [placeVault] at freeVault
  have accounts : a = ⟨Client.platform, done.platform.admin, a.mrvProject, Client.project id, a.tokenMint,
      done.platform.client.usdcOf (Client.project id), done.platform.usdcMint⟩ := by
    obtain ⟨_, _, _, _, _, _, _⟩ := a
    simp only [CreateProject.mk.injEq, true_and]
    exact ⟨loads, admin, done.place, placeVault, done.usdc.symm⟩
  rw [accounts]
  exact .serves known (.createProject done.found done.gate (signed _ (.tail _ (.head _))) freeMint free
    (Vacant.of_initMint done.mints freeVault) done.pos done.term apart)

/-- What `activate_project` needs. -/
lemma activateProject_accepts {a : ActivateProject K}
    (st : step (g.run as) (.call now (.activateProject a)) = .ok s') :
    Accepts (g.run as) (.activateProject a) := by
  obtain ⟨done, -⟩ := activateProject_ok.mp (step_call st).2
  obtain ⟨owner, mint⟩ := done.ata
  obtain ⟨loads, admin, known⟩ := g.loads as done.loaded
  have within := ((g.run_wf as).side.platforms _ _ known).2
  have receiver := Token.Bank.holder_eq done.found
  rw [mint, owner, ← done.usdc, ← done.treasury] at receiver
  have covered : done.fee.toNat ≤ (g.run as).bank.balance a.usdcVault := by
    rcases payFee_ok done.paid with paid | ⟨zero, -⟩
    · exact Token.Bank.transfer_covered paid
    · rw [zero]
      exact Nat.zero_le _
  rw [originationFee_ok done.priced within, ← done.vault] at covered
  have accounts : a = done.platform.client.activation a.project done.project a.treasuryUsdcAta := by
    obtain ⟨_, _, _, _, _, _, _⟩ := a
    simp only [Client.activation, ActivateProject.mk.injEq, true_and]
    exact ⟨loads, admin, done.vault.symm, done.treasury.symm, done.usdc.symm⟩
  rw [accounts]
  exact .serves known (.activateProject done.own done.status done.full covered receiver (done.vault ▸ done.apart))

/-- What `distribute_repayment` needs. -/
lemma distributeRepayment_accepts {a : DistributeRepayment K}
    (st : step (g.run as) (.call now (.distributeRepayment a n)) = .ok s') :
    Accepts (g.run as) (.distributeRepayment a n) := by
  obtain ⟨done, -⟩ := distributeRepayment_ok.mp (step_call st).2
  obtain ⟨owner, mint⟩ := done.ata
  obtain ⟨loads, admin, known⟩ := g.loads as done.loaded
  have funds := Token.Bank.holder_eq done.found
  rw [mint, owner, ← done.usdc, admin] at funds
  have fits : done.project.totalDistributed.toNat + n.toNat < 2 ^ 64 :=
    (accumulate_ok done.accrued).2.symm.trans_lt done.distributed.isLt
  have accounts : a = done.platform.client.repayment a.project done.project a.adminUsdcAta := by
    obtain ⟨_, _, _, _, _, _⟩ := a
    simp only [Client.repayment, DistributeRepayment.mk.injEq, true_and]
    exact ⟨loads, admin, done.vault.symm, done.usdc.symm⟩
  rw [accounts]
  exact .serves known (.distributeRepayment done.own done.status (BitVec.lt_def.mp done.pos) fits funds
    (Token.Bank.transfer_covered done.paid))

/-- What `close_project` needs. -/
lemma closeProject_accepts {a : CloseProject K} (st : step (g.run as) (.call now (.closeProject a)) = .ok s') :
    Accepts (g.run as) (.closeProject a) := by
  obtain ⟨done, -⟩ := closeProject_ok.mp (step_call st).2
  obtain ⟨loads, admin, known⟩ := g.loads as done.loaded
  have accounts : a = ⟨Client.platform, done.platform.admin, a.project⟩ := by
    obtain ⟨_, _, _⟩ := a
    simp only [CloseProject.mk.injEq, and_true]
    exact ⟨loads, admin⟩
  rw [accounts]
  exact .serves known (.closeProject done.own done.status)

/-- What `create_pool` needs. -/
lemma createPool_accepts {a : CreatePool K} {id target : U64}
    (st : step (g.run as) (.call now (.createPool a id target)) = .ok s') :
    Accepts (g.run as) (.createPool a id target) := by
  obtain ⟨signed, h⟩ := step_call st
  obtain ⟨done, -⟩ := createPool_ok.mp h
  have free := done.vacant
  obtain ⟨apart, freeMint, -⟩ := initMint_ok.mp done.mints
  obtain ⟨loads, admin, known⟩ := g.loads as done.loaded
  obtain ⟨placeVault, freeVault, -⟩ := initAssociatedToken_ok.mp done.founded
  rw [done.place, ← done.usdc] at placeVault
  rw [done.place] at free
  rw [admin] at apart
  rw [placeVault] at freeVault
  have accounts : a = ⟨Client.platform, done.platform.admin, Client.pool id, a.poolTokenMint,
      done.platform.client.usdcOf (Client.pool id), done.platform.usdcMint⟩ := by
    obtain ⟨_, _, _, _, _, _⟩ := a
    simp only [CreatePool.mk.injEq, true_and]
    exact ⟨loads, admin, done.place, placeVault, done.usdc.symm⟩
  rw [accounts]
  exact .serves known (.createPool (signed _ (.tail _ (.head _))) freeMint free
    (Vacant.of_initMint done.mints freeVault) done.pos apart)

/-- What `add_project_to_pool` needs. -/
lemma addProjectToPool_accepts {a : AddProjectToPool K}
    (st : step (g.run as) (.call now (.addProjectToPool a)) = .ok s') :
    Accepts (g.run as) (.addProjectToPool a) := by
  obtain ⟨done, -⟩ := addProjectToPool_ok.mp (step_call st).2
  have free := done.vacant
  obtain ⟨loads, admin, known⟩ := g.loads as done.loaded
  rw [done.place] at free
  have accounts :
      a = ⟨Client.platform, done.platform.admin, a.pool, a.project, Client.poolLink a.pool a.project⟩ := by
    obtain ⟨_, _, _, _, _⟩ := a
    simp only [AddProjectToPool.mk.injEq, true_and]
    exact ⟨loads, admin, done.place⟩
  rw [accounts]
  exact .serves known (.addProjectToPool done.own done.member free done.room)

/-- What `distribute_pool_returns` needs. -/
lemma distributePoolReturns_accepts {a : DistributePoolReturns K}
    (st : step (g.run as) (.call now (.distributePoolReturns a n)) = .ok s') :
    Accepts (g.run as) (.distributePoolReturns a n) := by
  obtain ⟨done, -⟩ := distributePoolReturns_ok.mp (step_call st).2
  obtain ⟨owner, mint⟩ := done.ata
  obtain ⟨loads, admin, known⟩ := g.loads as done.loaded
  have funds := Token.Bank.holder_eq done.found
  rw [mint, owner, ← done.usdc, admin] at funds
  have fits : done.pool.totalDistributed.toNat + n.toNat < 2 ^ 64 :=
    (accumulate_ok done.accrued).2.symm.trans_lt done.distributed.isLt
  have accounts : a = done.platform.client.poolReturn a.pool done.pool a.adminUsdcAta := by
    obtain ⟨_, _, _, _, _, _⟩ := a
    simp only [Client.poolReturn, DistributePoolReturns.mk.injEq, true_and]
    exact ⟨loads, admin, done.vault.symm, done.usdc.symm⟩
  rw [accounts]
  exact .serves known (.distributePoolReturns done.own (BitVec.lt_def.mp done.pos) (BitVec.lt_def.mp done.sold) fits
    funds (Token.Bank.transfer_covered done.paid))

/-- What `withdraw_project_funds` needs. -/
lemma withdrawProjectFunds_accepts {a : WithdrawProjectFunds K}
    (st : step (g.run as) (.call now (.withdrawProjectFunds a n)) = .ok s') :
    Accepts (g.run as) (.withdrawProjectFunds a n) := by
  obtain ⟨done, -⟩ := withdrawProjectFunds_ok.mp (step_call st).2
  obtain ⟨loads, admin, known⟩ := g.loads as done.loaded
  have receiver := Token.Bank.holder_eq done.found
  rw [done.mint, ← done.usdc] at receiver
  have covered := Token.Bank.transfer_covered done.paid
  rw [← done.vault] at covered
  have accounts : a = done.platform.client.payout a.project done.project a.destination := by
    obtain ⟨_, _, _, _, _, _⟩ := a
    simp only [Client.payout, WithdrawProjectFunds.mk.injEq, true_and]
    exact ⟨loads, admin, done.vault.symm, done.usdc.symm⟩
  rw [accounts]
  exact .serves known (.withdrawProjectFunds done.own (BitVec.lt_def.mp done.pos) covered receiver
    (done.vault ▸ done.apart))

end

/-! ## Calls of investors -/

section
variable {c : Client K} {p w : K} {m : ℕ} {now : Int64} {n : U64}

omit [DecidableEq K] in
/-- The accounts of a purchase and of a claim are those of a client. -/
lemma OnProject.sale {project : Project K} {a : BuyProjectTokens K}
    (on : OnProject c p project (.buy w m) (.call now (.buyProjectTokens a n))) :
    a = Client.projectSale c.usdc p project w a.investorUsdcAta := by
  cases on
  rfl

omit [DecidableEq K] in
/-- A purchase of pool tokens is passed the accounts of the sale. -/
lemma OnPool.sale {pool : Pool K} {a : BuyPoolTokens K}
    (on : OnPool c p pool (.buy w m) (.call now (.buyPoolTokens a n))) :
    a = Client.poolSale c.usdc p pool w a.investorUsdcAta := by
  cases on
  rfl

omit [DecidableEq K] in
/-- A claim on a project is passed the accounts of the claim. -/
lemma OnProject.accounts {project : Project K} {a : ClaimProjectReturns K}
    (on : OnProject c p project (.claim w) (.call now (.claimProjectReturns a))) :
    Instruction.claimProjectReturns a = Client.claimProject c.usdc p project.usdcVault w := by
  cases on
  rfl

omit [DecidableEq K] in
/-- A claim on a pool is passed the accounts of the claim. -/
lemma OnPool.accounts {pool : Pool K} {a : ClaimPoolReturns K}
    (on : OnPool c p pool (.claim w) (.call now (.claimPoolReturns a))) :
    Instruction.claimPoolReturns a = Client.claimPool c.usdc p pool.usdcVault w := by
  cases on
  rfl

end

section
variable {g : Genesis K} {as : List (Action K)} {s' : State K} {now : Int64} {n : U64}

/-- What `buy_project_tokens` needs. -/
lemma buyProjectTokens_accepts {a : BuyProjectTokens K}
    (st : step (g.run as) (.call now (.buyProjectTokens a n)) = .ok s') :
    Accepts (g.run as) (.buyProjectTokens a n) := by
  obtain ⟨signed, h⟩ := step_call st
  obtain ⟨done, -⟩ := buyProjectTokens_ok.mp h
  obtain ⟨owner, usdc⟩ := done.ata
  have listed := State.listing_project done.own
  obtain ⟨platform, known, -⟩ := g.vault_usdc as listed
  have accounts := ((g.standing as listed known).buysProject rfl st).sale
  have mint : a.usdcMint = platform.usdcMint := congrArg BuyProjectTokens.usdcMint accounts
  have funds := Token.Bank.holder_eq done.found
  rw [usdc, owner, mint] at funds
  have enough := Token.Bank.transfer_covered done.paid
  rw [(ensureAssociatedToken_founds done.ensured).1.balance] at enough
  have free := ensurePosition_free done.made
  obtain ⟨-, account⟩ := ensureAssociatedToken_free done.ensured
  rw [← done.mint] at account
  rw [accounts]
  exact .serves known (.buyProjectTokens done.own (signed _ (.head _)) free done.status (BitVec.lt_def.mp done.pos)
    done.room funds enough account)

/-- What `buy_pool_tokens` needs. -/
lemma buyPoolTokens_accepts {a : BuyPoolTokens K}
    (st : step (g.run as) (.call now (.buyPoolTokens a n)) = .ok s') :
    Accepts (g.run as) (.buyPoolTokens a n) := by
  obtain ⟨signed, h⟩ := step_call st
  obtain ⟨done, -⟩ := buyPoolTokens_ok.mp h
  obtain ⟨owner, usdc⟩ := done.ata
  have listed := State.listing_pool done.own
  obtain ⟨platform, known, -⟩ := g.vault_usdc as listed
  have accounts := ((g.standing as listed known).buysPool rfl st).sale
  have mint : a.usdcMint = platform.usdcMint := congrArg BuyPoolTokens.usdcMint accounts
  have funds := Token.Bank.holder_eq done.found
  rw [usdc, owner, mint] at funds
  have enough := Token.Bank.transfer_covered done.paid
  rw [(ensureAssociatedToken_founds done.ensured).1.balance] at enough
  have free := ensurePosition_free done.made
  obtain ⟨-, account⟩ := ensureAssociatedToken_free done.ensured
  rw [← done.mint] at account
  rw [accounts]
  exact .serves known (.buyPoolTokens done.own (signed _ (.head _)) free (BitVec.lt_def.mp done.pos) done.room funds
    enough account)

/-- What `claim_project_returns` needs. -/
lemma claimProjectReturns_accepts {a : ClaimProjectReturns K}
    (st : step (g.run as) (.call now (.claimProjectReturns a)) = .ok s') :
    Accepts (g.run as) (.claimProjectReturns a) := by
  have wf := g.run_wf as
  obtain ⟨done, -⟩ := claimProjectReturns_ok.mp (step_call st).2
  have held := done.held
  have listed := State.listing_project done.own
  obtain ⟨platform, known, -⟩ := g.vault_usdc as listed
  have accounts := ((g.standing as listed known).claimsProject rfl st).accounts
  rw [wf.position_place held done.placed] at held
  have owed : done.owed.toNat = done.position.owed done.project.cumulativeUsdcPerToken := (claimable_ok done.pays).2
  have covered := Token.Bank.transfer_covered done.paid
  rw [(ensureAssociatedToken_founds done.ensured).1.balance, owed, ← done.vault] at covered
  have mint : a.usdcMint = platform.usdcMint := by
    injection accounts with accounts
    rw [accounts]
    rfl
  obtain ⟨-, account⟩ := ensureAssociatedToken_free done.ensured
  rw [mint] at account
  rw [accounts]
  exact .serves known (.claimProjectReturns done.own held (owed ▸ BitVec.lt_def.mp done.pos) covered account)

/-- What `claim_pool_returns` needs. -/
lemma claimPoolReturns_accepts {a : ClaimPoolReturns K}
    (st : step (g.run as) (.call now (.claimPoolReturns a)) = .ok s') :
    Accepts (g.run as) (.claimPoolReturns a) := by
  have wf := g.run_wf as
  obtain ⟨done, -⟩ := claimPoolReturns_ok.mp (step_call st).2
  have held := done.held
  have listed := State.listing_pool done.own
  obtain ⟨platform, known, -⟩ := g.vault_usdc as listed
  have accounts := ((g.standing as listed known).claimsPool rfl st).accounts
  rw [wf.position_place held done.placed] at held
  have owed : done.owed.toNat = done.position.owed done.pool.cumulativeUsdcPerToken := (claimable_ok done.pays).2
  have covered := Token.Bank.transfer_covered done.paid
  rw [(ensureAssociatedToken_founds done.ensured).1.balance, owed, ← done.vault] at covered
  obtain ⟨total, sum, -⟩ := settlePosition_ok done.settled
  have fits : done.position.totalClaimed.toNat + done.owed.toNat < 2 ^ 64 := sum.symm.trans_lt total.isLt
  rw [owed] at fits
  have mint : a.usdcMint = platform.usdcMint := by
    injection accounts with accounts
    rw [accounts]
    rfl
  obtain ⟨-, account⟩ := ensureAssociatedToken_free done.ensured
  rw [mint] at account
  rw [accounts]
  exact .serves known (.claimPoolReturns done.own held (owed ▸ BitVec.lt_def.mp done.pos) covered fits account)

/-- What `withdraw_investment` needs. -/
lemma withdrawInvestment_accepts {a : WithdrawInvestment K}
    (st : step (g.run as) (.call now (.withdrawInvestment a)) = .ok s') :
    Accepts (g.run as) (.withdrawInvestment a) := by
  have wf := g.run_wf as
  obtain ⟨done, -⟩ := withdrawInvestment_ok.mp (step_call st).2
  have held := done.held
  obtain ⟨srcOwner, srcMint⟩ := done.tokens
  obtain ⟨dstOwner, dstMint⟩ := done.usdc
  have pos := done.pos
  have listed := State.listing_project done.own
  obtain ⟨platform, known, -⟩ := g.vault_usdc as listed
  have place := wf.position_place held done.placed
  rw [place] at held
  have funding : done.project.status = .funding := by
    have live : done.project.status ≠ .cancelled := (g.fund_sound as (State.fund_project done.own)).live
    exact done.status.resolve_right live
  have tokens := Token.Bank.holder_eq done.source
  rw [srcMint, srcOwner, ← done.mint] at tokens
  have holder := Token.Bank.holder_eq done.dest
  rw [dstMint, dstOwner] at holder
  -- the vault is for the platform's USDC, and so is what it refunds
  obtain ⟨usdc, o, source, dest⟩ := Token.Bank.transfer_holders done.refunded
  rw [Token.Bank.burn_holder done.burns, ← done.vault] at source
  rw [Token.Bank.burn_holder done.burns] at dest
  have inVault := (g.standing as listed known).vault
  cases inVault.symm.trans source
  have usdcMint : a.usdcMint = platform.usdcMint := congrArg Prod.fst (Option.some.inj (holder.symm.trans dest))
  rw [usdcMint] at holder
  have covered := Token.Bank.transfer_covered done.refunded
  have spent := Token.Bank.burn_balance done.burns a.usdcVault
  have covered : done.position.tokensHeld.toNat ≤ (g.run as).bank.balance a.usdcVault := by omega
  rw [← done.vault] at covered
  have accounts : a = Client.withdrawal platform.usdcMint a.project done.project a.investor a.investorTokenAta
      a.investorUsdcAta := by
    obtain ⟨_, _, _, _, _, _, _, _⟩ := a
    simp only [Client.withdrawal, WithdrawInvestment.mk.injEq, true_and]
    exact ⟨done.mint.symm, done.vault.symm, place, usdcMint⟩
  rw [accounts]
  exact .serves known (.withdrawInvestment done.own funding held (BitVec.lt_def.mp pos) tokens
    (Token.Bank.burn_covered done.burns) holder covered)

end

/-! ## Filings -/

section
variable {g : Genesis K} {as : List (Action K)} {s' : State K} {now : Int64}

/-- What `register_mrv_project` needs. -/
lemma registerMrvProject_accepts {a : RegisterMrvProject K} {id : U64} {name sector location upgrade : String}
    (st : step (g.run as) (.call now (.registerMrvProject a id name sector location upgrade)) = .ok s') :
    Accepts (g.run as) (.registerMrvProject a id name sector location upgrade) := by
  obtain ⟨done, -⟩ := registerMrvProject_ok.mp (step_call st).2
  obtain ⟨loads, admin, known⟩ := g.loads as done.loaded
  have free := done.vacant
  rw [done.place] at free
  have accounts : a = ⟨Client.platform, done.platform.admin, Client.mrvProject id⟩ := by
    obtain ⟨_, _, _⟩ := a
    simp only [RegisterMrvProject.mk.injEq]
    exact ⟨loads, admin, done.place⟩
  rw [accounts]
  exact .serves known (.registerMrvProject free (fits_of_padInto done.name_fits)
    (fits_of_padInto done.sector_fits) (fits_of_padInto done.location_fits) (fits_of_padInto done.upgrade_fits))

/-- What `add_auditor` needs. -/
lemma addAuditor_accepts {a : AddAuditor K} {name certification : String}
    (st : step (g.run as) (.call now (.addAuditor a name certification)) = .ok s') :
    Accepts (g.run as) (.addAuditor a name certification) := by
  obtain ⟨done, -⟩ := addAuditor_ok.mp (step_call st).2
  obtain ⟨loads, admin, known⟩ := g.loads as done.loaded
  have free := done.vacant
  rw [done.place] at free
  have accounts : a = ⟨Client.platform, done.platform.admin, a.auditorWallet, Client.auditor a.auditorWallet⟩ := by
    obtain ⟨_, _, _, _⟩ := a
    simp only [AddAuditor.mk.injEq, true_and]
    exact ⟨loads, admin, done.place⟩
  rw [accounts]
  exact .serves known (.addAuditor free (fits_of_padInto done.name_fits)
    (fits_of_padInto done.certification_fits))

/-- What `submit_baseline` needs. -/
lemma submitBaseline_accepts {a : SubmitBaseline K} {energy cost co2 : U64} {fuel : String} {hash : Vector U8 32}
    (st : step (g.run as) (.call now (.submitBaseline a energy fuel cost co2 hash)) = .ok s') :
    Accepts (g.run as) (.submitBaseline a energy fuel cost co2 hash) := by
  obtain ⟨signed, h⟩ := step_call st
  obtain ⟨done, -⟩ := submitBaseline_ok.mp h
  obtain ⟨signer, known⟩ := g.files as done.loaded
  have free := done.vacant
  rw [done.place] at free
  have accounts : a = ⟨a.auditorSigner, Client.auditor a.auditorSigner, a.mrvProject,
      Client.baseline a.mrvProject⟩ := by
    obtain ⟨_, _, _, _⟩ := a
    simp only [SubmitBaseline.mk.injEq, true_and]
    exact ⟨signer, done.place⟩
  rw [accounts]
  exact .submitBaseline known (signed _ (.head _)) done.own free
    (fits_of_padInto done.fuel_fits)

/-- What `submit_verification` needs. -/
lemma submitVerification_accepts {a : SubmitVerification K} {index : U8} {start stop : Int64}
    {energy cost co2 : U64} {bps : U16} {hash : Vector U8 32}
    (st : step (g.run as) (.call now (.submitVerification a index start stop energy cost co2 bps hash)) = .ok s') :
    Accepts (g.run as) (.submitVerification a index start stop energy cost co2 bps hash) := by
  obtain ⟨signed, h⟩ := step_call st
  obtain ⟨done, -⟩ := submitVerification_ok.mp h
  have free := done.vacant
  obtain ⟨signer, known⟩ := g.files as done.loaded
  rw [done.place] at free
  have accounts : a = ⟨a.auditorSigner, Client.auditor a.auditorSigner, a.mrvProject,
      Client.verification a.mrvProject index⟩ := by
    obtain ⟨_, _, _, _⟩ := a
    simp only [SubmitVerification.mk.injEq, true_and]
    exact ⟨signer, done.place⟩
  rw [accounts]
  exact .submitVerification known (signed _ (.head _)) done.own done.gate free done.period

/-- What `attest_verification` needs. -/
lemma attestVerification_accepts {a : AttestVerification K}
    (st : step (g.run as) (.call now (.attestVerification a)) = .ok s') :
    Accepts (g.run as) (.attestVerification a) := by
  obtain ⟨signed, h⟩ := step_call st
  obtain ⟨done, -⟩ := attestVerification_ok.mp h
  have own := done.own
  obtain ⟨signer, known⟩ := g.files as done.loaded
  -- a verification is at the address that it names
  obtain ⟨derived, -⟩ := g.opened as .verification a.verification done.verification own
  have derived :
      a.verification = Client.verification done.verification.mrvProject done.verification.index := derived
  obtain ⟨same, -⟩ := Addresses.createProgramAddress_inj (done.placed.symm.trans derived)
  injection same with entry
  have place : a.verification = Client.verification a.mrvProject done.verification.index := by
    rw [derived, entry]
  rw [place] at own
  have accounts : a = ⟨a.auditorSigner, Client.auditor a.auditorSigner, a.mrvProject,
      Client.verification a.mrvProject done.verification.index⟩ := by
    obtain ⟨_, _, _, _⟩ := a
    simp only [AttestVerification.mk.injEq, true_and]
    exact ⟨signer, place⟩
  rw [accounts]
  exact .attestVerification known (signed _ (.head _)) own done.fresh done.author

end

end Exira
