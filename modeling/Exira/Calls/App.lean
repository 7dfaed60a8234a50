import Exira.Calls.Accepted

/-!
# The app

`app/app.js`: the transactions that the page builds for the connected wallet. A form holds numbers, which become
the eight bytes of an id or an amount, or nothing is sent (`Button.read`). Some transactions are built from an
account that was fetched before; whatever the actions of the run do in between, what was read of it still holds
when the transaction arrives. A transaction of the page then goes through exactly for the reasons that its form
shows.
-/

namespace Exira

variable {K : Type} [DecidableEq K] [Addresses K]

/-- `USDC_MINT`, `wallet.publicKey`, and how the browser prints a number -/
structure App (K : Type) where
  usdcMint : K
  wallet : K
  toString : ℚ → String

/-- The buttons of the page, with the numbers that their forms hold: an id or a term is `Number(value)`, an amount
is `Number(value) * 1_000_000`, both as the browser rounds them. -/
inductive Button (K : Type) where
  | registerMrv (id : ℚ) (name : String)
  | addAuditorSelf
  | submitBaseline (id : ℚ)
  | createProjectTx (mrvId pid target term : ℚ) (tokenMintKp : K)
  | activateProjectTx (pid : ℚ)
  | distributeTx (pid amt : ℚ)
  | buyTokensTx (pid amt : ℚ)
  | claimTx (pid : ℚ)
  | withdrawTx (pid : ℚ)

/-- What a button asks for. -/
inductive Request (K : Type) where
  | registerMrv (id : U64) (name : String)
  | addAuditorSelf
  | submitBaseline (id : U64)
  | createProjectTx (mrvId pid target : U64) (term : U8) (tokenMintKp : K)
  | activateProjectTx (pid : U64)
  | distributeTx (pid amt : U64)
  | buyTokensTx (pid amt : U64)
  | claimTx (pid : U64)
  | withdrawTx (pid : U64)

namespace App

/-! ## Numbers -/

/-- The magnitude of a number, without its fraction. -/
def magnitude (n : ℚ) : ℕ :=
  (if n < 0 then -n else n).floor.toNat

/-- `new BN(n)`, written as eight bytes: it takes no number from 2^53 on, and the bytes leave out the sign. -/
def bn (n : ℚ) : Option U64 :=
  if -2 ^ 53 < n ∧ n < 2 ^ 53 then some (BitVec.ofNat 64 (magnitude n)) else none

/-- `usdc`: `Math.round` before `new BN`. -/
def usdc (n : ℚ) : Option U64 :=
  bn (n + 1 / 2).floor

/-- A `u8` argument: the layout takes no number that is out of range. -/
def byte (n : ℚ) : Option U8 :=
  if 0 ≤ n ∧ n ≤ 255 then some (BitVec.ofNat 8 (magnitude n)) else none

/-! ## Addresses -/

/-- The platform's address. -/
def platformPda : K := findProgramAddress .platform

/-- The address of a project. -/
def projectPda (id : U64) : K := findProgramAddress (.project id)

/-- The address of a position. -/
def positionPda (target owner : K) : K := findProgramAddress (.position target owner)

/-- The address of an MRV entry. -/
def mrvPda (id : U64) : K := findProgramAddress (.mrvProject id)

/-- The address of an entry's baseline. -/
def baselinePda (mrv : K) : K := findProgramAddress (.baseline mrv)

/-- The address of an auditor's account. -/
def auditorPda (w : K) : K := findProgramAddress (.auditor w)

/-- `getAssociatedTokenAddressSync` -/
def ata (mint owner : K) : K := associatedToken owner mint

/-! ## Transactions -/

variable (app : App K) (s : State K)

/-- An empty name gets a default. -/
def mrvName (id : ℚ) (name : String) : String :=
  if name = "" then "MSME " ++ app.toString id else name

/-- What a form asks for, unless a number does not fit. -/
def read : Button K → Option (Request K)
  | .registerMrv id name => do
    return .registerMrv (← bn id) (app.mrvName id name)
  | .addAuditorSelf => some .addAuditorSelf
  | .submitBaseline id => do
    return .submitBaseline (← bn id)
  | .createProjectTx mrvId pid target term tokenMintKp => do
    return .createProjectTx (← bn mrvId) (← bn pid) (← usdc target) (← byte term) tokenMintKp
  | .activateProjectTx pid => do
    return .activateProjectTx (← bn pid)
  | .distributeTx pid amt => do
    return .distributeTx (← bn pid) (← usdc amt)
  | .buyTokensTx pid amt => do
    return .buyTokensTx (← bn pid) (← usdc amt)
  | .claimTx pid => do
    return .claimTx (← bn pid)
  | .withdrawTx pid => do
    return .withdrawTx (← bn pid)

/-- Registers an entry with the placeholders of the page. -/
def registerMrv (id : U64) (name : String) : Instruction K :=
  .registerMrvProject ⟨platformPda, app.wallet, mrvPda id⟩ id name "sector" "location" "upgrade_type"

/-- Adds the admin's own wallet as an auditor. -/
def addAuditorSelf : Instruction K :=
  .addAuditor ⟨platformPda, app.wallet, app.wallet, auditorPda app.wallet⟩ "Self Auditor" "BEE_test"

/-- Submits the baseline of the page for an entry. -/
def submitBaseline (id : U64) : Instruction K :=
  .submitBaseline ⟨app.wallet, auditorPda app.wallet, mrvPda id, baselinePda (mrvPda id)⟩ 1000000 "electricity"
    80000000 72700 (Vector.replicate 32 1)

/-- Creates a project with the USDC of the page and a new mint. -/
def createProjectTx (mrvId pid target : U64) (term : U8) (tokenMintKp : K) : Instruction K :=
  .createProject ⟨platformPda, app.wallet, mrvPda mrvId, projectPda pid, tokenMintKp,
    ata app.usdcMint (projectPda pid), app.usdcMint⟩ pid target term

/-- Fetches the platform and the project. -/
def activateProjectTx (pid : U64) : Option (Instruction K) := do
  let platform ← s.platforms.lookup platformPda
  let pData ← s.projects.lookup (projectPda pid)
  return .activateProject ⟨platformPda, app.wallet, projectPda pid, pData.usdcVault,
    ata app.usdcMint platform.treasury, platform.treasury, app.usdcMint⟩

/-- Fetches the project and repays from the wallet's account. -/
def distributeTx (pid amt : U64) : Option (Instruction K) := do
  let pData ← s.projects.lookup (projectPda pid)
  return .distributeRepayment ⟨platformPda, app.wallet, projectPda pid, ata app.usdcMint app.wallet,
    pData.usdcVault, app.usdcMint⟩ amt

/-- Fetches the project and buys with the wallet's account. -/
def buyTokensTx (pid amt : U64) : Option (Instruction K) := do
  let pData ← s.projects.lookup (projectPda pid)
  return .buyProjectTokens ⟨projectPda pid, pData.tokenMint, pData.usdcVault, app.wallet,
    ata app.usdcMint app.wallet, ata pData.tokenMint app.wallet, positionPda (projectPda pid) app.wallet,
    app.usdcMint⟩ amt

/-- Fetches the project and claims into the wallet's account. -/
def claimTx (pid : U64) : Option (Instruction K) := do
  let pData ← s.projects.lookup (projectPda pid)
  return .claimProjectReturns ⟨projectPda pid, pData.usdcVault, app.wallet,
    positionPda (projectPda pid) app.wallet, ata app.usdcMint app.wallet, app.usdcMint⟩

/-- Fetches the project and withdraws all that the wallet holds of it. -/
def withdrawTx (pid : U64) : Option (Instruction K) := do
  let pData ← s.projects.lookup (projectPda pid)
  return .withdrawInvestment ⟨projectPda pid, pData.tokenMint, pData.usdcVault, app.wallet,
    positionPda (projectPda pid) app.wallet, ata pData.tokenMint app.wallet, ata app.usdcMint app.wallet,
    app.usdcMint⟩

/-- The instruction of a request whose accounts are fetched in the state `s`, unless one is missing. -/
def build : Request K → Option (Instruction K)
  | .registerMrv id name => some (app.registerMrv id name)
  | .addAuditorSelf => some app.addAuditorSelf
  | .submitBaseline id => some (app.submitBaseline id)
  | .createProjectTx mrvId pid target term tokenMintKp =>
    some (app.createProjectTx mrvId pid target term tokenMintKp)
  | .activateProjectTx pid => app.activateProjectTx s pid
  | .distributeTx pid amt => app.distributeTx s pid amt
  | .buyTokensTx pid amt => app.buyTokensTx s pid amt
  | .claimTx pid => app.claimTx s pid
  | .withdrawTx pid => app.withdrawTx s pid

/-- What a button sends. -/
def send (b : Button K) : Option (Instruction K) :=
  (app.read b).bind (app.build s)

/-- The transaction of the page goes through: the wallet pays its fee, as a plain wallet does, and the rent. -/
def Lands (now : Int64) (i : Instruction K) : Prop :=
  s.Vacant app.wallet ∧ s.Takes now i

/-! ## What the user sees -/

/-- The wallet is the admin's, and the page is for the platform's USDC. -/
def Admin (platform : Platform K) : Prop :=
  app.wallet = platform.admin ∧ app.usdcMint = platform.usdcMint

/-- The wallet has its associated account of a mint. -/
def Has (mint : K) : Prop :=
  s.bank.holder (ata mint app.wallet) = some (mint, app.wallet)

/-- The wallet's USDC. -/
def balance : ℕ :=
  s.bank.balance (ata app.usdcMint app.wallet)

/-- When a request is granted in the state `s`. -/
def Grants (platform : Platform K) : Request K → Prop
  | .registerMrv id name =>
    app.wallet = platform.admin ∧ s.Vacant (mrvPda id) ∧ Fits name MSME_NAME_LEN
  | .addAuditorSelf => app.wallet = platform.admin ∧ s.Vacant (auditorPda app.wallet)
  | .submitBaseline id =>
    canSign app.wallet = true ∧ auditorPda app.wallet ∈ s.auditors ∧ mrvPda id ∈ s.mrvProjects ∧
      s.Vacant (baselinePda (mrvPda id))
  | .createProjectTx mrvId pid target term tokenMintKp =>
    app.Admin platform ∧
      (∃ entry, s.mrvProjects.lookup (mrvPda mrvId) = some entry ∧ entry.baselineSubmitted = true) ∧
      canSign tokenMintKp = true ∧ s.Vacant tokenMintKp ∧ s.Vacant (projectPda pid) ∧
      s.Vacant (ata app.usdcMint (projectPda pid)) ∧ 0 < target ∧
      (MIN_TERM_MONTHS ≤ term ∧ term ≤ MAX_TERM_MONTHS) ∧
      app.wallet ≠ tokenMintKp
  | .activateProjectTx pid =>
    app.Admin platform ∧ ∃ project, s.projects.lookup (projectPda pid) = some project ∧
      project.status = .funding ∧ project.tokensSold = project.targetAmount ∧
      project.targetAmount.toNat * platform.originationFeeBps.toNat / 10000 ≤ s.bank.balance project.usdcVault ∧
      s.bank.holder (ata app.usdcMint platform.treasury) = some (app.usdcMint, platform.treasury) ∧
      platform.treasury ≠ projectPda pid
  | .distributeTx pid amt =>
    app.Admin platform ∧ ∃ project, s.projects.lookup (projectPda pid) = some project ∧
      (project.status = .active ∨ project.status = .repaying) ∧ 0 < amt.toNat ∧
      project.totalDistributed.toNat + amt.toNat < 2 ^ 64 ∧ app.Has s app.usdcMint ∧ amt.toNat ≤ app.balance s
  | .buyTokensTx pid amt =>
    app.usdcMint = platform.usdcMint ∧ canSign app.wallet = true ∧ s.Free (projectPda pid) app.wallet ∧
      ∃ project, s.projects.lookup (projectPda pid) = some project ∧ project.status = .funding ∧ 0 < amt.toNat ∧
      project.tokensSold.toNat + amt.toNat ≤ project.targetAmount.toNat ∧ app.Has s app.usdcMint ∧
      amt.toNat ≤ app.balance s ∧ s.FreeAta app.wallet project.tokenMint
  | .claimTx pid =>
    app.usdcMint = platform.usdcMint ∧ s.FreeAta app.wallet app.usdcMint ∧
      ∃ project q, s.projects.lookup (projectPda pid) = some project ∧
      s.positions.lookup (positionPda (projectPda pid) app.wallet) = some q ∧
      0 < q.owed project.cumulativeUsdcPerToken ∧
      q.owed project.cumulativeUsdcPerToken ≤ s.bank.balance project.usdcVault
  | .withdrawTx pid =>
    app.usdcMint = platform.usdcMint ∧ app.Has s app.usdcMint ∧
      ∃ project q, s.projects.lookup (projectPda pid) = some project ∧ project.status = .funding ∧
      s.positions.lookup (positionPda (projectPda pid) app.wallet) = some q ∧ 0 < q.tokensHeld.toNat ∧
      app.Has s project.tokenMint ∧ q.tokensHeld.toNat ≤ s.bank.balance (ata project.tokenMint app.wallet) ∧
      q.tokensHeld.toNat ≤ s.bank.balance project.usdcVault

/-- When a button works in the state `s`: the wallet can pay for the transaction, and what the form asks for is
granted. -/
def Works (platform : Platform K) (b : Button K) : Prop :=
  s.Vacant app.wallet ∧ ∃ r, app.read b = some r ∧ app.Grants s platform r

end App

/-! ## One call at a time -/

section
variable {s : State K} {platform : Platform K} {n id target : U64}

/-- When a project is created. -/
lemma Serves.createProject_iff {a : CreateProject K} {term : U8} :
    Serves s platform (.createProject a id target term) ↔ ∃ mrv mint entry,
      a = ⟨Client.platform, platform.admin, mrv, Client.project id, mint,
        platform.client.usdcOf (Client.project id), platform.usdcMint⟩ ∧
      s.mrvProjects.lookup mrv = some entry ∧ entry.baselineSubmitted = true ∧ canSign mint = true ∧
      s.Vacant mint ∧ s.Vacant (Client.project id) ∧ s.Vacant (platform.client.usdcOf (Client.project id)) ∧
      0 < target ∧ (MIN_TERM_MONTHS ≤ term ∧ term ≤ MAX_TERM_MONTHS) ∧ platform.admin ≠ mint := by
  constructor
  · intro h
    cases h with
    | createProject found gate signs freeMint free freeVault pos terms apart =>
      exact ⟨_, _, _, rfl, found, gate, signs, freeMint, free, freeVault, pos, terms, apart⟩
  · rintro ⟨mrv, mint, entry, rfl, found, gate, signs, freeMint, free, freeVault, pos, terms, apart⟩
    exact .createProject found gate signs freeMint free freeVault pos terms apart

/-- When a project is activated. -/
lemma Serves.activateProject_iff {a : ActivateProject K} :
    Serves s platform (.activateProject a) ↔ ∃ p dest project,
      a = platform.client.activation p project dest ∧ s.projects.lookup p = some project ∧
      project.status = .funding ∧ project.tokensSold = project.targetAmount ∧
      project.targetAmount.toNat * platform.originationFeeBps.toNat / 10000 ≤ s.bank.balance project.usdcVault ∧
      s.bank.holder dest = some (platform.usdcMint, platform.treasury) ∧ project.usdcVault ≠ dest := by
  constructor
  · intro h
    cases h with
    | activateProject own status full covered receiver apart =>
      exact ⟨_, _, _, rfl, own, status, full, covered, receiver, apart⟩
  · rintro ⟨p, dest, project, rfl, own, status, full, covered, receiver, apart⟩
    exact .activateProject own status full covered receiver apart

/-- When a repayment goes through. -/
lemma Serves.distributeRepayment_iff {a : DistributeRepayment K} :
    Serves s platform (.distributeRepayment a n) ↔ ∃ p src project,
      a = platform.client.repayment p project src ∧ s.projects.lookup p = some project ∧
      (project.status = .active ∨ project.status = .repaying) ∧ 0 < n.toNat ∧
      project.totalDistributed.toNat + n.toNat < 2 ^ 64 ∧
      s.bank.holder src = some (platform.usdcMint, platform.admin) ∧ n.toNat ≤ s.bank.balance src := by
  constructor
  · intro h
    cases h with
    | distributeRepayment own status pos fits funds enough =>
      exact ⟨_, _, _, rfl, own, status, pos, fits, funds, enough⟩
  · rintro ⟨p, src, project, rfl, own, status, pos, fits, funds, enough⟩
    exact .distributeRepayment own status pos fits funds enough

/-- When a purchase goes through. -/
lemma Serves.buyProjectTokens_iff {a : BuyProjectTokens K} :
    Serves s platform (.buyProjectTokens a n) ↔ ∃ p w src project,
      a = Client.projectSale platform.usdcMint p project w src ∧ s.projects.lookup p = some project ∧
      canSign w = true ∧ s.Free p w ∧ project.status = .funding ∧ 0 < n.toNat ∧
      project.tokensSold.toNat + n.toNat ≤ project.targetAmount.toNat ∧
      s.bank.holder src = some (platform.usdcMint, w) ∧ n.toNat ≤ s.bank.balance src ∧
      s.FreeAta w project.tokenMint := by
  constructor
  · intro h
    cases h with
    | buyProjectTokens own signs free status pos room funds enough account =>
      exact ⟨_, _, _, _, rfl, own, signs, free, status, pos, room, funds, enough, account⟩
  · rintro ⟨p, w, src, project, rfl, own, signs, free, status, pos, room, funds, enough, account⟩
    exact .buyProjectTokens own signs free status pos room funds enough account

/-- When a claim goes through. -/
lemma Serves.claimProjectReturns_iff {a : ClaimProjectReturns K} :
    Serves s platform (.claimProjectReturns a) ↔ ∃ p w project q,
      a = ⟨p, project.usdcVault, w, Client.position p w, associatedToken w platform.usdcMint, platform.usdcMint⟩ ∧
      s.projects.lookup p = some project ∧ s.positions.lookup (Client.position p w) = some q ∧
      0 < q.owed project.cumulativeUsdcPerToken ∧
      q.owed project.cumulativeUsdcPerToken ≤ s.bank.balance project.usdcVault ∧
      s.FreeAta w platform.usdcMint := by
  constructor
  · intro h
    cases h with
    | claimProjectReturns own held pos covered account => exact ⟨_, _, _, _, rfl, own, held, pos, covered, account⟩
  · rintro ⟨p, w, project, q, rfl, own, held, pos, covered, account⟩
    exact .claimProjectReturns own held pos covered account

/-- When a withdrawal goes through. -/
lemma Serves.withdrawInvestment_iff {a : WithdrawInvestment K} :
    Serves s platform (.withdrawInvestment a) ↔ ∃ p w source dest project q,
      a = Client.withdrawal platform.usdcMint p project w source dest ∧ s.projects.lookup p = some project ∧
      project.status = .funding ∧ s.positions.lookup (Client.position p w) = some q ∧ 0 < q.tokensHeld.toNat ∧
      s.bank.holder source = some (project.tokenMint, w) ∧ q.tokensHeld.toNat ≤ s.bank.balance source ∧
      s.bank.holder dest = some (platform.usdcMint, w) ∧
      q.tokensHeld.toNat ≤ s.bank.balance project.usdcVault := by
  constructor
  · intro h
    cases h with
    | withdrawInvestment own status held pos tokens enough receiver covered =>
      exact ⟨_, _, _, _, _, _, rfl, own, status, held, pos, tokens, enough, receiver, covered⟩
  · rintro ⟨p, w, source, dest, project, q, rfl, own, status, held, pos, tokens, enough, receiver, covered⟩
    exact .withdrawInvestment own status held pos tokens enough receiver covered

/-- When an entry is registered. -/
lemma Serves.registerMrvProject_iff {a : RegisterMrvProject K} {name sector location upgrade : String} :
    Serves s platform (.registerMrvProject a id name sector location upgrade) ↔
      a = ⟨Client.platform, platform.admin, Client.mrvProject id⟩ ∧ s.Vacant (Client.mrvProject id) ∧
      Fits name MSME_NAME_LEN ∧ Fits sector SECTOR_LEN ∧ Fits location LOCATION_LEN ∧
      Fits upgrade UPGRADE_TYPE_LEN := by
  constructor
  · intro h
    cases h with
    | registerMrvProject free name_fits sector_fits location_fits upgrade_fits =>
      exact ⟨rfl, free, name_fits, sector_fits, location_fits, upgrade_fits⟩
  · rintro ⟨rfl, free, name_fits, sector_fits, location_fits, upgrade_fits⟩
    exact .registerMrvProject free name_fits sector_fits location_fits upgrade_fits

/-- When an auditor is added. -/
lemma Serves.addAuditor_iff {a : AddAuditor K} {name certification : String} :
    Serves s platform (.addAuditor a name certification) ↔ ∃ w,
      a = ⟨Client.platform, platform.admin, w, Client.auditor w⟩ ∧ s.Vacant (Client.auditor w) ∧
      Fits name AUDITOR_NAME_LEN ∧ Fits certification CERTIFICATION_LEN := by
  constructor
  · intro h
    cases h with
    | addAuditor free name_fits certification_fits => exact ⟨_, rfl, free, name_fits, certification_fits⟩
  · rintro ⟨w, rfl, free, name_fits, certification_fits⟩
    exact .addAuditor free name_fits certification_fits

/-- When a baseline is submitted. -/
lemma Accepts.submitBaseline_iff {a : SubmitBaseline K} {energy cost co2 : U64} {fuel : String}
    {hash : Vector U8 32} : Accepts s (.submitBaseline a energy fuel cost co2 hash) ↔ ∃ w m auditor entry,
      a = ⟨w, Client.auditor w, m, Client.baseline m⟩ ∧ s.auditors.lookup (Client.auditor w) = some auditor ∧
      canSign w = true ∧ s.mrvProjects.lookup m = some entry ∧ s.Vacant (Client.baseline m) ∧
      Fits fuel FUEL_TYPE_LEN := by
  constructor
  · intro h
    cases h with
    | submitBaseline known signs found free fuel_fits =>
      exact ⟨_, _, _, _, rfl, known, signs, found, free, fuel_fits⟩
    | serves known h => cases h
  · rintro ⟨w, m, auditor, entry, rfl, known, signs, found, free, fuel_fits⟩
    exact .submitBaseline known signs found free fuel_fits

end

/-! ## Requests and calls -/

namespace App

section
variable {app : App K} {s : State K} {platform : Platform K} {pid amt : U64} {i : Instruction K}

/-- The texts of the page fit, all but the name. -/
lemma registerMrv_grants {id : U64} {name : String} :
    Serves s platform (app.registerMrv id name) ↔ app.Grants s platform (.registerMrv id name) := by
  have sector : Fits "sector" SECTOR_LEN := by decide +kernel
  have location : Fits "location" LOCATION_LEN := by decide +kernel
  have upgrade : Fits "upgrade_type" UPGRADE_TYPE_LEN := by decide +kernel
  rw [registerMrv, Serves.registerMrvProject_iff, RegisterMrvProject.mk.injEq]
  constructor
  · rintro ⟨⟨-, admin, -⟩, free, name_fits, -⟩
    exact ⟨admin, free, name_fits⟩
  · rintro ⟨admin, free, name_fits⟩
    exact ⟨⟨rfl, admin, rfl⟩, free, name_fits, sector, location, upgrade⟩

/-- The texts of the page fit. -/
lemma addAuditorSelf_grants :
    Serves s platform app.addAuditorSelf ↔ app.Grants s platform .addAuditorSelf := by
  have name : Fits "Self Auditor" AUDITOR_NAME_LEN := by decide +kernel
  have certification : Fits "BEE_test" CERTIFICATION_LEN := by decide +kernel
  rw [addAuditorSelf, Serves.addAuditor_iff]
  constructor
  · rintro ⟨w, accounts, free, -⟩
    obtain ⟨-, admin, rfl, -⟩ := AddAuditor.mk.inj accounts
    exact ⟨admin, free⟩
  · rintro ⟨admin, free⟩
    exact ⟨app.wallet, AddAuditor.mk.injEq .. ▸ ⟨rfl, admin, rfl, rfl⟩, free, name, certification⟩

/-- An auditor's wallet can submit the baseline of the page. -/
lemma submitBaseline_grants {id : U64} :
    Accepts s (app.submitBaseline id) ↔ app.Grants s platform (.submitBaseline id) := by
  have fuel : Fits "electricity" FUEL_TYPE_LEN := by decide +kernel
  rw [submitBaseline, Accepts.submitBaseline_iff]
  constructor
  · rintro ⟨w, m, auditor, entry, accounts, known, signs, found, free, -⟩
    obtain ⟨rfl, -, rfl, -⟩ := SubmitBaseline.mk.inj accounts
    exact ⟨signs, Finmap.mem_of_lookup_eq_some known, Finmap.mem_of_lookup_eq_some found, free⟩
  · rintro ⟨signs, known, found, free⟩
    obtain ⟨auditor, known⟩ := Finmap.mem_iff.mp known
    obtain ⟨entry, found⟩ := Finmap.mem_iff.mp found
    exact ⟨app.wallet, mrvPda id, auditor, entry, rfl, known, signs, found, free, fuel⟩

/-- A project is created for the reasons that the form shows. -/
lemma createProjectTx_grants {mrvId target : U64} {term : U8} {mint : K} :
    Serves s platform (app.createProjectTx mrvId pid target term mint) ↔
      app.Grants s platform (.createProjectTx mrvId pid target term mint) := by
  rw [createProjectTx, Serves.createProject_iff]
  constructor
  · rintro ⟨mrv, mint, entry, accounts, found, gate, signs, freeMint, free, freeVault, pos, terms, apart⟩
    obtain ⟨-, admin, rfl, -, rfl, -, usdc⟩ := CreateProject.mk.inj accounts
    have freeVault : s.Vacant (ata app.usdcMint (projectPda pid)) := usdc ▸ freeVault
    rw [← admin] at apart
    exact ⟨⟨admin, usdc⟩, ⟨entry, found, gate⟩, signs, freeMint, free, freeVault, pos, terms, apart⟩
  · rintro ⟨⟨admin, usdc⟩, ⟨entry, found, gate⟩, signs, freeMint, free, freeVault, pos, terms, apart⟩
    rw [usdc] at freeVault
    rw [admin] at apart
    refine ⟨mrvPda mrvId, mint, entry, ?_, found, gate, signs, freeMint, free, freeVault, pos, terms, apart⟩
    rw [admin, usdc]
    rfl

/-- A repayment goes through for the reasons that the form shows. -/
lemma distributeTx_grants (sent : app.distributeTx s pid amt = some i) :
    Serves s platform i ↔ app.Grants s platform (.distributeTx pid amt) := by
  obtain ⟨project, own, e⟩ := Option.bind_eq_some_iff.mp sent
  cases e
  rw [Serves.distributeRepayment_iff]
  constructor
  · rintro ⟨p, src, project', accounts, own', status, pos, fits, funds, enough⟩
    obtain ⟨-, admin, rfl, rfl, -, usdc⟩ := DistributeRepayment.mk.inj accounts
    have admin : app.wallet = platform.admin := admin
    have usdc : app.usdcMint = platform.usdcMint := usdc
    rw [← admin, ← usdc] at funds
    exact ⟨⟨admin, usdc⟩, project', own', status, pos, fits, funds, enough⟩
  · rintro ⟨⟨admin, usdc⟩, project', own', status, pos, fits, funds, enough⟩
    cases own.symm.trans own'
    refine ⟨projectPda pid, ata app.usdcMint app.wallet, project, ?_, own, status, pos, fits, ?_, enough⟩
    · rw [Client.repayment, admin, usdc]
      rfl
    · rw [← admin, ← usdc]
      exact funds

/-- A purchase goes through for the reasons that the form shows. -/
lemma buyTokensTx_grants (sent : app.buyTokensTx s pid amt = some i) :
    Serves s platform i ↔ app.Grants s platform (.buyTokensTx pid amt) := by
  obtain ⟨project, own, e⟩ := Option.bind_eq_some_iff.mp sent
  cases e
  rw [Serves.buyProjectTokens_iff]
  constructor
  · rintro ⟨p, w, src, project', accounts, own', signs, free, status, pos, room, funds, enough, account⟩
    obtain ⟨rfl, -, -, rfl, rfl, -, -, usdc⟩ := BuyProjectTokens.mk.inj accounts
    rw [← usdc] at funds
    exact ⟨usdc, signs, free, project', own', status, pos, room, funds, enough, account⟩
  · rintro ⟨usdc, signs, free, project', own', status, pos, room, funds, enough, account⟩
    cases own.symm.trans own'
    refine ⟨projectPda pid, app.wallet, ata app.usdcMint app.wallet, project, ?_, own, signs, free, status, pos,
      room, ?_, enough, account⟩
    · rw [Client.projectSale, ← usdc]
      rfl
    · rw [← usdc]
      exact funds

/-- A claim goes through for the reasons that the form shows. -/
lemma claimTx_grants (sent : app.claimTx s pid = some i) :
    Serves s platform i ↔ app.Grants s platform (.claimTx pid) := by
  obtain ⟨project, own, e⟩ := Option.bind_eq_some_iff.mp sent
  cases e
  rw [Serves.claimProjectReturns_iff]
  constructor
  · rintro ⟨p, w, project', q, accounts, own', held, pos, covered, account⟩
    obtain ⟨rfl, -, rfl, -, -, usdc⟩ := ClaimProjectReturns.mk.inj accounts
    rw [← usdc] at account
    exact ⟨usdc, account, project', q, own', held, pos, covered⟩
  · rintro ⟨usdc, account, project', q, own', held, pos, covered⟩
    cases own.symm.trans own'
    rw [usdc] at account
    refine ⟨projectPda pid, app.wallet, project, q, ?_, own, held, pos, covered, account⟩
    rw [← usdc]
    rfl

/-- A withdrawal goes through for the reasons that the form shows. -/
lemma withdrawTx_grants (sent : app.withdrawTx s pid = some i) :
    Serves s platform i ↔ app.Grants s platform (.withdrawTx pid) := by
  obtain ⟨project, own, e⟩ := Option.bind_eq_some_iff.mp sent
  cases e
  rw [Serves.withdrawInvestment_iff]
  constructor
  · rintro ⟨p, w, source, dest, project', q, accounts, own', status, held, pos, tokens, enough, receiver, covered⟩
    obtain ⟨rfl, mint, -, rfl, -, rfl, rfl, usdc⟩ := WithdrawInvestment.mk.inj accounts
    cases own.symm.trans own'
    rw [← usdc] at receiver
    exact ⟨usdc, receiver, project, q, own, status, held, pos, tokens, enough, covered⟩
  · rintro ⟨usdc, receiver, project', q, own', status, held, pos, tokens, enough, covered⟩
    cases own.symm.trans own'
    refine ⟨projectPda pid, app.wallet, ata project.tokenMint app.wallet, ata app.usdcMint app.wallet, project, q,
      ?_, own, status, held, pos, tokens, enough, ?_, covered⟩
    · rw [Client.withdrawal, ← usdc]
      rfl
    · rw [← usdc]
      exact receiver

/-- The wallet pays for what it sends. -/
lemma build_payer {r : Request K} (sent : app.build s r = some i) : i.signers.head? = some app.wallet := by
  cases r with
  | registerMrv | addAuditorSelf | submitBaseline | createProjectTx =>
    cases sent
    rfl
  | activateProjectTx =>
    obtain ⟨_, _, sent⟩ := Option.bind_eq_some_iff.mp sent
    obtain ⟨_, _, e⟩ := Option.bind_eq_some_iff.mp sent
    cases e
    rfl
  | distributeTx | buyTokensTx | claimTx | withdrawTx =>
    obtain ⟨_, _, e⟩ := Option.bind_eq_some_iff.mp sent
    cases e
    rfl

end

section
variable {g : Genesis K} {app : App K} {as : List (Action K)} {platform : Platform K} {i : Instruction K}

/-- A project is activated for the reasons that the form shows. -/
lemma activateProjectTx_grants {pid : U64}
    (known : (g.run as).platforms.lookup Client.platform = some platform)
    (sent : app.activateProjectTx (g.run as) pid = some i) :
    Serves (g.run as) platform i ↔ app.Grants (g.run as) platform (.activateProjectTx pid) := by
  obtain ⟨platform', known', sent⟩ := Option.bind_eq_some_iff.mp sent
  obtain ⟨project, own, e⟩ := Option.bind_eq_some_iff.mp sent
  cases e
  cases known.symm.trans known'
  have vault : project.usdcVault = ata platform.usdcMint (projectPda pid) :=
    ((g.deployed as known).vault (State.listing_project own)).1
  rw [Serves.activateProject_iff]
  constructor
  · rintro ⟨p, dest, project', accounts, own', status, full, covered, receiver, apart⟩
    obtain ⟨-, admin, rfl, -, rfl, -, usdc⟩ := ActivateProject.mk.inj accounts
    cases own.symm.trans own'
    have usdc : app.usdcMint = platform.usdcMint := usdc
    rw [← usdc] at receiver
    refine ⟨⟨admin, usdc⟩, project, own, status, full, covered, receiver, ?_⟩
    -- the treasury's account is the vault when the treasury is the project
    intro same
    apply apart
    rw [vault, same, usdc]
  · rintro ⟨⟨admin, usdc⟩, project', own', status, full, covered, receiver, ne⟩
    cases own.symm.trans own'
    refine ⟨projectPda pid, ata app.usdcMint platform.treasury, project, ?_, own, status, full, covered, ?_, ?_⟩
    · rw [Client.activation, admin, usdc]
      rfl
    · rw [← usdc]
      exact receiver
    · rw [vault, ← usdc]
      intro same
      exact ne (Addresses.associatedToken_inj same).1.symm

/-- The call of a request is accepted when the request is granted. -/
lemma accepts_grants {r : Request K} (known : (g.run as).platforms.lookup Client.platform = some platform)
    (sent : app.build (g.run as) r = some i) :
    Accepts (g.run as) i ↔ app.Grants (g.run as) platform r := by
  have served (kind : i.kind.served = true) : Accepts (g.run as) i ↔ Serves (g.run as) platform i :=
    ⟨fun h => h.served known kind, .serves known⟩
  cases r with
  | registerMrv id name =>
    cases sent
    exact (served rfl).trans registerMrv_grants
  | addAuditorSelf =>
    cases sent
    exact (served rfl).trans addAuditorSelf_grants
  | submitBaseline id =>
    cases sent
    exact submitBaseline_grants
  | createProjectTx mrvId pid target term mint =>
    cases sent
    exact (served rfl).trans createProjectTx_grants
  | activateProjectTx pid =>
    have grants := activateProjectTx_grants known sent
    obtain ⟨_, _, sent⟩ := Option.bind_eq_some_iff.mp sent
    obtain ⟨_, _, e⟩ := Option.bind_eq_some_iff.mp sent
    cases e
    exact (served rfl).trans grants
  | distributeTx pid amt =>
    have grants : Serves (g.run as) platform i ↔ _ := distributeTx_grants sent
    obtain ⟨_, _, e⟩ := Option.bind_eq_some_iff.mp sent
    cases e
    exact (served rfl).trans grants
  | buyTokensTx pid amt =>
    have grants : Serves (g.run as) platform i ↔ _ := buyTokensTx_grants sent
    obtain ⟨_, _, e⟩ := Option.bind_eq_some_iff.mp sent
    cases e
    exact (served rfl).trans grants
  | claimTx pid =>
    have grants : Serves (g.run as) platform i ↔ _ := claimTx_grants sent
    obtain ⟨_, _, e⟩ := Option.bind_eq_some_iff.mp sent
    cases e
    exact (served rfl).trans grants
  | withdrawTx pid =>
    have grants : Serves (g.run as) platform i ↔ _ := withdrawTx_grants sent
    obtain ⟨_, _, e⟩ := Option.bind_eq_some_iff.mp sent
    cases e
    exact (served rfl).trans grants

/-- What was read of a project stays: its mint and its vault. -/
lemma fetch_project (bs : List (Action K)) {k : K} {pData : Project K}
    (own : (g.run as).projects.lookup k = some pData) :
    ∃ pData', (g.run (as ++ bs)).projects.lookup k = some pData' ∧ pData'.tokenMint = pData.tokenMint ∧
      pData'.usdcVault = pData.usdcVault := by
  obtain ⟨pData', own', same⟩ := g.terms_later as bs (κ := .project) own
  exact ⟨pData', own', (congrArg Project.tokenMint same :), (congrArg Project.usdcVault same :)⟩

/-- A request gets later the call that it got before. -/
lemma build_later (bs : List (Action K)) {r : Request K} (sent : app.build (g.run as) r = some i) :
    app.build (g.run (as ++ bs)) r = some i := by
  cases r with
  | registerMrv | addAuditorSelf | submitBaseline | createProjectTx => exact sent
  | activateProjectTx pid =>
    obtain ⟨platform, known, sent⟩ := Option.bind_eq_some_iff.mp sent
    obtain ⟨pData, own, e⟩ := Option.bind_eq_some_iff.mp sent
    obtain ⟨platform', known', same⟩ := g.terms_later as bs (κ := .platform) known
    obtain ⟨pData', own', -, vault⟩ := fetch_project bs own
    have treasury : platform'.treasury = platform.treasury := (congrArg Platform.treasury same :)
    refine Option.bind_eq_some_iff.mpr ⟨platform', known', Option.bind_eq_some_iff.mpr ⟨pData', own', ?_⟩⟩
    rw [vault, treasury]
    exact e
  | distributeTx pid amt =>
    obtain ⟨pData, own, e⟩ := Option.bind_eq_some_iff.mp sent
    obtain ⟨pData', own', -, vault⟩ := fetch_project bs own
    refine Option.bind_eq_some_iff.mpr ⟨pData', own', ?_⟩
    rw [vault]
    exact e
  | buyTokensTx pid amt =>
    obtain ⟨pData, own, e⟩ := Option.bind_eq_some_iff.mp sent
    obtain ⟨pData', own', mint, vault⟩ := fetch_project bs own
    refine Option.bind_eq_some_iff.mpr ⟨pData', own', ?_⟩
    rw [mint, vault]
    exact e
  | claimTx pid =>
    obtain ⟨pData, own, e⟩ := Option.bind_eq_some_iff.mp sent
    obtain ⟨pData', own', -, vault⟩ := fetch_project bs own
    refine Option.bind_eq_some_iff.mpr ⟨pData', own', ?_⟩
    rw [vault]
    exact e
  | withdrawTx pid =>
    obtain ⟨pData, own, e⟩ := Option.bind_eq_some_iff.mp sent
    obtain ⟨pData', own', mint, vault⟩ := fetch_project bs own
    refine Option.bind_eq_some_iff.mpr ⟨pData', own', ?_⟩
    rw [mint, vault]
    exact e

/-- A transaction of the page, whose accounts were fetched in some state of a run, is the one that would be
built from any later state, whatever the actions in between; and in that state it goes through, at any time, if
and only if the button works there. -/
theorem app_transactions (g : Genesis K) (as bs : List (Action K)) (app : App K) {b : Button K} {i : Instruction K}
    (sent : app.send (g.run as) b = some i)
    (known : (g.run (as ++ bs)).platforms.lookup platformPda = some platform) (now : Int64) :
    app.send (g.run (as ++ bs)) b = some i ∧
      (app.Lands (g.run (as ++ bs)) now i ↔ app.Works (g.run (as ++ bs)) platform b) := by
  obtain ⟨r, form, sent⟩ := Option.bind_eq_some_iff.mp sent
  have sent' := build_later bs sent
  refine ⟨Option.bind_eq_some_iff.mpr ⟨r, form, sent'⟩, ?_⟩
  have grants := accepts_grants known sent'
  constructor
  · rintro ⟨plain, -, s', st⟩
    exact ⟨plain, r, form, grants.mp (g.accepts _ st)⟩
  · rintro ⟨plain, r', form', granted⟩
    cases form.symm.trans form'
    have rent : (g.run (as ++ bs)).PaysRent i := by
      intro w payer k _ _
      cases (build_payer sent').symm.trans payer
      exact plain
    exact ⟨plain, rent, g.goes _ (grants.mpr granted) now⟩

end

/-- Project 1 is open for sale; its accounts are fetched, and another investor buys 40 of its 100 tokens. -/
def demoFetched : List (Action Addr) :=
  Client.demoSetup ++ Client.demo.openProject 1 100 12 (.wallet 20) (.wallet 30)

/-- The purchase of the other investor. -/
def demoAhead : List (Action Addr) :=
  [.call 0 (Client.demo.buyProjectTokens 1 (.wallet 20) (.wallet 11) 40)]

/-- The page of another investor. -/
def demo : App Addr :=
  ⟨Client.demo.usdc, .wallet 10, fun n => Nat.repr (magnitude n)⟩

/-- The transaction that was fetched before buys the other 60 tokens. -/
theorem app_transactions_demo : ∃ i platform,
    demo.send (Genesis.blank.run (demoFetched ++ demoAhead)) (.buyTokensTx 1 60) = some i ∧
      (demo.Lands (Genesis.blank.run (demoFetched ++ demoAhead)) 0 i ↔
        demo.Works (Genesis.blank.run (demoFetched ++ demoAhead)) platform (.buyTokensTx 1 60)) := by
  have sent : (demo.send (Genesis.blank.run demoFetched) (.buyTokensTx 1 60)).isSome = true := by decide +kernel
  have known : ((Genesis.blank.run (demoFetched ++ demoAhead)).platforms.lookup platformPda).isSome = true := by
    decide +kernel
  obtain ⟨i, sent⟩ := Option.isSome_iff_exists.mp sent
  obtain ⟨platform, known⟩ := Option.isSome_iff_exists.mp known
  exact ⟨i, platform, app_transactions Genesis.blank demoFetched demoAhead demo sent known 0⟩

end App

end Exira
