import Exira.Refinement

/-!
# Clients

The instructions as a client builds them, with every account at the address that the program derives: the
platform, the project or pool by its id, its vault, positions and associated token accounts. For a claim
these accounts are the only ones that can pass, and `claimProject_ok` and `claimPool_ok` say when such a
claim goes through: when the position is owed something, the vault has it, and no counter overflows.
-/

namespace Exira

variable {K : Type} [Addresses K]

/-! ## Instructions of a client -/

/-- What a client knows of a deployment. -/
structure Client (K : Type) where
  usdc : K
  admin : K
  treasury : K

namespace Client

/-- The platform's address. -/
def platform : K := findProgramAddress .platform

/-- The address of a project. -/
def project (id : U64) : K := findProgramAddress (.project id)

/-- The address of a pool. -/
def pool (id : U64) : K := findProgramAddress (.pool id)

/-- The address of a wallet's position. -/
def position (target wallet : K) : K := findProgramAddress (.position target wallet)

/-- The claim of a wallet on the project at `p`, whose vault holds `usdc`. -/
def claimProject (usdc p vault wallet : K) : Instruction K :=
  .claimProjectReturns ⟨p, vault, wallet, position p wallet, associatedToken wallet usdc, usdc⟩

/-- The accounts of a claim of a wallet on the pool at `p`, whose vault holds `usdc`. -/
def poolClaim (usdc p vault wallet : K) : ClaimPoolReturns K :=
  ⟨p, vault, wallet, position p wallet, associatedToken wallet usdc, usdc⟩

/-- A claim on the pool at `p`. -/
def claimPool (usdc p vault wallet : K) : Instruction K :=
  .claimPoolReturns (poolClaim usdc p vault wallet)

variable (c : Client K)

/-- The USDC account of a wallet, a project or a pool. -/
def usdcOf (owner : K) : K := associatedToken owner c.usdc

/-- The admin initializes the platform. -/
def initializePlatform (originationFeeBps performanceFeeBps hurdleRateBps : U16) : Instruction K :=
  .initializePlatform ⟨platform, c.admin, c.treasury, c.usdc⟩
    originationFeeBps performanceFeeBps hurdleRateBps

/-- The admin creates a pool with its USDC vault. -/
def createPool (id target : U64) (mint : K) : Instruction K :=
  .createPool ⟨platform, c.admin, pool id, mint, c.usdcOf (pool id), c.usdc⟩ id target

/-- The accounts of a purchase in a pool. -/
def poolPurchase (id : U64) (mint wallet : K) : BuyPoolTokens K :=
  ⟨pool id, mint, c.usdcOf (pool id), wallet, c.usdcOf wallet, associatedToken wallet mint,
    position (pool id) wallet, c.usdc⟩

/-- A wallet buys pool tokens from its associated account. -/
def buyPoolTokens (id : U64) (mint wallet : K) (amount : U64) : Instruction K :=
  .buyPoolTokens (c.poolPurchase id mint wallet) amount

/-- The admin pays pool returns from the associated account. -/
def distributePoolReturns (id amount : U64) : Instruction K :=
  .distributePoolReturns ⟨platform, c.admin, pool id, c.usdcOf c.admin, c.usdcOf (pool id), c.usdc⟩
    amount

/-- The admin creates a project with its USDC vault. -/
def createProject (id target : U64) (termMonths : U8) (mrv mint : K) : Instruction K :=
  .createProject ⟨platform, c.admin, mrv, project id, mint, c.usdcOf (project id), c.usdc⟩
    id target termMonths

/-- A wallet buys project tokens from its associated account. -/
def buyProjectTokens (id : U64) (mint wallet : K) (amount : U64) : Instruction K :=
  .buyProjectTokens ⟨project id, mint, c.usdcOf (project id), wallet, c.usdcOf wallet,
    associatedToken wallet mint, position (project id) wallet, c.usdc⟩ amount

/-- A wallet withdraws to its associated account. -/
def withdrawInvestment (id : U64) (mint wallet : K) : Instruction K :=
  .withdrawInvestment ⟨project id, mint, c.usdcOf (project id), wallet, position (project id) wallet,
    associatedToken wallet mint, c.usdcOf wallet, c.usdc⟩

/-- The admin activates a project, with the fee to the treasury's associated account. -/
def activateProject (id : U64) : Instruction K :=
  .activateProject ⟨platform, c.admin, project id, c.usdcOf (project id), c.usdcOf c.treasury,
    c.treasury, c.usdc⟩

/-- The admin pays a repayment from the associated account. -/
def distributeRepayment (id amount : U64) : Instruction K :=
  .distributeRepayment ⟨platform, c.admin, project id, c.usdcOf c.admin, c.usdcOf (project id),
    c.usdc⟩ amount

/-- The admin withdraws a project's funds. -/
def withdrawProjectFunds (id amount : U64) (destination : K) : Instruction K :=
  .withdrawProjectFunds ⟨platform, c.admin, project id, c.usdcOf (project id), destination, c.usdc⟩
    amount

/-- The admin closes a project. -/
def closeProject (id : U64) : Instruction K :=
  .closeProject ⟨platform, c.admin, project id⟩

/-- The admin registers an entry. -/
def registerMrvProject (id : U64) (name : String) : Instruction K :=
  .registerMrvProject ⟨platform, c.admin, findProgramAddress (.mrvProject id)⟩ id name "" "" ""

/-- The admin adds an auditor. -/
def addAuditor (wallet : K) (name : String) : Instruction K :=
  .addAuditor ⟨platform, c.admin, wallet, findProgramAddress (.auditor wallet)⟩ name ""

/-- An auditor submits a baseline. -/
def submitBaseline (id : U64) (wallet : K) : Instruction K :=
  let mrv := findProgramAddress (.mrvProject id)
  .submitBaseline ⟨wallet, findProgramAddress (.auditor wallet), mrv,
    findProgramAddress (.baseline mrv)⟩ 0 "" 0 0 (Vector.replicate 32 0)

/-- The USDC mint and the platform, with `amount` USDC for each of the wallets. -/
def setup (issuer : K) (wallets : List K) (amount : U64) (originationFeeBps : U16) :
    List (Action K) :=
  .outside (.createMint c.usdc (some issuer) none 6) ::
    wallets.flatMap (fun w => [
      .outside (.createAssociatedToken w c.usdc),
      .outside (.mintTo c.usdc (c.usdcOf w) issuer amount)]) ++
    [.call 0 (c.initializePlatform originationFeeBps 0 0)]

/-- A project that is open for sale, with its registry entry and its baseline. -/
def openProject (id target : U64) (termMonths : U8) (mint auditor : K) : List (Action K) := [
  .call 0 (c.registerMrvProject id ""),
  .call 0 (c.addAuditor auditor ""),
  .call 0 (submitBaseline id auditor),
  .call 0 (c.createProject id target termMonths (findProgramAddress (.mrvProject id)) mint)]

/-- A deployment on symbolic addresses. -/
def demo : Client Addr where
  usdc := .wallet 1
  admin := .wallet 0
  treasury := .wallet 2

/-- The deployment with 1000 USDC for the admin and for three investors, wallets 10 to 12. -/
def demoSetup : List (Action Addr) :=
  demo.setup (.wallet 3) [.wallet 0, .wallet 2, .wallet 10, .wallet 11, .wallet 12] 1000 150

/-- Project 1 of the deployment: its target of 100 is sold to two investors, 60 and 40, and it is
activated with a fee of 1. -/
def demoActive : List (Action Addr) :=
  demoSetup ++ demo.openProject 1 100 12 (.wallet 20) (.wallet 30) ++ [
    .call 0 (demo.buyProjectTokens 1 (.wallet 20) (.wallet 10) 60),
    .call 0 (demo.buyProjectTokens 1 (.wallet 20) (.wallet 11) 40),
    .call 0 (demo.activateProject 1)]

/-- A distribution to project 1. -/
def demoRepay (amount : U64) : Action Addr :=
  .call 0 (demo.distributeRepayment 1 amount)

/-- A claim in project 1. -/
def demoClaimProject (wallet : Addr) : Action Addr :=
  .call 0 (claimProject demo.usdc (project 1) (demo.usdcOf (project 1)) wallet)

/-- Pool 1 of the deployment, open for sale up to 1000. -/
def demoPool : List (Action Addr) :=
  demoSetup ++ [.call 0 (demo.createPool 1 1000 (.wallet 21))]

/-- A purchase in pool 1. -/
def demoBuy (wallet : Addr) (amount : U64) : Action Addr :=
  .call 0 (demo.buyPoolTokens 1 (.wallet 21) wallet amount)

/-- A distribution to pool 1. -/
def demoDistribute (amount : U64) : Action Addr :=
  .call 0 (demo.distributePoolReturns 1 amount)

/-- A claim in pool 1. -/
def demoClaim (wallet : Addr) : Action Addr :=
  .call 0 (claimPool demo.usdc (pool 1) (demo.usdcOf (pool 1)) wallet)

end Client

/-- A position's address is that of one wallet in one target. -/
lemma position_inj {p p' w w' : K} (e : Client.position p w = Client.position p' w') : p = p' ∧ w = w' := by
  injection findProgramAddress_inj e with target owner
  exact ⟨target, owner⟩

/-- Different wallets have different positions. -/
lemma position_ne {p w w' : K} (ne : w ≠ w') : Client.position p w ≠ Client.position p w' := by
  intro e
  exact ne (position_inj e).2

/-! ## Claims that go through -/

variable [DecidableEq K] {s : State K}

/-- Accounts of the program are at derived addresses. -/
lemma State.Wf.owned (wf : s.Wf) {k : K} (own : s.Owned k) : Derived k := by
  have entry : ∀ {V : Type} {m : Table K V}, k ∈ m → ∃ v, m.lookup k = some v :=
    fun mem => Option.isSome_iff_exists.mp (Finmap.lookup_isSome.mpr mem)
  obtain mem | mem | mem | mem | mem | mem | mem | mem | mem := own
  · obtain ⟨v, own⟩ := entry mem
    exact (wf.side.platforms k v own).1
  · obtain ⟨v, own⟩ := entry mem
    exact ⟨_, (wf.view.listed (State.listing_project own)).key_find⟩
  · obtain ⟨v, own⟩ := entry mem
    exact ⟨_, (wf.view.listed (State.listing_pool own)).key_find⟩
  · obtain ⟨v, own⟩ := entry mem
    exact wf.side.links k v own
  · obtain ⟨v, own⟩ := entry mem
    exact ⟨_, (wf.view.placed own).key⟩
  · obtain ⟨v, own⟩ := entry mem
    exact wf.side.mrvProjects k v own
  · obtain ⟨v, own⟩ := entry mem
    exact wf.side.baselines k v own
  · obtain ⟨v, own⟩ := entry mem
    exact wf.side.verifications k v own
  · obtain ⟨v, own⟩ := entry mem
    exact wf.side.auditors k v own

/-- So none of them is at an associated address. -/
lemma State.Wf.not_owned_associated (wf : s.Wf) (w m : K) : ¬ s.Owned (associatedToken w m) := by
  intro own
  obtain ⟨σ, e⟩ := wf.owned own
  exact associatedToken_ne_find w m σ e

/-- The position at a wallet's address is the wallet's, in the target of the address. -/
lemma State.Wf.position_of (wf : s.Wf) {p w : K} {q : InvestorPosition K}
    (held : s.positions.lookup (Client.position p w) = some q) : q.target = p ∧ q.owner = w :=
  (wf.view.placed held).at_address rfl

/-- A wallet's position is a holding of its target. -/
lemma State.Wf.holding_of (wf : s.Wf) {p w : K} {q : InvestorPosition K}
    (held : s.positions.lookup (Client.position p w) = some q) :
    (s.view.holdings p).lookup (Client.position p w) = some q.holding := by
  have own := View.lookup_holdings_of (v := s.view) held
  rwa [(wf.position_of held).1] at own

/-- `init_if_needed` of an associated account always succeeds at its address. -/
lemma State.Wf.ensureAssociatedToken_total (wf : s.Wf) {mint w : K} {x : Option K}
    (exist : s.bank.minter mint = some x) :
    ∃ b, ensureAssociatedToken s (associatedToken w mint) w mint = .ok b := by
  unfold ensureAssociatedToken
  split
  · next vacant =>
    obtain ⟨m, own, -⟩ := Option.map_eq_some_iff.mp exist
    have free : s.bank.accounts.lookup (associatedToken w mint) = none := by
      rw [Finmap.lookup_eq_none]
      exact vacant.2.2
    refine ⟨s.bank.put (associatedToken w mint) ⟨mint, w, 0⟩, ?_⟩
    simp only [initAssociatedToken, vacate, Token.Bank.initAccount, Token.Bank.mint,
      Except.bind_eq_ok, constraint_eq_ok, cpi_eq_ok, Except.require_eq_ok, Option.okOr_eq_ok,
      exists_const]
    exact ⟨trivial, vacant, free, m, own, rfl⟩
  · next taken =>
    -- nothing but an account of this owner and mint can be at the address
    have mem : associatedToken w mint ∈ s.bank.accounts := by
      by_contra free
      refine taken ⟨?_, ?_, free⟩
      · exact wf.not_owned_associated w mint
      · intro own
        obtain ⟨m, own⟩ := Option.isSome_iff_exists.mp (Finmap.lookup_isSome.mpr own)
        cases (wf.view.noMint w mint).symm.trans (Token.Bank.minter_eq own)
    obtain ⟨account, own⟩ := Option.isSome_iff_exists.mp (Finmap.lookup_isSome.mpr mem)
    have e := wf.view.associated (Token.Bank.holder_eq own)
    injection e with hm ho
    refine ⟨s.bank, ?_⟩
    simp only [Except.bind_eq_ok, load_eq_ok, constraint_eq_ok, exists_const]
    exact ⟨account, own, hm, ho, trivial, rfl⟩

/-- What a settled position can claim fits. -/
lemma claimable_of {cumulative last : U128} {held : U64} (settled : last.toNat ≤ cumulative.toNat)
    (scaled : held.toNat * (cumulative.toNat - last.toNat) < 2 ^ 128)
    (fits : held.toNat * (cumulative.toNat - last.toNat) / PRECISION.toNat < 2 ^ 64) :
    ∃ owed, claimable cumulative last held = .ok owed := by
  obtain ⟨delta, hd⟩ := BitVec.checkedSub_of_le settled
  have value := (BitVec.checkedSub_eq_some.mp hd).2
  obtain ⟨product, hp⟩ : ∃ product, (held.setWidth 128).checkedMul delta = some product := by
    apply BitVec.checkedMul_of_lt
    rwa [BitVec.toNat_setWidth_widen _ (by decide), value]
  have value' := BitVec.checkedMul_eq_some.mp hp
  rw [BitVec.toNat_setWidth_widen _ (by decide), value] at value'
  obtain ⟨owed, ho⟩ : ∃ owed, (product / PRECISION).tryFrom 64 = some owed := by
    apply BitVec.tryFrom_of_lt
    rwa [BitVec.toNat_udiv, value']
  refine ⟨owed, ?_⟩
  simp only [claimable, Except.bind_eq_ok, Option.okOr_eq_ok]
  exact ⟨delta, hd, product, hp, ho⟩

/-- The common part of the two claims: the account is there or made, the amount is computed, the vault
pays, and the position is settled. -/
lemma State.Wf.payClaim (wf : s.Wf) {t : Target K} {l : Listing K} {q : InvestorPosition K}
    {cumulative : U128} (listed : s.view.listing t = some l)
    (settled : q.lastClaimedPerToken.toNat ≤ cumulative.toNat) (pos : 0 < q.owed cumulative)
    (fits : q.totalClaimed.toNat + q.owed cumulative < 2 ^ 64)
    (covered : q.owed cumulative ≤ s.bank.balance l.vault) :
    ∃ usdc vault m b owed b' q', s.bank.holder l.vault = some (usdc, t.key) ∧
      s.bank.accounts.lookup l.vault = some vault ∧ s.bank.mints.lookup usdc = some m ∧
      ensureAssociatedToken s (associatedToken q.owner usdc) q.owner usdc = .ok b ∧
      claimable cumulative q.lastClaimedPerToken q.tokensHeld = .ok owed ∧ 0 < owed ∧
      owed ≤ vault.amount ∧
      b.transfer l.vault (associatedToken q.owner usdc) t.key owed = .ok b' ∧
      settlePosition q cumulative owed = .ok q' := by
  obtain ⟨usdc, x, -, holder, exist⟩ := (wf.view.listed listed).vault
  obtain ⟨vault, own, -, -⟩ := Token.Bank.holder_eq_some holder
  obtain ⟨m, minted, -⟩ := Option.map_eq_some_iff.mp exist
  obtain ⟨b, ata⟩ := wf.ensureAssociatedToken_total (w := q.owner) exist
  obtain ⟨founds, holder'⟩ := ensureAssociatedToken_founds ata
  have fits' : q.pending cumulative / PRECISION.toNat < 2 ^ 64 := by
    have e : q.owed cumulative = q.pending cumulative / PRECISION.toNat := rfl
    omega
  have scaled : q.pending cumulative < 2 ^ 128 := by
    have lt := Nat.lt_mul_of_div_lt fits' (by decide)
    exact lt.trans_le (by decide)
  obtain ⟨owed, pays⟩ := claimable_of settled scaled fits'
  have value : owed.toNat = q.owed cumulative := (claimable_ok pays).2
  have balance := Token.Bank.balance_eq own
  obtain ⟨b', paid⟩ := Token.Bank.transfer_ok (founds.sound wf.view.sound)
    (founds.holder holder) holder' (n := owed) (by rw [founds.balance, value]; exact covered)
  obtain ⟨total, sum⟩ := BitVec.checkedAdd_of_lt (value ▸ fits)
  have pos' : 0 < owed.toNat := by omega
  have le' : owed.toNat ≤ vault.amount.toNat := by
    have balance : s.bank.balance l.vault = vault.amount.toNat := balance
    omega
  have settles : settlePosition q cumulative owed
      = .ok { q with lastClaimedPerToken := cumulative, totalClaimed := total } := by
    rw [settlePosition, sum]
    rfl
  exact ⟨usdc, vault, m, b, owed, b', _, holder, own, minted, ata, pays, BitVec.lt_def.mpr pos',
    BitVec.le_def.mpr le', paid, settles⟩

/-- A vault is no position. -/
lemma Listed.vault_ne_position {b : Token.Bank K} {t : Target K} {l : Listing K} (h : Listed b t l)
    (p w : K) : l.vault ≠ Client.position p w := by
  obtain ⟨usdc, -, place, -⟩ := h.vault
  rw [place]
  exact associatedToken_ne_find _ _ _

/-- The account of a wallet is not the vault of a target. -/
lemma Listed.vault_ne_ata {b : Token.Bank K} {t : Target K} {l : Listing K} (h : Listed b t l) {w : K}
    (signs : canSign w = true) (usdc : K) : l.vault ≠ associatedToken w usdc := by
  intro e
  obtain ⟨m, -, place, -⟩ := h.vault
  rw [e] at place
  have owner := (Addresses.associatedToken_inj place).1
  rw [owner, h.key, Addresses.not_canSign_program] at signs
  cases signs

/-- The accounts of a claim on a position are derived, and distinct. -/
lemma State.Wf.claim_accounts (wf : s.Wf) {t : Target K} {l : Listing K} {p k : K} {q : InvestorPosition K}
    (listed : s.view.listing t = some l) (held : s.positions.lookup k = some q) (target : q.target = p) :
    k = createProgramAddress (.position p q.owner) q.bump ∧ Client.position p q.owner = k ∧
      ∀ usdc, [l.vault, k, associatedToken q.owner usdc].Nodup := by
  subst target
  have placed := wf.view.placed held
  have place : Client.position q.target q.owner = k := placed.key.symm
  refine ⟨?_, place, ?_⟩
  · rw [placed.bump]
    exact placed.key
  · intro usdc
    have listed := wf.view.listed listed
    have apart := listed.vault_ne_position q.target q.owner
    have apart' := listed.vault_ne_ata placed.signs usdc
    have apart'' := associatedToken_ne_find q.owner usdc (.position q.target q.owner)
    rw [← place]
    simp only [List.nodup_cons, List.mem_cons, List.not_mem_nil, or_false, not_or, not_false_iff,
      List.nodup_nil, and_true]
    exact ⟨⟨apart, apart'⟩, apart''.symm⟩

/-- A project claim at the derived accounts that the vault covers goes through. -/
theorem claimProject_ok (wf : s.Wf) {p k : K} {project : Project K} {q : InvestorPosition K}
    (own : s.projects.lookup p = some project) (held : s.positions.lookup k = some q)
    (target : q.target = p)
    (settled : q.lastClaimedPerToken.toNat ≤ project.cumulativeUsdcPerToken.toNat)
    (pos : 0 < q.owed project.cumulativeUsdcPerToken)
    (fits : q.totalClaimed.toNat + q.owed project.cumulativeUsdcPerToken < 2 ^ 64)
    (covered : q.owed project.cumulativeUsdcPerToken ≤ s.bank.balance project.usdcVault) :
    ∃ usdc, s.bank.holder project.usdcVault = some (usdc, p) ∧ ∀ now, ∃ s',
      step s (.call now (Client.claimProject usdc p project.usdcVault q.owner)) = .ok s' := by
  have listed := State.listing_project own
  have placed := wf.view.placed held
  obtain ⟨usdc, vault, m, b, owed, b', q', holder, found, minted, ata, pays, pos', le, paid, settles⟩ :=
    wf.payClaim listed settled pos fits covered
  have key := (wf.view.listed listed).key
  obtain ⟨seeds, rfl, distinct⟩ := wf.claim_accounts listed held target
  refine ⟨usdc, holder, ?_⟩
  intro now
  have signed : ∀ w ∈ (Client.claimProject usdc p project.usdcVault q.owner).signers, canSign w = true := by
    simpa [Client.claimProject, Instruction.signers] using placed.signs
  refine ⟨_, step_of_handle signed (claimProjectReturns_ok.mpr ⟨{
    project, own, seeds := key, vault := rfl, usdcVault := vault, inVault := found, position := q
    held, placed := seeds, owner := rfl, target, mint := m, exist := minted
    opened := b, ensured := ata, distinct := distinct usdc, owed, pays, pos := pos', covered := le
    bank := b', paid, position' := q', settled := settles }, rfl⟩)⟩

/-- A pool claim at the derived accounts that the vault covers goes through. -/
theorem claimPool_ok (wf : s.Wf) {p k : K} {pool : Pool K} {q : InvestorPosition K}
    (own : s.pools.lookup p = some pool) (held : s.positions.lookup k = some q)
    (target : q.target = p)
    (settled : q.lastClaimedPerToken.toNat ≤ pool.cumulativeUsdcPerToken.toNat)
    (pos : 0 < q.owed pool.cumulativeUsdcPerToken)
    (fits : q.totalClaimed.toNat + q.owed pool.cumulativeUsdcPerToken < 2 ^ 64)
    (covered : q.owed pool.cumulativeUsdcPerToken ≤ s.bank.balance pool.usdcVault) :
    ∃ usdc, s.bank.holder pool.usdcVault = some (usdc, p) ∧ ∀ now, ∃ s',
      step s (.call now (Client.claimPool usdc p pool.usdcVault q.owner)) = .ok s' := by
  have listed := State.listing_pool own
  have placed := wf.view.placed held
  obtain ⟨usdc, vault, m, b, owed, b', q', holder, found, minted, ata, pays, pos', le, paid, settles⟩ :=
    wf.payClaim listed settled pos fits covered
  have key := (wf.view.listed listed).key
  obtain ⟨seeds, rfl, distinct⟩ := wf.claim_accounts listed held target
  refine ⟨usdc, holder, ?_⟩
  intro now
  have signed : ∀ w ∈ (Client.claimPool usdc p pool.usdcVault q.owner).signers, canSign w = true := by
    simpa [Client.claimPool, Client.poolClaim, Instruction.signers] using placed.signs
  refine ⟨_, step_of_handle signed (claimPoolReturns_ok.mpr ⟨{
    pool, own, seeds := key, vault := rfl, usdcVault := vault, inVault := found, position := q
    held, placed := seeds, owner := rfl, target, mint := m, exist := minted
    opened := b, ensured := ata, distinct := distinct usdc, owed, pays, pos := pos', covered := le
    bank := b', paid, position' := q', settled := settles }, rfl⟩)⟩

/-! ## The platform -/

/-- The admin of the platform, once it is initialized. -/
def State.admin (s : State K) : Option K :=
  (s.platforms.lookup Client.platform).map Platform.admin

/-- The platform account of an admin instruction is the one of the program, and its admin signs. -/
lemma State.Side.platform {s : State K} (side : s.Side) {k w : K} {platform : Platform K}
    (h : AdminOf s k w platform) :
    k = Client.platform ∧ s.platforms.lookup Client.platform = some platform ∧ s.admin = some w := by
  obtain ⟨own, seeds, rfl⟩ := h
  obtain ⟨σ, e⟩ := (side.platforms k platform own).1
  obtain ⟨rfl, -⟩ := Addresses.createProgramAddress_inj (seeds.symm.trans e)
  have place : k = Client.platform := e
  rw [place] at own
  exact ⟨place, own, by rw [State.admin, own]; rfl⟩

end Exira
