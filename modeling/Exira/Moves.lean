import Exira.Instructions.Inversion
import Exira.Move

/-!
# The actions as moves

One lemma for each instruction: a successful call is the move of its effect. Everything
that later proofs use of a handler is in its move. The project handler and the pool handler of a purchase,
a claim and a distribution share what their common parts do.
-/

namespace Exira

open Dividend

variable {K : Type} [DecidableEq K] [Addresses K] {s s' : State K}

/-- A key at an address that the program derives. -/
def Derived (k : K) : Prop :=
  ∃ σ : Seeds K, k = findProgramAddress σ

/-- The invariant of the tables that no fund sees. -/
structure State.Side (s : State K) : Prop where
  platforms : ∀ k platform, s.platforms.lookup k = some platform →
    Derived k ∧ platform.originationFeeBps.toNat ≤ MAX_FEE_BPS.toNat
  links : ∀ k link, s.links.lookup k = some link → Derived k
  mrvProjects : ∀ k mrv, s.mrvProjects.lookup k = some mrv → Derived k
  baselines : ∀ k baseline, s.baselines.lookup k = some baseline → Derived k
  verifications : ∀ k verification, s.verifications.lookup k = some verification → Derived k
  auditors : ∀ k auditor, s.auditors.lookup k = some auditor → Derived k

/-- The invariant of states. -/
structure State.Wf (s : State K) : Prop where
  view : s.view.Wf
  side : s.Side

/-- What a successful action does: a move of the view, and it keeps the other tables' invariant. -/
structure Acts (s : State K) (e : Effect K) (s' : State K) : Prop where
  move : Move s.view e s'.view
  side : s.Side → s'.Side

/-! ## Shared parts -/

/-- The account that is ensured is there. -/
lemma ensureAssociatedToken_founds {k owner mint : K} {b : Token.Bank K}
    (h : ensureAssociatedToken s k owner mint = .ok b) :
    Founds s.bank b ∧ b.holder k = some (mint, owner) := by
  obtain ⟨place, run | ⟨rfl, holder⟩⟩ := ensureAssociatedToken_ok h
  · refine ⟨.initAccount (.inr place) run, ?_⟩
    rw [Token.Bank.initAccount_holder run, if_pos rfl]
  · exact ⟨.refl _, holder⟩

/-- The position that a purchase writes: a settled new one, or the old one with more tokens. -/
lemma View.Wf.purchase (wf : s.view.Wf) {k k₀ w : K} {q : InvestorPosition K} {cumulative : U128}
    {held : U64} {n : ℕ} (signs : canSign w = true) (h : ensurePosition s k k₀ w = .ok q)
    (sum : held.toNat = (openPosition q w k₀ cumulative).tokensHeld.toNat + n) :
    Placed k₀ w k { openPosition q w k₀ cumulative with tokensHeld := held } ∧
      InvestorPosition.holding { openPosition q w k₀ cumulative with tokensHeld := held }
        = Holding.topUp cumulative.toNat n ((s.positions.lookup k).map InvestorPosition.holding) := by
  obtain ⟨key, ⟨free, rfl⟩ | own⟩ := ensurePosition_ok h
  · have opened : openPosition InvestorPosition.zeroed w k₀ cumulative = {
        owner := w
        target := k₀
        tokensHeld := 0
        lastClaimedPerToken := cumulative
        totalClaimed := 0
        bump := findBump (.position k₀ w) } := if_pos rfl
    rw [opened] at sum ⊢
    refine ⟨⟨key, rfl, rfl, rfl, signs⟩, ?_⟩
    simpa [free, Holding.topUp, InvestorPosition.holding] using sum
  · have placed := wf.placed own
    obtain ⟨target, owner⟩ := placed.at_address key
    have opened : openPosition q w k₀ cumulative = q := by
      rw [openPosition, if_neg (ne_default placed.signs)]
    rw [target, owner] at placed
    rw [opened] at sum ⊢
    refine ⟨placed.hold held, ?_⟩
    simp only [own, Option.map_some, Holding.topUp, InvestorPosition.holding, sum]

/-- A position that passes the checks of a claim or an exit is the signer's own in this target. -/
lemma View.Wf.checkedPosition (wf : s.view.Wf) {k k₀ w : K} {q : InvestorPosition K}
    (own : s.positions.lookup k = some q) (seeds : k = createProgramAddress (.position k₀ w) q.bump) :
    Placed k₀ w k q := by
  have placed := wf.placed own
  have key := placed.key
  rw [findProgramAddress] at key
  obtain ⟨e, -⟩ := Addresses.createProgramAddress_inj (key.symm.trans seeds)
  cases e
  exact placed

omit [DecidableEq K] in
/-- The position that a claim writes. -/
lemma settlePosition_placed {k k₀ w : K} {q q' : InvestorPosition K} {cumulative : U128} {owed : U64}
    (placed : Placed k₀ w k q)
    (pays : claimable cumulative q.lastClaimedPerToken q.tokensHeld = .ok owed)
    (h : settlePosition q cumulative owed = .ok q') :
    owed.toNat = q.holding.owed PRECISION.toNat cumulative.toNat ∧ Placed k₀ w k q' ∧
      q'.holding = q.holding.settle PRECISION.toNat cumulative.toNat := by
  obtain ⟨-, value⟩ := claimable_ok pays
  obtain ⟨total, sum, rfl⟩ := settlePosition_ok h
  refine ⟨value, { placed with }, ?_⟩
  simp only [InvestorPosition.holding, Holding.settle, sum, value, Holding.owed, Holding.pending]

/-- A state in which one project was written. -/
lemma Acts.of_project {e : Effect K} {k : K} {p : Project K}
    (mv : Move s.view e {
      listing := Function.update s.view.listing (.project k) (some p.listing)
      positions := s'.positions
      bank := s'.bank })
    (side : s.Side → s'.Side) (projects : s'.projects = s.projects.insert k p)
    (pools : s'.pools = s.pools) : Acts s e s' := by
  rw [← State.listing_insert_project, ← projects, ← pools] at mv
  exact ⟨mv, side⟩

/-- A state in which one pool was written. -/
lemma Acts.of_pool {e : Effect K} {k : K} {p : Pool K}
    (mv : Move s.view e {
      listing := Function.update s.view.listing (.pool k) (some p.listing)
      positions := s'.positions
      bank := s'.bank })
    (side : s.Side → s'.Side) (projects : s'.projects = s.projects)
    (pools : s'.pools = s.pools.insert k p) : Acts s e s' := by
  rw [← State.listing_insert_pool, ← projects, ← pools] at mv
  exact ⟨mv, side⟩

/-! ## Creation -/

/-- A mint and a vault founded for a new target. -/
lemma founds_target {mint payer vault usdc : K} {t : Target K} {σ : Seeds K} {m : Token.Mint K}
    {b b' : Token.Bank K} (signs : canSign mint = true) (seeds : t.key = findProgramAddress σ)
    (layer : σ.layer = some t.layer) (exist : s.bank.mints.lookup usdc = some m)
    (h : initMint s mint payer t.key = .ok b)
    (h' : initAssociatedToken { s with bank := b } vault t.key usdc = .ok b') :
    Founds s.bank b' ∧ s.bank.minter mint = none ∧ s.bank.holder vault = none ∧
      ∀ l : Listing K, l.seeds = σ → l.bump = findBump σ → l.mint = mint → l.vault = vault →
        Listed b' t l := by
  obtain ⟨-, ⟨-, free, -⟩, run⟩ := initMint_ok.mp h
  obtain ⟨place, -, run'⟩ := initAssociatedToken_ok.mp h'
  have founds := Founds.initMint signs run
  have founds' := Founds.initAccount (.inr place) run'
  refine ⟨founds.trans founds', ?_, ?_, ?_⟩
  · rw [Token.Bank.minter, Finmap.lookup_eq_none.mpr free]
    rfl
  · rw [Option.eq_none_iff_forall_not_mem]
    intro x own
    cases (Token.Bank.initAccount_free run').symm.trans (founds.holder own)
  · rintro l rfl bump rfl rfl
    refine ⟨?_, bump, layer, ?_, usdc, m.mintAuthority, place, ?_, ?_⟩
    · rw [bump]
      exact seeds
    · apply founds'.minter
      rw [Token.Bank.initMint_minter run, if_pos rfl]
    · rw [Token.Bank.initAccount_holder run', if_pos rfl]
    · exact founds'.minter (founds.minter (Token.Bank.minter_eq exist))

/-- `create_project` lists a project. -/
lemma createProject_acts {a : CreateProject K} {now : Int64} {id target : U64} {term : U8}
    (signs : canSign a.tokenMint = true) (h : createProject s a now id target term = .ok s') :
    Acts s .quiet s' := by
  obtain ⟨done, rfl⟩ := createProject_ok.mp h
  obtain ⟨vacant, -, -⟩ := done.vacant
  have free : a.project ∉ s.projects := fun mem => vacant (.inr (.inl mem))
  have own := done.loaded.own
  refine Acts.of_project ?_ (fun side => { side with
    platforms := Finmap.forall_insert side.platforms (side.platforms _ done.platform own) }) rfl rfl
  obtain ⟨founds, mint, vault, listed⟩ :=
    founds_target (t := .project a.project) signs done.place rfl done.exist done.mints done.founded
  refine .create ?_ ⟨rfl, rfl, rfl, rfl, rfl⟩ founds (listed _ rfl rfl rfl rfl) mint vault
  simp only [State.view, Finmap.lookup_eq_none.mpr free, Option.map_none]

/-- `create_pool` lists a pool. -/
lemma createPool_acts {a : CreatePool K} {now : Int64} {id target : U64}
    (signs : canSign a.poolTokenMint = true) (h : createPool s a now id target = .ok s') :
    Acts s .quiet s' := by
  obtain ⟨done, rfl⟩ := createPool_ok.mp h
  obtain ⟨vacant, -, -⟩ := done.vacant
  have free : a.pool ∉ s.pools := fun mem => vacant (.inr (.inr (.inl mem)))
  have own := done.loaded.own
  refine Acts.of_pool ?_ (fun side => { side with
    platforms := Finmap.forall_insert side.platforms (side.platforms _ done.platform own) }) rfl rfl
  obtain ⟨founds, mint, vault, listed⟩ :=
    founds_target (t := .pool a.pool) signs done.place rfl done.exist done.mints done.founded
  refine .create ?_ ⟨rfl, rfl, rfl, rfl, rfl⟩ founds (listed _ rfl rfl rfl rfl) mint vault
  simp only [State.view, Finmap.lookup_eq_none.mpr free, Option.map_none]

/-- A pool's project count is not in its listing. -/
lemma addProjectToPool_acts {a : AddProjectToPool K} (h : addProjectToPool s a = .ok s') :
    Acts s .quiet s' := by
  obtain ⟨done, rfl⟩ := addProjectToPool_ok.mp h
  have same : Function.update s.view.listing (.pool a.pool) (some done.pool.listing) = s.view.listing := by
    rw [← State.listing_pool done.own, Function.update_eq_self]
  refine Acts.of_pool (k := a.pool) (p := { done.pool with underlyingProjectCount := _ }) ?_ ?_ rfl rfl
  · show Move s.view .quiet { s.view with
      listing := Function.update s.view.listing (.pool a.pool) (some done.pool.listing) }
    rw [same]
    exact .quiet
  · exact fun side => { side with links := Finmap.forall_insert side.links ⟨_, done.place⟩ }

/-! ## The platform and the registry -/

/-- `initialize_platform` moves nothing. -/
lemma initializePlatform_acts {a : InitializePlatform K} {orig perf hurdle : U16}
    (h : initializePlatform s a orig perf hurdle = .ok s') : Acts s .quiet s' := by
  obtain ⟨done, rfl⟩ := initializePlatform_ok.mp h
  obtain ⟨le, -, -⟩ := done.fees
  exact ⟨.quiet, fun side => { side with
    platforms := Finmap.forall_insert side.platforms ⟨⟨_, done.place⟩, BitVec.le_def.mp le⟩ }⟩

/-- `register_mrv_project` moves nothing. -/
lemma registerMrvProject_acts {a : RegisterMrvProject K} {now : Int64} {id : U64}
    {name sector location upgrade : String}
    (h : registerMrvProject s a now id name sector location upgrade = .ok s') :
    Acts s .quiet s' := by
  obtain ⟨done, rfl⟩ := registerMrvProject_ok.mp h
  exact ⟨.quiet, fun side => { side with
    mrvProjects := Finmap.forall_insert side.mrvProjects ⟨_, done.place⟩ }⟩

/-- `add_auditor` moves nothing. -/
lemma addAuditor_acts {a : AddAuditor K} {now : Int64} {name certification : String}
    (h : addAuditor s a now name certification = .ok s') : Acts s .quiet s' := by
  obtain ⟨done, rfl⟩ := addAuditor_ok.mp h
  exact ⟨.quiet, fun side => { side with
    auditors := Finmap.forall_insert side.auditors ⟨_, done.place⟩ }⟩

/-- `submit_baseline` moves nothing. -/
lemma submitBaseline_acts {a : SubmitBaseline K} {now : Int64} {energy cost co2 : U64}
    {fuel : String} {hash : Vector U8 32}
    (h : submitBaseline s a now energy fuel cost co2 hash = .ok s') : Acts s .quiet s' := by
  obtain ⟨done, rfl⟩ := submitBaseline_ok.mp h
  exact ⟨.quiet, fun side => { side with
    mrvProjects := Finmap.forall_insert side.mrvProjects (side.mrvProjects _ _ done.own)
    baselines := Finmap.forall_insert side.baselines ⟨_, done.place⟩ }⟩

/-- `submit_verification` moves nothing. -/
lemma submitVerification_acts {a : SubmitVerification K} {now start stop : Int64} {index : U8}
    {energy cost co2 : U64} {bps : U16} {hash : Vector U8 32}
    (h : submitVerification s a now index start stop energy cost co2 bps hash = .ok s') :
    Acts s .quiet s' := by
  obtain ⟨done, rfl⟩ := submitVerification_ok.mp h
  exact ⟨.quiet, fun side => { side with
    mrvProjects := Finmap.forall_insert side.mrvProjects (side.mrvProjects _ _ done.own)
    verifications := Finmap.forall_insert side.verifications ⟨_, done.place⟩ }⟩

/-- `attest_verification` moves nothing. -/
lemma attestVerification_acts {a : AttestVerification K} (h : attestVerification s a = .ok s') :
    Acts s .quiet s' := by
  obtain ⟨done, rfl⟩ := attestVerification_ok.mp h
  exact ⟨.quiet, fun side => { side with
    verifications := Finmap.forall_insert side.verifications (side.verifications _ _ done.own) }⟩

/-! ## Purchases -/

/-- `buy_project_tokens` buys for the position. -/
lemma buyProjectTokens_acts (wf : s.Wf) {a : BuyProjectTokens K} {n : U64}
    (signs : canSign a.investor = true) (h : buyProjectTokens s a n = .ok s') :
    Acts s (.own (.project a.project) (.buy a.position n.toNat)) s' := by
  obtain ⟨done, rfl⟩ := buyProjectTokens_ok.mp h
  have paid := done.paid
  have minted := done.minted
  obtain ⟨founds, holder⟩ := ensureAssociatedToken_founds done.ensured
  obtain ⟨placed, holding⟩ := wf.view.purchase signs done.made done.holds
  have sum : Project.listing { done.project with tokensSold := done.sold }
      = { done.project.listing with sold := done.project.listing.sold + n.toNat } := by
    simp only [Project.listing, done.sells]
  refine Acts.of_project ?_ (fun side => { side with }) rfl rfl
  rw [sum]
  rw [← done.vault] at paid
  rw [← done.mint] at minted holder
  exact .buy (State.listing_project done.own) (BitVec.lt_def.mp done.pos) done.status done.room founds paid minted
    holder
    placed holding

/-- `buy_pool_tokens` buys for the position. -/
lemma buyPoolTokens_acts (wf : s.Wf) {a : BuyPoolTokens K} {n : U64}
    (signs : canSign a.investor = true) (h : buyPoolTokens s a n = .ok s') :
    Acts s (.own (.pool a.pool) (.buy a.position n.toNat)) s' := by
  obtain ⟨done, rfl⟩ := buyPoolTokens_ok.mp h
  have paid := done.paid
  have minted := done.minted
  obtain ⟨founds, holder⟩ := ensureAssociatedToken_founds done.ensured
  obtain ⟨placed, holding⟩ := wf.view.purchase signs done.made done.holds
  have sum : Pool.listing { done.pool with tokensSold := done.sold }
      = { done.pool.listing with sold := done.pool.listing.sold + n.toNat } := by
    simp only [Pool.listing, done.sells]
  have funding : done.pool.listing.status = .funding := by
    simp only [Pool.listing, done.status, PoolStatus.toProject]
  refine Acts.of_pool ?_ (fun side => { side with }) rfl rfl
  rw [sum]
  rw [← done.vault] at paid
  rw [← done.mint] at minted holder
  exact .buy (State.listing_pool done.own) (BitVec.lt_def.mp done.pos) funding done.room founds paid minted holder
    placed holding

/-! ## Claims and exits -/

/-- Everything that a successful claim on the position `q` at `k` does: the vault pays `n` to the account
`dest` of the wallet `w`, and `q'` is written. -/
structure Claim (s : State K) (t : Target K) (l : Listing K) (k w dest : K)
    (q q' : InvestorPosition K) (n : U64) (b₀ b₁ : Token.Bank K) : Prop where
  held : s.positions.lookup k = some q
  placed : Placed t.key w k q
  pos : 0 < n.toNat
  owed : n.toNat = q.holding.owed PRECISION.toNat l.index
  founds : Founds s.bank b₀
  holder : ∃ usdc, b₀.holder dest = some (usdc, w)
  paid : b₀.transfer l.vault dest t.key n = .ok b₁
  placed' : Placed t.key w k q'
  holding : q'.holding = q.holding.settle PRECISION.toNat l.index

/-- A claim on a project is a claim. -/
lemma claimProjectReturns_inv (wf : s.Wf) {a : ClaimProjectReturns K}
    (h : claimProjectReturns s a = .ok s') :
    ∃ project q q' n b₀ b₁, s.projects.lookup a.project = some project ∧
      Claim s (.project a.project) project.listing a.position a.investor a.investorUsdcAta q q' n
        b₀ b₁ ∧
      s' = { s with positions := s.positions.insert a.position q', bank := b₁ } := by
  obtain ⟨done, rfl⟩ := claimProjectReturns_ok.mp h
  have paid := done.paid
  obtain ⟨founds, holder⟩ := ensureAssociatedToken_founds done.ensured
  have placed := wf.view.checkedPosition done.held done.placed
  obtain ⟨owed, placed', holding⟩ := settlePosition_placed placed done.pays done.settled
  rw [← done.vault] at paid
  refine ⟨done.project, done.position, done.position', done.owed, done.opened, done.bank, done.own, ?_, rfl⟩
  exact ⟨done.held, placed, BitVec.lt_def.mp done.pos, owed, founds, ⟨_, holder⟩, paid, placed', holding⟩

/-- A claim on a pool is a claim. -/
lemma claimPoolReturns_inv (wf : s.Wf) {a : ClaimPoolReturns K}
    (h : claimPoolReturns s a = .ok s') :
    ∃ pool q q' n b₀ b₁, s.pools.lookup a.pool = some pool ∧
      Claim s (.pool a.pool) pool.listing a.position a.investor a.investorUsdcAta q q' n b₀ b₁ ∧
      s' = { s with positions := s.positions.insert a.position q', bank := b₁ } := by
  obtain ⟨done, rfl⟩ := claimPoolReturns_ok.mp h
  have paid := done.paid
  obtain ⟨founds, holder⟩ := ensureAssociatedToken_founds done.ensured
  have placed := wf.view.checkedPosition done.held done.placed
  obtain ⟨owed, placed', holding⟩ := settlePosition_placed placed done.pays done.settled
  rw [← done.vault] at paid
  refine ⟨done.pool, done.position, done.position', done.owed, done.opened, done.bank, done.own, ?_, rfl⟩
  exact ⟨done.held, placed, BitVec.lt_def.mp done.pos, owed, founds, ⟨_, holder⟩, paid, placed', holding⟩

/-- A claim settles the position. -/
lemma Claim.acts {t : Target K} {l : Listing K} {k w dest : K} {q q' : InvestorPosition K} {n : U64}
    {b₀ b₁ : Token.Bank K} (c : Claim s t l k w dest q q' n b₀ b₁) (own : s.view.listing t = some l) :
    Acts s (.own t (.claim k))
      { s with positions := s.positions.insert k q', bank := b₁ } := by
  obtain ⟨usdc, holder⟩ := c.holder
  refine ⟨?_, fun side => { side with }⟩
  exact .claim own c.held c.pos c.owed c.founds c.paid holder c.placed' c.holding

/-- `claim_project_returns` claims for the position. -/
lemma claimProjectReturns_acts (wf : s.Wf) {a : ClaimProjectReturns K}
    (h : claimProjectReturns s a = .ok s') :
    Acts s (.own (.project a.project) (.claim a.position)) s' := by
  obtain ⟨project, q, q', n, b₀, b₁, own, claim, rfl⟩ := claimProjectReturns_inv wf h
  exact claim.acts (State.listing_project own)

/-- `claim_pool_returns` claims for the position. -/
lemma claimPoolReturns_acts (wf : s.Wf) {a : ClaimPoolReturns K}
    (h : claimPoolReturns s a = .ok s') :
    Acts s (.own (.pool a.pool) (.claim a.position)) s' := by
  obtain ⟨pool, q, q', n, b₀, b₁, own, claim, rfl⟩ := claimPoolReturns_inv wf h
  exact claim.acts (State.listing_pool own)

/-- `withdraw_investment` takes the position out. -/
lemma withdrawInvestment_acts (wf : s.Wf) {a : WithdrawInvestment K}
    (h : withdrawInvestment s a = .ok s') :
    Acts s (.own (.project a.project) (.exit a.position)) s' := by
  obtain ⟨done, rfl⟩ := withdrawInvestment_ok.mp h
  obtain ⟨owner, -⟩ := done.usdc
  have burnt := done.burns
  have refunded := done.refunded
  have placed := wf.view.checkedPosition done.held done.placed
  have holder : s.bank.holder a.investorUsdcAta = some (done.investorUsdcAta.mint, a.investor) := by
    rw [Token.Bank.holder_eq done.dest, owner]
  have rest : Project.listing { done.project with tokensSold := done.sold }
      = { done.project.listing with sold := done.project.listing.sold - done.position.tokensHeld.toNat } := by
    simp only [Project.listing, done.sells]
  refine Acts.of_project ?_ (fun side => { side with }) rfl rfl
  rw [rest]
  rw [← done.mint] at burnt
  rw [← done.vault] at refunded
  exact .exit (State.listing_project done.own) rfl done.status done.held placed (BitVec.lt_def.mp done.pos) burnt
    refunded
    holder

/-! ## Distributions -/

/-- `distribute_repayment` distributes the amount. -/
lemma distributeRepayment_acts {a : DistributeRepayment K} {n : U64}
    (signs : canSign a.admin = true) (h : distributeRepayment s a n = .ok s') :
    Acts s (.own (.project a.project) (.distribute n.toNat)) s' := by
  obtain ⟨done, rfl⟩ := distributeRepayment_ok.mp h
  have paid := done.paid
  obtain ⟨hc, hd⟩ := accumulate_ok done.accrued
  have next : Project.listing { done.project with
        cumulativeUsdcPerToken := done.cumulative
        totalDistributed := done.distributed
        status := if done.project.status = .active then .repaying else done.project.status }
      = { done.project.listing with
        distributed := done.project.listing.distributed + n.toNat
        index := done.project.listing.index + n.toNat * PRECISION.toNat / done.project.listing.sold
        status := Layer.project.repaid done.project.listing.status } := by
    simp only [Project.listing, hc, hd, Layer.repaid, true_and]
  refine Acts.of_project ?_ (fun side => { side with }) rfl rfl
  rw [next]
  rw [← done.vault] at paid
  exact .distribute (State.listing_project done.own) signs (fun _ => done.status) (BitVec.lt_def.mp done.pos)
    (BitVec.lt_def.mp done.sold) paid

/-- `distribute_pool_returns` distributes the amount. -/
lemma distributePoolReturns_acts {a : DistributePoolReturns K} {n : U64}
    (signs : canSign a.admin = true) (h : distributePoolReturns s a n = .ok s') :
    Acts s (.own (.pool a.pool) (.distribute n.toNat)) s' := by
  obtain ⟨done, rfl⟩ := distributePoolReturns_ok.mp h
  have paid := done.paid
  obtain ⟨hc, hd⟩ := accumulate_ok done.accrued
  have next : Pool.listing { done.pool with
        cumulativeUsdcPerToken := done.cumulative
        totalDistributed := done.distributed }
      = { done.pool.listing with
        distributed := done.pool.listing.distributed + n.toNat
        index := done.pool.listing.index + n.toNat * PRECISION.toNat / done.pool.listing.sold
        status := Layer.pool.repaid done.pool.listing.status } := by
    simp only [Pool.listing, hc, hd, Layer.repaid, reduceCtorEq, false_and, if_false]
  refine Acts.of_pool ?_ (fun side => { side with }) rfl rfl
  rw [next]
  rw [← done.vault] at paid
  exact .distribute (State.listing_pool done.own) signs (Layer.repays_pool _) (BitVec.lt_def.mp done.pos)
    (BitVec.lt_def.mp done.sold) paid

/-! ## The admin's project instructions -/

/-- The fee that the handler computes is the one of the effect. -/
lemma State.Wf.activationFee_eq (wf : s.Wf) {a : ActivateProject K} {platform : Platform K}
    {project : Project K} {fee : U64} (loaded : AdminOf s a.platform a.admin platform)
    (own : s.projects.lookup a.project = some project)
    (priced : originationFee project.targetAmount platform.originationFeeBps = .ok fee) :
    s.activationFee a = fee.toNat := by
  have own' := loaded.own
  rw [originationFee_ok priced (wf.side.platforms _ _ own').2]
  simp only [State.activationFee, own, own']

/-- `activate_project` activates the project and pays the fee. -/
lemma activateProject_acts (wf : s.Wf) {a : ActivateProject K} {now : Int64}
    (h : activateProject s a now = .ok s') :
    Acts s (.pay (.project a.project) (.activate (s.activationFee a)) a.treasuryUsdcAta
      (s.activationFee a)) s' := by
  obtain ⟨done, rfl⟩ := activateProject_ok.mp h
  have price := wf.activationFee_eq done.loaded done.own done.priced
  have ne : done.project.usdcVault ≠ a.treasuryUsdcAta := done.vault ▸ done.apart
  have pays : Pays s.bank done.project.usdcVault a.treasuryUsdcAta a.project done.fee.toNat done.bank := by
    rcases payFee_ok done.paid with run | ⟨zero, same⟩
    · exact .inr ⟨done.fee, rfl, done.vault ▸ run⟩
    · exact .inl ⟨congrArg BitVec.toNat zero, same⟩
  refine Acts.of_project ?_ (fun side => { side with }) rfl rfl
  rw [price]
  exact .activate (State.listing_project done.own) rfl done.status (congrArg BitVec.toNat done.full) ne pays

/-- `close_project` closes the project. -/
lemma closeProject_acts {a : CloseProject K} (h : closeProject s a = .ok s') :
    Acts s (.own (.project a.project) .close) s' := by
  obtain ⟨done, rfl⟩ := closeProject_ok.mp h
  refine Acts.of_project ?_ (fun side => { side with }) rfl rfl
  exact .close (State.listing_project done.own) rfl done.status

/-- `withdraw_project_funds` pays the amount out. -/
lemma withdrawProjectFunds_acts {a : WithdrawProjectFunds K} {n : U64}
    (h : withdrawProjectFunds s a n = .ok s') :
    Acts s (.pay (.project a.project) (.payout n.toNat) a.destination n.toNat) s' := by
  obtain ⟨done, rfl⟩ := withdrawProjectFunds_ok.mp h
  have paid := done.paid
  have ne : done.project.usdcVault ≠ a.destination := done.vault ▸ done.apart
  rw [← done.vault] at paid
  refine ⟨?_, fun side => { side with }⟩
  exact .payout (State.listing_project done.own) rfl (BitVec.lt_def.mp done.pos) ne paid

/-! ## All actions -/

/-- A successful instruction does what its effect says. -/
lemma handle_acts (wf : s.Wf) {now : Int64} {i : Instruction K}
    (signs : ∀ k ∈ i.signers, canSign k = true) (h : handle s now i = .ok s') :
    Acts s ((Action.call now i).effect s) s' := by
  cases i with
  | initializePlatform => exact initializePlatform_acts h
  | createProject a => exact createProject_acts (signs a.tokenMint (.tail _ (.head _))) h
  | activateProject => exact activateProject_acts wf h
  | distributeRepayment a => exact distributeRepayment_acts (signs a.admin (.head _)) h
  | closeProject => exact closeProject_acts h
  | createPool a => exact createPool_acts (signs a.poolTokenMint (.tail _ (.head _))) h
  | addProjectToPool => exact addProjectToPool_acts h
  | distributePoolReturns a => exact distributePoolReturns_acts (signs a.admin (.head _)) h
  | withdrawProjectFunds => exact withdrawProjectFunds_acts h
  | buyProjectTokens a => exact buyProjectTokens_acts wf (signs a.investor (.head _)) h
  | claimProjectReturns => exact claimProjectReturns_acts wf h
  | withdrawInvestment => exact withdrawInvestment_acts wf h
  | buyPoolTokens a => exact buyPoolTokens_acts wf (signs a.investor (.head _)) h
  | claimPoolReturns => exact claimPoolReturns_acts wf h
  | registerMrvProject => exact registerMrvProject_acts h
  | addAuditor => exact addAuditor_acts h
  | submitBaseline => exact submitBaseline_acts h
  | submitVerification => exact submitVerification_acts h
  | attestVerification => exact attestVerification_acts h

/-- An outside operation moves what its effect says. -/
lemma handleOutside_move {o : Outside K} {b : Token.Bank K} (h : handleOutside s o = .ok b) :
    Move s.view ((Action.outside o).effect s) { s.view with bank := b } := by
  cases o with
  | transfer =>
    simp only [handleOutside, Except.bind_eq_ok, constraint_eq_ok, cpi_eq_ok, exists_const] at h
    exact .transfer h.1 h.2
  | burn =>
    simp only [handleOutside, Except.bind_eq_ok, constraint_eq_ok, cpi_eq_ok, exists_const] at h
    exact .burn h.1 h.2
  | mintTo =>
    simp only [handleOutside, Except.bind_eq_ok, constraint_eq_ok, cpi_eq_ok, exists_const] at h
    exact .mintTo h.1 h.2
  | createMint =>
    simp only [handleOutside, vacate, Except.bind_eq_ok, constraint_eq_ok, cpi_eq_ok,
      exists_const] at h
    exact .found (.initMint h.1 h.2.2)
  | createAccount =>
    simp only [handleOutside, vacate, Except.bind_eq_ok, constraint_eq_ok, cpi_eq_ok,
      exists_const] at h
    exact .found (.initAccount (.inl h.1) h.2.2)
  | createAssociatedToken =>
    obtain ⟨place, -, run⟩ := initAssociatedToken_ok.mp h
    exact .found (.initAccount (.inr place) run)

/-- A successful action is the move of its effect. -/
theorem step_acts (wf : s.Wf) {a : Action K} (st : step s a = .ok s') :
    Acts s (a.effect s) s' := by
  cases a with
  | call now i =>
    obtain ⟨signs, h⟩ := step_call st
    exact handle_acts wf signs h
  | outside o =>
    obtain ⟨b, h, rfl⟩ := step_outside st
    exact ⟨handleOutside_move h, fun side => { side with }⟩

/-- Every successful action keeps the invariant. -/
theorem State.Wf.step (wf : s.Wf) {a : Action K} (st : step s a = .ok s') : s'.Wf where
  view := (step_acts wf st).move.wf wf.view
  side := (step_acts wf st).side wf.side

end Exira
