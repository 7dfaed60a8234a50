import Exira.Calls.Needed
import Exira.Mrv.Registry
import Exira.Pool.Arithmetic
import Exira.Project.Claims
import Exira.Refusals.Possible

/-!
# Calls that are accepted

In a reachable state a call goes through exactly when it is accepted (`calls_accepted`). What an instruction
checks beyond `Accepts` never fails there: an account is at the address of its own seeds and bump, its vault and
its mint are those that it names and no two of the accounts are one, an index or a product of the fee or of a
claim fits, and the token program is paid.
-/

namespace Exira

variable {K : Type} [DecidableEq K] [Addresses K]

/-- The instructions that a deployment serves. -/
def InstructionKind.served : InstructionKind → Bool
  | initializePlatform | submitBaseline | submitVerification | attestVerification => false
  | _ => true

section
variable {s : State K} {platform : Platform K}

/-- The platform of an accepted call is the one that there is. -/
lemma Accepts.served {i : Instruction K} (known : s.platforms.lookup Client.platform = some platform)
    (h : Accepts s i) (kind : i.kind.served = true) : Serves s platform i := by
  cases h with
  | serves known' h =>
    cases known.symm.trans known'
    exact h
  | _ => cases kind

end

section
variable {g : Genesis K} {as : List (Action K)} {platform : Platform K} {k w : K}

/-! ## Accounts at their addresses -/

/-- An account is at the address that its seeds and its bump derive. -/
lemma Genesis.derives (g : Genesis K) (as : List (Action K)) (κ : SeedKind) {r : κ.Record K}
    (own : ((g.run as).table κ).lookup k = some r) : k = createProgramAddress (κ.seeds r) (κ.bump r) := by
  obtain ⟨place, x, -, opens⟩ := g.opened as κ k r own
  have bump : κ.bump r = findBump (κ.seeds r) := by
    cases e : x.2 with
    | outside o => rw [e] at opens; cases opens
    | call now i =>
      rw [e] at opens
      obtain ⟨-, bump, -⟩ := Instruction.record_place opens
      rwa [SeedKind.bump_terms, SeedKind.seeds_terms] at bump
  rw [bump]
  exact place

/-- A registered auditor is let in when it signs. -/
lemma Genesis.auditorOf (g : Genesis K) (as : List (Action K)) {auditor : Auditor K}
    (known : (g.run as).auditors.lookup (Client.auditor w) = some auditor) :
    AuditorOf (g.run as) (Client.auditor w) w auditor := by
  have derived : Client.auditor w = createProgramAddress (.auditor auditor.wallet) auditor.bump :=
    g.derives as .auditor known
  obtain ⟨place, active⟩ := g.auditor as known
  obtain ⟨same, -⟩ := Addresses.createProgramAddress_inj place
  injection same with wallet
  rw [← wallet] at derived
  exact ⟨known, derived, active, wallet.symm⟩

/-- A text that fits is padded. -/
lemma padInto_of_fits {n : ℕ} {x : String} (fits : Fits x n) : ∃ v, padInto n x = .ok v := by
  simp only [padInto, Except.bind_eq_ok, require_eq_ok, exists_const]
  exact ⟨_, fits, rfl⟩

/-- The mint of the platform's USDC is there. -/
lemma Genesis.usdc_mint (g : Genesis K) (as : List (Action K))
    (known : (g.run as).platforms.lookup Client.platform = some platform) :
    ∃ mint, (g.run as).bank.mints.lookup platform.usdcMint = some mint := by
  obtain ⟨x, exist⟩ := (g.platform_sound as platform known).usdc
  obtain ⟨mint, found, -⟩ := Option.map_eq_some_iff.mp exist
  exact ⟨mint, found⟩

/-- Nobody else has the associated account of a wallet: it is to be made, or it is there and the wallet's. -/
lemma Genesis.free_ata (g : Genesis K) (as : List (Action K)) (w : K) {m : K} {x : Option K}
    (minted : (g.run as).bank.minter m = some x) : (g.run as).FreeAta w m := by
  obtain ⟨b, ensured⟩ := (g.run_wf as).ensureAssociatedToken_total (w := w) minted
  exact (ensureAssociatedToken_free ensured).2

/-! ## Calls that go through -/

/-- A project joins a pool with room, once. -/
lemma addProjectToPool_goes (g : Genesis K) (as : List (Action K)) {p q : K} {pool : Pool K} {project : Project K}
    (known : (g.run as).platforms.lookup Client.platform = some platform)
    (own : (g.run as).pools.lookup p = some pool) (member : (g.run as).projects.lookup q = some project)
    (free : (g.run as).Vacant (Client.poolLink p q)) (room : pool.underlyingProjectCount < MAX_POOL_PROJECTS_V1)
    (now : Int64) : ∃ s', step (g.run as) (.call now (.addProjectToPool
      ⟨Client.platform, platform.admin, p, q, Client.poolLink p q⟩)) = .ok s' := by
  have deployed := g.deployed as known
  refine ⟨_, step_of_handle ?_ (addProjectToPool_ok.mpr ⟨{
    platform
    loaded := deployed.loaded
    pool
    own
    seeds := g.derives as .pool own
    project
    member
    seeds' := g.derives as .project member
    place := rfl
    vacant := free
    room }, rfl⟩)⟩
  exact List.forall_mem_singleton.mpr deployed.signs

/-- A client is registered when its texts fit. -/
lemma registerMrvProject_goes (g : Genesis K) (as : List (Action K)) {id : U64}
    {name sector location upgrade : String} (known : (g.run as).platforms.lookup Client.platform = some platform)
    (free : (g.run as).Vacant (Client.mrvProject id)) (name_fits : Fits name MSME_NAME_LEN)
    (sector_fits : Fits sector SECTOR_LEN) (location_fits : Fits location LOCATION_LEN)
    (upgrade_fits : Fits upgrade UPGRADE_TYPE_LEN) (now : Int64) :
    ∃ s', step (g.run as) (.call now (.registerMrvProject
      ⟨Client.platform, platform.admin, Client.mrvProject id⟩ id name sector location upgrade)) = .ok s' := by
  have deployed := g.deployed as known
  obtain ⟨name, name_fits⟩ := padInto_of_fits name_fits
  obtain ⟨sector, sector_fits⟩ := padInto_of_fits sector_fits
  obtain ⟨location, location_fits⟩ := padInto_of_fits location_fits
  obtain ⟨upgrade, upgrade_fits⟩ := padInto_of_fits upgrade_fits
  refine ⟨_, step_of_handle ?_ (registerMrvProject_ok.mpr ⟨{
    platform
    loaded := deployed.loaded
    place := rfl
    vacant := free
    msmeName := name
    name_fits
    sectorText := sector
    sector_fits
    locationText := location
    location_fits
    upgradeType := upgrade
    upgrade_fits }, rfl⟩)⟩
  exact List.forall_mem_singleton.mpr deployed.signs

/-- An auditor is filed when its texts fit. -/
lemma addAuditor_goes (g : Genesis K) (as : List (Action K)) {name certification : String}
    (known : (g.run as).platforms.lookup Client.platform = some platform)
    (free : (g.run as).Vacant (Client.auditor w)) (name_fits : Fits name AUDITOR_NAME_LEN)
    (certification_fits : Fits certification CERTIFICATION_LEN) (now : Int64) :
    ∃ s', step (g.run as) (.call now (.addAuditor
      ⟨Client.platform, platform.admin, w, Client.auditor w⟩ name certification)) = .ok s' := by
  have deployed := g.deployed as known
  obtain ⟨name, name_fits⟩ := padInto_of_fits name_fits
  obtain ⟨certification, certification_fits⟩ := padInto_of_fits certification_fits
  refine ⟨_, step_of_handle ?_ (addAuditor_ok.mpr ⟨{
    platform
    loaded := deployed.loaded
    place := rfl
    vacant := free
    nameText := name
    name_fits
    certificationText := certification
    certification_fits }, rfl⟩)⟩
  exact List.forall_mem_singleton.mpr deployed.signs

section
variable {m : K} {auditor : Auditor K} {entry : MrvProject} {energy cost co2 : U64} {hash : Vector U8 32}

/-- A baseline can be filed where there is none. -/
lemma submitBaseline_goes (g : Genesis K) (as : List (Action K)) {fuel : String}
    (known : (g.run as).auditors.lookup (Client.auditor w) = some auditor) (signs : canSign w = true)
    (found : (g.run as).mrvProjects.lookup m = some entry) (free : (g.run as).Vacant (Client.baseline m))
    (fuel_fits : Fits fuel FUEL_TYPE_LEN) (now : Int64) :
    ∃ s', step (g.run as) (.call now (.submitBaseline ⟨w, Client.auditor w, m, Client.baseline m⟩ energy fuel
      cost co2 hash)) = .ok s' := by
  obtain ⟨fuel, fuel_fits⟩ := padInto_of_fits fuel_fits
  refine ⟨_, step_of_handle ?_ (submitBaseline_ok.mpr ⟨{
    auditor
    loaded := g.auditorOf as known
    mrvProject := entry
    own := found
    seeds := g.derives as .mrvProject found
    place := rfl
    vacant := free
    first := g.first_baseline as found free
    fuelType := fuel
    fuel_fits }, rfl⟩)⟩
  exact List.forall_mem_singleton.mpr signs

/-- An active auditor files a verification at a free index. -/
lemma submitVerification_goes (g : Genesis K) (as : List (Action K)) {index : U8} {start stop : Int64} {bps : U16}
    (known : (g.run as).auditors.lookup (Client.auditor w) = some auditor) (signs : canSign w = true)
    (found : (g.run as).mrvProjects.lookup m = some entry) (gate : entry.baselineSubmitted = true)
    (free : (g.run as).Vacant (Client.verification m index)) (period : start < stop) (now : Int64) :
    ∃ s', step (g.run as) (.call now (.submitVerification ⟨w, Client.auditor w, m, Client.verification m index⟩
      index start stop energy cost co2 bps hash)) = .ok s' := by
  refine ⟨_, step_of_handle ?_ (submitVerification_ok.mpr ⟨{
    auditor
    loaded := g.auditorOf as known
    mrvProject := entry
    own := found
    seeds := g.derives as .mrvProject found
    place := rfl
    vacant := free
    gate
    period }, rfl⟩)⟩
  exact List.forall_mem_singleton.mpr signs

/-- A verification is attested by its author, once. -/
lemma attestVerification_goes (g : Genesis K) (as : List (Action K)) {index : U8} {v : Verification K}
    (known : (g.run as).auditors.lookup (Client.auditor w) = some auditor) (signs : canSign w = true)
    (found : (g.run as).verifications.lookup (Client.verification m index) = some v) (fresh : v.attested = false)
    (author : v.auditor = w) (now : Int64) :
    ∃ s', step (g.run as) (.call now (.attestVerification
      ⟨w, Client.auditor w, m, Client.verification m index⟩)) = .ok s' := by
  have derived : Client.verification m index = createProgramAddress (.verification v.mrvProject v.index) v.bump :=
    g.derives as .verification found
  obtain ⟨same, -⟩ := Addresses.createProgramAddress_inj derived
  injection same with about
  obtain ⟨-, entry, listed, -⟩ := (g.registry_wf as).verification _ v found
  rw [← about] at listed derived
  refine ⟨_, step_of_handle ?_ (attestVerification_ok.mpr ⟨{
    auditor
    loaded := g.auditorOf as known
    mrvProject := entry
    entry := listed
    seeds := g.derives as .mrvProject listed
    verification := v
    own := found
    placed := derived
    fresh
    author }, rfl⟩)⟩
  exact List.forall_mem_singleton.mpr signs

end

/-- A platform is made at its free address. -/
lemma initializePlatform_goes (g : Genesis K) (as : List (Action K)) {c : Client K} {orig perf hurdle : U16}
    (free : (g.run as).Vacant Client.platform) (signs : canSign c.admin = true)
    (exist : c.usdc ∈ (g.run as).bank.mints)
    (fees : orig ≤ MAX_FEE_BPS ∧ perf ≤ MAX_FEE_BPS ∧ hurdle ≤ MAX_FEE_BPS) (now : Int64) :
    ∃ s', step (g.run as) (.call now (c.initializePlatform orig perf hurdle)) = .ok s' := by
  obtain ⟨mint, found⟩ := Finmap.mem_iff.mp exist
  refine ⟨_, step_of_handle ?_ (initializePlatform_ok.mpr ⟨{
    place := rfl
    vacant := free
    mint
    exist := found
    fees }, rfl⟩)⟩
  exact List.forall_mem_singleton.mpr signs

/-! ## What is served goes through -/

/-- A call that the deployment serves goes through. -/
lemma Genesis.serve (g : Genesis K) (as : List (Action K))
    (known : (g.run as).platforms.lookup Client.platform = some platform) {i : Instruction K}
    (h : Serves (g.run as) platform i) (now : Int64) : ∃ s', step (g.run as) (.call now i) = .ok s' := by
  have wf := g.run_wf as
  have places := g.places as
  have deployed := g.deployed as known
  obtain ⟨mint, exist⟩ := g.usdc_mint as known
  cases h with
  | createProject found gate signs freeMint free freeVault pos terms paid =>
    exact createProject_goes deployed found gate exist free signs paid freeMint freeVault pos terms now
  | activateProject own status full covered receiver apart =>
    have vault := (g.standing as (State.listing_project own) known).vault
    exact activate_goes wf places deployed own vault status full covered receiver apart now
  | distributeRepayment own status pos fits funds enough =>
    have vault := (g.standing as (State.listing_project own) known).vault
    have sold := BitVec.lt_def.mp (g.sold_of_started as own status)
    exact distributeProject_goes wf places deployed own vault status pos sold (g.index_room as own _ _) fits funds
      enough now
  | closeProject own status => exact closeProject_goes wf deployed own status now
  | createPool signs freeMint free freeVault pos paid =>
    exact createPool_goes deployed exist free signs paid freeMint freeVault pos now
  | addProjectToPool own member free room => exact addProjectToPool_goes g as known own member free room now
  | distributePoolReturns own pos sold fits funds enough =>
    have vault := (g.standing as (State.listing_pool own) known).vault
    exact distributePool_goes wf places deployed own vault pos sold (g.pool_index_room as own _ _) fits funds
      enough now
  | withdrawProjectFunds own pos covered receiver apart =>
    have vault := (g.standing as (State.listing_project own) known).vault
    exact payout_goes wf places deployed own vault pos covered receiver apart now
  | buyProjectTokens own signs free status pos room funds enough =>
    have standing := g.standing as (State.listing_project own) known
    exact buyProject_goes wf places own standing.sound standing.minted standing.vault signs free status pos room
      funds enough now
  | claimProjectReturns own held pos covered =>
    have vault := (g.standing as (State.listing_project own) known).vault
    obtain ⟨target, owner⟩ := wf.position_of held
    obtain ⟨settled, fits⟩ := g.claims_fit as own held
    obtain ⟨usdc, inVault, goes⟩ := claimProject_ok wf own held target settled pos fits covered
    cases vault.symm.trans inVault
    exact owner ▸ goes now
  | withdrawInvestment own status held pos tokens enough receiver covered =>
    have standing := g.standing as (State.listing_project own) known
    have sold := standing.sound.ledger.le_sold (wf.holding_of held)
    exact withdrawal_goes wf places own standing.vault status held pos tokens enough receiver sold covered now
  | buyPoolTokens own signs free pos room funds enough =>
    have standing := g.standing as (State.listing_pool own) known
    exact buyPool_goes wf places own standing.sound standing.minted standing.vault signs free
      (g.pool_funding as own) pos room funds enough now
  | claimPoolReturns own held pos covered fits =>
    have standing := g.standing as (State.listing_pool own) known
    have vault := standing.vault
    obtain ⟨target, owner⟩ := wf.position_of held
    have settled := standing.sound.ledger.settled _ _ (wf.holding_of held)
    obtain ⟨usdc, inVault, goes⟩ := claimPool_ok wf own held target settled pos fits covered
    cases vault.symm.trans inVault
    exact owner ▸ goes now
  | registerMrvProject free name_fits sector_fits location_fits upgrade_fits =>
    exact registerMrvProject_goes g as known free name_fits sector_fits location_fits upgrade_fits now
  | addAuditor free name_fits certification_fits =>
    exact addAuditor_goes g as known free name_fits certification_fits now

/-- A call that went through was accepted. -/
lemma Genesis.accepts (g : Genesis K) (as : List (Action K)) {now : Int64} {i : Instruction K} {s' : State K}
    (st : step (g.run as) (.call now i) = .ok s') : Accepts (g.run as) i := by
  cases i with
  | initializePlatform => exact initializePlatform_accepts st
  | createProject => exact createProject_accepts st
  | activateProject => exact activateProject_accepts st
  | distributeRepayment => exact distributeRepayment_accepts st
  | closeProject => exact closeProject_accepts st
  | createPool => exact createPool_accepts st
  | addProjectToPool => exact addProjectToPool_accepts st
  | distributePoolReturns => exact distributePoolReturns_accepts st
  | withdrawProjectFunds => exact withdrawProjectFunds_accepts st
  | buyProjectTokens => exact buyProjectTokens_accepts st
  | claimProjectReturns => exact claimProjectReturns_accepts st
  | withdrawInvestment => exact withdrawInvestment_accepts st
  | buyPoolTokens => exact buyPoolTokens_accepts st
  | claimPoolReturns => exact claimPoolReturns_accepts st
  | registerMrvProject => exact registerMrvProject_accepts st
  | addAuditor => exact addAuditor_accepts st
  | submitBaseline => exact submitBaseline_accepts st
  | submitVerification => exact submitVerification_accepts st
  | attestVerification => exact attestVerification_accepts st

/-- A call that is accepted goes through. -/
lemma Genesis.goes (g : Genesis K) (as : List (Action K)) {i : Instruction K} (h : Accepts (g.run as) i)
    (now : Int64) : ∃ s', step (g.run as) (.call now i) = .ok s' := by
  cases h with
  | initializePlatform free signs exist fees => exact initializePlatform_goes g as free signs exist fees now
  | submitBaseline known signs found free fuel_fits =>
    exact submitBaseline_goes g as known signs found free fuel_fits now
  | submitVerification known signs found gate free period =>
    exact submitVerification_goes g as known signs found gate free period now
  | attestVerification known signs found fresh author =>
    exact attestVerification_goes g as known signs found fresh author now
  | serves known h => exact g.serve as known h now

/-- Calls are accepted for these reasons and no others: in every reachable state an instruction goes through in a
transaction, at any time, if and only if it is one of `Accepts` and its payer is a plain wallet where it creates
an account. -/
theorem calls_accepted (g : Genesis K) (as : List (Action K)) (now : Int64) (i : Instruction K) :
    (g.run as).Takes now i ↔ Accepts (g.run as) i ∧ (g.run as).PaysRent i := by
  constructor
  · rintro ⟨rent, s', st⟩
    exact ⟨g.accepts as st, rent⟩
  · rintro ⟨h, rent⟩
    exact ⟨rent, g.goes as h now⟩

end

end Exira
