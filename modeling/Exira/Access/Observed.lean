import Exira.Access.Observer

/-!
# Instructions in the eyes of an observer

An instruction all whose accounts an observer sees answers alike in two states that are the same to it, and leaves
them the same to it: one lemma for each handler, statement by statement, then `handle_same` and `step_same`.
-/

namespace Exira

open Except

variable {K : Type} [DecidableEq K] [Addresses K] {o : Observer K} {s t : State K} {now : Int64}

namespace Observer.Same

omit [Addresses K] in
/-- The USDC mint is compared with the platform's. -/
lemma usdc {p p' : Platform K} (e : p.Same p') (k : K) :
    Match Eq (require (p.usdcMint = k) .invalidUsdcMint) (require (p'.usdcMint = k) .invalidUsdcMint) :=
  .require _ (by rw [e.usdcMint])

/-! ## Admin instructions -/

/-- `initialize_platform` does the same on both. -/
lemma of_initializePlatform (h : o.Same s t) {a : InitializePlatform K} {orig perf hurdle : U16}
    (sees : o.Sees (.initializePlatform a orig perf hurdle)) :
    Match o.Same (initializePlatform s a orig perf hurdle) (initializePlatform t a orig perf hurdle) := by
  have seen := sees.accounts
  simp only [Instruction.accounts, List.forall_mem_cons] at seen
  obtain ⟨platform, -, -, usdcMint, -⟩ := seen
  refine .next (h.mint usdcMint) fun _ _ => ?_
  refine .next (h.initProgramAccount platform (derived_shown nofun)) fun _ _ => ?_
  refine .next (.refl _) fun _ _ => ?_
  exact .ok (h.putPlatform _ (o.platform_refl _))

/-- `create_project` does the same on both. -/
lemma of_createProject (h : o.Same s t) {a : CreateProject K} {id target : U64} {term : U8}
    (sees : o.Sees (.createProject a id target term)) (signs : canSign a.tokenMint = true) :
    Match o.Same (createProject s a now id target term) (createProject t a now id target term) := by
  have seen := sees.accounts
  simp only [Instruction.accounts, List.forall_mem_cons] at seen
  obtain ⟨platform, -, mrvProject, project, tokenMint, usdcVault, usdcMint, -⟩ := seen
  refine (h.platform platform).bind fun p p' _ _ e => ?_
  have same := o.platform_same e
  refine (h.mrvProject mrvProject).bind fun m m' _ _ gate => ?_
  refine .next (h.mint usdcMint) fun _ _ => ?_
  refine .next (h.initProgramAccount project (derived_shown nofun)) fun _ _ => ?_
  refine (h.initMint tokenMint (hidden_ne signs)).bind fun b b' _ _ minted => ?_
  refine ((h.putBank minted).initAssociatedToken usdcVault usdcMint).bind fun b b' _ _ founded => ?_
  refine .next (checkPlatform same) fun _ _ => ?_
  refine .next (usdc same _) fun _ _ => ?_
  refine .next (.require _ (by rw [(o.mrvProject_gate gate).2.1])) fun _ _ => ?_
  refine .next (.refl _) fun _ _ => ?_
  refine .next (.refl _) fun _ _ => ?_
  exact .ok (((h.putBank founded).putPlatform _ (o.platform_project e)).putProject _ _)

/-- `activate_project` does the same on both. -/
lemma of_activateProject (h : o.Same s t) {a : ActivateProject K} (sees : o.Sees (.activateProject a)) :
    Match o.Same (activateProject s a now) (activateProject t a now) := by
  have seen := sees.accounts
  simp only [Instruction.accounts, List.forall_mem_cons] at seen
  obtain ⟨platform, -, project, usdcVault, treasuryUsdcAta, -, usdcMint, -⟩ := seen
  refine (h.platform platform).bind fun p p' _ _ e => ?_
  have same := o.platform_same e
  refine .next (h.project project) fun pr _ => ?_
  refine .next (h.account usdcVault) fun _ _ => ?_
  refine .next (h.account treasuryUsdcAta) fun _ _ => ?_
  refine .next (h.mint usdcMint) fun _ _ => ?_
  refine .next (.refl _) fun _ _ => ?_
  refine .next (checkPlatform same) fun _ _ => ?_
  refine .next (.require _ (by rw [same.treasury])) fun _ _ => ?_
  refine .next (usdc same _) fun _ _ => ?_
  refine .next (.refl _) fun _ _ => ?_
  refine .next (.refl _) fun _ _ => ?_
  refine .next (.refl _) fun _ _ => ?_
  refine .next (.refl _) fun _ _ => ?_
  refine .next (.refl _) fun _ _ => ?_
  refine .next (.of_eq (by rw [same.originationFeeBps])) fun fee _ => ?_
  have pays : Match (Token.Bank.AgreeOn o.sees) (payFee s a pr fee) (payFee t a pr fee) := by
    unfold payFee
    split
    · refine .next (.refl _) fun _ _ => ?_
      exact .mapError _ (h.bank.transfer usdcVault treasuryUsdcAta)
    · exact .ok h.bank
  refine pays.bind fun b b' _ _ bank => ?_
  exact .ok ((h.putBank bank).putProject _ _)

/-- `distribute_repayment` does the same on both. -/
lemma of_distributeRepayment (h : o.Same s t) {a : DistributeRepayment K} {n : U64}
    (sees : o.Sees (.distributeRepayment a n)) :
    Match o.Same (distributeRepayment s a n) (distributeRepayment t a n) := by
  have seen := sees.accounts
  simp only [Instruction.accounts, List.forall_mem_cons] at seen
  obtain ⟨platform, -, project, adminUsdcAta, usdcVault, usdcMint, -⟩ := seen
  refine (h.platform platform).bind fun p p' _ _ e => ?_
  have same := o.platform_same e
  refine .next (h.project project) fun pr _ => ?_
  refine .next (h.account adminUsdcAta) fun _ _ => ?_
  refine .next (h.account usdcVault) fun _ _ => ?_
  refine .next (h.mint usdcMint) fun _ _ => ?_
  refine .next (.refl _) fun _ _ => ?_
  refine .next (checkPlatform same) fun _ _ => ?_
  refine .next (usdc same _) fun _ _ => ?_
  refine .next (.refl _) fun _ _ => ?_
  refine .next (.refl _) fun _ _ => ?_
  refine .next (.refl _) fun _ _ => ?_
  refine .next (.refl _) fun _ _ => ?_
  refine .next (.refl _) fun _ _ => ?_
  refine .next (.refl _) fun _ _ => ?_
  have pays := (h.bank.transfer adminUsdcAta usdcVault (n := n) (w := a.admin)).mapError Error.token
  refine pays.bind fun b b' _ _ bank => ?_
  refine .next (.refl _) fun _ _ => ?_
  exact .ok ((h.putBank bank).putProject _ _)

/-- `close_project` does the same on both. -/
lemma of_closeProject (h : o.Same s t) {a : CloseProject K} (sees : o.Sees (.closeProject a)) :
    Match o.Same (closeProject s a) (closeProject t a) := by
  have seen := sees.accounts
  simp only [Instruction.accounts, List.forall_mem_cons] at seen
  obtain ⟨platform, -, project, -⟩ := seen
  refine (h.platform platform).bind fun _ _ _ _ e => ?_
  refine .next (h.project project) fun _ _ => ?_
  refine .next (checkPlatform (o.platform_same e)) fun _ _ => ?_
  refine .next (.refl _) fun _ _ => ?_
  refine .next (.refl _) fun _ _ => ?_
  exact .ok (h.putProject _ _)

/-- `create_pool` does the same on both. -/
lemma of_createPool (h : o.Same s t) {a : CreatePool K} {id target : U64} (sees : o.Sees (.createPool a id target))
    (signs : canSign a.poolTokenMint = true) :
    Match o.Same (createPool s a now id target) (createPool t a now id target) := by
  have seen := sees.accounts
  simp only [Instruction.accounts, List.forall_mem_cons] at seen
  obtain ⟨platform, -, pool, poolTokenMint, usdcVault, usdcMint, -⟩ := seen
  refine (h.platform platform).bind fun p p' _ _ e => ?_
  have same := o.platform_same e
  refine .next (h.mint usdcMint) fun _ _ => ?_
  refine .next (h.initProgramAccount pool (derived_shown nofun)) fun _ _ => ?_
  refine (h.initMint poolTokenMint (hidden_ne signs)).bind fun b b' _ _ minted => ?_
  refine ((h.putBank minted).initAssociatedToken usdcVault usdcMint).bind fun b b' _ _ founded => ?_
  refine .next (checkPlatform same) fun _ _ => ?_
  refine .next (usdc same _) fun _ _ => ?_
  refine .next (.refl _) fun _ _ => ?_
  exact .ok (((h.putBank founded).putPlatform _ (o.platform_pool e)).putPool _ _)

/-- `add_project_to_pool` does the same on both. -/
lemma of_addProjectToPool (h : o.Same s t) {a : AddProjectToPool K} (sees : o.Sees (.addProjectToPool a)) :
    Match o.Same (addProjectToPool s a) (addProjectToPool t a) := by
  have seen := sees.accounts
  simp only [Instruction.accounts, List.forall_mem_cons] at seen
  obtain ⟨platform, -, pool, project, poolProjectLink, -⟩ := seen
  refine (h.platform platform).bind fun _ _ _ _ e => ?_
  refine .next (h.pool pool) fun _ _ => ?_
  refine .next (h.project project) fun _ _ => ?_
  refine .next (h.initProgramAccount poolProjectLink (derived_shown nofun)) fun _ _ => ?_
  refine .next (checkPlatform (o.platform_same e)) fun _ _ => ?_
  refine .next (.refl _) fun _ _ => ?_
  refine .next (.refl _) fun _ _ => ?_
  refine .next (.refl _) fun _ _ => ?_
  exact .ok ((h.putPool _ _).putLink _ _)

/-- `distribute_pool_returns` does the same on both. -/
lemma of_distributePoolReturns (h : o.Same s t) {a : DistributePoolReturns K} {n : U64}
    (sees : o.Sees (.distributePoolReturns a n)) :
    Match o.Same (distributePoolReturns s a n) (distributePoolReturns t a n) := by
  have seen := sees.accounts
  simp only [Instruction.accounts, List.forall_mem_cons] at seen
  obtain ⟨platform, -, pool, adminUsdcAta, usdcVault, usdcMint, -⟩ := seen
  refine (h.platform platform).bind fun p p' _ _ e => ?_
  have same := o.platform_same e
  refine .next (h.pool pool) fun po _ => ?_
  refine .next (h.account adminUsdcAta) fun _ _ => ?_
  refine .next (h.account usdcVault) fun _ _ => ?_
  refine .next (h.mint usdcMint) fun _ _ => ?_
  refine .next (.refl _) fun _ _ => ?_
  refine .next (checkPlatform same) fun _ _ => ?_
  refine .next (usdc same _) fun _ _ => ?_
  refine .next (.refl _) fun _ _ => ?_
  refine .next (.refl _) fun _ _ => ?_
  refine .next (.refl _) fun _ _ => ?_
  refine .next (.refl _) fun _ _ => ?_
  refine .next (.refl _) fun _ _ => ?_
  have pays := (h.bank.transfer adminUsdcAta usdcVault (n := n) (w := a.admin)).mapError Error.token
  refine pays.bind fun b b' _ _ bank => ?_
  refine .next (.refl _) fun _ _ => ?_
  exact .ok ((h.putBank bank).putPool _ _)

/-- `withdraw_project_funds` does the same on both. -/
lemma of_withdrawProjectFunds (h : o.Same s t) {a : WithdrawProjectFunds K} {n : U64}
    (sees : o.Sees (.withdrawProjectFunds a n)) :
    Match o.Same (withdrawProjectFunds s a n) (withdrawProjectFunds t a n) := by
  have seen := sees.accounts
  simp only [Instruction.accounts, List.forall_mem_cons] at seen
  obtain ⟨platform, -, project, usdcVault, destination, usdcMint, -⟩ := seen
  refine (h.platform platform).bind fun p p' _ _ e => ?_
  have same := o.platform_same e
  refine .next (h.project project) fun _ _ => ?_
  refine .next (h.account usdcVault) fun _ _ => ?_
  refine .next (h.account destination) fun _ _ => ?_
  refine .next (h.mint usdcMint) fun _ _ => ?_
  refine .next (.refl _) fun _ _ => ?_
  refine .next (checkPlatform same) fun _ _ => ?_
  refine .next (usdc same _) fun _ _ => ?_
  refine .next (.refl _) fun _ _ => ?_
  refine .next (.refl _) fun _ _ => ?_
  refine .next (.refl _) fun _ _ => ?_
  refine .next (.refl _) fun _ _ => ?_
  refine .next (.refl _) fun _ _ => ?_
  refine .next (.refl _) fun _ _ => ?_
  have pays := (h.bank.transfer usdcVault destination (n := n) (w := a.project)).mapError Error.token
  refine pays.bind fun b b' _ _ bank => ?_
  exact .ok (h.putBank bank)

/-! ## Investor instructions -/

/-- `buy_project_tokens` does the same on both. -/
lemma of_buyProjectTokens (h : o.Same s t) {a : BuyProjectTokens K} {n : U64}
    (sees : o.Sees (.buyProjectTokens a n)) :
    Match o.Same (buyProjectTokens s a n) (buyProjectTokens t a n) := by
  have seen := sees.accounts
  simp only [Instruction.accounts, List.forall_mem_cons] at seen
  obtain ⟨project, tokenMint, usdcVault, -, investorUsdcAta, investorTokenAta, position, usdcMint, -⟩ := seen
  refine .next (h.project project) fun p _ => ?_
  refine .next (h.mint tokenMint) fun _ _ => ?_
  refine .next (h.account usdcVault) fun _ _ => ?_
  refine .next (h.account investorUsdcAta) fun _ _ => ?_
  refine .next (h.mint usdcMint) fun _ _ => ?_
  have opens := h.ensureAssociatedToken investorTokenAta tokenMint (sees.ensures _ (.head _))
    (w := a.investor)
  refine opens.bind fun b₀ b₀' _ _ opened => ?_
  refine .next (h.ensurePosition position) fun q _ => ?_
  refine .next (.refl _) fun _ _ => ?_
  refine .next (.refl _) fun _ _ => ?_
  refine .next (.refl _) fun _ _ => ?_
  refine .next (.refl _) fun _ _ => ?_
  refine .next (.refl _) fun _ _ => ?_
  refine .next (.refl _) fun _ _ => ?_
  refine .next (.refl _) fun _ _ => ?_
  refine .next (.refl _) fun _ _ => ?_
  refine .next (.refl _) fun _ _ => ?_
  have pays := (opened.transfer investorUsdcAta usdcVault (n := n) (w := a.investor)).mapError Error.token
  refine pays.bind fun b₁ b₁' _ _ paid => ?_
  refine .next (.refl _) fun _ _ => ?_
  have mints := (paid.mintTo tokenMint investorTokenAta (n := n) (w := a.project)).mapError Error.token
  refine mints.bind fun b₂ b₂' _ _ minted => ?_
  refine .next (.refl _) fun _ _ => ?_
  refine .next (.refl _) fun _ _ => ?_
  exact .ok (((h.putBank minted).putProject _ _).putPosition _ _)

/-- `buy_pool_tokens` does the same on both. -/
lemma of_buyPoolTokens (h : o.Same s t) {a : BuyPoolTokens K} {n : U64} (sees : o.Sees (.buyPoolTokens a n)) :
    Match o.Same (buyPoolTokens s a n) (buyPoolTokens t a n) := by
  have seen := sees.accounts
  simp only [Instruction.accounts, List.forall_mem_cons] at seen
  obtain ⟨pool, poolTokenMint, usdcVault, -, investorUsdcAta, investorPoolTokenAta, position, usdcMint, -⟩ := seen
  refine .next (h.pool pool) fun p _ => ?_
  refine .next (h.mint poolTokenMint) fun _ _ => ?_
  refine .next (h.account usdcVault) fun _ _ => ?_
  refine .next (h.account investorUsdcAta) fun _ _ => ?_
  refine .next (h.mint usdcMint) fun _ _ => ?_
  have opens := h.ensureAssociatedToken investorPoolTokenAta poolTokenMint (sees.ensures _ (.head _))
    (w := a.investor)
  refine opens.bind fun b₀ b₀' _ _ opened => ?_
  refine .next (h.ensurePosition position) fun q _ => ?_
  refine .next (.refl _) fun _ _ => ?_
  refine .next (.refl _) fun _ _ => ?_
  refine .next (.refl _) fun _ _ => ?_
  refine .next (.refl _) fun _ _ => ?_
  refine .next (.refl _) fun _ _ => ?_
  refine .next (.refl _) fun _ _ => ?_
  refine .next (.refl _) fun _ _ => ?_
  refine .next (.refl _) fun _ _ => ?_
  refine .next (.refl _) fun _ _ => ?_
  have pays := (opened.transfer investorUsdcAta usdcVault (n := n) (w := a.investor)).mapError Error.token
  refine pays.bind fun b₁ b₁' _ _ paid => ?_
  refine .next (.refl _) fun _ _ => ?_
  have mints := (paid.mintTo poolTokenMint investorPoolTokenAta (n := n) (w := a.pool)).mapError Error.token
  refine mints.bind fun b₂ b₂' _ _ minted => ?_
  refine .next (.refl _) fun _ _ => ?_
  refine .next (.refl _) fun _ _ => ?_
  exact .ok (((h.putBank minted).putPool _ _).putPosition _ _)

/-- `claim_project_returns` does the same on both. -/
lemma of_claimProjectReturns (h : o.Same s t) {a : ClaimProjectReturns K} (sees : o.Sees (.claimProjectReturns a)) :
    Match o.Same (claimProjectReturns s a) (claimProjectReturns t a) := by
  have seen := sees.accounts
  simp only [Instruction.accounts, List.forall_mem_cons] at seen
  obtain ⟨project, usdcVault, -, position, investorUsdcAta, usdcMint, -⟩ := seen
  refine .next (h.project project) fun p _ => ?_
  refine .next (h.account usdcVault) fun _ _ => ?_
  refine .next (h.position position) fun q _ => ?_
  refine .next (h.mint usdcMint) fun _ _ => ?_
  have opens := h.ensureAssociatedToken investorUsdcAta usdcMint (sees.ensures _ (.head _)) (w := a.investor)
  refine opens.bind fun b₀ b₀' _ _ opened => ?_
  refine .next (.refl _) fun _ _ => ?_
  refine .next (.refl _) fun _ _ => ?_
  refine .next (.refl _) fun _ _ => ?_
  refine .next (.refl _) fun _ _ => ?_
  refine .next (.refl _) fun _ _ => ?_
  refine .next (.refl _) fun _ _ => ?_
  refine .next (.refl _) fun owed _ => ?_
  refine .next (.refl _) fun _ _ => ?_
  refine .next (.refl _) fun _ _ => ?_
  refine .next (.refl _) fun _ _ => ?_
  have pays := (opened.transfer usdcVault investorUsdcAta (n := owed) (w := a.project)).mapError Error.token
  refine pays.bind fun b₁ b₁' _ _ paid => ?_
  refine .next (.refl _) fun _ _ => ?_
  exact .ok ((h.putBank paid).putPosition _ _)

/-- `claim_pool_returns` does the same on both. -/
lemma of_claimPoolReturns (h : o.Same s t) {a : ClaimPoolReturns K} (sees : o.Sees (.claimPoolReturns a)) :
    Match o.Same (claimPoolReturns s a) (claimPoolReturns t a) := by
  have seen := sees.accounts
  simp only [Instruction.accounts, List.forall_mem_cons] at seen
  obtain ⟨pool, usdcVault, -, position, investorUsdcAta, usdcMint, -⟩ := seen
  refine .next (h.pool pool) fun p _ => ?_
  refine .next (h.account usdcVault) fun _ _ => ?_
  refine .next (h.position position) fun q _ => ?_
  refine .next (h.mint usdcMint) fun _ _ => ?_
  have opens := h.ensureAssociatedToken investorUsdcAta usdcMint (sees.ensures _ (.head _)) (w := a.investor)
  refine opens.bind fun b₀ b₀' _ _ opened => ?_
  refine .next (.refl _) fun _ _ => ?_
  refine .next (.refl _) fun _ _ => ?_
  refine .next (.refl _) fun _ _ => ?_
  refine .next (.refl _) fun _ _ => ?_
  refine .next (.refl _) fun _ _ => ?_
  refine .next (.refl _) fun _ _ => ?_
  refine .next (.refl _) fun owed _ => ?_
  refine .next (.refl _) fun _ _ => ?_
  refine .next (.refl _) fun _ _ => ?_
  refine .next (.refl _) fun _ _ => ?_
  have pays := (opened.transfer usdcVault investorUsdcAta (n := owed) (w := a.pool)).mapError Error.token
  refine pays.bind fun b₁ b₁' _ _ paid => ?_
  refine .next (.refl _) fun _ _ => ?_
  exact .ok ((h.putBank paid).putPosition _ _)

/-- `withdraw_investment` does the same on both. -/
lemma of_withdrawInvestment (h : o.Same s t) {a : WithdrawInvestment K} (sees : o.Sees (.withdrawInvestment a)) :
    Match o.Same (withdrawInvestment s a) (withdrawInvestment t a) := by
  have seen := sees.accounts
  simp only [Instruction.accounts, List.forall_mem_cons] at seen
  obtain ⟨project, tokenMint, usdcVault, -, position, investorTokenAta, investorUsdcAta, usdcMint, -⟩ := seen
  refine .next (h.project project) fun p _ => ?_
  refine .next (h.mint tokenMint) fun _ _ => ?_
  refine .next (h.account usdcVault) fun _ _ => ?_
  refine .next (h.position position) fun q _ => ?_
  refine .next (h.account investorTokenAta) fun _ _ => ?_
  refine .next (h.account investorUsdcAta) fun _ _ => ?_
  refine .next (h.mint usdcMint) fun _ _ => ?_
  refine .next (.refl _) fun _ _ => ?_
  refine .next (.refl _) fun _ _ => ?_
  refine .next (.refl _) fun _ _ => ?_
  refine .next (.refl _) fun _ _ => ?_
  refine .next (.refl _) fun _ _ => ?_
  refine .next (.refl _) fun _ _ => ?_
  refine .next (.refl _) fun _ _ => ?_
  refine .next (.refl _) fun _ _ => ?_
  refine .next (.refl _) fun _ _ => ?_
  refine .next (.refl _) fun _ _ => ?_
  have burns := (h.bank.burn investorTokenAta tokenMint (n := q.tokensHeld) (w := a.investor)).mapError
    Error.token
  refine burns.bind fun b₁ b₁' _ _ burnt => ?_
  refine .next (.refl _) fun _ _ => ?_
  have pays := (burnt.transfer usdcVault investorUsdcAta (n := q.tokensHeld) (w := a.project)).mapError
    Error.token
  refine pays.bind fun b₂ b₂' _ _ paid => ?_
  refine .next (.refl _) fun _ _ => ?_
  exact .ok (((h.putBank paid).putProject _ _).putPosition _ _)

/-! ## MRV instructions -/

/-- `register_mrv_project` does the same on both. -/
lemma of_registerMrvProject (h : o.Same s t) {a : RegisterMrvProject K} {id : U64}
    {name sector location upgrade : String}
    (sees : o.Sees (.registerMrvProject a id name sector location upgrade)) :
    Match o.Same (registerMrvProject s a now id name sector location upgrade)
      (registerMrvProject t a now id name sector location upgrade) := by
  have seen := sees.accounts
  simp only [Instruction.accounts, List.forall_mem_cons] at seen
  obtain ⟨platform, -, mrvProject, -⟩ := seen
  refine (h.platform platform).bind fun _ _ _ _ e => ?_
  refine .next (h.initProgramAccount mrvProject (derived_shown nofun)) fun _ _ => ?_
  refine .next (checkPlatform (o.platform_same e)) fun _ _ => ?_
  refine .next (.refl _) fun _ _ => ?_
  refine .next (.refl _) fun _ _ => ?_
  refine .next (.refl _) fun _ _ => ?_
  refine .next (.refl _) fun _ _ => ?_
  exact .ok (h.putMrvProject _ (o.mrvProject_refl _))

/-- `add_auditor` does the same on both. -/
lemma of_addAuditor (h : o.Same s t) {a : AddAuditor K} {name certification : String}
    (sees : o.Sees (.addAuditor a name certification)) :
    Match o.Same (addAuditor s a now name certification) (addAuditor t a now name certification) := by
  have seen := sees.accounts
  simp only [Instruction.accounts, List.forall_mem_cons] at seen
  obtain ⟨platform, -, -, auditor, -⟩ := seen
  refine (h.platform platform).bind fun _ _ _ _ e => ?_
  refine .next (h.initProgramAccount auditor (derived_shown nofun)) fun _ _ => ?_
  refine .next (checkPlatform (o.platform_same e)) fun _ _ => ?_
  refine .next (.refl _) fun _ _ => ?_
  refine .next (.refl _) fun _ _ => ?_
  exact .ok (h.putAuditor _ _)

/-- `submit_baseline` does the same on both. -/
lemma of_submitBaseline (h : o.Same s t) {a : SubmitBaseline K} {energy cost co2 : U64} {fuel : String}
    {hash : Vector U8 32} (sees : o.Sees (.submitBaseline a energy fuel cost co2 hash)) :
    Match o.Same (submitBaseline s a now energy fuel cost co2 hash)
      (submitBaseline t a now energy fuel cost co2 hash) := by
  have seen := sees.accounts
  simp only [Instruction.accounts, List.forall_mem_cons] at seen
  obtain ⟨-, auditor, mrvProject, baseline, -⟩ := seen
  refine .next (h.auditor auditor) fun _ _ => ?_
  refine (h.mrvProject mrvProject).bind fun m m' _ _ e => ?_
  obtain ⟨id, gate, bump⟩ := o.mrvProject_gate e
  refine .next (h.initProgramAccount baseline (derived_shown nofun)) fun _ _ => ?_
  refine .next (.refl _) fun _ _ => ?_
  refine .next (.of_eq (by rw [id, bump])) fun _ _ => ?_
  refine .next (.require _ (by rw [gate])) fun _ _ => ?_
  refine .next (.refl _) fun _ _ => ?_
  exact .ok ((h.putMrvProject _ (o.mrvProject_baseline e)).putBaseline _ _)

/-- `submit_verification` does the same on both. -/
lemma of_submitVerification (h : o.Same s t) {a : SubmitVerification K} {index : U8} {start stop : Int64}
    {energy cost co2 : U64} {bps : U16} {hash : Vector U8 32}
    (sees : o.Sees (.submitVerification a index start stop energy cost co2 bps hash)) :
    Match o.Same (submitVerification s a now index start stop energy cost co2 bps hash)
      (submitVerification t a now index start stop energy cost co2 bps hash) := by
  have seen := sees.accounts
  simp only [Instruction.accounts, List.forall_mem_cons] at seen
  obtain ⟨-, auditor, mrvProject, verification, -⟩ := seen
  have all := sees.reports rfl
  refine .next (h.auditor auditor) fun _ _ => ?_
  refine (h.mrvProject mrvProject).bind fun m m' _ _ e => ?_
  obtain ⟨id, gate, bump⟩ := o.mrvProject_gate e
  refine .next (h.initProgramAccount verification (all ▸ Set.notMem_empty _)) fun _ _ => ?_
  refine .next (.refl _) fun _ _ => ?_
  refine .next (.of_eq (by rw [id, bump])) fun _ _ => ?_
  refine .next (.require _ (by rw [gate])) fun _ _ => ?_
  refine .next (.refl _) fun _ _ => ?_
  exact .ok ((h.putMrvProject _ (o.mrvProject_report e)).putVerification _ _)

/-- `attest_verification` does the same on both. -/
lemma of_attestVerification (h : o.Same s t) {a : AttestVerification K} (sees : o.Sees (.attestVerification a)) :
    Match o.Same (attestVerification s a) (attestVerification t a) := by
  have seen := sees.accounts
  simp only [Instruction.accounts, List.forall_mem_cons] at seen
  obtain ⟨-, auditor, mrvProject, verification, -⟩ := seen
  have all := sees.reports rfl
  refine .next (h.auditor auditor) fun _ _ => ?_
  refine (h.mrvProject mrvProject).bind fun m m' _ _ e => ?_
  obtain ⟨id, gate, bump⟩ := o.mrvProject_gate e
  refine .next (h.verification verification all) fun v _ => ?_
  refine .next (.refl _) fun _ _ => ?_
  refine .next (.of_eq (by rw [id, bump])) fun _ _ => ?_
  refine .next (.refl _) fun _ _ => ?_
  refine .next (.refl _) fun _ _ => ?_
  refine .next (.refl _) fun _ _ => ?_
  exact .ok (h.putVerification _ _)

end Observer.Same

/-! ## All actions -/

/-- An instruction whose accounts are seen answers alike in two states that are the same to the observer. -/
theorem handle_same (h : o.Same s t) {i : Instruction K} (sees : o.Sees i)
    (signed : ∀ k ∈ i.signers, canSign k = true) : Match o.Same (handle s now i) (handle t now i) := by
  cases i with
  | initializePlatform a orig perf hurdle => exact h.of_initializePlatform sees
  | createProject a id target term => exact h.of_createProject sees (signed _ (.tail _ (.head _)))
  | activateProject a => exact h.of_activateProject sees
  | distributeRepayment a n => exact h.of_distributeRepayment sees
  | closeProject a => exact h.of_closeProject sees
  | createPool a id target => exact h.of_createPool sees (signed _ (.tail _ (.head _)))
  | addProjectToPool a => exact h.of_addProjectToPool sees
  | distributePoolReturns a n => exact h.of_distributePoolReturns sees
  | withdrawProjectFunds a n => exact h.of_withdrawProjectFunds sees
  | buyProjectTokens a n => exact h.of_buyProjectTokens sees
  | claimProjectReturns a => exact h.of_claimProjectReturns sees
  | withdrawInvestment a => exact h.of_withdrawInvestment sees
  | buyPoolTokens a n => exact h.of_buyPoolTokens sees
  | claimPoolReturns a => exact h.of_claimPoolReturns sees
  | registerMrvProject a id name sector location upgrade => exact h.of_registerMrvProject sees
  | addAuditor a name certification => exact h.of_addAuditor sees
  | submitBaseline a energy fuel cost co2 hash => exact h.of_submitBaseline sees
  | submitVerification a index start stop energy cost co2 bps hash => exact h.of_submitVerification sees
  | attestVerification a => exact h.of_attestVerification sees

/-- An outside operation does the same on both. -/
lemma handleOutside_same (h : o.Same s t) {x : Outside K} (seen : ∀ k ∈ x.accounts, k ∈ o.sees) :
    Match (Token.Bank.AgreeOn o.sees) (handleOutside s x) (handleOutside t x) := by
  cases x with
  | transfer source dest authority n =>
    simp only [Outside.accounts, List.forall_mem_cons] at seen
    refine .next (.refl _) fun _ _ => ?_
    exact .mapError _ (h.bank.transfer seen.1 seen.2.1)
  | burn source mint authority n =>
    simp only [Outside.accounts, List.forall_mem_cons] at seen
    refine .next (.refl _) fun _ _ => ?_
    exact .mapError _ (h.bank.burn seen.1 seen.2.1)
  | mintTo mint dest authority n =>
    simp only [Outside.accounts, List.forall_mem_cons] at seen
    refine .next (.refl _) fun _ _ => ?_
    exact .mapError _ (h.bank.mintTo seen.1 seen.2.1)
  | createMint key auth freeze d =>
    simp only [Outside.accounts, List.forall_mem_cons] at seen
    refine .next (.refl _) fun _ signs => ?_
    rw [constraint_eq_ok] at signs
    refine .next (h.vacate seen.1 (Observer.hidden_ne signs)) fun _ _ => ?_
    exact .mapError _ (h.bank.initMint seen.1)
  | createAccount key mint owner =>
    simp only [Outside.accounts, List.forall_mem_cons] at seen
    refine .next (.refl _) fun _ signs => ?_
    rw [constraint_eq_ok] at signs
    refine .next (h.vacate seen.1 (Observer.hidden_ne signs)) fun _ _ => ?_
    exact .mapError _ (h.bank.initAccount seen.1 seen.2.1)
  | createAssociatedToken owner mint =>
    simp only [Outside.accounts, List.forall_mem_cons] at seen
    exact h.initAssociatedToken seen.1 seen.2.2.1

/-- An action whose accounts are seen answers alike in two states that are the same to the observer. -/
theorem step_same (h : o.Same s t) {x : Action K} (seen : ∀ k ∈ x.accounts, k ∈ o.sees)
    (ensures : ∀ now i, x = .call now i → ∀ k ∈ i.ensures, k ∉ o.hidden)
    (reports : x.reports = true → o.hidden = ∅) : Match o.Same (step s x) (step t x) := by
  cases x with
  | call now i =>
    refine .next (.refl _) fun _ signed => ?_
    rw [constraint_eq_ok, List.all_eq_true] at signed
    exact handle_same h ⟨seen, ensures now i rfl, reports⟩ signed
  | outside x =>
    refine (handleOutside_same h seen).bind fun _ _ _ _ bank => ?_
    exact .ok (h.putBank bank)

end Exira
