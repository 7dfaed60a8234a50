import Exira.Mrv.Registry
import Exira.Project.Arithmetic
import Exira.Records.Entry
import Exira.Records.Provenance

/-!
# The errors of an instruction

`InstructionKind.errors` lists, for each function of `lib.rs`, the errors of `error.rs` that it raises in
some run. Here no other error comes up, whatever accounts and arguments are passed (`Genesis.step_errors`).
Some of the checks in the source never fail: an auditor is always active, a position at its address is its
owner's and in its target, a project that was activated has sold tokens, no subtraction underflows, and a second
baseline fails before its check, since Anchor makes the accounts of an instruction before it checks the others.
-/

namespace Exira

open Dividend InstructionKind

variable {K : Type} [DecidableEq K] [Addresses K]

/-- The function that an instruction calls. -/
def Instruction.kind : Instruction K → InstructionKind
  | .initializePlatform _ _ _ _ => .initializePlatform
  | .createProject _ _ _ _ => .createProject
  | .activateProject _ => .activateProject
  | .distributeRepayment _ _ => .distributeRepayment
  | .closeProject _ => .closeProject
  | .createPool _ _ _ => .createPool
  | .addProjectToPool _ => .addProjectToPool
  | .distributePoolReturns _ _ => .distributePoolReturns
  | .withdrawProjectFunds _ _ => .withdrawProjectFunds
  | .buyProjectTokens _ _ => .buyProjectTokens
  | .claimProjectReturns _ => .claimProjectReturns
  | .withdrawInvestment _ => .withdrawInvestment
  | .buyPoolTokens _ _ => .buyPoolTokens
  | .claimPoolReturns _ => .claimPoolReturns
  | .registerMrvProject _ _ _ _ _ _ => .registerMrvProject
  | .addAuditor _ _ _ => .addAuditor
  | .submitBaseline _ _ _ _ _ _ => .submitBaseline
  | .submitVerification _ _ _ _ _ _ _ _ _ => .submitVerification
  | .attestVerification _ => .attestVerification

namespace InstructionKind

/-- The errors of the program that a function raises. -/
def errors : InstructionKind → List ExiraError
  | initializePlatform => [.invalidFeeBps]
  | createProject =>
    [.unauthorized, .invalidUsdcMint, .mrvBaselineMissing, .invalidTargetAmount, .invalidTermMonths]
  | activateProject => [.unauthorized, .invalidUsdcMint, .wrongVault, .notFunding, .notFullyFunded]
  | distributeRepayment =>
    [.unauthorized, .invalidUsdcMint, .wrongVault, .zeroAmount, .notActiveOrRepaying, .mathOverflow]
  | closeProject => [.unauthorized, .notActiveOrRepaying]
  | createPool => [.unauthorized, .invalidUsdcMint, .invalidTargetAmount]
  | addProjectToPool => [.unauthorized, .poolTooManyProjects]
  | distributePoolReturns =>
    [.unauthorized, .invalidUsdcMint, .wrongVault, .zeroAmount, .noTokensSold, .mathOverflow]
  | withdrawProjectFunds =>
    [.unauthorized, .invalidUsdcMint, .wrongVault, .zeroAmount, .insufficientVaultBalance]
  | buyProjectTokens => [.wrongMint, .wrongVault, .zeroAmount, .notFunding, .poolFull]
  | claimProjectReturns => [.wrongVault, .nothingToClaim, .insufficientVaultBalance]
  | withdrawInvestment => [.wrongMint, .wrongVault, .cannotWithdraw, .nothingToClaim]
  | buyPoolTokens => [.wrongMint, .wrongVault, .zeroAmount, .poolFull]
  | claimPoolReturns => [.wrongVault, .mathOverflow, .nothingToClaim, .insufficientVaultBalance]
  | registerMrvProject => [.unauthorized, .stringTooLong]
  | addAuditor => [.unauthorized, .stringTooLong]
  | submitBaseline => [.stringTooLong]
  | submitVerification => [.mrvBaselineMissing, .invalidVerificationPeriod]
  | attestVerification => [.alreadyAttested, .attestationAuditorMismatch]

/-- An error that a function never raises. -/
def Foreign (f : InstructionKind) (e : ExiraError) : Prop :=
  e ∉ f.errors

/-- An error on a function's list is not foreign to it. -/
lemma listed {f : InstructionKind} {e : ExiraError} (mem : f.errors.contains e = true) :
    ¬ f.Foreign e :=
  fun foreign => foreign (List.contains_iff_mem.mp mem)

end InstructionKind

/-! ## Shared parts -/

section
variable {s : State K} {bad : ExiraError → Prop} {k : K}

/-- `init` raises no error of the program. -/
lemma avoids_initProgramAccount {σ : Seeds K} : (initProgramAccount s k σ).Avoids (Error.In bad) :=
  .bind avoids_constraint fun _ _ => avoids_constraint

omit [Addresses K] in
/-- A new mint raises no error of the program. -/
lemma avoids_initMint {payer authority : K} : (initMint s k payer authority).Avoids (Error.In bad) :=
  .bind avoids_constraint fun _ _ => .bind avoids_constraint fun _ _ => avoids_cpi

/-- A new token account raises no error of the program. -/
lemma avoids_initAssociatedToken {owner mint : K} :
    (initAssociatedToken s k owner mint).Avoids (Error.In bad) :=
  .bind avoids_constraint fun _ _ => .bind avoids_constraint fun _ _ => avoids_cpi

omit [DecidableEq K] [Addresses K] in
/-- Padding raises no other error of the program than that of a long string. -/
lemma avoids_padInto {n : ℕ} {src : String} (h : ¬ bad .stringTooLong) :
    (padInto n src).Avoids (Error.In bad) :=
  .bind (avoids_require h) fun _ _ => .ok _

/-- A distribution among tokens that were sold does not divide by zero. -/
lemma avoids_accumulate {cumulative : U128} {distributed sold n : U64} (h : ¬ bad .mathOverflow)
    (pos : 0 < sold) : (accumulate cumulative distributed sold n).Avoids (Error.In bad) := by
  refine .bind (.okOr h) fun scaled _ => ?_
  refine .bind (.okOr_some ?_) fun _ _ => .bind (.okOr h) fun _ _ => .bind (.okOr h) fun _ _ => .ok _
  obtain ⟨c, hc⟩ := BitVec.checkedDiv_of_pos (a := scaled) (b := sold.setWidth 128) (by
    rw [BitVec.toNat_setWidth_widen _ (by decide)]
    exact BitVec.lt_def.mp pos)
  rw [hc]
  nofun

end

/-! ## What never is -/

section
variable (g : Genesis K) (as : List (Action K))

/-- An auditor's account is of its wallet, and active. -/
lemma Genesis.auditor {k : K} {auditor : Auditor K} (own : (g.run as).auditors.lookup k = some auditor) :
    k = findProgramAddress (.auditor auditor.wallet) ∧ auditor.isActive = true := by
  obtain ⟨place, x, mem, opens⟩ := g.opened as .auditor k auditor own
  refine ⟨place, ?_⟩
  cases e : x.2 with
  | outside o => rw [e] at opens; cases opens
  | call now i =>
    rw [e] at opens
    cases i <;> simp only [Action.record, Instruction.record, Option.bind_eq_bind, Option.bind_eq_some_iff,
      Option.some.injEq, reduceCtorEq, Sigma.mk.injEq, false_and, and_false, exists_false] at opens
    obtain ⟨_, -, _, -, -, opens⟩ := opens
    cases opens
    rfl

/-- The target of a project is positive. -/
lemma Genesis.project_target {k : K} {project : Project K} (own : (g.run as).projects.lookup k = some project) :
    0 < project.targetAmount.toNat := by
  obtain ⟨-, x, mem, opens⟩ := g.opened as .project k project own
  obtain ⟨-, -, -, -, s', st⟩ := Genesis.mem_history mem
  cases e : x.2 with
  | outside o => rw [e] at opens; cases opens
  | call now i =>
    rw [e] at opens st
    cases i <;> simp only [Action.record, Instruction.record, Option.bind_eq_bind, Option.bind_eq_some_iff,
      Option.some.injEq, reduceCtorEq, Sigma.mk.injEq, false_and, and_false, exists_false] at opens
    obtain ⟨-, opens⟩ := opens
    obtain ⟨done, -⟩ := createProject_ok.mp (step_call st).2
    have terms : _ = project.terms := eq_of_heq opens
    have target : _ = project.targetAmount := (congrArg Project.targetAmount terms :)
    exact target ▸ BitVec.lt_def.mp done.pos

/-- A project that is not funding has sold tokens. -/
lemma Genesis.sold_of_started {k : K} {project : Project K} (own : (g.run as).projects.lookup k = some project)
    (status : project.status = .active ∨ project.status = .repaying) : 0 < project.tokensSold := by
  have sound := g.fund_sound as (State.fund_project own)
  have started : project.status ≠ .funding := by
    rcases status with e | e <;> rw [e] <;> nofun
  have full : project.tokensSold.toNat = project.targetAmount.toNat := sound.full started
  rw [BitVec.lt_def, full]
  exact g.project_target as own

/-- A pool is funding. -/
lemma Genesis.pool_funding {k : K} {pool : Pool K} (own : (g.run as).pools.lookup k = some pool) :
    pool.status = .funding := by
  have status := ((g.fund_sound as (State.fund_pool own)).pool rfl).1
  change pool.status.toProject = .funding at status
  cases e : pool.status with
  | funding => rfl
  | _ => rw [e] at status; cases status

/-- An auditor's account does not raise an error of the program. -/
lemma Genesis.avoids_checkAuditor {bad : ExiraError → Prop} {k signer : K} {auditor : Auditor K}
    (known : (g.run as).auditors.lookup k = some auditor) :
    (checkAuditor k auditor signer).Avoids (Error.In bad) := by
  refine .bind avoids_checkSeeds fun _ seeds => ?_
  obtain ⟨place, active⟩ := g.auditor as known
  have derived := (checkSeeds_eq_ok.mp seeds).symm.trans place
  have wallet : auditor.wallet = signer := by
    cases (Addresses.createProgramAddress_inj derived).1
    rfl
  exact .bind (.require_of active) fun _ _ => .require_of wallet

/-- Where no baseline is, none was submitted: the one that was is at this address. -/
lemma Genesis.first_baseline {m : K} {entry : MrvProject}
    (found : (g.run as).mrvProjects.lookup m = some entry)
    (free : (g.run as).Vacant (findProgramAddress (.baseline m))) : entry.baselineSubmitted = false := by
  rw [Bool.eq_false_iff]
  intro submitted
  obtain ⟨k, baseline, filed, same⟩ := ((g.registry_wf as).entry m entry found).baseline submitted
  obtain ⟨there, -⟩ := g.opened as .baseline k baseline filed
  have there : k = findProgramAddress (.baseline m) :=
    there.trans (congrArg (fun m => findProgramAddress (.baseline m)) same)
  have gone := free.table .baseline
  rw [there] at filed
  cases gone.symm.trans filed

end

/-! ## The handlers -/

section
variable (g : Genesis K) (as : List (Action K))

/-- What `initialize_platform` may raise. -/
lemma Genesis.initializePlatform_errors (a : InitializePlatform K) (fee performance hurdle : U16) :
    (initializePlatform (g.run as) a fee performance hurdle).Avoids
      (Error.In (Foreign .initializePlatform)) := by
  refine .bind avoids_load fun _ _ => ?_
  refine .bind avoids_initProgramAccount fun _ _ => ?_
  exact .bind (avoids_require (listed rfl)) fun _ _ => .ok _

/-- What `create_project` may raise. -/
lemma Genesis.createProject_errors (a : CreateProject K) (now : Int64) (id target : U64) (months : U8) :
    (createProject (g.run as) a now id target months).Avoids (Error.In (Foreign .createProject)) := by
  refine .bind avoids_load fun _ _ => ?_
  refine .bind avoids_load fun _ _ => ?_
  refine .bind avoids_load fun _ _ => ?_
  refine .bind avoids_initProgramAccount fun _ _ => ?_
  refine .bind avoids_initMint fun _ _ => ?_
  refine .bind avoids_initAssociatedToken fun _ _ => ?_
  refine .bind (avoids_checkPlatform (listed rfl)) fun _ _ => ?_
  refine .bind (avoids_require (listed rfl)) fun _ _ => ?_
  refine .bind (avoids_require (listed rfl)) fun _ _ => ?_
  refine .bind (avoids_require (listed rfl)) fun _ _ => ?_
  exact .bind (avoids_require (listed rfl)) fun _ _ => .ok _

/-- What `activate_project` may raise. -/
lemma Genesis.activateProject_errors (a : ActivateProject K) (now : Int64) :
    (activateProject (g.run as) a now).Avoids (Error.In (Foreign .activateProject)) := by
  unfold activateProject payFee
  refine .bind avoids_load fun platform _ => ?_
  refine .bind avoids_load fun project _ => ?_
  refine .bind avoids_load fun _ _ => ?_
  refine .bind avoids_load fun _ _ => ?_
  refine .bind avoids_load fun _ _ => ?_
  refine .bind avoids_noDuplicates fun _ _ => ?_
  refine .bind (avoids_checkPlatform (listed rfl)) fun _ _ => ?_
  refine .bind (avoids_require (listed rfl)) fun _ _ => ?_
  refine .bind (avoids_require (listed rfl)) fun _ _ => ?_
  refine .bind avoids_checkSeeds fun _ _ => ?_
  refine .bind (avoids_require (listed rfl)) fun _ _ => ?_
  refine .bind avoids_checkToken fun _ _ => ?_
  refine .bind (avoids_require (listed rfl)) fun _ _ => ?_
  refine .bind (avoids_require (listed rfl)) fun _ _ => ?_
  obtain ⟨fee, priced⟩ := originationFee_of project.targetAmount platform.originationFeeBps
  rw [Except.bind_of_ok priced]
  refine .bind ?_ fun _ _ => .ok _
  split
  · exact .bind avoids_signWith fun _ _ => avoids_cpi
  · exact .ok _

/-- What `distribute_repayment` may raise. -/
lemma Genesis.distributeRepayment_errors (a : DistributeRepayment K) (n : U64) :
    (distributeRepayment (g.run as) a n).Avoids (Error.In (Foreign .distributeRepayment)) := by
  refine .bind avoids_load fun _ _ => ?_
  refine .bind avoids_load fun project own => ?_
  refine .bind avoids_load fun _ _ => ?_
  refine .bind avoids_load fun _ _ => ?_
  refine .bind avoids_load fun _ _ => ?_
  refine .bind avoids_noDuplicates fun _ _ => ?_
  refine .bind (avoids_checkPlatform (listed rfl)) fun _ _ => ?_
  refine .bind (avoids_require (listed rfl)) fun _ _ => ?_
  refine .bind avoids_checkSeeds fun _ _ => ?_
  refine .bind (avoids_require (listed rfl)) fun _ _ => ?_
  refine .bind avoids_checkToken fun _ _ => ?_
  refine .bind (avoids_require (listed rfl)) fun _ _ => ?_
  refine .bind (avoids_require (listed rfl)) fun _ status => ?_
  have sold := g.sold_of_started as (load_eq_ok.mp own) (require_eq_ok.mp status)
  refine .bind (.require_of sold) fun _ _ => ?_
  refine .bind avoids_cpi fun _ _ => ?_
  exact .bind (avoids_accumulate (listed rfl) sold) fun _ _ => .ok _

/-- What `close_project` may raise. -/
lemma Genesis.closeProject_errors (a : CloseProject K) :
    (closeProject (g.run as) a).Avoids (Error.In (Foreign .closeProject)) := by
  refine .bind avoids_load fun _ _ => ?_
  refine .bind avoids_load fun _ _ => ?_
  refine .bind (avoids_checkPlatform (listed rfl)) fun _ _ => ?_
  refine .bind avoids_checkSeeds fun _ _ => ?_
  exact .bind (avoids_require (listed rfl)) fun _ _ => .ok _

/-- What `create_pool` may raise. -/
lemma Genesis.createPool_errors (a : CreatePool K) (now : Int64) (id target : U64) :
    (createPool (g.run as) a now id target).Avoids (Error.In (Foreign .createPool)) := by
  refine .bind avoids_load fun _ _ => ?_
  refine .bind avoids_load fun _ _ => ?_
  refine .bind avoids_initProgramAccount fun _ _ => ?_
  refine .bind avoids_initMint fun _ _ => ?_
  refine .bind avoids_initAssociatedToken fun _ _ => ?_
  refine .bind (avoids_checkPlatform (listed rfl)) fun _ _ => ?_
  refine .bind (avoids_require (listed rfl)) fun _ _ => ?_
  exact .bind (avoids_require (listed rfl)) fun _ _ => .ok _

/-- What `add_project_to_pool` may raise. -/
lemma Genesis.addProjectToPool_errors (a : AddProjectToPool K) :
    (addProjectToPool (g.run as) a).Avoids (Error.In (Foreign .addProjectToPool)) := by
  refine .bind avoids_load fun _ _ => ?_
  refine .bind avoids_load fun _ _ => ?_
  refine .bind avoids_load fun _ _ => ?_
  refine .bind avoids_initProgramAccount fun _ _ => ?_
  refine .bind (avoids_checkPlatform (listed rfl)) fun _ _ => ?_
  refine .bind avoids_checkSeeds fun _ _ => ?_
  refine .bind avoids_checkSeeds fun _ _ => ?_
  exact .bind (avoids_require (listed rfl)) fun _ _ => .ok _

/-- What `distribute_pool_returns` may raise. -/
lemma Genesis.distributePoolReturns_errors (a : DistributePoolReturns K) (n : U64) :
    (distributePoolReturns (g.run as) a n).Avoids (Error.In (Foreign .distributePoolReturns)) := by
  refine .bind avoids_load fun _ _ => ?_
  refine .bind avoids_load fun _ _ => ?_
  refine .bind avoids_load fun _ _ => ?_
  refine .bind avoids_load fun _ _ => ?_
  refine .bind avoids_load fun _ _ => ?_
  refine .bind avoids_noDuplicates fun _ _ => ?_
  refine .bind (avoids_checkPlatform (listed rfl)) fun _ _ => ?_
  refine .bind (avoids_require (listed rfl)) fun _ _ => ?_
  refine .bind avoids_checkSeeds fun _ _ => ?_
  refine .bind (avoids_require (listed rfl)) fun _ _ => ?_
  refine .bind avoids_checkToken fun _ _ => ?_
  refine .bind (avoids_require (listed rfl)) fun _ _ => ?_
  refine .bind (avoids_require (listed rfl)) fun _ sold => ?_
  refine .bind avoids_cpi fun _ _ => ?_
  exact .bind (avoids_accumulate (listed rfl) (require_eq_ok.mp sold)) fun _ _ => .ok _

/-- What `withdraw_project_funds` may raise. -/
lemma Genesis.withdrawProjectFunds_errors (a : WithdrawProjectFunds K) (n : U64) :
    (withdrawProjectFunds (g.run as) a n).Avoids (Error.In (Foreign .withdrawProjectFunds)) := by
  refine .bind avoids_load fun _ _ => ?_
  refine .bind avoids_load fun _ _ => ?_
  refine .bind avoids_load fun _ _ => ?_
  refine .bind avoids_load fun _ _ => ?_
  refine .bind avoids_load fun _ _ => ?_
  refine .bind avoids_noDuplicates fun _ _ => ?_
  refine .bind (avoids_checkPlatform (listed rfl)) fun _ _ => ?_
  refine .bind (avoids_require (listed rfl)) fun _ _ => ?_
  refine .bind avoids_checkSeeds fun _ _ => ?_
  refine .bind (avoids_require (listed rfl)) fun _ _ => ?_
  refine .bind avoids_constraint fun _ _ => ?_
  refine .bind (avoids_require (listed rfl)) fun _ _ => ?_
  refine .bind (avoids_require (listed rfl)) fun _ _ => ?_
  refine .bind avoids_signWith fun _ _ => ?_
  exact .bind avoids_cpi fun _ _ => .ok _

/-- What `buy_project_tokens` may raise. -/
lemma Genesis.buyProjectTokens_errors (a : BuyProjectTokens K) (n : U64) :
    (buyProjectTokens (g.run as) a n).Avoids (Error.In (Foreign .buyProjectTokens)) := by
  refine .bind avoids_load fun project own => ?_
  refine .bind avoids_load fun _ _ => ?_
  refine .bind avoids_load fun _ _ => ?_
  refine .bind avoids_load fun _ _ => ?_
  refine .bind avoids_load fun _ _ => ?_
  refine .bind avoids_ensureAssociatedToken fun _ _ => ?_
  refine .bind avoids_ensurePosition fun q ensured => ?_
  refine .bind avoids_noDuplicates fun _ _ => ?_
  refine .bind avoids_checkSeeds fun _ _ => ?_
  refine .bind (avoids_require (listed rfl)) fun _ _ => ?_
  refine .bind (avoids_require (listed rfl)) fun _ _ => ?_
  refine .bind avoids_checkToken fun _ _ => ?_
  refine .bind (avoids_require (listed rfl)) fun _ _ => ?_
  have sound := g.fund_sound as (State.fund_project (load_eq_ok.mp own))
  refine .bind (avoids_require (listed rfl)) fun _ _ => ?_
  have held := (g.run_wf as).view.purchase_held_le sound ensured project.cumulativeUsdcPerToken
  refine .bind (.okOr_some (checkedSub_ne_none sound.room)) fun remaining left => ?_
  refine .bind (avoids_require (listed rfl)) fun _ le => ?_
  obtain ⟨more, total⟩ := purchase_fits sound.room held left (require_eq_ok.mp le)
  refine .bind avoids_cpi fun _ _ => ?_
  refine .bind avoids_signWith fun _ _ => ?_
  refine .bind avoids_cpi fun _ _ => ?_
  refine .bind (.okOr_some more) fun _ _ => ?_
  exact .bind (.okOr_some total) fun _ _ => .ok _

/-- What `buy_pool_tokens` may raise. -/
lemma Genesis.buyPoolTokens_errors (a : BuyPoolTokens K) (n : U64) :
    (buyPoolTokens (g.run as) a n).Avoids (Error.In (Foreign .buyPoolTokens)) := by
  refine .bind avoids_load fun pool own => ?_
  refine .bind avoids_load fun _ _ => ?_
  refine .bind avoids_load fun _ _ => ?_
  refine .bind avoids_load fun _ _ => ?_
  refine .bind avoids_load fun _ _ => ?_
  refine .bind avoids_ensureAssociatedToken fun _ _ => ?_
  refine .bind avoids_ensurePosition fun q ensured => ?_
  refine .bind avoids_noDuplicates fun _ _ => ?_
  refine .bind avoids_checkSeeds fun _ _ => ?_
  refine .bind (avoids_require (listed rfl)) fun _ _ => ?_
  refine .bind (avoids_require (listed rfl)) fun _ _ => ?_
  refine .bind avoids_checkToken fun _ _ => ?_
  refine .bind (avoids_require (listed rfl)) fun _ _ => ?_
  have sound := g.fund_sound as (State.fund_pool (load_eq_ok.mp own))
  refine .bind (.require_of (g.pool_funding as (load_eq_ok.mp own))) fun _ _ => ?_
  have held := (g.run_wf as).view.purchase_held_le sound ensured pool.cumulativeUsdcPerToken
  refine .bind (.okOr_some (checkedSub_ne_none sound.room)) fun remaining left => ?_
  refine .bind (avoids_require (listed rfl)) fun _ le => ?_
  obtain ⟨more, total⟩ := purchase_fits sound.room held left (require_eq_ok.mp le)
  refine .bind avoids_cpi fun _ _ => ?_
  refine .bind avoids_signWith fun _ _ => ?_
  refine .bind avoids_cpi fun _ _ => ?_
  refine .bind (.okOr_some more) fun _ _ => ?_
  exact .bind (.okOr_some total) fun _ _ => .ok _

/-- What `claim_project_returns` may raise. -/
lemma Genesis.claimProjectReturns_errors (a : ClaimProjectReturns K) :
    (claimProjectReturns (g.run as) a).Avoids (Error.In (Foreign .claimProjectReturns)) := by
  refine .bind avoids_load fun project own => ?_
  refine .bind avoids_load fun _ _ => ?_
  refine .bind avoids_load fun q held => ?_
  refine .bind avoids_load fun _ _ => ?_
  refine .bind avoids_ensureAssociatedToken fun _ _ => ?_
  refine .bind avoids_noDuplicates fun _ _ => ?_
  refine .bind avoids_checkSeeds fun _ _ => ?_
  refine .bind (avoids_require (listed rfl)) fun _ _ => ?_
  refine .bind avoids_checkSeeds fun _ seeds => ?_
  have placed := (g.run_wf as).view.checkedPosition (load_eq_ok.mp held) (checkSeeds_eq_ok.mp seeds)
  refine .bind (.require_of placed.owner) fun _ _ => ?_
  refine .bind (.require_of placed.target) fun _ _ => ?_
  obtain ⟨settled, pending, scaled, fits, claimed⟩ :=
    g.bounds as (load_eq_ok.mp own) (load_eq_ok.mp held) placed.target
  obtain ⟨owed, pays⟩ := claimable_of settled (pending.trans_lt scaled) fits
  rw [Except.bind_of_ok pays]
  refine .bind (avoids_require (listed rfl)) fun _ _ => ?_
  refine .bind (avoids_require (listed rfl)) fun _ _ => ?_
  refine .bind avoids_signWith fun _ _ => ?_
  refine .bind avoids_cpi fun _ _ => ?_
  refine .bind (.bind (.okOr_some ?_) fun _ _ => .ok _) fun _ _ => .ok _
  rw [Ne, BitVec.checkedAdd_eq_none, (claimable_ok pays).2]
  exact Nat.not_le.mpr (claimed.trans_lt project.totalDistributed.isLt)

/-- What `claim_pool_returns` may raise. -/
lemma Genesis.claimPoolReturns_errors (a : ClaimPoolReturns K) :
    (claimPoolReturns (g.run as) a).Avoids (Error.In (Foreign .claimPoolReturns)) := by
  refine .bind avoids_load fun pool own => ?_
  refine .bind avoids_load fun _ _ => ?_
  refine .bind avoids_load fun q held => ?_
  refine .bind avoids_load fun _ _ => ?_
  refine .bind avoids_ensureAssociatedToken fun _ _ => ?_
  refine .bind avoids_noDuplicates fun _ _ => ?_
  refine .bind avoids_checkSeeds fun _ _ => ?_
  refine .bind (avoids_require (listed rfl)) fun _ _ => ?_
  refine .bind avoids_checkSeeds fun _ seeds => ?_
  have placed := (g.run_wf as).view.checkedPosition (load_eq_ok.mp held) (checkSeeds_eq_ok.mp seeds)
  refine .bind (.require_of placed.owner) fun _ _ => ?_
  refine .bind (.require_of placed.target) fun _ _ => ?_
  have own' := View.lookup_holdings_of (v := (g.run as).view) (load_eq_ok.mp held)
  rw [placed.target] at own'
  have settled := (g.fund_sound as (State.fund_pool (load_eq_ok.mp own))).ledger.settled _ _ own'
  refine .bind (avoids_claimable (.inr settled) (listed rfl)) fun _ _ => ?_
  refine .bind (avoids_require (listed rfl)) fun _ _ => ?_
  refine .bind (avoids_require (listed rfl)) fun _ _ => ?_
  refine .bind avoids_signWith fun _ _ => ?_
  refine .bind avoids_cpi fun _ _ => ?_
  exact .bind (avoids_settlePosition (listed rfl)) fun _ _ => .ok _

/-- What `withdraw_investment` may raise. -/
lemma Genesis.withdrawInvestment_errors (a : WithdrawInvestment K) :
    (withdrawInvestment (g.run as) a).Avoids (Error.In (Foreign .withdrawInvestment)) := by
  refine .bind avoids_load fun project own => ?_
  refine .bind avoids_load fun _ _ => ?_
  refine .bind avoids_load fun _ _ => ?_
  refine .bind avoids_load fun q held => ?_
  refine .bind avoids_load fun _ _ => ?_
  refine .bind avoids_load fun _ _ => ?_
  refine .bind avoids_load fun _ _ => ?_
  refine .bind avoids_noDuplicates fun _ _ => ?_
  refine .bind avoids_checkSeeds fun _ _ => ?_
  refine .bind (avoids_require (listed rfl)) fun _ _ => ?_
  refine .bind (avoids_require (listed rfl)) fun _ _ => ?_
  refine .bind avoids_checkSeeds fun _ seeds => ?_
  have placed := (g.run_wf as).view.checkedPosition (load_eq_ok.mp held) (checkSeeds_eq_ok.mp seeds)
  refine .bind (.require_of placed.owner) fun _ _ => ?_
  refine .bind avoids_checkToken fun _ _ => ?_
  refine .bind avoids_checkToken fun _ _ => ?_
  refine .bind (avoids_require (listed rfl)) fun _ _ => ?_
  refine .bind (avoids_require (listed rfl)) fun _ _ => ?_
  refine .bind avoids_cpi fun _ _ => ?_
  refine .bind avoids_signWith fun _ _ => ?_
  refine .bind avoids_cpi fun _ _ => ?_
  have own' := View.lookup_holdings_of (v := (g.run as).view) (load_eq_ok.mp held)
  rw [placed.target] at own'
  have le := (g.fund_sound as (State.fund_project (load_eq_ok.mp own))).ledger.le_sold own'
  exact .bind (.okOr_some (checkedSub_ne_none le)) fun _ _ => .ok _

/-- What `register_mrv_project` may raise. -/
lemma Genesis.registerMrvProject_errors (a : RegisterMrvProject K) (now : Int64) (id : U64)
    (name sector location upgrade : String) :
    (registerMrvProject (g.run as) a now id name sector location upgrade).Avoids
      (Error.In (Foreign .registerMrvProject)) := by
  refine .bind avoids_load fun _ _ => ?_
  refine .bind avoids_initProgramAccount fun _ _ => ?_
  refine .bind (avoids_checkPlatform (listed rfl)) fun _ _ => ?_
  refine .bind (avoids_padInto (listed rfl)) fun _ _ => ?_
  refine .bind (avoids_padInto (listed rfl)) fun _ _ => ?_
  refine .bind (avoids_padInto (listed rfl)) fun _ _ => ?_
  exact .bind (avoids_padInto (listed rfl)) fun _ _ => .ok _

/-- What `add_auditor` may raise. -/
lemma Genesis.addAuditor_errors (a : AddAuditor K) (now : Int64) (name certification : String) :
    (addAuditor (g.run as) a now name certification).Avoids (Error.In (Foreign .addAuditor)) := by
  refine .bind avoids_load fun _ _ => ?_
  refine .bind avoids_initProgramAccount fun _ _ => ?_
  refine .bind (avoids_checkPlatform (listed rfl)) fun _ _ => ?_
  refine .bind (avoids_padInto (listed rfl)) fun _ _ => ?_
  exact .bind (avoids_padInto (listed rfl)) fun _ _ => .ok _

/-- What `submit_baseline` may raise. -/
lemma Genesis.submitBaseline_errors (a : SubmitBaseline K) (now : Int64) (energy : U64) (fuel : String)
    (cost co2 : U64) (hash : Vector U8 32) :
    (submitBaseline (g.run as) a now energy fuel cost co2 hash).Avoids
      (Error.In (Foreign .submitBaseline)) := by
  refine .bind avoids_load fun auditor known => ?_
  refine .bind avoids_load fun entry found => ?_
  refine .bind avoids_initProgramAccount fun _ made => ?_
  refine .bind (g.avoids_checkAuditor as (load_eq_ok.mp known)) fun _ _ => ?_
  refine .bind avoids_checkSeeds fun _ _ => ?_
  obtain ⟨place, vacant⟩ := initProgramAccount_ok.mp made
  refine .bind (.require_of (g.first_baseline as (load_eq_ok.mp found) (place ▸ vacant))) fun _ _ => ?_
  exact .bind (avoids_padInto (listed rfl)) fun _ _ => .ok _

/-- What `submit_verification` may raise. -/
lemma Genesis.submitVerification_errors (a : SubmitVerification K) (now : Int64) (index : U8)
    (start stop : Int64) (energy cost co2 : U64) (savings : U16) (hash : Vector U8 32) :
    (submitVerification (g.run as) a now index start stop energy cost co2 savings hash).Avoids
      (Error.In (Foreign .submitVerification)) := by
  refine .bind avoids_load fun auditor known => ?_
  refine .bind avoids_load fun _ _ => ?_
  refine .bind avoids_initProgramAccount fun _ _ => ?_
  refine .bind (g.avoids_checkAuditor as (load_eq_ok.mp known)) fun _ _ => ?_
  refine .bind avoids_checkSeeds fun _ _ => ?_
  refine .bind (avoids_require (listed rfl)) fun _ _ => ?_
  exact .bind (avoids_require (listed rfl)) fun _ _ => .ok _

/-- What `attest_verification` may raise. -/
lemma Genesis.attestVerification_errors (a : AttestVerification K) :
    (attestVerification (g.run as) a).Avoids (Error.In (Foreign .attestVerification)) := by
  refine .bind avoids_load fun auditor known => ?_
  refine .bind avoids_load fun _ _ => ?_
  refine .bind avoids_load fun _ _ => ?_
  refine .bind (g.avoids_checkAuditor as (load_eq_ok.mp known)) fun _ _ => ?_
  refine .bind avoids_checkSeeds fun _ _ => ?_
  refine .bind avoids_checkSeeds fun _ _ => ?_
  refine .bind (avoids_require (listed rfl)) fun _ _ => ?_
  exact .bind (avoids_require (listed rfl)) fun _ _ => .ok _

/-- An instruction raises no error that is foreign to its function. -/
lemma Genesis.handle_errors (now : Int64) (i : Instruction K) :
    (handle (g.run as) now i).Avoids (Error.In i.kind.Foreign) := by
  cases i with
  | initializePlatform a fee performance hurdle => exact g.initializePlatform_errors as a fee performance hurdle
  | createProject a id target months => exact g.createProject_errors as a now id target months
  | activateProject a => exact g.activateProject_errors as a now
  | distributeRepayment a n => exact g.distributeRepayment_errors as a n
  | closeProject a => exact g.closeProject_errors as a
  | createPool a id target => exact g.createPool_errors as a now id target
  | addProjectToPool a => exact g.addProjectToPool_errors as a
  | distributePoolReturns a n => exact g.distributePoolReturns_errors as a n
  | withdrawProjectFunds a n => exact g.withdrawProjectFunds_errors as a n
  | buyProjectTokens a n => exact g.buyProjectTokens_errors as a n
  | claimProjectReturns a => exact g.claimProjectReturns_errors as a
  | withdrawInvestment a => exact g.withdrawInvestment_errors as a
  | buyPoolTokens a n => exact g.buyPoolTokens_errors as a n
  | claimPoolReturns a => exact g.claimPoolReturns_errors as a
  | registerMrvProject a id name sector location upgrade =>
    exact g.registerMrvProject_errors as a now id name sector location upgrade
  | addAuditor a name certification => exact g.addAuditor_errors as a now name certification
  | submitBaseline a energy fuel cost co2 hash =>
    exact g.submitBaseline_errors as a now energy fuel cost co2 hash
  | submitVerification a index start stop energy cost co2 savings hash =>
    exact g.submitVerification_errors as a now index start stop energy cost co2 savings hash
  | attestVerification a => exact g.attestVerification_errors as a

/-- A call raises no error of the program but the ones of its function. -/
lemma Genesis.step_errors {now : Int64} {i : Instruction K} {e : ExiraError}
    (raised : (g.run as).errorOf (.call now i) = some (.exira e)) : e ∈ i.kind.errors := by
  by_contra foreign
  have avoids : (step (g.run as) (.call now i)).Avoids (Error.In i.kind.Foreign) :=
    step_avoids (g.handle_errors as now i)
  exact avoids_ne avoids foreign (State.errorOf_eq_some.mp raised)

end

end Exira
