import Exira.Errors
import Exira.Project.Conservation

/-!
# Project claims are solvent

While the admin takes out no more than the principal that the fee left, the vault of a project covers
everything that its positions are owed, so every claim with something to pay goes through.
-/

namespace Exira

open Dividend

/-! ## Funds -/

namespace Fund

variable {ι : Type} [DecidableEq ι] {P : ℕ} {f : Fund ι} {tr : List (Fund ι × Event ι)}

/-- Before a project is activated, nobody is owed anything. -/
lemma Sound.owedTotal_funding (sound : f.Sound) (project : f.layer = .project)
    (funding : f.status = .funding) : f.owedTotal P = 0 := by
  obtain ⟨-, index, -, -⟩ := sound.funding project funding
  apply Finmap.sum_eq_zero
  intro i h _
  simp [Holding.owed, Holding.pending, index]

/-- The vault of a project that paid out at most its principal less the fee covers what it owes. -/
theorem Reaches.solvent (run : Reaches P tr f) (project : f.layer = .project) (P_pos : 0 < P)
    (within : total (fun _ => Event.payouts) tr + f.fee ≤ f.target) :
    f.owedTotal P ≤ f.vault := by
  by_cases funding : f.status = .funding
  · rw [run.sound.owedTotal_funding project funding]
    exact Nat.zero_le _
  · have full := run.sound.full funding
    have vault := run.vault
    have owed := run.paid_le_project project P_pos
    omega

end Fund

/-! ## Projects -/

variable {K : Type} [DecidableEq K]

/-- What the holders of a project are owed is what its fund owes. -/
lemma State.sum_owed_project (s : State K) (p : K) (project : Project K) :
    s.sumPositions p (fun q => q.owed project.cumulativeUsdcPerToken)
      = (s.view.fundOf (.project p) project.listing).owedTotal PRECISION.toNat :=
  State.sumPositions_eq fun _ => rfl

variable [Addresses K]

/-- As long as the payouts of a project stay within its principal less the fee, the vault covers all that
its positions are owed; the owner's claim on a position that is owed something succeeds, and no claim
finds the vault short. -/
theorem project_claims_solvent (g : Genesis K) (as : List (Action K)) (p : K) (project : Project K)
    (own : (g.run as).projects.lookup p = some project)
    (within : tally Event.payouts (.project p) (g.history as)
      + project.originationFeeCollected.toNat ≤ project.targetAmount.toNat) :
    (g.run as).sumPositions p (fun q => q.owed project.cumulativeUsdcPerToken)
        ≤ (g.run as).bank.balance project.usdcVault ∧
      (∀ k q, (g.run as).positions.lookup k = some q → q.target = p →
        0 < q.owed project.cumulativeUsdcPerToken →
        ∃ usdc, (g.run as).bank.holder project.usdcVault = some (usdc, p) ∧ ∀ now, ∃ s',
          step (g.run as) (.call now (Client.claimProject usdc p project.usdcVault q.owner))
            = .ok s') ∧
      ∀ now a, a.project = p →
        step (g.run as) (.call now (.claimProjectReturns a))
          ≠ .error (.exira .insufficientVaultBalance) := by
  have wf := g.run_wf as
  have run := g.reaches as (State.fund_project own)
  have solvent := run.solvent rfl (by decide) within
  have holding : ∀ {k q}, (g.run as).positions.lookup k = some q → q.target = p →
      ((g.run as).view.fundOf (.project p) project.listing).holdings.lookup k = some q.holding := by
    rintro k q held rfl
    exact View.lookup_holdings_of held
  refine ⟨(State.sum_owed_project _ _ _).trans_le solvent, ?_, ?_⟩
  · intro k q held target pos
    have own' := holding held target
    have settled := run.sound.ledger.settled _ _ own'
    have owed := Fund.owed_le_owedTotal (P := PRECISION.toNat) own'
    have total := run.claim_le_project rfl (by decide) own'
    exact claimProject_ok wf own held target settled pos (total.trans_lt project.totalDistributed.isLt)
      (owed.trans solvent)
  · intro now a target
    refine avoids_ne (step_avoids ?_) rfl
    refine claimProjectReturns_avoids ⟨nofun, nofun, nofun⟩ ?_ wf
    -- the guard itself: the owed amount is part of what the vault covers
    intro project' q vault own' held placed found
    rw [target] at own' placed
    obtain rfl : project = project' := Option.some.inj (own.symm.trans own')
    refine ⟨avoids_claimable (.inl nofun) nofun, ?_⟩
    intro owed pays
    refine ⟨avoids_require nofun, .require_of ?_, avoids_settlePosition nofun⟩
    have value := (claimable_ok pays).2
    have le := Fund.owed_le_owedTotal (P := PRECISION.toNat) (holding held placed.target)
    have balance := Token.Bank.balance_eq found
    rw [BitVec.le_def, value, ← balance]
    exact le.trans solvent

/-- The admin takes out all of the principal that the fee left, and then repays 10. -/
def demoDrawn : List (Action Addr) :=
  Client.demoActive ++
    [.call 0 (Client.demo.withdrawProjectFunds 1 99 (.ata (.wallet 0) (.wallet 1))),
      Client.demoRepay 10]

/-- A vault that is drawn on, and repaid. -/
theorem project_claims_solvent_demo : ∃ project : Project Addr,
    (Genesis.blank.run demoDrawn).projects.lookup (Client.project 1) = some project ∧
      project.originationFeeCollected = 1 ∧ project.totalDistributed = 10 ∧
      (Genesis.blank.run demoDrawn).sumPositions (Client.project 1)
          (fun q => q.owed project.cumulativeUsdcPerToken)
        ≤ (Genesis.blank.run demoDrawn).bank.balance project.usdcVault := by
  have drawn : ((Genesis.blank.run demoDrawn).projects.lookup (Client.project 1)).map
      (fun project => (project.originationFeeCollected, project.targetAmount,
        project.totalDistributed)) = some (1, 100, 10) := by decide +kernel
  have payouts : tally Event.payouts (.project (Client.project 1))
      (Genesis.blank.history demoDrawn) = 99 := by decide +kernel
  obtain ⟨project, own, e⟩ := Option.map_eq_some_iff.mp drawn
  injection e with fee e
  injection e with target total
  refine ⟨project, own, fee, total, (project_claims_solvent _ _ _ project own ?_).1⟩
  rw [payouts, fee, target]
  decide

end Exira
