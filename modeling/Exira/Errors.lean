import Exira.Moves

/-!
# Errors of the claims

A claim raises an error of the program only in one of its checks or in its arithmetic. The checks aside,
what a claim avoids follows from its three computations: the amount, the comparison with the vault, and
the settlement.
-/

namespace Exira

variable {K : Type} [DecidableEq K] [Addresses K] {s : State K} {bad : ExiraError → Prop}

/-- The checks that every claim makes do not raise a bad error. -/
def Checks (bad : ExiraError → Prop) : Prop :=
  ¬ bad .wrongVault ∧ ¬ bad .unauthorized ∧ ¬ bad .wrongPlatform

/-- The amount of a claim and what is done with it do not raise a bad error. -/
def Computes (bad : ExiraError → Prop) (cumulative : U128) (q : InvestorPosition K)
    (vault : Token.Account K) : Prop :=
  (claimable cumulative q.lastClaimedPerToken q.tokensHeld).Avoids (Error.In bad) ∧
    ∀ owed, claimable cumulative q.lastClaimedPerToken q.tokensHeld = .ok owed →
      (require (0 < owed) .nothingToClaim).Avoids (Error.In bad) ∧
        (require (owed ≤ vault.amount) .insufficientVaultBalance).Avoids (Error.In bad) ∧
        (settlePosition q cumulative owed).Avoids (Error.In bad)

/-- A claim at a project raises none of the errors that its checks and its arithmetic avoid. -/
lemma claimProjectReturns_avoids {a : ClaimProjectReturns K} (checks : Checks bad)
    (computes : ∀ project q vault, s.projects.lookup a.project = some project →
      s.positions.lookup a.position = some q → Placed a.project a.investor a.position q →
      s.bank.accounts.lookup project.usdcVault = some vault →
      Computes bad project.cumulativeUsdcPerToken q vault) (wf : s.Wf) :
    (claimProjectReturns s a).Avoids (Error.In bad) := by
  obtain ⟨vault, owner, target⟩ := checks
  unfold claimProjectReturns
  refine .bind avoids_load fun project own => ?_
  refine .bind avoids_load fun account found => ?_
  refine .bind avoids_load fun q held => ?_
  refine .bind avoids_load fun _ _ => ?_
  refine .bind avoids_ensureAssociatedToken fun _ _ => ?_
  refine .bind avoids_noDuplicates fun _ _ => ?_
  refine .bind avoids_checkSeeds fun _ _ => ?_
  refine .bind (avoids_require vault) fun _ vault => ?_
  refine .bind avoids_checkSeeds fun _ seeds => ?_
  refine .bind (avoids_require owner) fun _ _ => ?_
  refine .bind (avoids_require target) fun _ _ => ?_
  simp only [load_eq_ok, checkSeeds_eq_ok, require_eq_ok] at own vault found held seeds
  have placed := wf.view.checkedPosition held seeds
  obtain ⟨amount, rest⟩ := computes project q account own held placed (vault ▸ found)
  refine .bind amount fun owed pays => ?_
  obtain ⟨some, covered, settles⟩ := rest owed pays
  refine .bind some fun _ _ => ?_
  refine .bind covered fun _ _ => ?_
  refine .bind avoids_signWith fun _ _ => ?_
  refine .bind avoids_cpi fun _ _ => ?_
  exact .bind settles fun _ _ => .ok _

/-- Nor does a claim at a pool. -/
lemma claimPoolReturns_avoids {a : ClaimPoolReturns K} (checks : Checks bad)
    (computes : ∀ pool q vault, s.pools.lookup a.pool = some pool →
      s.positions.lookup a.position = some q → Placed a.pool a.investor a.position q →
      s.bank.accounts.lookup pool.usdcVault = some vault →
      Computes bad pool.cumulativeUsdcPerToken q vault) (wf : s.Wf) :
    (claimPoolReturns s a).Avoids (Error.In bad) := by
  obtain ⟨vault, owner, target⟩ := checks
  unfold claimPoolReturns
  refine .bind avoids_load fun pool own => ?_
  refine .bind avoids_load fun account found => ?_
  refine .bind avoids_load fun q held => ?_
  refine .bind avoids_load fun _ _ => ?_
  refine .bind avoids_ensureAssociatedToken fun _ _ => ?_
  refine .bind avoids_noDuplicates fun _ _ => ?_
  refine .bind avoids_checkSeeds fun _ _ => ?_
  refine .bind (avoids_require vault) fun _ vault => ?_
  refine .bind avoids_checkSeeds fun _ seeds => ?_
  refine .bind (avoids_require owner) fun _ _ => ?_
  refine .bind (avoids_require target) fun _ _ => ?_
  simp only [load_eq_ok, checkSeeds_eq_ok, require_eq_ok] at own vault found held seeds
  have placed := wf.view.checkedPosition held seeds
  obtain ⟨amount, rest⟩ := computes pool q account own held placed (vault ▸ found)
  refine .bind amount fun owed pays => ?_
  obtain ⟨some, covered, settles⟩ := rest owed pays
  refine .bind some fun _ _ => ?_
  refine .bind covered fun _ _ => ?_
  refine .bind avoids_signWith fun _ _ => ?_
  refine .bind avoids_cpi fun _ _ => ?_
  exact .bind settles fun _ _ => .ok _

/-- A call raises what its handler raises. -/
lemma step_avoids {now : Int64} {i : Instruction K} (h : (handle s now i).Avoids (Error.In bad)) :
    (step s (.call now i)).Avoids (Error.In bad) :=
  .bind avoids_constraint fun _ _ => h

/-- An error that is avoided is not raised. -/
lemma avoids_ne {α : Type} {x : Result α} (h : x.Avoids (Error.In bad)) {e : ExiraError}
    (b : bad e) : x ≠ .error (.exira e) :=
  fun eq => h _ eq b

/-- A claim that finds nothing to claim has passed its checks. -/
lemma claimPoolReturns_nothing (wf : s.Wf) {c : ClaimPoolReturns K}
    (h : claimPoolReturns s c = .error (.exira .nothingToClaim)) :
    c.position = findProgramAddress (.position c.pool c.investor) := by
  by_contra ne
  refine avoids_ne (claimPoolReturns_avoids ⟨nofun, nofun, nofun⟩ ?_ wf) rfl h
  intro _ _ _ _ _ placed
  exact absurd placed.key ne

end Exira
