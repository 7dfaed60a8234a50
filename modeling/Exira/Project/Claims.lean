import Exira.Books.Accrual
import Exira.Project.Conservation

/-!
# Claims on a project

The claim that a holder makes with the derived accounts is the only one that can pass, and in a reachable
state whose vault covers it, it has one of two outcomes: it pays what the position is owed, or nothing is
owed and it reverts.
-/

namespace Exira

open Dividend

variable {K : Type} [DecidableEq K]

/-- The claim that an action makes on a project. -/
def Action.projectClaim : Action K → Option (ClaimProjectReturns K)
  | .call _ (.claimProjectReturns c) => some c
  | _ => none

omit [DecidableEq K] in
/-- The action of a claim. -/
lemma Action.projectClaim_eq_some {x : Action K} {c : ClaimProjectReturns K}
    (e : x.projectClaim = some c) : ∃ now, x = .call now (.claimProjectReturns c) := by
  unfold Action.projectClaim at e
  split at e
  · cases e
    exact ⟨_, rfl⟩
  · cases e

/-- The action is a claim of `w` on the project at `p`. -/
def Action.claimsProject (p w : K) (a : Action K) : Bool :=
  a.projectClaim.any fun c => c.project = p ∧ c.investor = w

/-- The event of a claim is that of a claim at the project. -/
lemma projectClaim_of_event {s : State K} {x : Action K} {p k : K}
    (e : s.event (.project p) x = some (.claim k)) :
    ∃ c, x.projectClaim = some c ∧ c.project = p ∧ c.position = k := by
  cases State.event_raises e
  exact ⟨_, rfl, rfl, rfl⟩

variable [Addresses K] {s s' : State K} {p w : K} {project : Project K} {q : InvestorPosition K}

/-- A claim on a project is on the position of its investor. -/
lemma projectClaim_position (wf : s.Wf) {x : Action K} {c : ClaimProjectReturns K}
    (e : x.projectClaim = some c) (st : step s x = .ok s') :
    c.position = Client.position c.project c.investor := by
  obtain ⟨now, rfl⟩ := Action.projectClaim_eq_some e
  obtain ⟨project, q, q', n, b₀, b₁, -, claim, -⟩ := claimProjectReturns_inv wf (step_call st).2
  exact claim.placed.key

/-- Claims on the position of a wallet are claims of the wallet. -/
lemma Genesis.projectClaims_le (g : Genesis K) (as : List (Action K)) (p w : K) :
    tally (Event.claimsBy (Client.position p w)) (.project p) (g.history as)
      ≤ (g.history as).countP fun x => x.2.claimsProject p w := by
  apply tally_le_countP
  intro x mem e ev
  obtain ⟨bs, -, -, met, s', st⟩ := Genesis.mem_history mem
  cases e with
  | claim k =>
    obtain ⟨c, claims, target, rfl⟩ := projectClaim_of_event ev
    have place := projectClaim_position (met ▸ g.run_wf bs) claims st
    simp only [Event.claimsBy]
    split
    · next same =>
      have investor := (position_inj (place.symm.trans same)).2
      simp [Action.claimsProject, claims, target, investor]
    · exact Nat.zero_le _
  | _ => exact Nat.zero_le _

/-- What the positions of a project claimed and are owed fits the counters. -/
lemma Genesis.claims_fit (g : Genesis K) (as : List (Action K))
    (own : (g.run as).projects.lookup p = some project)
    (held : (g.run as).positions.lookup (Client.position p w) = some q) :
    q.lastClaimedPerToken.toNat ≤ project.cumulativeUsdcPerToken.toNat ∧
      q.totalClaimed.toNat + q.owed project.cumulativeUsdcPerToken < 2 ^ 64 := by
  have run := g.reaches as (State.fund_project own)
  have own' : ((g.run as).view.fundOf (.project p) project.listing).holdings.lookup
      (Client.position p w) = some q.holding := (g.run_wf as).holding_of held
  refine ⟨run.sound.ledger.settled _ _ own', ?_⟩
  exact (run.claim_le_project rfl (by decide) own').trans_lt project.totalDistributed.isLt

/-- A claim of a holder to whom nothing is owed passes all checks and reverts with that error. -/
lemma claimProject_nothing (wf : s.Wf) (own : s.projects.lookup p = some project)
    (held : s.positions.lookup (Client.position p w) = some q) {usdc : K}
    (holder : s.bank.holder project.usdcVault = some (usdc, p))
    (settled : q.lastClaimedPerToken.toNat ≤ project.cumulativeUsdcPerToken.toNat)
    (zero : q.owed project.cumulativeUsdcPerToken = 0) (now : Int64) :
    step s (.call now (Client.claimProject usdc p project.usdcVault w))
      = .error (.exira .nothingToClaim) := by
  have listed := wf.view.listed (State.listing_project own)
  obtain ⟨target, owner⟩ := wf.position_of held
  obtain ⟨seeds, -, distinct⟩ := wf.claim_accounts (State.listing_project own) held target
  rw [owner] at seeds distinct
  obtain ⟨usdc', x, -, holder', exist⟩ := listed.vault
  cases holder.symm.trans holder'
  obtain ⟨vault, found, -⟩ := Token.Bank.holder_eq_some holder
  obtain ⟨m, minted, -⟩ := Option.map_eq_some_iff.mp exist
  obtain ⟨b, ata⟩ := wf.ensureAssociatedToken_total (w := w) exist
  -- nothing is owed, so the product fits too
  have little : q.pending project.cumulativeUsdcPerToken < PRECISION.toNat := by
    rcases Nat.div_eq_zero_iff.mp zero with absurd | lt
    · cases absurd
    · exact lt
  have small : PRECISION.toNat < 2 ^ 128 := by decide
  obtain ⟨owed, pays⟩ := claimable_of settled (little.trans small) (by
    change q.owed project.cumulativeUsdcPerToken < _
    rw [zero]
    decide)
  have none : ¬ 0 < owed := by
    have value : owed.toNat = q.owed project.cumulativeUsdcPerToken := (claimable_ok pays).2
    rw [zero] at value
    rw [BitVec.lt_def, value]
    exact Nat.lt_irrefl 0
  have signs : [w].all canSign = true := by simp [← owner, (wf.view.placed held).signs]
  -- every check before the guard passes
  refine (Except.bind_of_ok (constraint_ok signs _) _).trans ?_
  refine (Except.bind_of_ok (load_eq_ok.mpr own) _).trans ?_
  refine (Except.bind_of_ok (load_eq_ok.mpr found) _).trans ?_
  refine (Except.bind_of_ok (load_eq_ok.mpr held) _).trans ?_
  refine (Except.bind_of_ok (load_eq_ok.mpr minted) _).trans ?_
  refine (Except.bind_of_ok ata _).trans ?_
  refine (Except.bind_of_ok (constraint_ok (distinct usdc) _) _).trans ?_
  refine (Except.bind_of_ok (constraint_ok listed.key _) _).trans ?_
  refine (Except.bind_of_ok (require_ok rfl _) _).trans ?_
  refine (Except.bind_of_ok (constraint_ok seeds _) _).trans ?_
  refine (Except.bind_of_ok (require_ok owner _) _).trans ?_
  refine (Except.bind_of_ok (require_ok target _) _).trans ?_
  refine (Except.bind_of_ok pays _).trans ?_
  exact Except.bind_eq_error.mpr (.inl (Except.require_eq_error.mpr ⟨none, rfl⟩))

end Exira
