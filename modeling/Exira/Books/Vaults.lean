import Exira.Client

/-!
# The books of the vaults

Every vault holds what its sales, distributions and outside deposits brought in, less what its claims, its
fee and its payouts took out. The identity is the vault ledger of the fund, read on accounts.
-/

namespace Exira

open Dividend

/-! ## Funds -/

namespace Fund

variable {ι : Type} [DecidableEq ι] {P : ℕ} {f : Fund ι} {tr : List (Fund ι × Event ι)}

/-- Nobody takes a payout from a pool. -/
lemma Reaches.payouts_pool (run : Reaches P tr f) (pool : f.layer = .pool) :
    total (fun _ => Event.payouts) tr = 0 := by
  induction run with
  | fresh => rfl
  | step past st ih =>
    rw [st.layer] at pool
    rw [total_snoc, ih pool]
    cases st with
    | payout project => exact nomatch pool.symm.trans project
    | _ => rfl

end Fund

/-! ## Vaults -/

variable {K : Type} [DecidableEq K]

/-- What was claimed of a project is what its fund paid. -/
lemma State.sum_claimed_project (s : State K) (p : K) (project : Project K) :
    s.sumPositions p (fun q => q.totalClaimed.toNat)
      = (s.view.fundOf (.project p) project.listing).paid :=
  State.sumPositions_eq fun _ => rfl

/-- What was claimed of a pool is what its fund paid. -/
lemma State.sum_claimed_pool (s : State K) (p : K) (pool : Pool K) :
    s.sumPositions p (fun q => q.totalClaimed.toNat)
      = (s.view.fundOf (.pool p) pool.listing).paid :=
  State.sumPositions_eq fun _ => rfl

variable [Addresses K]

/-- Nothing leaves the vault of a pool but what its holders claim. -/
lemma Genesis.pool_vault (g : Genesis K) (as : List (Action K)) {p : K} {pool : Pool K}
    (own : (g.run as).pools.lookup p = some pool) :
    (g.run as).bank.balance pool.usdcVault + (g.run as).sumPositions p (fun q => q.totalClaimed.toNat)
      = pool.tokensSold.toNat + pool.totalDistributed.toNat
        + tally Event.deposits (.pool p) (g.history as) := by
  have run := g.reaches as (State.fund_pool own)
  have ledger := run.vault
  rw [run.payouts_pool rfl, ← State.sum_claimed_pool] at ledger
  simp only [View.fundOf, Pool.listing] at ledger
  have ledger : (g.run as).bank.balance pool.usdcVault + _ + _ + _ = _ := ledger
  unfold tally
  omega

/-- The balance of every vault in every reachable state, from the counters of its target and the payments
between the vault and the outside. -/
theorem vault_books (g : Genesis K) (as : List (Action K)) :
    (∀ p project, (g.run as).projects.lookup p = some project →
      ((g.run as).bank.balance project.usdcVault : ℤ)
        = project.tokensSold.toNat + project.totalDistributed.toNat
          + tally Event.deposits (.project p) (g.history as)
          - (g.run as).sumPositions p (fun q => q.totalClaimed.toNat)
          - project.originationFeeCollected.toNat
          - tally Event.payouts (.project p) (g.history as)) ∧
      ∀ p pool, (g.run as).pools.lookup p = some pool →
        ((g.run as).bank.balance pool.usdcVault : ℤ)
          = pool.tokensSold.toNat + pool.totalDistributed.toNat
            + tally Event.deposits (.pool p) (g.history as)
            - (g.run as).sumPositions p (fun q => q.totalClaimed.toNat) := by
  refine ⟨?_, ?_⟩
  · intro p project own
    have ledger := (g.reaches as (State.fund_project own)).vault
    rw [← State.sum_claimed_project] at ledger
    simp only [View.fundOf, Project.listing] at ledger
    have ledger : (g.run as).bank.balance project.usdcVault + _ + _ + _ = _ := ledger
    unfold tally
    omega
  · intro p pool own
    have books := g.pool_vault as own
    omega

/-- A wallet sends 5 USDC straight to the vault of project 1, and 3 to the vault of pool 1. -/
def demoDeposits : List (Action Addr) :=
  Client.demoActive ++ [
    .call 0 (Client.demo.createPool 1 1000 (.wallet 21)),
    Client.demoBuy (.wallet 12) 20,
    .outside (.transfer (Client.demo.usdcOf (.wallet 12)) (Client.demo.usdcOf (Client.project 1))
      (.wallet 12) 5),
    .outside (.transfer (Client.demo.usdcOf (.wallet 12)) (Client.demo.usdcOf (Client.pool 1))
      (.wallet 12) 3)]

/-- Vaults that outsiders paid into. -/
theorem vault_books_demo :
    (∃ project : Project Addr,
      (Genesis.blank.run demoDeposits).projects.lookup (Client.project 1) = some project ∧
        ((Genesis.blank.run demoDeposits).bank.balance project.usdcVault : ℤ)
          = project.tokensSold.toNat + project.totalDistributed.toNat + 5
            - (Genesis.blank.run demoDeposits).sumPositions (Client.project 1)
              (fun q => q.totalClaimed.toNat)
            - project.originationFeeCollected.toNat - 0) ∧
      ∃ pool : Pool Addr,
        (Genesis.blank.run demoDeposits).pools.lookup (Client.pool 1) = some pool ∧
          ((Genesis.blank.run demoDeposits).bank.balance pool.usdcVault : ℤ)
            = pool.tokensSold.toNat + pool.totalDistributed.toNat + 3
              - (Genesis.blank.run demoDeposits).sumPositions (Client.pool 1)
                (fun q => q.totalClaimed.toNat) := by
  have project : ((Genesis.blank.run demoDeposits).projects.lookup (Client.project 1)).isSome := by
    decide +kernel
  have pool : ((Genesis.blank.run demoDeposits).pools.lookup (Client.pool 1)).isSome := by
    decide +kernel
  have in_project : tally Event.deposits (.project (Client.project 1))
      (Genesis.blank.history demoDeposits) = 5 := by decide +kernel
  have in_pool : tally Event.deposits (.pool (Client.pool 1))
      (Genesis.blank.history demoDeposits) = 3 := by decide +kernel
  have out : tally Event.payouts (.project (Client.project 1))
      (Genesis.blank.history demoDeposits) = 0 := by decide +kernel
  obtain ⟨projects, pools⟩ := vault_books Genesis.blank demoDeposits
  obtain ⟨project, own⟩ := Option.isSome_iff_exists.mp project
  obtain ⟨pool, own'⟩ := Option.isSome_iff_exists.mp pool
  refine ⟨⟨project, own, ?_⟩, pool, own', ?_⟩
  · have books := projects _ project own
    rwa [in_project, out] at books
  · have books := pools _ pool own'
    rwa [in_pool] at books

end Exira
