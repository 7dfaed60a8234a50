import Exira.Books.Accrual
import Exira.Pool.TopUps

/-!
# Distributions of a pool, and who shares in them

The positions of a pool claim and are owed no more than it distributed as long as every purchase that adds
to a position finds it settled. A purchase that finds a gap breaks this, and so does a claim before buying
that reverts because less than one unit is pending: it leaves the gap open.
-/

namespace Exira

open Dividend

variable {K : Type} [DecidableEq K] [Addresses K]

/-! ## Conservation -/

/-- In every run in which each purchase in a pool by a wallet that already has a position finds that
position settled, what the positions claimed and are owed is within what the pool distributed, so the
claims leave the purchases in the vault. -/
theorem pool_distributions_conserved (g : Genesis K) (as : List (Action K)) (p : K) (pool : Pool K)
    (own : (g.run as).pools.lookup p = some pool) (settled : TopUpsWithin 0 p (g.history as)) :
    (g.run as).sumPositions p
        (fun q => q.totalClaimed.toNat + q.owed pool.cumulativeUsdcPerToken)
        ≤ pool.totalDistributed.toNat ∧
      (g.run as).sumPositions p (fun q => q.totalClaimed.toNat) ≤ pool.totalDistributed.toNat ∧
      pool.tokensSold.toNat ≤ (g.run as).bank.balance pool.usdcVault := by
  have credited := g.credited_pool_le as own settled
  rw [Nat.mul_zero, Nat.add_zero] at credited
  have entitled := Fund.paid_add_owedTotal_le _ (by decide) credited
  rw [← State.sum_claimed_pool] at entitled
  have vault := g.pool_vault_ge as own
  rw [State.sum_entitled_pool]
  omega

/-- A holder of pool 1 claims before buying more, first with nothing pending and then with 9, and another
one buys later. -/
def demoSettled : List (Action Addr) :=
  Client.demoPool ++ [Client.demoBuy (.wallet 10) 55, Client.demoClaim (.wallet 10),
    Client.demoBuy (.wallet 10) 5, Client.demoDistribute 9, Client.demoClaim (.wallet 10),
    Client.demoBuy (.wallet 10) 30, Client.demoBuy (.wallet 11) 10, Client.demoDistribute 7,
    Client.demoClaim (.wallet 11)]

/-- A run whose top-ups are settled: 16 is distributed, and no more is credited. -/
theorem pool_distributions_conserved_demo : ∃ pool : Pool Addr,
    (Genesis.blank.run demoSettled).pools.lookup (Client.pool 1) = some pool ∧
      pool.totalDistributed = 16 ∧
      (Genesis.blank.run demoSettled).sumPositions (Client.pool 1)
        (fun q => q.totalClaimed.toNat + q.owed pool.cumulativeUsdcPerToken) ≤ 16 := by
  have paid : ((Genesis.blank.run demoSettled).pools.lookup (Client.pool 1)).map
      (·.totalDistributed) = some 16 := by decide +kernel
  have settled : TopUpsWithin 0 (Client.pool 1) (Genesis.blank.history demoSettled) := by
    decide +kernel
  obtain ⟨pool, own, total⟩ := Option.map_eq_some_iff.mp paid
  have within := (pool_distributions_conserved _ _ _ pool own settled).1
  rw [total] at within
  exact ⟨pool, own, total, within⟩

/-- A wallet buys 1 token of pool 1, and 99 more after a distribution of 1. -/
def demoTopUp : List (Action Addr) :=
  Client.demoPool ++ [Client.demoBuy (.wallet 10) 1, Client.demoDistribute 1,
    Client.demoBuy (.wallet 10) 99]

/-- The top-up is owed 100 of a distribution of 1. -/
theorem pool_distributions_not_conserved : ¬ ∀ (g : Genesis Addr) as p pool,
    (g.run as).pools.lookup p = some pool →
      (g.run as).sumPositions p
        (fun q => q.totalClaimed.toNat + q.owed pool.cumulativeUsdcPerToken)
        ≤ pool.totalDistributed.toNat := by
  intro conserved
  have exceeds : ((Genesis.blank.run demoTopUp).pools.lookup (Client.pool 1)).map
      (fun pool => ((Genesis.blank.run demoTopUp).sumPositions (Client.pool 1)
        (fun q => q.totalClaimed.toNat + q.owed pool.cumulativeUsdcPerToken),
        pool.totalDistributed)) = some (100, 1) := by decide +kernel
  obtain ⟨pool, own, e⟩ := Option.map_eq_some_iff.mp exceeds
  injection e with entitled total
  have le := conserved _ _ _ pool own
  rw [entitled, total] at le
  exact absurd le (by decide)

/-! ## Claiming before buying -/

/-- The call `y` is the claim of `w` in the pool at `p`, and it pays, or it reverts since there is nothing
to claim, with at most `slack` pending. -/
def ClaimsFor (slack : ℕ) (p w : K) (y : State K × Action K) : Prop :=
  ∃ c ∈ y.2.poolClaim, c.pool = p ∧ c.investor = w ∧
    (y.1.errorOf y.2 = none ∨ y.1.errorOf y.2 = some (.exira .nothingToClaim) ∧
      y.1.pendingAt p c.position ≤ slack)

/-- If `x` is a purchase in the pool at `p` by a wallet that holds tokens of it, `y` is its claim. -/
def ClaimedBefore (slack : ℕ) (p : K) (y x : State K × Action K) : Prop :=
  ∀ a ∈ x.2.poolPurchase, a.pool = p → x.1.errorOf x.2 = none →
    (∃ q ∈ x.1.positions.lookup a.position, 0 < q.tokensHeld) → ClaimsFor slack p a.investor y

instance (slack : ℕ) (p w : K) : DecidablePred (ClaimsFor slack p w) :=
  fun _ => Option.decidableExistsMem _

instance (slack : ℕ) (p : K) : DecidableRel (ClaimedBefore slack p) :=
  fun _ _ => Option.decidableForallMem _

/-- Whoever holds tokens of the pool at `p` claims right before buying more. -/
def ClaimsFirst (slack : ℕ) (p : K) (xs : List (State K × Action K)) : Prop :=
  xs.IsChain (ClaimedBefore slack p)

instance (slack : ℕ) (p : K) (xs : List (State K × Action K)) : Decidable (ClaimsFirst slack p xs) :=
  inferInstanceAs (Decidable (xs.IsChain _))

/-- After a claim that pays nothing is pending, and after one that reverts at most the slack is. -/
lemma ClaimsFor.pending {slack : ℕ} {p w : K} {s : State K} {b : Action K} (wf : s.Wf)
    (claims : ClaimsFor slack p w (s, b)) :
    (Runs.next step s b).pendingAt p (findProgramAddress (.position p w)) ≤ slack := by
  obtain ⟨c, call, rfl, rfl, outcome⟩ := claims
  obtain ⟨now, rfl⟩ := Action.poolClaim_eq_some call
  obtain paid | ⟨nothing, within⟩ := outcome
  · obtain ⟨s', st⟩ := State.errorOf_eq_none.mp paid
    obtain ⟨pool, q, q', own, same, held, held', target, owner, paid⟩ :=
      claimPoolReturns_paidOut wf (step_call st).2
    rw [Runs.next_ok st, ← poolClaim_position wf call st]
    simp only [State.pendingAt, same, own, held', paid.pending, Nat.zero_le]
  · have st := State.errorOf_eq_some.mp nothing
    have h := step_call_error st nofun
    rw [Runs.next_error st, ← claimPoolReturns_nothing wf h]
    exact within

/-- A purchase that adds to a position comes right after the claim of its investor. -/
lemma Genesis.claimsFor_of_first (g : Genesis K) {as bs cs : List (Action K)} {p : K} {slack : ℕ}
    {x : Action K} {a : BuyPoolTokens K} {q : InvestorPosition K} {s' : State K}
    (first : ClaimsFirst slack p (g.attempts as)) (split : as = bs ++ x :: cs)
    (e : x.poolPurchase = some a) (target : a.pool = p) (st : step (g.run bs) x = .ok s')
    (held : (g.run bs).positions.lookup a.position = some q) (pos : 0 < q.tokensHeld) :
    ∃ bs' b, bs = bs' ++ [b] ∧ ClaimsFor slack p a.investor (g.run bs', b) := by
  obtain rfl | ⟨bs', b, rfl⟩ := bs.eq_nil_or_concat'
  · -- nobody holds anything at genesis
    cases held
  · have chain : (g.attempts (bs' ++ b :: x :: cs)).IsChain (ClaimedBefore slack p) := by
      rw [List.append_assoc, List.singleton_append] at split
      exact split ▸ first
    have run : g.run (bs' ++ [b]) = Runs.next step (g.run bs') b := g.run_append _ _
    rw [Genesis.attempts, Runs.attempts_append, Runs.attempts_cons, Runs.attempts_cons] at chain
    have pair := (List.isChain_append_cons_cons.mp chain).2.1
    rw [run] at st held
    exact ⟨bs', b, rfl, pair a e target (State.errorOf_eq_none.mpr ⟨s', st⟩) ⟨q, held, pos⟩⟩

/-- Whoever claims before buying more, and has nothing pending when the claim reverts, finds no gap. -/
lemma Genesis.topUpsWithin_zero (g : Genesis K) (as : List (Action K)) {p : K}
    (first : ClaimsFirst 0 p (g.attempts as)) : TopUpsWithin 0 p (g.history as) := by
  intro x mem
  obtain ⟨bs, cs, split, met, s', st⟩ := Genesis.mem_history mem
  apply topUpGap_le
  rintro a pool q e rfl own held
  rw [met] at st own held
  have wf := g.run_wf bs
  obtain ⟨-, place⟩ := poolPurchase_inv e st
  obtain ⟨target, -⟩ := (wf.view.placed held).at_address place
  have holding := View.lookup_holdings_of (v := (g.run bs).view) held
  rw [target] at holding
  have pos : 0 < q.tokensHeld.toNat :=
    ((g.fund_sound bs (State.fund_pool own)).pool rfl).2 _ _ holding
  obtain ⟨bs', b, rfl, claims⟩ :=
    g.claimsFor_of_first first split e rfl st held (BitVec.lt_def.mpr pos)
  have pending := claims.pending (g.run_wf bs')
  have run : g.run (bs' ++ [b]) = Runs.next step (g.run bs') b := g.run_append _ _
  rw [← run, ← place] at pending
  simp only [State.pendingAt, own, held, InvestorPosition.pending] at pending
  obtain none | settled := Nat.mul_eq_zero.mp (Nat.le_zero.mp pending)
  · exact absurd none pos.ne'
  · exact settled.le

/-- In every run in which whoever holds tokens of a pool claims right before buying more, and has nothing
pending when that claim reverts, the positions claim no more than the pool distributed. -/
theorem pool_claims_within_distributions (g : Genesis K) (as : List (Action K)) (p : K)
    (pool : Pool K) (own : (g.run as).pools.lookup p = some pool)
    (first : ClaimsFirst 0 p (g.attempts as)) :
    (g.run as).sumPositions p (fun q => q.totalClaimed.toNat) ≤ pool.totalDistributed.toNat := by
  have credited := g.credited_pool_le as own (g.topUpsWithin_zero as first)
  rw [Nat.mul_zero, Nat.add_zero] at credited
  have entitled := Fund.paid_add_owedTotal_le _ (by decide) credited
  rw [← State.sum_claimed_pool] at entitled
  omega

/-- The claims of the settled run. -/
theorem pool_claims_within_distributions_demo : ∃ pool : Pool Addr,
    (Genesis.blank.run demoSettled).pools.lookup (Client.pool 1) = some pool ∧
      (Genesis.blank.run demoSettled).sumPositions (Client.pool 1) (fun q => q.totalClaimed.toNat)
        ≤ pool.totalDistributed.toNat := by
  have pool : ((Genesis.blank.run demoSettled).pools.lookup (Client.pool 1)).isSome := by
    decide +kernel
  have first : ClaimsFirst 0 (Client.pool 1) (Genesis.blank.attempts demoSettled) := by
    decide +kernel
  obtain ⟨pool, own⟩ := Option.isSome_iff_exists.mp pool
  exact ⟨pool, own, pool_claims_within_distributions _ _ _ pool own first⟩

/-- A holder of 1 of the 10 tokens of pool 1 claims after a distribution of 9, which reverts as 0.9 is
pending, buys the 990 that are left, and claims again. -/
def demoFloored : List (Action Addr) :=
  Client.demoPool ++ [Client.demoBuy (.wallet 10) 1, Client.demoBuy (.wallet 11) 9,
    Client.demoDistribute 9, Client.demoClaim (.wallet 10), Client.demoBuy (.wallet 10) 990,
    Client.demoClaim (.wallet 10)]

/-- A claim that floors to zero is refused, and what it left is inherited by the next top-up. -/
theorem pool_claims_exceed_distributions : ¬ ∀ (g : Genesis Addr) as p pool,
    (g.run as).pools.lookup p = some pool →
      ClaimsFirst (PRECISION.toNat - 1) p (g.attempts as) →
      (g.run as).sumPositions p (fun q => q.totalClaimed.toNat) ≤ pool.totalDistributed.toNat := by
  intro within
  have exceeds : ((Genesis.blank.run demoFloored).pools.lookup (Client.pool 1)).map
      (fun pool => ((Genesis.blank.run demoFloored).sumPositions (Client.pool 1)
        (fun q => q.totalClaimed.toNat), pool.totalDistributed)) = some (891, 9) := by
    decide +kernel
  have first : ClaimsFirst (PRECISION.toNat - 1) (Client.pool 1)
      (Genesis.blank.attempts demoFloored) := by decide +kernel
  obtain ⟨pool, own, e⟩ := Option.map_eq_some_iff.mp exceeds
  injection e with claimed total
  have le := within _ _ _ pool own first
  rw [claimed, total] at le
  exact absurd le (by decide)

end Exira
