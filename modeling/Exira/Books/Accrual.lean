import Exira.Client
import Exira.Errors

/-!
# Accrued returns are kept

What a position accrued is never lost: no action lowers its pending amount but its owner's claim, and that
claim pays the whole units of it.
-/

namespace Exira

open Dividend

/-! ## Funds -/

namespace Fund

variable {ι : Type} [DecidableEq ι] {P : ℕ} {f f' : Fund ι} {e : Event ι} {i : ι} {h : Holding}

/-- No event but the holder's claim lowers what a holding has pending. -/
lemma Step.pending_le (sound : f.Sound) (st : f.Step P e f') (other : e ≠ .claim i) :
    h.pending f.index ≤ (e.act P f.index i h).pending f'.index := by
  cases st with
  | @buy j n =>
    simp only [Event.act]
    split
    · exact Nat.mul_le_mul_right _ (Nat.le_add_right _ _)
    · exact Nat.le_refl _
  | exit project status =>
    -- an exit is before activation, when nothing has accrued
    have funding := status.resolve_right sound.live
    obtain ⟨-, index, -, -⟩ := sound.funding project funding
    simp [Holding.pending, index]
  | @claim j =>
    have ne : j ≠ i := fun e => other (congrArg _ e)
    simp only [Event.act, if_neg ne]
    exact Nat.le_refl _
  | distribute =>
    exact Nat.mul_le_mul_left _ (Nat.sub_le_sub_right (Nat.le_add_right _ _) _)
  | _ => exact Nat.le_refl _

end Fund

/-! ## Positions -/

variable {K : Type} [DecidableEq K]

/-- A claim on the position at `k`. -/
def Action.ClaimsAt (k : K) : Action K → Prop
  | .call _ (.claimProjectReturns c) => c.position = k
  | .call _ (.claimPoolReturns c) => c.position = k
  | _ => False

/-- What a claim pays: `owed` leaves the vault for the account of the owner and is counted, and nothing
stays pending. -/
structure PaidOut (s s' : State K) (vault dest : K) (q q' : InvestorPosition K)
    (cumulative cumulative' : U128) : Prop where
  vault : s'.bank.balance vault + q.owed cumulative = s.bank.balance vault
  dest : s'.bank.balance dest = s.bank.balance dest + q.owed cumulative
  claimed : q'.totalClaimed.toNat = q.totalClaimed.toNat + q.owed cumulative
  pending : q'.pending cumulative' = 0

/-- An event that claims at `k` comes from an action that does. -/
lemma claimsAt_of_event {s : State K} {t : Target K} {a : Action K} {k : K}
    (e : s.event t a = some (.claim k)) : a.ClaimsAt k := by
  cases State.event_raises e with
  | claimProject => rfl
  | claimPool => rfl

variable [Addresses K] {s s' : State K}

/-- A position of a target after an action of others. -/
lemma step_pending_le (wf : s.Wf) {t : Target K} {f : Fund K} (sound : f.Sound)
    (own : s.fund t = some f) {k : K} {h : Holding} (held : f.holdings.lookup k = some h)
    {a : Action K} (st : step s a = .ok s') (other : ¬ a.ClaimsAt k) :
    ∃ f' h', s'.fund t = some f' ∧ f'.holdings.lookup k = some h' ∧
      h.pending f.index ≤ h'.pending f'.index := by
  have after := step_fund wf st own
  cases e : s.event t a with
  | none =>
    rw [e] at after
    exact ⟨f, h, after, held, Nat.le_refl _⟩
  | some ev =>
    rw [e] at after
    obtain ⟨f', own', ev_step⟩ := after
    have ne : ev ≠ .claim k := by
      rintro rfl
      exact other (claimsAt_of_event e)
    exact ⟨f', _, own', ev_step.lookup held, ev_step.pending_le sound ne⟩

/-- What a claim that went through did. -/
lemma Claim.paidOut {t : Target K} {l : Listing K} {k w dest : K} {q q' : InvestorPosition K} {n : U64}
    {b₀ b₁ : Token.Bank K} (wf : s.Wf) (own : s.view.listing t = some l)
    (c : Claim s t l k w dest q q' n b₀ b₁) {cumulative : U128} (index : cumulative.toNat = l.index) :
    PaidOut s { s with positions := s.positions.insert k q', bank := b₁ } l.vault dest q q'
      cumulative cumulative := by
  obtain ⟨usdc, holder⟩ := c.holder
  have ne := wf.view.vault_ne_holder own c.founds.toEvolves holder c.placed.signs
  have vault := Token.Bank.transfer_balance_source c.paid ne
  have paid := Token.Bank.transfer_balance_dest c.paid ne.symm
  rw [c.founds.balance] at vault paid
  have owed : n.toNat = q.owed cumulative := by
    rw [c.owed, ← index]
    rfl
  rw [owed] at vault paid
  refine ⟨vault, paid, ?_, ?_⟩
  · have claimed := congrArg Holding.claimed c.holding
    rw [← index] at claimed
    exact claimed
  · have last := congrArg Holding.last c.holding
    have last : q'.lastClaimedPerToken.toNat = l.index := last
    rw [InvestorPosition.pending, last, index, Nat.sub_self, Nat.mul_zero]

/-- A claim at a project pays its holder out. -/
lemma claimProjectReturns_paidOut (wf : s.Wf) {c : ClaimProjectReturns K}
    (h : claimProjectReturns s c = .ok s') :
    ∃ project q q', s.projects.lookup c.project = some project ∧ s'.projects = s.projects ∧
      s.positions.lookup c.position = some q ∧ s'.positions.lookup c.position = some q' ∧
      q.target = c.project ∧ q.owner = c.investor ∧
      PaidOut s s' project.usdcVault c.investorUsdcAta q q' project.cumulativeUsdcPerToken
        project.cumulativeUsdcPerToken := by
  obtain ⟨project, q, q', n, b₀, b₁, own, claim, rfl⟩ := claimProjectReturns_inv wf h
  exact ⟨project, q, q', own, rfl, claim.held, Finmap.lookup_insert _, claim.placed.target,
    claim.placed.owner, claim.paidOut wf (State.listing_project own) rfl⟩

/-- A claim at a pool pays its holder out. -/
lemma claimPoolReturns_paidOut (wf : s.Wf) {c : ClaimPoolReturns K}
    (h : claimPoolReturns s c = .ok s') :
    ∃ pool q q', s.pools.lookup c.pool = some pool ∧ s'.pools = s.pools ∧
      s.positions.lookup c.position = some q ∧ s'.positions.lookup c.position = some q' ∧
      q.target = c.pool ∧ q.owner = c.investor ∧
      PaidOut s s' pool.usdcVault c.investorUsdcAta q q' pool.cumulativeUsdcPerToken
        pool.cumulativeUsdcPerToken := by
  obtain ⟨pool, q, q', n, b₀, b₁, own, claim, rfl⟩ := claimPoolReturns_inv wf h
  exact ⟨pool, q, q', own, rfl, claim.held, Finmap.lookup_insert _, claim.placed.target,
    claim.placed.owner, claim.paidOut wf (State.listing_pool own) rfl⟩

/-- No address is both a project and a pool. -/
lemma State.Wf.project_ne_pool (wf : s.Wf) {p : K} {project : Project K} {pool : Pool K}
    (own : s.projects.lookup p = some project) : s.pools.lookup p ≠ some pool := by
  intro own'
  have e := (wf.view.listed (State.listing_project own)).target_inj
    (wf.view.listed (State.listing_pool own')) rfl
  cases e

omit [DecidableEq K] [Addresses K] in
/-- The subtraction of a claim stays above zero when the index is past the position's. -/
lemma computes_underflow {cumulative : U128} {q : InvestorPosition K} {vault : Token.Account K}
    (settled : q.lastClaimedPerToken.toNat ≤ cumulative.toNat) :
    Computes (Eq .mathUnderflow) cumulative q vault := by
  refine ⟨avoids_claimable (.inr settled) nofun, ?_⟩
  intro owed _
  exact ⟨avoids_require nofun, avoids_require nofun, avoids_settlePosition nofun⟩

/-- What an action does to a position of a project. -/
lemma project_accrual (wf : s.Wf) {p k : K} {project : Project K} {q : InvestorPosition K}
    (own : s.projects.lookup p = some project) (held : s.positions.lookup k = some q)
    (target : q.target = p) (sound : (s.view.fundOf (.project p) project.listing).Sound)
    {a : Action K} (st : step s a = .ok s') :
    ∃ project' q', s'.projects.lookup p = some project' ∧ s'.positions.lookup k = some q' ∧
      (¬ a.ClaimsAt k → q.pending project.cumulativeUsdcPerToken
        ≤ q'.pending project'.cumulativeUsdcPerToken) ∧
      (a.ClaimsAt k → ∃ now c, a = .call now (.claimProjectReturns c) ∧ c.project = p ∧
        c.investor = q.owner ∧ PaidOut s s' project.usdcVault c.investorUsdcAta q q'
          project.cumulativeUsdcPerToken project'.cumulativeUsdcPerToken) := by
  subst target
  by_cases claims : a.ClaimsAt k
  · unfold Action.ClaimsAt at claims
    split at claims
    · next now c =>
      subst claims
      obtain ⟨project₁, q₁, q', own₁, same, held₁, held', target, owner, paid⟩ :=
        claimProjectReturns_paidOut wf (step_call st).2
      cases held.symm.trans held₁
      rw [← target] at own₁
      cases own.symm.trans own₁
      refine ⟨project, q', same ▸ own, held', absurd rfl, ?_⟩
      exact fun _ => ⟨now, c, rfl, target.symm, owner.symm, paid⟩
    · next now c =>
      -- the position is of a project, and no pool is at its address
      subst claims
      obtain ⟨pool, q₁, -, own₁, -, held₁, -, target, -⟩ := claimPoolReturns_paidOut wf (step_call st).2
      cases held.symm.trans held₁
      rw [← target] at own₁
      exact absurd own₁ (wf.project_ne_pool own)
    · exact claims.elim
  · obtain ⟨f', h', own', held', le⟩ := step_pending_le wf sound (State.fund_project own)
      (View.lookup_holdings_of held) st claims
    obtain ⟨project', found, rfl⟩ := State.fund_project_some own'
    obtain ⟨q', there, -, rfl⟩ := View.lookup_holdings held'
    exact ⟨project', q', found, there, fun _ => le, fun c => absurd c claims⟩

/-- What an action does to a position of a pool. -/
lemma pool_accrual (wf : s.Wf) {p k : K} {pool : Pool K} {q : InvestorPosition K}
    (own : s.pools.lookup p = some pool) (held : s.positions.lookup k = some q)
    (target : q.target = p) (sound : (s.view.fundOf (.pool p) pool.listing).Sound)
    {a : Action K} (st : step s a = .ok s') :
    ∃ pool' q', s'.pools.lookup p = some pool' ∧ s'.positions.lookup k = some q' ∧
      (¬ a.ClaimsAt k → q.pending pool.cumulativeUsdcPerToken
        ≤ q'.pending pool'.cumulativeUsdcPerToken) ∧
      (a.ClaimsAt k → ∃ now c, a = .call now (.claimPoolReturns c) ∧ c.pool = p ∧
        c.investor = q.owner ∧ PaidOut s s' pool.usdcVault c.investorUsdcAta q q'
          pool.cumulativeUsdcPerToken pool'.cumulativeUsdcPerToken) := by
  subst target
  by_cases claims : a.ClaimsAt k
  · unfold Action.ClaimsAt at claims
    split at claims
    · next now c =>
      subst claims
      obtain ⟨project, q₁, -, own₁, -, held₁, -, target, -⟩ :=
        claimProjectReturns_paidOut wf (step_call st).2
      cases held.symm.trans held₁
      rw [← target] at own₁
      exact absurd own (wf.project_ne_pool own₁)
    · next now c =>
      subst claims
      obtain ⟨pool₁, q₁, q', own₁, same, held₁, held', target, owner, paid⟩ :=
        claimPoolReturns_paidOut wf (step_call st).2
      cases held.symm.trans held₁
      rw [← target] at own₁
      cases own.symm.trans own₁
      refine ⟨pool, q', same ▸ own, held', absurd rfl, ?_⟩
      exact fun _ => ⟨now, c, rfl, target.symm, owner.symm, paid⟩
    · exact claims.elim
  · obtain ⟨f', h', own', held', le⟩ := step_pending_le wf sound (State.fund_pool own)
      (View.lookup_holdings_of held) st claims
    obtain ⟨pool', found, rfl⟩ := State.fund_pool_some own'
    obtain ⟨q', there, -, rfl⟩ := View.lookup_holdings held'
    exact ⟨pool', q', found, there, fun _ => le, fun c => absurd c claims⟩

/-- What is pending is never lost: in every reachable state the index of a project or a pool is at least
the one at which any of its positions was settled, an action that is not a claim on the position does not
lower what it has pending, and a claim on it is its owner's and pays the whole units. -/
theorem accrual_kept (g : Genesis K) (as : List (Action K)) :
    (∀ p project k q, (g.run as).projects.lookup p = some project →
      (g.run as).positions.lookup k = some q → q.target = p →
      q.lastClaimedPerToken ≤ project.cumulativeUsdcPerToken ∧
        ∀ a s', step (g.run as) a = .ok s' → ∃ project' q',
          s'.projects.lookup p = some project' ∧ s'.positions.lookup k = some q' ∧
            (¬ a.ClaimsAt k → q.pending project.cumulativeUsdcPerToken
              ≤ q'.pending project'.cumulativeUsdcPerToken) ∧
            (a.ClaimsAt k → ∃ now c, a = .call now (.claimProjectReturns c) ∧ c.project = p ∧
              c.investor = q.owner ∧ PaidOut (g.run as) s' project.usdcVault c.investorUsdcAta q q'
                project.cumulativeUsdcPerToken project'.cumulativeUsdcPerToken)) ∧
      (∀ p pool k q, (g.run as).pools.lookup p = some pool →
        (g.run as).positions.lookup k = some q → q.target = p →
        q.lastClaimedPerToken ≤ pool.cumulativeUsdcPerToken ∧
          ∀ a s', step (g.run as) a = .ok s' → ∃ pool' q',
            s'.pools.lookup p = some pool' ∧ s'.positions.lookup k = some q' ∧
              (¬ a.ClaimsAt k → q.pending pool.cumulativeUsdcPerToken
                ≤ q'.pending pool'.cumulativeUsdcPerToken) ∧
              (a.ClaimsAt k → ∃ now c, a = .call now (.claimPoolReturns c) ∧ c.pool = p ∧
                c.investor = q.owner ∧ PaidOut (g.run as) s' pool.usdcVault c.investorUsdcAta q q'
                  pool.cumulativeUsdcPerToken pool'.cumulativeUsdcPerToken)) ∧
      (∀ c, claimProjectReturns (g.run as) c ≠ .error (.exira .mathUnderflow)) ∧
      ∀ c, claimPoolReturns (g.run as) c ≠ .error (.exira .mathUnderflow) := by
  have wf := g.run_wf as
  have settled : ∀ {t l k q}, (g.run as).view.listing t = some l →
      (g.run as).positions.lookup k = some q → q.target = t.key →
      q.lastClaimedPerToken.toNat ≤ l.index := by
    intro t l k q listed held target
    have own := View.lookup_holdings_of (v := (g.run as).view) held
    rw [target] at own
    exact (g.fund_sound as (View.fund_eq listed)).ledger.settled _ _ own
  refine ⟨?_, ?_, ?_, ?_⟩
  · intro p project k q own held target
    refine ⟨BitVec.le_def.mpr (settled (State.listing_project own) held target), ?_⟩
    intro a s' st
    exact project_accrual wf own held target (g.fund_sound as (State.fund_project own)) st
  · intro p pool k q own held target
    refine ⟨BitVec.le_def.mpr (settled (State.listing_pool own) held target), ?_⟩
    intro a s' st
    exact pool_accrual wf own held target (g.fund_sound as (State.fund_pool own)) st
  · intro c
    refine avoids_ne (claimProjectReturns_avoids ⟨nofun, nofun, nofun⟩ ?_ wf) rfl
    intro project q vault own held placed _
    exact computes_underflow (settled (State.listing_project own) held placed.target)
  · intro c
    refine avoids_ne (claimPoolReturns_avoids ⟨nofun, nofun, nofun⟩ ?_ wf) rfl
    intro pool q vault own held placed _
    exact computes_underflow (settled (State.listing_pool own) held placed.target)

/-- Pool 1 after a purchase of 60 and a distribution of 9. -/
def demoAccrued : List (Action Addr) :=
  Client.demoPool ++ [Client.demoBuy (.wallet 10) 60, Client.demoDistribute 9]

/-- A holder with 9 pending keeps it until it claims. -/
theorem accrual_kept_demo : ∃ (pool : Pool Addr) (q : InvestorPosition Addr),
    (Genesis.blank.run demoAccrued).pools.lookup (Client.pool 1) = some pool ∧
      (Genesis.blank.run demoAccrued).positions.lookup
        (Client.position (Client.pool 1) (.wallet 10)) = some q ∧
      q.pending pool.cumulativeUsdcPerToken = 9 * PRECISION.toNat ∧
      ∃ s', step (Genesis.blank.run demoAccrued) (Client.demoClaim (.wallet 10)) = .ok s' ∧
        s'.bank.balance pool.usdcVault + q.owed pool.cumulativeUsdcPerToken
          = (Genesis.blank.run demoAccrued).bank.balance pool.usdcVault := by
  have pool : ((Genesis.blank.run demoAccrued).pools.lookup (Client.pool 1)).map
      (fun pool => pool.cumulativeUsdcPerToken) = some 150000000000 := by decide +kernel
  have position : ((Genesis.blank.run demoAccrued).positions.lookup
      (Client.position (Client.pool 1) (.wallet 10))).map
        (fun q => (q.target, q.tokensHeld, q.lastClaimedPerToken))
      = some (Client.pool 1, 60, 0) := by decide +kernel
  obtain ⟨pool, own, index⟩ := Option.map_eq_some_iff.mp pool
  obtain ⟨q, held, e⟩ := Option.map_eq_some_iff.mp position
  injection e with target e
  injection e with tokens last
  have claim : (step (Genesis.blank.run demoAccrued)
      (Client.demoClaim (.wallet 10))).toOption.isSome := by decide +kernel
  refine ⟨pool, q, own, held, ?_, ?_⟩
  · rw [InvestorPosition.pending, tokens, last, index]
    decide
  · cases st : step (Genesis.blank.run demoAccrued) (Client.demoClaim (.wallet 10)) with
    | error e => rw [st] at claim; cases claim
    | ok s' =>
      obtain ⟨-, pools, -⟩ := accrual_kept Genesis.blank demoAccrued
      obtain ⟨pool', q', -, -, -, claims⟩ := (pools _ pool _ q own held target).2 _ s' st
      obtain ⟨now, c, -, -, -, paid⟩ := claims rfl
      exact ⟨s', rfl, paid.vault⟩

end Exira
