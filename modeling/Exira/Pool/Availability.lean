import Exira.Client
import Exira.Pool.TopUps

/-!
# Availability of pool claims

A wallet that bought once is owed no more than the pool distributed. Whether the vault still has it depends
on the others: a purchase that finds a gap of at most one USDC per token brings in what it inherits, and one
that finds more takes from the rest.
-/

namespace Exira

open Dividend

/-! ## Funds -/

namespace Fund

variable {ι : Type} [DecidableEq ι] {P : ℕ} {f f' : Fund ι} {e : Event ι}
  {tr : List (Fund ι × Event ι)} {i : ι}

/-- Who never bought has no holding. -/
lemma Reaches.lookup_none (run : Reaches P tr f)
    (never : total (fun _ => Event.boughtBy i) tr = 0) : f.holdings.lookup i = none := by
  induction run with
  | fresh new => rw [new.holdings, Finmap.lookup_empty]
  | @step tr f e f' past st ih =>
    rw [total_snoc] at never
    rw [Option.eq_none_iff_forall_not_mem]
    intro h own
    obtain ⟨n, rfl, -⟩ := st.lookup_new (ih (by omega)) own
    simp only [Event.boughtBy, if_true] at never
    omega

/-- The first purchase of a holder inherits nothing. -/
lemma Reaches.inheritedBy_once (run : Reaches P tr f)
    (once : total (fun _ => Event.boughtBy i) tr ≤ 1) : total (inheritedBy i) tr = 0 := by
  induction run with
  | fresh => rfl
  | @step tr f e f' past st ih =>
    rw [total_snoc] at once ⊢
    rw [ih (by omega), Nat.zero_add]
    cases e with
    | buy j n =>
      simp only [inheritedBy]
      split
      · next same =>
        subst same
        simp only [Event.boughtBy, if_true] at once
        have free := past.lookup_none (i := j) (by omega)
        simp only [inherited, free, Option.elim]
      · rfl
    | _ => rfl

/-- Who bought once is owed, with what was claimed, at most what was distributed. -/
lemma Reaches.entitled_once {h : Holding} (run : Reaches P tr f) (P_pos : 0 < P)
    (once : total (fun _ => Event.boughtBy i) tr ≤ 1) (own : f.holdings.lookup i = some h) :
    h.claimed + h.owed P f.index ≤ f.distributed := by
  have credit := run.credit_le own
  rw [run.inheritedBy_once once, Nat.add_zero] at credit
  refine Nat.le_of_mul_le_mul_right ?_ P_pos
  have owed := Ledger.owed_mul_le P f.index h
  rw [Nat.add_mul]
  exact (Nat.add_le_add_left owed _).trans credit

end Fund

/-! ## Pools -/

variable {K : Type} [DecidableEq K]

variable [Addresses K]

/-- Purchases at the position of a wallet are purchases of the wallet. -/
lemma Genesis.boughtBy_le (g : Genesis K) (as : List (Action K)) (p w : K) :
    tally (Event.boughtBy (Client.position p w)) (.pool p) (g.history as)
      ≤ (g.history as).countP fun x => x.2.buysPool p w := by
  apply tally_le_countP
  intro x mem e ev
  obtain ⟨-, -, -, -, s', st⟩ := Genesis.mem_history mem
  cases e with
  | buy k n =>
    obtain ⟨a, buys, target, rfl⟩ := buy_of_event ev
    obtain ⟨-, place⟩ := poolPurchase_inv buys st
    simp only [Event.boughtBy]
    split
    · next same =>
      have investor := (position_inj (place.symm.trans same)).2
      simp [Action.buysPool, buys, target, investor]
    · exact Nat.zero_le _
  | _ => exact Nat.zero_le _

/-- In every run in which each purchase in a pool by a wallet that already has a position finds at most
one USDC accrued per token of that position, a wallet that bought once and is owed something can claim it:
the vault has it, and its claim goes through. -/
theorem pool_claim_available (g : Genesis K) (as : List (Action K)) (p w : K) (pool : Pool K)
    (q : InvestorPosition K) (own : (g.run as).pools.lookup p = some pool)
    (held : (g.run as).positions.lookup (Client.position p w) = some q)
    (once : ((g.history as).countP fun x => x.2.buysPool p w) = 1)
    (within : TopUpsWithin PRECISION.toNat p (g.history as))
    (pos : 0 < q.owed pool.cumulativeUsdcPerToken) :
    q.owed pool.cumulativeUsdcPerToken ≤ (g.run as).bank.balance pool.usdcVault ∧
      ∃ usdc, (g.run as).bank.holder pool.usdcVault = some (usdc, p) ∧ ∀ now, ∃ s',
        step (g.run as) (.call now (Client.claimPool usdc p pool.usdcVault w)) = .ok s' := by
  have wf := g.run_wf as
  have run := g.reaches as (State.fund_pool own)
  obtain ⟨target, owner⟩ := wf.position_of held
  have holding : ((g.run as).view.fundOf (.pool p) pool.listing).holdings.lookup
      (Client.position p w) = some q.holding := wf.holding_of held
  have entitled : q.totalClaimed.toNat + q.owed pool.cumulativeUsdcPerToken
      ≤ pool.totalDistributed.toNat :=
    run.entitled_once (by decide) ((g.boughtBy_le as p w).trans once.le) holding
  have credited := g.credited_pool_le as own within
  rw [← Nat.add_mul] at credited
  have all := Fund.paid_add_owedTotal_le _ (by decide) credited
  have vault := g.pool_vault_ge as own
  have part := Fund.owed_le_owedTotal (P := PRECISION.toNat) holding
  rw [← State.sum_claimed_pool] at all
  have covered : q.owed pool.cumulativeUsdcPerToken ≤ (g.run as).bank.balance pool.usdcVault := by
    have part : q.owed pool.cumulativeUsdcPerToken ≤ _ := part
    omega
  have bound := pool.totalDistributed.isLt
  have settled := run.sound.ledger.settled _ _ holding
  have claim := claimPool_ok wf own held target settled pos (entitled.trans_lt bound) covered
  rw [owner] at claim
  exact ⟨covered, claim⟩

/-- A holder of pool 1 buys more when 1 USDC is pending per token, and claims. -/
def demoShared : List (Action Addr) :=
  Client.demoPool ++ [Client.demoBuy (.wallet 10) 3, Client.demoBuy (.wallet 11) 1,
    Client.demoDistribute 4, Client.demoBuy (.wallet 11) 6, Client.demoClaim (.wallet 11)]

/-- A wallet that bought once can claim its 3. -/
theorem pool_claim_available_demo : ∃ (pool : Pool Addr) (q : InvestorPosition Addr),
    (Genesis.blank.run demoShared).pools.lookup (Client.pool 1) = some pool ∧
      (Genesis.blank.run demoShared).positions.lookup
        (Client.position (Client.pool 1) (.wallet 10)) = some q ∧
      q.owed pool.cumulativeUsdcPerToken = 3 ∧
      3 ≤ (Genesis.blank.run demoShared).bank.balance pool.usdcVault := by
  have pool : ((Genesis.blank.run demoShared).pools.lookup (Client.pool 1)).map
      (·.cumulativeUsdcPerToken) = some PRECISION := by decide +kernel
  have position : ((Genesis.blank.run demoShared).positions.lookup
      (Client.position (Client.pool 1) (.wallet 10))).map (·.owed PRECISION) = some 3 := by
    decide +kernel
  have once : ((Genesis.blank.history demoShared).countP
      fun x => x.2.buysPool (Client.pool 1) (.wallet 10)) = 1 := by decide +kernel
  have within : TopUpsWithin PRECISION.toNat (Client.pool 1)
      (Genesis.blank.history demoShared) := by decide +kernel
  obtain ⟨pool, own, index⟩ := Option.map_eq_some_iff.mp pool
  obtain ⟨q, held, owed⟩ := Option.map_eq_some_iff.mp position
  have owed : q.owed pool.cumulativeUsdcPerToken = 3 := by rw [index, owed]
  have available := pool_claim_available _ _ _ _ pool q own held once within (by omega)
  exact ⟨pool, q, own, held, owed, owed ▸ available.1⟩

/-- One of two holders of pool 1 with 1 token each buys 4 more after a distribution of 4, when 2 USDC are
pending per token, and claims 10, all that is in the vault. -/
def demoDrained : List (Action Addr) :=
  Client.demoPool ++ [Client.demoBuy (.wallet 10) 1, Client.demoBuy (.wallet 11) 1,
    Client.demoDistribute 4, Client.demoBuy (.wallet 11) 4, Client.demoClaim (.wallet 11)]

/-- The other holder, who bought once, finds nothing left. -/
theorem pool_claim_not_available : ¬ ∀ (g : Genesis Addr) as p w pool q,
    (g.run as).pools.lookup p = some pool →
      (g.run as).positions.lookup (Client.position p w) = some q →
      ((g.history as).countP fun x => x.2.buysPool p w) = 1 →
      0 < q.owed pool.cumulativeUsdcPerToken →
      q.owed pool.cumulativeUsdcPerToken ≤ (g.run as).bank.balance pool.usdcVault ∧
        ∃ usdc, (g.run as).bank.holder pool.usdcVault = some (usdc, p) ∧ ∀ now, ∃ s',
          step (g.run as) (.call now (Client.claimPool usdc p pool.usdcVault w)) = .ok s' := by
  intro available
  have pool : ((Genesis.blank.run demoDrained).pools.lookup (Client.pool 1)).map
      (fun pool => (pool.cumulativeUsdcPerToken,
        (Genesis.blank.run demoDrained).bank.holder pool.usdcVault,
        (Genesis.blank.run demoDrained).errorOf (.call 0 (Client.claimPool (.wallet 1)
          (Client.pool 1) pool.usdcVault (.wallet 10)))))
      = some (2 * PRECISION, some (.wallet 1, Client.pool 1),
        some (.exira .insufficientVaultBalance)) := by decide +kernel
  have position : ((Genesis.blank.run demoDrained).positions.lookup
      (Client.position (Client.pool 1) (.wallet 10))).map (·.owed (2 * PRECISION)) = some 2 := by
    decide +kernel
  have once : ((Genesis.blank.history demoDrained).countP
      fun x => x.2.buysPool (Client.pool 1) (.wallet 10)) = 1 := by decide +kernel
  obtain ⟨pool, own, e⟩ := Option.map_eq_some_iff.mp pool
  obtain ⟨q, held, owed⟩ := Option.map_eq_some_iff.mp position
  injection e with index e
  injection e with holder fails
  obtain ⟨-, usdc, holder', claims⟩ :=
    available _ _ _ _ pool q own held once (by rw [index, owed]; decide)
  rw [holder] at holder'
  cases holder'
  obtain ⟨s', st⟩ := claims 0
  exact nomatch fails.symm.trans (State.errorOf_eq_none.mpr ⟨s', st⟩)

end Exira
