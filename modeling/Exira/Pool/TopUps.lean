import Exira.Books.Vaults

/-!
# Purchases that add to a position

A purchase in a pool does not settle a position that it adds to, so the tokens it adds share in what was
distributed since the last claim of the position. `topUpGap` is how far the index is past that claim, and
what a purchase inherits is at most the tokens bought times the gap.
-/

namespace Exira

open Dividend

/-! ## Funds -/

/-- Units that are bought. -/
def Event.bought {ι : Type} : Event ι → ℕ
  | .buy _ n => n
  | _ => 0

namespace Fund

variable {ι : Type} [DecidableEq ι] {P gap : ℕ} {f : Fund ι} {tr : List (Fund ι × Event ι)}

/-- Nobody leaves a pool, so all that was bought is sold. -/
lemma Reaches.bought_pool (run : Reaches P tr f) (pool : f.layer = .pool) :
    total (fun _ => Event.bought) tr = f.sold := by
  induction run with
  | fresh new => rw [total_nil, new.sold]
  | step past st ih =>
    rw [st.layer] at pool
    rw [total_snoc, ih pool]
    cases st with
    | exit project => exact nomatch pool.symm.trans project
    | _ => rfl

/-- If no purchase in a pool inherits more than `gap` per unit, neither do all together. -/
lemma Reaches.inherited_le (run : Reaches P tr f) (pool : f.layer = .pool)
    (each : ∀ x ∈ tr, x.1.inherited x.2 ≤ x.2.bought * gap) :
    total inherited tr ≤ f.sold * gap := by
  have mono : total inherited tr ≤ total (fun _ e => e.bought * gap) tr := total_mono each
  have scale : total (fun _ e => e.bought * gap) tr = total (fun _ => Event.bought) tr * gap := by
    simp only [total, List.sum_map_mul_right]
  rw [← run.bought_pool pool, ← scale]
  exact mono

end Fund

/-! ## Pools -/

variable {K : Type} [DecidableEq K]

/-- The purchase that an action makes in a pool. -/
def Action.poolPurchase : Action K → Option (BuyPoolTokens K)
  | .call _ (.buyPoolTokens a _) => some a
  | _ => none

omit [DecidableEq K] in
/-- The action of a purchase. -/
lemma Action.poolPurchase_eq_some {x : Action K} {a : BuyPoolTokens K}
    (e : x.poolPurchase = some a) : ∃ now n, x = .call now (.buyPoolTokens a n) := by
  unfold Action.poolPurchase at e
  split at e <;> cases e
  exact ⟨_, _, rfl⟩

/-- The action is a purchase of `w` in the pool at `p`. -/
def Action.buysPool (p w : K) (a : Action K) : Bool :=
  a.poolPurchase.any fun c => c.pool = p ∧ c.investor = w

/-- The claim that an action makes in a pool. -/
def Action.poolClaim : Action K → Option (ClaimPoolReturns K)
  | .call _ (.claimPoolReturns c) => some c
  | _ => none

omit [DecidableEq K] in
/-- The action of a claim. -/
lemma Action.poolClaim_eq_some {x : Action K} {c : ClaimPoolReturns K} (e : x.poolClaim = some c) :
    ∃ now, x = .call now (.claimPoolReturns c) := by
  unfold Action.poolClaim at e
  split at e <;> cases e
  exact ⟨_, rfl⟩

/-- The action is a claim of `w` in the pool at `p`. -/
def Action.claimsPool (p w : K) (a : Action K) : Bool :=
  a.poolClaim.any fun c => c.pool = p ∧ c.investor = w

/-- How far the index of the pool at `p` is past the last claim of the position at `k`. -/
def State.gapAt (s : State K) (p k : K) : ℕ :=
  match s.pools.lookup p, s.positions.lookup k with
  | some pool, some q => pool.cumulativeUsdcPerToken.toNat - q.lastClaimedPerToken.toNat
  | _, _ => 0

/-- The gap at the position that a purchase in the pool at `p` adds to. -/
def topUpGap (p : K) (x : State K × Action K) : ℕ :=
  x.2.poolPurchase.elim 0 fun a => if a.pool = p then x.1.gapAt p a.position else 0

/-- The gap of a step is bounded when that of each purchase is. -/
lemma topUpGap_le {x : State K × Action K} {p : K} {gap : ℕ}
    (le : ∀ a pool q, x.2.poolPurchase = some a → a.pool = p → x.1.pools.lookup p = some pool →
      x.1.positions.lookup a.position = some q →
      pool.cumulativeUsdcPerToken.toNat - q.lastClaimedPerToken.toNat ≤ gap) :
    topUpGap p x ≤ gap := by
  unfold topUpGap
  cases e : x.2.poolPurchase with
  | none => exact Nat.zero_le _
  | some a =>
    simp only [Option.elim]
    split
    · next target =>
      unfold State.gapAt
      split
      · next pool q own held => exact le a pool q e target own held
      · exact Nat.zero_le _
    · exact Nat.zero_le _

/-- Every purchase in the pool at `p` finds a gap of at most `gap`. -/
def TopUpsWithin (gap : ℕ) (p : K) (h : List (State K × Action K)) : Prop :=
  ∀ x ∈ h, topUpGap p x ≤ gap

instance (gap : ℕ) (p : K) (h : List (State K × Action K)) : Decidable (TopUpsWithin gap p h) :=
  List.decidableBAll _ h

/-- What the position at `k` accrued in the pool at `p` since its last claim, scaled. -/
def State.pendingAt (s : State K) (p k : K) : ℕ :=
  match s.pools.lookup p, s.positions.lookup k with
  | some pool, some q => q.pending pool.cumulativeUsdcPerToken
  | _, _ => 0

/-- The event of a buy is that of a purchase at the pool. -/
lemma buy_of_event {s : State K} {x : Action K} {p k : K} {n : ℕ}
    (e : s.event (.pool p) x = some (.buy k n)) :
    ∃ a, x.poolPurchase = some a ∧ a.pool = p ∧ a.position = k := by
  cases State.event_raises e
  exact ⟨_, rfl, rfl, rfl⟩

/-- The event of a claim is that of a claim at the pool. -/
lemma claim_of_event {s : State K} {x : Action K} {p k : K}
    (e : s.event (.pool p) x = some (.claim k)) :
    ∃ c, x.poolClaim = some c ∧ c.pool = p ∧ c.position = k := by
  cases State.event_raises e
  exact ⟨_, rfl, rfl, rfl⟩

/-- The gap at a position is how far the index has moved past its holding. -/
lemma State.gapAt_eq {s : State K} {p k : K} {f : Fund K} {h : Holding}
    (own : s.fund (.pool p) = some f) (held : f.holdings.lookup k = some h) :
    s.gapAt p k = f.index - h.last := by
  obtain ⟨pool, found, rfl⟩ := State.fund_pool_some own
  obtain ⟨q, there, -, rfl⟩ := View.lookup_holdings held
  have there : s.positions.lookup k = some q := there
  simp only [State.gapAt, found, there]
  rfl

/-- What a purchase inherits is at most the gap for each token. -/
lemma inherited_le_gap {s : State K} {x : Action K} {p : K} {f : Fund K} {e : Event K}
    (own : s.fund (.pool p) = some f) (ev : s.event (.pool p) x = some e) :
    f.inherited e ≤ e.bought * topUpGap p (s, x) := by
  cases e with
  | buy k n =>
    obtain ⟨a, buys, rfl, rfl⟩ := buy_of_event ev
    cases held : f.holdings.lookup a.position with
    | none => simp only [Fund.inherited, held, Option.elim, Nat.zero_le]
    | some h =>
      simp only [Fund.inherited, held, Option.elim, topUpGap, buys, if_true, State.gapAt_eq own held]
      exact Nat.le_refl _
  | _ => exact Nat.zero_le _

/-- A run with bounded gaps inherits at most the bound with each token. -/
lemma TopUpsWithin.inherited_le {gap : ℕ} {p : K} {h : List (State K × Action K)}
    (within : TopUpsWithin gap p h) :
    ∀ x ∈ fundHistory (.pool p) h, x.1.inherited x.2 ≤ x.2.bought * gap := by
  intro x mem
  obtain ⟨⟨s, a⟩, past, e⟩ := List.mem_filterMap.mp mem
  obtain ⟨f, own, e⟩ := Option.bind_eq_some_iff.mp e
  obtain ⟨ev, event, rfl⟩ := Option.map_eq_some_iff.mp e
  exact (inherited_le_gap own event).trans (Nat.mul_le_mul_left _ (within _ past))

/-- What the positions of a pool claimed and are owed, as their claims and debts apart. -/
lemma State.sum_entitled_pool (s : State K) (p : K) (pool : Pool K) :
    s.sumPositions p (fun q => q.totalClaimed.toNat + q.owed pool.cumulativeUsdcPerToken)
      = s.sumPositions p (fun q => q.totalClaimed.toNat)
        + (s.view.fundOf (.pool p) pool.listing).owedTotal PRECISION.toNat := by
  rw [State.sum_claimed_pool _ _ pool]
  refine Eq.trans (State.sumPositions_eq (ψ := fun h => h.claimed
    + h.owed PRECISION.toNat pool.cumulativeUsdcPerToken.toNat) fun _ => rfl) ?_
  exact Finmap.sum_add _ _ _

variable [Addresses K]

/-- A purchase is in a pool, for the position of its investor. -/
lemma poolPurchase_inv {s s' : State K} {x : Action K} {a : BuyPoolTokens K}
    (e : x.poolPurchase = some a) (st : step s x = .ok s') :
    (∃ pool, s.pools.lookup a.pool = some pool) ∧
      a.position = findProgramAddress (.position a.pool a.investor) := by
  obtain ⟨now, n, rfl⟩ := Action.poolPurchase_eq_some e
  obtain ⟨done, -⟩ := buyPoolTokens_ok.mp (step_call st).2
  exact ⟨⟨done.pool, done.own⟩, (ensurePosition_ok done.made).1⟩

/-- A claim in a pool is on the position of its investor. -/
lemma poolClaim_position {s s' : State K} {x : Action K} {c : ClaimPoolReturns K} (wf : s.Wf)
    (e : x.poolClaim = some c) (st : step s x = .ok s') :
    c.position = findProgramAddress (.position c.pool c.investor) := by
  obtain ⟨now, rfl⟩ := Action.poolClaim_eq_some e
  obtain ⟨pool, q, q', n, b₀, b₁, -, claim, -⟩ := claimPoolReturns_inv wf (step_call st).2
  exact claim.placed.key

/-- The credit of the positions of a pool is covered by its distributions, and by `gap` per token sold. -/
theorem Genesis.credited_pool_le (g : Genesis K) (as : List (Action K)) {p : K} {pool : Pool K} {gap : ℕ}
    (own : (g.run as).pools.lookup p = some pool) (within : TopUpsWithin gap p (g.history as)) :
    ((g.run as).view.fundOf (.pool p) pool.listing).credited PRECISION.toNat
      ≤ pool.totalDistributed.toNat * PRECISION.toNat + pool.tokensSold.toNat * gap := by
  have run := g.reaches as (State.fund_pool own)
  have inherited := run.inherited_le rfl within.inherited_le
  exact run.credited_le.trans (Nat.add_le_add_left inherited _)

/-- What a pool sold and distributed is in its vault or was claimed. -/
theorem Genesis.pool_vault_ge (g : Genesis K) (as : List (Action K)) {p : K} {pool : Pool K}
    (own : (g.run as).pools.lookup p = some pool) :
    pool.tokensSold.toNat + pool.totalDistributed.toNat
      ≤ (g.run as).bank.balance pool.usdcVault
        + (g.run as).sumPositions p (fun q => q.totalClaimed.toNat) := by
  rw [g.pool_vault as own]
  exact Nat.le_add_right _ _

end Exira
