import Exira.Books.Distributions
import Exira.Pool.Availability
import Mathlib.Algebra.Order.Field.Rat
import Mathlib.Data.Nat.Cast.Order.Field
import Mathlib.Data.Rat.Cast.Order
import Mathlib.Tactic.FieldSimp
import Mathlib.Tactic.Linarith

/-!
# Pro-rata payouts of a pool

Who buys once, `k` tokens, shares in each later distribution of `a` USDC among `S` tokens with `k * a / S`.
The accumulator pays that share but for its rounding: less than one scaled unit per token and distribution,
and less than one USDC for each claim and for what is pending.
-/

namespace Exira

open Dividend

/-- The exact share of `k` units in distributions of given amounts, among the units then sold. -/
def proRata (k : ℕ) (ds : List (ℕ × ℕ)) : ℚ :=
  (ds.map fun d => (k * d.1 / d.2 : ℚ)).sum

/-- What `k` units are credited with in these distributions, scaled. -/
def credits (P k : ℕ) (ds : List (ℕ × ℕ)) : ℕ :=
  (ds.map fun d => k * (d.1 * P / d.2)).sum

section
variable {P k : ℕ} {ds : List (ℕ × ℕ)}

/-- One more distribution adds its credit. -/
lemma credits_append (P k : ℕ) (ds : List (ℕ × ℕ)) (o : Option (ℕ × ℕ)) :
    credits P k (ds ++ o.toList) = credits P k ds + k * o.elim 0 fun d => d.1 * P / d.2 := by
  cases o <;> simp [credits]

/-- The credit is at most the exact share. -/
lemma credits_le (P k : ℕ) (ds : List (ℕ × ℕ)) : (credits P k ds : ℚ) ≤ proRata k ds * P := by
  induction ds with
  | nil => simp [credits, proRata]
  | cons d ds ih =>
    have one : ((d.1 * P / d.2 : ℕ) : ℚ) ≤ d.1 * P / d.2 := by
      exact_mod_cast Nat.cast_div_le (α := ℚ) (m := d.1 * P) (n := d.2)
    have share : (k : ℚ) * (d.1 * P / d.2 : ℕ) ≤ k * d.1 / d.2 * P := by
      apply (mul_le_mul_of_nonneg_left one (Nat.cast_nonneg k)).trans_eq
      ring
    simp only [credits, proRata, List.map_cons, List.sum_cons, Nat.cast_add, Nat.cast_mul] at ih ⊢
    rw [add_mul]
    exact add_le_add share ih

/-- The credit loses less than one scaled unit per token in each distribution. -/
lemma le_credits (P k : ℕ) (ds : List (ℕ × ℕ)) :
    proRata k ds * P ≤ credits P k ds + ds.length * k := by
  induction ds with
  | nil => simp [credits, proRata]
  | cons d ds ih =>
    have one : (d.1 * P / d.2 : ℚ) ≤ (d.1 * P / d.2 : ℕ) + 1 := by
      rcases Nat.eq_zero_or_pos d.2 with zero | pos
      · simp [zero]
      · rw [div_le_iff₀ (by exact_mod_cast pos)]
        exact_mod_cast (Nat.lt_mul_of_div_lt (Nat.lt_succ_self _) pos).le
    have share : (k : ℚ) * d.1 / d.2 * P ≤ k * (d.1 * P / d.2 : ℕ) + k := by
      have scaled := mul_le_mul_of_nonneg_left one (Nat.cast_nonneg k)
      calc (k : ℚ) * d.1 / d.2 * P = k * (d.1 * P / d.2) := by ring
        _ ≤ k * ((d.1 * P / d.2 : ℕ) + 1) := scaled
        _ = k * (d.1 * P / d.2 : ℕ) + k := by ring
    simp only [credits, proRata, List.map_cons, List.sum_cons, Nat.cast_add, Nat.cast_mul,
      List.length_cons, Nat.cast_one] at ih ⊢
    rw [add_mul]
    linarith

/-- A payout of `x` that the credit covers but for `r` pending and `l` lost in `c` claims. -/
lemma payout_bounds {c x r l : ℕ} (credit : x * P + r + l = credits P k ds) (pending : r < P)
    (loss : l ≤ c * (P - 1)) :
    proRata k ds - ds.length * k / P - (c + 1) < x ∧ (x : ℚ) ≤ proRata k ds := by
  have scale : (0 : ℚ) < P := by exact_mod_cast (Nat.zero_le r).trans_lt pending
  have rounded : ((r + l : ℕ) : ℚ) < (c + 1) * P := by
    have le : c * (P - 1) ≤ c * P := Nat.mul_le_mul_left _ (Nat.sub_le _ _)
    have lt : r + l < (c + 1) * P := by rw [Nat.add_mul]; omega
    exact_mod_cast lt
  have credit' : (x : ℚ) * P + (r + l : ℕ) = credits P k ds := by
    rw [← credit]
    push_cast
    ring
  have nonneg : (0 : ℚ) ≤ (r + l : ℕ) := Nat.cast_nonneg _
  have upper := credits_le P k ds
  have lower := le_credits P k ds
  constructor
  · refine lt_of_mul_lt_mul_right ?_ scale.le
    have expand : (proRata k ds - ds.length * k / P - (c + 1)) * P
        = proRata k ds * P - ds.length * k - (c + 1) * P := by
      field_simp
    linarith
  · refine le_of_mul_le_mul_right ?_ scale
    linarith

end

/-! ## Funds -/

namespace Fund

variable {ι : Type} [DecidableEq ι] {P : ℕ} {f f₀ : Fund ι} {e : Event ι}
  {past rest tr : List (Fund ι × Event ι)} {i : ι} {k : ℕ}

/-- The last event of a run. -/
lemma Reaches.snoc_inv (run : Reaches P (tr ++ [(f₀, e)]) f) :
    Reaches P tr f₀ ∧ f₀.Step P e f := by
  generalize split : tr ++ [(f₀, e)] = tr' at run
  cases run with
  | fresh => simp at split
  | step past st =>
    obtain ⟨rfl, last⟩ := List.append_inj' split rfl
    cases last
    exact ⟨past, st⟩

/-- The index grows by distributions only. -/
lemma Step.index_growth (st : f₀.Step P e f) :
    f.index - f₀.index = (payment (f₀, e)).elim 0 fun d => d.1 * P / d.2 := by
  cases st with
  | distribute => exact Nat.add_sub_cancel_left _ _
  | _ => exact Nat.sub_self _

/-- Who bought `k` units of a pool, once, is credited with the growth of the index for each of them. -/
theorem Reaches.credit_once (run : Reaches P (past ++ (f₀, .buy i k) :: rest) f)
    (pool : f.layer = .pool)
    (once : total (fun _ => Event.boughtBy i) (past ++ (f₀, .buy i k) :: rest) ≤ 1) :
    ∃ h, f.holdings.lookup i = some h ∧ h.held = k ∧
      h.credit P f.index + total (lossBy P i) rest = credits P k (payments rest) := by
  induction rest using List.reverseRecOn generalizing f with
  | nil =>
    obtain ⟨before, st⟩ := run.snoc_inv
    rw [total_snoc] at once
    have free := before.lookup_none (i := i) (by simp only [Event.boughtBy, if_true] at once; omega)
    cases st with
    | buy =>
      refine ⟨⟨k, f₀.index, 0⟩, ?_, rfl, ?_⟩
      · simp [Ledger.buy, free, Holding.topUp]
      · simp [Ledger.buy, Holding.credit, Holding.pending, credits, payments]
  | append_singleton rest x ih =>
    obtain ⟨f₁, e⟩ := x
    rw [← List.cons_append, ← List.append_assoc] at run once
    obtain ⟨before, st⟩ := run.snoc_inv
    rw [st.layer] at pool
    rw [total_snoc] at once
    have bought : 1 ≤ total (fun _ => Event.boughtBy i) (past ++ (f₀, .buy i k) :: rest) := by
      simp only [total, List.map_append, List.map_cons, List.sum_append, List.sum_cons,
        Event.boughtBy, if_true]
      omega
    obtain ⟨h, own, held, credit⟩ := ih before pool (by omega)
    -- the one purchase is behind
    have other : e.boughtBy i = 0 := by omega
    -- nobody leaves a pool
    have stays : e ≠ .exit i := by
      rintro rfl
      cases st with
      | exit layer => cases layer.symm.trans pool
    have grown := st.credit_eq before.sound own stays
    refine ⟨_, st.lookup own, ?_, ?_⟩
    · rw [act_held stays other, held]
    · have inherits : inheritedBy i f₁ e = 0 := inheritedBy_other f₁ other
      rw [inherits, st.index_growth, held] at grown
      rw [total_snoc, payments_snoc, credits_append]
      omega

end Fund

/-! ## Pools -/

variable {K : Type} [DecidableEq K] [Addresses K]

/-- Claims on the position of a wallet are claims of the wallet. -/
lemma Genesis.claimsBy_le (g : Genesis K) (as : List (Action K)) (p w : K) :
    tally (Event.claimsBy (Client.position p w)) (.pool p) (g.history as)
      ≤ (g.history as).countP fun x => x.2.claimsPool p w := by
  apply tally_le_countP
  intro x mem e ev
  obtain ⟨bs, -, -, met, s', st⟩ := Genesis.mem_history mem
  cases e with
  | claim k =>
    obtain ⟨c, claims, target, rfl⟩ := claim_of_event ev
    have place := poolClaim_position (met ▸ g.run_wf bs) claims st
    simp only [Event.claimsBy]
    split
    · next same =>
      have investor := (position_inj (place.symm.trans same)).2
      simp [Action.claimsPool, claims, target, investor]
    · exact Nat.zero_le _
  | _ => exact Nat.zero_le _

section
variable (g : Genesis K) (as : List (Action K)) {p w : K} {past rest : List (State K × Action K)}
  {s₀ : State K} {now : Int64} {a : BuyPoolTokens K} {k : U64}

/-- The events of a pool around a purchase: those before it, the purchase, and those after it. -/
lemma Genesis.purchase_events (split : g.history as = past ++ (s₀, .call now (.buyPoolTokens a k)) :: rest)
    (target : a.pool = p) (investor : a.investor = w) :
    ∃ pool f₀, (g.run as).pools.lookup p = some pool ∧ fundHistory (.pool p) (g.history as)
      = fundHistory (.pool p) past ++ (f₀, .buy (Client.position p w) k.toNat) :: fundHistory (.pool p) rest := by
  have mem : (s₀, Action.call now (.buyPoolTokens a k)) ∈ g.history as := by
    rw [split]
    exact List.mem_append_right _ (.head _)
  obtain ⟨bs, cs, parts, rfl, s₁, st⟩ := Genesis.mem_history mem
  obtain ⟨⟨pool₀, own₀⟩, place⟩ := poolPurchase_inv rfl st
  rw [target] at own₀
  rw [target, investor] at place
  obtain ⟨f, own, -⟩ := g.fund_later bs (.call now (.buyPoolTokens a k) :: cs)
    (State.fund_pool own₀) (Q := fun _ => True) trivial fun _ _ _ _ _ _ => trivial
  have whole : g.run as = g.run (bs ++ .call now (.buyPoolTokens a k) :: cs) := congrArg g.run parts
  rw [← whole] at own
  obtain ⟨pool, found, -⟩ := State.fund_pool_some own
  have event : fundEvent (.pool p) (g.run bs, .call now (.buyPoolTokens a k))
      = some ((g.run bs).view.fundOf (.pool p) pool₀.listing,
        .buy (Client.position p w) k.toNat) := by
    simp [fundEvent, State.fund_pool own₀, State.event, State.listing_pool own₀, Action.effect,
      Effect.on, target, place, Client.position]
  refine ⟨pool, (g.run bs).view.fundOf (.pool p) pool₀.listing, found, ?_⟩
  rw [split, fundHistory, List.filterMap_append, List.filterMap_cons_some event]
  rfl

end

/-- The payout of a wallet that bought once: what it claimed and is owed is its exact share in every later
distribution, up to rounding. -/
theorem pool_payout_pro_rata (g : Genesis K) (as : List (Action K)) (p w : K)
    {past rest : List (State K × Action K)} {s₀ : State K} {now : Int64} {a : BuyPoolTokens K}
    {k : U64} (split : g.history as = past ++ (s₀, .call now (.buyPoolTokens a k)) :: rest)
    (target : a.pool = p) (investor : a.investor = w)
    (once : ((g.history as).countP fun x => x.2.buysPool p w) = 1) :
    ∃ pool q, (g.run as).pools.lookup p = some pool ∧
      (g.run as).positions.lookup (Client.position p w) = some q ∧
      proRata k.toNat (distributions (.pool p) rest)
          - (distributions (.pool p) rest).length * k.toNat / PRECISION.toNat
          - (((g.history as).countP fun x => x.2.claimsPool p w) + 1)
        < q.totalClaimed.toNat + q.owed pool.cumulativeUsdcPerToken ∧
      (q.totalClaimed.toNat + q.owed pool.cumulativeUsdcPerToken : ℚ)
        ≤ proRata k.toNat (distributions (.pool p) rest) := by
  obtain ⟨pool, f₀, found, events⟩ := g.purchase_events as split target investor
  have run := g.reaches as (State.fund_pool found)
  have bought := (g.boughtBy_le as p w).trans_eq once
  have claims := g.claimsBy_le as p w
  rw [tally, events] at bought claims
  rw [events] at run
  obtain ⟨h, held, -, credit⟩ := run.credit_once rfl bought
  obtain ⟨q, there, -, rfl⟩ := View.lookup_holdings held
  refine ⟨pool, q, found, there, ?_⟩
  rw [← distributions_eq]
  have loss := Fund.lossBy_le (P := PRECISION.toNat) (by decide) (Client.position p w)
    (fundHistory (.pool p) rest)
  have loss' : Fund.total (Fund.lossBy PRECISION.toNat (Client.position p w))
      (fundHistory (.pool p) rest)
      ≤ ((g.history as).countP fun x => x.2.claimsPool p w) * (PRECISION.toNat - 1) := by
    refine loss.trans (Nat.mul_le_mul_right _ (le_trans ?_ claims))
    simp only [Fund.total, List.map_append, List.map_cons, List.sum_append, List.sum_cons]
    omega
  have parts := Nat.div_add_mod' (q.pending pool.cumulativeUsdcPerToken) PRECISION.toNat
  have sum : (q.totalClaimed.toNat + q.owed pool.cumulativeUsdcPerToken) * PRECISION.toNat
      + q.pending pool.cumulativeUsdcPerToken % PRECISION.toNat
      + Fund.total (Fund.lossBy PRECISION.toNat (Client.position p w)) (fundHistory (.pool p) rest)
      = credits PRECISION.toNat k.toNat (Fund.payments (fundHistory (.pool p) rest)) := by
    rw [← credit, InvestorPosition.owed, Nat.add_mul]
    simp only [Holding.credit]
    change _ = q.totalClaimed.toNat * _ + q.pending pool.cumulativeUsdcPerToken + _
    omega
  have bounds := payout_bounds sum (Nat.mod_lt _ (by decide)) loss'
  push_cast at bounds
  exact bounds

/-- After a first purchase: a distribution, a claim, a purchase of another wallet, and a distribution that
both share. -/
def demoShares : List (Action Addr) :=
  [Client.demoDistribute 7, Client.demoClaim (.wallet 10), Client.demoBuy (.wallet 11) 4,
    Client.demoDistribute 5]

/-- A wallet that holds 3 through two distributions. -/
theorem pool_payout_pro_rata_demo : ∃ (pool : Pool Addr) (q : InvestorPosition Addr),
    (Genesis.blank.run (Client.demoPool ++ Client.demoBuy (.wallet 10) 3 :: demoShares)).pools.lookup
        (Client.pool 1) = some pool ∧
      (Genesis.blank.run
        (Client.demoPool ++ Client.demoBuy (.wallet 10) 3 :: demoShares)).positions.lookup
        (Client.position (Client.pool 1) (.wallet 10)) = some q ∧
      (q.totalClaimed.toNat + q.owed pool.cumulativeUsdcPerToken : ℚ) ≤ 7 + 15 / 7 := by
  have goes : (step (Genesis.blank.run Client.demoPool)
      (Client.demoBuy (.wallet 10) 3)).toOption.isSome := by decide +kernel
  cases st : step (Genesis.blank.run Client.demoPool) (Client.demoBuy (.wallet 10) 3) with
  | error e => rw [st] at goes; cases goes
  | ok s =>
    have split := Genesis.blank.history_append Client.demoPool
      (Client.demoBuy (.wallet 10) 3 :: demoShares)
    rw [Runs.trace_ok st, ← Runs.next_ok st] at split
    have once : ((Genesis.blank.history
        (Client.demoPool ++ Client.demoBuy (.wallet 10) 3 :: demoShares)).countP
        fun x => x.2.buysPool (Client.pool 1) (.wallet 10)) = 1 := by decide +kernel
    have paid : distributions (.pool (Client.pool 1)) (Runs.trace step
        (Runs.next step (Genesis.blank.run Client.demoPool) (Client.demoBuy (.wallet 10) 3))
        demoShares) = [(7, 3), (5, 7)] := by decide +kernel
    have payout := pool_payout_pro_rata Genesis.blank _ (Client.pool 1) (.wallet 10) split rfl rfl
    obtain ⟨pool, q, own, held, -, le⟩ := payout once
    have three : (3 : U64).toNat = 3 := rfl
    rw [paid, three] at le
    refine ⟨pool, q, own, held, le.trans_eq ?_⟩
    norm_num [proRata]

end Exira
