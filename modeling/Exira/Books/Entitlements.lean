import Exira.Pool.TopUps
import Exira.Project.Dust

/-!
# The books of entitlements

What the positions of a target claimed and accrued comes from what was distributed, and three things make the
difference, each read off the actions of the history: the remainder of a distribution, which is credited to nobody;
the remainder of a claim, which the position gives up; and what a purchase adds to a position that is not
settled, which nobody paid in. With these the books balance exactly.
-/

namespace Exira

open Dividend

/-! ## Funds -/

/-- Who claims. -/
def Event.claimer {ι : Type} : Event ι → Option ι
  | .claim i => some i
  | _ => none

/-- Who buys, and how much. -/
def Event.purchase {ι : Type} : Event ι → Option (ι × ℕ)
  | .buy i n => some (i, n)
  | _ => none

namespace Fund

variable {ι : Type} [DecidableEq ι] {P : ℕ} {f f' : Fund ι} {e : Event ι} {tr : List (Fund ι × Event ι)}

/-- What a claim rounds off, scaled. -/
def rounded (P : ℕ) (f : Fund ι) : Event ι → ℕ
  | .claim i => (f.holdings.lookup i).elim 0 fun h => h.pending f.index % P
  | _ => 0

/-- What one event does to the credit of all holders. -/
lemma Step.credited_eq (sound : f.Sound) (st : f.Step P e f') :
    f'.credited P + dustOf P (payment (f, e)).toList + f.rounded P e + f.distributed * P
      = f.credited P + f.inherited e + f'.distributed * P := by
  cases st with
  | @buy i n =>
    cases own : f.holdings.lookup i with
    | none =>
      have c := Ledger.credited_buy_new (P := P) own n
      simp only [inherited, own, Option.elim, Ledger.credited, Ledger.buy] at c ⊢
      rw [c]
      rfl
    | some h =>
      have c := Ledger.credited_buy (P := P) own n
      simp only [inherited, own, Option.elim, Ledger.credited, Ledger.buy] at c ⊢
      rw [c]
      rfl
  | @exit i h project status own =>
    -- what an exit forfeits is nothing before activation
    have funding := status.resolve_right sound.live
    obtain ⟨-, index, -, -⟩ := sound.funding project funding
    have c := Ledger.credited_exit (P := P) own
    have pending : h.pending f.index = 0 := by rw [Holding.pending, index, Nat.zero_sub, Nat.mul_zero]
    simp only [Ledger.credited, Ledger.exit, pending, Nat.add_zero] at c ⊢
    rw [c]
    rfl
  | @claim i h own =>
    have c := Ledger.credited_claim (P := P) own
    simp only [rounded, own, Option.elim, Ledger.credited, Ledger.claim] at c ⊢
    rw [← c]
    rfl
  | @distribute n =>
    have c := Ledger.credited_distribute (P := P) sound.ledger n
    have d := Nat.div_add_mod (n * P) f.sold
    simp only [payment, dustOf, rounded, inherited, Option.toList_some, List.map_cons, List.map_nil,
      List.sum_cons, List.sum_nil, Ledger.credited, Ledger.distribute, Nat.add_mul] at c ⊢
    omega
  | activate => rfl
  | close => rfl
  | payout => rfl
  | deposit => rfl
  | burn => rfl

/-- The books of entitlements of a fund. -/
theorem Reaches.credited_eq (run : Reaches P tr f) :
    f.credited P + dustOf P (payments tr) + total (rounded P) tr
      = f.distributed * P + total inherited tr := by
  induction run with
  | fresh new => simp [Ledger.credited, new.holdings, new.distributed, dustOf, payments]
  | @step tr f e f' past st ih =>
    have c := st.credited_eq past.sound
    rw [dustOf_snoc, total_snoc, total_snoc]
    omega

end Fund

/-! ## Histories -/

variable {K : Type} [DecidableEq K] {t : Target K} {s : State K} {f : Fund K} {k : K}

/-- How far the index of a target is past the last claim of the position at `k`. -/
def State.unsettled (s : State K) (t : Target K) (k : K) : ℕ :=
  match s.view.listing t, s.positions.lookup k with
  | some l, some q => if q.target = t.key then l.index - q.lastClaimedPerToken.toNat else 0
  | _, _ => 0

/-- What the position at `k` accrued on a target since its last claim, scaled. -/
def State.accrued (s : State K) (t : Target K) (k : K) : ℕ :=
  match s.view.listing t, s.positions.lookup k with
  | some l, some q =>
    if q.target = t.key then q.tokensHeld.toNat * (l.index - q.lastClaimedPerToken.toNat) else 0
  | _, _ => 0

/-- Nothing is unsettled where no target is. -/
lemma State.unsettled_free (free : s.fund t = none) (k : K) : s.unsettled t k = 0 := by
  rw [State.unsettled, Option.map_eq_none_iff.mp free]

/-- Nothing is accrued where no target is. -/
lemma State.accrued_free (free : s.fund t = none) (k : K) : s.accrued t k = 0 := by
  rw [State.accrued, Option.map_eq_none_iff.mp free]

/-- The target and the position of a claim. -/
def Action.claimed : Action K → Option (Target K × K)
  | .call _ (.claimProjectReturns a) => some (.project a.project, a.position)
  | .call _ (.claimPoolReturns a) => some (.pool a.pool, a.position)
  | _ => none

/-- The target of a purchase, with the position and the amount. -/
def Action.purchased : Action K → Option (Target K × K × ℕ)
  | .call _ (.buyProjectTokens a n) => some (.project a.project, a.position, n.toNat)
  | .call _ (.buyPoolTokens a n) => some (.pool a.pool, a.position, n.toNat)
  | _ => none

/-- What the claims on a target in a history rounded off, scaled. -/
def remainders (t : Target K) (h : List (State K × Action K)) : ℕ :=
  (h.map fun x => x.2.claimed.elim 0 fun c =>
    if c.1 = t then x.1.accrued t c.2 % PRECISION.toNat else 0).sum

/-- What the purchases on a target in a history added to what their positions had accrued, scaled. -/
def inheritance (t : Target K) (h : List (State K × Action K)) : ℕ :=
  (h.map fun x => x.2.purchased.elim 0 fun c =>
    if c.1 = t then c.2.2 * x.1.unsettled t c.2.1 else 0).sum

/-- The holding that a fund has at `k`. -/
lemma State.lookup_position (own : s.fund t = some f) (k : K) :
    f.holdings.lookup k = (s.positions.lookup k).bind (InvestorPosition.holdingOf t.key) := by
  obtain ⟨l, -, rfl⟩ := Option.map_eq_some_iff.mp own
  exact Finmap.lookup_filterMap _ _ _

/-- What is unsettled at a holding. -/
lemma State.unsettled_eq (own : s.fund t = some f) (k : K) :
    s.unsettled t k = (f.holdings.lookup k).elim 0 fun h => f.index - h.last := by
  rw [State.lookup_position own]
  obtain ⟨l, listed, rfl⟩ := Option.map_eq_some_iff.mp own
  rw [State.unsettled, listed]
  cases s.positions.lookup k with
  | none => rfl
  | some q =>
    simp only [Option.bind_some, InvestorPosition.holdingOf]
    split <;> rfl

/-- What a holding has accrued. -/
lemma State.accrued_eq (own : s.fund t = some f) (k : K) :
    s.accrued t k = (f.holdings.lookup k).elim 0 fun h => h.pending f.index := by
  rw [State.lookup_position own]
  obtain ⟨l, listed, rfl⟩ := Option.map_eq_some_iff.mp own
  rw [State.accrued, listed]
  cases s.positions.lookup k with
  | none => rfl
  | some q =>
    simp only [Option.bind_some, InvestorPosition.holdingOf]
    split <;> rfl

/-- A sum over the events of a target is a sum over the actions. -/
lemma Fund.total_fundHistory (μ : Fund K → Event K → ℕ) (h : List (State K × Action K)) :
    Fund.total μ (fundHistory t h) = (h.map fun x => (fundEvent t x).elim 0 fun y => μ y.1 y.2).sum := by
  induction h with
  | nil => rfl
  | cons x h ih =>
    rw [List.map_cons, List.sum_cons, ← ih, fundHistory]
    cases e : fundEvent t x with
    | none =>
      rw [List.filterMap_cons_none e]
      exact (Nat.zero_add _).symm
    | some y =>
      rw [List.filterMap_cons_some e]
      rfl

/-- A measure on the events of one kind, read off an action. -/
lemma fundEvent_read {α : Type} {pick : Event K → Option α} {read : Action K → Option (Target K × α)}
    {φ : Fund K → α → ℕ} {ψ : State K → α → ℕ} (x : State K × Action K)
    (same : (x.1.fund t).isSome → ∀ a, (x.1.event t x.2).bind pick = some a ↔ read x.2 = some (t, a))
    (own : ∀ f a, x.1.fund t = some f → φ f a = ψ x.1 a) (free : ∀ a, x.1.fund t = none → ψ x.1 a = 0) :
    ((fundEvent t x).elim 0 fun y => (pick y.2).elim 0 (φ y.1))
      = (read x.2).elim 0 fun c => if c.1 = t then ψ x.1 c.2 else 0 := by
  cases found : x.1.fund t with
  | none =>
    rw [fundEvent, found, Option.bind_none]
    cases read x.2 with
    | none => rfl
    | some c => simp [free c.2 found]
  | some f =>
    have same := same (found ▸ rfl)
    by_cases hit : ∃ a, read x.2 = some (t, a)
    · obtain ⟨a, r⟩ := hit
      obtain ⟨e, ev, picked⟩ := Option.bind_eq_some_iff.mp ((same a).mpr r)
      simp [fundEvent, found, ev, r, picked, own f a found]
    · have miss : ((read x.2).elim 0 fun c => if c.1 = t then ψ x.1 c.2 else 0) = 0 := by
        cases r : read x.2 with
        | none => rfl
        | some c =>
          have other : c.1 ≠ t := by
            rintro rfl
            exact hit ⟨c.2, r⟩
          exact if_neg other
      rw [miss]
      cases ev : x.1.event t x.2 with
      | none => simp [fundEvent, found, ev]
      | some e =>
        have none : pick e = none := by
          cases picked : pick e with
          | none => rfl
          | some a => exact absurd ⟨a, (same a).mp (ev ▸ picked)⟩ hit
        simp [fundEvent, found, ev, none]

/-- The event of a claim is that of the claim at the target. -/
lemma claimer_eq_some (there : (s.fund t).isSome) (x : Action K) (k : K) :
    (s.event t x).bind Event.claimer = some k ↔ x.claimed = some (t, k) := by
  constructor
  · intro h
    obtain ⟨e, ev, claims⟩ := Option.bind_eq_some_iff.mp h
    cases e with
    | claim i =>
      cases claims
      cases State.event_raises ev <;> rfl
    | _ => cases claims
  · intro h
    obtain ⟨f, own⟩ := Option.isSome_iff_exists.mp there
    obtain ⟨l, listed, -⟩ := Option.map_eq_some_iff.mp own
    unfold Action.claimed at h
    split at h
    · cases h
      simp [State.event, listed, Action.effect, Effect.on, Event.claimer]
    · cases h
      simp [State.event, listed, Action.effect, Effect.on, Event.claimer]
    · cases h

/-- The event of a buy is that of the purchase at the target. -/
lemma purchase_eq_some (there : (s.fund t).isSome) (x : Action K) (c : K × ℕ) :
    (s.event t x).bind Event.purchase = some c ↔ x.purchased = some (t, c) := by
  constructor
  · intro h
    obtain ⟨e, ev, buys⟩ := Option.bind_eq_some_iff.mp h
    cases e with
    | buy i n =>
      cases buys
      cases State.event_raises ev <;> rfl
    | _ => cases buys
  · intro h
    obtain ⟨f, own⟩ := Option.isSome_iff_exists.mp there
    obtain ⟨l, listed, -⟩ := Option.map_eq_some_iff.mp own
    unfold Action.purchased at h
    split at h
    · cases h
      simp [State.event, listed, Action.effect, Effect.on, Event.purchase]
    · cases h
      simp [State.event, listed, Action.effect, Effect.on, Event.purchase]
    · cases h

/-- The fund's remainders are those of the state's history. -/
lemma remainders_eq (t : Target K) (h : List (State K × Action K)) :
    Fund.total (Fund.rounded PRECISION.toNat) (fundHistory t h) = remainders t h := by
  rw [Fund.total_fundHistory, remainders]
  congr 1
  apply List.map_congr_left
  intro x _
  rw [← fundEvent_read (ψ := fun s k => s.accrued t k % PRECISION.toNat) x (claimer_eq_some · x.2)
    (fun f k own => by rw [State.accrued_eq own]) fun k free => by rw [State.accrued_free free, Nat.zero_mod]]
  cases fundEvent t x with
  | none => rfl
  | some y =>
    obtain ⟨f, e⟩ := y
    cases e with
    | claim k =>
      simp only [Option.elim, Fund.rounded, Event.claimer]
      cases f.holdings.lookup k <;> rfl
    | _ => rfl

/-- The fund's inheritance is that of the state's history. -/
lemma inheritance_eq (t : Target K) (h : List (State K × Action K)) :
    Fund.total Fund.inherited (fundHistory t h) = inheritance t h := by
  rw [Fund.total_fundHistory, inheritance]
  congr 1
  apply List.map_congr_left
  intro x _
  rw [← fundEvent_read (ψ := fun s c => c.2 * s.unsettled t c.1) x (purchase_eq_some · x.2)
    (fun f c own => by rw [State.unsettled_eq own]) fun c free => by rw [State.unsettled_free free, Nat.mul_zero]]
  cases fundEvent t x with
  | none => rfl
  | some y =>
    obtain ⟨f, e⟩ := y
    cases e with
    | buy k n =>
      simp only [Option.elim, Fund.inherited, Event.purchase]
      cases f.holdings.lookup k <;> rfl
    | _ => rfl

/-- The credit of the positions of a target. -/
lemma State.sum_credit (s : State K) (p : K) (cumulative : U128) :
    s.sumPositions p (fun q => q.totalClaimed.toNat * PRECISION.toNat + q.pending cumulative)
      = (s.view.holdings p).sum (Holding.credit PRECISION.toNat cumulative.toNat) :=
  State.sumPositions_eq fun _ => rfl

/-- What was claimed and what is accrued, apart. -/
lemma State.sum_claimed_pending (s : State K) (p : K) (cumulative : U128) :
    s.sumPositions p (fun q => q.totalClaimed.toNat * PRECISION.toNat + q.pending cumulative)
      = s.sumPositions p (fun q => q.totalClaimed.toNat) * PRECISION.toNat
        + s.sumPositions p (fun q => q.pending cumulative) := by
  have claimed : s.sumPositions p (fun q => q.totalClaimed.toNat) = (s.view.holdings p).sum Holding.claimed :=
    State.sumPositions_eq fun _ => rfl
  have pending : s.sumPositions p (fun q => q.pending cumulative)
      = (s.view.holdings p).sum (Holding.pending cumulative.toNat) :=
    State.sumPositions_eq fun _ => rfl
  rw [State.sum_credit, claimed, pending, ← Finmap.sum_mul, ← Finmap.sum_add]
  rfl

variable [Addresses K]

/-- The books of entitlements of every reachable state balance, for a project without anything inherited. And the
vault of a pool has what its tokens were bought for, what was deposited and what its positions accrued, with the
remainders, but for what the top-ups inherited. -/
theorem entitlements_balance (g : Genesis K) (as : List (Action K)) :
    (∀ p project, (g.run as).projects.lookup p = some project →
      (g.run as).sumPositions p (fun q => q.totalClaimed.toNat * PRECISION.toNat
          + q.pending project.cumulativeUsdcPerToken)
        + dustOf PRECISION.toNat (distributions (.project p) (g.history as))
        + remainders (.project p) (g.history as)
        = project.totalDistributed.toNat * PRECISION.toNat) ∧
    ∀ p pool, (g.run as).pools.lookup p = some pool →
      (g.run as).sumPositions p (fun q => q.totalClaimed.toNat * PRECISION.toNat
          + q.pending pool.cumulativeUsdcPerToken)
        + dustOf PRECISION.toNat (distributions (.pool p) (g.history as))
        + remainders (.pool p) (g.history as)
        = pool.totalDistributed.toNat * PRECISION.toNat + inheritance (.pool p) (g.history as) ∧
      (g.run as).bank.balance pool.usdcVault * PRECISION.toNat + inheritance (.pool p) (g.history as)
        = (pool.tokensSold.toNat + tally Event.deposits (.pool p) (g.history as)) * PRECISION.toNat
          + (g.run as).sumPositions p (fun q => q.pending pool.cumulativeUsdcPerToken)
          + dustOf PRECISION.toNat (distributions (.pool p) (g.history as))
          + remainders (.pool p) (g.history as) := by
  constructor
  · intro p project own
    have run := g.reaches as (State.fund_project own)
    have books := run.credited_eq
    rw [run.inherited_project rfl, distributions_eq, remainders_eq, Nat.add_zero] at books
    rw [State.sum_credit]
    exact books
  · intro p pool own
    have books := (g.reaches as (State.fund_pool own)).credited_eq
    rw [inheritance_eq, distributions_eq, remainders_eq] at books
    have credit := State.sum_credit (g.run as) p pool.cumulativeUsdcPerToken
    have vault := congrArg (· * PRECISION.toNat) (g.pool_vault as own)
    have balance := (congrArg (· + _ + _) credit).trans books
    refine ⟨balance, ?_⟩
    rw [State.sum_claimed_pending] at balance
    simp only [Nat.add_mul] at vault ⊢
    simp only [View.fundOf, Pool.listing] at balance
    omega

end Exira
