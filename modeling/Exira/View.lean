import Exira.Fund.Basic
import Exira.Step
import Mathlib.Logic.Function.Basic

/-!
# The funds of a state

Between the accounts of the program and the abstract funds: a `View` keeps of a state what projects and
pools have in common (`Listing`), the positions and the bank. `View.fund` reads the fund of a project or a
pool off a view, its holdings named by the address of their position. `State.event` says what an action
means to a fund: the instructions of the fund itself, and deposits and burns that other actions make.
-/

namespace Exira

open Dividend

/-! ## Listings -/

/-- A project or a pool, by its address. -/
inductive Target (K : Type) where
  | project (k : K)
  | pool (k : K)
deriving DecidableEq

namespace Target
variable {K : Type}

/-- The address of a target. -/
def key : Target K → K
  | .project k => k
  | .pool k => k

/-- Which of the two layers a target is on. -/
def layer : Target K → Layer
  | .project _ => .project
  | .pool _ => .pool

end Target

/-- What the records of projects and pools have in common, the amounts as numbers. -/
structure Listing (K : Type) where
  seeds : Seeds K
  bump : U8
  mint : K
  vault : K
  status : ProjectStatus
  target : ℕ
  sold : ℕ
  distributed : ℕ
  index : ℕ
  fee : ℕ

/-- The listing of a project. -/
def Project.listing {K : Type} (p : Project K) : Listing K where
  seeds := .project p.projectId
  bump := p.bump
  mint := p.tokenMint
  vault := p.usdcVault
  status := p.status
  target := p.targetAmount.toNat
  sold := p.tokensSold.toNat
  distributed := p.totalDistributed.toNat
  index := p.cumulativeUsdcPerToken.toNat
  fee := p.originationFeeCollected.toNat

/-- A pool's status on the scale of project statuses. -/
def PoolStatus.toProject : PoolStatus → ProjectStatus
  | .funding => .funding
  | .active => .active
  | .distributing => .repaying
  | .completed => .completed
  | .cancelled => .cancelled

/-- The listing of a pool. -/
def Pool.listing {K : Type} (p : Pool K) : Listing K where
  seeds := .pool p.poolId
  bump := p.bump
  mint := p.poolTokenMint
  vault := p.usdcVault
  status := p.status.toProject
  target := p.targetAmount.toNat
  sold := p.tokensSold.toNat
  distributed := p.totalDistributed.toNat
  index := p.cumulativeUsdcPerToken.toNat
  fee := 0

/-- The holding of a position. -/
def InvestorPosition.holding {K : Type} (q : InvestorPosition K) : Holding where
  held := q.tokensHeld.toNat
  last := q.lastClaimedPerToken.toNat
  claimed := q.totalClaimed.toNat

/-! ## Views -/

/-- What of a state the accounting is about. -/
structure View (K : Type) where
  listing : Target K → Option (Listing K)
  positions : Table K (InvestorPosition K)
  bank : Token.Bank K

section
variable {K : Type} [DecidableEq K]

/-- The view of a state. -/
def State.view (s : State K) : View K where
  listing
    | .project k => (s.projects.lookup k).map Project.listing
    | .pool k => (s.pools.lookup k).map Pool.listing
  positions := s.positions
  bank := s.bank

/-- The position's holding, if it is one of the target at `k`. -/
def InvestorPosition.holdingOf (k : K) (q : InvestorPosition K) : Option Holding :=
  if q.target = k then some q.holding else none

/-- The holdings of the target at `k`. -/
def View.holdings (v : View K) (k : K) : Table K Holding :=
  v.positions.filterMap (InvestorPosition.holdingOf k)

/-- The fund of a target with a given listing. -/
def View.fundOf (v : View K) (t : Target K) (l : Listing K) : Fund K where
  sold := l.sold
  distributed := l.distributed
  index := l.index
  holdings := v.holdings t.key
  layer := t.layer
  status := l.status
  target := l.target
  fee := l.fee
  vault := v.bank.balance l.vault
  supply := v.bank.supply l.mint

/-- The fund of a listed target. -/
def View.fund (v : View K) (t : Target K) : Option (Fund K) :=
  (v.listing t).map (v.fundOf t)

/-- The fund of a project or a pool. -/
def State.fund (s : State K) (t : Target K) : Option (Fund K) :=
  s.view.fund t

end

/-! ## Events of an action -/

/-- What an action does to funds. A payment to an account that the admin chooses is an event of the fund
that pays, and a deposit for the fund that has this account as its vault, if any. -/
inductive Effect (K : Type) where
  | quiet
  | deposit (dest : K) (n : ℕ)
  | burn (mint : K) (n : ℕ)
  | own (t : Target K) (e : Event K)
  | pay (t : Target K) (e : Event K) (dest : K) (n : ℕ)

/-- The event that an effect is for the fund of a target. -/
def Effect.on {K : Type} [DecidableEq K] (t : Target K) (l : Listing K) : Effect K → Option (Event K)
  | .quiet => none
  | .deposit dest n => if dest = l.vault then some (.deposit n) else none
  | .burn mint n => if mint = l.mint then some (.burn n) else none
  | .own t' e => if t' = t then some e else none
  | .pay t' e dest n =>
    if t' = t then some e else if dest = l.vault then some (.deposit n) else none

section
variable {K : Type} [DecidableEq K]

/-- The origination fee that an activation takes. -/
def State.activationFee (s : State K) (a : ActivateProject K) : ℕ :=
  match s.platforms.lookup a.platform, s.projects.lookup a.project with
  | some platform, some project =>
    project.targetAmount.toNat * platform.originationFeeBps.toNat / 10000
  | _, _ => 0

/-- What an action does to the view, when it succeeds. -/
def Action.effect (s : State K) : Action K → Effect K
  | .call _ (.buyProjectTokens a n) => .own (.project a.project) (.buy a.position n.toNat)
  | .call _ (.buyPoolTokens a n) => .own (.pool a.pool) (.buy a.position n.toNat)
  | .call _ (.withdrawInvestment a) => .own (.project a.project) (.exit a.position)
  | .call _ (.claimProjectReturns a) => .own (.project a.project) (.claim a.position)
  | .call _ (.claimPoolReturns a) => .own (.pool a.pool) (.claim a.position)
  | .call _ (.distributeRepayment a n) => .own (.project a.project) (.distribute n.toNat)
  | .call _ (.distributePoolReturns a n) => .own (.pool a.pool) (.distribute n.toNat)
  | .call _ (.activateProject a) =>
    .pay (.project a.project) (.activate (s.activationFee a)) a.treasuryUsdcAta (s.activationFee a)
  | .call _ (.closeProject a) => .own (.project a.project) .close
  | .call _ (.withdrawProjectFunds a n) =>
    .pay (.project a.project) (.payout n.toNat) a.destination n.toNat
  | .call _ _ => .quiet
  | .outside (.transfer _ dest _ n) => .deposit dest n.toNat
  | .outside (.mintTo _ dest _ n) => .deposit dest n.toNat
  | .outside (.burn _ mint _ n) => .burn mint n.toNat
  | .outside _ => .quiet

/-- What a successful action means to the fund of a target. -/
def State.event (s : State K) (t : Target K) (a : Action K) : Option (Event K) :=
  (s.view.listing t).bind fun l => (a.effect s).on t l

/-- The event of a target in a successful action, with the fund it met. -/
def fundEvent (t : Target K) (x : State K × Action K) : Option (Fund K × Event K) :=
  (x.1.fund t).bind fun f => (x.1.event t x.2).map fun e => (f, e)

/-- The events of a target in a history. -/
def fundHistory (t : Target K) (h : List (State K × Action K)) : List (Fund K × Event K) :=
  h.filterMap (fundEvent t)

end

/-! ## Reading a view -/

section
variable {K : Type} [DecidableEq K] {s : State K} {v : View K} {t : Target K}

/-- A project is listed. -/
lemma State.listing_project {k : K} {p : Project K} (own : s.projects.lookup k = some p) :
    s.view.listing (.project k) = some p.listing := by
  simp only [State.view, own, Option.map_some]

/-- A pool is listed. -/
lemma State.listing_pool {k : K} {p : Pool K} (own : s.pools.lookup k = some p) :
    s.view.listing (.pool k) = some p.listing := by
  simp only [State.view, own, Option.map_some]

/-- Writing a project changes its listing only. -/
lemma State.listing_insert_project (s : State K) (k : K) (p : Project K) :
    (fun t : Target K => match t with
      | .project k' => ((s.projects.insert k p).lookup k').map Project.listing
      | .pool k' => (s.pools.lookup k').map Pool.listing)
    = Function.update s.view.listing (.project k) (some p.listing) := by
  funext t
  cases t with
  | project k' =>
    simp only [Finmap.lookup_insert_ite, Function.update_apply, Target.project.injEq, State.view]
    split <;> rfl
  | pool k' => rfl

/-- Writing a pool changes its listing only. -/
lemma State.listing_insert_pool (s : State K) (k : K) (p : Pool K) :
    (fun t : Target K => match t with
      | .project k' => (s.projects.lookup k').map Project.listing
      | .pool k' => ((s.pools.insert k p).lookup k').map Pool.listing)
    = Function.update s.view.listing (.pool k) (some p.listing) := by
  funext t
  cases t with
  | project k' => rfl
  | pool k' =>
    simp only [Finmap.lookup_insert_ite, Function.update_apply, Target.pool.injEq, State.view]
    split <;> rfl

/-- A listed target has a fund. -/
lemma View.fund_eq {l : Listing K} (own : v.listing t = some l) :
    v.fund t = some (v.fundOf t l) := by
  rw [View.fund, own, Option.map_some]

/-- The holdings of a fund are those of its target. -/
lemma State.fund_holdings {f : Fund K} (own : s.fund t = some f) :
    f.holdings = s.view.holdings t.key := by
  obtain ⟨l, -, rfl⟩ := Option.map_eq_some_iff.mp own
  rfl

/-- What is not listed has no fund. -/
lemma View.fund_eq_none : v.fund t = none ↔ v.listing t = none := by
  simp only [View.fund, Option.map_eq_none_iff]

/-- A holding is a position's. -/
lemma View.lookup_holdings {k i : K} {h : Holding} (own : (v.holdings k).lookup i = some h) :
    ∃ q, v.positions.lookup i = some q ∧ q.target = k ∧ q.holding = h := by
  rw [View.holdings, Finmap.lookup_filterMap, Option.bind_eq_some_iff] at own
  obtain ⟨q, own, e⟩ := own
  unfold InvestorPosition.holdingOf at e
  split at e
  · next target => exact ⟨q, own, target, Option.some.inj e⟩
  · cases e

/-- A position is a holding of its target. -/
lemma View.lookup_holdings_of {i : K} {q : InvestorPosition K}
    (own : v.positions.lookup i = some q) : (v.holdings q.target).lookup i = some q.holding := by
  rw [View.holdings, Finmap.lookup_filterMap, own]
  simp only [Option.bind_some, InvestorPosition.holdingOf, if_true]

/-- An event of a target is an instruction of the target itself, or comes from outside. -/
lemma State.event_inv {a : Action K} {e : Event K} (ev : s.event t a = some e) :
    a.effect s = .own t e ∨ (∃ dest n, a.effect s = .pay t e dest n) ∨ (∃ n, e = .deposit n) ∨
      ∃ n, e = .burn n := by
  obtain ⟨l, -, on⟩ := Option.bind_eq_some_iff.mp ev
  cases eff : a.effect s with
  | quiet => simp [eff, Effect.on] at on
  | deposit dest n =>
    rw [eff, Effect.on, Option.ite_none_right_eq_some] at on
    exact .inr (.inr (.inl ⟨n, (Option.some.inj on.2).symm⟩))
  | burn mint n =>
    rw [eff, Effect.on, Option.ite_none_right_eq_some] at on
    exact .inr (.inr (.inr ⟨n, (Option.some.inj on.2).symm⟩))
  | own t' e' =>
    rw [eff, Effect.on, Option.ite_none_right_eq_some] at on
    obtain ⟨rfl, on⟩ := on
    cases on
    exact .inl rfl
  | pay t' e' dest n =>
    rw [eff, Effect.on] at on
    split at on
    · next target =>
      cases target
      cases on
      exact .inr (.inl ⟨dest, n, rfl⟩)
    · rw [Option.ite_none_right_eq_some] at on
      exact .inr (.inr (.inl ⟨n, (Option.some.inj on.2).symm⟩))

/-- The actions that are an event of a target: its own instructions, and anything for a deposit or a burn. -/
inductive Action.Raises (s : State K) : Action K → Target K → Event K → Prop
  | buyProject {now a n} : Raises s (.call now (.buyProjectTokens a n)) (.project a.project)
      (.buy a.position n.toNat)
  | buyPool {now a n} : Raises s (.call now (.buyPoolTokens a n)) (.pool a.pool) (.buy a.position n.toNat)
  | exit {now a} : Raises s (.call now (.withdrawInvestment a)) (.project a.project) (.exit a.position)
  | claimProject {now a} : Raises s (.call now (.claimProjectReturns a)) (.project a.project)
      (.claim a.position)
  | claimPool {now a} : Raises s (.call now (.claimPoolReturns a)) (.pool a.pool) (.claim a.position)
  | repay {now a n} : Raises s (.call now (.distributeRepayment a n)) (.project a.project)
      (.distribute n.toNat)
  | distribute {now a n} : Raises s (.call now (.distributePoolReturns a n)) (.pool a.pool)
      (.distribute n.toNat)
  | activate {now a} : Raises s (.call now (.activateProject a)) (.project a.project)
      (.activate (s.activationFee a))
  | close {now a} : Raises s (.call now (.closeProject a)) (.project a.project) .close
  | payout {now a n} : Raises s (.call now (.withdrawProjectFunds a n)) (.project a.project)
      (.payout n.toNat)
  | deposit {x t n} : Raises s x t (.deposit n)
  | burn {x t n} : Raises s x t (.burn n)

/-- An event of a target is raised by one of its actions. -/
lemma State.event_raises {x : Action K} {e : Event K} (ev : s.event t x = some e) : x.Raises s t e := by
  obtain own | ⟨dest, n, pay⟩ | ⟨n, rfl⟩ | ⟨n, rfl⟩ := State.event_inv ev
  · unfold Action.effect at own
    split at own <;> cases own <;> constructor
  · unfold Action.effect at pay
    split at pay <;> cases pay <;> constructor
  · exact .deposit
  · exact .burn

end

end Exira
