import Exira.Access.Mirror

/-!
# Instructions in two runs

An instruction about a target that goes through in one of two mirrored runs goes through in the other, where the
other provides what the instruction takes, names and makes (`Provided`); and the target is then the same again
(`Mirrored.answers`).
-/

namespace Exira

open Dividend

variable {K : Type} [DecidableEq K] [Addresses K]

/-! ## What an attempt takes and names -/

/-- What a claim of the position at `k` on the target `t` would pay. -/
def State.owedAt (s : State K) (t : Target K) (k : K) : ℕ :=
  match s.view.listing t, s.positions.lookup k with
  | some l, some q => q.holding.owed PRECISION.toNat l.index
  | _, _ => 0

/-- The tokens of the position at `k`. -/
def State.tokensAt (s : State K) (k : K) : ℕ :=
  (s.positions.lookup k).elim 0 fun q => q.tokensHeld.toNat

/-- An amount taken from a token account, which is one of `mint` and of `owner`. -/
structure Debit (K : Type) where
  account : K
  mint : K
  owner : K
  amount : ℕ

/-- What an attempt takes: from the account of its payer, or from the vault that pays. -/
def State.debits (s : State K) : Action K → List (Debit K)
  | .call _ (.buyProjectTokens a n) => [⟨a.investorUsdcAta, a.usdcMint, a.investor, n.toNat⟩]
  | .call _ (.buyPoolTokens a n) => [⟨a.investorUsdcAta, a.usdcMint, a.investor, n.toNat⟩]
  | .call _ (.distributeRepayment a n) => [⟨a.adminUsdcAta, a.usdcMint, a.admin, n.toNat⟩]
  | .call _ (.distributePoolReturns a n) => [⟨a.adminUsdcAta, a.usdcMint, a.admin, n.toNat⟩]
  | .call _ (.claimProjectReturns a) =>
    [⟨a.usdcVault, a.usdcMint, a.project, s.owedAt (.project a.project) a.position⟩]
  | .call _ (.claimPoolReturns a) =>
    [⟨a.usdcVault, a.usdcMint, a.pool, s.owedAt (.pool a.pool) a.position⟩]
  | .call _ (.withdrawInvestment a) =>
    [⟨a.investorTokenAta, a.tokenMint, a.investor, s.tokensAt a.position⟩,
      ⟨a.usdcVault, a.usdcMint, a.project, s.tokensAt a.position⟩]
  | .call _ (.activateProject a) => [⟨a.usdcVault, a.usdcMint, a.project, s.activationFee a⟩]
  | .call _ (.withdrawProjectFunds a n) => [⟨a.usdcVault, a.usdcMint, a.project, n.toNat⟩]
  | _ => []

/-- The accounts that an attempt takes from are there, and have what it takes. -/
def Afforded (x : State K × Action K) : Prop :=
  ∀ d ∈ x.1.debits x.2, x.1.bank.holder d.account = some (d.mint, d.owner) ∧
    d.amount ≤ x.1.bank.balance d.account

instance (x : State K × Action K) : Decidable (Afforded x) :=
  inferInstanceAs (Decidable (∀ d ∈ _, _ ∧ _))

/-- A token account to be paid: one of `mint`, and of `owner` where the owner is checked. -/
structure Receipt (K : Type) where
  account : K
  mint : K
  owner : Option K

/-- The account of the receipt, if it asks for one, is an account of that mint and owner. -/
def Receipt.Held : Receipt K → Token.Bank K → Prop
  | ⟨k, m, some w⟩, b => b.holder k = some (m, w)
  | ⟨k, m, none⟩, b => (b.holder k).map Prod.fst = some m

instance : (r : Receipt K) → (b : Token.Bank K) → Decidable (r.Held b)
  | ⟨_, _, some _⟩, _ => inferInstanceAs (Decidable (_ = _))
  | ⟨_, _, none⟩, _ => inferInstanceAs (Decidable (_ = _))

/-- The token account that must be there for an attempt to pay. A claim makes it if needed. -/
def Action.receipts : Action K → List (Receipt K)
  | .call _ (.withdrawInvestment a) => [⟨a.investorUsdcAta, a.usdcMint, some a.investor⟩]
  | .call _ (.activateProject a) => [⟨a.treasuryUsdcAta, a.usdcMint, some a.treasury⟩]
  | .call _ (.withdrawProjectFunds a _) => [⟨a.destination, a.usdcMint, none⟩]
  | _ => []

/-- The token account that an attempt names to be paid is there. -/
def Received (x : State K × Action K) : Prop :=
  ∀ r ∈ x.2.receipts, r.Held x.1.bank

instance (x : State K × Action K) : Decidable (Received x) :=
  inferInstanceAs (Decidable (∀ r ∈ _, _))

/-- The keys at which an attempt makes the mint of a target. -/
def Action.mints : Action K → List K
  | .call _ (.createProject a _ _ _) => [a.tokenMint]
  | .call _ (.createPool a _ _) => [a.poolTokenMint]
  | _ => []

/-- Nothing is where an attempt makes the mint of a target. -/
def Fresh (x : State K × Action K) : Prop :=
  ∀ k ∈ x.2.mints, x.1.Vacant k

instance (x : State K × Action K) : Decidable (Fresh x) :=
  inferInstanceAs (Decidable (∀ k ∈ _, _))

/-- An attempt in a state that provides what it takes, names and makes. -/
structure Provided (x : State K × Action K) : Prop where
  afforded : Afforded x
  received : Received x
  fresh : Fresh x

instance (x : State K × Action K) : Decidable (Provided x) :=
  decidable_of_iff (Afforded x ∧ Received x ∧ Fresh x)
    ⟨fun ⟨afforded, received, fresh⟩ => ⟨afforded, received, fresh⟩,
      fun ⟨afforded, received, fresh⟩ => ⟨afforded, received, fresh⟩⟩

/-! ## Orders in both runs -/

section
variable {g : Genesis K} {c : Client K} {t : Target K} {l l₀ : Listing K} {s s' u : State K} {f f₁ : Fund K}
  {x : Action K} {o : Order K} {p : K} {project : Project K} {pool : Pool K}

omit [Addresses K] in
/-- What a holder is owed is its holding's share at the index of the listing. -/
lemma State.owedAt_eq (own : s.view.listing t = some l) {k : K} {h : Holding}
    (entry : (s.view.holdings t.key).lookup k = some h) :
    s.owedAt t k = h.owed PRECISION.toNat l.index := by
  obtain ⟨q, held, -, rfl⟩ := View.lookup_holdings entry
  have held : s.positions.lookup k = some q := held
  simp only [State.owedAt, own, held]

/-- The counter of a claim that went through did not overflow. -/
lemma Standing.claimed_lt (after : Standing g c t l₀ u f₁) {i : K}
    (ev : f.Step PRECISION.toNat (.claim i) f₁) {h : Holding} (entry : f.holdings.lookup i = some h) :
    h.claimed + h.owed PRECISION.toNat f.index < 2 ^ 64 := by
  have settled := ev.lookup entry
  rw [State.fund_holdings after.fund, Event.act, if_pos rfl] at settled
  obtain ⟨q, -, -, same⟩ := View.lookup_holdings settled
  exact (congrArg Holding.claimed same).symm.trans_lt q.totalClaimed.isLt

/-- A caller that can afford a step on a project funds it there. -/
lemma Afforded.fundedProject (on : OnProject c p project o x) (given : Afforded (s, x)) : Funded (s, x) := by
  cases on with
  | buy =>
    obtain ⟨holder, enough⟩ := given _ (.head _)
    exact ⟨holder, fun _ _ _ => enough⟩
  | distribute => exact given _ (.head _)
  | claim => trivial

/-- A caller that can afford a step on a pool funds it there. -/
lemma Afforded.fundedPool (on : OnPool c p pool o x) (given : Afforded (s, x)) : Funded (s, x) := by
  cases on with
  | buy =>
    obtain ⟨holder, enough⟩ := given _ (.head _)
    exact ⟨holder, fun _ _ _ => enough⟩
  | distribute => exact given _ (.head _)
  | claim => trivial

/-- A wallet that can open a position, or has it, in one run can in the other. -/
lemma Mirrored.free (m : Mirrored g c t s s') {w : K} (free : s.Free p w) : s'.Free p w := by
  obtain ⟨as, rfl⟩ := m.left
  obtain ⟨as', rfl⟩ := m.right
  exact (g.free_iff as' p w).mpr ((g.free_iff as p w).mp free)

/-- What a claim takes in the other run is covered there, and its counter does not overflow. -/
lemma Mirrored.fits (m : Mirrored g c t s s') (own : s.view.listing t = some l) (after : Standing g c t l₀ u f₁)
    {i : K} (ev : (s.view.fundOf t l).Step PRECISION.toNat (.claim i) f₁) {d : Debit K} (mem : d ∈ s'.debits x)
    (vault : d.account = l.vault) (amount : d.amount = s'.owedAt t i) (given : Afforded (s', x)) (h : Holding)
    (entry : (s'.view.fundOf t l).holdings.lookup i = some h) :
    h.owed PRECISION.toNat (s'.view.fundOf t l).index ≤ (s'.view.fundOf t l).vault ∧
      h.claimed + h.owed PRECISION.toNat (s'.view.fundOf t l).index < 2 ^ 64 := by
  constructor
  · have le := (given d mem).2
    rw [amount, State.owedAt_eq (m.same.listing.trans own) entry, vault] at le
    exact le
  · have ledger := (m.twins own).ledger
    rw [← congrArg Ledger.holdings ledger] at entry
    have fits := after.claimed_lt ev entry
    rwa [congrArg Ledger.index ledger] at fits

/-- An order to a project that went through in one run goes through in the other. -/
lemma Mirrored.orderProject (m : Mirrored g c (.project p) s s') (own : s.projects.lookup p = some project)
    (on : OnProject c p project o x) (st : step s x = .ok u) (given : Afforded (s', x)) :
    ∃ u', step s' x = .ok u' := by
  have listed := State.listing_project own
  have standing' := m.standing' listed
  have twins := m.twins listed
  have answered := on.answered st
  obtain ⟨takes, f₁, after, ev⟩ := (m.standing listed).answered st answered
  have takes' := twins.takes.mp takes
  have funded := given.fundedProject on
  cases o with
  | buy w n =>
    have free : s'.Free p w := by
      cases on with | buy =>
      obtain ⟨done, -⟩ := buyProjectTokens_ok.mp (step_call st).2
      exact m.free (ensurePosition_free done.made)
    cases ev with | buy status =>
    exact on.buys standing' (twins.status.symm.trans status) free funded answered.signed takes'
  | distribute n =>
    cases ev with | distribute repays =>
    have repays' := repays
    rw [twins.layer, twins.status] at repays'
    exact on.distributes standing' repays' funded takes'
  | claim w =>
    have claim := on
    cases claim with | claim =>
    exact on.claims standing' (m.fits listed after ev (.head _) rfl rfl given) takes'

/-- An order to a pool that went through in one run goes through in the other. -/
lemma Mirrored.orderPool (m : Mirrored g c (.pool p) s s') (own : s.pools.lookup p = some pool)
    (on : OnPool c p pool o x) (st : step s x = .ok u) (given : Afforded (s', x)) :
    ∃ u', step s' x = .ok u' := by
  have listed := State.listing_pool own
  have standing' := m.standing' listed
  have twins := m.twins listed
  have answered := on.answered st
  obtain ⟨takes, f₁, after, ev⟩ := (m.standing listed).answered st answered
  have takes' := twins.takes.mp takes
  have funded := given.fundedPool on
  cases o with
  | buy w n =>
    have free : s'.Free p w := by
      cases on with | buy =>
      obtain ⟨done, -⟩ := buyPoolTokens_ok.mp (step_call st).2
      exact m.free (ensurePosition_free done.made)
    cases ev with | buy status =>
    exact on.buys standing' (twins.status.symm.trans status) free funded answered.signed takes'
  | distribute n => exact on.distributes standing' funded takes'
  | claim w =>
    have claim := on
    cases claim with | claim =>
    exact on.claims standing' (m.fits listed after ev (.head _) rfl rfl given) takes'

end

/-! ## Other instructions in both runs -/

section
variable {g : Genesis K} {c : Client K} {t : Target K} {l : Listing K} {s s' u : State K} {p : K} {now : Int64}
  {n : U64}

/-- A project that is mirrored is on both sides, with one listing. -/
lemma Mirrored.project {project : Project K} (m : Mirrored g c (.project p) s s')
    (own : s.projects.lookup p = some project) :
    ∃ project', s'.projects.lookup p = some project' ∧ project'.listing = project.listing :=
  Option.map_eq_some_iff.mp (m.same.listing.trans (State.listing_project own))

/-- A withdrawal that went through in one run goes through in the other. -/
lemma Mirrored.withdraws (m : Mirrored g c (.project p) s s') {a : WithdrawInvestment K}
    (target : a.project = p) (st : step s (.call now (.withdrawInvestment a)) = .ok u)
    (given : Afforded (s', .call now (.withdrawInvestment a)))
    (received : Received (s', .call now (.withdrawInvestment a))) :
    ∃ u', step s' (.call now (.withdrawInvestment a)) = .ok u' := by
  subst target
  obtain ⟨done, -⟩ := withdrawInvestment_ok.mp (step_call st).2
  obtain ⟨srcOwner, srcMint⟩ := done.tokens
  obtain ⟨dstOwner, dstMint⟩ := done.usdc
  have pos := done.pos
  have le := done.le
  have refunded := done.refunded
  have listed := State.listing_project done.own
  have standing := m.standing listed
  have standing' := m.standing' listed
  obtain ⟨project', own', same⟩ := m.project done.own
  have mint' : project'.tokenMint = done.project.tokenMint := congrArg Listing.mint same
  have vault' : project'.usdcVault = done.project.usdcVault := congrArg Listing.vault same
  have status' : project'.status = done.project.status := congrArg Listing.status same
  have sold' : project'.tokensSold.toNat = done.project.tokensSold.toNat := congrArg Listing.sold same
  have placed := m.wf.view.checkedPosition done.held done.placed
  have place : a.position = Client.position a.project a.investor := placed.key
  obtain ⟨q', held', -, counters⟩ := m.same.holding listed done.held placed.target
  have tokens : q'.tokensHeld.toNat = done.position.tokensHeld.toNat := congrArg Holding.held counters
  rw [← done.vault] at refunded
  have usdc : done.investorUsdcAta.mint = c.usdc :=
    standing.paid_out (.burn done.burns)
      ((Token.Bank.burn_holder done.burns _).trans (Token.Bank.holder_eq done.dest))
      refunded
  have accounts : a = Client.withdrawal c.usdc a.project project' a.investor a.investorTokenAta
      a.investorUsdcAta := by
    obtain ⟨_, _, _, _, _, _, _, _⟩ := a
    simp only [Client.withdrawal, WithdrawInvestment.mk.injEq, true_and]
    exact ⟨done.mint.symm.trans mint'.symm, done.vault.symm.trans vault'.symm, place, dstMint.symm.trans usdc⟩
  have amount : s'.tokensAt a.position = q'.tokensHeld.toNat := by
    rw [State.tokensAt, held']
    rfl
  obtain ⟨source, enough⟩ := given _ (.head _)
  obtain ⟨-, covered⟩ := given _ (.tail _ (.head _))
  have funding := done.status.resolve_right standing.sound.live
  rw [accounts]
  refine withdrawal_goes m.symm.wf standing'.places own' (vault' ▸ standing'.vault) (status'.trans funding)
    (place ▸ held') (tokens ▸ BitVec.lt_def.mp pos) ?_ (amount ▸ enough) ?_ (by omega) ?_ now
  · rw [mint', done.mint]
    exact source
  · rw [← usdc, dstMint]
    exact received _ (.head _)
  · rw [← amount, vault', done.vault]
    exact covered

/-- An activation that goes through on one side goes through on the other, where its accounts are as good. -/
lemma Mirrored.activates (m : Mirrored g c (.project p) s s') {a : ActivateProject K} (target : a.project = p)
    (st : step s (.call now (.activateProject a)) = .ok u)
    (given : Afforded (s', .call now (.activateProject a)))
    (received : Received (s', .call now (.activateProject a))) :
    ∃ u', step s' (.call now (.activateProject a)) = .ok u' := by
  subst target
  obtain ⟨platform, platform', deployed, deployed', -⟩ := m.platforms
  obtain ⟨done, -⟩ := activateProject_ok.mp (step_call st).2
  obtain ⟨ataOwner, ataMint⟩ := done.ata
  obtain ⟨place, admin, rfl⟩ := deployed.loads m.wf done.loaded
  have standing' := m.standing' (State.listing_project done.own)
  obtain ⟨project', own', same⟩ := m.project done.own
  have vault' : project'.usdcVault = done.project.usdcVault := congrArg Listing.vault same
  have status' : project'.status = done.project.status := congrArg Listing.status same
  have sold' := BitVec.eq_of_toNat_eq (congrArg Listing.sold same)
  have target' := BitVec.eq_of_toNat_eq (congrArg Listing.target same)
  have accounts : a = c.activation a.project project' a.treasuryUsdcAta := by
    obtain ⟨_, _, _, _, _, _, _⟩ := a
    simp only [Client.activation, ActivateProject.mk.injEq, true_and]
    exact ⟨place, admin, done.vault.symm.trans vault'.symm, done.treasury.symm.trans deployed.treasury,
      done.usdc.symm.trans deployed.usdc⟩
  have fee' : s'.activationFee a
      = project'.targetAmount.toNat * platform'.originationFeeBps.toNat / 10000 := by
    rw [State.activationFee, place, deployed'.loaded.own, own']
  obtain ⟨-, covered⟩ := given _ (.head _)
  rw [accounts]
  refine activate_goes m.symm.wf standing'.places deployed' own' (vault' ▸ standing'.vault)
    (status'.trans done.status) ?_ ?_ ?_ ?_ now
  · rw [sold', target', done.full]
  · rw [← fee', vault', done.vault]
    exact covered
  · rw [← deployed.usdc, done.usdc, ← deployed.treasury, done.treasury]
    exact received _ (.head _)
  · rw [vault', done.vault]
    exact done.apart

/-- So does a withdrawal of the project's funds. -/
lemma Mirrored.paysOut (m : Mirrored g c (.project p) s s') {a : WithdrawProjectFunds K}
    (target : a.project = p) (st : step s (.call now (.withdrawProjectFunds a n)) = .ok u)
    (given : Afforded (s', .call now (.withdrawProjectFunds a n)))
    (received : Received (s', .call now (.withdrawProjectFunds a n))) :
    ∃ u', step s' (.call now (.withdrawProjectFunds a n)) = .ok u' := by
  subst target
  obtain ⟨platform, platform', deployed, deployed', -⟩ := m.platforms
  obtain ⟨done, -⟩ := withdrawProjectFunds_ok.mp (step_call st).2
  obtain ⟨place, admin, rfl⟩ := deployed.loads m.wf done.loaded
  have standing' := m.standing' (State.listing_project done.own)
  obtain ⟨project', own', same⟩ := m.project done.own
  have vault' : project'.usdcVault = done.project.usdcVault := congrArg Listing.vault same
  have accounts : a = c.payout a.project project' a.destination := by
    obtain ⟨_, _, _, _, _, _⟩ := a
    simp only [Client.payout, WithdrawProjectFunds.mk.injEq, true_and]
    exact ⟨place, admin, done.vault.symm.trans vault'.symm, done.usdc.symm.trans deployed.usdc⟩
  obtain ⟨-, covered⟩ := given _ (.head _)
  obtain ⟨⟨m₁, w⟩, receiver, mint⟩ := Option.map_eq_some_iff.mp (received _ (.head _))
  rw [accounts]
  refine payout_goes (w := w) m.symm.wf standing'.places deployed' own' (vault' ▸ standing'.vault)
    (BitVec.lt_def.mp done.pos) ?_ ?_ ?_ now
  · rw [vault', done.vault]
    exact covered
  · rw [← deployed.usdc, done.usdc, ← mint]
    exact receiver
  · rw [vault', done.vault]
    exact done.apart

/-- So does the closing of the project, which asks for no account. -/
lemma Mirrored.closes (m : Mirrored g c (.project p) s s') {a : CloseProject K} (target : a.project = p)
    (st : step s (.call now (.closeProject a)) = .ok u) :
    ∃ u', step s' (.call now (.closeProject a)) = .ok u' := by
  subst target
  obtain ⟨platform, platform', deployed, deployed', -⟩ := m.platforms
  obtain ⟨done, -⟩ := closeProject_ok.mp (step_call st).2
  obtain ⟨place, admin, rfl⟩ := deployed.loads m.wf done.loaded
  obtain ⟨project', own', same⟩ := m.project done.own
  have status' : project'.status = done.project.status := congrArg Listing.status same
  have accounts : a = ⟨Client.platform, c.admin, a.project⟩ := by
    rw [← place, ← admin]
  rw [accounts]
  exact closeProject_goes m.symm.wf deployed' own' (status'.symm ▸ done.status) now

/-! ## Creation in both runs -/

omit [Addresses K] in
/-- Nobody has a position in a target where nothing is. -/
lemma State.Vacant.holdings {k : K} [Addresses K] (vacant : s.Vacant k) (wf : s.Wf) : s.view.holdings k = ∅ := by
  apply Finmap.filterMap_eq_empty
  intro i q held
  refine if_neg fun target => ?_
  obtain ⟨t', l', key, own⟩ := wf.view.target held
  exact State.not_vacant_key own (key.trans target ▸ vacant)

/-- A target that was just created has nothing but its listing. -/
lemma SameOn.created {v v' : State K} (wf : s.Wf) (wf' : s'.Wf) (vacant : s.Vacant t.key)
    (vacant' : s'.Vacant t.key) (positions : v.positions = s.positions) (positions' : v'.positions = s'.positions)
    (listing : v'.view.listing t = v.view.listing t) : SameOn t v v' where
  listing := listing
  holdings := by
    intro l _
    show (v'.positions).filterMap _ = (v.positions).filterMap _
    rw [positions, positions']
    exact (vacant'.holdings wf').trans (vacant.holdings wf).symm

/-- The USDC of the deployment is a mint. -/
lemma Mirrored.usdc (m : Mirrored g c t s s') : ∃ mint, s.bank.mints.lookup c.usdc = some mint := by
  obtain ⟨platform, -, deployed, -⟩ := m.platforms
  obtain ⟨as, rfl⟩ := m.left
  obtain ⟨x, exist⟩ := (g.platform_sound as platform deployed.loaded.own).usdc
  rw [deployed.usdc] at exist
  obtain ⟨mint, own, -⟩ := Option.map_eq_some_iff.mp exist
  exact ⟨mint, own⟩

/-- The address of a target is vacant in both runs, or in neither. -/
lemma Mirrored.vacant (m : Mirrored g c t s s') {σ : Seeds K} (place : t.key = findProgramAddress σ)
    (layer : σ.layer = some t.layer) (vacant : s.Vacant t.key) : s'.Vacant t.key := by
  have listing := m.same.listing
  obtain ⟨as, rfl⟩ := m.left
  obtain ⟨as', rfl⟩ := m.right
  rw [place] at vacant ⊢
  obtain ⟨fresh, clear⟩ := (g.vacant_iff as σ).mp vacant
  refine (g.vacant_iff as' σ).mpr ⟨fun made => fresh ?_, clear⟩
  cases σ with
  | project id =>
    cases t with
    | pool k => cases layer
    | project k =>
      have place : k = findProgramAddress (.project id) := place
      subst place
      obtain ⟨project', own'⟩ := Finmap.mem_iff.mp made
      rw [State.listing_project own'] at listing
      obtain ⟨project, own, -⟩ := Option.map_eq_some_iff.mp listing.symm
      exact Finmap.mem_of_lookup_eq_some own
  | pool id =>
    cases t with
    | project k => cases layer
    | pool k =>
      have place : k = findProgramAddress (.pool id) := place
      subst place
      obtain ⟨pool', own'⟩ := Finmap.mem_iff.mp made
      rw [State.listing_pool own'] at listing
      obtain ⟨pool, own, -⟩ := Option.map_eq_some_iff.mp listing.symm
      exact Finmap.mem_of_lookup_eq_some own
  | _ => cases layer

/-- The vault of a target that is founded in one run is vacant in the other. -/
lemma Mirrored.vacantVault (m : Mirrored g c t s s') (place : t.Seeded) {mint payer key usdc : K}
    {b b' : Token.Bank K} (minted : initMint s mint payer key = .ok b)
    (founded : initAssociatedToken { s with bank := b } (c.usdcOf t.key) key usdc = .ok b') :
    s'.Vacant (c.usdcOf t.key) := by
  have free : b.holder (c.usdcOf t.key) = none := (initAssociatedToken_ok.mp founded).2.1.holder
  rw [Token.Bank.holder, Token.Bank.initMint_accounts (initMint_ok.mp minted).2.2] at free
  have same : s'.bank.holder (c.usdcOf t.key) = none := (m.vault place).trans free
  obtain ⟨as', rfl⟩ := m.right
  exact (g.vacant_associated as' t.key c.usdc).mpr same

/-- A project that is created in one run is created in the other, where its mint is fresh. -/
lemma Mirrored.createsProject (m : Mirrored g c (.project p) s s') {a : CreateProject K} {id target : U64}
    {term : U8} (on : a.project = p) (st : step s (.call now (.createProject a id target term)) = .ok u)
    (fresh : Fresh (s', .call now (.createProject a id target term))) :
    ∃ u', step s' (.call now (.createProject a id target term)) = .ok u' ∧ SameOn (.project p) u u' := by
  subst on
  obtain ⟨platform, platform', deployed, deployed', -⟩ := m.platforms
  obtain ⟨signs, h⟩ := step_call st
  obtain ⟨done, rfl⟩ := createProject_ok.mp h
  obtain ⟨place, admin, rfl⟩ := deployed.loads m.wf done.loaded
  have usdc' : a.usdcMint = c.usdc := done.usdc.symm.trans deployed.usdc
  have vault : a.usdcVault = c.usdcOf a.project := by
    rw [(initAssociatedToken_ok.mp done.founded).1, usdc']
    rfl
  have vacant' : s'.Vacant a.project := m.vacant done.place rfl done.vacant
  have place' : a.project = Client.project id := done.place
  have free : s'.Vacant (Client.project id) := place' ▸ vacant'
  obtain ⟨mint, exist⟩ := m.symm.usdc
  have entry : s'.mrvProjects = s.mrvProjects := m.files.mrvProjects
  have freeVault : s'.Vacant (c.usdcOf a.project) :=
    m.vacantVault ⟨_, done.place, rfl⟩ done.mints (vault ▸ done.founded)
  rw [place'] at freeVault
  have accounts : Instruction.createProject a id target term
      = c.createProject id target term a.mrvProject a.tokenMint := by
    rw [done.place] at vault
    obtain ⟨_, _, _, _, _, _, _⟩ := a
    simp only [Client.createProject, Instruction.createProject.injEq, CreateProject.mk.injEq, and_true, true_and]
    exact ⟨place, admin, done.place, vault, usdc'⟩
  obtain ⟨u', st'⟩ := createProject_goes deployed' (entry ▸ done.found) done.gate exist free
    (signs _ (.tail _ (.head _))) (admin ▸ (initMint_ok.mp done.mints).1) (fresh _ (.head _)) freeVault done.pos
    done.term now
  rw [← accounts] at st'
  refine ⟨u', st', ?_⟩
  obtain ⟨done', rfl⟩ := createProject_ok.mp (step_call st').2
  refine .created m.wf m.symm.wf done.vacant vacant' rfl rfl ?_
  exact (State.listing_project (Finmap.lookup_insert _)).trans
    (State.listing_project (Finmap.lookup_insert _)).symm

/-- A pool that is created in one run is created in the other, where its mint is fresh. -/
lemma Mirrored.createsPool (m : Mirrored g c (.pool p) s s') {a : CreatePool K} {id target : U64}
    (on : a.pool = p) (st : step s (.call now (.createPool a id target)) = .ok u)
    (fresh : Fresh (s', .call now (.createPool a id target))) :
    ∃ u', step s' (.call now (.createPool a id target)) = .ok u' ∧ SameOn (.pool p) u u' := by
  subst on
  obtain ⟨platform, platform', deployed, deployed', -⟩ := m.platforms
  obtain ⟨signs, h⟩ := step_call st
  obtain ⟨done, rfl⟩ := createPool_ok.mp h
  obtain ⟨place, admin, rfl⟩ := deployed.loads m.wf done.loaded
  have usdc' : a.usdcMint = c.usdc := done.usdc.symm.trans deployed.usdc
  have vault : a.usdcVault = c.usdcOf a.pool := by
    rw [(initAssociatedToken_ok.mp done.founded).1, usdc']
    rfl
  have vacant' : s'.Vacant a.pool := m.vacant done.place rfl done.vacant
  have place' : a.pool = Client.pool id := done.place
  have free : s'.Vacant (Client.pool id) := place' ▸ vacant'
  obtain ⟨mint, exist⟩ := m.symm.usdc
  have freeVault : s'.Vacant (c.usdcOf a.pool) :=
    m.vacantVault ⟨_, done.place, rfl⟩ done.mints (vault ▸ done.founded)
  rw [place'] at freeVault
  have accounts : Instruction.createPool a id target = c.createPool id target a.poolTokenMint := by
    rw [done.place] at vault
    obtain ⟨_, _, _, _, _, _⟩ := a
    simp only [Client.createPool, Instruction.createPool.injEq, CreatePool.mk.injEq, and_true, true_and]
    exact ⟨place, admin, done.place, vault, usdc'⟩
  obtain ⟨u', st'⟩ := createPool_goes deployed' exist free
    (signs _ (.tail _ (.head _))) (admin ▸ (initMint_ok.mp done.mints).1) (fresh _ (.head _)) freeVault done.pos now
  rw [← accounts] at st'
  refine ⟨u', st', ?_⟩
  obtain ⟨done', rfl⟩ := createPool_ok.mp (step_call st').2
  refine .created m.wf m.symm.wf done.vacant vacant' rfl rfl ?_
  exact (State.listing_pool (Finmap.lookup_insert _)).trans (State.listing_pool (Finmap.lookup_insert _)).symm

/-! ## Any instruction in both runs -/

/-- An instruction about the target that goes through in one run goes through in the other, where what it takes
is afforded and what it names is there; and the target stays the same. -/
theorem Mirrored.answers {x : Action K} (m : Mirrored g c t s s') (on : x.target = some t)
    (links : x.links = false) (st : step s x = .ok u) (given : Provided (s', x)) :
    ∃ u', step s' x = .ok u' ∧ SameOn t u u' := by
  obtain ⟨given, received, fresh⟩ := given
  cases creates : x.creates with
  | true =>
    cases x with
    | outside => cases creates
    | call now i =>
      cases i with
      | createProject =>
        cases on
        exact m.createsProject rfl st fresh
      | createPool =>
        cases on
        exact m.createsPool rfl st fresh
      | _ => cases creates
  | false =>
    obtain ⟨l, listed⟩ := step_listed m.wf st on creates
    -- that the two agree afterwards is known: it is enough to get there
    suffices goes : ∃ u', step s' x = .ok u' by
      obtain ⟨u', st'⟩ := goes
      exact ⟨u', st', m.agree listed on st st'⟩
    have standing := m.standing listed
    cases x with
    | outside => cases on
    | call now i =>
      cases i with
      | buyProjectTokens =>
        cases on
        obtain ⟨project, own, rfl⟩ := Option.map_eq_some_iff.mp listed
        exact m.orderProject own (standing.buysProject rfl st) st given
      | distributeRepayment =>
        cases on
        obtain ⟨project, own, rfl⟩ := Option.map_eq_some_iff.mp listed
        exact m.orderProject own (standing.repaysProject rfl st) st given
      | claimProjectReturns =>
        cases on
        obtain ⟨project, own, rfl⟩ := Option.map_eq_some_iff.mp listed
        exact m.orderProject own (standing.claimsProject rfl st) st given
      | buyPoolTokens =>
        cases on
        obtain ⟨pool, own, rfl⟩ := Option.map_eq_some_iff.mp listed
        exact m.orderPool own (standing.buysPool rfl st) st given
      | distributePoolReturns =>
        cases on
        obtain ⟨pool, own, rfl⟩ := Option.map_eq_some_iff.mp listed
        exact m.orderPool own (standing.repaysPool rfl st) st given
      | claimPoolReturns =>
        cases on
        obtain ⟨pool, own, rfl⟩ := Option.map_eq_some_iff.mp listed
        exact m.orderPool own (standing.claimsPool rfl st) st given
      | withdrawInvestment =>
        cases on
        exact m.withdraws rfl st given received
      | activateProject =>
        cases on
        exact m.activates rfl st given received
      | withdrawProjectFunds =>
        cases on
        exact m.paysOut rfl st given received
      | closeProject =>
        cases on
        exact m.closes rfl st
      | addProjectToPool => cases links
      | createProject => cases creates
      | createPool => cases creates
      | _ => cases on

end

end Exira
