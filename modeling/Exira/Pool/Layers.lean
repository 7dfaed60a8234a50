import Exira.Orders

/-!
# Pools simulate projects

The handlers of pools are copies of those of projects, with other status guards, and a project pays a fee out of
its vault. A project that is sold out, activated and then repaid answers the same orders as a pool that is sold
and then repaid: both are the same fund, up to the addresses of the positions.
-/

namespace Exira

open Dividend

variable {K : Type} [DecidableEq K] [Addresses K]

/-! ## Both sides -/

/-- The counters of a position. -/
def InvestorPosition.books (q : InvestorPosition K) : U64 × U128 × U64 :=
  (q.tokensHeld, q.lastClaimedPerToken, q.totalClaimed)

/-- The project at `p` and the pool at `p'` have the same books, and so have the positions of every wallet. -/
def Matches (s : State K) (p : K) (s' : State K) (p' : K) : Prop :=
  ∃ project pool, s.projects.lookup p = some project ∧ s'.pools.lookup p' = some pool ∧
    project.tokensSold = pool.tokensSold ∧ project.totalDistributed = pool.totalDistributed ∧
    project.cumulativeUsdcPerToken = pool.cumulativeUsdcPerToken ∧
    ∀ w, (s.positions.lookup (Client.position p w)).map InvestorPosition.books
      = (s'.positions.lookup (Client.position p' w)).map InvestorPosition.books

/-- Two attempts fail, or both succeed and move the same amount at the vaults; the books match afterwards. -/
structure SameAnswer (p v p' v' : K) (x y : State K × Action K) : Prop where
  moved : x.1.moved v x.2 = y.1.moved v' y.2
  books : Matches (Runs.next step x.1 x.2) p (Runs.next step y.1 y.2) p'

section
variable {g g' : Genesis K} {c : Client K} {s s' u u' : State K} {f f' f₁ f₁' : Fund K} {o : Order K}
  {x y : Action K} {t : Target K} {l₀ : Listing K} {p p' : K} {project : Project K} {pool : Pool K}

omit [DecidableEq K] [Addresses K] in
/-- A holding has the counters of its position. -/
lemma InvestorPosition.books_of_holding {o o' : Option (InvestorPosition K)}
    (same : o.map InvestorPosition.holding = o'.map InvestorPosition.holding) :
    o.map InvestorPosition.books = o'.map InvestorPosition.books := by
  cases o with
  | none =>
    cases o' with
    | none => rfl
    | some => cases same
  | some q =>
    cases o' with
    | none => cases same
    | some q' =>
      injection same with same
      injection same with held last claimed
      have held := BitVec.eq_of_toNat_eq held
      have last := BitVec.eq_of_toNat_eq last
      have claimed := BitVec.eq_of_toNat_eq claimed
      simp only [Option.map_some, InvestorPosition.books, held, last, claimed]

/-- The books match when the funds agree. -/
lemma Matches.of_agrees (left : Standing g c (.project p) project.listing s f)
    (right : Standing g' c (.pool p') pool.listing s' f')
    (agrees : f.Agrees (Client.position p) (Client.position p') f') : Matches s p s' p' := by
  obtain ⟨project₁, own, -, -, rfl⟩ := left.project
  obtain ⟨pool₁, own', -, -, rfl⟩ := right.pool
  refine ⟨project₁, pool₁, own, own', BitVec.eq_of_toNat_eq agrees.sold,
    BitVec.eq_of_toNat_eq agrees.distributed, BitVec.eq_of_toNat_eq agrees.index, ?_⟩
  intro w
  apply InvestorPosition.books_of_holding
  rw [← left.wf.lookup_holding, ← right.wf.lookup_holding]
  exact agrees.holdings w

/-- One order on both sides: it fails on both, or goes through on both as its event. -/
lemma OnProject.both (left : Standing g c (.project p) project.listing s f)
    (right : Standing g' c (.pool p') pool.listing s' f')
    (agrees : f.Agrees (Client.position p) (Client.position p') f')
    (on : OnProject c p project o x) (on' : OnPool c p' pool o y)
    (goes : o.Signed → f.Takes PRECISION.toNat (Client.position p) o → ∃ u, step s x = .ok u)
    (goes' : o.Signed → f'.Takes PRECISION.toNat (Client.position p') o → ∃ u, step s' y = .ok u) :
    SameAnswer p project.usdcVault p' pool.usdcVault (s, x) (s', y) ∧
      ((∃ e e', step s x = .error e ∧ step s' y = .error e') ∨
        ∃ u u' f₁ f₁', step s x = .ok u ∧ step s' y = .ok u' ∧
          Standing g c (.project p) project.listing u f₁ ∧ Standing g' c (.pool p') pool.listing u' f₁' ∧
          f₁.Agrees (Client.position p) (Client.position p') f₁' ∧
          f.Step PRECISION.toNat (o.event (Client.position p)) f₁ ∧
          f'.Step PRECISION.toNat (o.event (Client.position p')) f₁') := by
  have inj : ∀ k : K, (Client.position k).Injective := fun k w w' e => (position_inj e).2
  have takes := agrees.takes (P := PRECISION.toNat) (o := o)
  cases st : step s x with
  | ok u =>
    have answered := on.answered st
    obtain ⟨taken, f₁, left₁, ev⟩ := left.answered st answered
    obtain ⟨u', st'⟩ := goes' answered.signed (takes.mp taken)
    obtain ⟨-, f₁', right₁, ev'⟩ := right.answered st' (on'.answered st')
    obtain ⟨agrees₁, same⟩ := agrees.step (inj p) (inj p') ev ev'
    refine ⟨⟨?_, ?_⟩, .inr ⟨u, u', f₁, f₁', rfl, st', left₁, right₁, agrees₁, ev, ev'⟩⟩
    · exact (left.moved left₁ st).trans ((congrArg some same).trans (right.moved right₁ st').symm)
    · rw [Runs.next_ok st, Runs.next_ok st']
      exact .of_agrees left₁ right₁ agrees₁
  | error e =>
    cases st' : step s' y with
    | ok u' =>
      -- then the project would have answered too
      have answered := on'.answered st'
      obtain ⟨taken, -⟩ := right.answered st' answered
      obtain ⟨u, st₁⟩ := goes answered.signed (takes.mpr taken)
      cases st.symm.trans st₁
    | error e' =>
      refine ⟨⟨?_, ?_⟩, .inl ⟨e, e', rfl, rfl⟩⟩
      · simp only [State.moved, st, st']
      · rw [Runs.next_error st, Runs.next_error st']
        exact .of_agrees left right agrees

end

/-! ## Runs -/

section
variable (g g' : Genesis K) (c : Client K) (p p' : K) (project : Project K) (pool : Pool K)

/-- The project on one side and the pool on the other have funds that agree, both as `Q` says. -/
def Tandem (Q : Fund K → Prop) (s s' : State K) : Prop :=
  ∃ f f', Standing g c (.project p) project.listing s f ∧ Standing g' c (.pool p') pool.listing s' f' ∧
    f.Agrees (Client.position p) (Client.position p') f' ∧ Q f ∧ Q f'

/-- The same attempt to buy on both sides. -/
def Purchases (x y : Action K) : Prop :=
  ∃ w n, OnProject c p project (.buy w n) x ∧ OnPool c p' pool (.buy w n) y

/-- The same attempt to distribute or to claim on both sides. -/
def Returns (x y : Action K) : Prop :=
  ∃ o, (∀ w n, o ≠ .buy w n) ∧ OnProject c p project o x ∧ OnPool c p' pool o y

variable {g g' c p p' project pool} {s s' : State K} {o : Order K} {x y : Action K} {Q : Fund K → Prop}

/-- One order in tandem. -/
lemma Tandem.answer (tandem : Tandem g g' c p p' project pool Q s s') (on : OnProject c p project o x)
    (on' : OnPool c p' pool o y)
    (goes : ∀ f, Standing g c (.project p) project.listing s f → Q f → o.Signed →
      f.Takes PRECISION.toNat (Client.position p) o → ∃ u, step s x = .ok u)
    (goes' : ∀ f, Standing g' c (.pool p') pool.listing s' f → Q f → o.Signed →
      f.Takes PRECISION.toNat (Client.position p') o → ∃ u, step s' y = .ok u)
    (keep : ∀ f f₁ (a : K → K), f.Sound → Q f → f.Step PRECISION.toNat (o.event a) f₁ → Q f₁) :
    SameAnswer p project.usdcVault p' pool.usdcVault (s, x) (s', y) ∧
      Tandem g g' c p p' project pool Q (Runs.next step s x) (Runs.next step s' y) := by
  obtain ⟨f, f', left, right, agrees, q, q'⟩ := tandem
  obtain ⟨answer, after⟩ := on.both left right agrees on' (goes f left q) (goes' f' right q')
  refine ⟨answer, ?_⟩
  rcases after with ⟨e, e', st, st'⟩ | ⟨u, u', f₁, f₁', st, st', left₁, right₁, agrees₁, ev, ev'⟩
  · rw [Runs.next_error st, Runs.next_error st']
    exact ⟨f, f', left, right, agrees, q, q'⟩
  · rw [Runs.next_ok st, Runs.next_ok st']
    exact ⟨f₁, f₁', left₁, right₁, agrees₁, keep f f₁ _ left.sound q ev, keep f' f₁' _ right.sound q' ev'⟩

/-- One purchase in tandem. -/
lemma Tandem.purchase (clear : ∀ w, g.Clear (Client.position p w))
    (clear' : ∀ w, g'.Clear (Client.position p' w))
    (tandem : Tandem g g' c p p' project pool (Fund.Offered PRECISION.toNat) s s')
    (same : Purchases c p p' project pool x y) (funded : Funded (s, x)) (funded' : Funded (s', y)) :
    SameAnswer p project.usdcVault p' pool.usdcVault (s, x) (s', y) ∧
      Tandem g g' c p p' project pool (Fund.Offered PRECISION.toNat) (Runs.next step s x)
        (Runs.next step s' y) := by
  obtain ⟨w, n, on, on'⟩ := same
  refine tandem.answer on on' ?_ ?_ fun f f₁ a _ offered ev => offered.buy ev
  · intro f left offered signs takes
    obtain ⟨as, rfl⟩ := left.reached
    exact on.buys left offered.status ((g.free_iff as p w).mpr (clear w)) funded signs takes
  · intro f right offered signs takes
    obtain ⟨as, rfl⟩ := right.reached
    exact on'.buys right offered.status ((g'.free_iff as p' w).mpr (clear' w)) funded' signs takes

/-- A fund that repays, and whose vault is backed. -/
def Fund.Repaying (f : Fund K) : Prop :=
  f.Backed PRECISION.toNat ∧ f.layer.Repays f.status

omit [Addresses K] in
/-- Every claim is covered, and its counter does not overflow. -/
lemma Fund.Repaying.fits {t : Target K} {f : Fund K} {i : K} (repaying : f.Repaying)
    (own : s.fund t = some f) (h : Holding) (entry : f.holdings.lookup i = some h) :
    h.owed PRECISION.toNat f.index ≤ f.vault ∧ h.claimed + h.owed PRECISION.toNat f.index < 2 ^ 64 := by
  obtain ⟨covered, within⟩ := repaying.1.owed_le (by decide) entry
  exact ⟨covered, within.trans_lt (State.fund_bounds own).2⟩

/-- One distribution or claim in tandem. -/
lemma Tandem.return (tandem : Tandem g g' c p p' project pool Fund.Repaying s s')
    (same : Returns c p p' project pool x y) (funded : Funded (s, x)) (funded' : Funded (s', y)) :
    SameAnswer p project.usdcVault p' pool.usdcVault (s, x) (s', y) ∧
      Tandem g g' c p p' project pool Fund.Repaying (Runs.next step s x) (Runs.next step s' y) := by
  obtain ⟨o, returns, on, on'⟩ := same
  refine tandem.answer on on' ?_ ?_ ?_
  · intro f left repaying _ takes
    cases o with
    | buy w n => exact absurd rfl (returns w n)
    | distribute n => exact on.distributes left repaying.2 funded takes
    | claim w => exact on.claims left (repaying.fits left.fund) takes
  · intro f right repaying _ takes
    cases o with
    | buy w n => exact absurd rfl (returns w n)
    | distribute n => exact on'.distributes right funded' takes
    | claim w => exact on'.claims right (repaying.fits right.fund) takes
  · rintro f f₁ a sound ⟨backed, repays⟩ ev
    refine ⟨?_, ev.repays repays returns⟩
    cases o with
    | buy w n => exact absurd rfl (returns w n)
    | distribute n => exact backed.distribute sound ev
    | claim w => exact backed.claim sound ev

/-- The activation of a project that is sold out, while the pool is left alone. -/
lemma Tandem.activate (tandem : Tandem g g' c p p' project pool (Fund.Offered PRECISION.toNat) s s')
    {project₁ : Project K} (own : s.projects.lookup p = some project₁)
    (full : project₁.tokensSold = project₁.targetAmount) {dest : K}
    (treasury : s.bank.holder dest = some (c.usdc, c.treasury)) (apart : project.usdcVault ≠ dest)
    (now : Int64) : ∃ u, step s (.call now (.activateProject (c.activation p project dest))) = .ok u ∧
      Tandem g g' c p p' project pool Fund.Repaying u s' := by
  obtain ⟨f, f', left, right, agrees, offered, offered'⟩ := tandem
  obtain ⟨project₂, own', -, vault, e⟩ := left.project
  cases own.symm.trans own'
  subst e
  obtain ⟨platform, deployed⟩ := left.deployed
  have holder := left.vault
  have accounts : c.activation p project dest = c.activation p project₁ dest := by
    rw [Client.activation, Client.activation, vault]
  rw [accounts]
  -- all of the target is in the vault, and the fee is no more
  have within := (left.wf.side.platforms _ _ deployed.loaded.own).2
  have proceeds : project₁.targetAmount.toNat ≤ s.bank.balance project₁.usdcVault := full ▸ offered.proceeds
  have covered := (originationFee_le project₁.targetAmount.toNat within).trans proceeds
  obtain ⟨u, st⟩ := activate_goes left.wf left.places deployed own (vault ▸ holder) offered.status full covered
    treasury (vault ▸ apart) now
  have event : s.event (.project p) (.call now (.activateProject (c.activation p project₁ dest)))
      = some (.activate (s.activationFee (c.activation p project₁ dest))) := by
    rw [State.event, State.listing_project own, Option.bind_some]
    exact if_pos rfl
  have after := step_fund left.wf st left.fund
  rw [event] at after
  obtain ⟨f₁, own₁, ev⟩ := after
  obtain ⟨backed, repays⟩ := offered.activate ev
  have pool : f'.layer = .pool := by
    obtain ⟨_, _, -, rfl⟩ := right.listed
    rfl
  refine ⟨u, st, f₁, f', left.later st own₁, right, agrees.activate ev, ⟨backed, repays⟩, offered'.backed, ?_⟩
  rw [pool]
  exact Layer.repays_pool _

/-- A funded step is a funded run of one attempt. -/
lemma Funded.attempt (funded : Funded (s, x)) : ∀ y ∈ Runs.attempts step s [x], Funded y := by
  intro y mem
  rw [Runs.attempts_cons] at mem
  cases List.mem_singleton.mp mem
  exact funded

/-- A target that was just created: nothing is sold or distributed, and nobody has a position. -/
structure State.JustCreated (s : State K) (t : Target K) (l : Listing K) : Prop where
  listed : s.view.listing t = some l
  fresh : l.Fresh
  nobody : ∀ k q, s.positions.lookup k = some q → q.target ≠ t.key

omit [Addresses K] in
/-- A project in funding with nothing booked is just created. -/
lemma State.JustCreated.of_project {p : K} {project : Project K} (own : s.projects.lookup p = some project)
    (status : project.status = .funding) (sold : project.tokensSold = 0)
    (distributed : project.totalDistributed = 0) (index : project.cumulativeUsdcPerToken = 0)
    (fee : project.originationFeeCollected = 0) (nobody : s.positions.keys = ∅) :
    s.JustCreated (.project p) project.listing where
  listed := State.listing_project own
  fresh := ⟨status, congrArg BitVec.toNat sold, congrArg BitVec.toNat distributed,
    congrArg BitVec.toNat index, congrArg BitVec.toNat fee⟩
  nobody := by
    intro k q held
    have mem := Finmap.mem_keys.mpr (Finmap.mem_of_lookup_eq_some held)
    rw [nobody] at mem
    cases mem

omit [Addresses K] in
/-- A pool with nothing booked is just created. -/
lemma State.JustCreated.of_pool {p : K} {pool : Pool K} (own : s.pools.lookup p = some pool)
    (status : pool.status = .funding) (sold : pool.tokensSold = 0) (distributed : pool.totalDistributed = 0)
    (index : pool.cumulativeUsdcPerToken = 0) (nobody : s.positions.keys = ∅) :
    s.JustCreated (.pool p) pool.listing where
  listed := State.listing_pool own
  fresh := ⟨congrArg PoolStatus.toProject status, congrArg BitVec.toNat sold, congrArg BitVec.toNat distributed,
    congrArg BitVec.toNat index, rfl⟩
  nobody := by
    intro k q held
    have mem := Finmap.mem_keys.mpr (Finmap.mem_of_lookup_eq_some held)
    rw [nobody] at mem
    cases mem

omit [Addresses K] in
/-- Nobody holds anything of a target that is just created. -/
lemma State.JustCreated.holdings {t : Target K} {l : Listing K} (created : s.JustCreated t l) :
    s.view.holdings t.key = ∅ := by
  apply Finmap.filterMap_eq_empty
  intro k q own
  exact if_neg (created.nobody k q own)

omit [Addresses K] in
/-- The fund of a target that is just created is one on offer. -/
lemma State.JustCreated.offered {t : Target K} {l : Listing K} (created : s.JustCreated t l) :
    (s.view.fundOf t l).Offered PRECISION.toNat where
  status := created.fresh.status
  index := created.fresh.index
  distributed := created.fresh.distributed
  credited := by
    show (s.view.holdings t.key).sum _ = 0
    rw [created.holdings, Finmap.sum_empty]
  proceeds := created.fresh.sold.trans_le (Nat.zero_le _)

end

/-- Pools simulate projects. Take a project and a pool with the same target that were just created, in any runs of
deployments of a client, and any attempts to buy, the same on both sides, whose payers have what they pay. Each
attempt fails on both sides or moves the same amount on both, and the books match after each. Once the project is
sold out its activation goes through, and the same holds of any attempts to distribute and to claim after it. -/
theorem pool_simulates_project (c : Client K) (g g' : Genesis K) (as as' : List (Action K)) (p p' : K)
    (project : Project K) (pool : Pool K) (platform platform' : Platform K)
    (clear : ∀ σ, g.Clear (findProgramAddress σ)) (clear' : ∀ σ, g'.Clear (findProgramAddress σ))
    (deployed : c.Deployed (g.run as) platform) (deployed' : c.Deployed (g'.run as') platform')
    (created : (g.run as).JustCreated (.project p) project.listing)
    (created' : (g'.run as').JustCreated (.pool p') pool.listing)
    (target : project.targetAmount = pool.targetAmount) (xs ys : List (Action K))
    (sales : List.Forall₂ (Purchases c p p' project pool) xs ys)
    (funded : ∀ x ∈ Runs.attempts step (g.run as) xs, Funded x)
    (funded' : ∀ y ∈ Runs.attempts step (g'.run as') ys, Funded y) :
    List.Forall₂ (SameAnswer p project.usdcVault p' pool.usdcVault) (Runs.attempts step (g.run as) xs)
        (Runs.attempts step (g'.run as') ys) ∧
      ∀ sold, (g.run (as ++ xs)).projects.lookup p = some sold → sold.tokensSold = sold.targetAmount →
        ∀ now dest, (g.run as).bank.holder dest = some (c.usdc, c.treasury) → project.usdcVault ≠ dest →
          ∃ u, step (g.run (as ++ xs)) (.call now (.activateProject (c.activation p project dest))) = .ok u ∧
            Matches u p (g'.run (as' ++ ys)) p' ∧
            ∀ zs ts, List.Forall₂ (Returns c p p' project pool) zs ts →
              (∀ x ∈ Runs.attempts step u zs, Funded x) →
              (∀ y ∈ Runs.attempts step (g'.run (as' ++ ys)) ts, Funded y) →
              List.Forall₂ (SameAnswer p project.usdcVault p' pool.usdcVault) (Runs.attempts step u zs)
                (Runs.attempts step (g'.run (as' ++ ys)) ts) := by
  -- both start with empty books and one target
  have start : Tandem g g' c p p' project pool (Fund.Offered PRECISION.toNat) (g.run as) (g'.run as') := by
    refine ⟨_, _, ⟨⟨as, rfl⟩, ⟨platform, deployed⟩, ⟨_, created.listed, .refl _, rfl⟩⟩,
      ⟨⟨as', rfl⟩, ⟨platform', deployed'⟩, ⟨_, created'.listed, .refl _, rfl⟩⟩, ?_, created.offered,
      created'.offered⟩
    refine ⟨⟨?_, ?_, ?_, ?_⟩, congrArg BitVec.toNat target⟩
    · exact created.fresh.sold.trans created'.fresh.sold.symm
    · exact created.fresh.distributed.trans created'.fresh.distributed.symm
    · exact created.fresh.index.trans created'.fresh.index.symm
    · intro w
      show ((g.run as).view.holdings (Target.project p).key).lookup _
        = ((g'.run as').view.holdings (Target.pool p').key).lookup _
      rw [created.holdings, created'.holdings, Finmap.lookup_empty, Finmap.lookup_empty]
  obtain ⟨answers, sold⟩ := Runs.lockstep
    (fun s t x y tandem same => tandem.purchase (fun w => clear _) (fun w => clear' _) same) sales start
    funded funded'
  rw [← g.run_append, ← g'.run_append] at sold
  refine ⟨answers, ?_⟩
  intro project₁ own full now dest treasury apart
  obtain ⟨u, st, tandem⟩ := sold.activate own full (g.holder_later as xs treasury) apart now
  refine ⟨u, st, ?_, ?_⟩
  · obtain ⟨f, f', left, right, agrees, -⟩ := tandem
    exact .of_agrees left right agrees
  · intro zs ts returns funds funds'
    exact (Runs.lockstep (fun s t x y tandem same => tandem.return same) returns tandem funds funds').1

/-- Project 1, open for sale up to 100. -/
def demoOpen : List (Action Addr) :=
  Client.demoSetup ++ Client.demo.openProject 1 100 12 (.wallet 20) (.wallet 30)

/-- Pool 1, open for sale up to 100. -/
def demoOpenPool : List (Action Addr) :=
  Client.demoSetup ++ [.call 0 (Client.demo.createPool 1 100 (.wallet 21))]

/-- The blank state has nothing anywhere. -/
lemma blank_clear (k : Addr) : Genesis.blank.Clear k :=
  ⟨rfl, rfl⟩

/-- Both are deployments of the demo client. -/
lemma demoOpen_deployed : ∀ as ∈ [demoOpen, demoOpenPool], ∃ platform,
    Client.demo.Deployed (Genesis.blank.run as) platform := by
  have platforms : ∀ as ∈ [demoOpen, demoOpenPool], ((Genesis.blank.run as).platforms.lookup
      Client.platform).map (fun platform => (platform.usdcMint, platform.admin, platform.treasury))
        = some (Client.demo.usdc, Client.demo.admin, Client.demo.treasury) := by decide +kernel
  intro as mem
  obtain ⟨platform, own, e⟩ := Option.map_eq_some_iff.mp (platforms as mem)
  injection e with usdc rest
  injection rest with admin treasury
  have client : platform.client = Client.demo := by
    rw [Platform.client, usdc, admin, treasury]
  exact ⟨platform, client ▸ Genesis.blank.deployed as own⟩

section
variable {project : Project Addr} {pool : Pool Addr}

/-- The demo's purchases are the client's, on both sides. -/
lemma demoPurchases (mint : project.tokenMint = .wallet 20)
    (vault : project.usdcVault = Client.demo.usdcOf (Client.project 1))
    (mint' : pool.poolTokenMint = .wallet 21) (vault' : pool.usdcVault = Client.demo.usdcOf (Client.pool 1)) :
    Purchases Client.demo (Client.project 1) (Client.pool 1) project pool
      (.call 0 (Client.demo.buyProjectTokens 1 (.wallet 20) (.wallet 10) 100))
      (Client.demoBuy (.wallet 10) 100) := by
  have on : OnProject Client.demo (Client.project 1) project (.buy (.wallet 10) (100 : U64).toNat)
      (.call 0 (.buyProjectTokens (Client.projectSale Client.demo.usdc (Client.project 1) project (.wallet 10)
        (Client.demo.usdcOf (.wallet 10))) 100)) := .buy
  have on' : OnPool Client.demo (Client.pool 1) pool (.buy (.wallet 10) (100 : U64).toNat)
      (.call 0 (.buyPoolTokens (Client.poolSale Client.demo.usdc (Client.pool 1) pool (.wallet 10)
        (Client.demo.usdcOf (.wallet 10))) 100)) := .buy
  rw [Client.projectSale, mint, vault] at on
  rw [Client.poolSale, mint', vault'] at on'
  exact ⟨_, _, on, on'⟩

/-- And so are its distributions. -/
lemma demoDistributions (vault : project.usdcVault = Client.demo.usdcOf (Client.project 1))
    (vault' : pool.usdcVault = Client.demo.usdcOf (Client.pool 1)) :
    Returns Client.demo (Client.project 1) (Client.pool 1) project pool (Client.demoRepay 7)
      (Client.demoDistribute 7) := by
  have on : OnProject Client.demo (Client.project 1) project (.distribute (7 : U64).toNat)
      (.call 0 (.distributeRepayment (Client.demo.repayment (Client.project 1) project
        (Client.demo.usdcOf (.wallet 0))) 7)) := .distribute
  have on' : OnPool Client.demo (Client.pool 1) pool (.distribute (7 : U64).toNat)
      (.call 0 (.distributePoolReturns (Client.demo.poolReturn (Client.pool 1) pool
        (Client.demo.usdcOf (.wallet 0))) 7)) := .distribute
  rw [Client.repayment, vault] at on
  rw [Client.poolReturn, vault'] at on'
  refine ⟨_, ?_, on, on'⟩
  intro w n e
  cases e

end

/-- The two layers answer a repayment alike. -/
theorem pool_simulates_project_demo : ∃ u,
    step (Genesis.blank.run (demoOpen ++
        [.call 0 (Client.demo.buyProjectTokens 1 (.wallet 20) (.wallet 10) 100)]))
        (.call 0 (Client.demo.activateProject 1)) = .ok u ∧
      List.Forall₂ (SameAnswer (Client.project 1) (Client.demo.usdcOf (Client.project 1)) (Client.pool 1)
          (Client.demo.usdcOf (Client.pool 1)))
        (Runs.attempts step u [Client.demoRepay 7])
        (Runs.attempts step (Genesis.blank.run (demoOpenPool ++ [Client.demoBuy (.wallet 10) 100]))
          [Client.demoDistribute 7]) := by
  have found : ((Genesis.blank.run demoOpen).projects.lookup (Client.project 1)).map (fun project =>
      decide (project.tokenMint = .wallet 20 ∧ project.usdcVault = Client.demo.usdcOf (Client.project 1) ∧
        project.targetAmount = 100 ∧ project.status = .funding ∧ project.tokensSold = 0 ∧
        project.totalDistributed = 0 ∧ project.cumulativeUsdcPerToken = 0 ∧
        project.originationFeeCollected = 0)) = some true := by decide +kernel
  have found' : ((Genesis.blank.run demoOpenPool).pools.lookup (Client.pool 1)).map (fun pool =>
      decide (pool.poolTokenMint = .wallet 21 ∧ pool.usdcVault = Client.demo.usdcOf (Client.pool 1) ∧
        pool.targetAmount = 100 ∧ pool.status = .funding ∧ pool.tokensSold = 0 ∧
        pool.totalDistributed = 0 ∧ pool.cumulativeUsdcPerToken = 0)) = some true := by decide +kernel
  have nobody : (Genesis.blank.run demoOpen).positions.keys = ∅ := by decide +kernel
  have nobody' : (Genesis.blank.run demoOpenPool).positions.keys = ∅ := by decide +kernel
  have deployed := demoOpen_deployed
  have buyer : ∀ as ∈ [demoOpen, demoOpenPool], (Genesis.blank.run as).bank.holder
      (Client.demo.usdcOf (.wallet 10)) = some (Client.demo.usdc, .wallet 10) ∧
        100 ≤ (Genesis.blank.run as).bank.balance (Client.demo.usdcOf (.wallet 10)) := by decide +kernel
  have full : ((Genesis.blank.run (demoOpen ++ [.call 0 (Client.demo.buyProjectTokens 1 (.wallet 20)
      (.wallet 10) 100)])).projects.lookup (Client.project 1)).map (fun project =>
        decide (project.tokensSold = project.targetAmount)) = some true := by decide +kernel
  have treasury : (Genesis.blank.run demoOpen).bank.holder (Client.demo.usdcOf Client.demo.treasury)
      = some (Client.demo.usdc, Client.demo.treasury) := by decide +kernel
  have payer : ∀ as ∈ [demoOpen ++ [.call 0 (Client.demo.buyProjectTokens 1 (.wallet 20) (.wallet 10) 100),
        .call 0 (Client.demo.activateProject 1)], demoOpenPool ++ [Client.demoBuy (.wallet 10) 100]],
      (Genesis.blank.run as).bank.holder (Client.demo.usdcOf (.wallet 0))
          = some (Client.demo.usdc, .wallet 0) ∧
        7 ≤ (Genesis.blank.run as).bank.balance (Client.demo.usdcOf (.wallet 0)) := by decide +kernel
  generalize demoOpen = as at found nobody deployed buyer full treasury payer ⊢
  generalize demoOpenPool = as' at found' nobody' deployed buyer payer ⊢
  obtain ⟨project, own, facts⟩ := Option.map_eq_some_iff.mp found
  obtain ⟨mint, vault, target, status, sold, distributed, index, fee⟩ := of_decide_eq_true facts
  obtain ⟨pool, own', facts'⟩ := Option.map_eq_some_iff.mp found'
  obtain ⟨mint', vault', target', status', sold', distributed', index'⟩ := of_decide_eq_true facts'
  obtain ⟨platform₁, deployed₁⟩ := deployed as (.head _)
  obtain ⟨platform₂, deployed₂⟩ := deployed as' (.tail _ (.head _))
  have created := State.JustCreated.of_project own status sold distributed index fee nobody
  have created' := State.JustCreated.of_pool own' status' sold' distributed' index' nobody'
  -- the client's activation is that of the demo
  have activation : Client.demo.activation (Client.project 1) project (Client.demo.usdcOf Client.demo.treasury)
      = ⟨Client.platform, Client.demo.admin, Client.project 1, Client.demo.usdcOf (Client.project 1),
        Client.demo.usdcOf Client.demo.treasury, Client.demo.treasury, Client.demo.usdc⟩ := by
    rw [Client.activation, vault]
  have first : ∀ bs ∈ [as, as'], (Genesis.blank.run bs).bank.holder (Client.demo.usdcOf (.wallet 10))
      = some (Client.demo.usdc, .wallet 10) ∧
        (100 : U64).toNat ≤ (Genesis.blank.run bs).bank.balance (Client.demo.usdcOf (.wallet 10)) := buyer
  obtain ⟨-, rest⟩ := pool_simulates_project Client.demo Genesis.blank Genesis.blank as as' (Client.project 1)
    (Client.pool 1) project pool platform₁ platform₂ (fun σ => blank_clear _) (fun σ => blank_clear _)
    deployed₁ deployed₂ created created' (target.trans target'.symm) _ _
    (.cons (demoPurchases mint vault mint' vault') .nil)
    (Funded.attempt ⟨(first as (.head _)).1, fun _ _ _ => (first as (.head _)).2⟩)
    (Funded.attempt ⟨(first as' (.tail _ (.head _))).1, fun _ _ _ => (first as' (.tail _ (.head _))).2⟩)
  obtain ⟨done, own₁, facts₁⟩ := Option.map_eq_some_iff.mp full
  have apart : project.usdcVault ≠ Client.demo.usdcOf Client.demo.treasury := by
    rw [vault]
    decide
  obtain ⟨u, st, -, after⟩ := rest done own₁ (of_decide_eq_true facts₁) 0 _ treasury apart
  rw [activation] at st
  have reached : Genesis.blank.run (as ++ [.call 0 (Client.demo.buyProjectTokens 1 (.wallet 20) (.wallet 10)
      100), .call 0 (Client.demo.activateProject 1)]) = u := by
    rw [List.append_cons]
    exact (Genesis.run_snoc st).symm
  refine ⟨u, st, ?_⟩
  rw [vault, vault'] at after
  exact after _ _ (.cons (demoDistributions vault vault') .nil) (Funded.attempt (reached ▸ payer _ (.head _)))
    (Funded.attempt (payer _ (.tail _ (.head _))))

end Exira
