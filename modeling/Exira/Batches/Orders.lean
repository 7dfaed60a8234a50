import Exira.Access.Parallel
import Exira.Batches.Deposits

/-!
# Deposits in any order

A list of purchases and distributions that all go through, with no target that is both bought and distributed
to, goes through in every order, and ends in the same state: nobody gains from who comes first. A deposit that
goes through is ready (`Genesis.deposit_ready`), a ready one is served (`Deposit.Ready.serves`), and of two that
go through one after the other the second was ready before the first, and the first is after the second.
-/

namespace Exira

variable {K : Type} [DecidableEq K] [Addresses K]

/-! ## Deposits that are ready -/

/-- The target takes the deposit. -/
def Deposit.Meets (d : Deposit K) (l : Listing K) : Prop :=
  match d.purpose with
  | .sale index => l.index = index.toNat ∧ l.status = .funding ∧ l.sold + d.amount.toNat ≤ l.target
  | .repayment => d.target.layer.Repays l.status ∧ 0 < l.sold ∧ l.distributed + d.amount.toNat < 2 ^ 64

/-- The payer may make the deposit: a buyer that has its position or can open it, or the admin. -/
def Deposit.Allowed (d : Deposit K) (platform : Platform K) (s : State K) : Prop :=
  match d.purpose with
  | .sale _ => s.Free d.target.key d.payer
  | .repayment => d.payer = platform.admin

/-- In the state `s` the deposit goes through. -/
structure Deposit.Ready (d : Deposit K) (platform : Platform K) (s : State K) : Prop where
  listed : ∃ l, s.view.listing d.target = some l ∧ l.mint = d.mint ∧ l.vault = d.vault ∧ d.Meets l
  allowed : d.Allowed platform s
  signs : canSign d.payer = true
  pos : 0 < d.amount.toNat
  funds : s.bank.holder d.source = some (platform.usdcMint, d.payer)
  enough : d.amount.toNat ≤ s.bank.balance d.source

/-- The purchases and the distributions. -/
def InstructionKind.deposits : InstructionKind → Bool
  | buyProjectTokens | buyPoolTokens | distributeRepayment | distributePoolReturns => true
  | _ => false

section
variable {g : Genesis K} {as : List (Action K)} {s s' : State K} {platform : Platform K} {d e : Deposit K}
  {i : Instruction K} {now : Int64}

/-- A deposit that is served is ready. -/
lemma Genesis.deposit_ready (g : Genesis K) (as : List (Action K))
    (known : (g.run as).platforms.lookup Client.platform = some platform) (h : Serves (g.run as) platform i)
    (kind : i.kind.deposits = true) :
    ∃ d : Deposit K, i = d.instruction platform.usdcMint ∧ d.Ready platform (g.run as) := by
  have deployed := g.deployed as known
  cases h with
  | @buyProjectTokens p w src project n own signs free status pos room funds enough =>
    let d : Deposit K :=
      ⟨.sale project.cumulativeUsdcPerToken, .project p, project.tokenMint, project.usdcVault, w, src, n⟩
    exact ⟨d, rfl, ⟨project.listing, State.listing_project own, rfl, rfl, rfl, status, room⟩, free, signs, pos,
      funds, enough⟩
  | @distributeRepayment p src project n own status pos fits funds enough =>
    have sold := BitVec.lt_def.mp (g.sold_of_started as own status)
    let d : Deposit K :=
      ⟨.repayment, .project p, project.tokenMint, project.usdcVault, platform.admin, src, n⟩
    exact ⟨d, rfl, ⟨project.listing, State.listing_project own, rfl, rfl, fun _ => status, sold, fits⟩, rfl,
      deployed.signs, pos, funds, enough⟩
  | @distributePoolReturns p src pool n own pos sold fits funds enough =>
    let d : Deposit K := ⟨.repayment, .pool p, pool.poolTokenMint, pool.usdcVault, platform.admin, src, n⟩
    exact ⟨d, rfl, ⟨pool.listing, State.listing_pool own, rfl, rfl, Layer.repays_pool _, sold, fits⟩, rfl,
      deployed.signs, pos, funds, enough⟩
  | @buyPoolTokens p w src pool n own signs free pos room funds enough =>
    have status : pool.listing.status = .funding := congrArg PoolStatus.toProject (g.pool_funding as own)
    let d : Deposit K :=
      ⟨.sale pool.cumulativeUsdcPerToken, .pool p, pool.poolTokenMint, pool.usdcVault, w, src, n⟩
    exact ⟨d, rfl, ⟨pool.listing, State.listing_pool own, rfl, rfl, rfl, status, room⟩, free, signs, pos, funds,
      enough⟩
  | _ => cases kind

/-- A deposit that is ready is served. -/
lemma Deposit.Ready.serves (ready : d.Ready platform (g.run as)) :
    Serves (g.run as) platform (d.instruction platform.usdcMint) := by
  obtain ⟨purpose, t, mint, vault, payer, source, amount⟩ := d
  obtain ⟨⟨l, listed, rfl, rfl, meets⟩, allowed, signs, pos, funds, enough⟩ := ready
  cases t with
  | project p =>
    obtain ⟨project, own, rfl⟩ := Option.map_eq_some_iff.mp listed
    cases purpose with
    | sale index =>
      obtain ⟨-, status, room⟩ := meets
      have account := g.free_ata as payer ((g.run_wf as).view.listed (State.listing_project own)).minter
      exact .buyProjectTokens own signs allowed status pos room funds enough account
    | repayment =>
      obtain ⟨status, -, fits⟩ := meets
      have admin : payer = platform.admin := allowed
      subst admin
      exact .distributeRepayment own (status rfl) pos fits funds enough
  | pool p =>
    obtain ⟨pool, own, rfl⟩ := Option.map_eq_some_iff.mp listed
    cases purpose with
    | sale index =>
      obtain ⟨-, -, room⟩ := meets
      have account := g.free_ata as payer ((g.run_wf as).view.listed (State.listing_pool own)).minter
      exact .buyPoolTokens own signs allowed pos room funds enough account
    | repayment =>
      obtain ⟨-, sold, fits⟩ := meets
      have admin : payer = platform.admin := allowed
      subst admin
      exact .distributePoolReturns own pos sold fits funds enough

/-- A ready deposit that goes through is paid. -/
lemma Deposit.Ready.paid (ready : d.Ready platform s)
    (st : step s (.call now (d.instruction platform.usdcMint)) = .ok s') : d.Paid s s' := by
  have h := (step_call st).2
  obtain ⟨purpose, t, mint, vault, payer, source, amount⟩ := d
  obtain ⟨⟨l, listed, rfl, rfl, meets⟩, -⟩ := ready
  cases t with
  | project p =>
    obtain ⟨project, own, rfl⟩ := Option.map_eq_some_iff.mp listed
    cases purpose with
    | sale index =>
      cases BitVec.eq_of_toNat_eq meets.1
      exact buyProjectTokens_paid own h
    | repayment => exact distributeRepayment_paid h
  | pool p =>
    obtain ⟨pool, own, rfl⟩ := Option.map_eq_some_iff.mp listed
    cases purpose with
    | sale index =>
      cases BitVec.eq_of_toNat_eq meets.1
      exact buyPoolTokens_paid own h
    | repayment => exact distributePoolReturns_paid h

/-! ## Listings after a deposit -/

/-- What a buy does to the listings. -/
lemma Move.listing_buy {v v' : View K} {t : Target K} {k : K} {n : ℕ} (mv : Move v (.own t (.buy k n)) v') :
    ∃ l, v.listing t = some l ∧ v'.listing = Function.update v.listing t (some { l with sold := l.sold + n }) := by
  cases mv with
  | buy own => exact ⟨_, own, rfl⟩

/-- What a distribution does to the listings. -/
lemma Move.listing_distribute {v v' : View K} {t : Target K} {n : ℕ} (mv : Move v (.own t (.distribute n)) v') :
    ∃ l, v.listing t = some l ∧ v'.listing = Function.update v.listing t (some { l with
      distributed := l.distributed + n
      index := l.index + n * PRECISION.toNat / l.sold
      status := t.layer.repaid l.status }) := by
  cases mv with
  | distribute own => exact ⟨_, own, rfl⟩

/-- A deposit changes the amounts of its target. -/
lemma Deposit.listing (wf : s.Wf) (st : step s (.call now (d.instruction platform.usdcMint)) = .ok s') :
    ∃ l, s.view.listing d.target = some l ∧
      s'.view.listing = Function.update s.view.listing d.target (some (d.on l)) := by
  have mv := (step_acts wf st).move
  obtain ⟨purpose, t, mint, vault, payer, source, amount⟩ := d
  cases t with
  | project p =>
    cases purpose with
    | sale index => exact mv.listing_buy
    | repayment => exact mv.listing_distribute
  | pool p =>
    cases purpose with
    | sale index => exact mv.listing_buy
    | repayment => exact mv.listing_distribute

/-! ## Accounts that pay -/

/-- The tokens of a target are no USDC. -/
lemma Deposit.Ready.mint_ne (g : Genesis K) (as : List (Action K))
    (known : (g.run as).platforms.lookup Client.platform = some platform) (ready : d.Ready platform (g.run as)) :
    d.mint ≠ platform.usdcMint := by
  obtain ⟨l, listed, mint, -⟩ := ready.listed
  rw [← mint]
  exact (((g.places as).seated listed).usdc (g.standing as listed known).vault).symm

/-- A deposit takes from the account that pays for it, and gives USDC to no other account of a signer. -/
lemma Deposit.Ready.credit (g : Genesis K) (as : List (Action K))
    (known : (g.run as).platforms.lookup Client.platform = some platform) (ready : d.Ready platform (g.run as))
    {k w : K} (held : (g.run as).bank.holder k = some (platform.usdcMint, w)) (signs : canSign w = true) :
    d.posting.credit k = - Token.Posting.single d.source d.amount k := by
  have other := ready.mint_ne g as known
  obtain ⟨l, listed, -, place, -⟩ := ready.listed
  have vault : k ≠ d.vault := place ▸ ((g.run_wf as).view.listed listed).ne_vault held signs
  have tokens : k ≠ associatedToken d.payer d.mint := by
    rintro rfl
    exact other (congrArg Prod.fst ((g.run_wf as).view.associated held)).symm
  unfold posting
  cases d.purpose with
  | repayment => simp [Token.Posting.transfers, Token.Posting.single, vault]
  | sale =>
    simp [Token.Posting.append, Token.Posting.opens, Token.Posting.transfers, Token.Posting.mints,
      Token.Posting.single, vault, tokens]

/-- An account for USDC was there before a deposit. -/
lemma Deposit.Ready.held_before (g : Genesis K) (as : List (Action K))
    (known : (g.run as).platforms.lookup Client.platform = some platform) (ready : d.Ready platform (g.run as))
    (paid : d.Paid (g.run as) s') {k w : K} (held : s'.bank.holder k = some (platform.usdcMint, w)) :
    (g.run as).bank.holder k = some (platform.usdcMint, w) := by
  have other := ready.mint_ne g as known
  rw [paid.bank.holder, Option.or_eq_some_iff] at held
  rcases held with held | ⟨-, opened⟩
  · exact held
  · unfold posting at opened
    cases purpose : d.purpose with
    | repayment =>
      rw [purpose] at opened
      cases opened
    | sale =>
      rw [purpose] at opened
      simp only [Token.Posting.append, Token.Posting.opens, Token.Posting.transfers, Token.Posting.mints,
        Option.or_none] at opened
      split_ifs at opened
      exact absurd (congrArg Prod.fst (Option.some.inj opened)) other

end

/-! ## One deposit after the other -/

/-- Instructions of which no two are a purchase and a distribution of one target. -/
def Instruction.Unmixed (i j : Instruction K) : Prop :=
  i.target = j.target → i.kind = j.kind

namespace Deposit
variable {d e : Deposit K} {l : Listing K} {usdc : K}

omit [DecidableEq K] in
/-- Unmixed deposits to one target are both sales, or both distributions. -/
lemma purposes (unmixed : (d.instruction usdc).Unmixed (e.instruction usdc)) (same : d.target = e.target) :
    (∃ x y, d.purpose = .sale x ∧ e.purpose = .sale y) ∨ d.purpose = .repayment ∧ e.purpose = .repayment := by
  obtain ⟨x, t, _, _, _, _, _⟩ := d
  obtain ⟨y, t', _, _, _, _, _⟩ := e
  have same : t = t' := same
  subst same
  cases x with
  | sale i =>
    cases y with
    | sale j => exact .inl ⟨i, j, rfl, rfl⟩
    | repayment => cases t <;> cases unmixed rfl
  | repayment =>
    cases y with
    | sale j => cases t <;> cases unmixed rfl
    | repayment => exact .inr ⟨rfl, rfl⟩

omit [DecidableEq K] in
/-- A condition that holds after the other deposit held before it. -/
lemma Meets.before (unmixed : (d.instruction usdc).Unmixed (e.instruction usdc)) (same : d.target = e.target)
    (meets : e.Meets (d.on l)) : e.Meets l := by
  unfold Meets on at meets
  unfold Meets
  rcases purposes unmixed same with ⟨x, y, hx, hy⟩ | ⟨hx, hy⟩
  · -- there was more room before the first sale
    simp only [hx, hy] at meets ⊢
    exact ⟨meets.1, meets.2.1, by omega⟩
  · simp only [hx, hy] at meets ⊢
    obtain ⟨repays, sold, fits⟩ := meets
    refine ⟨?_, sold, by omega⟩
    intro project
    -- a project that repays was active, or repaid before
    have status := repays project
    unfold Layer.repaid at status
    split_ifs at status with active
    · exact .inl active.2
    · exact status

omit [DecidableEq K] in
/-- A condition that holds before the other deposit holds after it. -/
lemma Meets.after (unmixed : (d.instruction usdc).Unmixed (e.instruction usdc)) (same : d.target = e.target)
    (before : d.Meets l) (meets : e.Meets (d.on l)) : d.Meets (e.on l) := by
  unfold Meets on at meets
  unfold Meets at before
  unfold Meets on
  rcases purposes unmixed same with ⟨x, y, hx, hy⟩ | ⟨hx, hy⟩
  · simp only [hx, hy] at before meets ⊢
    exact ⟨before.1, before.2.1, by omega⟩
  · simp only [hx, hy] at before meets ⊢
    obtain ⟨repays, sold, fits⟩ := before
    refine ⟨?_, sold, by omega⟩
    intro project
    unfold Layer.repaid
    split_ifs
    · exact .inr rfl
    · exact repays project

omit [DecidableEq K] [Addresses K] in
/-- A deposit leaves the mint of its target. -/
lemma on_mint : (d.on l).mint = l.mint := by
  unfold on
  split <;> rfl

omit [DecidableEq K] [Addresses K] in
/-- A deposit leaves the vault of its target. -/
lemma on_vault : (d.on l).vault = l.vault := by
  unfold on
  split <;> rfl

end Deposit

namespace Deposit
variable {g : Genesis K} {as : List (Action K)} {s' s₁ s₂ : State K} {platform : Platform K} {d e : Deposit K}
  {now now' : Int64}

/-- Whether a payer may make a deposit does not change. -/
lemma Allowed.congr (g : Genesis K) (as bs : List (Action K)) (h : e.Allowed platform (g.run as)) :
    e.Allowed platform (g.run bs) := by
  unfold Allowed at h ⊢
  split at h
  · exact (g.free_iff bs _ _).mpr ((g.free_iff as _ _).mp h)
  · exact h

/-- What is ready after a deposit was ready before it. -/
lemma Ready.before (known : (g.run as).platforms.lookup Client.platform = some platform)
    (unmixed : (d.instruction platform.usdcMint).Unmixed (e.instruction platform.usdcMint))
    (ready : d.Ready platform (g.run as))
    (st : step (g.run as) (.call now (d.instruction platform.usdcMint)) = .ok s₁) (next : e.Ready platform s₁) :
    e.Ready platform (g.run as) := by
  have paid := ready.paid st
  have held := ready.held_before g as known paid next.funds
  have credit := ready.credit g as known held next.signs
  have balance := paid.bank.balance e.source
  have enough := next.enough
  refine ⟨?_, ?_, next.signs, next.pos, held, ?_⟩
  · obtain ⟨l, listed, after⟩ := Deposit.listing (g.run_wf as) st
    obtain ⟨l', listed', mint, vault, meets⟩ := next.listed
    -- the target is that of the first deposit, or as it was
    rw [after] at listed'
    by_cases same : d.target = e.target
    · rw [← same, Function.update_self] at listed'
      cases listed'
      rw [on_mint] at mint
      rw [on_vault] at vault
      exact ⟨l, same ▸ listed, mint, vault, meets.before unmixed same⟩
    · rw [Function.update_of_ne (Ne.symm same)] at listed'
      exact ⟨l', listed', mint, vault, meets⟩
  · have allowed := next.allowed
    rw [Genesis.run_snoc st] at allowed
    exact allowed.congr g _ as
  · -- the first deposit paid nothing into the account
    rw [credit, Token.Posting.single] at balance
    split_ifs at balance <;> omega

/-- What is ready stays so after a deposit that was ready after it. -/
lemma Ready.after (known : (g.run as).platforms.lookup Client.platform = some platform)
    (unmixed : (d.instruction platform.usdcMint).Unmixed (e.instruction platform.usdcMint))
    (ready : d.Ready platform (g.run as))
    (st : step (g.run as) (.call now (d.instruction platform.usdcMint)) = .ok s₁) (next : e.Ready platform s₁)
    (first : step (g.run as) (.call now' (e.instruction platform.usdcMint)) = .ok s') : d.Ready platform s' := by
  have ready' := ready.before known unmixed st next
  have paid := ready.paid st
  have paid' := ready'.paid first
  refine ⟨?_, ?_, ready.signs, ready.pos, ?_, ?_⟩
  · obtain ⟨l, listed, after⟩ := Deposit.listing (g.run_wf as) st
    obtain ⟨l₁, listed₁, after₁⟩ := Deposit.listing (g.run_wf as) first
    obtain ⟨l', listed', mint, vault, meets⟩ := ready.listed
    cases listed.symm.trans listed'
    -- both may be on one target
    by_cases same : d.target = e.target
    · rw [same] at listed
      cases listed.symm.trans listed₁
      obtain ⟨l₂, listed₂, -, -, meets₂⟩ := next.listed
      rw [after, ← same, Function.update_self] at listed₂
      cases listed₂
      refine ⟨e.on l, ?_, on_mint.trans mint, on_vault.trans vault, meets.after unmixed same meets₂⟩
      rw [after₁, same, Function.update_self]
    · refine ⟨l, ?_, mint, vault, meets⟩
      rw [after₁, Function.update_of_ne same]
      exact listed
  · rw [Genesis.run_snoc first]
    exact ready.allowed.congr g as _
  · rw [paid'.bank.holder, ready.funds, Option.some_or]
  · -- both may be paid from one account
    have credit := ready'.credit g as known ready.funds ready.signs
    have credit' := ready.credit g as known ready'.funds ready'.signs
    have balance := paid'.bank.balance d.source
    have balance' := paid.bank.balance e.source
    have enough := ready.enough
    have enough' := next.enough
    rw [credit, Token.Posting.single] at balance
    rw [credit', Token.Posting.single] at balance'
    by_cases same : d.source = e.source
    · rw [if_pos same] at balance
      rw [if_pos same.symm, ← same] at balance'
      rw [← same] at enough'
      omega
    · rw [if_neg same] at balance
      omega

/-- Two deposits that go through one after the other go through the other way round, and end in the same state.
-/
lemma Ready.swap (known : (g.run as).platforms.lookup Client.platform = some platform)
    (unmixed : (d.instruction platform.usdcMint).Unmixed (e.instruction platform.usdcMint))
    (ready : d.Ready platform (g.run as)) (next : e.Ready platform s₁)
    (st : step (g.run as) (.call now (d.instruction platform.usdcMint)) = .ok s₁)
    (st' : step s₁ (.call now' (e.instruction platform.usdcMint)) = .ok s₂) :
    ∃ s₁', step (g.run as) (.call now' (e.instruction platform.usdcMint)) = .ok s₁' ∧
      step s₁' (.call now (d.instruction platform.usdcMint)) = .ok s₂ := by
  have ready' := ready.before known unmixed st next
  obtain ⟨s₁', first⟩ := g.goes as (.serves known ready'.serves) now'
  have next' := ready.after known unmixed st next first
  have known' : s₁'.platforms.lookup Client.platform = some platform := by
    rw [(ready'.paid first).rest]
    exact known
  have later := Genesis.run_snoc first
  obtain ⟨s₂', second⟩ : ∃ s₂', step s₁' (.call now (d.instruction platform.usdcMint)) = .ok s₂' := by
    rw [later] at known' next' ⊢
    exact g.goes _ (.serves known' next'.serves) now
  -- sales to one target start from one accumulator, since no sale moves it
  have apart : d.Apart e := by
    obtain ⟨l, listed, -, -, meets⟩ := ready.listed
    obtain ⟨l', listed', -, -, meets'⟩ := ready'.listed
    have wf := (g.run_wf as).view
    refine ⟨(wf.listed listed).target_inj (wf.listed listed'), ?_⟩
    intro same
    rw [same] at listed
    cases listed.symm.trans listed'
    unfold Meets at meets meets'
    rcases purposes unmixed same with ⟨x, y, hx, hy⟩ | ⟨hx, hy⟩
    · simp only [hx, hy] at meets meets' ⊢
      cases BitVec.eq_of_toNat_eq (meets.1.symm.trans meets'.1)
      exact .sale
    · rw [hx, hy]
      exact .repayment
  have same := (ready.paid st).comm apart (next.paid st') (ready'.paid first) (next'.paid second)
  exact ⟨s₁', first, same ▸ second⟩

end Deposit

/-! ## Every order -/

/-- A call, with its time. -/
def State.call (s : State K) (c : Int64 × Instruction K) : Result (State K) :=
  step s (.call c.1 c.2)

/-- A deposit that goes through in a reachable state was ready there. -/
lemma Genesis.ready_of_call (g : Genesis K) (as : List (Action K)) {now : Int64} {i : Instruction K} {s' : State K}
    (kind : i.kind.deposits = true) (st : (g.run as).call (now, i) = .ok s') : ∃ platform, ∃ d : Deposit K,
      (g.run as).platforms.lookup Client.platform = some platform ∧ i = d.instruction platform.usdcMint ∧
      d.Ready platform (g.run as) := by
  cases g.accepts as st with
  | serves known h =>
    obtain ⟨d, accounts, ready⟩ := g.deposit_ready as known h kind
    exact ⟨_, d, known, accounts, ready⟩
  | _ => cases kind

/-- Purchases and distributions that all go through, one after the other, go through in every order and end in
the same state, as long as no target is both bought and distributed to. -/
theorem deposits_in_any_order (g : Genesis K) (as : List (Action K)) {cs ds : List (Int64 × Instruction K)}
    {s' : State K} (deposits : ∀ c ∈ cs, c.2.kind.deposits = true)
    (unmixed : cs.Pairwise fun c c' => c.2.Unmixed c'.2) (perm : cs.Perm ds)
    (h : cs.foldlM State.call (g.run as) = .ok s') : ds.foldlM State.call (g.run as) = .ok s' := by
  have all : cs.Pairwise fun c c' =>
      c.2.kind.deposits = true ∧ c'.2.kind.deposits = true ∧ c.2.Unmixed c'.2 := by
    apply unmixed.imp_of_mem
    intro c c' mem mem' apart
    exact ⟨deposits c mem, deposits c' mem', apart⟩
  refine Runs.foldlM_perm (I := fun s => ∃ bs, s = g.run bs) ?_ ?_ ?_ perm ⟨as, rfl⟩ all h
  · rintro _ c s' ⟨bs, rfl⟩ st
    exact ⟨_, Genesis.run_snoc st⟩
  · -- each of the two was ready when it was made
    rintro _ ⟨now, i⟩ ⟨now', j⟩ s₁ s₂ ⟨bs, rfl⟩ ⟨kind, kind', apart⟩ st st'
    obtain ⟨platform, d, known, rfl, ready⟩ := g.ready_of_call bs kind st
    have known₁ : s₁.platforms.lookup Client.platform = some platform := by
      rw [(ready.paid st).rest]
      exact known
    have later := Genesis.run_snoc st
    subst later
    obtain ⟨platform', e, known', rfl, ready'⟩ := g.ready_of_call _ kind' st'
    cases known₁.symm.trans known'
    exact ready.swap known apart ready' st st'
  · rintro c c' ⟨kind, kind', apart⟩
    exact ⟨kind', kind, fun same => (apart same.symm).symm⟩

/-- Two purchases in one project, and one in a pool by a wallet that pays for both. -/
def demoBatch : List (Int64 × Instruction Addr) := [
  (0, Client.demo.buyProjectTokens 1 (.wallet 20) (.wallet 11) 60),
  (5, Client.demo.buyPoolTokens 1 (.wallet 21) (.wallet 10) 4),
  (9, Client.demo.buyProjectTokens 1 (.wallet 20) (.wallet 10) 40)]

/-- A batch and its reverse. -/
theorem deposits_in_any_order_demo : ∃ s', demoBatch.foldlM State.call (Genesis.blank.run demoSales) = .ok s' ∧
    demoBatch.reverse.foldlM State.call (Genesis.blank.run demoSales) = .ok s' := by
  have through : (demoBatch.foldlM State.call (Genesis.blank.run demoSales)).isOk = true := by decide +kernel
  obtain ⟨s', h⟩ : ∃ s', demoBatch.foldlM State.call (Genesis.blank.run demoSales) = .ok s' := by
    generalize demoBatch.foldlM State.call (Genesis.blank.run demoSales) = r at through
    cases r with
    | ok s' => exact ⟨s', rfl⟩
    | error => cases through
  have kinds : ∀ c ∈ demoBatch, c.2.kind.deposits = true := by decide
  have unmixed : demoBatch.Pairwise fun c c' => c.2.Unmixed c'.2 := by
    simp [demoBatch, Instruction.Unmixed, Instruction.target, Instruction.kind, Client.buyProjectTokens,
      Client.buyPoolTokens]
  exact ⟨s', h, deposits_in_any_order Genesis.blank demoSales kinds unmixed (List.reverse_perm _).symm h⟩

end Exira
