import Exira.Frame

/-!
# Authority

Whose signature a successful instruction with chosen accounts takes, for what it changes: the position of a
wallet, the tokens of a wallet, the vault of a project or a pool, and what only the platform's admin decides.
-/

namespace Exira

variable {K : Type} [DecidableEq K] [Addresses K] {s s' : State K} {now : Int64} {i : Instruction K}

/-! ## Positions -/

/-- The position that an instruction writes is that of a signer, as before and after. -/
lemma State.Wf.signed_position (wf : s.Wf) (wf' : s'.Wf) (frame : Frame s i s') (k : K) :
    (∀ q, s.positions.lookup k = some q → ∃ q', s'.positions.lookup k = some q' ∧
      q'.owner = q.owner ∧ q'.target = q.target ∧ (q' ≠ q → q.owner ∈ i.signers)) ∧
    ∀ q', s'.positions.lookup k = some q' → s.positions.lookup k = none → q'.owner ∈ i.signers := by
  rcases frame.positions with same | ⟨t, w, k₀, q₀, -, signs, place, -, wrote⟩
  · rw [same]
    constructor
    · exact fun q own => ⟨q, own, rfl, rfl, fun ne => absurd rfl ne⟩
    · exact fun q' own free => by rw [free] at own; cases own
  · by_cases e : k = k₀
    · subst e
      have own' : s'.positions.lookup k = some q₀ := by rw [wrote, Finmap.lookup_insert]
      have placed' := wf'.view.placed own'
      obtain ⟨-, owner⟩ := placed'.at_address place
      constructor
      · intro q own
        obtain ⟨target₀, owner₀⟩ := (wf.view.placed own).inj placed'
        exact ⟨q₀, own', owner₀.symm, target₀.symm, fun _ => owner₀ ▸ owner ▸ signs⟩
      · intro q' own'' _
        cases own'.symm.trans own''
        exact owner ▸ signs
    · have same : s'.positions.lookup k = s.positions.lookup k := by
        rw [wrote, Finmap.lookup_insert_of_ne _ e]
      rw [same]
      constructor
      · exact fun q own => ⟨q, own, rfl, rfl, fun ne => absurd rfl ne⟩
      · exact fun q' own free => by rw [free] at own; cases own

/-! ## Tokens -/

omit [Addresses K] in
/-- A spender is a signer, or the target whose fund the instruction is about. -/
lemma Instruction.spenders_mem (s : State K) (now : Int64) {w : K} (mem : w ∈ i.spenders) : w ∈ i.signers ∨
    ∃ t e, i.target = some t ∧ w = t.key ∧ ((Action.call now i).effect s = .own t e ∨
      ∃ dest n, (Action.call now i).effect s = .pay t e dest n) := by
  cases i with
  | activateProject | withdrawProjectFunds =>
    exact .inr ⟨_, _, rfl, List.mem_singleton.mp mem, .inr ⟨_, _, rfl⟩⟩
  | claimProjectReturns | claimPoolReturns => exact .inr ⟨_, _, rfl, List.mem_singleton.mp mem, .inl rfl⟩
  | withdrawInvestment a =>
    -- the wallet burns its tokens, and the project pays
    rcases List.mem_cons.mp mem with rfl | mem
    · exact .inl (.head _)
    · exact .inr ⟨_, _, rfl, List.mem_singleton.mp mem, .inl rfl⟩
  | distributeRepayment | distributePoolReturns | buyProjectTokens | buyPoolTokens => exact .inl mem
  | _ => cases mem

/-- A spender is a signer, or a listed target. -/
lemma step_spender (wf : s.Wf) (st : step s (.call now i) = .ok s') {w : K} (mem : w ∈ i.spenders) :
    w ∈ i.signers ∨ ∃ t l, i.target = some t ∧ s.view.listing t = some l ∧ w = t.key := by
  rcases Instruction.spenders_mem s now mem with signer | ⟨t, e, target, key, about⟩
  · exact .inl signer
  · obtain ⟨l, own⟩ := (step_acts wf st).move.listed_of about
    exact .inr ⟨t, l, target, own, key⟩

/-- Tokens leave the account of a wallet only with its signature. -/
lemma signed_debit (wf : s.Wf) (st : step s (.call now i) = .ok s') {k m w : K}
    (signs : canSign w = true) (held : s.bank.holder k = some (m, w))
    (less : s'.bank.balance k < s.bank.balance k) : w ∈ i.signers := by
  have spender := (step_frame wf st).bank.debit held less
  rcases step_spender wf st spender with signer | ⟨t, l, -, own, e⟩
  · exact signer
  · exact absurd e ((wf.view.listed own).ne_key signs)

/-- The vault of a target loses tokens only in an instruction about the target. -/
lemma target_debit (wf : s.Wf) (st : step s (.call now i) = .ok s') {t : Target K}
    {l : Listing K} (own : s.view.listing t = some l)
    (less : s'.bank.balance l.vault < s.bank.balance l.vault) :
    i.target = some t ∧ t.key ∈ i.spenders ∧ t.key ∉ i.signers := by
  have listed := wf.view.listed own
  obtain ⟨usdc, -, -, held, -⟩ := listed.vault
  have spender := (step_frame wf st).bank.debit held less
  have silent : t.key ∉ i.signers := by
    intro mem
    exact listed.ne_key ((step_call st).1 _ mem) rfl
  rcases step_spender wf st spender with signer | ⟨t', l', target, own', e⟩
  · exact absurd signer silent
  · cases listed.target_inj (wf.view.listed own') e
    exact ⟨target, spender, silent⟩

/-! ## Vaults -/

/-- `n` tokens go from a vault to the account `dest` of `w`. -/
structure Payment (b b' : Token.Bank K) (vault dest w : K) (n : ℕ) : Prop where
  spent : b'.balance vault + n = b.balance vault
  received : b'.balance dest = b.balance dest + n
  holder : ∃ usdc x, b'.holder vault = some (usdc, x) ∧ b'.holder dest = some (usdc, w)

/-- How a project's vault can lose tokens. -/
inductive ProjectOutflow (s s' : State K) (p : K) (project : Project K) : Instruction K → Prop
  /-- a holder claims what is owed -/
  | claim {a q} (target : a.project = p) (held : s.positions.lookup a.position = some q)
      (owner : q.owner = a.investor) (of : q.target = p)
      (paid : Payment s.bank s'.bank project.usdcVault a.investorUsdcAta a.investor
        (q.owed project.cumulativeUsdcPerToken)) :
    ProjectOutflow s s' p project (.claimProjectReturns a)
  /-- a holder is refunded all tokens of the position -/
  | refund {a q} (target : a.project = p) (held : s.positions.lookup a.position = some q)
      (owner : q.owner = a.investor) (of : q.target = p)
      (paid : Payment s.bank s'.bank project.usdcVault a.investorUsdcAta a.investor q.tokensHeld.toNat) :
    ProjectOutflow s s' p project (.withdrawInvestment a)
  /-- the admin takes the fee for the treasury -/
  | fee {a platform} (target : a.project = p) (admin : s.admin = some a.admin)
      (own : s.platforms.lookup Client.platform = some platform)
      (paid : Payment s.bank s'.bank project.usdcVault a.treasuryUsdcAta platform.treasury
        (s.activationFee a)) :
    ProjectOutflow s s' p project (.activateProject a)
  /-- the admin draws the proceeds -/
  | payout {a w} {n : U64} (target : a.project = p) (admin : s.admin = some a.admin)
      (paid : Payment s.bank s'.bank project.usdcVault a.destination w n.toNat) :
    ProjectOutflow s s' p project (.withdrawProjectFunds a n)

/-- How a pool's vault can lose tokens. -/
inductive PoolOutflow (s s' : State K) (p : K) (pool : Pool K) : Instruction K → Prop
  | claim {a q} (target : a.pool = p) (held : s.positions.lookup a.position = some q)
      (owner : q.owner = a.investor) (of : q.target = p)
      (paid : Payment s.bank s'.bank pool.usdcVault a.investorUsdcAta a.investor
        (q.owed pool.cumulativeUsdcPerToken)) :
    PoolOutflow s s' p pool (.claimPoolReturns a)

omit [Addresses K] in
/-- A transfer between different accounts is a payment of what it moves. -/
lemma Payment.of_transfer {b b₀ b' : Token.Bank K} {vault dest authority m w : K} {n : U64}
    (paid : b₀.transfer vault dest authority n = .ok b') (ne : vault ≠ dest)
    (holder : b₀.holder dest = some (m, w)) (atVault : b₀.balance vault = b.balance vault)
    (atDest : b₀.balance dest = b.balance dest) : Payment b b' vault dest w n.toNat where
  spent := (Token.Bank.transfer_balance_source paid ne).trans atVault
  received := by rw [Token.Bank.transfer_balance_dest paid ne.symm, atDest]
  holder := by
    obtain ⟨m', o, source, dest⟩ := Token.Bank.transfer_holders paid
    cases holder.symm.trans dest
    exact ⟨m, authority, (Token.Bank.transfer_holder paid _).trans source,
      (Token.Bank.transfer_holder paid _).trans holder⟩

/-- What a claim pays its owner. -/
lemma Claim.payment {t : Target K} {l : Listing K} {k w dest : K} {q q' : InvestorPosition K} {n : U64}
    {b₀ b₁ : Token.Bank K} (wf : s.Wf) (own : s.view.listing t = some l)
    (c : Claim s t l k w dest q q' n b₀ b₁) {cumulative : U128}
    (index : cumulative.toNat = l.index) : Payment s.bank b₁ l.vault dest w (q.owed cumulative) := by
  obtain ⟨usdc, holder⟩ := c.holder
  have ne := wf.view.vault_ne_holder own c.founds.toEvolves holder c.placed.signs
  have owed : q.owed cumulative = n.toNat := by
    rw [c.owed, ← index]
    rfl
  rw [owed]
  exact .of_transfer c.paid ne holder (c.founds.balance _) (c.founds.balance _)

/-- What an exit pays its owner: the burnt tokens are of the target's mint, which is not what the vault
holds. -/
lemma withdrawInvestment_payment (wf : s.Wf) (places : s.Places) {a : WithdrawInvestment K}
    (h : withdrawInvestment s a = .ok s') {project : Project K}
    (own : s.projects.lookup a.project = some project) :
    ∃ q, s.positions.lookup a.position = some q ∧ q.owner = a.investor ∧ q.target = a.project ∧
      Payment s.bank s'.bank project.usdcVault a.investorUsdcAta a.investor q.tokensHeld.toNat := by
  obtain ⟨done, rfl⟩ := withdrawInvestment_ok.mp h
  have own' := done.own
  obtain ⟨-, srcMint⟩ := done.tokens
  obtain ⟨dstOwner, -⟩ := done.usdc
  have refunded := done.refunded
  cases own.symm.trans own'
  have listed := wf.view.listed (State.listing_project own)
  have placed := wf.view.checkedPosition done.held done.placed
  have dest : s.bank.holder a.investorUsdcAta = some (done.investorUsdcAta.mint, a.investor) := by
    rw [Token.Bank.holder_eq done.dest, dstOwner]
  have apart : done.project.usdcVault ≠ a.investorUsdcAta := (listed.ne_vault dest placed.signs).symm
  have notVault : done.project.usdcVault ≠ a.investorTokenAta :=
    (listed.ne_vault (Token.Bank.burn_holders done.burns) placed.signs).symm
  have notDest : a.investorUsdcAta ≠ a.investorTokenAta := by
    intro e
    -- both ends of the refund are accounts of the mint that the vault holds
    obtain ⟨m, o, source, dest'⟩ := Token.Bank.transfer_holders refunded
    rw [Token.Bank.burn_holder done.burns] at source dest'
    rw [← done.vault] at source
    rw [e, Token.Bank.burn_holders done.burns] at dest'
    cases dest'
    exact (places.seated (State.listing_project own)).usdc source done.mint.symm
  have balance : ∀ k, k ≠ a.investorTokenAta → done.burnt.balance k = s.bank.balance k := by
    intro k ne
    have books := Token.Bank.burn_balance done.burns k
    rwa [if_neg ne] at books
  refine ⟨done.position, done.held, done.owner, placed.target, ?_⟩
  rw [← done.vault] at refunded
  exact .of_transfer refunded apart ((Token.Bank.burn_holder done.burns _).trans dest)
    (balance _ notVault) (balance _ notDest)

/-- The vault of a project loses tokens in one of four ways. -/
lemma project_outflow (wf : s.Wf) (places : s.Places) (st : step s (.call now i) = .ok s') {p : K}
    {project : Project K} (own : s.projects.lookup p = some project)
    (less : s'.bank.balance project.usdcVault < s.bank.balance project.usdcVault) :
    ProjectOutflow s s' p project i := by
  obtain ⟨target, spender, silent⟩ := target_debit wf st (State.listing_project own) less
  have h := (step_call st).2
  cases i with
  | activateProject a =>
    cases target
    obtain ⟨done, rfl⟩ := activateProject_ok.mp h
    have own' := done.own
    obtain ⟨owner, mint⟩ := done.ata
    cases own.symm.trans own'
    obtain ⟨-, admin, signed⟩ := wf.side.platform done.loaded
    refine .fee rfl signed admin ?_
    rw [wf.activationFee_eq done.loaded own done.priced]
    rcases payFee_ok done.paid with paid | ⟨-, same⟩
    · have dest : s.bank.holder a.treasuryUsdcAta = some (done.treasuryUsdcAta.mint, done.platform.treasury) := by
        rw [Token.Bank.holder_eq done.found, owner, done.treasury]
      rw [done.vault]
      exact .of_transfer paid done.apart dest rfl rfl
    · -- without a fee nothing leaves the vault
      rw [same] at less
      exact absurd less (lt_irrefl _)
  | withdrawProjectFunds a n =>
    cases target
    obtain ⟨done, rfl⟩ := withdrawProjectFunds_ok.mp h
    have own' := done.own
    cases own.symm.trans own'
    have drawn : Payment s.bank done.bank done.project.usdcVault a.destination done.destination.owner n.toNat := by
      rw [done.vault]
      exact .of_transfer done.paid done.apart (Token.Bank.holder_eq done.found) rfl rfl
    exact .payout rfl (wf.side.platform done.loaded).2.2 drawn
  | claimProjectReturns a =>
    cases target
    obtain ⟨project', q, q', n, b₀, b₁, own', claim, rfl⟩ := claimProjectReturns_inv wf h
    cases own.symm.trans own'
    exact .claim rfl claim.held claim.placed.owner claim.placed.target
      (claim.payment wf (State.listing_project own) rfl)
  | withdrawInvestment a =>
    cases target
    obtain ⟨q, held, owner, of, paid⟩ := withdrawInvestment_payment wf places h own
    exact .refund rfl held owner of paid
  -- these are paid by a signer, which no project is
  | distributeRepayment a => exact absurd spender silent
  | buyProjectTokens a => exact absurd spender silent
  -- these spend nothing, or are not about the project
  | createProject => cases spender
  | closeProject => cases spender
  | initializePlatform => cases target
  | createPool => cases target
  | addProjectToPool => cases target
  | distributePoolReturns => cases target
  | buyPoolTokens => cases target
  | claimPoolReturns => cases target
  | registerMrvProject => cases target
  | addAuditor => cases target
  | submitBaseline => cases target
  | submitVerification => cases target
  | attestVerification => cases target

/-- The vault of a pool loses tokens to claims alone. -/
lemma pool_outflow (wf : s.Wf) (st : step s (.call now i) = .ok s') {p : K} {pool : Pool K}
    (own : s.pools.lookup p = some pool)
    (less : s'.bank.balance pool.usdcVault < s.bank.balance pool.usdcVault) :
    PoolOutflow s s' p pool i := by
  obtain ⟨target, spender, silent⟩ := target_debit wf st (State.listing_pool own) less
  have h := (step_call st).2
  cases i with
  | claimPoolReturns a =>
    cases target
    obtain ⟨pool', q, q', n, b₀, b₁, own', claim, rfl⟩ := claimPoolReturns_inv wf h
    cases own.symm.trans own'
    exact .claim rfl claim.held claim.placed.owner claim.placed.target
      (claim.payment wf (State.listing_pool own) rfl)
  | distributePoolReturns a => exact absurd spender silent
  | buyPoolTokens a => exact absurd spender silent
  | createPool => cases spender
  | addProjectToPool => cases spender
  | _ => cases target

/-- Authorization and custody. In every reachable state, whatever accounts a successful instruction was passed:
a position changes only if its owner signs, and never its owner or target; the tokens of a wallet leave only
with its signature; the vault of a project or a pool loses tokens only in the ways of `ProjectOutflow` and
`PoolOutflow`; and what the admin decides changes only if the admin signs. -/
theorem custody (g : Genesis K) (as : List (Action K)) (now : Int64) (i : Instruction K) (s' : State K)
    (st : step (g.run as) (.call now i) = .ok s') :
    (∀ k q, (g.run as).positions.lookup k = some q → ∃ q', s'.positions.lookup k = some q' ∧
      q'.owner = q.owner ∧ q'.target = q.target ∧ (q' ≠ q → q.owner ∈ i.signers)) ∧
    (∀ k q', s'.positions.lookup k = some q' → (g.run as).positions.lookup k = none →
      q'.owner ∈ i.signers) ∧
    (∀ k m w, canSign w = true → (g.run as).bank.holder k = some (m, w) →
      s'.bank.balance k < (g.run as).bank.balance k → w ∈ i.signers) ∧
    (∀ p project, (g.run as).projects.lookup p = some project →
      s'.bank.balance project.usdcVault < (g.run as).bank.balance project.usdcVault →
      ProjectOutflow (g.run as) s' p project i) ∧
    (∀ p pool, (g.run as).pools.lookup p = some pool →
      s'.bank.balance pool.usdcVault < (g.run as).bank.balance pool.usdcVault →
      PoolOutflow (g.run as) s' p pool i) ∧
    ((∃ w ∈ i.signers, (g.run as).admin = some w) ∨ Ungoverned (g.run as) s') := by
  have wf := g.run_wf as
  have frame := step_frame wf st
  have positions := wf.signed_position (wf.step st) frame
  exact ⟨fun k => (positions k).1, fun k => (positions k).2,
    fun k m w signs held less => signed_debit wf st signs held less,
    fun p project own less => project_outflow wf (g.places as) st own less,
    fun p pool own less => pool_outflow wf st own less, frame.governed⟩

/-- The admin draws 99 from the vault of an active project. -/
theorem custody_demo : ∃ s' project,
    step (Genesis.blank.run Client.demoActive)
        (.call 0 (Client.demo.withdrawProjectFunds 1 99 (.ata (.wallet 0) (.wallet 1)))) = .ok s' ∧
      ProjectOutflow (Genesis.blank.run Client.demoActive) s' (Client.project 1) project
        (Client.demo.withdrawProjectFunds 1 99 (.ata (.wallet 0) (.wallet 1))) := by
  have done : (Genesis.blank.run Client.demoActive).errorOf (.call 0
      (Client.demo.withdrawProjectFunds 1 99 (.ata (.wallet 0) (.wallet 1)))) = none := by
    decide +kernel
  have held : ((Genesis.blank.run Client.demoActive).projects.lookup (Client.project 1)).map
      Project.usdcVault = some (Client.demo.usdcOf (Client.project 1)) := by decide +kernel
  have drawn : (Genesis.blank.run (Client.demoActive ++ [.call 0
      (Client.demo.withdrawProjectFunds 1 99 (.ata (.wallet 0) (.wallet 1)))])).bank.balance
        (Client.demo.usdcOf (Client.project 1))
      < (Genesis.blank.run Client.demoActive).bank.balance
        (Client.demo.usdcOf (Client.project 1)) := by decide +kernel
  generalize Client.demoActive = as at done held drawn ⊢
  obtain ⟨s', st⟩ := State.errorOf_eq_none.mp done
  obtain ⟨project, own, vault⟩ := Option.map_eq_some_iff.mp held
  have reached : Runs.run step (Genesis.blank.run as) [.call 0
      (Client.demo.withdrawProjectFunds 1 99 (.ata (.wallet 0) (.wallet 1)))] = s' := Runs.next_ok st
  rw [Genesis.run_append, reached, ← vault] at drawn
  exact ⟨s', project, st, (custody Genesis.blank as _ _ _ st).2.2.2.1 _ _ own drawn⟩

end Exira
