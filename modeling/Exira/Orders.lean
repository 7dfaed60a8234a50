import Exira.Fund.Agreement
import Exira.Standing

/-!
# Orders of a client

The instructions by which a wallet buys and claims and the admin distributes, for projects and for pools. A
successful one is the event of its order; an order that the fund takes goes through when its payer has what it
takes.
-/

namespace Exira

open Dividend

variable {K : Type} [DecidableEq K] [Addresses K]

/-! ## Orders on both layers -/

section
variable (c : Client K) (p : K)

/-- The instructions of a client for an order to the project at `p`, at any time, paid from any account. -/
inductive OnProject (project : Project K) : Order K → Action K → Prop
  | buy {now w src} {n : U64} : OnProject project (.buy w n.toNat)
      (.call now (.buyProjectTokens (Client.projectSale c.usdc p project w src) n))
  | distribute {now src} {n : U64} : OnProject project (.distribute n.toNat)
      (.call now (.distributeRepayment (c.repayment p project src) n))
  | claim {now w} : OnProject project (.claim w)
      (.call now (Client.claimProject c.usdc p project.usdcVault w))

/-- The instructions of a client for an order to the pool at `p`. -/
inductive OnPool (pool : Pool K) : Order K → Action K → Prop
  | buy {now w src} {n : U64} : OnPool pool (.buy w n.toNat)
      (.call now (.buyPoolTokens (Client.poolSale c.usdc p pool w src) n))
  | distribute {now src} {n : U64} : OnPool pool (.distribute n.toNat)
      (.call now (.distributePoolReturns (c.poolReturn p pool src) n))
  | claim {now w} : OnPool pool (.claim w)
      (.call now (Client.claimPool c.usdc p pool.usdcVault w))

end

/-- The payer's account is the payer's, and has what the attempt takes; a purchase for which there is no room
takes nothing. -/
def Funded (x : State K × Action K) : Prop :=
  match x.2 with
  | .call _ (.buyProjectTokens a n) =>
    x.1.bank.holder a.investorUsdcAta = some (a.usdcMint, a.investor) ∧
      ∀ project, x.1.projects.lookup a.project = some project →
        project.tokensSold.toNat + n.toNat ≤ project.targetAmount.toNat →
        n.toNat ≤ x.1.bank.balance a.investorUsdcAta
  | .call _ (.buyPoolTokens a n) =>
    x.1.bank.holder a.investorUsdcAta = some (a.usdcMint, a.investor) ∧
      ∀ pool, x.1.pools.lookup a.pool = some pool →
        pool.tokensSold.toNat + n.toNat ≤ pool.targetAmount.toNat →
        n.toNat ≤ x.1.bank.balance a.investorUsdcAta
  | .call _ (.distributeRepayment a n) =>
    x.1.bank.holder a.adminUsdcAta = some (a.usdcMint, a.admin) ∧
      n.toNat ≤ x.1.bank.balance a.adminUsdcAta
  | .call _ (.distributePoolReturns a n) =>
    x.1.bank.holder a.adminUsdcAta = some (a.usdcMint, a.admin) ∧
      n.toNat ≤ x.1.bank.balance a.adminUsdcAta
  | _ => True

/-- The wallet of a purchase signs. -/
def Order.Signed : Order K → Prop
  | .buy w _ => canSign w = true
  | _ => True

/-! ## One side -/

/-- What a successful attempt at an order does, whatever the layer. -/
structure Answered (s : State K) (t : Target K) (o : Order K) (x : Action K) : Prop where
  signed : o.Signed
  effect : x.effect s = .own t (o.event (Client.position t.key))

section
variable {g : Genesis K} {c : Client K} {t : Target K} {l₀ : Listing K} {s s' : State K}
  {f f' : Fund K} {o : Order K} {x : Action K} {p : K}

/-- An answered attempt is the order's event, and the order was one that the fund takes. -/
lemma Standing.answered (standing : Standing g c t l₀ s f) (st : step s x = .ok s')
    (answered : Answered s t o x) : f.Takes PRECISION.toNat (Client.position t.key) o ∧
      ∃ f', Standing g c t l₀ s' f' ∧ f.Step PRECISION.toNat (o.event (Client.position t.key)) f' := by
  obtain ⟨f', own', ev⟩ := step_own standing.wf st standing.fund answered.effect
  obtain ⟨index, distributed⟩ := State.fund_bounds own'
  exact ⟨ev.takes index distributed, f', standing.later st own', ev⟩

/-- What an instruction of a client to a project did. -/
lemma OnProject.answered {project : Project K} (on : OnProject c p project o x)
    (st : step s x = .ok s') : Answered s (.project p) o x := by
  cases on with
  | buy => exact ⟨(step_call st).1 _ (.head _), rfl⟩
  | distribute => exact ⟨trivial, rfl⟩
  | claim => exact ⟨trivial, rfl⟩

/-- What an instruction of a client to a pool did. -/
lemma OnPool.answered {pool : Pool K} (on : OnPool c p pool o x) (st : step s x = .ok s') :
    Answered s (.pool p) o x := by
  cases on with
  | buy => exact ⟨(step_call st).1 _ (.head _), rfl⟩
  | distribute => exact ⟨trivial, rfl⟩
  | claim => exact ⟨trivial, rfl⟩

/-! ## The accounts of an order that went through -/

/-- The platform account and the signer of an admin instruction that went through are the client's. -/
lemma Client.Deployed.loads {platform platform' : Platform K} (deployed : c.Deployed s platform) (wf : s.Wf)
    {k w : K} (loaded : AdminOf s k w platform') :
    k = Client.platform ∧ w = c.admin ∧ platform' = platform := by
  obtain ⟨own, -, admin⟩ := deployed.loaded
  obtain ⟨place, own', -⟩ := wf.side.platform loaded
  cases own.symm.trans own'
  exact ⟨place, loaded.admin.symm.trans admin, rfl⟩

/-- What is paid into a vault is the client's USDC. -/
lemma Standing.paid_in (standing : Standing g c t l₀ s f) {b b' : Token.Bank K} {src w m o : K} {n : U64}
    (ev : Evolves s.bank b) (held : b.holder src = some (m, o))
    (paid : b.transfer src l₀.vault w n = .ok b') : m = c.usdc := by
  obtain ⟨m', o', source, dest⟩ := Token.Bank.transfer_holders paid
  cases (ev.holder standing.vault).symm.trans dest
  cases held.symm.trans source
  rfl

/-- What is paid out of a vault is the client's USDC. -/
lemma Standing.paid_out (standing : Standing g c t l₀ s f) {b b' : Token.Bank K} {dest w m o : K} {n : U64}
    (ev : Evolves s.bank b) (held : b.holder dest = some (m, o))
    (paid : b.transfer l₀.vault dest w n = .ok b') : m = c.usdc := by
  obtain ⟨m', o', source, dest⟩ := Token.Bank.transfer_holders paid
  cases (ev.holder standing.vault).symm.trans source
  cases held.symm.trans dest
  rfl

variable {project₀ : Project K} {pool₀ : Pool K} {now : Int64} {n : U64}

/-- The accounts of a purchase that went through are the client's. -/
lemma Standing.buysProject (standing : Standing g c (.project p) project₀.listing s f)
    {a : BuyProjectTokens K} (target : a.project = p)
    (st : step s (.call now (.buyProjectTokens a n)) = .ok s') :
    OnProject c p project₀ (.buy a.investor n.toNat) (.call now (.buyProjectTokens a n)) := by
  subst target
  obtain ⟨project, own, mint, vault, -⟩ := standing.project
  obtain ⟨done, -⟩ := buyProjectTokens_ok.mp (step_call st).2
  have own' := done.own
  obtain ⟨owner, usdc⟩ := done.ata
  have paid := done.paid
  cases own.symm.trans own'
  obtain ⟨founds, -⟩ := ensureAssociatedToken_founds done.ensured
  have tokens : a.investorTokenAta = associatedToken a.investor project₀.tokenMint := by
    rw [(ensureAssociatedToken_ok done.ensured).1, ← done.mint, mint]
  have place := (ensurePosition_ok done.made).1
  rw [← done.vault, vault] at paid
  have paidUsdc := standing.paid_in founds.toEvolves (founds.holder (Token.Bank.holder_eq done.found)) paid
  have accounts : a = Client.projectSale c.usdc a.project project₀ a.investor a.investorUsdcAta := by
    obtain ⟨_, _, _, _, _, _, _, _⟩ := a
    simp only [Client.projectSale, BuyProjectTokens.mk.injEq, true_and]
    exact ⟨done.mint.symm.trans mint, done.vault.symm.trans vault, tokens, place, usdc.symm.trans paidUsdc⟩
  rw [accounts]
  exact .buy

/-- A purchase that goes through is an order on the pool. -/
lemma Standing.buysPool (standing : Standing g c (.pool p) pool₀.listing s f) {a : BuyPoolTokens K}
    (target : a.pool = p) (st : step s (.call now (.buyPoolTokens a n)) = .ok s') :
    OnPool c p pool₀ (.buy a.investor n.toNat) (.call now (.buyPoolTokens a n)) := by
  subst target
  obtain ⟨pool, own, mint, vault, -⟩ := standing.pool
  obtain ⟨done, -⟩ := buyPoolTokens_ok.mp (step_call st).2
  have own' := done.own
  obtain ⟨owner, usdc⟩ := done.ata
  have paid := done.paid
  cases own.symm.trans own'
  obtain ⟨founds, -⟩ := ensureAssociatedToken_founds done.ensured
  have tokens : a.investorPoolTokenAta = associatedToken a.investor pool₀.poolTokenMint := by
    rw [(ensureAssociatedToken_ok done.ensured).1, ← done.mint, mint]
  have place := (ensurePosition_ok done.made).1
  rw [← done.vault, vault] at paid
  have paidUsdc := standing.paid_in founds.toEvolves (founds.holder (Token.Bank.holder_eq done.found)) paid
  have accounts : a = Client.poolSale c.usdc a.pool pool₀ a.investor a.investorUsdcAta := by
    obtain ⟨_, _, _, _, _, _, _, _⟩ := a
    simp only [Client.poolSale, BuyPoolTokens.mk.injEq, true_and]
    exact ⟨done.mint.symm.trans mint, done.vault.symm.trans vault, tokens, place, usdc.symm.trans paidUsdc⟩
  rw [accounts]
  exact .buy

/-- The accounts of a distribution that went through are the client's. -/
lemma Standing.repaysProject (standing : Standing g c (.project p) project₀.listing s f)
    {a : DistributeRepayment K} (target : a.project = p)
    (st : step s (.call now (.distributeRepayment a n)) = .ok s') :
    OnProject c p project₀ (.distribute n.toNat) (.call now (.distributeRepayment a n)) := by
  subst target
  obtain ⟨project, own, -, vault, -⟩ := standing.project
  obtain ⟨platform, deployed⟩ := standing.deployed
  obtain ⟨done, -⟩ := distributeRepayment_ok.mp (step_call st).2
  have own' := done.own
  cases own.symm.trans own'
  obtain ⟨place, admin, rfl⟩ := deployed.loads standing.wf done.loaded
  have accounts : a = c.repayment a.project project₀ a.adminUsdcAta := by
    obtain ⟨_, _, _, _, _, _⟩ := a
    simp only [Client.repayment, DistributeRepayment.mk.injEq, true_and]
    exact ⟨place, admin, done.vault.symm.trans vault, done.usdc.symm.trans deployed.usdc⟩
  rw [accounts]
  exact .distribute

/-- A return that goes through is an order on the pool. -/
lemma Standing.repaysPool (standing : Standing g c (.pool p) pool₀.listing s f)
    {a : DistributePoolReturns K} (target : a.pool = p)
    (st : step s (.call now (.distributePoolReturns a n)) = .ok s') :
    OnPool c p pool₀ (.distribute n.toNat) (.call now (.distributePoolReturns a n)) := by
  subst target
  obtain ⟨pool, own, -, vault, -⟩ := standing.pool
  obtain ⟨platform, deployed⟩ := standing.deployed
  obtain ⟨done, -⟩ := distributePoolReturns_ok.mp (step_call st).2
  have own' := done.own
  cases own.symm.trans own'
  obtain ⟨place, admin, rfl⟩ := deployed.loads standing.wf done.loaded
  have accounts : a = c.poolReturn a.pool pool₀ a.adminUsdcAta := by
    obtain ⟨_, _, _, _, _, _⟩ := a
    simp only [Client.poolReturn, DistributePoolReturns.mk.injEq, true_and]
    exact ⟨place, admin, done.vault.symm.trans vault, done.usdc.symm.trans deployed.usdc⟩
  rw [accounts]
  exact .distribute

/-- The accounts of a claim that went through are the client's. -/
lemma Standing.claimsProject (standing : Standing g c (.project p) project₀.listing s f)
    {a : ClaimProjectReturns K} (target : a.project = p)
    (st : step s (.call now (.claimProjectReturns a)) = .ok s') :
    OnProject c p project₀ (.claim a.investor) (.call now (.claimProjectReturns a)) := by
  subst target
  obtain ⟨project, own, -, vault, -⟩ := standing.project
  obtain ⟨done, -⟩ := claimProjectReturns_ok.mp (step_call st).2
  have own' := done.own
  have paid := done.paid
  cases own.symm.trans own'
  obtain ⟨founds, holder⟩ := ensureAssociatedToken_founds done.ensured
  have place := standing.wf.position_place done.held done.placed
  rw [← done.vault, vault] at paid
  have usdc := standing.paid_out founds.toEvolves holder paid
  have ata : a.investorUsdcAta = associatedToken a.investor c.usdc := by
    rw [(ensureAssociatedToken_ok done.ensured).1, usdc]
  have accounts : a = ⟨a.project, project₀.usdcVault, a.investor, Client.position a.project a.investor,
      associatedToken a.investor c.usdc, c.usdc⟩ := by
    obtain ⟨_, _, _, _, _, _⟩ := a
    simp only [ClaimProjectReturns.mk.injEq, true_and]
    exact ⟨done.vault.symm.trans vault, place, ata, usdc⟩
  rw [accounts]
  exact .claim

/-- A claim that goes through is an order on the pool. -/
lemma Standing.claimsPool (standing : Standing g c (.pool p) pool₀.listing s f) {a : ClaimPoolReturns K}
    (target : a.pool = p) (st : step s (.call now (.claimPoolReturns a)) = .ok s') :
    OnPool c p pool₀ (.claim a.investor) (.call now (.claimPoolReturns a)) := by
  subst target
  obtain ⟨pool, own, -, vault, -⟩ := standing.pool
  obtain ⟨done, -⟩ := claimPoolReturns_ok.mp (step_call st).2
  have own' := done.own
  have paid := done.paid
  cases own.symm.trans own'
  obtain ⟨founds, holder⟩ := ensureAssociatedToken_founds done.ensured
  have place := standing.wf.position_place done.held done.placed
  rw [← done.vault, vault] at paid
  have usdc := standing.paid_out founds.toEvolves holder paid
  have ata : a.investorUsdcAta = associatedToken a.investor c.usdc := by
    rw [(ensureAssociatedToken_ok done.ensured).1, usdc]
  have accounts : a = Client.poolClaim c.usdc a.pool pool₀.usdcVault a.investor := by
    obtain ⟨_, _, _, _, _, _⟩ := a
    simp only [Client.poolClaim, ClaimPoolReturns.mk.injEq, true_and]
    exact ⟨done.vault.symm.trans vault, place, ata, usdc⟩
  rw [accounts]
  exact .claim

end

section
variable {g : Genesis K} {c : Client K} {t : Target K} {l₀ : Listing K} {s s' : State K}
  {f f' : Fund K} {o : Order K} {x : Action K} {p : K}

/-! ## Orders that go through -/

/-- A purchase that the fund takes goes through while a project is for sale. -/
lemma OnProject.buys {project₀ : Project K} {w : K} {n : ℕ}
    (standing : Standing g c (.project p) project₀.listing s f) (on : OnProject c p project₀ (.buy w n) x)
    (funding : f.status = .funding) (free : s.Free p w) (funded : Funded (s, x)) (signs : canSign w = true)
    (takes : f.Takes PRECISION.toNat (Client.position p) (.buy w n)) : ∃ s', step s x = .ok s' := by
  obtain ⟨project, own, mint, vault, rfl⟩ := standing.project
  have holder := standing.vault
  cases on with | @buy now w src n =>
  obtain ⟨pos, room⟩ := takes
  obtain ⟨funds, enough⟩ := funded
  have accounts : Client.projectSale c.usdc p project₀ w src = Client.projectSale c.usdc p project w src := by
    rw [Client.projectSale, Client.projectSale, mint, vault]
  rw [accounts]
  exact buyProject_goes standing.wf standing.places own standing.sound standing.minted
    (vault ▸ holder) signs free funding pos room funds (enough project own room) now

/-- A pool that counts as a project in funding is in funding. -/
lemma PoolStatus.toProject_funding {st : PoolStatus} (h : st.toProject = .funding) : st = .funding := by
  cases st with
  | funding => rfl
  | _ => cases h

/-- A purchase that the fund takes goes through. -/
lemma OnPool.buys {pool₀ : Pool K} {w : K} {n : ℕ}
    (standing : Standing g c (.pool p) pool₀.listing s f) (on : OnPool c p pool₀ (.buy w n) x)
    (funding : f.status = .funding) (free : s.Free p w) (funded : Funded (s, x)) (signs : canSign w = true)
    (takes : f.Takes PRECISION.toNat (Client.position p) (.buy w n)) : ∃ s', step s x = .ok s' := by
  obtain ⟨pool, own, mint, vault, rfl⟩ := standing.pool
  have holder := standing.vault
  cases on with | @buy now w src n =>
  obtain ⟨pos, room⟩ := takes
  obtain ⟨funds, enough⟩ := funded
  have accounts : Client.poolSale c.usdc p pool₀ w src = Client.poolSale c.usdc p pool w src := by
    rw [Client.poolSale, Client.poolSale, mint, vault]
  rw [accounts]
  exact buyPool_goes standing.wf standing.places own standing.sound standing.minted (vault ▸ holder) signs
    free (PoolStatus.toProject_funding funding) pos room funds (enough pool own room) now

/-- A distribution that the fund takes goes through once a project is active. -/
lemma OnProject.distributes {project₀ : Project K} {n : ℕ}
    (standing : Standing g c (.project p) project₀.listing s f) (on : OnProject c p project₀ (.distribute n) x)
    (repays : f.layer.Repays f.status) (funded : Funded (s, x))
    (takes : f.Takes PRECISION.toNat (Client.position p) (.distribute n)) : ∃ s', step s x = .ok s' := by
  obtain ⟨project, own, -, vault, rfl⟩ := standing.project
  obtain ⟨platform, deployed⟩ := standing.deployed
  have holder := standing.vault
  cases on with | @distribute now src n =>
  obtain ⟨pos, sold, index, fits⟩ := takes
  obtain ⟨funds, enough⟩ := funded
  have accounts : c.repayment p project₀ src = c.repayment p project src := by
    rw [Client.repayment, Client.repayment, vault]
  rw [accounts]
  exact distributeProject_goes standing.wf standing.places deployed own (vault ▸ holder) (repays rfl) pos sold
    index fits funds enough now

/-- A return that the fund takes goes through. -/
lemma OnPool.distributes {pool₀ : Pool K} {n : ℕ}
    (standing : Standing g c (.pool p) pool₀.listing s f) (on : OnPool c p pool₀ (.distribute n) x)
    (funded : Funded (s, x)) (takes : f.Takes PRECISION.toNat (Client.position p) (.distribute n)) :
    ∃ s', step s x = .ok s' := by
  obtain ⟨pool, own, -, vault, rfl⟩ := standing.pool
  obtain ⟨platform, deployed⟩ := standing.deployed
  have holder := standing.vault
  cases on with | @distribute now src n =>
  obtain ⟨pos, sold, index, fits⟩ := takes
  obtain ⟨funds, enough⟩ := funded
  have accounts : c.poolReturn p pool₀ src = c.poolReturn p pool src := by
    rw [Client.poolReturn, Client.poolReturn, vault]
  rw [accounts]
  exact distributePool_goes standing.wf standing.places deployed own (vault ▸ holder) pos sold index fits funds
    enough now

/-- A claim that the fund takes goes through when the vault covers it, and its counter does not overflow. -/
lemma OnProject.claims {project₀ : Project K} {w : K}
    (standing : Standing g c (.project p) project₀.listing s f) (on : OnProject c p project₀ (.claim w) x)
    (fits : ∀ h, f.holdings.lookup (Client.position p w) = some h →
      h.owed PRECISION.toNat f.index ≤ f.vault ∧ h.claimed + h.owed PRECISION.toNat f.index < 2 ^ 64)
    (takes : f.Takes PRECISION.toNat (Client.position p) (.claim w)) : ∃ s', step s x = .ok s' := by
  obtain ⟨project, own, -, vault, rfl⟩ := standing.project
  have holder := standing.vault
  cases on with | @claim now w =>
  obtain ⟨h, entry, pos⟩ := takes
  obtain ⟨q, held, target, rfl⟩ := View.lookup_holdings entry
  obtain ⟨covered, within⟩ := fits _ entry
  obtain ⟨usdc, holder', goes⟩ := claimProject_ok standing.wf own held target
    (standing.sound.ledger.settled _ _ entry) pos within covered
  rw [vault] at holder' goes
  cases holder.symm.trans holder'
  rw [(standing.wf.position_of held).2] at goes
  exact goes now

/-- A claim that the fund takes goes through. -/
lemma OnPool.claims {pool₀ : Pool K} {w : K}
    (standing : Standing g c (.pool p) pool₀.listing s f) (on : OnPool c p pool₀ (.claim w) x)
    (fits : ∀ h, f.holdings.lookup (Client.position p w) = some h →
      h.owed PRECISION.toNat f.index ≤ f.vault ∧ h.claimed + h.owed PRECISION.toNat f.index < 2 ^ 64)
    (takes : f.Takes PRECISION.toNat (Client.position p) (.claim w)) : ∃ s', step s x = .ok s' := by
  obtain ⟨pool, own, -, vault, rfl⟩ := standing.pool
  have holder := standing.vault
  cases on with | @claim now w =>
  obtain ⟨h, entry, pos⟩ := takes
  obtain ⟨q, held, target, rfl⟩ := View.lookup_holdings entry
  obtain ⟨covered, within⟩ := fits _ entry
  obtain ⟨usdc, holder', goes⟩ := claimPool_ok standing.wf own held target
    (standing.sound.ledger.settled _ _ entry) pos within covered
  rw [vault] at holder' goes
  cases holder.symm.trans holder'
  rw [(standing.wf.position_of held).2] at goes
  exact goes now

end

end Exira
