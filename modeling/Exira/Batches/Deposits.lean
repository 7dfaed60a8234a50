import Exira.Calls.Accepted
import Exira.Lib.Batch
import Exira.Lib.Posting

/-!
# Deposits

What purchases and distributions have in common: a signer pays into the vault of a target, and its record counts
what came in; a purchase moreover mints tokens to the buyer, whose position grows. `Deposit.Paid` says so table
by table, as updates of single keys that do not depend on what came before, so that two deposits commute
(`Deposit.Paid.comm`).
-/

namespace Exira

variable {K : Type} [DecidableEq K] [Addresses K]

/-! ## Deposits of a client -/

/-- A sale, with the accumulator that a new position starts from, or a distribution. -/
inductive Purpose where
  | sale (index : U128)
  | repayment

/-- A payment into the vault of a target. -/
structure Deposit (K : Type) where
  purpose : Purpose
  target : Target K
  mint : K
  vault : K
  payer : K
  source : K
  amount : U64

namespace Deposit

/-- The instruction of a client for a deposit. -/
def instruction (usdc : K) (d : Deposit K) : Instruction K :=
  match d.purpose, d.target with
  | .sale _, .project p =>
    .buyProjectTokens ⟨p, d.mint, d.vault, d.payer, d.source, associatedToken d.payer d.mint,
      Client.position p d.payer, usdc⟩ d.amount
  | .sale _, .pool p =>
    .buyPoolTokens ⟨p, d.mint, d.vault, d.payer, d.source, associatedToken d.payer d.mint,
      Client.position p d.payer, usdc⟩ d.amount
  | .repayment, .project p =>
    .distributeRepayment ⟨Client.platform, d.payer, p, d.source, d.vault, usdc⟩ d.amount
  | .repayment, .pool p =>
    .distributePoolReturns ⟨Client.platform, d.payer, p, d.source, d.vault, usdc⟩ d.amount

/-! ## What a deposit changes -/

/-- What a distribution adds to the accumulator. -/
def growth (sold amount : U64) : U128 :=
  .ofNat 128 (amount.toNat * PRECISION.toNat / sold.toNat)

variable (d : Deposit K)

/-- What a deposit makes of the project at a key. -/
def onProject (k : K) (o : Option (Project K)) : Option (Project K) :=
  if d.target = .project k then
    o.map fun project => match d.purpose with
      | .sale _ => { project with tokensSold := project.tokensSold + d.amount }
      | .repayment => { project with
          cumulativeUsdcPerToken := project.cumulativeUsdcPerToken + growth project.tokensSold d.amount
          totalDistributed := project.totalDistributed + d.amount
          status := if project.status = .active then .repaying else project.status }
  else
    o

/-- What a deposit makes of the pool at a key. -/
def onPool (k : K) (o : Option (Pool K)) : Option (Pool K) :=
  if d.target = .pool k then
    o.map fun pool => match d.purpose with
      | .sale _ => { pool with tokensSold := pool.tokensSold + d.amount }
      | .repayment => { pool with
          cumulativeUsdcPerToken := pool.cumulativeUsdcPerToken + growth pool.tokensSold d.amount
          totalDistributed := pool.totalDistributed + d.amount }
  else
    o

/-- The position of the buyer, opened when there is none. -/
def onPosition (k : K) (o : Option (InvestorPosition K)) : Option (InvestorPosition K) :=
  match d.purpose with
  | .sale index =>
    if k = Client.position d.target.key d.payer then
      -- the baseline of an open position stays
      let position := openPosition (o.getD .zeroed) d.payer d.target.key index
      some { position with tokensHeld := position.tokensHeld + d.amount }
    else
      o
  | .repayment => o

/-- The USDC moves into the vault; a buyer gets tokens, in an account that may be new. -/
def posting : Token.Posting K :=
  match d.purpose with
  | .sale _ =>
    ((Token.Posting.opens (associatedToken d.payer d.mint) d.mint d.payer).append
      (.transfers d.source d.vault d.amount)).append (.mints d.mint (associatedToken d.payer d.mint) d.amount)
  | .repayment => .transfers d.source d.vault d.amount

/-- The amounts of a target after a deposit. -/
def on (l : Listing K) : Listing K :=
  match d.purpose with
  | .sale _ => { l with sold := l.sold + d.amount.toNat }
  | .repayment => { l with
      distributed := l.distributed + d.amount.toNat
      index := l.index + d.amount.toNat * PRECISION.toNat / l.sold
      status := d.target.layer.repaid l.status }

/-- The state `s'` is `s` after the deposit. -/
structure Paid (s s' : State K) : Prop where
  projects : Finmap.Updates d.onProject s.projects s'.projects
  pools : Finmap.Updates d.onPool s.pools s'.pools
  positions : Finmap.Updates d.onPosition s.positions s'.positions
  bank : s.bank.Posts d.posting s'.bank
  rest : s' = { s with projects := s'.projects, pools := s'.pools, positions := s'.positions, bank := s'.bank }

end Deposit

section
variable {s s' s₁ s₂ s₁' s₂' : State K} {d e : Deposit K} {p w : K} {n : U64} {now : Int64}

/-! ## One instruction -/

omit [DecidableEq K] [Addresses K] in
/-- The sums of an accumulation. -/
lemma accumulate_sums {cumulative cumulative' : U128} {distributed distributed' sold : U64}
    (h : accumulate cumulative distributed sold n = .ok (cumulative', distributed')) :
    cumulative' = cumulative + Deposit.growth sold n ∧ distributed' = distributed + n := by
  obtain ⟨index, total⟩ := accumulate_ok h
  have fits := cumulative'.isLt
  have fits' := distributed'.isLt
  constructor
  · apply BitVec.eq_of_toNat_eq
    rw [BitVec.toNat_add, Deposit.growth, BitVec.toNat_ofNat, Nat.add_mod_mod, index, Nat.mod_eq_of_lt]
    rwa [index] at fits
  · apply BitVec.eq_of_toNat_eq
    rw [BitVec.toNat_add, total, Nat.mod_eq_of_lt]
    rwa [total] at fits'

omit [DecidableEq K] [Addresses K] in
/-- A word is a sum when its value is the sum of the values. -/
lemma eq_add_of_toNat {a b c : U64} (h : c.toNat = a.toNat + b.toNat) : c = a + b := by
  have fits := c.isLt
  apply BitVec.eq_of_toNat_eq
  rw [BitVec.toNat_add, h, Nat.mod_eq_of_lt]
  rwa [h] at fits

/-- The bank of a purchase. -/
lemma posts_sale {k mint vault src : K} {b b₁ b₂ : Token.Bank K}
    (ensured : ensureAssociatedToken s k w mint = .ok b) (paid : b.transfer src vault w n = .ok b₁)
    (minted : b₁.mintTo mint k p n = .ok b₂) :
    s.bank.Posts (((Token.Posting.opens k mint w).append (.transfers src vault n)).append (.mints mint k n))
      b₂ := by
  have opened : s.bank.Posts (.opens k mint w) b := by
    rcases (ensureAssociatedToken_ok ensured).2 with founded | ⟨rfl, held⟩
    · exact .initAccount founded
    · exact .opened held
  exact (opened.trans (.transfer paid)).trans (.mintTo minted)

/-- The position of a purchase. -/
lemma updates_sale {t : Target K} {mint vault src k : K} {index : U128} {q : InvestorPosition K} {held : U64}
    (made : ensurePosition s k t.key w = .ok q)
    (sum : held.toNat = (openPosition q w t.key index).tokensHeld.toNat + n.toNat) :
    Finmap.Updates (Deposit.onPosition ⟨.sale index, t, mint, vault, w, src, n⟩) s.positions
      (s.positions.insert k { openPosition q w t.key index with tokensHeld := held }) := by
  obtain ⟨place, found⟩ := ensurePosition_ok made
  have place : k = Client.position t.key w := place
  have q_eq : (s.positions.lookup k).getD .zeroed = q := by
    rcases found with ⟨fresh, rfl⟩ | held
    · rw [fresh, Option.getD_none]
    · rw [held, Option.getD_some]
  apply Finmap.Updates.write
  · show (if k = Client.position t.key w then _ else _) = _
    rw [if_pos place, q_eq, eq_add_of_toNat sum]
  · intro x other
    show (if x = Client.position t.key w then _ else _) = _
    rw [if_neg fun same => other (same.trans place.symm)]

/-- A purchase of project tokens is a deposit. -/
lemma buyProjectTokens_paid {a : BuyProjectTokens K} {project : Project K}
    (own : s.projects.lookup a.project = some project) (h : buyProjectTokens s a n = .ok s') :
    Deposit.Paid ⟨.sale project.cumulativeUsdcPerToken, .project a.project, a.tokenMint, a.usdcVault, a.investor,
      a.investorUsdcAta, n⟩ s s' := by
  obtain ⟨done, rfl⟩ := buyProjectTokens_ok.mp h
  have own' := done.own
  have ensured := done.ensured
  have minted := done.minted
  cases own.symm.trans own'
  have place := (ensureAssociatedToken_ok ensured).1
  refine ⟨.write ?_ ?_, .keep ?_, updates_sale (t := .project a.project) done.made done.holds, ?_, rfl⟩
  · show (if _ then _ else _) = _
    rw [if_pos rfl, own, eq_add_of_toNat done.sells]
    rfl
  · intro x other
    exact if_neg fun same => other (Target.project.inj same).symm
  · intro x
    exact if_neg (by rintro ⟨⟩)
  · rw [place] at ensured minted
    exact posts_sale ensured done.paid minted

/-- A purchase of pool tokens is a deposit. -/
lemma buyPoolTokens_paid {a : BuyPoolTokens K} {pool : Pool K} (own : s.pools.lookup a.pool = some pool)
    (h : buyPoolTokens s a n = .ok s') :
    Deposit.Paid ⟨.sale pool.cumulativeUsdcPerToken, .pool a.pool, a.poolTokenMint, a.usdcVault, a.investor,
      a.investorUsdcAta, n⟩ s s' := by
  obtain ⟨done, rfl⟩ := buyPoolTokens_ok.mp h
  have own' := done.own
  have ensured := done.ensured
  have minted := done.minted
  cases own.symm.trans own'
  have place := (ensureAssociatedToken_ok ensured).1
  refine ⟨.keep ?_, .write ?_ ?_, updates_sale (t := .pool a.pool) done.made done.holds, ?_, rfl⟩
  · intro x
    exact if_neg (by rintro ⟨⟩)
  · show (if _ then _ else _) = _
    rw [if_pos rfl, own, eq_add_of_toNat done.sells]
    rfl
  · intro x other
    exact if_neg fun same => other (Target.pool.inj same).symm
  · rw [place] at ensured minted
    exact posts_sale ensured done.paid minted

/-- A repayment to a project is a deposit. -/
lemma distributeRepayment_paid {a : DistributeRepayment K} {mint : K}
    (h : distributeRepayment s a n = .ok s') :
    Deposit.Paid ⟨.repayment, .project a.project, mint, a.usdcVault, a.admin, a.adminUsdcAta, n⟩ s s' := by
  obtain ⟨done, rfl⟩ := distributeRepayment_ok.mp h
  obtain ⟨grown, total⟩ := accumulate_sums done.accrued
  refine ⟨.write ?_ ?_, .keep ?_, .keep fun _ => rfl, .transfer done.paid, rfl⟩
  · show (if _ then _ else _) = _
    rw [if_pos rfl, done.own, grown, total]
    rfl
  · intro x other
    exact if_neg fun same => other (Target.project.inj same).symm
  · intro x
    exact if_neg (by rintro ⟨⟩)

/-- A return to a pool is a deposit. -/
lemma distributePoolReturns_paid {a : DistributePoolReturns K} {mint : K}
    (h : distributePoolReturns s a n = .ok s') :
    Deposit.Paid ⟨.repayment, .pool a.pool, mint, a.usdcVault, a.admin, a.adminUsdcAta, n⟩ s s' := by
  obtain ⟨done, rfl⟩ := distributePoolReturns_ok.mp h
  obtain ⟨grown, total⟩ := accumulate_sums done.accrued
  refine ⟨.keep ?_, .write ?_ ?_, .keep fun _ => rfl, .transfer done.paid, rfl⟩
  · intro x
    exact if_neg (by rintro ⟨⟩)
  · show (if _ then _ else _) = _
    rw [if_pos rfl, done.own, grown, total]
    rfl
  · intro x other
    exact if_neg fun same => other (Target.pool.inj same).symm

end

/-! ## Two deposits -/

/-- Both are sales from one accumulator, or both are distributions. -/
inductive Purpose.Alike : Purpose → Purpose → Prop
  | sale {index} : Alike (.sale index) (.sale index)
  | repayment : Alike .repayment .repayment

/-- Two deposits that commute: of one target only when they are alike. -/
structure Deposit.Apart (d e : Deposit K) : Prop where
  keys : d.target.key = e.target.key → d.target = e.target
  alike : d.target = e.target → d.purpose.Alike e.purpose

section
variable {s s₁ s₂ s₁' s₂' : State K} {d e : Deposit K} {k : K}

namespace Deposit.Apart

omit [Addresses K] in
/-- Deposits that stay apart commute on a project. -/
lemma onProject_comm (apart : d.Apart e) (o : Option (Project K)) :
    e.onProject k (d.onProject k o) = d.onProject k (e.onProject k o) := by
  unfold onProject
  by_cases hd : d.target = .project k
  · by_cases he : e.target = .project k
    · rw [if_pos hd, if_pos he, if_pos hd, if_pos he]
      cases o with
      | none => rfl
      | some project =>
        have alike := apart.alike (hd.trans he.symm)
        generalize d.purpose = x at alike
        generalize e.purpose = y at alike
        cases alike with
        | sale => simp only [Option.map_some, add_right_comm _ d.amount]
        | repayment =>
          simp only [Option.map_some, add_right_comm _ d.amount, add_right_comm _ (growth _ d.amount)]
    · rw [if_neg he, if_neg he]
  · rw [if_neg hd, if_neg hd]

omit [Addresses K] in
/-- They commute on a pool. -/
lemma onPool_comm (apart : d.Apart e) (o : Option (Pool K)) :
    e.onPool k (d.onPool k o) = d.onPool k (e.onPool k o) := by
  unfold onPool
  by_cases hd : d.target = .pool k
  · by_cases he : e.target = .pool k
    · rw [if_pos hd, if_pos he, if_pos hd, if_pos he]
      cases o with
      | none => rfl
      | some pool =>
        have alike := apart.alike (hd.trans he.symm)
        generalize d.purpose = x at alike
        generalize e.purpose = y at alike
        cases alike with
        | sale => simp only [Option.map_some, add_right_comm _ d.amount]
        | repayment =>
          simp only [Option.map_some, add_right_comm _ d.amount, add_right_comm _ (growth _ d.amount)]
    · rw [if_neg he, if_neg he]
  · rw [if_neg hd, if_neg hd]

/-- They commute on a position. -/
lemma onPosition_comm (apart : d.Apart e) (o : Option (InvestorPosition K)) :
    e.onPosition k (d.onPosition k o) = d.onPosition k (e.onPosition k o) := by
  unfold onPosition
  cases hd : d.purpose with
  | repayment => rfl
  | sale i =>
    cases he : e.purpose with
    | repayment => rfl
    | sale j =>
      by_cases kd : k = Client.position d.target.key d.payer
      · by_cases ke : k = Client.position e.target.key e.payer
        · -- a purchase of the same wallet in the same target
          obtain ⟨keys, payers⟩ := position_inj (kd.symm.trans ke)
          have targets := apart.keys keys
          have alike := apart.alike targets
          rw [hd, he] at alike
          cases alike
          simp only [if_pos kd, Option.getD_some, ← payers, ← keys]
          unfold openPosition
          split_ifs <;> simp [add_right_comm _ d.amount]
        · simp only [if_neg ke]
      · simp only [if_neg kd]

end Deposit.Apart

/-- The tokens of two purchases may be opened in one account. -/
lemma Deposit.posting_comm (d e : Deposit K) : d.posting.append e.posting = e.posting.append d.posting := by
  ext1
  · funext k
    unfold posting
    cases d.purpose with
    | repayment => cases e.purpose <;> simp [Token.Posting.append, Token.Posting.transfers]
    | sale =>
      cases e.purpose with
      | repayment => simp [Token.Posting.append, Token.Posting.transfers]
      | sale =>
        simp only [Token.Posting.append, Token.Posting.transfers, Token.Posting.mints, Token.Posting.opens,
          Option.or_none]
        split_ifs with kd ke
        · -- only the account of one wallet for one mint is at both addresses
          obtain ⟨payers, mints⟩ := Addresses.associatedToken_inj (kd.symm.trans ke)
          rw [payers, mints]
        all_goals rfl
  · exact add_comm _ _
  · exact add_comm _ _

/-- Two deposits that commute end in the same state. -/
theorem Deposit.Paid.comm (apart : d.Apart e) (h : d.Paid s s₁) (h' : e.Paid s₁ s₂) (g : e.Paid s s₁')
    (g' : d.Paid s₁' s₂') : s₂ = s₂' := by
  have projects := h.projects.swap h'.projects g.projects g'.projects fun _ => apart.onProject_comm _
  have pools := h.pools.swap h'.pools g.pools g'.pools fun _ => apart.onPool_comm _
  have positions := h.positions.swap h'.positions g.positions g'.positions fun _ => apart.onPosition_comm _
  have posts := h.bank.trans h'.bank
  rw [posting_comm] at posts
  have bank := posts.unique (g.bank.trans g'.bank)
  rw [h'.rest, g'.rest, projects, pools, positions, bank, h.rest, g.rest]

end

end Exira
