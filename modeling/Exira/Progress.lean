import Exira.Books.Tokens
import Exira.Frame

/-!
# Instructions that go through

When a client's instruction succeeds. The accounts are distinct since targets, mints and positions hold no
tokens, and a vault belongs to no wallet; the token program is paid; and no counter overflows.
-/

namespace Exira

variable {K : Type} [DecidableEq K] [Addresses K] {s : State K} {t : Target K} {l : Listing K}
  {k m w usdc : K}

/-! ## Distinct accounts -/

omit [Addresses K] in
/-- A key without an account is none that has one. -/
lemma ne_of_holder_none {b : Token.Bank K} {k₀ : K} {x : K × K} (free : b.holder k₀ = none)
    (held : b.holder k = some x) : k₀ ≠ k := by
  rintro rfl
  rw [free] at held
  cases held

/-- The key of a target is not that of its mint. -/
lemma Listed.key_ne_mint {b : Token.Bank K} (h : Listed b t l) (signs : canSign l.mint = true) :
    t.key ≠ l.mint := by
  rw [h.key_find]
  exact (ne_findProgramAddress signs _).symm

/-- The key of a target is not that of its vault. -/
lemma Listed.key_ne_vault {b : Token.Bank K} (h : Listed b t l) : t.key ≠ l.vault := by
  obtain ⟨usdc, -, place, -⟩ := h.vault
  rw [place, h.key_find]
  exact (associatedToken_ne_find _ _ _).symm

/-- The key of a target is not that of a position. -/
lemma Listed.key_ne_position {b : Token.Bank K} (h : Listed b t l) (p w : K) :
    t.key ≠ Client.position p w := by
  intro e
  have seeds := findProgramAddress_inj (h.key_find.symm.trans e)
  have layer := h.layer
  rw [seeds] at layer
  cases layer

/-- The mint of a target is not its vault. -/
lemma Listed.mint_ne_vault {b : Token.Bank K} (h : Listed b t l) (signs : canSign l.mint = true) :
    l.mint ≠ l.vault := by
  obtain ⟨usdc, -, place, -⟩ := h.vault
  rw [place]
  exact ne_associatedToken signs _ _

/-- The accounts that an instruction of a target reads are there: its vault, its mint, and the mint of the
vault. -/
lemma Listed.accounts {b : Token.Bank K} (h : Listed b t l) (vault : b.holder l.vault = some (usdc, k)) :
    ∃ account mint usdcMint, b.accounts.lookup l.vault = some account ∧
      b.mints.lookup l.mint = some mint ∧ b.mints.lookup usdc = some usdcMint := by
  obtain ⟨account, found, -, -⟩ := Token.Bank.holder_eq_some vault
  obtain ⟨mint, mintFound, -⟩ := Option.map_eq_some_iff.mp h.minter
  obtain ⟨usdc', x, -, vault', exist⟩ := h.vault
  cases vault.symm.trans vault'
  obtain ⟨usdcMint, usdcFound, -⟩ := Option.map_eq_some_iff.mp exist
  exact ⟨account, mint, usdcMint, found, mintFound, usdcFound⟩

/-! ## Withdrawals -/

/-- The accounts of a withdrawal of `w` from the project at `p`, to the account `dest`, burning the tokens in
`source`. -/
def Client.withdrawal (usdc p : K) (project : Project K) (w source dest : K) : WithdrawInvestment K :=
  ⟨p, project.tokenMint, project.usdcVault, w, Client.position p w, source, dest, usdc⟩

/-- A withdrawal goes through when the tokens are there and the vault has the refund. -/
theorem withdrawal_goes (wf : s.Wf) (places : s.Places) {p source dest : K} {project : Project K}
    {q : InvestorPosition K} (own : s.projects.lookup p = some project)
    (vault : s.bank.holder project.usdcVault = some (usdc, p))
    (status : project.status = .funding) (held : s.positions.lookup (Client.position p w) = some q)
    (pos : 0 < q.tokensHeld.toNat) (tokens : s.bank.holder source = some (project.tokenMint, w))
    (enough : q.tokensHeld.toNat ≤ s.bank.balance source)
    (receiver : s.bank.holder dest = some (usdc, w))
    (sold : q.tokensHeld.toNat ≤ project.tokensSold.toNat)
    (covered : q.tokensHeld.toNat ≤ s.bank.balance project.usdcVault) (now : Int64) :
    ∃ s', step s (.call now (.withdrawInvestment
      (Client.withdrawal usdc p project w source dest))) = .ok s' := by
  have listed := wf.view.listed (State.listing_project own)
  have seated := places.seated (State.listing_project own)
  have placed := wf.view.placed held
  obtain ⟨target, owner⟩ := wf.position_of held
  have signs : canSign w = true := owner ▸ placed.signs
  have seeds : Client.position p w = createProgramAddress (.position p w) q.bump := by
    rw [placed.bump, target, owner]
    rfl
  obtain ⟨vaultAccount, mint, usdcMint, vaultFound, mintFound, usdcFound⟩ := listed.accounts vault
  obtain ⟨src, srcFound, srcMint, srcOwner⟩ := Token.Bank.holder_eq_some tokens
  obtain ⟨dst, dstFound, dstMint, dstOwner⟩ := Token.Bank.holder_eq_some receiver
  have freePosition := places.position held
  -- the two accounts of the wallet have different mints
  have apart : source ≠ dest := by
    rintro rfl
    injection Option.some.inj (tokens.symm.trans receiver) with mint
    exact seated.usdc vault mint.symm
  have notVault : source ≠ project.usdcVault := listed.ne_vault tokens signs
  have distinct : [p, project.tokenMint, project.usdcVault, Client.position p w, source, dest].Nodup := by
    simp only [List.nodup_cons, List.mem_cons, List.not_mem_nil, or_false, not_or, List.nodup_nil,
      and_true, not_false_iff]
    exact ⟨⟨listed.key_ne_mint seated.signs, listed.key_ne_vault, listed.key_ne_position p w,
        ne_of_holder_none seated.key tokens, ne_of_holder_none seated.key receiver⟩,
      ⟨listed.mint_ne_vault seated.signs, ne_findProgramAddress seated.signs _,
        ne_of_holder_none seated.mint tokens, ne_of_holder_none seated.mint receiver⟩,
      ⟨listed.vault_ne_position p w, notVault.symm, (listed.ne_vault receiver signs).symm⟩,
      ⟨ne_of_holder_none freePosition tokens, ne_of_holder_none freePosition receiver⟩, apart⟩
  -- the burn leaves the vault, which then covers the refund
  obtain ⟨b₁, burnt⟩ := Token.Bank.burn_ok wf.view.sound tokens listed.minter enough
  have books := Token.Bank.burn_balance burnt project.usdcVault
  rw [if_neg notVault.symm] at books
  obtain ⟨b₂, refunded⟩ := Token.Bank.transfer_ok (wf.view.sound.burn burnt)
    ((Token.Bank.burn_holder burnt _).trans vault) ((Token.Bank.burn_holder burnt _).trans receiver)
    (covered.trans_eq books.symm)
  obtain ⟨less, sub⟩ := BitVec.checkedSub_of_le sold
  have signed : ∀ k ∈ (Instruction.withdrawInvestment (Client.withdrawal usdc p project w source dest)).signers,
      canSign k = true := by
    simpa [Client.withdrawal, Instruction.signers] using signs
  exact ⟨_, step_of_handle signed (withdrawInvestment_ok.mpr ⟨{
    project, own, seeds := listed.key, mint := rfl, vault := rfl, tokenMint := mint, hasMint := mintFound
    account := vaultAccount, inVault := vaultFound, position := q, held, placed := seeds, owner
    investorTokenAta := src, source := srcFound, tokens := ⟨srcOwner, srcMint⟩
    investorUsdcAta := dst, dest := dstFound, usdc := ⟨dstOwner, dstMint⟩, usdcMint, exist := usdcFound
    distinct, status := .inl status, pos := BitVec.lt_def.mpr pos, burnt := b₁, burns := burnt, bank := b₂
    refunded, le := sold, sold := less, sells := (BitVec.checkedSub_eq_some.mp sub).2 }, rfl⟩)⟩

/-! ## Purchases -/

/-- `init_if_needed` of a position succeeds where nothing is, or where the position is. -/
lemma ensurePosition_total {p w : K}
    (free : s.Vacant (Client.position p w) ∨ Client.position p w ∈ s.positions) :
    ∃ q, ensurePosition s (Client.position p w) p w = .ok q := by
  unfold ensurePosition
  simp only [Except.bind_eq_ok, constraint_eq_ok, exists_const]
  split
  · exact ⟨_, rfl, rfl⟩
  · next taken =>
    obtain ⟨q, own⟩ := Option.isSome_iff_exists.mp
      (Finmap.lookup_isSome.mpr (free.resolve_left taken))
    exact ⟨q, rfl, load_eq_ok.mpr own⟩

/-- The account that a purchase pays from is not the one that it opens. -/
lemma State.Places.source_ne_ata (places : s.Places) {src : K} {b : Token.Bank K}
    (own : s.view.listing t = some l) (vault : s.bank.holder l.vault = some (usdc, k))
    (funds : s.bank.holder src = some (usdc, w))
    (ata : ensureAssociatedToken s (associatedToken w l.mint) w l.mint = .ok b) :
    src ≠ associatedToken w l.mint := by
  rintro rfl
  rcases (ensureAssociatedToken_ok ata).2 with made | ⟨-, found⟩
  · rw [Token.Bank.initAccount_free made] at funds
    cases funds
  · injection Option.some.inj (funds.symm.trans found) with mint
    exact (places.seated own).usdc vault mint

/-- The accounts that a purchase writes are distinct. -/
lemma State.Places.sale_accounts (places : s.Places) (wf : s.Wf) {src : K} {b : Token.Bank K}
    (own : s.view.listing t = some l) (vault : s.bank.holder l.vault = some (usdc, k))
    (funds : s.bank.holder src = some (usdc, w)) (signs : canSign w = true)
    (ata : ensureAssociatedToken s (associatedToken w l.mint) w l.mint = .ok b)
    (free : s.Vacant (Client.position t.key w) ∨ Client.position t.key w ∈ s.positions) :
    [t.key, l.mint, l.vault, src, associatedToken w l.mint, Client.position t.key w].Nodup := by
  have listed := wf.view.listed own
  have seated := places.seated own
  have freePosition : s.bank.holder (Client.position t.key w) = none := by
    rcases free with vacant | held
    · exact vacant.holder
    · obtain ⟨q, held⟩ := Finmap.mem_iff.mp held
      exact places.position held
  have keyAta : t.key ≠ associatedToken w l.mint := by
    rw [listed.key_find]
    exact (associatedToken_ne_find _ _ _).symm
  simp only [List.nodup_cons, List.mem_cons, List.not_mem_nil, or_false, not_or, List.nodup_nil,
    and_true, not_false_iff]
  exact ⟨⟨listed.key_ne_mint seated.signs, listed.key_ne_vault, ne_of_holder_none seated.key funds, keyAta,
      listed.key_ne_position _ w⟩,
    ⟨listed.mint_ne_vault seated.signs, ne_of_holder_none seated.mint funds,
      ne_associatedToken seated.signs _ _, ne_findProgramAddress seated.signs _⟩,
    ⟨(listed.ne_vault funds signs).symm, listed.vault_ne_ata signs _, listed.vault_ne_position _ w⟩,
    ⟨places.source_ne_ata own vault funds ata, (ne_of_holder_none freePosition funds).symm⟩,
    associatedToken_ne_find _ _ _⟩

/-- The common part of the two purchases: the accounts are there or made, the buyer pays, the tokens are
minted, and the position does not overflow. -/
lemma State.Wf.paySale (wf : s.Wf) {src : K} {n : U64} (own : s.view.listing t = some l)
    (sound : (s.view.fundOf t l).Sound) (supply : s.bank.supply l.mint ≤ l.sold)
    (vault : s.bank.holder l.vault = some (usdc, t.key))
    (free : s.Vacant (Client.position t.key w) ∨ Client.position t.key w ∈ s.positions)
    (room : l.sold + n.toNat < 2 ^ 64) (funds : s.bank.holder src = some (usdc, w))
    (enough : n.toNat ≤ s.bank.balance src) :
    ∃ b₀ q b₁ b₂, ensureAssociatedToken s (associatedToken w l.mint) w l.mint = .ok b₀ ∧
      ensurePosition s (Client.position t.key w) t.key w = .ok q ∧
      b₀.transfer src l.vault w n = .ok b₁ ∧
      b₁.mintTo l.mint (associatedToken w l.mint) t.key n = .ok b₂ ∧
      ∀ cumulative, ∃ held, (openPosition q w t.key cumulative).tokensHeld.checkedAdd n = some held := by
  have listed := wf.view.listed own
  obtain ⟨b₀, ata⟩ := wf.ensureAssociatedToken_total (w := w) listed.minter
  obtain ⟨founds, dest⟩ := ensureAssociatedToken_founds ata
  obtain ⟨q, ensured⟩ := ensurePosition_total free
  obtain ⟨b₁, paid⟩ := Token.Bank.transfer_ok (n := n) (founds.sound wf.view.sound) (founds.holder funds)
    (founds.holder vault) (enough.trans_eq (founds.balance src).symm)
  have fits : b₁.supply l.mint + n.toNat < 2 ^ 64 := by
    rw [Token.Bank.transfer_supply paid, founds.supply]
    exact (Nat.add_le_add_right supply _).trans_lt room
  obtain ⟨b₂, minted⟩ := Token.Bank.mintTo_ok ((founds.sound wf.view.sound).transfer paid)
    ((Token.Bank.transfer_holder paid _).trans dest)
    ((Token.Bank.transfer_minter paid _).trans (founds.minter listed.minter)) fits
  refine ⟨b₀, q, b₁, b₂, ata, ensured, paid, minted, ?_⟩
  intro cumulative
  have held := wf.view.purchase_held_le sound ensured cumulative
  exact BitVec.checkedAdd_of_lt ((Nat.add_le_add_right held _).trans_lt room)

/-- The accounts of a purchase of `w` in the project at `p`, paid from the account `src`. -/
def Client.projectSale (usdc p : K) (project : Project K) (w src : K) : BuyProjectTokens K :=
  ⟨p, project.tokenMint, project.usdcVault, w, src, associatedToken w project.tokenMint,
    Client.position p w, usdc⟩

/-- The accounts of a purchase of `w` in the pool at `p`, paid from the account `src`. -/
def Client.poolSale (usdc p : K) (pool : Pool K) (w src : K) : BuyPoolTokens K :=
  ⟨p, pool.poolTokenMint, pool.usdcVault, w, src, associatedToken w pool.poolTokenMint,
    Client.position p w, usdc⟩

/-- A purchase of project tokens goes through when there is room and the buyer can pay. -/
theorem buyProject_goes (wf : s.Wf) (places : s.Places) {p src : K} {project : Project K} {n : U64}
    (own : s.projects.lookup p = some project)
    (sound : (s.view.fundOf (.project p) project.listing).Sound)
    (supply : s.bank.supply project.tokenMint ≤ project.tokensSold.toNat)
    (vault : s.bank.holder project.usdcVault = some (usdc, p)) (signs : canSign w = true)
    (free : s.Vacant (Client.position p w) ∨ Client.position p w ∈ s.positions)
    (status : project.status = .funding) (pos : 0 < n.toNat)
    (room : project.tokensSold.toNat + n.toNat ≤ project.targetAmount.toNat)
    (funds : s.bank.holder src = some (usdc, w)) (enough : n.toNat ≤ s.bank.balance src) (now : Int64) :
    ∃ s', step s (.call now (.buyProjectTokens (Client.projectSale usdc p project w src) n))
      = .ok s' := by
  have listed := wf.view.listed (State.listing_project own)
  have fits := room.trans_lt project.targetAmount.isLt
  obtain ⟨b₀, q, b₁, b₂, ata, ensured, paid, minted, sum⟩ :=
    wf.paySale (State.listing_project own) sound supply vault free fits funds enough
  obtain ⟨held, sum⟩ := sum project.cumulativeUsdcPerToken
  obtain ⟨sold, total⟩ := BitVec.checkedAdd_of_lt (room.trans_lt project.targetAmount.isLt)
  have distinct := places.sale_accounts wf (State.listing_project own) vault funds signs ata free
  obtain ⟨vaultAccount, mint, usdcMint, vaultFound, mintFound, usdcFound⟩ := listed.accounts vault
  obtain ⟨account, found, accountMint, accountOwner⟩ := Token.Bank.holder_eq_some funds
  have signed : ∀ k ∈ (Instruction.buyProjectTokens (Client.projectSale usdc p project w src) n).signers,
      canSign k = true := by
    simpa [Client.projectSale, Instruction.signers] using signs
  exact ⟨_, step_of_handle signed (buyProjectTokens_ok.mpr ⟨{
    project, own, seeds := listed.key, mint := rfl, vault := rfl, tokenMint := mint, hasMint := mintFound
    account := vaultAccount, inVault := vaultFound, investorUsdcAta := account, found
    ata := ⟨accountOwner, accountMint⟩, usdcMint, exist := usdcFound, opened := b₀, ensured := ata
    position := q, made := ensured, distinct, pos := BitVec.lt_def.mpr pos, status, room, funded := b₁, paid
    bank := b₂, minted, held, holds := BitVec.checkedAdd_eq_some.mp sum, sold
    sells := BitVec.checkedAdd_eq_some.mp total }, rfl⟩)⟩

/-- A purchase of pool tokens goes through when there is room and the buyer can pay. -/
theorem buyPool_goes (wf : s.Wf) (places : s.Places) {p src : K} {pool : Pool K} {n : U64}
    (own : s.pools.lookup p = some pool)
    (sound : (s.view.fundOf (.pool p) pool.listing).Sound)
    (supply : s.bank.supply pool.poolTokenMint ≤ pool.tokensSold.toNat)
    (vault : s.bank.holder pool.usdcVault = some (usdc, p)) (signs : canSign w = true)
    (free : s.Vacant (Client.position p w) ∨ Client.position p w ∈ s.positions)
    (status : pool.status = .funding) (pos : 0 < n.toNat)
    (room : pool.tokensSold.toNat + n.toNat ≤ pool.targetAmount.toNat)
    (funds : s.bank.holder src = some (usdc, w)) (enough : n.toNat ≤ s.bank.balance src) (now : Int64) :
    ∃ s', step s (.call now (.buyPoolTokens (Client.poolSale usdc p pool w src) n)) = .ok s' := by
  have listed := wf.view.listed (State.listing_pool own)
  have fits := room.trans_lt pool.targetAmount.isLt
  obtain ⟨b₀, q, b₁, b₂, ata, ensured, paid, minted, sum⟩ :=
    wf.paySale (State.listing_pool own) sound supply vault free fits funds enough
  obtain ⟨held, sum⟩ := sum pool.cumulativeUsdcPerToken
  obtain ⟨sold, total⟩ := BitVec.checkedAdd_of_lt (room.trans_lt pool.targetAmount.isLt)
  have distinct := places.sale_accounts wf (State.listing_pool own) vault funds signs ata free
  obtain ⟨vaultAccount, mint, usdcMint, vaultFound, mintFound, usdcFound⟩ := listed.accounts vault
  obtain ⟨account, found, accountMint, accountOwner⟩ := Token.Bank.holder_eq_some funds
  have signed : ∀ k ∈ (Instruction.buyPoolTokens (Client.poolSale usdc p pool w src) n).signers,
      canSign k = true := by
    simpa [Client.poolSale, Instruction.signers] using signs
  exact ⟨_, step_of_handle signed (buyPoolTokens_ok.mpr ⟨{
    pool, own, seeds := listed.key, mint := rfl, vault := rfl, tokenMint := mint, hasMint := mintFound
    account := vaultAccount, inVault := vaultFound, investorUsdcAta := account, found
    ata := ⟨accountOwner, accountMint⟩, usdcMint, exist := usdcFound, opened := b₀, ensured := ata
    position := q, made := ensured, distinct, pos := BitVec.lt_def.mpr pos, status, room, funded := b₁, paid
    bank := b₂, minted, held, holds := BitVec.checkedAdd_eq_some.mp sum, sold
    sells := BitVec.checkedAdd_eq_some.mp total }, rfl⟩)⟩

/-! ## Distributions -/

/-- An amount can be scaled. -/
lemma scaled_lt (n : U64) : n.toNat * PRECISION.toNat < 2 ^ 128 := by
  have lt := n.isLt
  calc n.toNat * PRECISION.toNat < 2 ^ 64 * PRECISION.toNat := Nat.mul_lt_mul_of_pos_right lt (by decide)
    _ ≤ 2 ^ 128 := by decide

/-- While the index does not overflow, a distribution fails in its arithmetic for its total alone. -/
lemma accumulate_eq {cumulative : U128} {sold n : U64} (distributed : U64) (pos : 0 < sold.toNat)
    (index : cumulative.toNat + n.toNat * PRECISION.toNat / sold.toNat < 2 ^ 128) :
    ∃ c, accumulate cumulative distributed sold n =
      (distributed.checkedAdd n).okOr (.exira .mathOverflow) >>= fun d => .ok (c, d) := by
  obtain ⟨scaled, hs⟩ : ∃ scaled, (n.setWidth 128).checkedMul PRECISION = some scaled := by
    apply BitVec.checkedMul_of_lt
    rw [BitVec.toNat_setWidth_widen _ (by decide)]
    exact scaled_lt n
  have value := BitVec.checkedMul_eq_some.mp hs
  rw [BitVec.toNat_setWidth_widen _ (by decide)] at value
  obtain ⟨delta, hd⟩ : ∃ delta, scaled.checkedDiv (sold.setWidth 128) = some delta := by
    apply BitVec.checkedDiv_of_pos
    rwa [BitVec.toNat_setWidth_widen _ (by decide)]
  have quotient := (BitVec.checkedDiv_eq_some.mp hd).2
  rw [value, BitVec.toNat_setWidth_widen _ (by decide)] at quotient
  obtain ⟨c, hc⟩ := BitVec.checkedAdd_of_lt (a := cumulative) (b := delta) (by rw [quotient]; exact index)
  refine ⟨c, ?_⟩
  rw [accumulate, Except.bind_of_ok (Option.okOr_eq_ok.mpr hs), Except.bind_of_ok (Option.okOr_eq_ok.mpr hd),
    Except.bind_of_ok (Option.okOr_eq_ok.mpr hc)]
  rfl

/-- The index and the total of a distribution are computed when they do not overflow. -/
lemma accumulate_of {cumulative : U128} {distributed sold n : U64} (pos : 0 < sold.toNat)
    (index : cumulative.toNat + n.toNat * PRECISION.toNat / sold.toNat < 2 ^ 128)
    (fits : distributed.toNat + n.toNat < 2 ^ 64) :
    ∃ x, accumulate cumulative distributed sold n = .ok x := by
  obtain ⟨c, e⟩ := accumulate_eq distributed pos index
  obtain ⟨d, total⟩ := BitVec.checkedAdd_of_lt fits
  refine ⟨(c, d), ?_⟩
  rw [e, total]
  rfl

/-- The accounts that a payment of a wallet to a vault writes are distinct. -/
lemma State.Places.repay_accounts (places : s.Places) (wf : s.Wf) {src : K}
    (own : s.view.listing t = some l) (funds : s.bank.holder src = some (usdc, w))
    (signs : canSign w = true) : [t.key, src, l.vault].Nodup := by
  have listed := wf.view.listed own
  have seated := places.seated own
  simp only [List.nodup_cons, List.mem_cons, List.not_mem_nil, or_false, not_or, List.nodup_nil,
    and_true, not_false_iff]
  exact ⟨⟨ne_of_holder_none seated.key funds, listed.key_ne_vault⟩, listed.ne_vault funds signs⟩

/-- The accounts of a distribution of the admin to the project at `p`, paid from the account `src`. -/
def Client.repayment (c : Client K) (p : K) (project : Project K) (src : K) : DistributeRepayment K :=
  ⟨Client.platform, c.admin, p, src, project.usdcVault, c.usdc⟩

/-- The accounts of a distribution of the admin to the pool at `p`, paid from the account `src`. -/
def Client.poolReturn (c : Client K) (p : K) (pool : Pool K) (src : K) : DistributePoolReturns K :=
  ⟨Client.platform, c.admin, p, src, pool.usdcVault, c.usdc⟩

/-- The platform is the client's, and its admin is a wallet. -/
structure Client.Deployed (c : Client K) (s : State K) (platform : Platform K) : Prop where
  loaded : AdminOf s Client.platform c.admin platform
  usdc : platform.usdcMint = c.usdc
  treasury : platform.treasury = c.treasury
  signs : canSign c.admin = true

/-- A distribution to a project goes through when nothing overflows and the admin can pay. -/
theorem distributeProject_goes (wf : s.Wf) (places : s.Places) {c : Client K} {platform : Platform K}
    (deployed : c.Deployed s platform) {p src : K} {project : Project K} {n : U64}
    (own : s.projects.lookup p = some project)
    (vault : s.bank.holder project.usdcVault = some (c.usdc, p))
    (status : project.status = .active ∨ project.status = .repaying) (pos : 0 < n.toNat)
    (sold : 0 < project.tokensSold.toNat)
    (index : project.cumulativeUsdcPerToken.toNat
      + n.toNat * PRECISION.toNat / project.tokensSold.toNat < 2 ^ 128)
    (fits : project.totalDistributed.toNat + n.toNat < 2 ^ 64)
    (funds : s.bank.holder src = some (c.usdc, c.admin)) (enough : n.toNat ≤ s.bank.balance src)
    (now : Int64) :
    ∃ s', step s (.call now (.distributeRepayment (c.repayment p project src) n)) = .ok s' := by
  have listed := wf.view.listed (State.listing_project own)
  obtain ⟨⟨cumulative, distributed⟩, sums⟩ := accumulate_of sold index fits
  obtain ⟨b, paid⟩ := Token.Bank.transfer_ok wf.view.sound funds vault enough
  have distinct := places.repay_accounts wf (State.listing_project own) funds deployed.signs
  obtain ⟨vaultAccount, -, usdcMint, vaultFound, -, usdcFound⟩ := listed.accounts vault
  obtain ⟨account, found, accountMint, accountOwner⟩ := Token.Bank.holder_eq_some funds
  have signed : ∀ k ∈ (Instruction.distributeRepayment (c.repayment p project src) n).signers,
      canSign k = true := by
    simpa [Client.repayment, Instruction.signers] using deployed.signs
  exact ⟨_, step_of_handle signed (distributeRepayment_ok.mpr ⟨{
    platform, loaded := deployed.loaded, usdc := deployed.usdc, project, own, seeds := listed.key, vault := rfl
    adminUsdcAta := account, found, ata := ⟨accountOwner, accountMint⟩, account := vaultAccount
    inVault := vaultFound, mint := usdcMint, exist := usdcFound, distinct, pos := BitVec.lt_def.mpr pos
    status, sold := BitVec.lt_def.mpr sold, bank := b, paid, cumulative, distributed, accrued := sums }, rfl⟩)⟩

/-- A distribution to a pool goes through when nothing overflows and the admin can pay. -/
theorem distributePool_goes (wf : s.Wf) (places : s.Places) {c : Client K} {platform : Platform K}
    (deployed : c.Deployed s platform) {p src : K} {pool : Pool K} {n : U64}
    (own : s.pools.lookup p = some pool)
    (vault : s.bank.holder pool.usdcVault = some (c.usdc, p)) (pos : 0 < n.toNat)
    (sold : 0 < pool.tokensSold.toNat)
    (index : pool.cumulativeUsdcPerToken.toNat
      + n.toNat * PRECISION.toNat / pool.tokensSold.toNat < 2 ^ 128)
    (fits : pool.totalDistributed.toNat + n.toNat < 2 ^ 64)
    (funds : s.bank.holder src = some (c.usdc, c.admin)) (enough : n.toNat ≤ s.bank.balance src)
    (now : Int64) :
    ∃ s', step s (.call now (.distributePoolReturns (c.poolReturn p pool src) n)) = .ok s' := by
  have listed := wf.view.listed (State.listing_pool own)
  obtain ⟨⟨cumulative, distributed⟩, sums⟩ := accumulate_of sold index fits
  obtain ⟨b, paid⟩ := Token.Bank.transfer_ok wf.view.sound funds vault enough
  have distinct := places.repay_accounts wf (State.listing_pool own) funds deployed.signs
  obtain ⟨vaultAccount, -, usdcMint, vaultFound, -, usdcFound⟩ := listed.accounts vault
  obtain ⟨account, found, accountMint, accountOwner⟩ := Token.Bank.holder_eq_some funds
  have signed : ∀ k ∈ (Instruction.distributePoolReturns (c.poolReturn p pool src) n).signers,
      canSign k = true := by
    simpa [Client.poolReturn, Instruction.signers] using deployed.signs
  exact ⟨_, step_of_handle signed (distributePoolReturns_ok.mpr ⟨{
    platform, loaded := deployed.loaded, usdc := deployed.usdc, pool, own, seeds := listed.key, vault := rfl
    adminUsdcAta := account, found, ata := ⟨accountOwner, accountMint⟩, account := vaultAccount
    inVault := vaultFound, mint := usdcMint, exist := usdcFound, distinct, pos := BitVec.lt_def.mpr pos
    sold := BitVec.lt_def.mpr sold, bank := b, paid, cumulative, distributed, accrued := sums }, rfl⟩)⟩

/-! ## Activation -/

/-- The accounts that a payment from a vault writes are distinct. -/
lemma State.Places.payout_accounts (places : s.Places) (wf : s.Wf) {dest : K} {x : K × K}
    (own : s.view.listing t = some l) (receiver : s.bank.holder dest = some x) (apart : l.vault ≠ dest) :
    [t.key, l.vault, dest].Nodup := by
  have listed := wf.view.listed own
  have seated := places.seated own
  simp only [List.nodup_cons, List.mem_cons, List.not_mem_nil, or_false, not_or, List.nodup_nil,
    and_true, not_false_iff]
  exact ⟨⟨listed.key_ne_vault, ne_of_holder_none seated.key receiver⟩, apart⟩

/-- The fee of an activation is within the target. -/
lemma originationFee_le (target : ℕ) {feeBps : U16} (le : feeBps.toNat ≤ MAX_FEE_BPS.toNat) :
    target * feeBps.toNat / 10000 ≤ target := by
  have bound : target * feeBps.toNat ≤ target * 10000 := Nat.mul_le_mul_left _ le
  omega

/-- The fee of an activation is computed without an overflow. -/
lemma originationFee_of (target : U64) (feeBps : U16) : ∃ fee, originationFee target feeBps = .ok fee := by
  obtain ⟨scaled, hs⟩ : ∃ scaled, (target.setWidth 128).checkedMul (feeBps.setWidth 128) = some scaled := by
    apply BitVec.checkedMul_of_lt
    rw [BitVec.toNat_setWidth_widen _ (by decide), BitVec.toNat_setWidth_widen _ (by decide)]
    calc target.toNat * feeBps.toNat < 2 ^ 64 * 2 ^ 16 :=
          Nat.mul_lt_mul'' target.isLt feeBps.isLt
      _ ≤ 2 ^ 128 := by decide
  refine ⟨(scaled / 10000#128).setWidth 64, ?_⟩
  simp only [originationFee, Except.bind_eq_ok, Option.okOr_eq_ok]
  exact ⟨scaled, hs, rfl⟩

/-- The accounts of the activation of the project at `p`, with the treasury's account `dest`. -/
def Client.activation (c : Client K) (p : K) (project : Project K) (dest : K) : ActivateProject K :=
  ⟨Client.platform, c.admin, p, project.usdcVault, dest, c.treasury, c.usdc⟩

/-- The activation of a project that is sold out goes through when the vault has the fee. -/
theorem activate_goes (wf : s.Wf) (places : s.Places) {c : Client K} {platform : Platform K}
    (deployed : c.Deployed s platform) {p dest : K} {project : Project K}
    (own : s.projects.lookup p = some project)
    (vault : s.bank.holder project.usdcVault = some (c.usdc, p)) (status : project.status = .funding)
    (full : project.tokensSold = project.targetAmount)
    (covered : project.targetAmount.toNat * platform.originationFeeBps.toNat / 10000
      ≤ s.bank.balance project.usdcVault)
    (funds : s.bank.holder dest = some (c.usdc, c.treasury)) (apart : project.usdcVault ≠ dest)
    (now : Int64) :
    ∃ s', step s (.call now (.activateProject (c.activation p project dest))) = .ok s' := by
  have listed := wf.view.listed (State.listing_project own)
  have within := (wf.side.platforms _ _ deployed.loaded.own).2
  obtain ⟨fee, priced⟩ := originationFee_of project.targetAmount platform.originationFeeBps
  obtain ⟨b, paid⟩ : ∃ b, payFee s (c.activation p project dest) project fee = .ok b := by
    unfold payFee
    split
    · obtain ⟨b, paid⟩ := Token.Bank.transfer_ok wf.view.sound vault funds
        ((originationFee_ok priced within).trans_le covered)
      refine ⟨b, ?_⟩
      simp only [signWith, Except.bind_eq_ok, constraint_eq_ok, cpi_eq_ok, exists_const]
      exact ⟨listed.key, paid⟩
    · exact ⟨s.bank, rfl⟩
  have distinct := places.payout_accounts wf (State.listing_project own) funds apart
  obtain ⟨vaultAccount, -, usdcMint, vaultFound, -, usdcFound⟩ := listed.accounts vault
  obtain ⟨account, found, accountMint, accountOwner⟩ := Token.Bank.holder_eq_some funds
  have signed : ∀ k ∈ (Instruction.activateProject (c.activation p project dest)).signers, canSign k = true := by
    simpa [Client.activation, Instruction.signers] using deployed.signs
  exact ⟨_, step_of_handle signed (activateProject_ok.mpr ⟨{
    platform, loaded := deployed.loaded, treasury := deployed.treasury, usdc := deployed.usdc, project, own
    seeds := listed.key, vault := rfl, account := vaultAccount, inVault := vaultFound
    treasuryUsdcAta := account, found, ata := ⟨accountOwner, accountMint⟩, mint := usdcMint
    exist := usdcFound, distinct, status, full, fee, priced, bank := b, paid }, rfl⟩)⟩

/-! ## Payouts -/

/-- The accounts of a payout from the vault of the project at `p` to the account `dest`. -/
def Client.payout (c : Client K) (p : K) (project : Project K) (dest : K) : WithdrawProjectFunds K :=
  ⟨Client.platform, c.admin, p, project.usdcVault, dest, c.usdc⟩

/-- A payout goes through when the vault has the amount. -/
theorem payout_goes (wf : s.Wf) (places : s.Places) {c : Client K} {platform : Platform K}
    (deployed : c.Deployed s platform) {p dest : K} {project : Project K} {n : U64}
    (own : s.projects.lookup p = some project)
    (vault : s.bank.holder project.usdcVault = some (c.usdc, p)) (pos : 0 < n.toNat)
    (covered : n.toNat ≤ s.bank.balance project.usdcVault)
    (receiver : s.bank.holder dest = some (c.usdc, w)) (apart : project.usdcVault ≠ dest) (now : Int64) :
    ∃ s', step s (.call now (.withdrawProjectFunds (c.payout p project dest) n)) = .ok s' := by
  have listed := wf.view.listed (State.listing_project own)
  obtain ⟨b, paid⟩ := Token.Bank.transfer_ok wf.view.sound vault receiver covered
  have distinct := places.payout_accounts wf (State.listing_project own) receiver apart
  obtain ⟨vaultAccount, -, usdcMint, vaultFound, -, usdcFound⟩ := listed.accounts vault
  obtain ⟨account, found, accountMint, -⟩ := Token.Bank.holder_eq_some receiver
  have enough : n ≤ vaultAccount.amount :=
    BitVec.le_def.mpr (covered.trans_eq (Token.Bank.balance_eq vaultFound))
  have signed : ∀ k ∈ (Instruction.withdrawProjectFunds (c.payout p project dest) n).signers,
      canSign k = true := by
    simpa [Client.payout, Instruction.signers] using deployed.signs
  exact ⟨_, step_of_handle signed (withdrawProjectFunds_ok.mpr ⟨{
    platform, loaded := deployed.loaded, usdc := deployed.usdc, project, own, seeds := listed.key
    vault := rfl, usdcVault := vaultAccount, inVault := vaultFound, destination := account, found
    mint := accountMint, usdcMint, exist := usdcFound, distinct, pos := BitVec.lt_def.mpr pos
    covered := enough, bank := b, paid }, rfl⟩)⟩

/-! ## Closing -/

/-- An active project can be closed at any time. -/
theorem closeProject_goes (wf : s.Wf) {c : Client K} {platform : Platform K}
    (deployed : c.Deployed s platform) {p : K} {project : Project K}
    (own : s.projects.lookup p = some project)
    (status : project.status = .repaying ∨ project.status = .active) (now : Int64) :
    ∃ s', step s (.call now (.closeProject ⟨Client.platform, c.admin, p⟩)) = .ok s' := by
  have signed : ∀ k ∈ (Instruction.closeProject ⟨Client.platform, c.admin, p⟩).signers, canSign k = true := by
    simpa [Instruction.signers] using deployed.signs
  exact ⟨_, step_of_handle signed (closeProject_ok.mpr ⟨{
    platform, loaded := deployed.loaded, project, own
    seeds := (wf.view.listed (State.listing_project own)).key, status }, rfl⟩)⟩

/-! ## Creation -/

/-- The mint and the vault of a new target can be made where nothing is. -/
lemma State.founds {mint payer key vault usdc : K} {m : Token.Mint K} (signs : canSign mint = true)
    (paid : payer ≠ mint) (free : s.Vacant mint) (place : vault = associatedToken key usdc)
    (freeVault : s.Vacant vault)
    (exist : s.bank.mints.lookup usdc = some m) :
    ∃ b b', initMint s mint payer key = .ok b ∧
      initAssociatedToken { s with bank := b } vault key usdc = .ok b' := by
  have ne : vault ≠ mint := by
    rintro rfl
    exact ne_associatedToken signs _ _ place
  have ne' : usdc ≠ mint := by
    rintro rfl
    exact free.2.1 (Finmap.mem_of_lookup_eq_some exist)
  refine ⟨s.bank.putMint mint ⟨some key, 0, EXIRA_TOKEN_DECIMALS, some key⟩, ?_⟩
  apply Exists.intro
  simp only [initMint, initAssociatedToken, vacate, Token.Bank.initMint, Token.Bank.initAccount,
    Token.Bank.mint, Except.bind_eq_ok, constraint_eq_ok, cpi_eq_ok, Except.require_eq_ok,
    Option.okOr_eq_ok, exists_const]
  refine ⟨⟨paid, free, Finmap.lookup_eq_none.mpr free.2.1, rfl⟩, place, ⟨freeVault.1, ?_, freeVault.2.2⟩, ?_, m, ?_,
    rfl⟩
  · intro mem
    exact freeVault.2.1 ((Finmap.mem_insert.mp mem).resolve_left ne)
  · exact Finmap.lookup_eq_none.mpr freeVault.2.2
  · exact (Finmap.lookup_insert_of_ne _ ne').trans exist

section
variable {mint : K} {m : Token.Mint K} {id target : U64}

/-- A project can be created for an entry with a baseline, where nothing is. -/
theorem createProject_goes {c : Client K} {platform : Platform K} (deployed : c.Deployed s platform)
    {mrv : K} {entry : MrvProject} {term : U8} (found : s.mrvProjects.lookup mrv = some entry)
    (gate : entry.baselineSubmitted = true) (exist : s.bank.mints.lookup c.usdc = some m)
    (free : s.Vacant (Client.project id)) (signs : canSign mint = true) (paid : c.admin ≠ mint)
    (freeMint : s.Vacant mint) (freeVault : s.Vacant (c.usdcOf (Client.project id))) (pos : 0 < target)
    (terms : MIN_TERM_MONTHS ≤ term ∧ term ≤ MAX_TERM_MONTHS) (now : Int64) :
    ∃ s', step s (.call now (c.createProject id target term mrv mint)) = .ok s' := by
  obtain ⟨b, b', minted, founded⟩ := State.founds signs paid freeMint rfl freeVault exist
  have signed : ∀ k ∈ (c.createProject id target term mrv mint).signers, canSign k = true := by
    simpa [Client.createProject, Instruction.signers] using And.intro deployed.signs signs
  exact ⟨_, step_of_handle signed (createProject_ok.mpr ⟨{
    platform, loaded := deployed.loaded, usdc := deployed.usdc, mrvProject := entry, found, gate, mint := m
    exist, place := rfl, vacant := free, minted := b, mints := minted, bank := b', founded, pos
    term := terms }, rfl⟩)⟩

/-- A pool can be created where nothing is. -/
theorem createPool_goes {c : Client K} {platform : Platform K} (deployed : c.Deployed s platform)
    (exist : s.bank.mints.lookup c.usdc = some m) (free : s.Vacant (Client.pool id))
    (signs : canSign mint = true) (paid : c.admin ≠ mint) (freeMint : s.Vacant mint)
    (freeVault : s.Vacant (c.usdcOf (Client.pool id))) (pos : 0 < target) (now : Int64) :
    ∃ s', step s (.call now (c.createPool id target mint)) = .ok s' := by
  obtain ⟨b, b', minted, founded⟩ := State.founds signs paid freeMint rfl freeVault exist
  have signed : ∀ k ∈ (c.createPool id target mint).signers, canSign k = true := by
    simpa [Client.createPool, Instruction.signers] using And.intro deployed.signs signs
  exact ⟨_, step_of_handle signed (createPool_ok.mpr ⟨{
    platform, loaded := deployed.loaded, usdc := deployed.usdc, mint := m, exist, place := rfl
    vacant := free, minted := b, mints := minted, bank := b', founded, pos }, rfl⟩)⟩

end

end Exira
