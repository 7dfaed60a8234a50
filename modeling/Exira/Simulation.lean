import Exira.Move

/-!
# Funds simulate views

Every move is, for each target, one event of its fund or nothing. Two things are shown of each move: its
effect on the fund it is an event of, and that it leaves the funds of all other targets alone. The second
is where the vaults, the mints and the positions of different targets have to be different.
-/

namespace Exira

open Dividend

/-- The fund after an event, or after none. -/
def Fund.After {ι : Type} [DecidableEq ι] (P : ℕ) (f : Fund ι) :
    Option (Event ι) → Option (Fund ι) → Prop
  | none, o => o = some f
  | some e, o => ∃ f', o = some f' ∧ f.Step P e f'

variable {K : Type} [DecidableEq K] [Addresses K] {v v' : View K} {t : Target K} {l : Listing K}

/-! ## Holdings after a position is written -/

/-- A position written at its place is a holding written. -/
lemma View.holdings_insert {w k₀ k : K} {q : InvestorPosition K} (placed : Placed k₀ w k q) :
    (v.positions.insert k q).filterMap (InvestorPosition.holdingOf k₀)
      = (v.holdings k₀).insert k q.holding := by
  apply Finmap.filterMap_insert_some
  rw [InvestorPosition.holdingOf, if_pos placed.target]

/-- It changes no holding of another target. -/
lemma View.Wf.holdings_insert_ne (wf : v.Wf) {w k₀ k₁ k : K} {q : InvestorPosition K}
    (placed : Placed k₀ w k q) (ne : k₀ ≠ k₁) :
    (v.positions.insert k q).filterMap (InvestorPosition.holdingOf k₁) = v.holdings k₁ := by
  apply Finmap.filterMap_insert_none
  · rw [InvestorPosition.holdingOf, placed.target, if_neg ne]
  · cases own : v.positions.lookup k with
    | none => rfl
    | some q₀ =>
      have target := wf.placed_target own placed
      rw [Option.bind_some, InvestorPosition.holdingOf, target, if_neg ne]

/-- The holding at the address of a position of the target. -/
lemma View.Wf.lookup_holdings (wf : v.Wf) {w k₀ k : K} {q : InvestorPosition K}
    (placed : Placed k₀ w k q) :
    (v.holdings k₀).lookup k = (v.positions.lookup k).map InvestorPosition.holding := by
  rw [View.holdings, Finmap.lookup_filterMap]
  cases own : v.positions.lookup k with
  | none => rfl
  | some q₀ =>
    have target := wf.placed_target own placed
    rw [Option.bind_some, InvestorPosition.holdingOf, if_pos target, Option.map_some]

/-! ## Funds that a move leaves alone -/

omit [Addresses K] in
/-- A fund is its listing, its holdings, its vault and its supply. -/
lemma View.fund_congr (own : v'.listing t = some l)
    (holdings : v'.holdings t.key = v.holdings t.key)
    (vault : v'.bank.balance l.vault = v.bank.balance l.vault)
    (supply : v'.bank.supply l.mint = v.bank.supply l.mint) :
    v'.fund t = some (v.fundOf t l) := by
  simp only [View.fund, own, Option.map_some, View.fundOf, holdings, vault, supply]

section
variable {t' : Target K} {l' : Listing K}

/-- Two listings have different keys. -/
lemma View.Wf.key_ne (wf : v.Wf) (own : v.listing t = some l) (own' : v.listing t' = some l')
    (ne : t' ≠ t) : t'.key ≠ t.key :=
  fun e => ne ((wf.listed own').target_inj (wf.listed own) e)

/-- Two listings have different vaults. -/
lemma View.Wf.vault_ne (wf : v.Wf) (own : v.listing t = some l) (own' : v.listing t' = some l')
    (ne : t' ≠ t) : l.vault ≠ l'.vault :=
  (wf.listed own).vault_ne (wf.listed own') ne.symm

/-- Two listings have different mints. -/
lemma View.Wf.mint_ne (wf : v.Wf) (own : v.listing t = some l) (own' : v.listing t' = some l')
    (ne : t' ≠ t) : l.mint ≠ l'.mint :=
  (wf.listed own).mint_ne (wf.listed own') ne.symm

end

/-- An account of a signer is not the vault, also after accounts were founded. -/
lemma View.Wf.vault_ne_holder (wf : v.Wf) (own : v.listing t = some l) {b : Token.Bank K}
    (ev : Evolves v.bank b) {k m w : K} (holder : b.holder k = some (m, w))
    (signs : canSign w = true) : l.vault ≠ k :=
  (((wf.listed own).evolves ev).ne_vault holder signs).symm

/-- The source of a transfer that a signer authorized is not the vault. -/
lemma View.Wf.vault_ne_source (wf : v.Wf) (own : v.listing t = some l) {b b' : Token.Bank K}
    (ev : Evolves v.bank b) {source dest w : K} {n : U64} (signs : canSign w = true)
    (run : b.transfer source dest w n = .ok b') : l.vault ≠ source := by
  obtain ⟨m, o, holder, -⟩ := Token.Bank.transfer_holders run
  exact wf.vault_ne_holder own ev holder signs

/-- A move of another target leaves a fund alone, but for a payment into its vault. -/
lemma Move.fund_other (wf : v.Wf) (own : v.listing t = some l) {t' : Target K} (ne : t' ≠ t)
    {ev : Event K} (mv : Move v (.own t' ev) v') : v'.fund t = some (v.fundOf t l) := by
  have other : ∀ {l₁ : Listing K}, Function.update v.listing t' (some l₁) t = some l := by
    intro l₁
    rw [Function.update_of_ne ne.symm, own]
  cases mv with
  | buy own' _ _ _ founds paid minted holder placed =>
    have ev₁ := founds.toEvolves.trans (.transfer paid)
    have ns := wf.vault_ne_source own founds.toEvolves placed.signs paid
    have nd := wf.vault_ne_holder own founds.toEvolves holder placed.signs
    refine View.fund_congr other (wf.holdings_insert_ne placed (wf.key_ne own own' ne)) ?_ ?_
    · rw [Token.Bank.mintTo_balance minted, if_neg nd,
        Token.Bank.transfer_balance_ne paid ns (wf.vault_ne own own' ne), founds.balance]
      rfl
    · rw [Token.Bank.mintTo_supply minted, if_neg (wf.mint_ne own own' ne),
        Token.Bank.transfer_supply paid, founds.supply]
      rfl
  | exit own' _ _ _ placed _ burnt refunded holder =>
    have ns := wf.vault_ne_holder own (.refl _) (Token.Bank.burn_holders burnt) placed.signs
    have nd := wf.vault_ne_holder own (.refl _) holder placed.signs
    have e₁ := Token.Bank.burn_balance burnt l.vault
    have e₂ := Token.Bank.burn_supply burnt l.mint
    rw [if_neg ns] at e₁
    rw [if_neg (wf.mint_ne own own' ne)] at e₂
    refine View.fund_congr other
      (wf.holdings_insert_ne (placed.hold 0) (wf.key_ne own own' ne)) ?_ ?_
    · rw [Token.Bank.transfer_balance_ne refunded (wf.vault_ne own own' ne) nd]
      exact e₁
    · rw [Token.Bank.transfer_supply refunded]
      exact e₂
  | claim own' _ _ _ founds paid holder placed =>
    have nd := wf.vault_ne_holder own founds.toEvolves holder placed.signs
    refine View.fund_congr own (wf.holdings_insert_ne placed (wf.key_ne own own' ne)) ?_ ?_
    · rw [Token.Bank.transfer_balance_ne paid (wf.vault_ne own own' ne) nd, founds.balance]
    · rw [Token.Bank.transfer_supply paid, founds.supply]
  | distribute own' signs _ _ _ paid =>
    have ns := wf.vault_ne_source own (.refl _) signs paid
    refine View.fund_congr other rfl ?_ (Token.Bank.transfer_supply paid _)
    exact Token.Bank.transfer_balance_ne paid ns (wf.vault_ne own own' ne)
  | close => exact View.fund_congr other rfl rfl rfl

/-! ## The fund of a move's own target -/

/-- A move of its own is a step of the fund. -/
lemma Move.fund_own (wf : v.Wf) (own : v.listing t = some l) {ev : Event K}
    (mv : Move v (.own t ev) v') :
    ∃ f', v'.fund t = some f' ∧ (v.fundOf t l).Step PRECISION.toNat ev f' := by
  cases mv with
  | @buy _ l' k w q source dest b₀ b₁ b₂ n own' pos status room founds paid minted holder placed
      holding =>
    obtain rfl : l = l' := Option.some.inj (own.symm.trans own')
    -- the buyer signs for the source, so the vault only gains
    have ns := wf.vault_ne_source own founds.toEvolves placed.signs paid
    have nd := wf.vault_ne_holder own founds.toEvolves holder placed.signs
    have vault : b₂.balance l.vault = v.bank.balance l.vault + n.toNat := by
      rw [Token.Bank.mintTo_balance minted, if_neg nd, Token.Bank.transfer_balance_dest paid ns,
        founds.balance, Nat.add_zero]
    have supply : b₂.supply l.mint = v.bank.supply l.mint + n.toNat := by
      rw [Token.Bank.mintTo_supply minted, if_pos rfl, Token.Bank.transfer_supply paid,
        founds.supply]
    refine ⟨_, View.fund_eq (Function.update_self ..), ?_⟩
    simp only [View.fundOf, View.holdings, View.holdings_insert placed, holding, vault, supply,
      ← wf.lookup_holdings placed]
    exact Fund.Step.buy (f := v.fundOf t l) status pos room
  | @exit _ l' k w q source dest m b₁ b₂ own' layer status held placed pos burnt refunded holder =>
    obtain rfl : l = l' := Option.some.inj (own.symm.trans own')
    have ns := wf.vault_ne_holder own (.refl _) (Token.Bank.burn_holders burnt) placed.signs
    have nd := wf.vault_ne_holder own (.refl _) holder placed.signs
    have e₁ := Token.Bank.burn_balance burnt l.vault
    have e₂ := Token.Bank.burn_supply burnt l.mint
    have e₃ := Token.Bank.transfer_balance_source refunded nd
    rw [if_neg ns] at e₁
    rw [if_pos rfl] at e₂
    -- the token program has refused what is not there
    have covered : q.tokensHeld.toNat ≤ v.bank.balance l.vault := by omega
    have existing : q.tokensHeld.toNat ≤ v.bank.supply l.mint := by omega
    have vault : b₂.balance l.vault = v.bank.balance l.vault - q.tokensHeld.toNat := by omega
    have supply : b₂.supply l.mint = v.bank.supply l.mint - q.tokensHeld.toNat := by
      rw [Token.Bank.transfer_supply refunded]
      omega
    have own₁ : (v.holdings t.key).lookup k = some q.holding := by
      rw [wf.lookup_holdings placed, held, Option.map_some]
    refine ⟨_, View.fund_eq (Function.update_self ..), ?_⟩
    simp only [View.fundOf, View.holdings, View.holdings_insert (placed.hold 0), vault, supply]
    exact Fund.Step.exit (f := v.fundOf t l) layer status own₁ pos covered existing
  | @claim _ l' k w q q' dest m b₀ b₁ n own' held pos owed founds paid holder placed holding =>
    obtain rfl : l = l' := Option.some.inj (own.symm.trans own')
    have nd := wf.vault_ne_holder own founds.toEvolves holder placed.signs
    have e := Token.Bank.transfer_balance_source paid nd
    rw [founds.balance] at e
    have vault : b₁.balance l.vault = v.bank.balance l.vault - n.toNat := by omega
    have covered : q.holding.owed PRECISION.toNat l.index ≤ v.bank.balance l.vault := by omega
    have supply : b₁.supply l.mint = v.bank.supply l.mint := by
      rw [Token.Bank.transfer_supply paid, founds.supply]
    have own₁ : (v.holdings t.key).lookup k = some q.holding := by
      rw [wf.lookup_holdings placed, held, Option.map_some]
    refine ⟨_, View.fund_eq own, ?_⟩
    simp only [View.fundOf, View.holdings, View.holdings_insert placed, holding, vault, supply, owed]
    exact Fund.Step.claim (f := v.fundOf t l) own₁ (owed ▸ pos) covered
  | @distribute _ l' w source b n own' signs status pos sold paid =>
    obtain rfl : l = l' := Option.some.inj (own.symm.trans own')
    have ns := wf.vault_ne_source own (.refl _) signs paid
    have vault := Token.Bank.transfer_balance_dest paid ns
    have supply := Token.Bank.transfer_supply paid l.mint
    refine ⟨_, View.fund_eq (Function.update_self ..), ?_⟩
    simp only [View.fundOf, View.holdings, vault, supply]
    exact Fund.Step.distribute (f := v.fundOf t l) status pos sold
  | @close _ l' own' layer status =>
    obtain rfl : l = l' := Option.some.inj (own.symm.trans own')
    refine ⟨_, View.fund_eq (Function.update_self ..), ?_⟩
    exact Fund.Step.close (f := v.fundOf t l) layer status

/-- A payment is the event of the fund that pays, and a deposit for the fund whose vault it reaches. -/
lemma Move.fund_pay (wf : v.Wf) (own : v.listing t = some l) {t' : Target K} {ev : Event K} {dest : K}
    {n : ℕ} (mv : Move v (.pay t' ev dest n) v') :
    (v.fundOf t l).After PRECISION.toNat ((Effect.pay t' ev dest n).on t l) (v'.fund t) := by
  -- the payment itself, with the event it is for its own fund
  suffices key : ∀ {l' b} (l₁ : Listing K), v.listing t' = some l' → l'.vault ≠ dest →
      Pays v.bank l'.vault dest t'.key n b →
      v' = { v with listing := Function.update v.listing t' (some l₁), bank := b } →
      l₁.vault = l'.vault → l₁.mint = l'.mint →
      (n ≤ v.bank.balance l'.vault → (v.fundOf t' l').Step PRECISION.toNat ev
        { v.fundOf t' l₁ with vault := v.bank.balance l'.vault - n }) →
      (v.fundOf t l).After PRECISION.toNat ((Effect.pay t' ev dest n).on t l) (v'.fund t) by
    cases mv with
    | @activate _ l' _ b _ own' layer status full ne paid =>
      exact key { l' with status := .active, fee := n } own' ne paid rfl rfl rfl
        fun le => .activate layer status full le
    | @payout _ l' _ b n own' layer pos ne paid =>
      refine key l' own' ne (.inr ⟨n, rfl, paid⟩) ?_ rfl rfl fun le => .payout layer pos le
      rw [← own', Function.update_eq_self]
  intro l' b l₁ own' ne paid eq vault mint st
  subst eq
  by_cases e : t' = t
  · subst e
    obtain rfl : l = l' := Option.some.inj (own.symm.trans own')
    have le := paid.balance_source ne
    simp only [Effect.on, if_true, Fund.After]
    refine ⟨_, View.fund_eq (Function.update_self ..), ?_⟩
    have e : View.fundOf
        { v with listing := Function.update v.listing t' (some l₁), bank := b } t' l₁
        = { v.fundOf t' l₁ with vault := v.bank.balance l.vault - n } := by
      simp only [View.fundOf, View.holdings, vault, mint, paid.supply]
      rw [← le, Nat.add_sub_cancel]
    rw [e]
    exact st (by omega)
  · have own₁ : Function.update v.listing t' (some l₁) t = some l := by
      rw [Function.update_of_ne (Ne.symm e), own]
    have ns := wf.vault_ne own own' e
    simp only [Effect.on, if_neg e]
    split
    · next d =>
      subst d
      have balance := paid.balance_dest ns
      refine ⟨_, View.fund_eq own₁, ?_⟩
      simp only [View.fundOf, View.holdings, balance, paid.supply]
      exact .deposit
    · next d => exact View.fund_congr own₁ rfl (paid.balance_ne ns (Ne.symm d)) (paid.supply _)

/-- Every move is an event of the fund of each target, or leaves it alone. -/
theorem Move.fund (wf : v.Wf) {e : Effect K} (mv : Move v e v') (own : v.listing t = some l) :
    (v.fundOf t l).After PRECISION.toNat (e.on t l) (v'.fund t) := by
  cases e with
  | quiet =>
    cases mv with
    | quiet => exact View.fund_congr own rfl rfl rfl
    | found founds => exact View.fund_congr own rfl (founds.balance _) (founds.supply _)
    | @create t' _ _ free _ founds =>
      have ne : t ≠ t' := by
        rintro rfl
        exact nomatch own.symm.trans free
      refine View.fund_congr ?_ rfl (founds.balance _) (founds.supply _)
      show Function.update v.listing t' _ t = some l
      rw [Function.update_of_ne ne, own]
  | own t' ev =>
    by_cases e : t' = t
    · subst e
      simp only [Effect.on, if_true]
      exact mv.fund_own wf own
    · simp only [Effect.on, if_neg e]
      exact mv.fund_other wf own e
  | pay t' ev dest n => exact mv.fund_pay wf own
  | deposit dest n =>
    simp only [Effect.on]
    cases mv with
    | transfer signs run =>
      -- an outsider signs for its own account, so no vault is the source
      have ns := wf.vault_ne_source own (.refl _) signs run
      have supply := Token.Bank.transfer_supply run l.mint
      split
      · next d =>
        subst d
        have vault := Token.Bank.transfer_balance_dest run ns
        refine ⟨_, View.fund_eq own, ?_⟩
        simp only [View.fundOf, View.holdings, vault, supply]
        exact .deposit
      · next d =>
        exact View.fund_congr own rfl (Token.Bank.transfer_balance_ne run ns (Ne.symm d)) supply
    | @mintTo mint _ w b n signs run =>
      -- a mint of a target has an authority that does not sign
      have nm : l.mint ≠ mint := by
        rintro rfl
        have minter := (wf.listed own).minter
        rw [(Token.Bank.mintTo_authority run).1] at minter
        cases minter
        exact (wf.listed own).ne_key signs rfl
      have supply := Token.Bank.mintTo_supply run l.mint
      have vault := Token.Bank.mintTo_balance run l.vault
      rw [if_neg nm] at supply
      split
      · next d =>
        rw [if_pos d.symm] at vault
        refine ⟨_, View.fund_eq own, ?_⟩
        simp only [View.fundOf, View.holdings, vault, supply]
        exact .deposit
      · next d =>
        rw [if_neg (Ne.symm d)] at vault
        exact View.fund_congr own rfl vault supply
  | burn mint n =>
    simp only [Effect.on]
    cases mv with
    | @burn _ _ _ b n signs run =>
      -- what is burned is in the account of somebody who signs
      have ns := wf.vault_ne_holder own (.refl _) (Token.Bank.burn_holders run) signs
      have vault := Token.Bank.burn_balance run l.vault
      have supply := Token.Bank.burn_supply run l.mint
      rw [if_neg ns] at vault
      split
      · next d =>
        rw [if_pos d.symm] at supply
        have vault : b.balance l.vault = v.bank.balance l.vault := vault
        have existing : n.toNat ≤ v.bank.supply l.mint := by omega
        have supply : b.supply l.mint = v.bank.supply l.mint - n.toNat := by omega
        refine ⟨_, View.fund_eq own, ?_⟩
        simp only [View.fundOf, View.holdings, vault, supply]
        exact Fund.Step.burn (f := v.fundOf t l) existing
      · next d =>
        rw [if_neg (Ne.symm d)] at supply
        exact View.fund_congr own rfl vault supply

/-! ## New funds -/

/-- A target is listed by a creation only. -/
lemma Move.listing_new {e : Effect K} (mv : Move v e v') (free : v.listing t = none)
    (own : v'.listing t = some l) :
    l.Fresh ∧ Founds v.bank v'.bank ∧ Listed v'.bank t l ∧ v.bank.minter l.mint = none ∧
      v.bank.holder l.vault = none ∧ v'.positions = v.positions := by
  -- a listing that is updated was there before
  have other : ∀ {t' : Target K} {l' l₁ : Listing K}, v.listing t' = some l' →
      Function.update v.listing t' (some l₁) t ≠ some l := by
    intro t' l' l₁ own' eq
    have ne : t ≠ t' := by
      rintro rfl
      exact nomatch own'.symm.trans free
    rw [Function.update_of_ne ne, free] at eq
    cases eq
  cases mv with
  | @create t' l' b free' fresh founds listed mint vault =>
    by_cases e : t = t'
    · subst e
      have own : Function.update v.listing t (some l') t = some l := own
      rw [Function.update_self] at own
      cases own
      exact ⟨fresh, founds, listed, mint, vault, rfl⟩
    · have own : Function.update v.listing t' (some l') t = some l := own
      rw [Function.update_of_ne e, free] at own
      cases own
  | quiet => exact nomatch free.symm.trans own
  | found => exact nomatch free.symm.trans own
  | transfer => exact nomatch free.symm.trans own
  | mintTo => exact nomatch free.symm.trans own
  | burn => exact nomatch free.symm.trans own
  | claim => exact nomatch free.symm.trans own
  | payout => exact nomatch free.symm.trans own
  | buy own' => exact absurd own (other own')
  | exit own' => exact absurd own (other own')
  | distribute own' => exact absurd own (other own')
  | activate own' => exact absurd own (other own')
  | close own' => exact absurd own (other own')

/-- The fund of a new target is fresh. -/
theorem Move.fund_new (wf : v.Wf) {e : Effect K} (mv : Move v e v') (free : v.listing t = none)
    (own : v'.listing t = some l) : (v'.fundOf t l).Fresh := by
  obtain ⟨fresh, founds, listed, mint, vault, positions⟩ := mv.listing_new free own
  refine ⟨fresh.status, fresh.sold, fresh.distributed, fresh.index, ?_, fresh.fee, ?_, ?_⟩
  · apply Finmap.filterMap_eq_empty
    intro k q own'
    rw [InvestorPosition.holdingOf, if_neg]
    intro target
    rw [positions] at own'
    obtain ⟨t', l', key, own''⟩ := wf.target own'
    have e := ((wf.listed own'').evolves founds.toEvolves).target_inj listed (key.trans target)
    rw [e, free] at own''
    cases own''
  · show v'.bank.balance l.vault = 0
    rw [founds.balance, Token.Bank.balance_of_holder_none vault]
  · show v'.bank.supply l.mint = 0
    rw [founds.supply, Token.Bank.supply_of_minter_none mint]

end Exira
