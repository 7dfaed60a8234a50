import Exira.View

/-!
# Well-formed views

Two relations between banks: `Evolves` is what every operation of the token program keeps, `Founds` an
evolution in which nothing but new, empty accounts appear. `View.Wf` is the invariant of views on which
the rest is built: every target and every position is at its derived address, every target has a vault
and a mint of its own, and no vault belongs to a key that can sign.
-/

namespace Exira

open Dividend

variable {K : Type} [DecidableEq K] [Addresses K]

/-! ## Evolution of the bank -/

/-- Accounts and mints stay, and new ones are at addresses that sign or at associated addresses. -/
structure Evolves (b b' : Token.Bank K) : Prop where
  sound : b.Sound → b'.Sound
  holder : ∀ {k x}, b.holder k = some x → b'.holder k = some x
  minter : ∀ {k x}, b.minter k = some x → b'.minter k = some x
  holder_new : ∀ {k x}, b'.holder k = some x →
    b.holder k = some x ∨ canSign k = true ∨ k = associatedToken x.2 x.1
  minter_new : ∀ {k x}, b'.minter k = some x → b.minter k = some x ∨ canSign k = true

/-- Only empty accounts and mints are new. -/
structure Founds (b b' : Token.Bank K) : Prop extends Evolves b b' where
  balance : ∀ k, b'.balance k = b.balance k
  supply : ∀ k, b'.supply k = b.supply k

section
variable {b b' b'' : Token.Bank K}

/-- No operation. -/
lemma Evolves.refl (b : Token.Bank K) : Evolves b b :=
  ⟨id, id, id, .inl, .inl⟩

/-- One operation after another. -/
lemma Evolves.trans (h : Evolves b b') (h' : Evolves b' b'') : Evolves b b'' where
  sound := h'.sound ∘ h.sound
  holder := h'.holder ∘ h.holder
  minter := h'.minter ∘ h.minter
  holder_new := by
    intro k x own
    obtain own | new := h'.holder_new own
    · exact h.holder_new own
    · exact .inr new
  minter_new := by
    intro k x own
    obtain own | new := h'.minter_new own
    · exact h.minter_new own
    · exact .inr new

/-- An operation that keeps every account's mint and owner and every mint's authority. -/
lemma Evolves.of_same (sound : b.Sound → b'.Sound) (holder : ∀ k, b'.holder k = b.holder k)
    (minter : ∀ k, b'.minter k = b.minter k) : Evolves b b' where
  sound := sound
  holder := fun own => (holder _).trans own
  minter := fun own => (minter _).trans own
  holder_new := fun own => .inl ((holder _).symm.trans own)
  minter_new := fun own => .inl ((minter _).symm.trans own)

/-- A transfer opens nothing. -/
lemma Evolves.transfer {source dest authority : K} {n : U64}
    (h : b.transfer source dest authority n = .ok b') : Evolves b b' :=
  .of_same (·.transfer h) (Token.Bank.transfer_holder h) (Token.Bank.transfer_minter h)

/-- New tokens open nothing. -/
lemma Evolves.mintTo {mint dest authority : K} {n : U64}
    (h : b.mintTo mint dest authority n = .ok b') : Evolves b b' :=
  .of_same (·.mintTo h) (Token.Bank.mintTo_holder h) (Token.Bank.mintTo_minter h)

/-- A burn opens nothing. -/
lemma Evolves.burn {source mint authority : K} {n : U64}
    (h : b.burn source mint authority n = .ok b') : Evolves b b' :=
  .of_same (·.burn h) (Token.Bank.burn_holder h) (Token.Bank.burn_minter h)

/-- No operation. -/
lemma Founds.refl (b : Token.Bank K) : Founds b b :=
  ⟨.refl b, fun _ => rfl, fun _ => rfl⟩

/-- One operation after another. -/
lemma Founds.trans (h : Founds b b') (h' : Founds b' b'') : Founds b b'' where
  toEvolves := h.toEvolves.trans h'.toEvolves
  balance := fun k => (h'.balance k).trans (h.balance k)
  supply := fun k => (h'.supply k).trans (h.supply k)

/-- A mint at an address that signs. -/
lemma Founds.initMint {key : K} {auth freeze : Option K} {d : U8} (signs : canSign key = true)
    (h : b.initMint key auth freeze d = .ok b') : Founds b b' where
  sound := (·.initMint h)
  holder := by
    intro k x own
    rwa [Token.Bank.holder, Token.Bank.initMint_accounts h]
  minter := by
    intro k x own
    rw [Token.Bank.initMint_minter h]
    split
    · next e =>
      obtain ⟨free, -⟩ := Token.Bank.initMint_inv h
      rw [Token.Bank.minter, e, free] at own
      cases own
    · exact own
  holder_new := by
    intro k x own
    rw [Token.Bank.holder, Token.Bank.initMint_accounts h] at own
    exact .inl own
  minter_new := by
    intro k x own
    rw [Token.Bank.initMint_minter h] at own
    split at own
    · next e => exact .inr (e ▸ signs)
    · exact .inl own
  balance := by
    intro k
    rw [Token.Bank.balance, Token.Bank.initMint_accounts h]
    rfl
  supply := Token.Bank.initMint_supply h

/-- An account at an address that signs or at its associated address. -/
lemma Founds.initAccount {key mint owner : K}
    (place : canSign key = true ∨ key = associatedToken owner mint)
    (h : b.initAccount key mint owner = .ok b') : Founds b b' where
  sound := (·.initAccount h)
  holder := by
    intro k x own
    rw [Token.Bank.initAccount_holder h]
    split
    · next e =>
      -- the new account was no account before
      rw [e, Token.Bank.initAccount_free h] at own
      cases own
    · exact own
  minter := by
    intro k x own
    rwa [Token.Bank.minter, Token.Bank.initAccount_mints h]
  holder_new := by
    intro k x own
    rw [Token.Bank.initAccount_holder h] at own
    split at own
    · next e =>
      cases own
      exact .inr (e ▸ place)
    · exact .inl own
  minter_new := by
    intro k x own
    rw [Token.Bank.minter, Token.Bank.initAccount_mints h] at own
    exact .inl own
  balance := Token.Bank.initAccount_balance h
  supply := by
    intro k
    rw [Token.Bank.supply, Token.Bank.initAccount_mints h]
    rfl

end

/-! ## The invariant -/

/-- The kind of target that a seed list derives. -/
def Seeds.layer {K : Type} : Seeds K → Option Layer
  | .project _ => some .project
  | .pool _ => some .pool
  | _ => none

/-- The address of a target is one of its own layer. -/
def Target.Seeded (t : Target K) : Prop :=
  ∃ σ, t.key = findProgramAddress σ ∧ σ.layer = some t.layer

omit [DecidableEq K] in
/-- Projects and pools have different addresses. -/
lemma Target.Seeded.key_inj {t t' : Target K} (h : t.Seeded) (h' : t'.Seeded) (e : t.key = t'.key) : t = t' := by
  obtain ⟨σ, place, layer⟩ := h
  obtain ⟨σ', place', layer'⟩ := h'
  have seeds : σ = σ' := findProgramAddress_inj (place.symm.trans (e.trans place'))
  have same : t.layer = t'.layer := by
    apply Option.some.inj
    rw [← layer, ← layer', seeds]
  cases t with
  | project k => cases t' with
    | project k' => exact congrArg _ e
    | pool k' => cases same
  | pool k => cases t' with
    | project k' => cases same
    | pool k' => exact congrArg _ e

/-- A listing at its address, with its own mint and its own vault. -/
structure Listed (b : Token.Bank K) (t : Target K) (l : Listing K) : Prop where
  key : t.key = createProgramAddress l.seeds l.bump
  bump : l.bump = findBump l.seeds
  layer : l.seeds.layer = some t.layer
  minter : b.minter l.mint = some (some t.key)
  vault : ∃ usdc x, l.vault = associatedToken t.key usdc ∧ b.holder l.vault = some (usdc, t.key) ∧
    b.minter usdc = some x

/-- A position of `w` in the target at `k₀`, at its address. -/
structure Placed (k₀ w k : K) (q : InvestorPosition K) : Prop where
  key : k = findProgramAddress (.position k₀ w)
  target : q.target = k₀
  owner : q.owner = w
  bump : q.bump = findBump (.position k₀ w)
  signs : canSign w = true

/-- What holds of every state's view. -/
structure View.Wf (v : View K) : Prop where
  sound : v.bank.Sound
  associated : ∀ {o m x}, v.bank.holder (associatedToken o m) = some x → x = (m, o)
  noMint : ∀ o m, v.bank.minter (associatedToken o m) = none
  listed : ∀ {t l}, v.listing t = some l → Listed v.bank t l
  placed : ∀ {k q}, v.positions.lookup k = some q → Placed q.target q.owner k q
  target : ∀ {k q}, v.positions.lookup k = some q → ∃ t l, t.key = q.target ∧ v.listing t = some l

section
variable {b b' : Token.Bank K} {t t' : Target K} {l l' : Listing K}

/-- A target is at the address of its seeds. -/
lemma Listed.key_find (h : Listed b t l) : t.key = findProgramAddress l.seeds := by
  rw [h.key, h.bump, findProgramAddress]

/-- A target stays listed while the bank evolves. -/
lemma Listed.evolves (h : Listed b t l) (ev : Evolves b b') : Listed b' t l where
  key := h.key
  bump := h.bump
  layer := h.layer
  minter := ev.minter h.minter
  vault := by
    obtain ⟨usdc, x, place, holder, mint⟩ := h.vault
    exact ⟨usdc, x, place, ev.holder holder, ev.minter mint⟩

/-- A key that signs is no target. -/
lemma Listed.ne_key (h : Listed b t l) {w : K} (signs : canSign w = true) : w ≠ t.key := by
  rw [h.key_find]
  exact ne_findProgramAddress signs _

/-- An account of a key that signs is no vault. -/
lemma Listed.ne_vault (h : Listed b t l) {k m w : K} (own : b.holder k = some (m, w))
    (signs : canSign w = true) : k ≠ l.vault := by
  rintro rfl
  obtain ⟨usdc, x, -, holder, -⟩ := h.vault
  rw [own] at holder
  cases holder
  exact h.ne_key signs rfl

/-- A listed target is at its own seeds. -/
lemma Listed.seeded (h : Listed b t l) : t.Seeded :=
  ⟨l.seeds, h.key_find, h.layer⟩

/-- Listed targets have different addresses. -/
lemma Listed.target_inj (h : Listed b t l) (h' : Listed b t' l') (e : t.key = t'.key) : t = t' :=
  h.seeded.key_inj h'.seeded e

/-- Listed targets have different vaults. -/
lemma Listed.vault_ne (h : Listed b t l) (h' : Listed b t' l') (ne : t ≠ t') :
    l.vault ≠ l'.vault := by
  intro e
  obtain ⟨usdc, -, -, holder, -⟩ := h.vault
  obtain ⟨usdc', -, -, holder', -⟩ := h'.vault
  rw [e, holder'] at holder
  injection holder with e
  injection e with _ e
  exact ne (h.target_inj h' e.symm)

/-- Listed targets have different mints. -/
lemma Listed.mint_ne (h : Listed b t l) (h' : Listed b t' l') (ne : t ≠ t') :
    l.mint ≠ l'.mint := by
  intro e
  have minter := h.minter
  rw [e, h'.minter] at minter
  injection minter with e
  injection e with e
  exact ne (h.target_inj h' e.symm)

omit [DecidableEq K] in
/-- A position keeps its place when its tokens change. -/
lemma Placed.hold {k₀ w k : K} {q : InvestorPosition K} (h : Placed k₀ w k q) (n : U64) :
    Placed k₀ w k { q with tokensHeld := n } :=
  { h with }

omit [DecidableEq K] in
/-- The address of a position is that of one wallet in one target. -/
lemma Placed.at_address {k₀ k₁ w w' k : K} {q : InvestorPosition K} (h : Placed k₀ w k q)
    (place : k = findProgramAddress (.position k₁ w')) : k₀ = k₁ ∧ w = w' := by
  injection findProgramAddress_inj (h.key.symm.trans place) with target owner
  exact ⟨target, owner⟩

omit [DecidableEq K] in
/-- A place has one target and one owner. -/
lemma Placed.inj {k₀ k₁ w w' k : K} {q q' : InvestorPosition K} (h : Placed k₀ w k q)
    (h' : Placed k₁ w' k q') : k₀ = k₁ ∧ w = w' :=
  h.at_address h'.key

end

section
variable {v : View K} {t : Target K} {l l' : Listing K}

/-- What stays of a view when the bank evolves. -/
lemma View.Wf.bank (wf : v.Wf) {b : Token.Bank K} (ev : Evolves v.bank b) :
    View.Wf { v with bank := b } where
  sound := ev.sound wf.sound
  associated := by
    intro o m x own
    obtain own | signs | place := ev.holder_new own
    · exact wf.associated own
    · exact absurd rfl (ne_associatedToken signs o m)
    · obtain ⟨e, e'⟩ := Addresses.associatedToken_inj place
      exact Prod.ext e'.symm e.symm
  noMint := by
    intro o m
    rw [Option.eq_none_iff_forall_not_mem]
    intro x own
    obtain own | signs := ev.minter_new own
    · exact nomatch (wf.noMint o m).symm.trans own
    · exact ne_associatedToken signs o m rfl
  listed := fun own => (wf.listed own).evolves ev
  placed := wf.placed
  target := wf.target

/-- Writing a listing at its address keeps well-formedness. -/
lemma View.Wf.list (wf : v.Wf) (h : Listed v.bank t l) :
    View.Wf { v with listing := Function.update v.listing t (some l) } where
  sound := wf.sound
  associated := wf.associated
  noMint := wf.noMint
  listed := by
    intro t' l' own
    simp only [Function.update_apply] at own
    split at own
    · next e => cases own; exact e ▸ h
    · exact wf.listed own
  placed := wf.placed
  target := by
    intro k q own
    obtain ⟨t', l', key, own'⟩ := wf.target own
    simp only [Function.update_apply]
    by_cases e : t' = t
    · exact ⟨t', l, key, by rw [if_pos e]⟩
    · exact ⟨t', l', key, by rw [if_neg e, own']⟩

/-- Writing a position of a listed target at its address keeps well-formedness. -/
lemma View.Wf.place (wf : v.Wf) {w k : K} {q : InvestorPosition K} (own : v.listing t = some l)
    (h : Placed t.key w k q) : View.Wf { v with positions := v.positions.insert k q } where
  sound := wf.sound
  associated := wf.associated
  noMint := wf.noMint
  listed := wf.listed
  placed := by
    intro k' q' own'
    refine Finmap.forall_insert (Q := fun k q => Placed q.target q.owner k q) (fun _ _ => wf.placed) ?_ k' q' own'
    rw [h.target, h.owner]
    exact h
  target := by
    intro k' q' own'
    exact Finmap.forall_insert (Q := fun _ q => ∃ t l, t.key = q.target ∧ v.listing t = some l)
      (fun _ _ => wf.target) ⟨t, l, h.target.symm, own⟩ k' q' own'

/-- The position at an address where another of the target could be is one of the target. -/
lemma View.Wf.placed_target (wf : v.Wf) {w k₀ k : K} {q q₀ : InvestorPosition K}
    (own : v.positions.lookup k = some q₀) (h : Placed k₀ w k q) : q₀.target = k₀ :=
  ((wf.placed own).inj h).1

end

end Exira
