import Exira.Wf

/-!
# Moves of a view

`Move v e v'` says everything that a successful action can do to a view: one constructor for each kind of
effect, with the checks of the handler and the calls of the token program. Both the invariant
(`Move.wf`) and the simulation of the funds (`Move.fund`) are case analyses on it; what the 19 handlers
and the outside operations do is stated once, as the move they are.
-/

namespace Exira

open Dividend

variable {K : Type} [DecidableEq K]

/-- A payment that is skipped when the amount is zero. -/
def Pays (b : Token.Bank K) (source dest authority : K) (amount : ℕ) (b' : Token.Bank K) : Prop :=
  amount = 0 ∧ b' = b ∨ ∃ n : U64, n.toNat = amount ∧ b.transfer source dest authority n = .ok b'

/-- A listing as `create_project` and `create_pool` write it. -/
structure Listing.Fresh (l : Listing K) : Prop where
  status : l.status = .funding
  sold : l.sold = 0
  distributed : l.distributed = 0
  index : l.index = 0
  fee : l.fee = 0

section
variable {b b' : Token.Bank K} {source dest authority k : K} {amount : ℕ}

/-- A payment leaves the supply of every mint. -/
lemma Pays.supply (h : Pays b source dest authority amount b') (m : K) :
    b'.supply m = b.supply m := by
  obtain ⟨-, rfl⟩ | ⟨n, -, run⟩ := h
  · rfl
  · exact Token.Bank.transfer_supply run m

/-- A payment leaves the other accounts. -/
lemma Pays.balance_ne (h : Pays b source dest authority amount b') (ns : k ≠ source)
    (nd : k ≠ dest) : b'.balance k = b.balance k := by
  obtain ⟨-, rfl⟩ | ⟨n, -, run⟩ := h
  · rfl
  · exact Token.Bank.transfer_balance_ne run ns nd

/-- What a payment takes from its source. -/
lemma Pays.balance_source (h : Pays b source dest authority amount b') (ne : source ≠ dest) :
    b'.balance source + amount = b.balance source := by
  obtain ⟨rfl, rfl⟩ | ⟨n, rfl, run⟩ := h
  · rfl
  · exact Token.Bank.transfer_balance_source run ne

/-- What a payment brings to its destination. -/
lemma Pays.balance_dest (h : Pays b source dest authority amount b') (ne : dest ≠ source) :
    b'.balance dest = b.balance dest + amount := by
  obtain ⟨rfl, rfl⟩ | ⟨n, rfl, run⟩ := h
  · rfl
  · exact Token.Bank.transfer_balance_dest run ne

end

variable [Addresses K]

/-- A payment is an evolution of the bank. -/
lemma Pays.evolves {b b' : Token.Bank K} {source dest authority : K} {amount : ℕ}
    (h : Pays b source dest authority amount b') : Evolves b b' := by
  obtain ⟨-, rfl⟩ | ⟨n, -, run⟩ := h
  · exact .refl b'
  · exact .transfer run

/-- What an effect makes of the view of a state. -/
inductive Move (v : View K) : Effect K → View K → Prop
  | quiet : Move v .quiet v
  | found {b} (founds : Founds v.bank b) : Move v .quiet { v with bank := b }
  | create {t l b} (free : v.listing t = none) (fresh : l.Fresh) (founds : Founds v.bank b)
      (listed : Listed b t l) (mint : v.bank.minter l.mint = none)
      (vault : v.bank.holder l.vault = none) :
    Move v .quiet { v with listing := Function.update v.listing t (some l), bank := b }
  | transfer {source dest w b} {n : U64} (signs : canSign w = true)
      (run : v.bank.transfer source dest w n = .ok b) :
    Move v (.deposit dest n.toNat) { v with bank := b }
  | mintTo {mint dest w b} {n : U64} (signs : canSign w = true)
      (run : v.bank.mintTo mint dest w n = .ok b) :
    Move v (.deposit dest n.toNat) { v with bank := b }
  | burn {source mint w b} {n : U64} (signs : canSign w = true)
      (run : v.bank.burn source mint w n = .ok b) :
    Move v (.burn mint n.toNat) { v with bank := b }
  | buy {t l k w q source dest b₀ b₁ b₂} {n : U64} (own : v.listing t = some l) (pos : 0 < n.toNat)
      (status : l.status = .funding) (room : l.sold + n.toNat ≤ l.target)
      (founds : Founds v.bank b₀) (paid : b₀.transfer source l.vault w n = .ok b₁)
      (minted : b₁.mintTo l.mint dest t.key n = .ok b₂) (holder : b₀.holder dest = some (l.mint, w))
      (placed : Placed t.key w k q)
      (holding : q.holding
        = Holding.topUp l.index n.toNat ((v.positions.lookup k).map InvestorPosition.holding)) :
    Move v (.own t (.buy k n.toNat)) {
      listing := Function.update v.listing t (some { l with sold := l.sold + n.toNat })
      positions := v.positions.insert k q
      bank := b₂ }
  | exit {t l k w q source dest m b₁ b₂} (own : v.listing t = some l) (layer : t.layer = .project)
      (status : l.status = .funding ∨ l.status = .cancelled)
      (held : v.positions.lookup k = some q) (placed : Placed t.key w k q)
      (pos : 0 < q.tokensHeld.toNat) (burnt : v.bank.burn source l.mint w q.tokensHeld = .ok b₁)
      (refunded : b₁.transfer l.vault dest t.key q.tokensHeld = .ok b₂)
      (holder : v.bank.holder dest = some (m, w)) :
    Move v (.own t (.exit k)) {
      listing := Function.update v.listing t (some { l with sold := l.sold - q.tokensHeld.toNat })
      positions := v.positions.insert k { q with tokensHeld := 0 }
      bank := b₂ }
  | claim {t l k w q q' dest m b₀ b₁} {n : U64} (own : v.listing t = some l)
      (held : v.positions.lookup k = some q) (pos : 0 < n.toNat)
      (owed : n.toNat = q.holding.owed PRECISION.toNat l.index) (founds : Founds v.bank b₀)
      (paid : b₀.transfer l.vault dest t.key n = .ok b₁) (holder : b₀.holder dest = some (m, w))
      (placed : Placed t.key w k q')
      (holding : q'.holding = q.holding.settle PRECISION.toNat l.index) :
    Move v (.own t (.claim k)) { v with positions := v.positions.insert k q', bank := b₁ }
  | distribute {t l w source b} {n : U64} (own : v.listing t = some l) (signs : canSign w = true)
      (status : t.layer.Repays l.status) (pos : 0 < n.toNat) (sold : 0 < l.sold)
      (paid : v.bank.transfer source l.vault w n = .ok b) :
    Move v (.own t (.distribute n.toNat)) { v with
      listing := Function.update v.listing t (some { l with
        distributed := l.distributed + n.toNat
        index := l.index + n.toNat * PRECISION.toNat / l.sold
        status := t.layer.repaid l.status })
      bank := b }
  | activate {t l dest b fee} (own : v.listing t = some l) (layer : t.layer = .project)
      (status : l.status = .funding) (full : l.sold = l.target) (ne : l.vault ≠ dest)
      (paid : Pays v.bank l.vault dest t.key fee b) :
    Move v (.pay t (.activate fee) dest fee) { v with
      listing := Function.update v.listing t (some { l with status := .active, fee := fee })
      bank := b }
  | close {t l} (own : v.listing t = some l) (layer : t.layer = .project)
      (status : l.status = .repaying ∨ l.status = .active) :
    Move v (.own t .close)
      { v with listing := Function.update v.listing t (some { l with status := .completed }) }
  | payout {t l dest b} {n : U64} (own : v.listing t = some l) (layer : t.layer = .project)
      (pos : 0 < n.toNat) (ne : l.vault ≠ dest)
      (paid : v.bank.transfer l.vault dest t.key n = .ok b) :
    Move v (.pay t (.payout n.toNat) dest n.toNat) { v with bank := b }

/-! ## The invariant -/

variable {v v' : View K} {e : Effect K}

/-- The bank only evolves. -/
lemma Move.evolves (mv : Move v e v') : Evolves v.bank v'.bank := by
  cases mv with
  | quiet => exact .refl _
  | found founds => exact founds.toEvolves
  | create _ _ founds => exact founds.toEvolves
  | transfer _ run => exact .transfer run
  | mintTo _ run => exact .mintTo run
  | burn _ run => exact .burn run
  | buy _ _ _ _ founds paid minted =>
    exact (founds.toEvolves.trans (.transfer paid)).trans (.mintTo minted)
  | exit _ _ _ _ _ _ burnt refunded => exact (Evolves.burn burnt).trans (.transfer refunded)
  | claim _ _ _ _ founds paid => exact founds.toEvolves.trans (.transfer paid)
  | distribute _ _ _ _ _ paid => exact .transfer paid
  | activate _ _ _ _ _ paid => exact paid.evolves
  | close => exact .refl _
  | payout _ _ _ _ paid => exact .transfer paid

/-- The target whose fund a move is about is listed. -/
lemma Move.listed_of (mv : Move v e v') {t : Target K} {ev : Event K}
    (about : e = .own t ev ∨ ∃ dest n, e = .pay t ev dest n) : ∃ l, v.listing t = some l := by
  rcases about with rfl | ⟨dest, n, rfl⟩
  · cases mv with
    | buy own => exact ⟨_, own⟩
    | exit own => exact ⟨_, own⟩
    | claim own => exact ⟨_, own⟩
    | distribute own => exact ⟨_, own⟩
    | close own => exact ⟨_, own⟩
  · cases mv with
    | activate own => exact ⟨_, own⟩
    | payout own => exact ⟨_, own⟩

/-- Rewriting the amounts of a listing keeps it at its address. -/
lemma Listed.amounts {b : Token.Bank K} {t : Target K} {l l' : Listing K} (h : Listed b t l)
    (seeds : l'.seeds = l.seeds) (bump : l'.bump = l.bump) (mint : l'.mint = l.mint)
    (vault : l'.vault = l.vault) : Listed b t l' := by
  obtain ⟨key, bump', layer, minter, holder⟩ := h
  refine ⟨?_, ?_, ?_, ?_, ?_⟩
  · rw [seeds, bump, key]
  · rw [seeds, bump, bump']
  · rw [seeds, layer]
  · rw [mint, minter]
  · rw [vault]
    exact holder

/-- Every move keeps a view well-formed. -/
theorem Move.wf (wf : v.Wf) (mv : Move v e v') : v'.Wf := by
  have ev := mv.evolves
  cases mv with
  | quiet => exact wf
  | found => exact wf.bank ev
  | create free fresh founds listed => exact (wf.bank ev).list listed
  | transfer => exact wf.bank ev
  | mintTo => exact wf.bank ev
  | burn => exact wf.bank ev
  | buy own _ _ _ _ _ _ _ placed =>
    have wf₁ := (wf.bank ev).place own placed
    exact wf₁.list ((wf₁.listed own).amounts rfl rfl rfl rfl)
  | exit own _ _ _ placed =>
    have wf₁ := (wf.bank ev).place own (placed.hold 0)
    exact wf₁.list ((wf₁.listed own).amounts rfl rfl rfl rfl)
  | claim own _ _ _ _ _ _ placed => exact (wf.bank ev).place own placed
  | distribute own =>
    have wf₁ := wf.bank ev
    exact wf₁.list ((wf₁.listed own).amounts rfl rfl rfl rfl)
  | activate own =>
    have wf₁ := wf.bank ev
    exact wf₁.list ((wf₁.listed own).amounts rfl rfl rfl rfl)
  | close own => exact wf.list ((wf.listed own).amounts rfl rfl rfl rfl)
  | payout => exact wf.bank ev

end Exira
