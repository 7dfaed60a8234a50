import Exira.Fund.Accounting

/-!
# Funds in agreement

A fund that repays only after it has sold takes an order or not, whatever its kind: it depends on its ledger and
its target alone. Two funds whose ledgers agree answer the same orders the same way, and agree afterwards.
-/

namespace Exira

open Dividend

/-- What a wallet, or the admin, asks of a fund. -/
inductive Order (ω : Type) where
  | buy (w : ω) (n : ℕ)
  | distribute (n : ℕ)
  | claim (w : ω)

/-- The event of an order, the holders named by `a`. -/
def Order.event {ω ι : Type} (a : ω → ι) : Order ω → Event ι
  | .buy w n => .buy (a w) n
  | .distribute n => .distribute n
  | .claim w => .claim (a w)

namespace Fund

variable {ω ι κ : Type} [DecidableEq ι] [DecidableEq κ] {P : ℕ} {f f₁ : Fund ι} {f' f₁' : Fund κ}
  {a : ω → ι} {b : ω → κ} {o : Order ω}

/-! ## Orders that are taken -/

/-- The conditions of an order on the ledger and the target, with the bounds of the counters. -/
def Takes (P : ℕ) (a : ω → ι) (f : Fund ι) : Order ω → Prop
  | .buy _ n => 0 < n ∧ f.sold + n ≤ f.target
  | .distribute n =>
    0 < n ∧ 0 < f.sold ∧ f.index + n * P / f.sold < 2 ^ 128 ∧ f.distributed + n < 2 ^ 64
  | .claim w => ∃ h, f.holdings.lookup (a w) = some h ∧ 0 < h.owed P f.index

/-- An order that went through, with counters within their bounds, was one that the fund takes. -/
lemma Step.takes (st : f.Step P (o.event a) f₁) (index : f₁.index < 2 ^ 128)
    (distributed : f₁.distributed < 2 ^ 64) : f.Takes P a o := by
  cases o with
  | buy w n =>
    cases st with | buy _ pos room =>
    exact ⟨pos, room⟩
  | distribute n =>
    cases st with | distribute _ pos sold =>
    exact ⟨pos, sold, index, distributed⟩
  | claim w =>
    cases st with | @claim _ h own pos =>
    exact ⟨h, own, pos⟩

/-- Two funds with the same target and the same books. -/
structure Agrees (a : ω → ι) (b : ω → κ) (f : Fund ι) (f' : Fund κ) : Prop
  extends f.toLedger.Alike a b f'.toLedger where
  target : f.target = f'.target

/-- Funds that agree take the same orders. -/
lemma Agrees.takes (agrees : f.Agrees a b f') : f.Takes P a o ↔ f'.Takes P b o := by
  cases o with
  | buy w n => simp only [Takes, agrees.sold, agrees.target]
  | distribute n => simp only [Takes, agrees.sold, agrees.index, agrees.distributed]
  | claim w => simp only [Takes, agrees.holdings, agrees.index]

/-- An order that both take moves the same amount, and they agree afterwards. -/
lemma Agrees.step (agrees : f.Agrees a b f') (ha : a.Injective) (hb : b.Injective)
    (st : f.Step P (o.event a) f₁) (st' : f'.Step P (o.event b) f₁') :
    f₁.Agrees a b f₁' ∧ (f₁.vault - f.vault : ℤ) = f₁'.vault - f'.vault := by
  cases o with
  | buy w n =>
    cases st with | buy =>
    cases st' with | buy =>
    refine ⟨⟨agrees.toAlike.buy ha hb w n, agrees.target⟩, ?_⟩
    simp only [Nat.cast_add]
    ring
  | distribute n =>
    cases st with | distribute =>
    cases st' with | distribute =>
    refine ⟨⟨agrees.toAlike.distribute P n, agrees.target⟩, ?_⟩
    simp only [Nat.cast_add]
    ring
  | claim w =>
    cases st with | @claim _ h own _ covered =>
    cases st' with | @claim _ h' own' _ covered' =>
    have same := agrees.holdings w
    rw [own, own'] at same
    cases same
    refine ⟨⟨agrees.toAlike.claim ha hb P w h, agrees.target⟩, ?_⟩
    rw [agrees.index] at covered ⊢
    simp only [Nat.cast_sub covered, Nat.cast_sub covered']
    ring

/-- An activation changes no books. -/
lemma Agrees.activate (agrees : f.Agrees a b f') {fee : ℕ} (st : f.Step P (.activate fee) f₁) :
    f₁.Agrees a b f' := by
  cases st with | activate =>
  exact ⟨agrees.toAlike, agrees.target⟩

/-! ## Before the first distribution -/

/-- A fund that has only sold. -/
structure Offered (P : ℕ) (f : Fund ι) : Prop where
  status : f.status = .funding
  index : f.index = 0
  distributed : f.distributed = 0
  credited : f.credited P = 0
  proceeds : f.sold ≤ f.vault

/-- Without distributions there is nothing that a purchase could inherit. -/
lemma Offered.buy (offered : f.Offered P) {i : ι} {n : ℕ} (st : f.Step P (.buy i n) f₁) :
    f₁.Offered P := by
  cases st with | buy =>
  refine ⟨offered.status, offered.index, offered.distributed, ?_,
    Nat.add_le_add_right offered.proceeds n⟩
  show (f.toLedger.buy i n).credited P = 0
  cases own : f.holdings.lookup i with
  | none => rw [Ledger.credited_buy_new own, offered.credited]
  | some h => rw [Ledger.credited_buy own, offered.credited, offered.index, Nat.zero_sub, Nat.mul_zero]

/-! ## From the first distribution -/

/-- What is credited was distributed, and is in the vault or was paid. -/
structure Backed (P : ℕ) (f : Fund ι) : Prop where
  credited : f.credited P ≤ f.distributed * P
  covered : f.distributed ≤ f.vault + f.paid

/-- An offered fund is backed. -/
lemma Offered.backed (offered : f.Offered P) : f.Backed P where
  credited := offered.credited.trans_le (Nat.zero_le _)
  covered := offered.distributed.trans_le (Nat.zero_le _)

/-- The fee is no part of what is distributed. -/
lemma Offered.activate (offered : f.Offered P) {fee : ℕ} (st : f.Step P (.activate fee) f₁) :
    f₁.Backed P ∧ f₁.layer.Repays f₁.status := by
  cases st with | activate =>
  refine ⟨⟨?_, ?_⟩, fun _ => .inl rfl⟩
  · exact offered.credited.trans_le (Nat.zero_le _)
  · exact offered.distributed.trans_le (Nat.zero_le _)

/-- It stays so after a distribution. -/
lemma Backed.distribute (backed : f.Backed P) (sound : f.Sound) {n : ℕ}
    (st : f.Step P (.distribute n) f₁) : f₁.Backed P where
  credited := by
    have before := backed.credited
    have change := st.credited_le sound
    have none : f.inherited (.distribute n) = 0 := rfl
    omega
  covered := by
    have before := backed.covered
    cases st with | distribute =>
    show f.distributed + n ≤ f.vault + n + f.paid
    omega

/-- It stays so after a claim. -/
lemma Backed.claim (backed : f.Backed P) (sound : f.Sound) {i : ι} (st : f.Step P (.claim i) f₁) :
    f₁.Backed P where
  credited := by
    have before := backed.credited
    have change := st.credited_le sound
    have none : f.inherited (.claim i) = 0 := rfl
    omega
  covered := by
    have before := backed.covered
    cases st with | @claim _ h own _ enough =>
    have paid := Ledger.paid_claim (P := P) own
    show f.distributed ≤ f.vault - h.owed P f.index + (f.toLedger.claim P i h).paid
    omega

/-- Neither a distribution nor a claim ends the repayment. -/
lemma Step.repays (st : f.Step P (o.event a) f₁) (repays : f.layer.Repays f.status)
    (returns : ∀ w n, o ≠ .buy w n) : f₁.layer.Repays f₁.status := by
  cases o with
  | buy w n => exact absurd rfl (returns w n)
  | distribute n =>
    cases st with | distribute =>
    intro project
    have project : f.layer = .project := project
    rcases repays project with active | repaying
    · exact .inr (if_pos ⟨project, active⟩)
    · refine .inr ((if_neg ?_).trans repaying)
      rintro ⟨-, active⟩
      cases active.symm.trans repaying
  | claim w =>
    cases st with | claim =>
    exact repays

/-- A holder's claim is in the vault, and within what was distributed. -/
lemma Backed.owed_le (backed : f.Backed P) (P_pos : 0 < P) {i : ι} {h : Holding}
    (own : f.holdings.lookup i = some h) :
    h.owed P f.index ≤ f.vault ∧ h.claimed + h.owed P f.index ≤ f.distributed := by
  have total := f.paid_add_owedTotal_le P_pos backed.credited
  have owed := owed_le_owedTotal (P := P) own
  have claimed := claimed_le_paid own
  have covered := backed.covered
  constructor
  · omega
  · omega

/-! ## Funds that differ in their tokens -/

/-- Two funds with the same books; their vaults and their supplies may differ. -/
structure Twins (f f' : Fund ι) : Prop where
  ledger : f.toLedger = f'.toLedger
  layer : f.layer = f'.layer
  status : f.status = f'.status
  target : f.target = f'.target
  fee : f.fee = f'.fee

/-- Twins take the same orders. -/
lemma Twins.takes {f f' : Fund ι} (twins : f.Twins f') : f.Takes P a o ↔ f'.Takes P a o := by
  cases o with
  | buy w n => simp only [Takes, twins.ledger, twins.target]
  | distribute n => simp only [Takes, twins.ledger]
  | claim w => simp only [Takes, twins.ledger]

/-- The same event on both sides, whatever is in the vaults. -/
lemma Twins.step {f f₁ f' f₁' : Fund ι} {e : Event ι} (twins : f.Twins f') (st : f.Step P e f₁)
    (st' : f'.Step P e f₁') : f₁.Twins f₁' := by
  have ledger := twins.ledger
  have holdings : f.holdings = f'.holdings := congrArg Ledger.holdings ledger
  cases st with
  | buy =>
    cases st' with | buy =>
    exact { twins with ledger := by rw [ledger] }
  | exit _ _ own =>
    cases st' with | exit _ _ own' =>
    rw [holdings] at own
    cases own.symm.trans own'
    exact { twins with ledger := by rw [ledger] }
  | claim own =>
    cases st' with | claim own' =>
    rw [holdings] at own
    cases own.symm.trans own'
    exact { twins with ledger := by rw [ledger] }
  | distribute =>
    cases st' with | distribute =>
    exact { twins with
      ledger := by rw [ledger]
      status := by rw [twins.layer, twins.status] }
  | activate =>
    cases st' with | activate =>
    exact { twins with status := rfl, fee := rfl }
  | close =>
    cases st' with | close =>
    exact { twins with status := rfl }
  | payout =>
    cases st' with | payout =>
    exact { twins with }
  | deposit =>
    cases st' with | deposit =>
    exact { twins with }
  | burn =>
    cases st' with | burn =>
    exact { twins with }

end Fund

end Exira
