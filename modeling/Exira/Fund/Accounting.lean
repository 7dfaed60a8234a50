import Exira.Fund.Basic

/-!
# Accounting of a fund

Two ledgers of a fund against its history. The vault ledger says where the USDC in the vault came from and
went to; the supply ledger does the same for the unit tokens. The credit ledger compares what the holders
claimed and accrued with what was distributed, at scale `P`: a distribution and a claim lose less than one
unit of rounding each (`dust`), and a purchase by a holder with an unsettled holding adds what nobody paid
in (`inherited`).
-/

namespace Exira

open Dividend

/-! ## Sums over a history -/

namespace Fund

variable {ι : Type}

/-- The sum of a measure over a history. -/
def total (φ : Fund ι → Event ι → ℕ) (tr : List (Fund ι × Event ι)) : ℕ :=
  (tr.map fun x => φ x.1 x.2).sum

variable {φ ψ : Fund ι → Event ι → ℕ} {tr : List (Fund ι × Event ι)}

/-- Nothing happened yet. -/
@[simp]
lemma total_nil : total φ [] = 0 := rfl

/-- One more event adds its value. -/
@[simp]
lemma total_snoc (f : Fund ι) (e : Event ι) : total φ (tr ++ [(f, e)]) = total φ tr + φ f e := by
  simp [total]

/-- A total grows with its function. -/
lemma total_mono (h : ∀ x ∈ tr, φ x.1 x.2 ≤ ψ x.1 x.2) : total φ tr ≤ total ψ tr := by
  unfold total
  exact List.sum_le_sum h

end Fund

namespace Event

variable {ι : Type}

/-- USDC that the admin takes out. -/
def payouts : Event ι → ℕ
  | .payout n => n
  | _ => 0

/-- USDC that arrives from outside. -/
def deposits : Event ι → ℕ
  | .deposit n => n
  | _ => 0

/-- Unit tokens that holders burn. -/
def burns : Event ι → ℕ
  | .burn n => n
  | _ => 0

/-- One for a distribution. -/
def distributions : Event ι → ℕ
  | .distribute _ => 1
  | _ => 0

/-- One for a claim. -/
def claims : Event ι → ℕ
  | .claim _ => 1
  | _ => 0

/-- One for a claim of `i`. -/
def claimsBy {ι : Type} [DecidableEq ι] (i : ι) : Event ι → ℕ
  | .claim j => if j = i then 1 else 0
  | _ => 0

/-- One for a purchase by `i`. -/
def boughtBy {ι : Type} [DecidableEq ι] (i : ι) : Event ι → ℕ
  | .buy j _ => if j = i then 1 else 0
  | _ => 0

end Event

namespace Fund

variable {ι : Type} [DecidableEq ι] {P : ℕ} {f f' : Fund ι} {e : Event ι}
  {tr : List (Fund ι × Event ι)}

/-! ## The vault and the supply -/

/-- What a step pays into the vault and out of it. -/
lemma Step.vault (sound : f.Sound) (st : f.Step P e f') :
    f'.vault + f'.paid + f'.fee + e.payouts + (f.sold + f.distributed)
      = f.vault + f.paid + f.fee + e.deposits + (f'.sold + f'.distributed) := by
  cases st with
  | @buy i n =>
    have c := Ledger.paid_buy (l := f.toLedger) i n
    simp only [Ledger.paid, Ledger.buy, Event.payouts, Event.deposits] at c ⊢
    omega
  | @exit i h _ _ own _ covered =>
    have c := Ledger.paid_exit own
    have le := sound.ledger.le_sold own
    simp only [Ledger.paid, Ledger.exit, Event.payouts, Event.deposits] at c ⊢
    omega
  | claim own _ covered =>
    have c := Ledger.paid_claim (P := P) own
    simp only [Ledger.paid, Ledger.claim, Event.payouts, Event.deposits] at c ⊢
    omega
  | distribute =>
    simp only [Ledger.paid, Ledger.distribute, Event.payouts, Event.deposits]
    omega
  | activate layer status _ covered =>
    obtain ⟨-, -, fee, -⟩ := sound.funding layer status
    simp only [Event.payouts, Event.deposits]
    omega
  | close => rfl
  | payout _ _ covered =>
    simp only [Event.payouts, Event.deposits]
    omega
  | deposit =>
    simp only [Event.payouts, Event.deposits]
    omega
  | burn => rfl

/-- The vault ledger: what came in from sales, distributions and deposits is in the vault or went out as
claims, fee and payouts. -/
theorem Reaches.vault (run : Reaches P tr f) :
    f.vault + f.paid + f.fee + total (fun _ => Event.payouts) tr
      = f.sold + f.distributed + total (fun _ => Event.deposits) tr := by
  induction run with
  | fresh new =>
    simp [new.vault, new.fee, new.sold, new.distributed, Ledger.paid, new.holdings]
  | @step tr f e f' past st ih =>
    have v := st.vault past.sound
    rw [total_snoc, total_snoc]
    omega

/-- What a step does to the supply. -/
lemma Step.supply (st : f.Step P e f') (sound : f.Sound) :
    f'.supply + e.burns + f.sold = f.supply + f'.sold := by
  cases st with
  | buy =>
    simp only [Ledger.buy, Event.burns]
    omega
  | exit _ _ own _ _ minted =>
    have le := sound.ledger.le_sold own
    simp only [Ledger.exit, Event.burns]
    omega
  | burn minted =>
    simp only [Event.burns]
    omega
  | claim => rfl
  | distribute => rfl
  | activate => rfl
  | close => rfl
  | payout => rfl
  | deposit => rfl

/-- The supply ledger: every unit sold exists as a token or was burned by a holder. -/
theorem Reaches.supply (run : Reaches P tr f) :
    f.supply + total (fun _ => Event.burns) tr = f.sold := by
  induction run with
  | fresh new => simp [new.supply, new.sold]
  | @step tr f e f' past st ih =>
    have s := st.supply past.sound
    rw [total_snoc]
    omega

/-! ## The credit -/

/-- What a purchase by an existing holder adds to its claims on distributions of the past, scaled. -/
def inherited (f : Fund ι) : Event ι → ℕ
  | .buy i n => (f.holdings.lookup i).elim 0 fun h => n * (f.index - h.last)
  | _ => 0

/-- What `i` inherits. -/
def inheritedBy (i : ι) (f : Fund ι) : Event ι → ℕ
  | .buy j n => if j = i then f.inherited (.buy j n) else 0
  | _ => 0

/-- What a claim of `i` rounds off, scaled. -/
def lossBy (P : ℕ) (i : ι) (f : Fund ι) : Event ι → ℕ
  | .claim j => if j = i then (f.holdings.lookup i).elim 0 fun h => h.pending f.index % P else 0
  | _ => 0

/-- The most that rounding can lose, scaled. -/
def dust (P : ℕ) (f : Fund ι) : Event ι → ℕ
  | .distribute _ => f.sold - 1
  | .claim _ => P - 1
  | _ => 0

/-- A step credits at most what it distributes, but for what its buyer inherits. -/
lemma Step.credited_le (sound : f.Sound) (st : f.Step P e f') :
    f'.credited P + f.distributed * P
      ≤ f.credited P + f.inherited e + f'.distributed * P := by
  cases st with
  | @buy i n =>
    cases own : f.holdings.lookup i with
    | none =>
      -- a new holding starts at the index, and inherits nothing
      have c := Ledger.credited_buy_new (P := P) own n
      simp only [inherited, own, Option.elim, Ledger.credited, Ledger.buy] at c ⊢
      omega
    | some h =>
      have c := Ledger.credited_buy (P := P) own n
      simp only [inherited, own, Option.elim, Ledger.credited, Ledger.buy] at c ⊢
      omega
  | exit _ _ own =>
    have c := Ledger.credited_exit (P := P) own
    simp only [inherited, Ledger.credited, Ledger.exit] at c ⊢
    omega
  | claim own =>
    have c := Ledger.credited_claim (P := P) own
    simp only [inherited, Ledger.credited, Ledger.claim] at c ⊢
    omega
  | @distribute n =>
    have c := Ledger.credited_distribute (P := P) sound.ledger n
    have le := Nat.mul_div_le (n * P) f.sold
    simp only [inherited, Ledger.credited, Ledger.distribute, Nat.add_mul] at c ⊢
    omega
  | activate => exact Nat.le_refl _
  | close => exact Nat.le_refl _
  | payout => exact Nat.le_refl _
  | deposit => exact Nat.le_refl _
  | burn => exact Nat.le_refl _

/-- The credit of all holders is covered by the distributions, but for what top-ups inherited. -/
theorem Reaches.credited_le (run : Reaches P tr f) :
    f.credited P ≤ f.distributed * P + total inherited tr := by
  induction run with
  | fresh new => simp [Ledger.credited, new.holdings]
  | @step tr f e f' past st ih =>
    have c := st.credited_le past.sound
    rw [total_snoc]
    omega

/-- A step credits what it distributes, but for the dust. -/
lemma Step.le_credited (sound : f.Sound) (st : f.Step P e f') :
    f'.distributed * P + f.credited P
      ≤ f.distributed * P + f'.credited P + f.dust P e := by
  cases st with
  | @buy i n =>
    cases own : f.holdings.lookup i with
    | none =>
      have c := Ledger.credited_buy_new (P := P) own n
      simp only [dust, Ledger.credited, Ledger.buy] at c ⊢
      omega
    | some h =>
      have c := Ledger.credited_buy (P := P) own n
      simp only [dust, Ledger.credited, Ledger.buy] at c ⊢
      omega
  | @exit i h project status own =>
    -- an exit forfeits what is pending, which is nothing before activation
    have funding := status.resolve_right sound.live
    obtain ⟨-, index, -, -⟩ := sound.funding project funding
    have c := Ledger.credited_exit (P := P) own
    have pending : h.pending f.index = 0 := by simp [Holding.pending, index]
    simp only [dust, Ledger.credited, Ledger.exit] at c ⊢
    omega
  | @claim i h own pos =>
    have c := Ledger.credited_claim (P := P) own
    have P_pos : 0 < P := by
      apply Nat.pos_of_ne_zero
      rintro rfl
      simp [Holding.owed] at pos
    have lt := Nat.mod_lt (h.pending f.index) P_pos
    simp only [dust, Ledger.credited, Ledger.claim] at c ⊢
    omega
  | @distribute n _ _ sold =>
    have c := Ledger.credited_distribute (P := P) sound.ledger n
    have d := Nat.div_add_mod (n * P) f.sold
    have lt := Nat.mod_lt (n * P) sold
    simp only [dust, Ledger.credited, Ledger.distribute, Nat.add_mul] at c ⊢
    omega
  | activate => exact Nat.le_add_right _ _
  | close => exact Nat.le_add_right _ _
  | payout => exact Nat.le_add_right _ _
  | deposit => exact Nat.le_add_right _ _
  | burn => exact Nat.le_add_right _ _

/-- What was distributed is credited to the holders, but for rounding. -/
theorem Reaches.le_credited (run : Reaches P tr f) :
    f.distributed * P ≤ f.credited P + total (dust P) tr := by
  induction run with
  | fresh new => simp [new.distributed]
  | @step tr f e f' past st ih =>
    have c := st.le_credited past.sound
    rw [total_snoc]
    omega

/-- What all holders may claim now. -/
def owedTotal (P : ℕ) (f : Fund ι) : ℕ :=
  f.holdings.sum (Holding.owed P f.index)

/-- What is claimed and owed is within a bound on the credit. -/
lemma paid_add_owedTotal_le (f : Fund ι) {n : ℕ} (P_pos : 0 < P) (le : f.credited P ≤ n * P) :
    f.paid + f.owedTotal P ≤ n := by
  have sum := Ledger.claimed_add_owed_le P f.toLedger
  rw [Finmap.sum_add] at sum
  exact Nat.le_of_mul_le_mul_right (sum.trans le) P_pos

/-- No holder is owed more than all are. -/
lemma owed_le_owedTotal {i : ι} {h : Holding} (own : f.holdings.lookup i = some h) :
    h.owed P f.index ≤ f.owedTotal P :=
  Finmap.le_sum own _

/-- No holder claimed more than was paid out. -/
lemma claimed_le_paid {i : ι} {h : Holding} (own : f.holdings.lookup i = some h) :
    h.claimed ≤ f.paid :=
  Finmap.le_sum own _

/-! ## The credit of one holder -/

/-- A claim rounds off less than one unit. -/
lemma lossBy_le (P_pos : 0 < P) (i : ι) (tr : List (Fund ι × Event ι)) :
    total (lossBy P i) tr ≤ total (fun _ => Event.claimsBy i) tr * (P - 1) := by
  induction tr with
  | nil => exact Nat.zero_le _
  | cons x tr ih =>
    obtain ⟨f, e⟩ := x
    have one : lossBy P i f e ≤ e.claimsBy i * (P - 1) := by
      cases e with
      | claim j =>
        simp only [lossBy, Event.claimsBy]
        split
        · rw [Nat.one_mul]
          cases f.holdings.lookup i with
          | none => exact Nat.zero_le _
          | some h => exact Nat.le_sub_one_of_lt (Nat.mod_lt _ P_pos)
        · exact Nat.zero_le _
      | _ => exact Nat.zero_le _
    simp only [total, List.map_cons, List.sum_cons, Nat.add_mul] at ih ⊢
    exact Nat.add_le_add one ih

section Holder
variable {i : ι} {h : Holding}

/-- A distribution credits a holder with at most what was distributed. -/
lemma Step.credit_le (sound : f.Sound) (st : f.Step P e f') (own : f.holdings.lookup i = some h) :
    (e.act P f.index i h).credit P f'.index + f.distributed * P
      ≤ h.credit P f.index + inheritedBy i f e + f'.distributed * P := by
  cases st with
  | @buy j n =>
    by_cases e : j = i
    · subst e
      simp only [Event.act, inheritedBy, inherited, own, if_true, Option.elim, Holding.credit,
        Holding.pending, Ledger.buy, Nat.add_mul]
      omega
    · simp only [Event.act, if_neg e, inheritedBy, Ledger.buy]
      omega
  | @exit j h' _ _ own' =>
    by_cases e : j = i
    · simp only [Event.act, if_pos e, Holding.credit, Holding.pending, Ledger.exit, Nat.zero_mul]
      omega
    · simp only [Event.act, if_neg e, Ledger.exit]
      omega
  | @claim j h' own' =>
    by_cases e : j = i
    · have le := Ledger.owed_mul_le P f.index h
      simp only [Event.act, if_pos e, Holding.credit, Holding.settle, Holding.pending, Ledger.claim,
        Nat.sub_self, Nat.mul_zero, Nat.add_mul] at le ⊢
      omega
    · simp only [Event.act, if_neg e, Ledger.claim]
      omega
  | @distribute n =>
    have held := sound.ledger.le_sold own
    have settled := sound.ledger.settled i h own
    -- no holder gets more than the whole distribution
    have share : h.held * (n * P / f.sold) ≤ n * P :=
      (Nat.mul_le_mul_right _ held).trans (Nat.mul_div_le _ _)
    simp only [Event.act, Holding.credit, Holding.pending, Ledger.distribute, inheritedBy,
      Nat.sub_add_comm settled, Nat.mul_add, Nat.add_mul]
    omega
  | activate => exact Nat.le_refl _
  | close => exact Nat.le_refl _
  | payout => exact Nat.le_refl _
  | deposit => exact Nat.le_refl _
  | burn => exact Nat.le_refl _

/-- The index never falls. -/
lemma Step.index_le (st : f.Step P e f') : f.index ≤ f'.index := by
  cases st with
  | distribute => exact Nat.le_add_right _ _
  | _ => exact Nat.le_refl _

/-- A holder who neither buys nor leaves keeps all units. -/
lemma act_held {index : ℕ} (stays : e ≠ .exit i) (other : e.boughtBy i = 0) :
    (e.act P index i h).held = h.held := by
  cases e with
  | buy j n =>
    simp only [Event.boughtBy, ite_eq_right_iff, one_ne_zero, imp_false] at other
    simp only [Event.act, if_neg other]
  | exit j =>
    have leaver : j ≠ i := fun same => stays (congrArg Event.exit same)
    simp only [Event.act, if_neg leaver]
  | claim j =>
    simp only [Event.act]
    split <;> rfl
  | _ => rfl

/-- Who does not buy inherits nothing. -/
lemma inheritedBy_other (f : Fund ι) (other : e.boughtBy i = 0) : inheritedBy i f e = 0 := by
  cases e with
  | buy j n =>
    simp only [Event.boughtBy, ite_eq_right_iff, one_ne_zero, imp_false] at other
    exact if_neg other
  | _ => rfl

/-- As long as a holder does not leave, an event credits the holding with what the index grows for each
unit, with what the holder inherits, and takes away what a claim rounds off. -/
lemma Step.credit_eq (sound : f.Sound) (st : f.Step P e f') (own : f.holdings.lookup i = some h)
    (stays : e ≠ .exit i) :
    (e.act P f.index i h).credit P f'.index + f.lossBy P i e
      = h.credit P f.index + inheritedBy i f e + h.held * (f'.index - f.index) := by
  cases st with
  | @buy j n =>
    by_cases e : j = i
    · subst e
      simp only [Event.act, inheritedBy, inherited, lossBy, own, if_true, Option.elim, Ledger.buy,
        Holding.credit_buy, Nat.sub_self, Nat.mul_zero, Nat.add_zero]
    · simp only [Event.act, if_neg e, inheritedBy, lossBy, Ledger.buy, Nat.sub_self, Nat.mul_zero]
  | @exit j =>
    have other : j ≠ i := fun e => stays (congrArg Event.exit e)
    simp only [Event.act, if_neg other, inheritedBy, lossBy, Ledger.exit, Nat.sub_self, Nat.mul_zero]
  | @claim j =>
    by_cases e : j = i
    · simp only [Event.act, if_pos e, inheritedBy, lossBy, own, Option.elim, Ledger.claim,
        Holding.credit_settle, Nat.sub_self, Nat.mul_zero, Nat.add_zero]
    · simp only [Event.act, if_neg e, inheritedBy, lossBy, Ledger.claim, Nat.sub_self, Nat.mul_zero]
  | distribute =>
    have settled := sound.ledger.settled i h own
    simp only [Event.act, inheritedBy, lossBy, Ledger.distribute, Holding.credit_later settled,
      Nat.add_sub_cancel_left, Nat.add_zero]
  | _ => simp only [Event.act, inheritedBy, lossBy, Nat.sub_self, Nat.mul_zero, Nat.add_zero]

/-- The credit of one holder is covered by the distributions, but for what that holder inherited. -/
theorem Reaches.credit_le (run : Reaches P tr f) (own : f.holdings.lookup i = some h) :
    h.credit P f.index ≤ f.distributed * P + total (inheritedBy i) tr := by
  induction run generalizing h with
  | fresh new =>
    rw [new.holdings, Finmap.lookup_empty] at own
    cases own
  | @step tr f e f' past st ih =>
    rw [total_snoc]
    cases own' : f.holdings.lookup i with
    | none =>
      obtain ⟨n, rfl, rfl⟩ := st.lookup_new own' own
      have same : f'.index = f.index := by cases st; rfl
      simp [Holding.credit, Holding.pending, same]
    | some h' =>
      have c := st.credit_le past.sound own'
      have le := ih own'
      rw [st.lookup own'] at own
      cases own
      omega

end Holder

end Fund

end Exira
