import Exira.Lib.Table
import Mathlib.Tactic.Linarith
import Mathlib.Tactic.Ring

/-!
# Pull-based dividends

A ledger of holders who buy units of a common stock and share every payment in proportion to what they
hold. Payments are not pushed to the holders: the ledger keeps an index, the payment per unit so far,
scaled by a precision `P` and rounded down, and each holding remembers the index at which it was last
settled. What a holding may claim is its units times the growth of the index since then.

The bookkeeping quantity is `Ledger.credited`: what all holders have claimed and may still claim, scaled
by `P`. Each operation changes it by an exact amount, so every conservation law of a system built on such
a ledger is a comparison of `credited` with what was paid in:

* a payment of `a` adds at most `a * P`, short by a remainder below the stock;
* a claim loses a remainder below `P`;
* units bought by a holder whose holding is not settled add units times the unsettled growth, which
  nobody paid in.
-/

namespace Dividend

/-- One holder's units, the index at the last settlement, and what was claimed so far. -/
structure Holding where
  held : ℕ
  last : ℕ
  claimed : ℕ
deriving DecidableEq

/-- The stock sold, the sum of all payments, the scaled payment per unit, and the holdings. -/
structure Ledger (ι : Type) where
  sold : ℕ
  distributed : ℕ
  index : ℕ
  holdings : Table ι Holding

/-- What the holding accrued since its last settlement, scaled. -/
def Holding.pending (index : ℕ) (h : Holding) : ℕ :=
  h.held * (index - h.last)

/-- What the holding may claim, in whole units of payment. -/
def Holding.owed (P index : ℕ) (h : Holding) : ℕ :=
  h.pending index / P

/-- The holding after a claim. -/
def Holding.settle (P index : ℕ) (h : Holding) : Holding :=
  { h with last := index, claimed := h.claimed + h.owed P index }

/-- The scaled total of what the holding claimed and accrued. -/
def Holding.credit (P index : ℕ) (h : Holding) : ℕ :=
  h.claimed * P + h.pending index

/-- The holding after buying `n` units: a first purchase is settled, a later one keeps its baseline. -/
def Holding.topUp (index n : ℕ) : Option Holding → Holding
  | none => { held := n, last := index, claimed := 0 }
  | some h => { h with held := h.held + n }

/-! ## The credit of a holding -/

/-- A claim loses the remainder of its division. -/
lemma Holding.credit_settle (P index : ℕ) (h : Holding) :
    (h.settle P index).credit P index + h.pending index % P = h.credit P index := by
  have d := Nat.div_add_mod' (h.pending index) P
  simp only [Holding.credit, Holding.settle, Holding.owed, Nat.add_mul]
  simp only [Holding.pending, Nat.sub_self, Nat.mul_zero] at d ⊢
  omega

/-- The index credits every unit with its growth. -/
lemma Holding.credit_later {index : ℕ} {h : Holding} (settled : h.last ≤ index) (P d : ℕ) :
    h.credit P (index + d) = h.credit P index + h.held * d := by
  simp only [Holding.credit, Holding.pending]
  rw [Nat.sub_add_comm settled]
  ring

/-- Units that are bought are credited with what the holding has not settled. -/
lemma Holding.credit_buy (P index n : ℕ) (h : Holding) :
    Holding.credit P index { h with held := h.held + n }
      = h.credit P index + n * (index - h.last) := by
  simp only [Holding.credit, Holding.pending]
  ring

namespace Ledger

variable {ι : Type} [DecidableEq ι]

/-- Holder `i` buys `n` units. -/
def buy (l : Ledger ι) (i : ι) (n : ℕ) : Ledger ι :=
  { l with
    sold := l.sold + n
    holdings := l.holdings.insert i (Holding.topUp l.index n (l.holdings.lookup i)) }

/-- Holder `i`, with holding `h`, gives all units back. -/
def exit (l : Ledger ι) (i : ι) (h : Holding) : Ledger ι :=
  { l with
    sold := l.sold - h.held
    holdings := l.holdings.insert i { h with held := 0 } }

/-- A payment of `a` to all holders. -/
def distribute (P : ℕ) (l : Ledger ι) (a : ℕ) : Ledger ι :=
  { l with
    distributed := l.distributed + a
    index := l.index + a * P / l.sold }

/-- Holder `i`, with holding `h`, claims. -/
def claim (P : ℕ) (l : Ledger ι) (i : ι) (h : Holding) : Ledger ι :=
  { l with holdings := l.holdings.insert i (h.settle P l.index) }

/-- The scaled total of what all holders claimed and accrued. -/
def credited (P : ℕ) (l : Ledger ι) : ℕ :=
  l.holdings.sum (Holding.credit P l.index)

/-- The total of what all holders claimed. -/
def paid (l : Ledger ι) : ℕ :=
  l.holdings.sum Holding.claimed

/-- The stock is what the holders hold, and no holding is settled past the index. -/
structure Sound (l : Ledger ι) : Prop where
  supply : l.holdings.sum Holding.held = l.sold
  settled : ∀ i h, l.holdings.lookup i = some h → h.last ≤ l.index

/-! ## What an operation does to the credited total -/

variable {P : ℕ} {l : Ledger ι} {i : ι} {h : Holding}

/-- A first purchase is credited nothing. -/
lemma credited_buy_new (free : l.holdings.lookup i = none) (n : ℕ) :
    (l.buy i n).credited P = l.credited P := by
  unfold credited buy
  rw [Finmap.sum_insert_new free]
  simp [free, Holding.topUp, Holding.credit, Holding.pending]

/-- A later purchase is credited the gap to its holding's last index. -/
lemma credited_buy (own : l.holdings.lookup i = some h) (n : ℕ) :
    (l.buy i n).credited P = l.credited P + n * (l.index - h.last) := by
  have s := Finmap.sum_insert l.holdings i { h with held := h.held + n } (Holding.credit P l.index)
  rw [own, Holding.credit_buy] at s
  unfold credited buy
  rw [own]
  simp only [Holding.topUp, Option.elim] at s ⊢
  omega

/-- An exit gives up what was pending. -/
lemma credited_exit (own : l.holdings.lookup i = some h) :
    (l.exit i h).credited P + h.pending l.index = l.credited P := by
  have s := Finmap.sum_insert l.holdings i { h with held := 0 } (Holding.credit P l.index)
  rw [own] at s
  unfold credited exit
  simp only [Holding.credit, Holding.pending, Option.elim, Nat.zero_mul] at s ⊢
  omega

/-- A claim gives up the remainder. -/
lemma credited_claim (own : l.holdings.lookup i = some h) :
    (l.claim P i h).credited P + h.pending l.index % P = l.credited P := by
  have s := Finmap.sum_insert l.holdings i (h.settle P l.index) (Holding.credit P l.index)
  have e := h.credit_settle P l.index
  rw [own] at s
  unfold credited claim
  simp only [Option.elim] at s ⊢
  omega

/-- A distribution credits all tokens sold. -/
lemma credited_distribute (sound : l.Sound) (a : ℕ) :
    (l.distribute P a).credited P = l.credited P + l.sold * (a * P / l.sold) := by
  have e : (l.distribute P a).credited P
      = l.holdings.sum fun h => Holding.credit P l.index h + h.held * (a * P / l.sold) := by
    apply Finmap.sum_congr
    intro i h own
    exact Holding.credit_later (sound.settled i h own) _ _
  rw [e, Finmap.sum_add, Finmap.sum_mul, sound.supply]
  rfl

/-! ## What an operation does to the paid total -/

/-- A purchase pays nothing out. -/
lemma paid_buy (i : ι) (n : ℕ) : (l.buy i n).paid = l.paid := by
  unfold paid buy
  cases e : l.holdings.lookup i with
  | none => exact Finmap.sum_insert_new e _ _
  | some h => exact Finmap.sum_insert_same e rfl

/-- An exit pays nothing out. -/
lemma paid_exit (own : l.holdings.lookup i = some h) : (l.exit i h).paid = l.paid :=
  Finmap.sum_insert_same own rfl

/-- A claim pays what is owed. -/
lemma paid_claim (own : l.holdings.lookup i = some h) :
    (l.claim P i h).paid = l.paid + h.owed P l.index := by
  have s := Finmap.sum_insert l.holdings i (h.settle P l.index) Holding.claimed
  rw [own] at s
  unfold paid claim
  simp only [Holding.settle, Option.elim] at s ⊢
  omega

/-! ## Soundness -/

/-- A holding is part of the tokens sold. -/
lemma Sound.le_sold (sound : l.Sound) (own : l.holdings.lookup i = some h) : h.held ≤ l.sold :=
  sound.supply ▸ Finmap.le_sum own Holding.held

/-- Purchases keep a ledger sound. -/
lemma Sound.buy (sound : l.Sound) (i : ι) (n : ℕ) : (l.buy i n).Sound where
  supply := by
    have s := Finmap.sum_insert l.holdings i (Holding.topUp l.index n (l.holdings.lookup i))
      Holding.held
    rw [sound.supply] at s
    unfold Ledger.buy
    cases e : l.holdings.lookup i with
    | none => simp only [e, Holding.topUp, Option.elim] at s ⊢; omega
    | some h => simp only [e, Holding.topUp, Option.elim] at s ⊢; omega
  settled := by
    apply Finmap.forall_insert sound.settled
    cases e : l.holdings.lookup i with
    | none => exact Nat.le_refl _
    | some h => exact sound.settled i h e

/-- Exits keep a ledger sound. -/
lemma Sound.exit (sound : l.Sound) (own : l.holdings.lookup i = some h) : (l.exit i h).Sound where
  supply := by
    have s := Finmap.sum_insert l.holdings i { h with held := 0 } Holding.held
    rw [sound.supply, own] at s
    simp only [Ledger.exit, Option.elim] at s ⊢
    omega
  settled := Finmap.forall_insert sound.settled (sound.settled i h own)

/-- Distributions keep a ledger sound. -/
lemma Sound.distribute (sound : l.Sound) (a : ℕ) : (l.distribute P a).Sound where
  supply := sound.supply
  settled := fun i h own => Nat.le_add_right_of_le (sound.settled i h own)

/-- Claims keep a ledger sound. -/
lemma Sound.claim (sound : l.Sound) (own : l.holdings.lookup i = some h) :
    (l.claim P i h).Sound where
  supply := by
    have e := Finmap.sum_insert_same (v := h.settle P l.index) (f := Holding.held) own rfl
    exact e.trans sound.supply
  settled := Finmap.forall_insert sound.settled (Nat.le_refl _)

/-! ## From the credited total to payments -/

/-- What is owed is covered by what is pending. -/
lemma owed_mul_le (P index : ℕ) (h : Holding) : h.owed P index * P ≤ h.pending index :=
  Nat.div_mul_le_self _ _

/-- What was claimed and may be claimed, in whole units, is within the credited total. -/
lemma claimed_add_owed_le (P : ℕ) (l : Ledger ι) :
    l.holdings.sum (fun h => h.claimed + h.owed P l.index) * P ≤ l.credited P := by
  rw [← Finmap.sum_mul]
  apply Finmap.sum_mono
  intro i h _
  rw [Nat.add_mul]
  exact Nat.add_le_add_left (owed_mul_le P l.index h) _

/-! ## Ledgers that agree -/

section Alike
variable {ω κ : Type} [DecidableEq κ] {a : ω → ι} {b : ω → κ} {l' : Ledger κ}

/-- Two ledgers with the same books, the holders of one named by `a` and those of the other by `b`. -/
structure Alike (a : ω → ι) (b : ω → κ) (l : Ledger ι) (l' : Ledger κ) : Prop where
  sold : l.sold = l'.sold
  distributed : l.distributed = l'.distributed
  index : l.index = l'.index
  holdings : ∀ w, l.holdings.lookup (a w) = l'.holdings.lookup (b w)

/-- The same holding written in both ledgers. -/
lemma Alike.insert (alike : Alike a b l l') (ha : a.Injective) (hb : b.Injective) (w : ω) (h : Holding)
    (w' : ω) : (l.holdings.insert (a w) h).lookup (a w') = (l'.holdings.insert (b w) h).lookup (b w') := by
  by_cases e : w' = w
  · subst e
    rw [Finmap.lookup_insert, Finmap.lookup_insert]
  · rw [Finmap.lookup_insert_of_ne _ (ha.ne e), Finmap.lookup_insert_of_ne _ (hb.ne e), alike.holdings]

/-- Both ledgers see the same purchase. -/
lemma Alike.buy (alike : Alike a b l l') (ha : a.Injective) (hb : b.Injective) (w : ω) (n : ℕ) :
    Alike a b (l.buy (a w) n) (l'.buy (b w) n) where
  sold := congrArg (· + n) alike.sold
  distributed := alike.distributed
  index := alike.index
  holdings := by
    unfold Ledger.buy
    rw [alike.holdings w, alike.index]
    exact alike.insert ha hb w _

/-- Both ledgers see the same distribution. -/
lemma Alike.distribute (alike : Alike a b l l') (P n : ℕ) :
    Alike a b (l.distribute P n) (l'.distribute P n) where
  sold := alike.sold
  distributed := congrArg (· + n) alike.distributed
  index := by
    unfold Ledger.distribute
    rw [alike.index, alike.sold]
  holdings := alike.holdings

/-- Both ledgers see the same claim. -/
lemma Alike.claim (alike : Alike a b l l') (ha : a.Injective) (hb : b.Injective) (P : ℕ) (w : ω)
    (h : Holding) : Alike a b (l.claim P (a w) h) (l'.claim P (b w) h) where
  sold := alike.sold
  distributed := alike.distributed
  index := alike.index
  holdings := by
    unfold Ledger.claim
    rw [alike.index]
    exact alike.insert ha hb w _

end Alike

end Ledger

end Dividend
