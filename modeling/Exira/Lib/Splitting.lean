import Exira.Lib.Dividend

/-!
# Splitting a holding in two

Two ledgers with the same operations, but for the units of one holder `i`: what `i` has in the first ledger
is split between `i` and `j` in the second. As long as units are bought by settled holdings only, the credit
of the whole and of the two parts differ by the rounding of claims, and so do the amounts claimed and owed:
by one unit for each claim, and one for each part that is rounded down.
-/

namespace Dividend

variable {P : ℕ}

/-! ## Holdings -/

/-- The holding `h` against its parts `h₁` and `h₂`, after `c` claims of the whole and `c'` of the parts. -/
structure Holding.Splits (P index c c' : ℕ) (h h₁ h₂ : Holding) : Prop where
  held : h.held = h₁.held + h₂.held
  le : h.credit P index ≤ h₁.credit P index + h₂.credit P index + c' * (P - 1)
  ge : h₁.credit P index + h₂.credit P index ≤ h.credit P index + c * (P - 1)

namespace Holding
variable {index c c' : ℕ} {h h₁ h₂ : Holding}

/-- Settling credits no more than there was. -/
lemma credit_settle_le (P index : ℕ) (h : Holding) :
    (h.settle P index).credit P index ≤ h.credit P index :=
  (Nat.le_add_right _ _).trans_eq (h.credit_settle P index)

/-- Settling loses less than one unit. -/
lemma le_credit_settle (P_pos : 0 < P) (index : ℕ) (h : Holding) :
    h.credit P index ≤ (h.settle P index).credit P index + (P - 1) := by
  have e := h.credit_settle P index
  have lt := Nat.mod_lt (h.pending index) P_pos
  omega

/-- What is claimed and owed is the credit in whole units. -/
lemma claimed_add_owed (P_pos : 0 < P) (index : ℕ) (h : Holding) :
    h.claimed + h.owed P index = h.credit P index / P := by
  rw [credit, owed, Nat.add_comm (h.claimed * P), Nat.add_mul_div_right _ _ P_pos, Nat.add_comm]

/-- The two parts may be exchanged. -/
lemma Splits.swap (s : Splits P index c c' h h₁ h₂) : Splits P index c c' h h₂ h₁ where
  held := s.held.trans (Nat.add_comm _ _)
  le := by
    rw [Nat.add_comm (h₂.credit P index)]
    exact s.le
  ge := by
    rw [Nat.add_comm (h₂.credit P index)]
    exact s.ge

/-- The whole settles, and rounds down once more. -/
lemma Splits.settle (s : Splits P index c c' h h₁ h₂) (P_pos : 0 < P) :
    Splits P index (c + 1) c' (h.settle P index) h₁ h₂ where
  held := s.held
  le := (h.credit_settle_le P index).trans s.le
  ge := by
    have ge := s.ge
    have lost := h.le_credit_settle P_pos index
    rw [Nat.add_mul, Nat.one_mul]
    omega

/-- The first part settles, and rounds down once more. -/
lemma Splits.settle_left (s : Splits P index c c' h h₁ h₂) (P_pos : 0 < P) :
    Splits P index c (c' + 1) h (h₁.settle P index) h₂ where
  held := s.held
  le := by
    have le := s.le
    have lost := h₁.le_credit_settle P_pos index
    rw [Nat.add_mul, Nat.one_mul]
    omega
  ge := by
    have ge := s.ge
    have le := h₁.credit_settle_le P index
    omega

/-- A purchase by settled holdings changes no credit. -/
lemma Splits.buy (s : Splits P index c c' h h₁ h₂) (settled : index ≤ h.last)
    (settled₁ : index ≤ h₁.last) (n : ℕ) :
    Splits P index c c' { h with held := h.held + n } { h₁ with held := h₁.held + n } h₂ where
  held := by
    have held := s.held
    simp only
    omega
  le := by
    rw [credit_buy, credit_buy, Nat.sub_eq_zero_of_le settled, Nat.sub_eq_zero_of_le settled₁]
    exact s.le
  ge := by
    rw [credit_buy, credit_buy, Nat.sub_eq_zero_of_le settled, Nat.sub_eq_zero_of_le settled₁]
    exact s.ge

/-- The growth of the index credits the whole and the parts alike. -/
lemma Splits.later (s : Splits P index c c' h h₁ h₂) (settled : h.last ≤ index)
    (settled₁ : h₁.last ≤ index) (settled₂ : h₂.last ≤ index) (d : ℕ) :
    Splits P (index + d) c c' h h₁ h₂ where
  held := s.held
  le := by
    have le := s.le
    rw [credit_later settled, credit_later settled₁, credit_later settled₂, s.held, Nat.add_mul]
    omega
  ge := by
    have ge := s.ge
    rw [credit_later settled, credit_later settled₁, credit_later settled₂, s.held, Nat.add_mul]
    omega

/-- A settled holding that buys `n` units, against itself and a new holding of `n`. -/
lemma Splits.start (settled : index ≤ h.last) (n : ℕ) :
    Splits P index 0 0 { h with held := h.held + n } h { held := n, last := index, claimed := 0 } where
  held := rfl
  le := by
    rw [credit_buy, Nat.sub_eq_zero_of_le settled, Nat.mul_zero]
    omega
  ge := by
    rw [credit_buy]
    simp [credit, pending]

/-- The amounts claimed and owed of the whole and the parts. -/
lemma Splits.entitled (s : Splits P index c c' h h₁ h₂) (P_pos : 0 < P) :
    h.claimed + h.owed P index
        ≤ h₁.claimed + h₁.owed P index + (h₂.claimed + h₂.owed P index) + c' + 1 ∧
      h₁.claimed + h₁.owed P index + (h₂.claimed + h₂.owed P index)
        ≤ h.claimed + h.owed P index + c := by
  have le := s.le
  have ge := s.ge
  rw [claimed_add_owed P_pos, claimed_add_owed P_pos, claimed_add_owed P_pos]
  have scale : ∀ n, n * (P - 1) ≤ n * P := fun n => Nat.mul_le_mul_left n (Nat.sub_le P 1)
  refine ⟨?_, ?_⟩
  · rw [← Nat.lt_succ_iff, Nat.div_lt_iff_lt_mul P_pos]
    have lt₁ := Nat.lt_mul_div_succ (h₁.credit P index) P_pos
    have lt₂ := Nat.lt_mul_div_succ (h₂.credit P index) P_pos
    have lost := scale c'
    calc h.credit P index ≤ h₁.credit P index + h₂.credit P index + c' * P := by omega
      _ < P * (h₁.credit P index / P + 1) + P * (h₂.credit P index / P + 1) + c' * P := by omega
      _ = _ := by rw [Nat.succ_eq_add_one]; ring
  · rw [← Nat.lt_succ_iff]
    apply Nat.lt_of_mul_lt_mul_right (a := P)
    have le₁ := Nat.div_mul_le_self (h₁.credit P index) P
    have le₂ := Nat.div_mul_le_self (h₂.credit P index) P
    have lt := Nat.lt_mul_div_succ (h.credit P index) P_pos
    have lost := scale c
    calc (h₁.credit P index / P + h₂.credit P index / P) * P
        ≤ h₁.credit P index + h₂.credit P index := by rw [Nat.add_mul]; omega
      _ ≤ h.credit P index + c * P := by omega
      _ < P * (h.credit P index / P + 1) + c * P := by omega
      _ = _ := by rw [Nat.succ_eq_add_one]; ring

end Holding

/-! ## Ledgers -/

variable {ι : Type} [DecidableEq ι]

/-- The second ledger splits what `i` holds in the first between `i` and `j`. -/
structure Ledger.Splits (P : ℕ) (i j : ι) (c c' : ℕ) (l l' : Ledger ι) : Prop where
  ne : i ≠ j
  sound : l.Sound
  sound' : l'.Sound
  sold : l.sold = l'.sold
  index : l.index = l'.index
  free : l.holdings.lookup j = none
  parts : ∃ h h₁ h₂, l.holdings.lookup i = some h ∧ l'.holdings.lookup i = some h₁ ∧
    l'.holdings.lookup j = some h₂ ∧ h.Splits P l.index c c' h₁ h₂

namespace Ledger
variable {i j k : ι} {c c' n : ℕ} {l l' : Ledger ι} {h h' : Holding}

/-- The holdings after a buy. -/
lemma lookup_buy (l : Ledger ι) (i k : ι) (n : ℕ) : (l.buy i n).holdings.lookup k
    = if k = i then some (.topUp l.index n (l.holdings.lookup i)) else l.holdings.lookup k :=
  Finmap.lookup_insert_ite _ _ _ _

/-- The holdings after a claim. -/
lemma lookup_claim (P : ℕ) (l : Ledger ι) (i k : ι) (h : Holding) : (l.claim P i h).holdings.lookup k
    = if k = i then some (h.settle P l.index) else l.holdings.lookup k :=
  Finmap.lookup_insert_ite _ _ _ _

/-- The purchase that is split: of `i` in the one ledger, of `j` in the other. -/
lemma Splits.start (sound : l.Sound) (own : l.holdings.lookup i = some h)
    (free : l.holdings.lookup j = none) (settled : l.index ≤ h.last) (n : ℕ) :
    Splits P i j 0 0 (l.buy i n) (l.buy j n) := by
  have ne : i ≠ j := by
    rintro rfl
    exact nomatch own.symm.trans free
  refine ⟨ne, sound.buy i n, sound.buy j n, rfl, rfl, ?_, ?_⟩
  · rw [lookup_buy, if_neg ne.symm, free]
  · refine ⟨_, h, _, ?_, ?_, ?_, .start settled n⟩
    · rw [lookup_buy, if_pos rfl, own]
      rfl
    · rw [lookup_buy, if_neg ne, own]
    · rw [lookup_buy, if_pos rfl, free]
      rfl

/-- A purchase of `i` in both, who is settled in both. -/
lemma Splits.buy_same (s : Splits P i j c c' l l') (own : l.holdings.lookup i = some h)
    (own' : l'.holdings.lookup i = some h') (settled : l.index ≤ h.last)
    (settled' : l'.index ≤ h'.last) (n : ℕ) : Splits P i j c c' (l.buy i n) (l'.buy i n) := by
  obtain ⟨ne, sound, sound', sold, index, free, h₀, h₁, h₂, own₀, own₁, own₂, parts⟩ := s
  cases own.symm.trans own₀
  cases own'.symm.trans own₁
  refine ⟨ne, sound.buy i n, sound'.buy i n, congrArg (· + n) sold, index, ?_, ?_⟩
  · rw [lookup_buy, if_neg ne.symm, free]
  · refine ⟨_, _, h₂, ?_, ?_, ?_, parts.buy settled (index ▸ settled') n⟩
    · rw [lookup_buy, if_pos rfl, own]
      rfl
    · rw [lookup_buy, if_pos rfl, own']
      rfl
    · rw [lookup_buy, if_neg ne.symm, own₂]

/-- A purchase of another holder in both. -/
lemma Splits.buy_other (s : Splits P i j c c' l l') (ne_i : k ≠ i) (ne_j : k ≠ j) (n : ℕ) :
    Splits P i j c c' (l.buy k n) (l'.buy k n) := by
  obtain ⟨ne, sound, sound', sold, index, free, h, h₁, h₂, own, own₁, own₂, parts⟩ := s
  refine ⟨ne, sound.buy k n, sound'.buy k n, congrArg (· + n) sold, index, ?_, ?_⟩
  · rw [lookup_buy, if_neg ne_j.symm, free]
  · refine ⟨h, h₁, h₂, ?_, ?_, ?_, parts⟩
    · rw [lookup_buy, if_neg ne_i.symm, own]
    · rw [lookup_buy, if_neg ne_i.symm, own₁]
    · rw [lookup_buy, if_neg ne_j.symm, own₂]

/-- A claim of another holder in both. -/
lemma Splits.claim_other (s : Splits P i j c c' l l') (ne_i : k ≠ i) (ne_j : k ≠ j)
    (own : l.holdings.lookup k = some h) (own' : l'.holdings.lookup k = some h') :
    Splits P i j c c' (l.claim P k h) (l'.claim P k h') := by
  obtain ⟨ne, sound, sound', sold, index, free, h₀, h₁, h₂, own₀, own₁, own₂, parts⟩ := s
  refine ⟨ne, sound.claim own, sound'.claim own', sold, index, ?_, ?_⟩
  · rw [lookup_claim, if_neg ne_j.symm, free]
  · refine ⟨h₀, h₁, h₂, ?_, ?_, ?_, parts⟩
    · rw [lookup_claim, if_neg ne_i.symm, own₀]
    · rw [lookup_claim, if_neg ne_i.symm, own₁]
    · rw [lookup_claim, if_neg ne_j.symm, own₂]

/-- A claim of the whole. -/
lemma Splits.claim_whole (s : Splits P i j c c' l l') (P_pos : 0 < P)
    (own : l.holdings.lookup i = some h) : Splits P i j (c + 1) c' (l.claim P i h) l' := by
  obtain ⟨ne, sound, sound', sold, index, free, h₀, h₁, h₂, own₀, own₁, own₂, parts⟩ := s
  cases own.symm.trans own₀
  refine ⟨ne, sound.claim own, sound', sold, index, ?_, ?_⟩
  · rw [lookup_claim, if_neg ne.symm, free]
  · refine ⟨_, h₁, h₂, ?_, own₁, own₂, parts.settle P_pos⟩
    rw [lookup_claim, if_pos rfl]

/-- A claim of one of the parts. -/
lemma Splits.claim_part (s : Splits P i j c c' l l') (P_pos : 0 < P) (part : k = i ∨ k = j)
    (own : l'.holdings.lookup k = some h') : Splits P i j c (c' + 1) l (l'.claim P k h') := by
  obtain ⟨ne, sound, sound', sold, index, free, h, h₁, h₂, own₀, own₁, own₂, parts⟩ := s
  refine ⟨ne, sound, sound'.claim own, sold, index, free, ?_⟩
  rcases part with rfl | rfl
  · cases own.symm.trans own₁
    refine ⟨h, h'.settle P l'.index, h₂, own₀, ?_, ?_, ?_⟩
    · rw [lookup_claim, if_pos rfl]
    · rw [lookup_claim, if_neg ne.symm, own₂]
    · rw [← index]
      exact parts.settle_left P_pos
  · cases own.symm.trans own₂
    refine ⟨h, h₁, h'.settle P l'.index, own₀, ?_, ?_, ?_⟩
    · rw [lookup_claim, if_neg ne, own₁]
    · rw [lookup_claim, if_pos rfl]
    · rw [← index]
      exact (parts.swap.settle_left P_pos).swap

/-- A payment to both. -/
lemma Splits.distribute (s : Splits P i j c c' l l') (a : ℕ) :
    Splits P i j c c' (l.distribute P a) (l'.distribute P a) := by
  obtain ⟨ne, sound, sound', sold, index, free, h, h₁, h₂, own, own₁, own₂, parts⟩ := s
  have settled := sound.settled i h own
  have settled₁ := sound'.settled i h₁ own₁
  have settled₂ := sound'.settled j h₂ own₂
  rw [← index] at settled₁ settled₂
  have later : l.index + a * P / l.sold = l'.index + a * P / l'.sold := by rw [sold, index]
  exact ⟨ne, sound.distribute a, sound'.distribute a, sold, later, free, h, h₁, h₂, own, own₁, own₂,
    parts.later settled settled₁ settled₂ _⟩

end Ledger

end Dividend
