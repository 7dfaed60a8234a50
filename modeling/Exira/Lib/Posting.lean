import Exira.Lib.Token
import Mathlib.Algebra.Group.Int.Defs

/-!
# Postings

What calls of a token program come to: the accounts that they open, and what they add to balances and to
supplies. The postings of calls one after the other add up (`Posts.trans`), and there is one bank with given
postings (`Posts.unique`). So calls in different orders end in the same bank once their postings have the same
sum.
-/

namespace Token

/-- Accounts opened, with their mint and owner, and what is added to balances and to supplies. -/
@[ext]
structure Posting (K : Type) where
  opened : K → Option (K × K)
  credit : K → ℤ
  issue : K → ℤ

namespace Posting

variable {K : Type} [DecidableEq K]

/-- An amount at one key. -/
def single (k : K) (n : BitVec 64) (x : K) : ℤ :=
  if x = k then n.toNat else 0

/-- An account is opened; it may be there already. -/
def opens (k mint owner : K) : Posting K where
  opened := fun x => if x = k then some (mint, owner) else none
  credit := 0
  issue := 0

/-- The posting of a transfer. -/
def transfers (source dest : K) (n : BitVec 64) : Posting K where
  opened := fun _ => none
  credit := single dest n - single source n
  issue := 0

/-- The posting of an issue. -/
def mints (mint dest : K) (n : BitVec 64) : Posting K where
  opened := fun _ => none
  credit := single dest n
  issue := single mint n

/-- One posting after the other. -/
def append (p q : Posting K) : Posting K where
  opened := fun k => (p.opened k).or (q.opened k)
  credit := p.credit + q.credit
  issue := p.issue + q.issue

end Posting

namespace Bank

variable {K : Type} [DecidableEq K] {b b' b'' : Bank K} {p q : Posting K} {n : BitVec 64}
  {source dest mint owner authority k : K}

/-- What a mint keeps: all but its supply. -/
def terms (b : Bank K) (m : K) : Option (Option K × BitVec 8 × Option K) :=
  (b.mints.lookup m).map fun x => (x.mintAuthority, x.decimals, x.freezeAuthority)

/-- The bank `b'` is `b` with the postings `p`. -/
structure Posts (p : Posting K) (b b' : Bank K) : Prop where
  holder : ∀ k, b'.holder k = (b.holder k).or (p.opened k)
  balance : ∀ k, (b'.balance k : ℤ) = b.balance k + p.credit k
  terms : ∀ m, b'.terms m = b.terms m
  supply : ∀ m, (b'.supply m : ℤ) = b.supply m + p.issue m

/-- Two postings follow one another. -/
lemma Posts.trans (h : Posts p b b') (h' : Posts q b' b'') : Posts (p.append q) b b'' where
  holder := by
    intro k
    rw [h'.holder, h.holder, Option.or_assoc]
    rfl
  balance := by
    intro k
    rw [h'.balance, h.balance, Int.add_assoc]
    rfl
  terms := fun m => (h'.terms m).trans (h.terms m)
  supply := by
    intro m
    rw [h'.supply, h.supply, Int.add_assoc]
    rfl

/-- A mint is its terms and its supply. -/
lemma mint_congr {m : K} (terms : b.terms m = b'.terms m) (supply : b.supply m = b'.supply m) :
    b.mints.lookup m = b'.mints.lookup m := by
  unfold Bank.terms at terms
  unfold Bank.supply at supply
  cases e : b.mints.lookup m with
  | none =>
    rw [e, Option.map_none] at terms
    exact (Option.map_eq_none_iff.mp terms.symm).symm
  | some x =>
    rw [e, Option.map_some] at terms
    obtain ⟨y, own, parts⟩ := Option.map_eq_some_iff.mp terms.symm
    rw [e, own] at supply
    have supply : x.supply = y.supply := BitVec.eq_of_toNat_eq supply
    obtain ⟨a, n, d, f⟩ := x
    obtain ⟨a', n', d', f'⟩ := y
    cases parts
    cases supply
    exact own.symm

/-- A bank and its postings determine the bank after them. -/
theorem Posts.unique (h : Posts p b b') (h' : Posts p b b'') : b' = b'' := by
  have accounts : b'.accounts = b''.accounts := by
    apply Finmap.ext_lookup
    intro k
    have balance : (b'.balance k : ℤ) = b''.balance k := (h.balance k).trans (h'.balance k).symm
    exact lookup_congr ((h.holder k).trans (h'.holder k).symm) (Int.ofNat_inj.mp balance)
  have mints : b'.mints = b''.mints := by
    apply Finmap.ext_lookup
    intro m
    have supply : (b'.supply m : ℤ) = b''.supply m := (h.supply m).trans (h'.supply m).symm
    exact mint_congr ((h.terms m).trans (h'.terms m).symm) (Int.ofNat_inj.mp supply)
  obtain ⟨_, _⟩ := b'
  obtain ⟨_, _⟩ := b''
  cases accounts
  cases mints
  rfl

/-! ## The postings of a call -/

/-- A transfer posts what it moves. -/
lemma Posts.transfer (h : b.transfer source dest authority n = .ok b') :
    Posts (.transfers source dest n) b b' where
  holder := by
    intro k
    rw [transfer_holder h]
    exact Option.or_none.symm
  balance := by
    intro k
    have moved := transfer_balance h k
    simp only [Posting.transfers, Pi.sub_apply, Posting.single]
    split_ifs at moved ⊢ <;> omega
  terms := by
    intro m
    rw [Bank.terms, transfer_mints h]
    rfl
  supply := by
    intro m
    rw [transfer_supply h]
    exact (Int.add_zero _).symm

/-- An issue posts what it mints. -/
lemma Posts.mintTo (h : b.mintTo mint dest authority n = .ok b') : Posts (.mints mint dest n) b b' where
  holder := by
    intro k
    rw [mintTo_holder h]
    exact Option.or_none.symm
  balance := by
    intro k
    have more := mintTo_balance h k
    simp only [Posting.mints, Posting.single]
    split_ifs at more ⊢ <;> omega
  terms := by
    intro m
    obtain ⟨_, x, -, found, -, -, _, _, -, -, rfl⟩ := mintTo_inv h
    simp only [Bank.terms, putMint, put, Finmap.lookup_insert_ite]
    split
    · next e => rw [e, found, Option.map_some, Option.map_some]
    · rfl
  supply := by
    intro m
    have more := mintTo_supply h m
    simp only [Posting.mints, Posting.single]
    split_ifs at more ⊢ <;> omega

/-- An account that is there is not opened again. -/
lemma Posts.opened (held : b.holder k = some (mint, owner)) : Posts (.opens k mint owner) b b where
  holder := by
    intro x
    simp only [Posting.opens]
    split_ifs with same
    · rw [same, held, Option.some_or]
    · exact Option.or_none.symm
  balance := fun _ => (Int.add_zero _).symm
  terms := fun _ => rfl
  supply := fun _ => (Int.add_zero _).symm

/-- A new account posts its opening. -/
lemma Posts.initAccount (h : b.initAccount k mint owner = .ok b') : Posts (.opens k mint owner) b b' where
  holder := by
    intro x
    rw [initAccount_holder h]
    simp only [Posting.opens]
    split_ifs with same
    · rw [same, initAccount_free h, Option.none_or]
    · exact Option.or_none.symm
  balance := by
    intro x
    rw [initAccount_balance h]
    exact (Int.add_zero _).symm
  terms := by
    intro m
    rw [Bank.terms, initAccount_mints h]
    rfl
  supply := by
    intro m
    have same : b'.supply m = b.supply m := by
      rw [Bank.supply, initAccount_mints h]
      rfl
    rw [same]
    exact (Int.add_zero _).symm

end Bank

end Token
