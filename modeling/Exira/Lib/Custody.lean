import Exira.Lib.Token

/-!
# Custody

Who can take tokens out of an account: from one bank to a later one, only the accounts of the keys that signed
lose tokens. The relation composes over any sequence of operations.
-/

namespace Token.Bank

variable {K : Type} [DecidableEq K]

/-- Accounts keep their mint and their owner, and only those of `signers` lose tokens. -/
structure Spends (signers : List K) (b b' : Bank K) : Prop where
  holder : ∀ {k x}, b.holder k = some x → b'.holder k = some x
  debit : ∀ {k m w}, b.holder k = some (m, w) → b'.balance k < b.balance k → w ∈ signers

variable {b b' b'' : Bank K} {ws : List K}

/-- A bank that stays spends nothing. -/
lemma Spends.refl (b : Bank K) : Spends ws b b :=
  ⟨id, fun _ less => absurd less (lt_irrefl _)⟩

/-- What is spent in two steps. -/
lemma Spends.trans (h : Spends ws b b') (h' : Spends ws b' b'') : Spends ws b b'' where
  holder := h'.holder ∘ h.holder
  debit := by
    intro k m w own less
    -- the balance falls in the first part or in the second
    rcases lt_or_ge (b'.balance k) (b.balance k) with first | kept
    · exact h.debit own first
    · exact h'.debit (h.holder own) (less.trans_le kept)

/-- Operations that keep every balance spend nothing. -/
lemma Spends.of_balance (holder : ∀ {k x}, b.holder k = some x → b'.holder k = some x)
    (balance : ∀ k, b'.balance k = b.balance k) : Spends ws b b' where
  holder := holder
  debit := by
    intro k m w _ less
    rw [balance] at less
    exact absurd less (lt_irrefl _)

variable {source dest mint authority key owner : K} {n : BitVec 64}

/-- A transfer spends what its authority owns. -/
lemma Spends.transfer (h : b.transfer source dest authority n = .ok b') (mem : authority ∈ ws) :
    Spends ws b b' where
  holder := (transfer_holder h _).trans
  debit := by
    intro k m w own less
    have books := transfer_balance h k
    by_cases e : k = source
    · obtain ⟨m', o, held, -⟩ := transfer_holders h
      rw [e, held] at own
      cases own
      exact mem
    · rw [if_neg e] at books
      omega

/-- A burn spends what its authority owns. -/
lemma Spends.burn (h : b.burn source mint authority n = .ok b') (mem : authority ∈ ws) :
    Spends ws b b' where
  holder := (burn_holder h _).trans
  debit := by
    intro k m w own less
    have books := burn_balance h k
    by_cases e : k = source
    · rw [e, burn_holders h] at own
      cases own
      exact mem
    · rw [if_neg e] at books
      omega

/-- Minting spends nothing. -/
lemma Spends.mintTo (h : b.mintTo mint dest authority n = .ok b') : Spends ws b b' where
  holder := (mintTo_holder h _).trans
  debit := by
    intro k m w _ less
    rw [mintTo_balance h k] at less
    omega

/-- A new mint spends nothing. -/
lemma Spends.initMint {auth freeze : Option K} {d : BitVec 8}
    (h : b.initMint key auth freeze d = .ok b') : Spends ws b b' := by
  have same := initMint_accounts h
  refine .of_balance ?_ fun k => by rw [balance, same]; rfl
  intro k x own
  rwa [Bank.holder, same]

/-- A new account spends nothing. -/
lemma Spends.initAccount (h : b.initAccount key mint owner = .ok b') : Spends ws b b' := by
  refine .of_balance ?_ (initAccount_balance h)
  intro k x own
  rw [initAccount_holder h]
  split
  · next e =>
    rw [e, initAccount_free h] at own
    cases own
  · exact own

end Token.Bank
