import Exira.State.Accounts

/-!
# Shared parts of the instructions

What several instructions do in the same way: creating accounts (`init`, `init_if_needed`), signing for a
derived address, and the lines of arithmetic and bookkeeping that the project handlers and the pool
handlers have in common.
-/

namespace Exira

variable {K : Type} [DecidableEq K] [Addresses K]

/-! ## Creating accounts -/

/-- `init`: the address has no account yet. -/
def vacate (s : State K) (k : K) : Result Unit :=
  constraint (s.Vacant k) .accountAlreadyInUse

/-- `init` of a program account at its derived address -/
def initProgramAccount (s : State K) (k : K) (σ : Seeds K) : Result Unit := do
  constraint (k = findProgramAddress σ) .constraintSeeds
  vacate s k

/-- `init` of a mint, at the address of a fresh key pair, with both authorities `authority`. The key pair signs,
so it could be the payer's; a derived address never is. -/
def initMint (s : State K) (k payer authority : K) : Result (Token.Bank K) := do
  constraint (payer ≠ k) .tryingToInitPayerAsProgramAccount
  vacate s k
  cpi (s.bank.initMint k (some authority) (some authority) EXIRA_TOKEN_DECIMALS)

/-- `init` of an associated token account -/
def initAssociatedToken (s : State K) (k owner mint : K) : Result (Token.Bank K) := do
  constraint (k = associatedToken owner mint) .constraintAssociated
  vacate s k
  cpi (s.bank.initAccount k mint owner)

/-- `init_if_needed` of an associated token account: an existing one must be of that owner and mint. -/
def ensureAssociatedToken (s : State K) (k owner mint : K) : Result (Token.Bank K) := do
  if s.Vacant k then
    initAssociatedToken s k owner mint
  else
    let account ← load s.bank.accounts k
    constraint (account.mint = mint) .constraintTokenMint
    constraint (account.owner = owner) .constraintTokenOwner
    constraint (k = associatedToken owner mint) .constraintAssociated
    return s.bank

/-- `init_if_needed` of the position of `owner` in `target` -/
def ensurePosition (s : State K) (k target owner : K) : Result (InvestorPosition K) := do
  constraint (k = findProgramAddress (.position target owner)) .constraintSeeds
  if s.Vacant k then
    return .zeroed
  else
    load s.positions k

/-- `seeds = [...], bump = account.bump`: the account is at the address that its own fields derive. -/
def checkSeeds (k : K) (σ : Seeds K) (bump : U8) : Result Unit :=
  constraint (k = createProgramAddress σ bump) .constraintSeeds

/-- `CpiContext::new_with_signer`: the seeds sign for the authority. -/
def signWith (authority : K) (σ : Seeds K) (bump : U8) : Result Unit :=
  constraint (authority = createProgramAddress σ bump) .missingRequiredSignature

/-- `token::mint = mint, token::authority = authority`: the authority is compared first. -/
def checkToken (account : Token.Account K) (mint authority : K) : Result Unit := do
  constraint (account.owner = authority) .constraintTokenOwner
  constraint (account.mint = mint) .constraintTokenMint

/-- The platform account of an admin instruction: its seeds, and `has_one = admin`. -/
def checkPlatform (k : K) (platform : Platform K) (admin : K) : Result Unit := do
  checkSeeds k .platform platform.bump
  require (platform.admin = admin) .unauthorized

/-- The auditor account of a signer: active, and registered for that wallet. -/
def checkAuditor (k : K) (auditor : Auditor K) (signer : K) : Result Unit := do
  checkSeeds k (.auditor signer) auditor.bump
  require (auditor.isActive = true) .auditorInactive
  require (auditor.wallet = signer) .unauthorized

/-! ## Positions -/

/-- A position with the zero owner was made by this very purchase: it gets its owner, its target and the
baseline. -/
def openPosition (position : InvestorPosition K) (investor target : K) (cumulative : U128) :
    InvestorPosition K :=
  if position.owner = Addresses.default then
    { position with
      owner := investor
      target := target
      lastClaimedPerToken := cumulative
      totalClaimed := 0
      bump := findBump (.position target investor) }
  else
    position

/-- What a claim pays: the tokens held times the growth of the accumulator, rounded down. -/
def claimable (cumulative last : U128) (held : U64) : Result U64 := do
  let delta ← (cumulative.checkedSub last).okOr (.exira .mathUnderflow)
  let owedScaled ← ((held.setWidth 128).checkedMul delta).okOr (.exira .mathOverflow)
  ((owedScaled / PRECISION).tryFrom 64).okOr (.exira .mathOverflow)

/-- The position after a claim. -/
def settlePosition (position : InvestorPosition K) (cumulative : U128) (owed : U64) :
    Result (InvestorPosition K) := do
  let totalClaimed ← (position.totalClaimed.checkedAdd owed).okOr (.exira .mathOverflow)
  return { position with lastClaimedPerToken := cumulative, totalClaimed := totalClaimed }

/-- The accumulator and the lifetime total after a distribution of `amount`. -/
def accumulate (cumulative : U128) (totalDistributed tokensSold amount : U64) :
    Result (U128 × U64) := do
  let amountScaled ← ((amount.setWidth 128).checkedMul PRECISION).okOr (.exira .mathOverflow)
  let deltaPerToken ← (amountScaled.checkedDiv (tokensSold.setWidth 128)).okOr
    (.exira .mathUnderflow)
  let cumulative' ← (cumulative.checkedAdd deltaPerToken).okOr (.exira .mathOverflow)
  let totalDistributed' ← (totalDistributed.checkedAdd amount).okOr (.exira .mathOverflow)
  return (cumulative', totalDistributed')

/-- The origination fee: `(target as u128 * fee_bps / 10_000) as u64`. -/
def originationFee (target : U64) (feeBps : U16) : Result U64 := do
  let scaled ← ((target.setWidth 128).checkedMul (feeBps.setWidth 128)).okOr (.exira .mathOverflow)
  return (scaled / 10000#128).setWidth 64

/-- The three copies of `pad_into`: a string's bytes, padded with zeros. -/
def padInto (n : ℕ) (src : String) : Result (Vector U8 n) := do
  let bytes := src.toUTF8.toList.map UInt8.toBitVec
  require (bytes.length ≤ n) .stringTooLong
  return Vector.ofFn fun i => bytes.getD i 0

/-! ## What the shared parts check -/

/-- The platform account of an admin instruction: the one of its seeds, and it is `w` who is the admin. -/
structure AdminOf (s : State K) (k w : K) (platform : Platform K) : Prop where
  own : s.platforms.lookup k = some platform
  seeds : k = createProgramAddress .platform platform.bump
  admin : platform.admin = w

/-- The auditor account of an MRV instruction: the one of the signer's seeds, active, and the signer's own. -/
structure AuditorOf (s : State K) (k w : K) (auditor : Auditor K) : Prop where
  own : s.auditors.lookup k = some auditor
  seeds : k = createProgramAddress (.auditor w) auditor.bump
  active : auditor.isActive = true
  wallet : auditor.wallet = w

section
variable {k w : K} {u : Unit}

/-- An account is checked to be at its seeds. -/
@[simp]
lemma checkSeeds_eq_ok {σ : Seeds K} {b : U8} : checkSeeds k σ b = .ok u ↔ k = createProgramAddress σ b :=
  constraint_eq_ok

/-- A signature is made with the seeds of the signer. -/
@[simp]
lemma signWith_eq_ok {σ : Seeds K} {b : U8} : signWith k σ b = .ok u ↔ k = createProgramAddress σ b :=
  constraint_eq_ok

omit [Addresses K] in
/-- A token account is checked to have its owner and its mint. -/
@[simp]
lemma checkToken_eq_ok {account : Token.Account K} {mint : K} :
    checkToken account mint w = .ok u ↔ account.owner = w ∧ account.mint = mint := by
  simp only [checkToken, Except.bind_eq_ok, constraint_eq_ok, exists_const]

/-- The platform is checked to be at its seeds and to have the admin. -/
@[simp]
lemma checkPlatform_eq_ok {platform : Platform K} :
    checkPlatform k platform w = .ok u ↔
      k = createProgramAddress .platform platform.bump ∧ platform.admin = w := by
  simp only [checkPlatform, Except.bind_eq_ok, checkSeeds_eq_ok, require_eq_ok, exists_const]

/-- An auditor is checked to be at their seeds, active, and the signer. -/
@[simp]
lemma checkAuditor_eq_ok {auditor : Auditor K} :
    checkAuditor k auditor w = .ok u ↔
      k = createProgramAddress (.auditor w) auditor.bump ∧ auditor.isActive = true ∧ auditor.wallet = w := by
  simp only [checkAuditor, Except.bind_eq_ok, checkSeeds_eq_ok, require_eq_ok, exists_const]

end

section
variable {s : State K} {k : K} {bank : Token.Bank K}

/-- `init` needs a vacant address, that of the seeds. -/
lemma initProgramAccount_ok {σ : Seeds K} {u : Unit} :
    initProgramAccount s k σ = .ok u ↔ k = findProgramAddress σ ∧ s.Vacant k := by
  simp only [initProgramAccount, vacate, Except.bind_eq_ok, constraint_eq_ok, exists_const]

omit [Addresses K] in
/-- A mint is made at a vacant address, which is not the payer's. -/
lemma initMint_ok {payer authority : K} :
    initMint s k payer authority = .ok bank ↔ payer ≠ k ∧ s.Vacant k ∧
      s.bank.initMint k (some authority) (some authority) EXIRA_TOKEN_DECIMALS = .ok bank := by
  simp only [initMint, vacate, Except.bind_eq_ok, constraint_eq_ok, cpi_eq_ok, exists_const]

/-- An associated account is made at a vacant address, its own. -/
lemma initAssociatedToken_ok {owner mint : K} :
    initAssociatedToken s k owner mint = .ok bank ↔
      k = associatedToken owner mint ∧ s.Vacant k ∧ s.bank.initAccount k mint owner = .ok bank := by
  simp only [initAssociatedToken, vacate, Except.bind_eq_ok, constraint_eq_ok, cpi_eq_ok, exists_const]

/-- `init_if_needed` makes the account, or finds it. -/
lemma ensureAssociatedToken_ok {owner mint : K}
    (h : ensureAssociatedToken s k owner mint = .ok bank) :
    k = associatedToken owner mint ∧
      (s.bank.initAccount k mint owner = .ok bank ∨
        bank = s.bank ∧ s.bank.holder k = some (mint, owner)) := by
  unfold ensureAssociatedToken at h
  split at h
  · obtain ⟨place, -, run⟩ := initAssociatedToken_ok.mp h
    exact ⟨place, .inl run⟩
  · simp only [Except.bind_eq_ok, load_eq_ok, constraint_eq_ok, exists_const] at h
    obtain ⟨account, own, rfl, rfl, place, h⟩ := h
    cases h
    exact ⟨place, .inr ⟨rfl, Token.Bank.holder_eq own⟩⟩

/-- `init_if_needed` writes no other account, and no mint. -/
lemma ensureAssociatedToken_frame {owner mint : K}
    (h : ensureAssociatedToken s k owner mint = .ok bank) :
    bank.mints = s.bank.mints ∧
      ∀ k', k' ≠ k → bank.accounts.lookup k' = s.bank.accounts.lookup k' := by
  obtain ⟨-, run | ⟨rfl, -⟩⟩ := ensureAssociatedToken_ok h
  · exact ⟨Token.Bank.initAccount_mints run, fun _ ne => Token.Bank.initAccount_lookup_ne run ne⟩
  · exact ⟨rfl, fun _ _ => rfl⟩

/-- `init_if_needed` makes a zeroed position, or finds one. -/
lemma ensurePosition_ok {target owner : K} {q : InvestorPosition K}
    (h : ensurePosition s k target owner = .ok q) :
    k = findProgramAddress (.position target owner) ∧
      (s.positions.lookup k = none ∧ q = .zeroed ∨ s.positions.lookup k = some q) := by
  simp only [ensurePosition, Except.bind_eq_ok, constraint_eq_ok, exists_const] at h
  obtain ⟨place, h⟩ := h
  refine ⟨place, ?_⟩
  split at h
  · next vacant =>
    cases h
    refine .inl ⟨?_, rfl⟩
    rw [Finmap.lookup_eq_none]
    exact fun mem => vacant.1 (.inr (.inr (.inr (.inr (.inl mem)))))
  · exact .inr (load_eq_ok.mp h)

end

/-- What a position can claim. -/
lemma claimable_ok {cumulative last : U128} {held owed : U64}
    (h : claimable cumulative last held = .ok owed) :
    last.toNat ≤ cumulative.toNat ∧
      owed.toNat = held.toNat * (cumulative.toNat - last.toNat) / PRECISION.toNat := by
  simp only [claimable, Except.bind_eq_ok, Option.okOr_eq_ok, BitVec.checkedSub_eq_some,
    BitVec.checkedMul_eq_some, BitVec.tryFrom_eq_some, BitVec.toNat_udiv] at h
  obtain ⟨delta, ⟨le, hd⟩, scaled, hs, ho⟩ := h
  refine ⟨le, ?_⟩
  rw [ho, hs, hd, BitVec.toNat_setWidth_widen _ (by decide)]

omit [DecidableEq K] [Addresses K] in
/-- A settled position has the index and a larger total. -/
lemma settlePosition_ok {q q' : InvestorPosition K} {cumulative : U128} {owed : U64}
    (h : settlePosition q cumulative owed = .ok q') :
    ∃ total : U64, total.toNat = q.totalClaimed.toNat + owed.toNat ∧
      q' = { q with lastClaimedPerToken := cumulative, totalClaimed := total } := by
  simp only [settlePosition, Except.bind_eq_ok, Option.okOr_eq_ok, BitVec.checkedAdd_eq_some] at h
  obtain ⟨total, ht, h⟩ := h
  cases h
  exact ⟨total, ht, rfl⟩

/-- What a distribution adds to the index and to the total. -/
lemma accumulate_ok {cumulative cumulative' : U128} {distributed distributed' sold amount : U64}
    (h : accumulate cumulative distributed sold amount = .ok (cumulative', distributed')) :
    cumulative'.toNat = cumulative.toNat + amount.toNat * PRECISION.toNat / sold.toNat ∧
      distributed'.toNat = distributed.toNat + amount.toNat := by
  simp only [accumulate, Except.bind_eq_ok, Option.okOr_eq_ok, BitVec.checkedMul_eq_some,
    BitVec.checkedDiv_eq_some, BitVec.checkedAdd_eq_some] at h
  obtain ⟨scaled, hs, delta, ⟨-, hd⟩, c, hc, d, ht, h⟩ := h
  cases h
  refine ⟨?_, ht⟩
  rw [hc, hd, hs, BitVec.toNat_setWidth_widen _ (by decide), BitVec.toNat_setWidth_widen _ (by decide)]

/-- A fee of at most 10000 basis points fits the target's type: the truncating cast keeps it. -/
lemma originationFee_ok {target fee : U64} {feeBps : U16} (h : originationFee target feeBps = .ok fee)
    (le : feeBps.toNat ≤ MAX_FEE_BPS.toNat) :
    fee.toNat = target.toNat * feeBps.toNat / 10000 := by
  simp only [originationFee, Except.bind_eq_ok, Option.okOr_eq_ok, BitVec.checkedMul_eq_some] at h
  obtain ⟨scaled, hs, h⟩ := h
  cases h
  rw [BitVec.toNat_setWidth_widen _ (by decide), BitVec.toNat_setWidth_widen _ (by decide)] at hs
  have bound : target.toNat * feeBps.toNat ≤ target.toNat * 10000 := Nat.mul_le_mul_left _ le
  have lt := target.isLt
  rw [BitVec.toNat_setWidth, BitVec.toNat_udiv, hs]
  show target.toNat * feeBps.toNat / 10000 % 2 ^ 64 = _
  apply Nat.mod_eq_of_lt
  omega

/-! ## Errors that the shared parts do not raise -/

/-- The errors of the program for which `bad` holds. -/
def Error.In (bad : ExiraError → Prop) : Error → Prop
  | .exira e => bad e
  | _ => False

section
variable {bad : ExiraError → Prop} {V α : Type}

omit [Addresses K] in
/-- Loading an account raises no error of the program. -/
lemma avoids_load {m : Table K V} {k : K} : (load m k).Avoids (Error.In bad) :=
  .okOr id

/-- A requirement raises its own error only. -/
lemma avoids_require {c : Prop} [Decidable c] {e : ExiraError} (h : ¬ bad e) :
    (require c e).Avoids (Error.In bad) :=
  .require h

/-- A constraint raises no error of the program. -/
lemma avoids_constraint {c : Prop} [Decidable c] {e : AnchorError} :
    (constraint c e).Avoids (Error.In bad) :=
  .require id

/-- The seeds' check raises no error of the program. -/
lemma avoids_checkSeeds {k : K} {σ : Seeds K} {b : U8} :
    (checkSeeds k σ b).Avoids (Error.In bad) :=
  avoids_constraint

/-- Signing raises no error of the program. -/
lemma avoids_signWith {k : K} {σ : Seeds K} {b : U8} : (signWith k σ b).Avoids (Error.In bad) :=
  avoids_constraint

/-- The platform's check raises `Unauthorized` only. -/
lemma avoids_checkPlatform {k w : K} {platform : Platform K} (h : ¬ bad .unauthorized) :
    (checkPlatform k platform w).Avoids (Error.In bad) :=
  .bind avoids_checkSeeds fun _ _ => avoids_require h

omit [Addresses K] in
/-- The check for duplicates raises no error of the program. -/
lemma avoids_noDuplicates {ks : List K} : (noDuplicates ks).Avoids (Error.In bad) :=
  avoids_constraint

/-- The token program raises no error of the program. -/
lemma avoids_cpi {x : Except Token.Error α} : (cpi x).Avoids (Error.In bad) :=
  .mapError fun _ => id

omit [Addresses K] in
/-- The check of a token account raises no error of the program. -/
lemma avoids_checkToken {account : Token.Account K} {mint owner : K} :
    (checkToken account mint owner).Avoids (Error.In bad) :=
  .bind avoids_constraint fun _ _ => avoids_constraint

/-- An associated account is ensured without an error of the program. -/
lemma avoids_ensureAssociatedToken {s : State K} {k owner mint : K} :
    (ensureAssociatedToken s k owner mint).Avoids (Error.In bad) := by
  unfold ensureAssociatedToken
  split
  · exact .bind avoids_constraint fun _ _ => .bind avoids_constraint fun _ _ => avoids_cpi
  · refine .bind avoids_load fun _ _ => .bind avoids_constraint fun _ _ => ?_
    exact .bind avoids_constraint fun _ _ => .bind avoids_constraint fun _ _ => .ok _

/-- A position is ensured without an error of the program. -/
lemma avoids_ensurePosition {s : State K} {k target owner : K} :
    (ensurePosition s k target owner).Avoids (Error.In bad) := by
  refine .bind avoids_constraint fun _ _ => ?_
  split
  · exact .ok _
  · exact avoids_load

omit [DecidableEq K] [Addresses K] in
/-- Settling raises an overflow only. -/
lemma avoids_settlePosition {q : InvestorPosition K} {cumulative : U128} {owed : U64}
    (overflow : ¬ bad .mathOverflow) : (settlePosition q cumulative owed).Avoids (Error.In bad) :=
  .bind (.okOr overflow) fun _ _ => .ok _

end

/-- The amount of a claim does not underflow when the position is settled at most at the index. -/
lemma avoids_claimable {bad : ExiraError → Prop} {cumulative last : U128} {held : U64}
    (underflow : ¬ bad .mathUnderflow ∨ last.toNat ≤ cumulative.toNat)
    (overflow : ¬ bad .mathOverflow) : (claimable cumulative last held).Avoids (Error.In bad) := by
  refine .bind ?_ fun _ _ => .bind (.okOr overflow) fun _ _ => .okOr overflow
  rcases underflow with spared | le
  · exact .okOr spared
  · refine .okOr_some ?_
    rw [Ne, BitVec.checkedSub_eq_none]
    exact Nat.not_lt.mpr le

end Exira
