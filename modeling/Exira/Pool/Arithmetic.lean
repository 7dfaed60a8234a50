import Exira.Books.Accrual
import Exira.Project.Arithmetic

/-!
# The arithmetic of pools

As for a project, a distribution to a pool fails in its arithmetic for the lifetime total alone. A claim in a
pool is not as in a project: a later purchase of a holder inherits what was distributed before it, so nothing
bounds what a position is owed. Its entitlement, what it claimed and what it is owed, never falls, and a claim
goes through only while the entitlement fits a `u64`. Beyond that the position is locked for good.
-/

namespace Exira

open Dividend

/-! ## Entitlements -/

namespace Fund

variable {ι : Type} [DecidableEq ι] {P : ℕ} {f f' : Fund ι} {e : Event ι} {i : ι} {h : Holding}

/-- What a holding has claimed and is owed. -/
def entitled (P index : ℕ) (h : Holding) : ℕ :=
  h.claimed + h.owed P index

/-- Only the holder's claim counts as claimed. -/
lemma act_claimed (P index : ℕ) (h : Holding) (other : e ≠ .claim i) :
    (e.act P index i h).claimed = h.claimed := by
  cases e with
  | claim j =>
    have ne : j ≠ i := fun same => other (congrArg Event.claim same)
    simp only [Event.act, if_neg ne]
  | buy j =>
    simp only [Event.act]
    split <;> rfl
  | exit j =>
    simp only [Event.act]
    split <;> rfl
  | _ => rfl

/-- No event lowers what a holding is entitled to. -/
lemma Step.entitled_le (sound : f.Sound) (st : f.Step P e f') :
    entitled P f.index h ≤ entitled P f'.index (e.act P f.index i h) := by
  by_cases claims : e = .claim i
  · subst claims
    cases st with
    | claim =>
      simp only [entitled, Event.act, if_true, Holding.settle]
      exact Nat.le_add_right _ _
  · have pending := st.pending_le sound (h := h) claims
    rw [entitled, entitled, act_claimed P f.index h claims]
    exact Nat.add_le_add_left (Nat.div_le_div_right pending) _

end Fund

variable {K : Type} [DecidableEq K] [Addresses K]

/-- At every later state of a run a holding is entitled to no less. -/
lemma Genesis.entitled_later (g : Genesis K) (as bs : List (Action K)) {t : Target K} {f : Fund K} {k : K}
    {h : Holding} (own : (g.run as).fund t = some f) (held : f.holdings.lookup k = some h) :
    ∃ f' h', (g.run (as ++ bs)).fund t = some f' ∧ f'.holdings.lookup k = some h' ∧
      Fund.entitled PRECISION.toNat f.index h ≤ Fund.entitled PRECISION.toNat f'.index h' := by
  obtain ⟨f', own', h', held', le⟩ := g.fund_later as bs own
    (Q := fun f' => ∃ h', f'.holdings.lookup k = some h' ∧
      Fund.entitled PRECISION.toNat f.index h ≤ Fund.entitled PRECISION.toNat f'.index h')
    ⟨h, held, Nat.le_refl _⟩ (by
      rintro f₁ e f₂ sound ⟨h₁, held₁, le⟩ st
      exact ⟨_, st.lookup held₁, le.trans (st.entitled_le sound)⟩)
  exact ⟨f', h', own', held', le⟩

/-- A position of a pool that is entitled to more than a `u64` is never claimed again. -/
lemma Genesis.locked (g : Genesis K) (as bs : List (Action K)) {p k : K} {pool : Pool K}
    {q : InvestorPosition K} (own : (g.run as).pools.lookup p = some pool)
    (held : (g.run as).positions.lookup k = some q) (target : q.target = p)
    (excess : 2 ^ 64 ≤ q.totalClaimed.toNat + q.owed pool.cumulativeUsdcPerToken) {x : Action K}
    (claims : x.ClaimsAt k) {s' : State K} : step (g.run (as ++ bs)) x ≠ .ok s' := by
  intro st
  subst target
  have holding := View.lookup_holdings_of (v := (g.run as).view) held
  obtain ⟨f, h, own₁, held₁, le⟩ := g.entitled_later as bs (State.fund_pool own) holding
  obtain ⟨pool₁, found, rfl⟩ := State.fund_pool_some own₁
  obtain ⟨q₁, there, target, rfl⟩ := View.lookup_holdings held₁
  have le : q.totalClaimed.toNat + q.owed pool.cumulativeUsdcPerToken
      ≤ q₁.totalClaimed.toNat + q₁.owed pool₁.cumulativeUsdcPerToken := le
  obtain ⟨_, q', -, -, -, pays⟩ := pool_accrual (g.run_wf (as ++ bs)) found there target
    (g.fund_sound (as ++ bs) (State.fund_pool found)) st
  obtain ⟨_, _, -, -, -, paid⟩ := pays claims
  have claimed := paid.claimed
  have fits := q'.totalClaimed.isLt
  omega

/-! ## Distributions -/

variable {s : State K}

/-- What a distribution does before its arithmetic: its guards, and the transfer of the amount. -/
def returnsTransfer (s : State K) (a : DistributePoolReturns K) (amount : U64) :
    Result (Pool K × Token.Bank K) := do
  let platform ← load s.platforms a.platform
  let pool ← load s.pools a.pool
  let adminUsdcAta ← load s.bank.accounts a.adminUsdcAta
  let _ ← load s.bank.accounts a.usdcVault
  let _ ← load s.bank.mints a.usdcMint
  noDuplicates [a.pool, a.adminUsdcAta, a.usdcVault]
  checkPlatform a.platform platform a.admin
  require (platform.usdcMint = a.usdcMint) .invalidUsdcMint
  checkSeeds a.pool (.pool pool.poolId) pool.bump
  require (pool.usdcVault = a.usdcVault) .wrongVault
  checkToken adminUsdcAta a.usdcMint a.admin
  require (0 < amount) .zeroAmount
  require (0 < pool.tokensSold) .noTokensSold
  let bank ← cpi (s.bank.transfer a.adminUsdcAta a.usdcVault a.admin amount)
  return (pool, bank)

/-- What a distribution does after the transfer. -/
def returnsBook (s : State K) (a : DistributePoolReturns K) (amount : U64) (x : Pool K × Token.Bank K) :
    Result (State K) := do
  let (cumulative, totalDistributed) ← accumulate x.1.cumulativeUsdcPerToken
    x.1.totalDistributed x.1.tokensSold amount
  return { s with
    pools := s.pools.insert a.pool { x.1 with
      cumulativeUsdcPerToken := cumulative
      totalDistributed := totalDistributed }
    bank := x.2 }

/-- A return is its transfer and then its entry in the books. -/
lemma distributePoolReturns_eq (s : State K) (a : DistributePoolReturns K) (n : U64) :
    distributePoolReturns s a n = returnsTransfer s a n >>= returnsBook s a n := by
  simp only [distributePoolReturns, returnsTransfer, returnsBook, bind_assoc, pure_bind]

/-- What the transfer of a return has checked. -/
lemma returnsTransfer_ok {a : DistributePoolReturns K} {n : U64} {pool : Pool K} {b : Token.Bank K}
    (h : returnsTransfer s a n = .ok (pool, b)) :
    (∃ platform, AdminOf s a.platform a.admin platform) ∧
      s.pools.lookup a.pool = some pool ∧ 0 < pool.tokensSold := by
  simp only [returnsTransfer, Except.bind_eq_ok, load_eq_ok, require_eq_ok, checkPlatform_eq_ok,
    exists_and_left, exists_const] at h
  obtain ⟨platform, known, _, own, _, -, _, -, _, -, _, -, ⟨seeds, admin⟩, -, _, -, -, _, -, -, sold, _, -, h⟩ := h
  cases h
  exact ⟨⟨platform, known, seeds, admin⟩, own, sold⟩

/-- Nothing before the arithmetic raises an arithmetic error. -/
lemma returnsTransfer_avoids (a : DistributePoolReturns K) (n : U64) :
    (returnsTransfer s a n).Avoids (Error.In ExiraError.Math) := by
  unfold returnsTransfer
  refine .bind avoids_load fun _ _ => ?_
  refine .bind avoids_load fun _ _ => ?_
  refine .bind avoids_load fun _ _ => ?_
  refine .bind avoids_load fun _ _ => ?_
  refine .bind avoids_load fun _ _ => ?_
  refine .bind avoids_noDuplicates fun _ _ => ?_
  refine .bind (avoids_checkPlatform nofun) fun _ _ => ?_
  refine .bind (avoids_require nofun) fun _ _ => ?_
  refine .bind avoids_checkSeeds fun _ _ => ?_
  refine .bind (avoids_require nofun) fun _ _ => ?_
  refine .bind avoids_checkToken fun _ _ => ?_
  refine .bind (avoids_require nofun) fun _ _ => ?_
  refine .bind (avoids_require nofun) fun _ _ => ?_
  exact .bind avoids_cpi fun _ _ => .ok _

namespace Genesis

variable {g : Genesis K} {as : List (Action K)}

/-- The index of a pool has room for a distribution of any amount. -/
lemma pool_index_room (g : Genesis K) (as : List (Action K)) {p : K} {pool : Pool K}
    (own : (g.run as).pools.lookup p = some pool) (n : U64) (sold : ℕ) :
    pool.cumulativeUsdcPerToken.toNat + n.toNat * PRECISION.toNat / sold < 2 ^ 128 := by
  have index := (g.reaches as (State.fund_pool own)).index_le
  have index : pool.cumulativeUsdcPerToken.toNat ≤ pool.totalDistributed.toNat * PRECISION.toNat := index
  have total := pool.totalDistributed.isLt
  have amount := n.isLt
  have scale : PRECISION.toNat = 1000000000000 := rfl
  have growth := Nat.div_le_self (n.toNat * PRECISION.toNat) sold
  rw [scale] at index growth ⊢
  omega

section
variable {a : DistributePoolReturns K} {n : U64} {pool : Pool K} {b : Token.Bank K}

/-- A distribution that passed its guards was signed by the admin. -/
lemma returns_signed (h : returnsTransfer (g.run as) a n = .ok (pool, b)) (now : Int64) :
    step (g.run as) (.call now (.distributePoolReturns a n)) = distributePoolReturns (g.run as) a n := by
  obtain ⟨⟨platform, loaded⟩, -⟩ := returnsTransfer_ok h
  obtain ⟨-, known, -⟩ := (g.run_wf as).side.platform loaded
  have signs := (g.platform_sound as platform known).signs
  rw [loaded.admin] at signs
  refine Except.bind_of_ok (constraint_ok ?_ _) _
  simp only [Instruction.signers, List.all_cons, List.all_nil, signs, Bool.and_true]

/-- After the transfer a distribution fails for its total alone. -/
lemma returns_eq (h : returnsTransfer (g.run as) a n = .ok (pool, b)) (now : Int64) :
    ∃ next : U64 → State K, step (g.run as) (.call now (.distributePoolReturns a n))
      = (pool.totalDistributed.checkedAdd n).okOr (.exira .mathOverflow) >>= fun d => .ok (next d) := by
  obtain ⟨-, own, sold⟩ := returnsTransfer_ok h
  obtain ⟨c, e⟩ := accumulate_eq pool.totalDistributed (BitVec.lt_def.mp sold)
    (g.pool_index_room as own n pool.tokensSold.toNat)
  rw [returns_signed h now, distributePoolReturns_eq, Except.bind_of_ok h, returnsBook, e, bind_assoc]
  exact ⟨_, rfl⟩

/-- A distribution that does not get through the transfer raises another error. -/
lemma returns_stopped {e' : Error} (h : returnsTransfer (g.run as) a n = .error e') (now : Int64) :
    (step (g.run as) (.call now (.distributePoolReturns a n))).Avoids (Error.In ExiraError.Math) ∧
      ∀ s', step (g.run as) (.call now (.distributePoolReturns a n)) ≠ .ok s' := by
  have stopped : distributePoolReturns (g.run as) a n = .error e' := by
    rw [distributePoolReturns_eq, h]
    rfl
  constructor
  · apply step_avoids
    show (distributePoolReturns (g.run as) a n).Avoids _
    rw [stopped]
    intro x same
    cases same
    exact returnsTransfer_avoids a n e' h
  · intro s' st
    cases stopped.symm.trans (step_call st).2

end

end Genesis

/-! ## Claims -/

/-- What a claim does before its arithmetic: its guards, and the account for the payment. -/
def poolClaimChecks (s : State K) (a : ClaimPoolReturns K) :
    Result (Pool K × Token.Account K × InvestorPosition K × Token.Bank K) := do
  let pool ← load s.pools a.pool
  let usdcVault ← load s.bank.accounts a.usdcVault
  let position ← load s.positions a.position
  let _ ← load s.bank.mints a.usdcMint
  let bank ← ensureAssociatedToken s a.investorUsdcAta a.investor a.usdcMint
  noDuplicates [a.usdcVault, a.position, a.investorUsdcAta]
  checkSeeds a.pool (.pool pool.poolId) pool.bump
  require (pool.usdcVault = a.usdcVault) .wrongVault
  checkSeeds a.position (.position a.pool a.investor) position.bump
  require (position.owner = a.investor) .unauthorized
  require (position.target = a.pool) .wrongPlatform
  return (pool, usdcVault, position, bank)

/-- What a claim does with the amount: its guards, and the transfer from the vault. -/
def poolClaimPays (a : ClaimPoolReturns K) (pool : Pool K) (usdcVault : Token.Account K) (bank : Token.Bank K)
    (owed : U64) : Result (Token.Bank K) := do
  require (0 < owed) .nothingToClaim
  require (owed ≤ usdcVault.amount) .insufficientVaultBalance
  signWith a.pool (.pool pool.poolId) pool.bump
  cpi (bank.transfer a.usdcVault a.investorUsdcAta a.pool owed)

/-- What a claim writes. -/
def poolClaimBook (s : State K) (a : ClaimPoolReturns K) (pool : Pool K) (position : InvestorPosition K)
    (owed : U64) (bank : Token.Bank K) : Result (State K) := do
  let position ← settlePosition position pool.cumulativeUsdcPerToken owed
  return { s with
    positions := s.positions.insert a.position position
    bank := bank }

/-- A claim is its checks, its amount, its payment and its entry in the books. -/
lemma claimPoolReturns_eq (s : State K) (a : ClaimPoolReturns K) :
    claimPoolReturns s a = poolClaimChecks s a >>= fun x =>
      claimable x.1.cumulativeUsdcPerToken x.2.2.1.lastClaimedPerToken x.2.2.1.tokensHeld >>= fun owed =>
        poolClaimPays a x.1 x.2.1 x.2.2.2 owed >>= fun bank => poolClaimBook s a x.1 x.2.2.1 owed bank := by
  simp only [claimPoolReturns, poolClaimChecks, poolClaimPays, poolClaimBook, bind_assoc, pure_bind]

/-- The checks of a claim do no arithmetic. -/
lemma poolClaimChecks_avoids (a : ClaimPoolReturns K) :
    (poolClaimChecks s a).Avoids (Error.In ExiraError.Math) := by
  refine .bind avoids_load fun _ _ => ?_
  refine .bind avoids_load fun _ _ => ?_
  refine .bind avoids_load fun _ _ => ?_
  refine .bind avoids_load fun _ _ => ?_
  refine .bind avoids_ensureAssociatedToken fun _ _ => ?_
  refine .bind avoids_noDuplicates fun _ _ => ?_
  refine .bind avoids_checkSeeds fun _ _ => ?_
  refine .bind (avoids_require nofun) fun _ _ => ?_
  refine .bind avoids_checkSeeds fun _ _ => ?_
  refine .bind (avoids_require nofun) fun _ _ => ?_
  exact .bind (avoids_require nofun) fun _ _ => .ok _

/-- The payment of a claim does no arithmetic. -/
lemma poolClaimPays_avoids (a : ClaimPoolReturns K) (pool : Pool K) (usdcVault : Token.Account K)
    (bank : Token.Bank K) (owed : U64) :
    (poolClaimPays a pool usdcVault bank owed).Avoids (Error.In ExiraError.Math) := by
  refine .bind (avoids_require nofun) fun _ _ => ?_
  refine .bind (avoids_require nofun) fun _ _ => ?_
  exact .bind avoids_signWith fun _ _ => avoids_cpi

/-- What the checks of a claim have found. -/
lemma poolClaimChecks_ok {a : ClaimPoolReturns K} {x} (h : poolClaimChecks s a = .ok x) :
    s.pools.lookup a.pool = some x.1 ∧ s.positions.lookup a.position = some x.2.2.1 ∧
      a.position = createProgramAddress (.position a.pool a.investor) x.2.2.1.bump := by
  simp only [poolClaimChecks, Except.bind_eq_ok, load_eq_ok, require_eq_ok, checkSeeds_eq_ok,
    exists_and_left, exists_const] at h
  obtain ⟨pool, own, _, -, q, held, _, -, b, -, _, -, -, -, seeds, -, -, h⟩ := h
  cases h
  exact ⟨own, held, seeds⟩

/-- An amount that does not fit is an overflow. -/
lemma claimable_overflows {cumulative last : U128} {held : U64} (settled : last.toNat ≤ cumulative.toNat)
    (excess : 2 ^ 64 ≤ held.toNat * (cumulative.toNat - last.toNat) / PRECISION.toNat) :
    claimable cumulative last held = .error (.exira .mathOverflow) := by
  obtain ⟨delta, hd⟩ := BitVec.checkedSub_of_le settled
  have value := (BitVec.checkedSub_eq_some.mp hd).2
  rw [claimable, Except.bind_of_ok (Option.okOr_eq_ok.mpr hd)]
  cases hp : (held.setWidth 128).checkedMul delta with
  | none => rfl
  | some product =>
    rw [Except.bind_of_ok (Option.okOr_eq_ok.mpr rfl)]
    have value' := BitVec.checkedMul_eq_some.mp hp
    rw [BitVec.toNat_setWidth_widen _ (by decide), value] at value'
    cases ho : (product / PRECISION).tryFrom 64 with
    | none => rfl
    | some owed =>
      have amount := BitVec.tryFrom_eq_some.mp ho
      rw [BitVec.toNat_udiv, value'] at amount
      have fits := owed.isLt
      omega

namespace Genesis

variable {g : Genesis K} {as : List (Action K)} {a : ClaimPoolReturns K} {pool : Pool K}
  {vault : Token.Account K} {q : InvestorPosition K} {b : Token.Bank K}

/-- A claim that passed its guards was signed by the owner of a position of the pool. -/
lemma poolClaim_signed (h : poolClaimChecks (g.run as) a = .ok (pool, vault, q, b)) (now : Int64) :
    step (g.run as) (.call now (.claimPoolReturns a)) = claimPoolReturns (g.run as) a ∧
      q.lastClaimedPerToken.toNat ≤ pool.cumulativeUsdcPerToken.toNat := by
  obtain ⟨own, held, seeds⟩ := poolClaimChecks_ok h
  have placed := (g.run_wf as).view.checkedPosition held seeds
  have holding := View.lookup_holdings_of (v := (g.run as).view) held
  rw [placed.target] at holding
  refine ⟨Except.bind_of_ok (constraint_ok ?_ _) _, ?_⟩
  · simp only [Instruction.signers, List.all_cons, List.all_nil, placed.signs, Bool.and_true]
  · exact (g.fund_sound as (State.fund_pool own)).ledger.settled _ _ holding

/-- A claim of an amount that fits fails in its arithmetic for the position's total alone. -/
lemma poolClaim_eq (h : poolClaimChecks (g.run as) a = .ok (pool, vault, q, b))
    (fits : q.owed pool.cumulativeUsdcPerToken < 2 ^ 64) (now : Int64) :
    ∃ owed : U64, owed.toNat = q.owed pool.cumulativeUsdcPerToken ∧
      step (g.run as) (.call now (.claimPoolReturns a))
        = poolClaimPays a pool vault b owed >>= fun bank => poolClaimBook (g.run as) a pool q owed bank := by
  obtain ⟨signed, settled⟩ := poolClaim_signed h now
  have scaled : q.pending pool.cumulativeUsdcPerToken < 2 ^ 128 :=
    (Nat.lt_mul_of_div_lt fits (by decide)).trans_le (by decide)
  obtain ⟨owed, pays⟩ := claimable_of settled scaled fits
  refine ⟨owed, (claimable_ok pays).2, ?_⟩
  rw [signed, claimPoolReturns_eq, Except.bind_of_ok h, Except.bind_of_ok pays]

/-- A claim that does not get to its arithmetic raises another error. -/
lemma poolClaim_stopped {e' : Error} (h : poolClaimChecks (g.run as) a = .error e') (now : Int64) :
    (step (g.run as) (.call now (.claimPoolReturns a))).Avoids (Error.In ExiraError.Math) := by
  apply step_avoids
  show (claimPoolReturns (g.run as) a).Avoids _
  rw [claimPoolReturns_eq, h]
  intro x same
  cases same
  exact poolClaimChecks_avoids a e' h

end Genesis

/-- The entitlement of the position does not fit: the amount of the claim, or else the total that it is
added to once it is paid. -/
def ClaimOverflows (a : ClaimPoolReturns K) (pool : Pool K) (vault : Token.Account K) (q : InvestorPosition K)
    (bank : Token.Bank K) : Prop :=
  2 ^ 64 ≤ q.owed pool.cumulativeUsdcPerToken ∨
    ∃ owed bank', owed.toNat = q.owed pool.cumulativeUsdcPerToken ∧
      poolClaimPays a pool vault bank owed = .ok bank' ∧
      2 ^ 64 ≤ q.totalClaimed.toNat + q.owed pool.cumulativeUsdcPerToken

/-- A claim raises no arithmetic error but the overflow of its entitlement. -/
lemma Genesis.poolClaim_math (g : Genesis K) (as : List (Action K)) (now : Int64) (a : ClaimPoolReturns K) :
    step (g.run as) (.call now (.claimPoolReturns a)) ≠ .error (.exira .mathUnderflow) ∧
      (step (g.run as) (.call now (.claimPoolReturns a)) = .error (.exira .mathOverflow) ↔
        ∃ pool vault q bank, poolClaimChecks (g.run as) a = .ok (pool, vault, q, bank) ∧
          ClaimOverflows a pool vault q bank) := by
  cases checks : poolClaimChecks (g.run as) a with
  | error e' =>
    have avoids := Genesis.poolClaim_stopped checks now
    refine ⟨avoids_ne avoids (.inr rfl), iff_of_false (avoids_ne avoids (.inl rfl)) ?_⟩
    rintro ⟨_, _, _, _, ⟨⟩, -⟩
  | ok x =>
    obtain ⟨pool, vault, q, bank⟩ := x
    -- three places: the product, the transfer, and the total of the position
    by_cases fits : q.owed pool.cumulativeUsdcPerToken < 2 ^ 64
    · obtain ⟨owed, value, run⟩ := Genesis.poolClaim_eq checks fits now
      rw [run]
      cases pays : poolClaimPays a pool vault bank owed with
      | error e' =>
        have other : ¬ Error.In ExiraError.Math e' := poolClaimPays_avoids a pool vault bank owed e' pays
        refine ⟨?_, iff_of_false ?_ ?_⟩
        · rintro ⟨⟩
          exact other (.inr rfl)
        · rintro ⟨⟩
          exact other (.inl rfl)
        · rintro ⟨_, _, _, _, ⟨⟩, excess | ⟨owed', bank', value', pays', -⟩⟩
          · omega
          · rw [BitVec.eq_of_toNat_eq (value'.trans value.symm), pays] at pays'
            cases pays'
      | ok bank' =>
        rw [Except.bind_of_ok rfl, poolClaimBook, settlePosition, bind_assoc]
        -- paid: what is left is the total
        by_cases room : q.totalClaimed.toNat + owed.toNat < 2 ^ 64
        · obtain ⟨total, sum⟩ := BitVec.checkedAdd_of_lt room
          rw [sum]
          refine ⟨?_, iff_of_false ?_ ?_⟩
          · rintro ⟨⟩
          · rintro ⟨⟩
          · rintro ⟨_, _, _, _, ⟨⟩, excess | ⟨_, _, -, -, excess⟩⟩
            · omega
            · omega
        · rw [BitVec.checkedAdd_eq_none.mpr (Nat.not_lt.mp room)]
          have excess : 2 ^ 64 ≤ q.totalClaimed.toNat + q.owed pool.cumulativeUsdcPerToken := by
            rw [← value]
            exact Nat.not_lt.mp room
          refine ⟨?_, iff_of_true rfl ⟨pool, vault, q, bank, rfl, .inr ⟨owed, bank', value, pays, excess⟩⟩⟩
          rintro ⟨⟩
    · obtain ⟨signed, settled⟩ := Genesis.poolClaim_signed checks now
      have excess := Nat.not_lt.mp fits
      rw [signed, claimPoolReturns_eq, Except.bind_of_ok checks, claimable_overflows settled excess]
      refine ⟨?_, iff_of_true rfl ⟨pool, vault, q, bank, rfl, .inl excess⟩⟩
      rintro ⟨⟩

/-- The arithmetic of pools, in every reachable state. A distribution fails with an overflow if and only if
its guards and its transfer pass and the lifetime total overflows; otherwise, once they pass, it succeeds; and
it never underflows. A claim never underflows, and overflows if and only if its guards pass and the amount
does not fit, or is paid and the position's total does not fit. And a position that claimed and is owed more
than fits is locked: at no later time does a claim on it succeed. -/
theorem pool_arithmetic (g : Genesis K) (as : List (Action K)) :
    (∀ now a n,
      (step (g.run as) (.call now (.distributePoolReturns a n)) = .error (.exira .mathOverflow) ↔
        ∃ pool b, returnsTransfer (g.run as) a n = .ok (pool, b) ∧
          2 ^ 64 ≤ pool.totalDistributed.toNat + n.toNat) ∧
      ((∃ s', step (g.run as) (.call now (.distributePoolReturns a n)) = .ok s') ↔
        ∃ pool b, returnsTransfer (g.run as) a n = .ok (pool, b) ∧
          pool.totalDistributed.toNat + n.toNat < 2 ^ 64) ∧
      step (g.run as) (.call now (.distributePoolReturns a n)) ≠ .error (.exira .mathUnderflow)) ∧
    (∀ now a, step (g.run as) (.call now (.claimPoolReturns a)) ≠ .error (.exira .mathUnderflow) ∧
      (step (g.run as) (.call now (.claimPoolReturns a)) = .error (.exira .mathOverflow) ↔
        ∃ pool vault q bank, poolClaimChecks (g.run as) a = .ok (pool, vault, q, bank) ∧
          ClaimOverflows a pool vault q bank)) ∧
    ∀ k pool q, (g.run as).positions.lookup k = some q → (g.run as).pools.lookup q.target = some pool →
      2 ^ 64 ≤ q.totalClaimed.toNat + q.owed pool.cumulativeUsdcPerToken →
      ∀ bs x s', x.ClaimsAt k → step (g.run (as ++ bs)) x ≠ .ok s' := by
  refine ⟨?_, fun now a => g.poolClaim_math as now a, ?_⟩
  · intro now a n
    cases moved : returnsTransfer (g.run as) a n with
    | error e' =>
      obtain ⟨avoids, stuck⟩ := Genesis.returns_stopped moved now
      refine ⟨iff_of_false (avoids_ne avoids (.inl rfl)) nofun, iff_of_false ?_ nofun,
        avoids_ne avoids (.inr rfl)⟩
      rintro ⟨s', st⟩
      exact stuck s' st
    | ok x =>
      obtain ⟨pool, b⟩ := x
      obtain ⟨next, run⟩ := Genesis.returns_eq moved now
      rw [run]
      by_cases fits : pool.totalDistributed.toNat + n.toNat < 2 ^ 64
      · obtain ⟨d, total⟩ := BitVec.checkedAdd_of_lt fits
        rw [total]
        refine ⟨iff_of_false nofun ?_, iff_of_true ⟨next d, rfl⟩ ⟨pool, b, rfl, fits⟩, nofun⟩
        rintro ⟨_, _, ⟨⟩, tooMuch⟩
        omega
      · rw [BitVec.checkedAdd_eq_none.mpr (Nat.not_lt.mp fits)]
        refine ⟨iff_of_true rfl ⟨pool, b, rfl, Nat.not_lt.mp fits⟩, iff_of_false nofun ?_, nofun⟩
        rintro ⟨_, _, ⟨⟩, fits'⟩
        exact fits fits'
  · intro k pool q held own excess bs x s' claims
    exact g.locked as bs own held rfl excess claims

end Exira
