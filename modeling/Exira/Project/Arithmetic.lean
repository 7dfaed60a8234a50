import Exira.Books.Tokens
import Exira.Errors
import Exira.Project.Conservation
import Exira.Standing

/-!
# The arithmetic of repayments

The index of a fund is at most what it distributed, scaled, so neither it nor the credit of a holding comes
near the width of the accumulator. What can overflow is the lifetime total: a repayment fails in its
arithmetic if and only if that does, and a claim never does.
-/

namespace Exira

open Dividend

/-! ## Funds -/

namespace Fund

variable {ι : Type} [DecidableEq ι] {P : ℕ} {f f' : Fund ι} {e : Event ι} {tr : List (Fund ι × Event ι)}

/-- An event raises the index by no more than what it distributes, scaled. -/
lemma Step.index_le_distributed (st : f.Step P e f') :
    f'.index + f.distributed * P ≤ f.index + f'.distributed * P := by
  cases st with
  | @distribute n =>
    have quotient := Nat.div_le_self (n * P) f.sold
    simp only [Ledger.distribute, Nat.add_mul]
    omega
  | _ => exact Nat.le_refl _

/-- Even a fund that sold one unit has an index of what it distributed, scaled. -/
lemma Reaches.index_le (run : Reaches P tr f) : f.index ≤ f.distributed * P := by
  induction run with
  | fresh new => rw [new.index]; exact Nat.zero_le _
  | step past st ih =>
    have grown := st.index_le_distributed
    omega

/-- What a holding of a project accrued is within what the project distributed, scaled. -/
lemma Reaches.pending_le (run : Reaches P tr f) (project : f.layer = .project) {i : ι} {h : Holding}
    (own : f.holdings.lookup i = some h) : h.pending f.index ≤ f.distributed * P := by
  have le := run.credited_le
  rw [run.inherited_project project, Nat.add_zero] at le
  have one := Finmap.le_sum own (Holding.credit P f.index)
  exact ((Nat.le_add_left _ _).trans one).trans le

end Fund

/-! ## Bounds -/

variable {K : Type} [DecidableEq K]

/-- The numbers of a claim on a position are within what its project distributed. -/
structure Project.Bounds (project : Project K) (q : InvestorPosition K) : Prop where
  settled : q.lastClaimedPerToken.toNat ≤ project.cumulativeUsdcPerToken.toNat
  pending : q.pending project.cumulativeUsdcPerToken ≤ project.totalDistributed.toNat * PRECISION.toNat
  scaled : project.totalDistributed.toNat * PRECISION.toNat < 2 ^ 128
  owed : q.owed project.cumulativeUsdcPerToken < 2 ^ 64
  claimed : q.totalClaimed.toNat + q.owed project.cumulativeUsdcPerToken ≤ project.totalDistributed.toNat

variable [Addresses K]

/-- Every position of a project is within the bounds. -/
lemma Genesis.bounds (g : Genesis K) (as : List (Action K)) {p k : K} {project : Project K}
    {q : InvestorPosition K} (own : (g.run as).projects.lookup p = some project)
    (held : (g.run as).positions.lookup k = some q) (target : q.target = p) : project.Bounds q := by
  subst target
  have run := g.reaches as (State.fund_project own)
  have holding : ((g.run as).view.fundOf (.project q.target) project.listing).holdings.lookup k
      = some q.holding := View.lookup_holdings_of held
  have total : q.totalClaimed.toNat + q.owed project.cumulativeUsdcPerToken
      ≤ project.totalDistributed.toNat := run.claim_le_project rfl (by decide) holding
  exact {
    settled := run.sound.ledger.settled _ _ holding
    pending := run.pending_le rfl holding
    scaled := scaled_lt _
    owed := ((Nat.le_add_left _ _).trans total).trans_lt project.totalDistributed.isLt
    claimed := total }

/-- The index of a project has room for a repayment of any amount. -/
lemma Genesis.index_room (g : Genesis K) (as : List (Action K)) {p : K} {project : Project K}
    (own : (g.run as).projects.lookup p = some project) (n : U64) (sold : ℕ) :
    project.cumulativeUsdcPerToken.toNat + n.toNat * PRECISION.toNat / sold < 2 ^ 128 := by
  have index := (g.reaches as (State.fund_project own)).index_le
  have index : project.cumulativeUsdcPerToken.toNat ≤ project.totalDistributed.toNat * PRECISION.toNat := index
  have total := project.totalDistributed.isLt
  have amount := n.isLt
  have scale : PRECISION.toNat = 1000000000000 := rfl
  have growth := Nat.div_le_self (n.toNat * PRECISION.toNat) sold
  rw [scale] at index growth ⊢
  omega

/-! ## Repayments -/

variable {s : State K}

/-- What a repayment does before its arithmetic: its guards, and the transfer of the amount. -/
def repaymentTransfer (s : State K) (a : DistributeRepayment K) (amount : U64) :
    Result (Project K × Token.Bank K) := do
  let platform ← load s.platforms a.platform
  let project ← load s.projects a.project
  let adminUsdcAta ← load s.bank.accounts a.adminUsdcAta
  let _ ← load s.bank.accounts a.usdcVault
  let _ ← load s.bank.mints a.usdcMint
  noDuplicates [a.project, a.adminUsdcAta, a.usdcVault]
  checkPlatform a.platform platform a.admin
  require (platform.usdcMint = a.usdcMint) .invalidUsdcMint
  checkSeeds a.project (.project project.projectId) project.bump
  require (project.usdcVault = a.usdcVault) .wrongVault
  checkToken adminUsdcAta a.usdcMint a.admin
  require (0 < amount) .zeroAmount
  require (project.status = .active ∨ project.status = .repaying) .notActiveOrRepaying
  require (0 < project.tokensSold) .noTokensSold
  let bank ← cpi (s.bank.transfer a.adminUsdcAta a.usdcVault a.admin amount)
  return (project, bank)

/-- What a repayment does after the transfer. -/
def repaymentBook (s : State K) (a : DistributeRepayment K) (amount : U64)
    (x : Project K × Token.Bank K) : Result (State K) := do
  let (cumulative, totalDistributed) ← accumulate x.1.cumulativeUsdcPerToken
    x.1.totalDistributed x.1.tokensSold amount
  return { s with
    projects := s.projects.insert a.project { x.1 with
      cumulativeUsdcPerToken := cumulative
      totalDistributed := totalDistributed
      status := if x.1.status = .active then .repaying else x.1.status }
    bank := x.2 }

/-- A repayment is its transfer and then its entry in the books. -/
lemma distributeRepayment_eq (s : State K) (a : DistributeRepayment K) (n : U64) :
    distributeRepayment s a n = repaymentTransfer s a n >>= repaymentBook s a n := by
  simp only [distributeRepayment, repaymentTransfer, repaymentBook, bind_assoc, pure_bind]

/-- What the transfer of a repayment has checked. -/
lemma repaymentTransfer_ok {a : DistributeRepayment K} {n : U64} {project : Project K} {b : Token.Bank K}
    (h : repaymentTransfer s a n = .ok (project, b)) :
    (∃ platform, AdminOf s a.platform a.admin platform) ∧
      s.projects.lookup a.project = some project ∧ 0 < project.tokensSold := by
  simp only [repaymentTransfer, Except.bind_eq_ok, load_eq_ok, require_eq_ok, checkPlatform_eq_ok,
    exists_and_left, exists_const] at h
  obtain ⟨platform, known, _, own, _, -, _, -, _, -, _, -, ⟨seeds, admin⟩, -, _, -, -, _, -, -, -, sold, _, -,
    h⟩ := h
  cases h
  exact ⟨⟨platform, known, seeds, admin⟩, own, sold⟩

/-- Nothing before the arithmetic raises an arithmetic error. -/
lemma repaymentTransfer_avoids (a : DistributeRepayment K) (n : U64) :
    (repaymentTransfer s a n).Avoids (Error.In ExiraError.Math) := by
  unfold repaymentTransfer
  refine .bind avoids_load fun _ _ => ?_
  refine .bind avoids_load fun _ _ => ?_
  refine .bind avoids_load fun _ _ => ?_
  refine .bind avoids_load fun _ _ => ?_
  refine .bind avoids_load fun _ _ => ?_
  refine .bind avoids_noDuplicates fun _ _ => ?_
  refine .bind (avoids_checkPlatform nofun) fun _ _ => ?_
  refine .bind (avoids_require nofun) fun _ _ => ?_
  refine .bind avoids_checkSeeds fun _ _ => ?_
  refine .bind (avoids_require nofun) fun _ _ => ?_
  refine .bind avoids_checkToken fun _ _ => ?_
  refine .bind (avoids_require nofun) fun _ _ => ?_
  refine .bind (avoids_require nofun) fun _ _ => ?_
  refine .bind (avoids_require nofun) fun _ _ => ?_
  exact .bind avoids_cpi fun _ _ => .ok _

/-! ## Runs -/

namespace Genesis

variable {g : Genesis K} {as : List (Action K)} {a : DistributeRepayment K} {n : U64} {project : Project K}
  {b : Token.Bank K}

/-- A repayment that passed its guards was signed by the admin. -/
lemma repayment_signed (h : repaymentTransfer (g.run as) a n = .ok (project, b)) (now : Int64) :
    step (g.run as) (.call now (.distributeRepayment a n)) = distributeRepayment (g.run as) a n := by
  obtain ⟨⟨platform, loaded⟩, -⟩ := repaymentTransfer_ok h
  obtain ⟨-, known, -⟩ := (g.run_wf as).side.platform loaded
  have signs := (g.platform_sound as platform known).signs
  rw [loaded.admin] at signs
  refine Except.bind_of_ok (constraint_ok ?_ _) _
  simp only [Instruction.signers, List.all_cons, List.all_nil, signs, Bool.and_true]

/-- After the transfer a repayment fails for its total alone. -/
lemma repayment_eq (h : repaymentTransfer (g.run as) a n = .ok (project, b)) (now : Int64) :
    ∃ next : U64 → State K, step (g.run as) (.call now (.distributeRepayment a n))
      = (project.totalDistributed.checkedAdd n).okOr (.exira .mathOverflow) >>= fun d => .ok (next d) := by
  obtain ⟨-, own, sold⟩ := repaymentTransfer_ok h
  obtain ⟨c, e⟩ := accumulate_eq project.totalDistributed (BitVec.lt_def.mp sold)
    (g.index_room as own n project.tokensSold.toNat)
  rw [repayment_signed h now, distributeRepayment_eq, Except.bind_of_ok h, repaymentBook, e, bind_assoc]
  exact ⟨_, rfl⟩

/-- A repayment past 64 bits is refused. -/
lemma repayment_overflows (h : repaymentTransfer (g.run as) a n = .ok (project, b))
    (tooMuch : 2 ^ 64 ≤ project.totalDistributed.toNat + n.toNat) (now : Int64) :
    step (g.run as) (.call now (.distributeRepayment a n)) = .error (.exira .mathOverflow) := by
  obtain ⟨next, run⟩ := repayment_eq h now
  rw [run, BitVec.checkedAdd_eq_none.mpr tooMuch]
  rfl

/-- A repayment within 64 bits goes through. -/
lemma repayment_fits (h : repaymentTransfer (g.run as) a n = .ok (project, b))
    (fits : project.totalDistributed.toNat + n.toNat < 2 ^ 64) (now : Int64) :
    ∃ s', step (g.run as) (.call now (.distributeRepayment a n)) = .ok s' := by
  obtain ⟨next, run⟩ := repayment_eq h now
  obtain ⟨d, total⟩ := BitVec.checkedAdd_of_lt fits
  rw [run, total]
  exact ⟨next d, rfl⟩

/-- A repayment that does not get through the transfer raises another error. -/
lemma repayment_stopped {e' : Error} (h : repaymentTransfer (g.run as) a n = .error e') (now : Int64) :
    (∀ e : ExiraError, e.Math →
      step (g.run as) (.call now (.distributeRepayment a n)) ≠ .error (.exira e)) ∧
    ∀ s', step (g.run as) (.call now (.distributeRepayment a n)) ≠ .ok s' := by
  have stopped : distributeRepayment (g.run as) a n = .error e' := by
    rw [distributeRepayment_eq, h]
    rfl
  constructor
  · intro e math
    have avoids : (distributeRepayment (g.run as) a n).Avoids (Error.In ExiraError.Math) := by
      rw [stopped]
      intro x same
      cases same
      exact repaymentTransfer_avoids a n e' h
    have avoids : (step (g.run as) (.call now (.distributeRepayment a n))).Avoids
        (Error.In ExiraError.Math) := step_avoids avoids
    exact avoids_ne avoids math
  · intro s' st
    cases stopped.symm.trans (step_call st).2

/-- A claim of a project raises no arithmetic error. -/
lemma claim_avoids (g : Genesis K) (as : List (Action K)) (a : ClaimProjectReturns K) :
    (claimProjectReturns (g.run as) a).Avoids (Error.In ExiraError.Math) := by
  refine claimProjectReturns_avoids ⟨nofun, nofun, nofun⟩ ?_ (g.run_wf as)
  intro project q vault own held placed found
  obtain ⟨settled, pending, scaled, fits, claimed⟩ := g.bounds as own held placed.target
  obtain ⟨owed, pays⟩ := claimable_of settled (pending.trans_lt scaled) fits
  refine ⟨pays ▸ .ok owed, ?_⟩
  intro owed' pays'
  have value := (claimable_ok pays').2
  refine ⟨avoids_require nofun, avoids_require nofun, .bind (.okOr_some ?_) fun _ _ => .ok _⟩
  rw [Ne, BitVec.checkedAdd_eq_none, value]
  exact Nat.not_le.mpr (claimed.trans_lt project.totalDistributed.isLt)

end Genesis

/-- The arithmetic of project distributions, in every reachable state. A repayment fails with an overflow if
and only if its guards and its transfer pass and the lifetime total overflows; otherwise, once they pass, it
succeeds; and it never underflows. A claim raises no arithmetic error. And the numbers of every position are
within what its project distributed. -/
theorem project_arithmetic (g : Genesis K) (as : List (Action K)) :
    (∀ now a n,
      (step (g.run as) (.call now (.distributeRepayment a n)) = .error (.exira .mathOverflow) ↔
        ∃ project b, repaymentTransfer (g.run as) a n = .ok (project, b) ∧
          2 ^ 64 ≤ project.totalDistributed.toNat + n.toNat) ∧
      ((∃ s', step (g.run as) (.call now (.distributeRepayment a n)) = .ok s') ↔
        ∃ project b, repaymentTransfer (g.run as) a n = .ok (project, b) ∧
          project.totalDistributed.toNat + n.toNat < 2 ^ 64) ∧
      step (g.run as) (.call now (.distributeRepayment a n)) ≠ .error (.exira .mathUnderflow)) ∧
    (∀ now a, step (g.run as) (.call now (.claimProjectReturns a)) ≠ .error (.exira .mathOverflow) ∧
      step (g.run as) (.call now (.claimProjectReturns a)) ≠ .error (.exira .mathUnderflow)) ∧
    ∀ p project k q, (g.run as).projects.lookup p = some project →
      (g.run as).positions.lookup k = some q → q.target = p → project.Bounds q := by
  refine ⟨?_, ?_, fun p project k q own held target => g.bounds as own held target⟩
  · intro now a n
    cases moved : repaymentTransfer (g.run as) a n with
    | error e' =>
      obtain ⟨silent, stuck⟩ := Genesis.repayment_stopped moved now
      refine ⟨iff_of_false (silent _ (.inl rfl)) nofun, iff_of_false ?_ nofun, silent _ (.inr rfl)⟩
      rintro ⟨s', st⟩
      exact stuck s' st
    | ok x =>
      obtain ⟨project, b⟩ := x
      by_cases fits : project.totalDistributed.toNat + n.toNat < 2 ^ 64
      · obtain ⟨s', st⟩ := Genesis.repayment_fits moved fits now
        rw [st]
        refine ⟨iff_of_false nofun ?_, iff_of_true ⟨s', rfl⟩ ⟨project, b, rfl, fits⟩, nofun⟩
        rintro ⟨_, _, ⟨⟩, tooMuch⟩
        omega
      · have st := Genesis.repayment_overflows moved (Nat.not_lt.mp fits) now
        rw [st]
        refine ⟨iff_of_true rfl ⟨project, b, rfl, Nat.not_lt.mp fits⟩, iff_of_false nofun ?_, nofun⟩
        rintro ⟨_, _, ⟨⟩, fits'⟩
        exact fits fits'
  · intro now a
    have avoids : (step (g.run as) (.call now (.claimProjectReturns a))).Avoids
        (Error.In ExiraError.Math) := step_avoids (g.claim_avoids as a)
    exact ⟨avoids_ne avoids (.inl rfl), avoids_ne avoids (.inr rfl)⟩

/-- The same 2 ^ 62 are repaid and claimed three times: the only investor sends them back to the admin. -/
def demoRecycled : List (Action Addr) :=
  Client.demo.setup (.wallet 3) [.wallet 0, .wallet 2, .wallet 10] (2 ^ 62) 150 ++
    Client.demo.openProject 1 100 12 (.wallet 20) (.wallet 30) ++ [
    .call 0 (Client.demo.buyProjectTokens 1 (.wallet 20) (.wallet 10) 100),
    .call 0 (Client.demo.activateProject 1)] ++
    (List.replicate 3 [Client.demoRepay (2 ^ 62), Client.demoClaimProject (.wallet 10),
      .outside (.transfer (Client.demo.usdcOf (.wallet 10)) (Client.demo.usdcOf (.wallet 0))
        (.wallet 10) (2 ^ 62))]).flatten

/-- Money that goes around overflows the total. -/
theorem project_arithmetic_demo :
    step (Genesis.blank.run demoRecycled) (Client.demoRepay (2 ^ 62)) = .error (.exira .mathOverflow) := by
  have moved : (repaymentTransfer (Genesis.blank.run demoRecycled)
      ⟨Client.platform, Client.demo.admin, Client.project 1, Client.demo.usdcOf Client.demo.admin,
        Client.demo.usdcOf (Client.project 1), Client.demo.usdc⟩ (2 ^ 62)).toOption.map
      (fun x => x.1.totalDistributed) = some (3 * 2 ^ 62) := by decide +kernel
  obtain ⟨⟨project, b⟩, passes, total⟩ := Option.map_eq_some_iff.mp moved
  have room : 2 ^ 64 ≤ project.totalDistributed.toNat + (2 ^ 62 : U64).toNat := by
    rw [total]
    decide +kernel
  exact ((project_arithmetic Genesis.blank demoRecycled).1 0 _ _).1.mpr
    ⟨project, b, Except.toOption_eq_some.mp passes, room⟩

end Exira
