import Exira.Project.Claims
import Exira.Project.Dust
import Mathlib.Algebra.Order.Floor.Div

/-!
# Schedules of repayments

The tokens of a project do not change hands once it repays, so what a holder of `h` tokens was credited with
is `h` times the index, however the repayments were split and whenever the holder claimed. The index falls
short of that of a single repayment by less than one unit for each repayment, and every claim rounds off
less than one USDC.
-/

namespace Exira

open Dividend

/-- What one distribution of `D` among `S` units pays to `h` of them, claimed at once. -/
def singlePayout (P D S h : ℕ) : ℕ :=
  h * (D * P / S) / P

/-- Dust of `n` distributions costs the index less than `n` steps. -/
lemma single_index_le {P D S index n r : ℕ} (S_pos : 0 < S) (n_pos : 0 < n)
    (split : D * P = index * S + r) (dust : r ≤ n * (S - 1)) : D * P / S ≤ index + (n - 1) := by
  have lt : D * P < S * (index + n) := by
    have less : n * (S - 1) < n * S := Nat.mul_lt_mul_of_pos_left (by omega) n_pos
    have expand : S * (index + n) = index * S + n * S := by ring
    omega
  have := Nat.div_lt_of_lt_mul lt
  omega

/-- The payout of a schedule whose index is at most `n - 1` steps behind, with less than `k + 1` USDC rounded
off. -/
lemma schedule_bounds {P h index single T lost k n : ℕ} (credit : T * P + lost = h * index)
    (rounded : lost < (k + 1) * P) (le : index ≤ single) (near : single ≤ index + (n - 1)) :
    h * single / P ≤ T + k + (h * (n - 1)) ⌈/⌉ P ∧ T ≤ h * single / P := by
  have P_pos : 0 < P := Nat.pos_of_mul_pos_left (Nat.zero_lt_of_lt rounded)
  constructor
  · have steps : h * (n - 1) ≤ P * ((h * (n - 1)) ⌈/⌉ P) := le_smul_ceilDiv P_pos
    generalize (h * (n - 1)) ⌈/⌉ P = c at steps
    have share : h * single ≤ h * index + h * (n - 1) := by
      rw [← Nat.mul_add]
      exact Nat.mul_le_mul_left h near
    have lt : h * single < P * (T + k + c + 1) := by
      calc h * single ≤ T * P + lost + P * c := by omega
        _ < T * P + (k + 1) * P + P * c := by omega
        _ = P * (T + k + c + 1) := by ring
    have := Nat.div_lt_of_lt_mul lt
    omega
  · rw [Nat.le_div_iff_mul_le P_pos]
    have share : h * index ≤ h * single := Nat.mul_le_mul_left h le
    omega

/-! ## Funds -/

namespace Fund

variable {ι : Type} [DecidableEq ι] {P : ℕ} {f f' : Fund ι} {e : Event ι}
  {tr : List (Fund ι × Event ι)} {i : ι} {h : Holding}

/-- The index of a project stays zero while it is for sale. -/
lemma Sound.index_buy {j : ι} {n : ℕ} (sound : f.Sound) (project : f.layer = .project)
    (st : f.Step P (.buy j n) f') : f.index = 0 ∧ f'.index = 0 := by
  cases st with
  | buy status =>
    obtain ⟨-, index, -⟩ := sound.funding project status
    exact ⟨index, index⟩

/-- Who leaves finds the index at zero. -/
lemma Sound.index_exit {j : ι} (sound : f.Sound) (st : f.Step P (.exit j) f') :
    f.index = 0 ∧ f'.index = 0 := by
  cases st with
  | exit layer status =>
    obtain ⟨-, index, -⟩ := sound.funding layer (status.resolve_right sound.live)
    exact ⟨index, index⟩

/-- What an event adds to the credit of a holding of a project, and what a claim rounds off, is what it adds
to the units times the index. -/
lemma Step.credit_project (sound : f.Sound) (project : f.layer = .project) (st : f.Step P e f') (i : ι) :
    (f'.holdings.lookup i).elim 0 (Holding.credit P f'.index) + lossBy P i f e
        + (f.holdings.lookup i).elim 0 Holding.held * f.index
      = (f.holdings.lookup i).elim 0 (Holding.credit P f.index)
        + (f'.holdings.lookup i).elim 0 Holding.held * f'.index := by
  cases own : f.holdings.lookup i with
  | none =>
    have lost : lossBy P i f e = 0 := by
      cases e with
      | claim j => simp [lossBy, own]
      | _ => rfl
    cases own' : f'.holdings.lookup i with
    | none => simp [lost]
    | some h =>
      obtain ⟨n, rfl, rfl⟩ := st.lookup_new own own'
      obtain ⟨index, index'⟩ := sound.index_buy project st
      simp [lost, index, index', Holding.credit, Holding.pending]
  | some h =>
    rw [st.lookup own]
    simp only [Option.elim]
    by_cases stays : e = .exit i
    · subst stays
      obtain ⟨index, index'⟩ := sound.index_exit st
      simp [Event.act, lossBy, index, index', Holding.credit, Holding.pending]
    · have grown := st.credit_eq sound own stays
      by_cases other : e.boughtBy i = 0
      · have units : h.held * f.index + h.held * (f'.index - f.index) = h.held * f'.index := by
          rw [← Nat.mul_add, Nat.add_sub_cancel' st.index_le]
        rw [inheritedBy_other f other] at grown
        rw [act_held stays other]
        omega
      · cases e with
        | buy j n =>
          -- a purchase is while the project is for sale, with nothing to inherit
          obtain ⟨index, index'⟩ := sound.index_buy project st
          have fresh := st.inherited_project sound project
          have inherits : inheritedBy i f (.buy j n) = 0 := by
            simp only [inheritedBy]
            split
            · exact fresh
            · rfl
          rw [index, index', Nat.sub_self, Nat.mul_zero] at grown
          rw [index', index, Nat.mul_zero, Nat.mul_zero]
          omega
        | _ => exact absurd rfl other

/-- A holding of a project is credited with its units times the index, less what its claims rounded off. -/
theorem Reaches.credit_project (run : Reaches P tr f) (project : f.layer = .project) :
    (f.holdings.lookup i).elim 0 (Holding.credit P f.index) + total (lossBy P i) tr
      = (f.holdings.lookup i).elim 0 Holding.held * f.index := by
  induction run with
  | fresh new =>
    rw [new.holdings, Finmap.lookup_empty]
    simp
  | step past st ih =>
    rw [st.layer] at project
    have before := ih project
    have one := st.credit_project past.sound project i
    rw [total_snoc]
    omega

/-- A claim takes what a distribution let a holding of a project accrue. -/
lemma Step.claims_le (sound : f.Sound) (project : f.layer = .project) (st : f.Step P e f') (i : ι) :
    e.claimsBy i + (f'.holdings.lookup i).elim 0 (fun h => min 1 (h.pending f'.index))
      ≤ e.distributions + (f.holdings.lookup i).elim 0 (fun h => min 1 (h.pending f.index)) := by
  cases own : f.holdings.lookup i with
  | none =>
    have unpaid : e.claimsBy i = 0 := by
      cases st with
      | @claim j h held =>
        apply if_neg
        rintro rfl
        rw [own] at held
        cases held
      | _ => rfl
    cases own' : f'.holdings.lookup i with
    | none =>
      simp only [Option.elim]
      omega
    | some h =>
      -- a new holding comes with the index, and has nothing pending
      obtain ⟨n, rfl, rfl⟩ := st.lookup_new own own'
      obtain ⟨index, index'⟩ := sound.index_buy project st
      simp only [Option.elim, Holding.pending, index', Nat.zero_sub, Nat.mul_zero]
      omega
  | some h =>
    rw [st.lookup own]
    simp only [Option.elim]
    cases st with
    | buy status =>
      obtain ⟨-, index, -⟩ := sound.funding project status
      simp [Event.claimsBy, Holding.pending, Ledger.buy, index]
    | exit _ status =>
      obtain ⟨-, index, -⟩ := sound.funding project (status.resolve_right sound.live)
      simp [Event.claimsBy, Holding.pending, Ledger.exit, index]
    | @claim j h' held pos =>
      by_cases same : j = i
      · -- a claim takes the one pending payout, and leaves none
        subst same
        cases own.symm.trans held
        have accrued : 0 < h.pending f.index := Nat.pos_of_div_pos pos
        simp only [Event.act, if_true, Event.claimsBy, Event.distributions, Holding.settle,
          Holding.pending, Ledger.claim, Nat.sub_self, Nat.mul_zero] at accrued ⊢
        omega
      · simp only [Event.act, if_neg same, Event.claimsBy, Event.distributions, Ledger.claim, le_refl]
    | distribute =>
      simp only [Event.act, Event.claimsBy, Event.distributions, Ledger.distribute]
      omega
    | _ => exact Nat.le_refl _

/-- Between two claims of a holder of a project there is a distribution. -/
lemma Reaches.claims_le (run : Reaches P tr f) (project : f.layer = .project) :
    total (fun _ => Event.claimsBy i) tr
        + (f.holdings.lookup i).elim 0 (fun h => min 1 (h.pending f.index))
      ≤ total (fun _ => Event.distributions) tr := by
  induction run with
  | fresh new =>
    rw [new.holdings, Finmap.lookup_empty]
    simp
  | step past st ih =>
    rw [st.layer] at project
    have before := ih project
    have one := st.claims_le past.sound project i
    rw [total_snoc, total_snoc]
    omega

/-- What a holder was paid, against a single distribution of the same total. -/
theorem Reaches.payout_schedule (run : Reaches P tr f) (project : f.layer = .project)
    (own : f.holdings.lookup i = some h) (repaid : 0 < (payments tr).length)
    (settled : h.pending f.index < P) :
    singlePayout P f.distributed f.sold h.held
        ≤ h.claimed + total (fun _ => Event.claimsBy i) tr
          + (h.held * ((payments tr).length - 1)) ⌈/⌉ P ∧
      h.claimed ≤ singlePayout P f.distributed f.sold h.held ∧
      ((payments tr).length = 1 → h.claimed = singlePayout P f.distributed f.sold h.held) := by
  have P_pos : 0 < P := Nat.zero_lt_of_lt settled
  have split := run.index_dust project
  have each := run.payments_sold project
  have dust := dustOf_le (P := P) each
  have sold : 0 < f.sold := by
    obtain ⟨d, mem⟩ := List.exists_mem_of_length_pos repaid
    exact (each d mem).2 ▸ (each d mem).1
  have near := single_index_le sold repaid split dust
  have le : f.index ≤ f.distributed * P / f.sold := by
    rw [Nat.le_div_iff_mul_le sold]
    omega
  have credit := run.credit_project (i := i) project
  have claims := run.claims_le (i := i) project
  have lost := lossBy_le P_pos i tr
  rw [own, Option.elim, Option.elim] at credit
  rw [own, Option.elim, ← payments_length] at claims
  have credit' : h.claimed * P + (h.pending f.index + total (lossBy P i) tr) = h.held * f.index := by
    rw [← credit, Holding.credit, Nat.add_assoc]
  have rounded : h.pending f.index + total (lossBy P i) tr
      < (total (fun _ => Event.claimsBy i) tr + 1) * P := by
    have less := lost.trans (Nat.mul_le_mul_left _ (Nat.sub_le P 1))
    rw [Nat.add_mul]
    omega
  obtain ⟨lower, upper⟩ := schedule_bounds credit' rounded le near
  refine ⟨lower, upper, ?_⟩
  intro once
  -- one distribution leaves room for one claim, and nothing is pending after it
  rw [once] at near claims
  have same : f.index = f.distributed * P / f.sold := Nat.le_antisymm le near
  have little : h.pending f.index + total (lossBy P i) tr < P := by
    rcases Nat.eq_zero_or_pos (total (fun _ => Event.claimsBy i) tr) with zero | pos
    · rw [zero, Nat.zero_mul] at lost
      omega
    · have one : total (fun _ => Event.claimsBy i) tr = 1 := by omega
      rw [one, Nat.one_mul] at lost
      omega
  rw [singlePayout, ← same, ← credit', Nat.mul_comm, Nat.mul_add_div P_pos, Nat.div_eq_of_lt little,
    Nat.add_zero]

end Fund

/-! ## Projects -/

variable {K : Type} [DecidableEq K] [Addresses K]

/-- After the claim that a holder makes with the derived accounts, less than one USDC is pending. -/
lemma Genesis.claimProject_settles (g : Genesis K) (as : List (Action K)) {p w usdc : K}
    {project : Project K} {q : InvestorPosition K}
    (own : (g.run as).projects.lookup p = some project)
    (held : (g.run as).positions.lookup (Client.position p w) = some q)
    (holder : (g.run as).bank.holder project.usdcVault = some (usdc, p))
    (covered : q.owed project.cumulativeUsdcPerToken ≤ (g.run as).bank.balance project.usdcVault)
    (now : Int64) :
    ∃ q', (g.run (as ++ [.call now (Client.claimProject usdc p project.usdcVault w)])).projects.lookup p
        = some project ∧
      (g.run (as ++ [.call now (Client.claimProject usdc p project.usdcVault w)])).positions.lookup
        (Client.position p w) = some q' ∧
      q'.tokensHeld = q.tokensHeld ∧
      q'.pending project.cumulativeUsdcPerToken < PRECISION.toNat := by
  have wf := g.run_wf as
  obtain ⟨settled, fits⟩ := g.claims_fit as own held
  obtain ⟨target, owner⟩ := wf.position_of held
  rw [g.run_append]
  rcases Nat.eq_zero_or_pos (q.owed project.cumulativeUsdcPerToken) with zero | pos
  · have st := claimProject_nothing wf own held holder settled zero now
    rw [Runs.run, Runs.next_error st]
    refine ⟨q, own, held, rfl, ?_⟩
    rcases Nat.div_eq_zero_iff.mp zero with absurd | lt
    · cases absurd
    · exact lt
  · obtain ⟨usdc', holder', goes⟩ := claimProject_ok wf own held target settled pos fits covered
    cases holder.symm.trans holder'
    obtain ⟨s', st⟩ := goes now
    rw [owner] at st
    obtain ⟨project', q₀, q', n, b₀, b₁, own', claim, rfl⟩ :=
      claimProjectReturns_inv wf (step_call st).2
    cases held.symm.trans claim.held
    cases own.symm.trans own'
    have tokens : q'.holding.held = q.holding.held := by rw [claim.holding]; rfl
    rw [Runs.run, Runs.next_ok st]
    refine ⟨q', own, Finmap.lookup_insert _, BitVec.eq_of_toNat_eq tokens, ?_⟩
    have pending : q'.holding.pending project.listing.index = 0 := by
      rw [claim.holding, Holding.pending, Holding.settle, Nat.sub_self, Nat.mul_zero]
    exact pending.trans_lt (by decide)

/-- The payout of a project does not depend on its schedule, up to rounding: what a holder of `h` tokens is
paid by `n` distributions with claims in between, and a last claim, is less than the payout of one
distribution and one claim by at most one USDC for each successful claim and the `n - 1` remainders of its
tokens. -/
theorem project_payout_schedule (g : Genesis K) (as : List (Action K)) (p w usdc : K)
    (project : Project K) (q : InvestorPosition K) (now : Int64)
    (own : (g.run as).projects.lookup p = some project)
    (held : (g.run as).positions.lookup (Client.position p w) = some q)
    (holder : (g.run as).bank.holder project.usdcVault = some (usdc, p))
    (covered : q.owed project.cumulativeUsdcPerToken ≤ (g.run as).bank.balance project.usdcVault)
    (repaid : 0 < (distributions (.project p) (g.history as)).length) :
    ∃ q', (g.run (as ++ [.call now (Client.claimProject usdc p project.usdcVault w)])).positions.lookup
        (Client.position p w) = some q' ∧
      singlePayout PRECISION.toNat project.totalDistributed.toNat project.tokensSold.toNat
          q.tokensHeld.toNat
        ≤ q'.totalClaimed.toNat
          + ((g.history (as ++ [.call now (Client.claimProject usdc p project.usdcVault w)])).countP
            fun x => x.2.claimsProject p w)
          + (q.tokensHeld.toNat * ((distributions (.project p) (g.history as)).length - 1))
            ⌈/⌉ PRECISION.toNat ∧
      q'.totalClaimed.toNat
        ≤ singlePayout PRECISION.toNat project.totalDistributed.toNat project.tokensSold.toNat
          q.tokensHeld.toNat ∧
      ((distributions (.project p) (g.history as)).length = 1 →
        q'.totalClaimed.toNat
          = singlePayout PRECISION.toNat project.totalDistributed.toNat project.tokensSold.toNat
            q.tokensHeld.toNat) := by
  obtain ⟨q', own', held', tokens, settled⟩ :=
    g.claimProject_settles as own held holder covered now
  have same : distributions (.project p)
      (g.history (as ++ [.call now (Client.claimProject usdc p project.usdcVault w)]))
      = distributions (.project p) (g.history as) := by
    have last : ∀ x ∈ Runs.trace step (g.run as)
        [.call now (Client.claimProject usdc p project.usdcVault w)],
        distributionOf (.project p) x = none := by
      rintro ⟨s, a⟩ mem
      obtain ⟨bs, cs, split, -, -⟩ := Runs.mem_trace mem
      have claim : a ∈ [Action.call now (Client.claimProject usdc p project.usdcVault w)] := by
        rw [split]
        exact List.mem_append_right _ (.head _)
      rw [List.mem_singleton.mp claim]
      rfl
    rw [g.history_append, distributions, List.filterMap_append, List.filterMap_eq_nil_iff.mpr last,
      List.append_nil]
    rfl
  have run := g.reaches _ (State.fund_project own')
  have own₁ := (g.run_wf _).holding_of held'
  have claims := g.projectClaims_le
    (as ++ [.call now (Client.claimProject usdc p project.usdcVault w)]) p w
  have bounds := run.payout_schedule rfl own₁ (by rwa [distributions_eq, same]) settled
  rw [distributions_eq, same] at bounds
  obtain ⟨lower, upper, once⟩ := bounds
  rw [← tokens]
  exact ⟨q', held', lower.trans (Nat.add_le_add_right (Nat.add_le_add_left claims _) _),
    upper, once⟩

/-- The 7 tokens of project 1 are sold to two wallets; it repays 5 and 6, with a claim in between. -/
def demoSchedule : List (Action Addr) :=
  Client.demoSetup ++ Client.demo.openProject 1 7 12 (.wallet 20) (.wallet 30) ++ [
    .call 0 (Client.demo.buyProjectTokens 1 (.wallet 20) (.wallet 10) 3),
    .call 0 (Client.demo.buyProjectTokens 1 (.wallet 20) (.wallet 11) 4),
    .call 0 (Client.demo.activateProject 1),
    Client.demoRepay 5,
    Client.demoClaimProject (.wallet 10),
    Client.demoRepay 6]

/-- A holder of 3 of 11, paid in two claims. -/
theorem project_payout_schedule_demo : ∃ q' : InvestorPosition Addr,
    (Genesis.blank.run (demoSchedule ++ [Client.demoClaimProject (.wallet 10)])).positions.lookup
        (Client.position (Client.project 1) (.wallet 10)) = some q' ∧
      q'.totalClaimed.toNat ≤ singlePayout PRECISION.toNat 11 7 3 := by
  have repaid : ((Genesis.blank.run demoSchedule).projects.lookup (Client.project 1)).map
      (fun project => (project.usdcVault, project.totalDistributed, project.tokensSold,
        project.cumulativeUsdcPerToken))
      = some (Client.demo.usdcOf (Client.project 1), 11, 7, 1571428571427) := by decide +kernel
  have position : ((Genesis.blank.run demoSchedule).positions.lookup
      (Client.position (Client.project 1) (.wallet 10))).map
        (fun q => (q.tokensHeld, q.owed 1571428571427)) = some (3, 2) := by decide +kernel
  have holder : (Genesis.blank.run demoSchedule).bank.holder (Client.demo.usdcOf (Client.project 1))
      = some (Client.demo.usdc, Client.project 1) := by decide +kernel
  have covered : 2 ≤ (Genesis.blank.run demoSchedule).bank.balance
      (Client.demo.usdcOf (Client.project 1)) := by decide +kernel
  have twice : 0 < (distributions (.project (Client.project 1))
      (Genesis.blank.history demoSchedule)).length := by decide +kernel
  obtain ⟨project, own, e⟩ := Option.map_eq_some_iff.mp repaid
  injection e with vault e
  injection e with distributed e
  injection e with sold index
  obtain ⟨q, held, e⟩ := Option.map_eq_some_iff.mp position
  injection e with tokens owed
  have schedule := project_payout_schedule Genesis.blank demoSchedule _ _ _ project q 0 own held
    (vault ▸ holder) (by rw [index, owed, vault]; exact covered) twice
  rw [vault, distributed, sold, tokens] at schedule
  obtain ⟨q', held', -, upper, -⟩ := schedule
  exact ⟨q', held', upper⟩

end Exira
