import Exira.Books.Distributions
import Exira.Project.Conservation

/-!
# The dust of repayments

A repayment of `n` raises the index of a project by `n * P / S`, rounded down, and the remainder is credited
to nobody. No later repayment looks at it: the remainders of all repayments add up in the vault, and what
was distributed is exactly what the index says plus this dust.
-/

namespace Exira

open Dividend

/-! ## Funds -/

/-- What the index loses in distributions of given amounts, among the units then sold, scaled. -/
def dustOf (P : ℕ) (ds : List (ℕ × ℕ)) : ℕ :=
  (ds.map fun d => d.1 * P % d.2).sum

namespace Fund

variable {ι : Type} [DecidableEq ι] {P : ℕ} {f f' : Fund ι} {e : Event ι}
  {tr : List (Fund ι × Event ι)}

omit [DecidableEq ι] in
/-- One more step adds the dust that it leaves. -/
lemma dustOf_snoc (f : Fund ι) (e : Event ι) :
    dustOf P (payments (tr ++ [(f, e)]))
      = dustOf P (payments tr) + dustOf P (payment (f, e)).toList := by
  rw [payments_snoc, dustOf, List.map_append, List.sum_append]
  rfl

/-- A project sells only while its index is zero, and otherwise every distribution splits into its index
growth and its remainder. -/
lemma Step.index_dust {n : ℕ} (sound : f.Sound) (project : f.layer = .project)
    (st : f.Step P e f') (split : f.distributed * P = f.index * f.sold + n) :
    f'.distributed * P = f'.index * f'.sold + (n + dustOf P (payment (f, e)).toList) := by
  cases st with
  | buy status =>
    obtain ⟨-, index, -, -⟩ := sound.funding project status
    rw [index, Nat.zero_mul] at split
    simpa [Ledger.buy, index, payment, dustOf] using split
  | exit _ status =>
    have funding := status.resolve_right sound.live
    obtain ⟨-, index, -, -⟩ := sound.funding project funding
    rw [index, Nat.zero_mul] at split
    simpa [Ledger.exit, index, payment, dustOf] using split
  | @distribute m =>
    have parts := Nat.div_add_mod' (m * P) f.sold
    simp only [Ledger.distribute, payment, dustOf, Option.toList_some, List.map_cons, List.map_nil,
      List.sum_cons, List.sum_nil, Nat.add_mul]
    omega
  | _ => exact split

/-- What a project distributed is what its index gives to the units sold, and the dust. -/
theorem Reaches.index_dust (run : Reaches P tr f) (project : f.layer = .project) :
    f.distributed * P = f.index * f.sold + dustOf P (payments tr) := by
  induction run with
  | fresh new => rw [new.distributed, new.index, Nat.zero_mul, Nat.zero_mul]; rfl
  | step past st ih =>
    rw [st.layer] at project
    rw [dustOf_snoc]
    exact st.index_dust past.sound project (ih project)

/-- All payments of a project were made to the same units. -/
lemma Reaches.payments_sold (run : Reaches P tr f) (project : f.layer = .project) :
    ∀ d ∈ payments tr, 0 < d.2 ∧ d.2 = f.sold := by
  have each : ∀ d ∈ payments tr, 0 < d.2 ∧ d.2 = f.target ∧ 0 < f.distributed := by
    induction run with
    | fresh => nofun
    | @step tr f e f' past st ih =>
      rw [st.layer] at project
      have ih := ih project
      cases st with
      | @distribute n status pos sold =>
        have full : f.sold = f.target := by
          apply past.sound.full
          rcases status project with active | repaying
          · simp [active]
          · simp [repaying]
        intro d mem
        rw [payments_snoc, List.mem_append] at mem
        rcases mem with mem | mem
        · obtain ⟨some, target, -⟩ := ih d mem
          exact ⟨some, target, Nat.add_pos_right _ pos⟩
        · cases List.mem_singleton.mp mem
          exact ⟨sold, full, Nat.add_pos_right _ pos⟩
      | _ =>
        simp only [payments_snoc, payment, Option.toList_none, List.append_nil]
        exact ih
  intro d mem
  obtain ⟨sold, target, pos⟩ := each d mem
  exact ⟨sold, target.trans (run.sound.sold_of_distributed project pos).symm⟩

end Fund

/-- Each part of the dust is less than one step of the index for all units. -/
lemma dustOf_le {P S : ℕ} {ds : List (ℕ × ℕ)} (each : ∀ d ∈ ds, 0 < d.2 ∧ d.2 = S) :
    dustOf P ds ≤ ds.length * (S - 1) := by
  refine (List.sum_le_card_nsmul _ (S - 1) ?_).trans_eq ?_
  · intro r mem
    obtain ⟨d, own, rfl⟩ := List.mem_map.mp mem
    obtain ⟨pos, rfl⟩ := each d own
    have lt := Nat.mod_lt (d.1 * P) pos
    omega
  · rw [List.length_map]
    rfl

/-! ## Projects -/

variable {K : Type} [DecidableEq K] [Addresses K]

/-- A repayment raises the accumulator by its own amount per token, rounded down. -/
lemma repayment_index {s s' : State K} (wf : s.Wf) {p : K} {project : Project K} {now : Int64}
    {c : DistributeRepayment K} {n : U64} (own : s.projects.lookup p = some project)
    (target : c.project = p) (st : step s (.call now (.distributeRepayment c n)) = .ok s') :
    ∃ project', s'.projects.lookup p = some project' ∧
      project'.cumulativeUsdcPerToken.toNat = project.cumulativeUsdcPerToken.toNat
        + n.toNat * PRECISION.toNat / project.tokensSold.toNat := by
  have after := step_fund wf st (State.fund_project own)
  have event : s.event (.project p) (.call now (.distributeRepayment c n))
      = some (.distribute n.toNat) := by
    simp [State.event, State.listing_project own, Action.effect, Effect.on, target]
  rw [event] at after
  obtain ⟨f', own', ev⟩ := after
  obtain ⟨project', found, rfl⟩ := State.fund_project_some own'
  refine ⟨project', found, ?_⟩
  generalize e : s'.view.fundOf (.project p) project'.listing = f' at ev
  cases ev
  exact congrArg (fun f => f.index) e

/-- In every reachable state, what a project distributed is what its accumulator credits to the tokens sold
and the dust of its repayments. Each repayment adds its own dust, less than one step of the accumulator for
all tokens, and raises the accumulator by no more than its own amount gives. -/
theorem project_dust_stays (g : Genesis K) (as : List (Action K)) (p : K) (project : Project K)
    (own : (g.run as).projects.lookup p = some project) :
    project.totalDistributed.toNat * PRECISION.toNat
        = project.cumulativeUsdcPerToken.toNat * project.tokensSold.toNat
          + dustOf PRECISION.toNat (distributions (.project p) (g.history as)) ∧
      dustOf PRECISION.toNat (distributions (.project p) (g.history as))
        ≤ (distributions (.project p) (g.history as)).length * (project.tokensSold.toNat - 1) ∧
      ∀ now c n s', c.project = p →
        step (g.run as) (.call now (.distributeRepayment c n)) = .ok s' →
        ∃ project', s'.projects.lookup p = some project' ∧
          project'.cumulativeUsdcPerToken.toNat = project.cumulativeUsdcPerToken.toNat
            + n.toNat * PRECISION.toNat / project.tokensSold.toNat := by
  have run := g.reaches as (State.fund_project own)
  rw [← distributions_eq]
  refine ⟨run.index_dust rfl, dustOf_le (run.payments_sold rfl), ?_⟩
  intro now c n s' target st
  exact repayment_index (g.run_wf as) own target st

/-- The 3 tokens of project 1 are sold, and it repays 2 twice. -/
def demoDusty : List (Action Addr) :=
  Client.demoSetup ++ Client.demo.openProject 1 3 12 (.wallet 20) (.wallet 30) ++ [
    .call 0 (Client.demo.buyProjectTokens 1 (.wallet 20) (.wallet 10) 3),
    .call 0 (Client.demo.activateProject 1),
    Client.demoRepay 2,
    Client.demoRepay 2]

/-- A project that keeps the dust of two repayments. -/
theorem project_dust_stays_demo : ∃ project : Project Addr,
    (Genesis.blank.run demoDusty).projects.lookup (Client.project 1) = some project ∧
      project.totalDistributed.toNat * PRECISION.toNat
        = project.cumulativeUsdcPerToken.toNat * project.tokensSold.toNat
          + dustOf PRECISION.toNat
            (distributions (.project (Client.project 1)) (Genesis.blank.history demoDusty)) := by
  have listed : ((Genesis.blank.run demoDusty).projects.lookup (Client.project 1)).isSome := by
    decide +kernel
  obtain ⟨project, own⟩ := Option.isSome_iff_exists.mp listed
  exact ⟨project, own, (project_dust_stays _ _ _ project own).1⟩

/-- Two repayments of 2 among 3 tokens leave a remainder of 4. -/
theorem project_dust_piles_up : ¬ ∀ (g : Genesis Addr) as p project,
    (g.run as).projects.lookup p = some project → project.status ≠ .funding →
      0 ≤ (project.totalDistributed.toNat * PRECISION.toNat : ℤ)
          - project.cumulativeUsdcPerToken.toNat * project.tokensSold.toNat ∧
        (project.totalDistributed.toNat * PRECISION.toNat : ℤ)
          - project.cumulativeUsdcPerToken.toNat * project.tokensSold.toNat
          < project.tokensSold.toNat := by
  intro all
  have repaid : ((Genesis.blank.run demoDusty).projects.lookup (Client.project 1)).map
      (fun project => (project.status, project.tokensSold, project.totalDistributed,
        project.cumulativeUsdcPerToken))
      = some (.repaying, 3, 4, 1333333333332) := by decide +kernel
  obtain ⟨project, own, e⟩ := Option.map_eq_some_iff.mp repaid
  injection e with status e
  injection e with sold e
  injection e with distributed index
  have lt := (all Genesis.blank demoDusty _ project own (by rw [status]; decide)).2
  rw [sold, distributed, index] at lt
  exact absurd lt (by decide)

end Exira
