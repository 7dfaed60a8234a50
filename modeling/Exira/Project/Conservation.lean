import Exira.Client

/-!
# Distributions of a project are conserved

Positions of a project change hands only before the accumulator moves, so a project's top-ups inherit
nothing, and what was distributed is what its positions claimed and accrued, up to the rounding of each
distribution and each claim.
-/

namespace Exira

open Dividend

/-! ## Funds -/

namespace Fund

variable {ι : Type} [DecidableEq ι] {P : ℕ} {f f' : Fund ι} {e : Event ι}
  {tr : List (Fund ι × Event ι)}

/-- A project sells at index zero only. -/
lemma Step.inherited_project (sound : f.Sound) (project : f.layer = .project) (st : f.Step P e f') :
    f.inherited e = 0 := by
  cases st with
  | @buy i n status =>
    obtain ⟨-, index, -, -⟩ := sound.funding project status
    cases own : f.holdings.lookup i with
    | none => simp [inherited, own]
    | some h => simp [inherited, own, index]
  | _ => rfl

/-- Nothing is inherited in a project. -/
lemma Reaches.inherited_project (run : Reaches P tr f) (project : f.layer = .project) :
    total inherited tr = 0 := by
  induction run with
  | fresh => rfl
  | step past st ih =>
    rw [st.layer] at project
    rw [total_snoc, ih project, st.inherited_project past.sound project]

/-- Each distribution loses less than one unit per token for sale, each claim less than one unit. -/
lemma Reaches.dust_le (run : Reaches P tr f) :
    total (dust P) tr ≤ total (fun _ => Event.distributions) tr * (f.target - 1)
      + total (fun _ => Event.claims) tr * (P - 1) := by
  induction run with
  | fresh => simp
  | @step tr f e f' past st ih =>
    have room := past.sound.room
    rw [total_snoc, total_snoc, total_snoc, st.target, Nat.add_mul, Nat.add_mul]
    have one : f.dust P e ≤ e.distributions * (f.target - 1) + e.claims * (P - 1) := by
      cases e with
      | distribute => simp only [dust, Event.distributions, Event.claims]; omega
      | claim => simp [dust, Event.distributions, Event.claims]
      | _ => exact Nat.zero_le _
    omega

/-- Without a distribution nothing is distributed, and after one there is something to sell. -/
lemma Reaches.distributions (run : Reaches P tr f) :
    (total (fun _ => Event.distributions) tr = 0 ∧ f.distributed = 0) ∨
      (0 < total (fun _ => Event.distributions) tr ∧ 0 < f.distributed ∧ 0 < f.target) := by
  induction run with
  | fresh new => exact .inl ⟨rfl, new.distributed⟩
  | @step tr f e f' past st ih =>
    rw [total_snoc]
    cases st with
    | distribute _ pos sold =>
      exact .inr ⟨Nat.succ_pos _, Nat.add_pos_right _ pos, sold.trans_le past.sound.room⟩
    | _ => exact ih

/-- A project that has distributed is sold out. -/
lemma Sound.sold_of_distributed (sound : f.Sound) (project : f.layer = .project)
    (pos : 0 < f.distributed) : f.sold = f.target := by
  apply sound.full
  intro funding
  obtain ⟨zero, -⟩ := sound.funding project funding
  omega

/-- What was distributed less what was credited, scaled. -/
def residue (P : ℕ) (f : Fund ι) : ℤ :=
  f.distributed * P - f.credited P

/-- Conservation for a project, two-sided. -/
theorem Reaches.conserved (run : Reaches P tr f) (project : f.layer = .project) (P_pos : 0 < P) :
    0 ≤ f.residue P ∧
      f.residue P ≤ total (fun _ => Event.distributions) tr * ((f.sold : ℤ) - 1)
        + total (fun _ => Event.claims) tr * ((P : ℤ) - 1) ∧
      (total (fun _ => Event.distributions) tr = 0 → f.residue P = 0) := by
  have le := run.credited_le
  have ge := run.le_credited
  have dust := run.dust_le
  rw [run.inherited_project project] at le
  unfold residue
  obtain ⟨none, zero⟩ | ⟨some, pos, target⟩ := run.distributions
  · -- nothing was distributed, so nothing is credited
    rw [zero, Nat.zero_mul] at le
    rw [Nat.le_zero.mp le, zero, none]
    refine ⟨by simp, ?_, by simp⟩
    have scale : (0 : ℤ) ≤ (P : ℤ) - 1 := by omega
    simpa using mul_nonneg (Int.natCast_nonneg _) scale
  · have full := run.sound.sold_of_distributed project pos
    rw [← full] at dust target
    have sold : 1 ≤ f.sold := target
    have scale : 1 ≤ P := P_pos
    refine ⟨by omega, ?_, fun none => absurd none some.ne'⟩
    rw [← Nat.cast_one, ← Nat.cast_sub sold, ← Nat.cast_sub scale]
    omega

/-- Claims of a project are within its distributions. -/
lemma Reaches.paid_le_project (run : Reaches P tr f) (project : f.layer = .project) (P_pos : 0 < P) :
    f.paid + f.owedTotal P ≤ f.distributed := by
  apply paid_add_owedTotal_le f P_pos
  have le := run.credited_le
  rwa [run.inherited_project project] at le

/-- And so is the claim of each holder. -/
lemma Reaches.claim_le_project (run : Reaches P tr f) (project : f.layer = .project) (P_pos : 0 < P)
    {i : ι} {h : Holding} (own : f.holdings.lookup i = some h) :
    h.claimed + h.owed P f.index ≤ f.distributed := by
  have all := run.paid_le_project project P_pos
  exact (Nat.add_le_add (claimed_le_paid own) (owed_le_owedTotal own)).trans all

end Fund

/-! ## Projects -/

variable {K : Type} [DecidableEq K]

/-- What was distributed by a project less what its positions claimed and accrued, scaled. -/
def State.residue (s : State K) (p : K) (project : Project K) : ℤ :=
  project.totalDistributed.toNat * PRECISION.toNat
    - s.sumPositions p fun q =>
      q.totalClaimed.toNat * PRECISION.toNat + q.pending project.cumulativeUsdcPerToken

/-- The residue of a project is that of its fund. -/
lemma State.residue_eq (s : State K) (p : K) (project : Project K) :
    s.residue p project
      = (s.view.fundOf (.project p) project.listing).residue PRECISION.toNat := by
  have sum := State.sumPositions_eq (s := s) (k := p)
    (ψ := Holding.credit PRECISION.toNat project.cumulativeUsdcPerToken.toNat) fun _ => rfl
  rw [State.residue]
  exact congrArg _ (congrArg _ sum)

variable [Addresses K]

/-- In every reachable state, what a project distributed and its positions neither claimed nor accrued is
rounding: less than one unit per token for each of the `n` distributions, and less than one unit for each
of the `c` claims. -/
theorem project_distributions_conserved (g : Genesis K) (as : List (Action K)) (p : K)
    (project : Project K) (own : (g.run as).projects.lookup p = some project) :
    0 ≤ (g.run as).residue p project ∧
      (g.run as).residue p project
        ≤ tally Event.distributions (.project p) (g.history as) * ((project.tokensSold.toNat : ℤ) - 1)
          + tally Event.claims (.project p) (g.history as) * ((PRECISION.toNat : ℤ) - 1) ∧
      (tally Event.distributions (.project p) (g.history as) = 0 →
        (g.run as).residue p project = 0) := by
  have run := g.reaches as (State.fund_project own)
  rw [State.residue_eq]
  exact run.conserved rfl (by decide)

/-- Two distributions to an active project, with a claim in between. -/
def demoRepaid : List (Action Addr) :=
  Client.demoActive ++
    [Client.demoRepay 7, Client.demoClaimProject (.wallet 10), Client.demoRepay 5]

/-- Twelve repaid, and none credited beyond it. -/
theorem project_distributions_conserved_demo : ∃ project : Project Addr,
    (Genesis.blank.run demoRepaid).projects.lookup (Client.project 1) = some project ∧
      project.totalDistributed = 12 ∧
      0 ≤ (Genesis.blank.run demoRepaid).residue (Client.project 1) project := by
  have paid : ((Genesis.blank.run demoRepaid).projects.lookup (Client.project 1)).map
      (·.totalDistributed) = some 12 := by decide +kernel
  obtain ⟨project, own, total⟩ := Option.map_eq_some_iff.mp paid
  exact ⟨project, own, total, (project_distributions_conserved _ _ _ project own).1⟩

end Exira
