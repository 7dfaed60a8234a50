import Exira.Client
import Mathlib.Logic.Relation

/-!
# The lifecycle of a project

A project is in one of its phases, and each phase fixes what the other fields can be: nothing is
distributed or claimed while it is for sale, and nobody's tokens change after that. No check of the program
states this; it is the invariant that the guards of all instructions keep together.
-/

namespace Exira

open Dividend

/-- The edges of the lifecycle. -/
inductive ProjectStatus.Next : ProjectStatus → ProjectStatus → Prop
  | activate : Next .funding .active
  | repay : Next .active .repaying
  | finish : Next .repaying .completed
  | close : Next .active .completed

/-- No edge leads back to the sale. -/
lemma ProjectStatus.eq_funding {st : ProjectStatus} (h : Relation.ReflGen Next st .funding) :
    st = .funding := by
  cases h with
  | refl => rfl
  | single h => cases h

/-! ## Funds -/

namespace Fund

variable {ι : Type} [DecidableEq ι] {P : ℕ} {f f' : Fund ι} {e : Event ι}

/-- An event keeps the status or moves it along an edge. -/
lemma Step.status (st : f.Step P e f') :
    Relation.ReflGen ProjectStatus.Next f.status f'.status := by
  cases st with
  | distribute repays =>
    cases kind : f.layer with
    | project =>
      rcases repays kind with e | e
      · simp only [Layer.repaid, e, and_self, if_true]
        exact .single .repay
      · simp only [Layer.repaid, e, reduceCtorEq, and_false, if_false]
        exact .refl
    | pool =>
      simp only [Layer.repaid, reduceCtorEq, false_and, if_false]
      exact .refl
  | activate _ status =>
    rw [status]
    exact .single .activate
  | close _ status =>
    rcases status with e | e <;> rw [e]
    · exact .single .finish
    · exact .single .close
  | _ => exact .refl

/-- The units held under a name. -/
def heldAt (f : Fund ι) (i : ι) : Option ℕ :=
  (f.holdings.lookup i).map Holding.held

/-- Once a fund is no longer for sale, no holding changes its units. -/
lemma Step.frozen (sound : f.Sound) (closed : f.status ≠ .funding) (st : f.Step P e f') :
    f'.status ≠ .funding ∧ f'.heldAt = f.heldAt := by
  refine ⟨?_, ?_⟩
  · intro funding
    have edge := st.status
    rw [funding] at edge
    exact closed (ProjectStatus.eq_funding edge)
  · funext i
    cases st with
    | buy status => exact absurd status closed
    | exit _ status =>
      rcases status with e | e
      · exact absurd e closed
      · exact absurd e sound.live
    | @claim j h own =>
      simp only [heldAt, Ledger.claim, Finmap.lookup_insert_ite]
      split
      · next e => rw [e, own]; rfl
      · rfl
    | _ => rfl

end Fund

/-! ## Projects -/

variable {K : Type} [DecidableEq K]

/-- The tokens of the position of the target `p` at `k`, if there is one. -/
def State.heldAt (s : State K) (p k : K) : Option U64 :=
  (s.positions.lookup k).bind fun q => if q.target = p then some q.tokensHeld else none

/-- What is held at a key is what the fund's holding is. -/
lemma State.heldAt_eq (s : State K) (p k : K) (project : Project K) :
    (s.heldAt p k).map BitVec.toNat = (s.view.fundOf (.project p) project.listing).heldAt k := by
  show _ = ((s.positions.filterMap (InvestorPosition.holdingOf p)).lookup k).map Holding.held
  rw [Finmap.lookup_filterMap, State.heldAt]
  cases s.positions.lookup k with
  | none => rfl
  | some q =>
    simp only [Option.bind_some, InvestorPosition.holdingOf]
    split <;> rfl

variable [Addresses K]

/-- The lifecycle of a project: (a) while it is for sale, nothing is distributed, claimed or collected;
(b) after that it is sold out and no position of it ever changes its tokens; (c) it has distributed
nothing while active and something while repaying; (d) it is never cancelled, and at any later time its
status is reached along the edges of the lifecycle. -/
theorem project_lifecycle (g : Genesis K) (as : List (Action K)) (p : K) (project : Project K)
    (own : (g.run as).projects.lookup p = some project) :
    (project.status = .funding →
      project.totalDistributed = 0 ∧ project.cumulativeUsdcPerToken = 0 ∧
        project.originationFeeCollected = 0 ∧
        ∀ k q, (g.run as).positions.lookup k = some q → q.target = p →
          q.lastClaimedPerToken = 0 ∧ q.totalClaimed = 0) ∧
      (project.status ≠ .funding →
        project.tokensSold = project.targetAmount ∧
          ∀ bs k, (g.run (as ++ bs)).heldAt p k = (g.run as).heldAt p k) ∧
      (project.status = .active → project.totalDistributed = 0) ∧
      (project.status = .repaying → 0 < project.totalDistributed) ∧
      project.status ≠ .cancelled ∧
      ∀ bs, ∃ project', (g.run (as ++ bs)).projects.lookup p = some project' ∧
        Relation.ReflTransGen ProjectStatus.Next project.status project'.status := by
  have fund := State.fund_project own
  have sound := g.fund_sound as fund
  refine ⟨?_, ?_, ?_, ?_, sound.live, ?_⟩
  · intro funding
    obtain ⟨distributed, index, fee, zero⟩ := sound.funding rfl funding
    refine ⟨BitVec.eq_of_toNat_eq_zero distributed, BitVec.eq_of_toNat_eq_zero index,
      BitVec.eq_of_toNat_eq_zero fee, ?_⟩
    rintro k q held rfl
    obtain ⟨last, claimed⟩ := zero k _ (View.lookup_holdings_of held)
    exact ⟨BitVec.eq_of_toNat_eq_zero last, BitVec.eq_of_toNat_eq_zero claimed⟩
  · intro closed
    refine ⟨BitVec.eq_of_toNat_eq (sound.full closed), ?_⟩
    intro bs k
    -- once it is not for sale, no step changes a holding
    obtain ⟨f', fund', -, frozen⟩ := g.fund_later as bs fund
      (Q := fun f' => f'.status ≠ .funding ∧
        f'.heldAt = ((g.run as).view.fundOf (.project p) project.listing).heldAt)
      ⟨closed, rfl⟩ (by
        intro f₁ e f₂ sound ⟨closed, same⟩ st
        obtain ⟨closed', same'⟩ := st.frozen sound closed
        exact ⟨closed', same'.trans same⟩)
    obtain ⟨project', -, rfl⟩ := State.fund_project_some fund'
    have same := congrFun frozen k
    rw [← State.heldAt_eq, ← State.heldAt_eq] at same
    exact Option.map_injective (fun _ _ => BitVec.eq_of_toNat_eq) same
  · exact fun active => BitVec.eq_of_toNat_eq_zero (sound.active active)
  · exact fun repaying => BitVec.lt_def.mpr (sound.repaying repaying)
  · intro bs
    obtain ⟨f', fund', path⟩ := g.fund_later as bs fund
      (Q := fun f' => Relation.ReflTransGen ProjectStatus.Next project.status f'.status) .refl (by
        intro f₁ e f₂ _ path st
        exact path.trans st.status.to_reflTransGen)
    obtain ⟨project', own', rfl⟩ := State.fund_project_some fund'
    exact ⟨project', own', path⟩

/-- An active project that is repaid. -/
theorem project_lifecycle_demo : ∃ project : Project Addr,
    (Genesis.blank.run Client.demoActive).projects.lookup (Client.project 1) = some project ∧
      project.status = .active ∧ project.totalDistributed = 0 ∧
      (Genesis.blank.run (Client.demoActive ++ [Client.demoRepay 7])).heldAt (Client.project 1)
          (Client.position (Client.project 1) (.wallet 10))
        = (Genesis.blank.run Client.demoActive).heldAt (Client.project 1)
          (Client.position (Client.project 1) (.wallet 10)) := by
  have activated : ((Genesis.blank.run Client.demoActive).projects.lookup (Client.project 1)).map
      (·.status) = some .active := by decide +kernel
  obtain ⟨project, own, status⟩ := Option.map_eq_some_iff.mp activated
  obtain ⟨-, closed, active, -⟩ := project_lifecycle _ _ _ project own
  have frozen := (closed (by rw [status]; nofun)).2
  exact ⟨project, own, status, active status, frozen _ _⟩

end Exira
