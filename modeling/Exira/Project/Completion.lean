import Exira.Project.Conservation
import Exira.Records.Provenance

/-!
# Completed projects

A project that was closed is closed for good, and what is left of it is collected: no action writes its
account again, and of each of its positions there is one thing that can still happen, a single claim of what
it was owed at the closing.
-/

namespace Exira

open Dividend

/-! ## Funds -/

namespace Fund

variable {ι : Type} [DecidableEq ι] {P : ℕ} {f₀ f f' : Fund ι} {e : Event ι}

/-- A fund is what a completed one became: every holding as it was, or settled. -/
structure WoundUp (P : ℕ) (f₀ f : Fund ι) : Prop where
  layer : f.layer = .project
  status : f.status = .completed
  index : f.index = f₀.index
  kept : ∀ i h₀, f₀.holdings.lookup i = some h₀ → ∃ h, f.holdings.lookup i = some h
  origin : ∀ i h, f.holdings.lookup i = some h → ∃ h₀, f₀.holdings.lookup i = some h₀ ∧
    (h = h₀ ∨ 0 < h₀.owed P f₀.index ∧ h = h₀.settle P f₀.index)

/-- A completed project is wound up. -/
lemma WoundUp.refl (layer : f.layer = .project) (status : f.status = .completed) : f.WoundUp P f :=
  ⟨layer, status, rfl, fun _ h₀ own => ⟨h₀, own⟩, fun _ h own => ⟨h, own, .inl rfl⟩⟩

omit [DecidableEq ι] in
/-- A settled holding is owed nothing. -/
lemma owed_settle (P index : ℕ) (h : Holding) : (h.settle P index).owed P index = 0 := by
  simp [Holding.settle, Holding.owed, Holding.pending]

/-- It stays so, whatever happens. -/
lemma WoundUp.step (h : f₀.WoundUp P f) (st : f.Step P e f') : f₀.WoundUp P f' := by
  obtain ⟨layer, status, index, kept, origin⟩ := h
  cases st with
  | buy funding => cases status.symm.trans funding
  | exit _ opened => rcases opened with e | e <;> cases status.symm.trans e
  | @claim i h own pos covered =>
    refine ⟨layer, status, index, ?_, ?_⟩
    · intro j h₀ own₀
      obtain ⟨h', own'⟩ := kept j h₀ own₀
      rcases eq_or_ne j i with rfl | ne
      · exact ⟨_, Finmap.lookup_insert _⟩
      · exact ⟨h', (Finmap.lookup_insert_of_ne _ ne).trans own'⟩
    · apply Finmap.forall_insert origin
      obtain ⟨h₀, own₀, rfl | ⟨-, rfl⟩⟩ := origin i h own
      · rw [index] at pos ⊢
        exact ⟨h, own₀, .inr ⟨pos, rfl⟩⟩
      · rw [index, owed_settle] at pos
        cases pos
  | distribute repays =>
    rw [layer, status] at repays
    rcases repays rfl with e | e <;> cases e
  | activate _ funding => cases status.symm.trans funding
  | close _ active => rcases active with e | e <;> cases status.symm.trans e
  | payout => exact ⟨layer, status, index, kept, origin⟩
  | deposit => exact ⟨layer, status, index, kept, origin⟩
  | burn => exact ⟨layer, status, index, kept, origin⟩

end Fund

/-! ## Accounts -/

variable {K : Type} [DecidableEq K]

/-- The position was claimed once, at an index. -/
structure InvestorPosition.Collected (index : U128) (q q' : InvestorPosition K) : Prop where
  pos : 0 < q.owed index
  claimed : q'.totalClaimed.toNat = q.totalClaimed.toNat + q.owed index
  record : q' = { q with lastClaimedPerToken := index, totalClaimed := q'.totalClaimed }

variable [Addresses K] {s s' : State K} {p : K} {project : Project K}

/-- A completed project is not written. -/
lemma Written.completed {now : Int64} {i : Instruction K} {m : Table K (Project K)} (h : Written s now i .project m)
    (own : s.projects.lookup p = some project) (closed : project.status = .completed) :
    m.lookup p = some project := by
  cases h with
  | same => exact own
  | write old _ changes =>
    refine (Finmap.lookup_insert_of_ne _ ?_).trans own
    rintro rfl
    cases own.symm.trans old
    exact changes.live closed
  | make vacant =>
    refine (Finmap.lookup_insert_of_ne _ ?_).trans own
    rintro rfl
    cases own.symm.trans (vacant.table .project)

/-- No instruction writes a completed project. -/
theorem handle_completed {now : Int64} {i : Instruction K} (h : handle s now i = .ok s')
    (own : s.projects.lookup p = some project) (closed : project.status = .completed) :
    s'.projects.lookup p = some project :=
  (handle_effects h).projects.completed own closed

/-- A completed project is the same in every later state. -/
lemma Genesis.completed_later (g : Genesis K) (as bs : List (Action K))
    (own : (g.run as).projects.lookup p = some project) (done : project.status = .completed) :
    (g.run (as ++ bs)).projects.lookup p = some project := by
  rw [g.run_append]
  refine Runs.run_invariant (I := fun s : State K => s.projects.lookup p = some project) own ?_ bs
  intro s x s' own st
  cases x with
  | call now i => exact handle_completed (step_call st).2 own done
  | outside o =>
    obtain ⟨b, -, rfl⟩ := step_outside st
    exact own

omit [DecidableEq K] [Addresses K] in
/-- Positions with the same terms and tokens differ in their claims only. -/
lemma InvestorPosition.eq_of_terms {q q' : InvestorPosition K} (terms : q'.terms = q.terms)
    (held : q'.tokensHeld = q.tokensHeld) :
    q' = { q with lastClaimedPerToken := q'.lastClaimedPerToken, totalClaimed := q'.totalClaimed } := by
  cases q
  cases q'
  simp only [InvestorPosition.terms, InvestorPosition.mk.injEq, true_and] at terms
  obtain ⟨rfl, rfl, rfl⟩ := terms
  cases held
  rfl

omit [DecidableEq K] [Addresses K] in
/-- A position of the same terms, whose holding is as it was or settled. -/
lemma InvestorPosition.collected_of {index : U128} {q q' : InvestorPosition K} (terms : q'.terms = q.terms)
    (holding : q'.holding = q.holding ∨ 0 < q.owed index ∧
      q'.holding = q.holding.settle PRECISION.toNat index.toNat) : q' = q ∨ q.Collected index q' := by
  rcases holding with same | ⟨pos, settled⟩
  · injection same with held last claimed
    have record := eq_of_terms terms (BitVec.eq_of_toNat_eq held)
    rw [BitVec.eq_of_toNat_eq last, BitVec.eq_of_toNat_eq claimed] at record
    exact .inl record
  · injection settled with held last claimed
    have record := eq_of_terms terms (BitVec.eq_of_toNat_eq held)
    rw [BitVec.eq_of_toNat_eq last] at record
    exact .inr ⟨pos, claimed, record⟩

/-- What a closed project still does. Its account is the same in every later state. Its positions are the
ones that there were; each is either as it was, or it was claimed once, for what it was owed at the closing. -/
theorem completion_final (g : Genesis K) (as bs : List (Action K))
    (own : (g.run as).projects.lookup p = some project) (done : project.status = .completed) :
    (g.run (as ++ bs)).projects.lookup p = some project ∧
    (∀ k q, (g.run as).positions.lookup k = some q → q.target = p →
      ∃ q', (g.run (as ++ bs)).positions.lookup k = some q') ∧
    ∀ k q', (g.run (as ++ bs)).positions.lookup k = some q' → q'.target = p →
      ∃ q, (g.run as).positions.lookup k = some q ∧ q.target = p ∧
        (q' = q ∨ q.Collected project.cumulativeUsdcPerToken q') := by
  have later := g.completed_later as bs own done
  obtain ⟨f, own', woundUp⟩ := g.fund_later as bs (State.fund_project own)
    (Q := Fund.WoundUp PRECISION.toNat _) (.refl rfl done) fun _ _ _ _ woundUp st => woundUp.step st
  obtain ⟨project', found, rfl⟩ := State.fund_project_some own'
  refine ⟨later, ?_, ?_⟩
  · intro k q held target
    obtain ⟨q', held', -⟩ := g.terms_later as bs (κ := .position) held
    exact ⟨q', held'⟩
  · intro k q' held' target
    subst target
    obtain ⟨h₀, own₀, collected⟩ := woundUp.origin k _ (View.lookup_holdings_of held')
    obtain ⟨q, held, target, rfl⟩ := View.lookup_holdings own₀
    obtain ⟨q₁, held₁, terms⟩ := g.terms_later as bs (κ := .position) held
    cases held'.symm.trans held₁
    exact ⟨q, held, target, InvestorPosition.collected_of terms collected⟩

/-- Project 1 of the demo deployment, closed after a repayment of 100 that only one investor claimed. -/
def demoClosed : List (Action Addr) :=
  Client.demoActive ++ [Client.demoRepay 100, Client.demoClaimProject (.wallet 10),
    .call 0 (Client.demo.closeProject 1)]

/-- The other investor collects, and tries again. -/
def demoCollected : List (Action Addr) :=
  [Client.demoClaimProject (.wallet 11), Client.demoClaimProject (.wallet 11)]

/-- A closed project whose holders collect later. -/
theorem completion_final_demo : ∃ (project : Project Addr) (q q' : InvestorPosition Addr),
    (Genesis.blank.run demoClosed).positions.lookup
      (Client.position (Client.project 1) (.wallet 11)) = some q ∧
    (Genesis.blank.run (demoClosed ++ demoCollected)).positions.lookup
      (Client.position (Client.project 1) (.wallet 11)) = some q' ∧
    q'.totalClaimed = 40 ∧ q.Collected project.cumulativeUsdcPerToken q' := by
  have closed : ((Genesis.blank.run demoClosed).projects.lookup (Client.project 1)).map Project.status
      = some .completed := by decide +kernel
  have before : ((Genesis.blank.run demoClosed).positions.lookup
      (Client.position (Client.project 1) (.wallet 11))).map InvestorPosition.totalClaimed = some 0 := by
    decide +kernel
  have after : ((Genesis.blank.run (demoClosed ++ demoCollected)).positions.lookup
      (Client.position (Client.project 1) (.wallet 11))).map (fun q => (q.target, q.totalClaimed))
      = some (Client.project 1, 40) := by decide +kernel
  obtain ⟨project, own, done⟩ := Option.map_eq_some_iff.mp closed
  obtain ⟨q', held', e⟩ := Option.map_eq_some_iff.mp after
  injection e with target claimed
  obtain ⟨-, -, all⟩ := completion_final .blank demoClosed demoCollected own done
  obtain ⟨q, held, -, same | collected⟩ := all _ q' held' target
  · rw [held, ← same, Option.map_some, claimed] at before
    cases before
  · exact ⟨project, q, q', held, held', claimed, collected⟩

end Exira
