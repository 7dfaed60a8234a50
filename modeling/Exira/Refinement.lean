import Exira.Fund.Accounting
import Exira.Moves
import Exira.Simulation

/-!
# Runs of the program refine runs of funds

`Genesis.reaches`: in every state that a run of the program reaches, the fund of every project and pool is
one that the fund machine reaches, by exactly the events that the actions of the run were for it. What is
proved of funds is read back on accounts through `State.fund_project`, `State.fund_pool` and
`State.sumPositions`.
-/

namespace Exira

open Dividend

variable {K : Type} [DecidableEq K] [Addresses K] {s s' : State K} {a : Action K} {t : Target K}
  {f : Fund K}

/-! ## One action -/

/-- A successful action is an event of the fund of each target, or leaves it alone. -/
theorem step_fund (wf : s.Wf) (st : step s a = .ok s') (own : s.fund t = some f) :
    f.After PRECISION.toNat (s.event t a) (s'.fund t) := by
  obtain ⟨l, listed, rfl⟩ := Option.map_eq_some_iff.mp own
  rw [State.event, listed, Option.bind_some]
  exact (step_acts wf st).move.fund wf.view listed

/-- An instruction of a target is its event. -/
lemma step_own (wf : s.Wf) (st : step s a = .ok s') (own : s.fund t = some f) {e : Event K}
    (effect : a.effect s = .own t e) : ∃ f', s'.fund t = some f' ∧ f.Step PRECISION.toNat e f' := by
  obtain ⟨l, listed, -⟩ := Option.map_eq_some_iff.mp own
  have event : s.event t a = some e := by
    rw [State.event, listed, Option.bind_some, effect, Effect.on, if_pos rfl]
  have after := step_fund wf st own
  rwa [event] at after

/-- A fund that appears is fresh. -/
theorem step_fund_new (wf : s.Wf) (st : step s a = .ok s') (free : s.fund t = none)
    (own : s'.fund t = some f) : f.Fresh := by
  obtain ⟨l, listed, rfl⟩ := Option.map_eq_some_iff.mp own
  exact (step_acts wf st).move.fund_new wf.view (View.fund_eq_none.mp free) listed

/-- A fund stays. -/
lemma step_fund_some (wf : s.Wf) (st : step s a = .ok s') (own : s.fund t = some f) :
    ∃ f', s'.fund t = some f' := by
  have after := step_fund wf st own
  cases e : s.event t a with
  | none =>
    rw [e] at after
    exact ⟨f, after⟩
  | some ev =>
    rw [e] at after
    obtain ⟨f', own', -⟩ := after
    exact ⟨f', own'⟩

omit [Addresses K] in
/-- One more step adds the event that it is for the fund, if it is one. -/
lemma fundHistory_snoc (h : List (State K × Action K)) (s : State K) (a : Action K) :
    fundHistory t (h ++ [(s, a)]) = fundHistory t h ++
      (((s.fund t).bind fun f => (s.event t a).map fun e => (f, e)).toList) := by
  rw [fundHistory, List.filterMap_append]
  congr 1

omit [Addresses K] in
/-- The sum of a measure over the events of a target in a history. -/
def tally (φ : Event K → ℕ) (t : Target K) (h : List (State K × Action K)) : ℕ :=
  Fund.total (fun _ => φ) (fundHistory t h)

omit [Addresses K] in
/-- The first step counts with the event it is for the fund. -/
lemma tally_cons (φ : Event K → ℕ) (t : Target K) (x : State K × Action K)
    (h : List (State K × Action K)) :
    tally φ t (x :: h) = (x.1.event t x.2).elim 0 φ + tally φ t h := by
  cases ev : x.1.event t x.2 with
  | none =>
    have skip : fundEvent t x = none := by
      rw [fundEvent, ev]
      cases x.1.fund t <;> rfl
    rw [tally, fundHistory, List.filterMap_cons_none skip, Option.elim, Nat.zero_add]
    rfl
  | some e =>
    obtain ⟨l, listed, -⟩ := Option.bind_eq_some_iff.mp ev
    have keep : fundEvent t x = some (x.1.view.fundOf t l, e) := by
      rw [fundEvent, State.fund, View.fund_eq listed, ev]
      rfl
    rw [tally, fundHistory, List.filterMap_cons_some keep]
    rfl

omit [Addresses K] in
/-- A measure of at most one for each action of a kind is at most the number of these actions. -/
lemma tally_le_countP {φ : Event K → ℕ} {t : Target K} {b : Action K → Bool}
    {h : List (State K × Action K)}
    (each : ∀ x ∈ h, ∀ e, x.1.event t x.2 = some e → φ e ≤ (b x.2).toNat) :
    tally φ t h ≤ h.countP fun x => b x.2 := by
  induction h with
  | nil => exact Nat.le_refl _
  | cons x h ih =>
    have rest := ih fun y mem => each y (.tail _ mem)
    have one := each x (.head _)
    rw [tally_cons, List.countP_cons]
    cases ev : x.1.event t x.2 with
    | none => exact (Nat.zero_add _).trans_le (Nat.le_add_right_of_le rest)
    | some e =>
      have one := one e ev
      simp only [Option.elim]
      cases kind : b x.2 <;> simp [kind] at one ⊢ <;> omega

/-! ## Runs -/

/-- The first state is well formed. -/
lemma Genesis.wf (g : Genesis K) : g.state.Wf where
  view := {
    sound := g.sound
    associated := g.associated _ _ _
    noMint := g.noMint
    listed := by
      intro t l own
      cases t with
      | project k => exact nomatch own
      | pool k => exact nomatch own
    placed := nofun
    target := nofun }
  side := ⟨nofun, nofun, nofun, nofun, nofun, nofun⟩

/-- The invariant holds in every reachable state. -/
theorem Genesis.run_wf (g : Genesis K) (as : List (Action K)) : (g.run as).Wf :=
  Runs.run_invariant g.wf (fun _ _ _ wf st => wf.step st) as

/-- Induction over runs, with the invariant at hand. -/
theorem Genesis.run_induction {I : List (State K × Action K) → State K → Prop} (g : Genesis K)
    (start : I [] g.state)
    (preserve : ∀ h s a s', s.Wf → I h s → step s a = .ok s' → I (h ++ [(s, a)]) s')
    (as : List (Action K)) : I (g.history as) (g.run as) := by
  have both : (g.run as).Wf ∧ I (g.history as) (g.run as) := by
    apply Runs.run_induction (I := fun h s => s.Wf ∧ I h s)
    · exact ⟨g.wf, start⟩
    · intro h s a s' ⟨wf, past⟩ st
      exact ⟨wf.step st, preserve h s a s' wf past st⟩
  exact both.2

section
variable {g : Genesis K} {as : List (Action K)} {x : Action K}

/-- A step that goes through makes the run longer. -/
lemma Genesis.run_snoc (st : step (g.run as) x = .ok s') : s' = g.run (as ++ [x]) := by
  rw [Genesis.run_append]
  exact (Runs.next_ok st).symm

/-- It makes the history longer too. -/
lemma Genesis.history_snoc (st : step (g.run as) x = .ok s') :
    g.history (as ++ [x]) = g.history as ++ [(g.run as, x)] := by
  rw [Genesis.history_append, Runs.trace_ok st]
  rfl

end

/-- Induction over runs, each step from a reachable state. -/
theorem Genesis.reached_induction {I : List (State K × Action K) → State K → Prop} (g : Genesis K)
    (start : I [] g.state)
    (preserve : ∀ as x s', step (g.run as) x = .ok s' → I (g.history as) (g.run as) →
      I (g.history as ++ [(g.run as, x)]) s')
    (as : List (Action K)) : I (g.history as) (g.run as) := by
  suffices both : (∃ bs, g.history as = g.history bs ∧ g.run as = g.run bs) ∧
      I (g.history as) (g.run as) from both.2
  refine g.run_induction (I := fun h s => (∃ bs, h = g.history bs ∧ s = g.run bs) ∧ I h s)
    ⟨⟨[], rfl, rfl⟩, start⟩ ?_ as
  rintro _ _ x s' - ⟨⟨bs, rfl, rfl⟩, past⟩ st
  exact ⟨⟨bs ++ [x], (Genesis.history_snoc st).symm, Genesis.run_snoc st⟩, preserve bs x s' st past⟩

/-- Every fund of a reachable state is reached by the events of its history. -/
theorem Genesis.reaches (g : Genesis K) (as : List (Action K)) (own : (g.run as).fund t = some f) :
    Fund.Reaches PRECISION.toNat (fundHistory t (g.history as)) f := by
  suffices all : ((g.run as).fund t = none → fundHistory t (g.history as) = []) ∧
      ∀ f, (g.run as).fund t = some f →
        Fund.Reaches PRECISION.toNat (fundHistory t (g.history as)) f by
    exact all.2 f own
  refine g.run_induction (I := fun h s => (s.fund t = none → fundHistory t h = []) ∧
    ∀ f, s.fund t = some f → Fund.Reaches PRECISION.toNat (fundHistory t h) f) ?_ ?_ as
  · refine ⟨fun _ => rfl, ?_⟩
    intro f own
    cases t with
    | project k => exact nomatch own
    | pool k => exact nomatch own
  · intro h s a s' wf ⟨empty, past⟩ st
    rw [fundHistory_snoc]
    cases own : s.fund t with
    | none =>
      rw [empty own]
      refine ⟨fun _ => rfl, ?_⟩
      intro f own'
      exact .fresh (step_fund_new wf st own own')
    | some f =>
      have after := step_fund wf st own
      obtain ⟨f', own'⟩ := step_fund_some wf st own
      refine ⟨fun free => absurd (own'.symm.trans free) nofun, ?_⟩
      cases e : s.event t a with
      | none =>
        rw [e] at after
        intro f' own'
        have same : f = f' := Option.some.inj (after.symm.trans own')
        subst same
        have keep := past f own
        simpa using keep
      | some ev =>
        rw [e] at after
        obtain ⟨f₁, own₁, ev_step⟩ := after
        intro f' own'
        rw [own₁] at own'
        cases own'
        exact .step (past f own) ev_step

/-- Every fund of a reachable state is sound. -/
theorem Genesis.fund_sound (g : Genesis K) (as : List (Action K)) (own : (g.run as).fund t = some f) :
    f.Sound :=
  (g.reaches as own).sound

/-- What every event keeps, given soundness, holds of a fund at every later state of a run. -/
theorem Genesis.fund_later (g : Genesis K) (as bs : List (Action K))
    (own : (g.run as).fund t = some f) {Q : Fund K → Prop} (start : Q f)
    (preserve : ∀ f₁ e f₂, f₁.Sound → Q f₁ → f₁.Step PRECISION.toNat e f₂ → Q f₂) :
    ∃ f', (g.run (as ++ bs)).fund t = some f' ∧ Q f' := by
  suffices all : (g.run (as ++ bs)).Wf ∧
      ∃ f', (g.run (as ++ bs)).fund t = some f' ∧ f'.Sound ∧ Q f' by
    obtain ⟨-, f', own', -, q⟩ := all
    exact ⟨f', own', q⟩
  rw [g.run_append]
  refine Runs.run_invariant (I := fun s : State K => s.Wf ∧
    ∃ f', s.fund t = some f' ∧ f'.Sound ∧ Q f') ?_ ?_ bs
  · exact ⟨g.run_wf as, f, own, g.fund_sound as own, start⟩
  · intro s a s' ⟨wf, f₁, own₁, sound, q⟩ st
    have after := step_fund wf st own₁
    refine ⟨wf.step st, ?_⟩
    cases e : s.event t a with
    | none =>
      rw [e] at after
      exact ⟨f₁, after, sound, q⟩
    | some ev =>
      rw [e] at after
      obtain ⟨f₂, own₂, ev_step⟩ := after
      exact ⟨f₂, own₂, sound.step ev_step, preserve _ _ _ sound q ev_step⟩

/-! ## Reading funds on accounts -/

section
omit [Addresses K]

/-- A project that is there has a fund. -/
lemma State.fund_project {k : K} {p : Project K} (own : s.projects.lookup k = some p) :
    s.fund (.project k) = some (s.view.fundOf (.project k) p.listing) :=
  View.fund_eq (State.listing_project own)

/-- A fund of a project is that of a record. -/
lemma State.fund_project_some {k : K} (own : s.fund (.project k) = some f) :
    ∃ p, s.projects.lookup k = some p ∧ f = s.view.fundOf (.project k) p.listing := by
  obtain ⟨l, listed, rfl⟩ := Option.map_eq_some_iff.mp own
  obtain ⟨p, own', rfl⟩ := Option.map_eq_some_iff.mp listed
  exact ⟨p, own', rfl⟩

/-- A pool that is there has a fund. -/
lemma State.fund_pool {k : K} {p : Pool K} (own : s.pools.lookup k = some p) :
    s.fund (.pool k) = some (s.view.fundOf (.pool k) p.listing) :=
  View.fund_eq (State.listing_pool own)

/-- A fund of a pool is that of a record. -/
lemma State.fund_pool_some {k : K} (own : s.fund (.pool k) = some f) :
    ∃ p, s.pools.lookup k = some p ∧ f = s.view.fundOf (.pool k) p.listing := by
  obtain ⟨l, listed, rfl⟩ := Option.map_eq_some_iff.mp own
  obtain ⟨p, own', rfl⟩ := Option.map_eq_some_iff.mp listed
  exact ⟨p, own', rfl⟩

/-- The scaled amount that a position accrued since its last claim. -/
def InvestorPosition.pending (q : InvestorPosition K) (cumulative : U128) : ℕ :=
  q.tokensHeld.toNat * (cumulative.toNat - q.lastClaimedPerToken.toNat)

/-- What a claim of the position would pay. -/
def InvestorPosition.owed (q : InvestorPosition K) (cumulative : U128) : ℕ :=
  q.pending cumulative / PRECISION.toNat

/-- The sum of a measure over all positions of the target at `k`. -/
def State.sumPositions (s : State K) (k : K) (φ : InvestorPosition K → ℕ) : ℕ :=
  s.positions.sum fun q => if q.target = k then φ q else 0

/-- Sums over positions are sums over the holdings of the fund. -/
lemma State.sumPositions_eq {k : K} {φ : InvestorPosition K → ℕ} {ψ : Holding → ℕ}
    (same : ∀ q : InvestorPosition K, φ q = ψ q.holding) :
    s.sumPositions k φ = (s.view.holdings k).sum ψ := by
  rw [View.holdings, Finmap.sum_filterMap, State.sumPositions]
  apply Finmap.sum_congr
  intro _ q _
  simp only [InvestorPosition.holdingOf]
  split
  · exact same q
  · rfl

end

end Exira
