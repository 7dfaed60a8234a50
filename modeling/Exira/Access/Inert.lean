import Exira.Access.Observed

/-!
# What has no effect

Verification reports and their attestations move no money and gate nothing: a run without them differs from the run
with them in the reports and in the state of their MRV projects only (`reports_inert`). The performance fee and the
hurdle rate that `initialize_platform` checks and stores are never read (`settings_inert`).
-/

namespace Exira

open Except

variable {K : Type} [DecidableEq K] [Addresses K] {s s' t : State K}

/-! ## Reports -/

/-- An account that an instruction opened if needed is an associated one. -/
lemma ensures_associated {now : Int64} {i : Instruction K} (h : handle s now i = .ok s') :
    ∀ k ∈ i.ensures, ∃ w m, k = associatedToken w m := by
  cases i with
  | buyProjectTokens a n =>
    obtain ⟨done, -⟩ := buyProjectTokens_ok.mp h
    exact List.forall_mem_singleton.mpr ⟨_, _, (ensureAssociatedToken_ok done.ensured).1⟩
  | claimProjectReturns a =>
    obtain ⟨done, -⟩ := claimProjectReturns_ok.mp h
    exact List.forall_mem_singleton.mpr ⟨_, _, (ensureAssociatedToken_ok done.ensured).1⟩
  | buyPoolTokens a n =>
    obtain ⟨done, -⟩ := buyPoolTokens_ok.mp h
    exact List.forall_mem_singleton.mpr ⟨_, _, (ensureAssociatedToken_ok done.ensured).1⟩
  | claimPoolReturns a =>
    obtain ⟨done, -⟩ := claimPoolReturns_ok.mp h
    exact List.forall_mem_singleton.mpr ⟨_, _, (ensureAssociatedToken_ok done.ensured).1⟩
  | _ => exact nofun

/-- A report changes nothing that is seen without the reports. -/
lemma step_report {x : Action K} (same : Observer.ofAllButReports.Same s t) (reports : x.reports = true)
    (st : step s x = .ok s') : Observer.ofAllButReports.Same s' t := by
  cases x with
  | outside x => cases reports
  | call now i =>
    cases i with
    | submitVerification a index start stop energy cost co2 bps hash =>
      obtain ⟨done, rfl⟩ := submitVerification_ok.mp (step_call st).2
      -- its count and status of the entry are what the observer does not see
      refine { same with mrvProjects := ?_, verifications := ?_ }
      · intro k _
        rw [Finmap.lookup_insert_ite]
        have old := same.mrvProjects k trivial
        split
        · next e =>
          rw [e, done.own] at old
          rw [e]
          generalize t.mrvProjects.lookup a.mrvProject = m at old
          cases old with | some old => exact .some old
        · exact old
      · intro k seen
        rw [Finmap.lookup_insert_of_ne]
        · exact same.verifications k seen
        · rintro rfl
          exact seen.2 ⟨_, _, _, done.place⟩
    | attestVerification a =>
      obtain ⟨done, rfl⟩ := attestVerification_ok.mp (step_call st).2
      refine { same with verifications := ?_ }
      intro k seen
      rw [Finmap.lookup_insert_of_ne]
      · exact same.verifications k seen
      · rintro rfl
        exact seen.2 ⟨_, _, _, done.placed⟩
    | _ => cases reports

/-- Any other action goes through in both states, or in none. -/
lemma step_unreported {x : Action K} (same : Observer.ofAllButReports.Same s t) (other : x.reports = false) :
    (∃ s' t', step s x = .ok s' ∧ step t x = .ok t' ∧ Observer.ofAllButReports.Same s' t') ∨
      ∃ e e', step s x = .error e ∧ step t x = .error e' := by
  by_cases place : ∀ now i, x = .call now i → ∀ k ∈ i.ensures, k ∉ (Observer.ofAllButReports (K := K)).hidden
  · have both := step_same same (fun _ _ => trivial) place fun reports => nomatch other.symm.trans reports
    generalize step s x = r at both
    generalize step t x = r' at both
    cases both with
    | ok next => exact .inl ⟨_, _, rfl, rfl, next⟩
    | error e => exact .inr ⟨e, e, rfl, rfl⟩
  · -- it would open a token account where a report is
    push Not at place
    obtain ⟨now, i, rfl, k, mem, hid⟩ := place
    have fails : ∀ u : State K, ∃ e, step u (.call now i) = .error e := by
      intro u
      cases st : step u (.call now i) with
      | error e => exact ⟨e, rfl⟩
      | ok u' =>
        obtain ⟨w, m, rfl⟩ := ensures_associated (step_call st).2 k mem
        exact absurd hid (Observer.associated_shown w m)
    obtain ⟨e, st⟩ := fails s
    obtain ⟨e', st'⟩ := fails t
    exact .inr ⟨e, e', st, st'⟩

/-- Leaving all reports and attestations out of a run changes no other account but the counts and the statuses of
MRV projects, and no other action's success. -/
theorem reports_inert (g : Genesis K) (as : List (Action K)) :
    let bs := as.filter fun x => !x.reports
    let s := g.run as
    let t := g.run bs
    s.platforms = t.platforms ∧ s.projects = t.projects ∧ s.pools = t.pools ∧ s.links = t.links ∧
      s.positions = t.positions ∧ s.baselines = t.baselines ∧ s.auditors = t.auditors ∧ s.bank = t.bank ∧
      (∀ k, (s.mrvProjects.lookup k).map MrvProject.unreported
        = (t.mrvProjects.lookup k).map MrvProject.unreported) ∧
      ((g.history as).map Prod.snd).filter (fun x => !x.reports) = (g.history bs).map Prod.snd := by
  intro bs s t
  obtain ⟨same, went⟩ : Observer.ofAllButReports.Same s t ∧
      ((g.history as).map Prod.snd).filter (fun x => !x.reports) = (g.history bs).map Prod.snd := by
    refine Runs.erase (I := Observer.ofAllButReports.Same) ?_ ?_ as (.refl _ g.state)
    · intro s t x s' same drops st
      exact step_report same (by simpa using drops) st
    · intro s t x same keeps
      exact step_unreported same (by simpa using keeps)
  exact ⟨same.platforms.ext, same.projects.ext, same.pools.ext, same.links.ext, same.positions.ext,
    same.baselines.ext, same.auditors.ext, same.bank.ext, same.mrvProjects.map_eq fun _ _ => id, went⟩

/-! ## Settings -/

/-- The same action, or an initialization of the platform with two other settings, which are accepted if the first
are. -/
inductive Action.Reset : Action K → Action K → Prop where
  | same (x : Action K) : Reset x x
  | settings (now : Int64) (a : InitializePlatform K) (orig perf hurdle perf' hurdle' : U16)
      (accepted : perf ≤ MAX_FEE_BPS ∧ hurdle ≤ MAX_FEE_BPS ↔ perf' ≤ MAX_FEE_BPS ∧ hurdle' ≤ MAX_FEE_BPS) :
    Reset (.call now (.initializePlatform a orig perf hurdle))
      (.call now (.initializePlatform a orig perf' hurdle'))

/-- The error of a step is what it raises. -/
lemma State.errorOf_raised (s : State K) (x : Action K) : s.errorOf x = (step s x).raised := by
  unfold State.errorOf
  cases step s x <;> rfl

/-- A step answers alike in states that are alike but for the settings. -/
lemma step_reset {x y : Action K} (reset : x.Reset y) (same : Observer.ofAllButSettings.Same s t) :
    (step s x).Match Observer.ofAllButSettings.Same (step t y) := by
  cases reset with
  | same => exact step_same same (fun _ _ => trivial) (fun _ _ _ _ _ => id) fun _ => rfl
  | settings now a orig perf hurdle perf' hurdle' accepted =>
    refine .next (.refl _) fun _ _ => ?_
    refine .next (same.mint trivial) fun _ _ => ?_
    refine .next (same.initProgramAccount trivial id) fun _ _ => ?_
    refine .next (.require _ (and_congr_right fun _ => accepted)) fun _ _ => ?_
    exact .ok (same.putPlatform a.platform (rfl : Platform.unset _ = Platform.unset _))

/-- Changing the performance fee and the hurdle rate that the platform is initialized with changes no answer of a
run and no account but these two fields. -/
theorem settings_inert (g : Genesis K) {as bs : List (Action K)} (reset : List.Forall₂ Action.Reset as bs) :
    let s := g.run as
    let t := g.run bs
    s.projects = t.projects ∧ s.pools = t.pools ∧ s.links = t.links ∧ s.positions = t.positions ∧
      s.mrvProjects = t.mrvProjects ∧ s.baselines = t.baselines ∧ s.verifications = t.verifications ∧
      s.auditors = t.auditors ∧ s.bank = t.bank ∧
      (∀ k, (s.platforms.lookup k).map Platform.unset = (t.platforms.lookup k).map Platform.unset) ∧
      List.Forall₂ (fun x y : State K × Action K => x.1.errorOf x.2 = y.1.errorOf y.2)
        (g.attempts as) (g.attempts bs) := by
  intro s t
  obtain ⟨answers, same⟩ : List.Forall₂ (fun x y : State K × Action K => x.1.errorOf x.2 = y.1.errorOf y.2)
      (g.attempts as) (g.attempts bs) ∧ Observer.ofAllButSettings.Same s t := by
    refine Runs.lockstep (F := fun _ => True) (G := fun _ => True) ?_ reset (.refl _ g.state)
      (fun _ _ => trivial) fun _ _ => trivial
    intro s t x y same reset _ _
    have both := step_reset reset same
    refine ⟨?_, Runs.next_match both same⟩
    rw [State.errorOf_raised, State.errorOf_raised]
    exact both.raised
  refine ⟨same.projects.ext, same.pools.ext, same.links.ext, same.positions.ext, same.mrvProjects.ext,
    same.baselines.ext, ?_, same.auditors.ext, same.bank.ext, same.platforms.map_eq fun _ _ => id, answers⟩
  exact Finmap.ext_lookup fun k => (same.verifications.lookup_eq ⟨trivial, id⟩).symm

/-- A pool that is bought, distributes and is claimed from, on a platform with the settings given. -/
def demoFees (perf hurdle : U16) : List (Action Addr) :=
  Client.demoSetup.dropLast ++ .call 0 (Client.demo.initializePlatform 150 perf hurdle) :: [
    .call 0 (Client.demo.createPool 1 1000 (.wallet 21)), Client.demoBuy (.wallet 10) 4, Client.demoDistribute 9,
    Client.demoClaim (.wallet 10)]

/-- The same bank under two performance fees and hurdle rates. -/
theorem settings_inert_demo :
    (Genesis.blank.run (demoFees 0 0)).bank = (Genesis.blank.run (demoFees 3000 800)).bank ∧
      (Genesis.blank.run (demoFees 3000 800)).bank.balance (Client.demo.usdcOf (.wallet 10)) = 1005 := by
  have all : ∀ xs : List (Action Addr), List.Forall₂ Action.Reset xs xs :=
    fun xs => List.forall₂_same.mpr fun x _ => .same x
  have reset : List.Forall₂ Action.Reset (demoFees 0 0) (demoFees 3000 800) :=
    List.rel_append (all _) (.cons (.settings 0 _ 150 0 0 3000 800 (by decide)) (all _))
  obtain ⟨-, -, -, -, -, -, -, -, bank, -⟩ := settings_inert Genesis.blank reset
  exact ⟨bank, by decide +kernel⟩

end Exira
