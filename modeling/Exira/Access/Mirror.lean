import Exira.Access.Isolation
import Exira.Mrv.Registry
import Exira.Orders

/-!
# A target in two runs

Two runs of one deployment may differ in whatever is not about a target: in tokens, in other targets, in who
could pay. `Mirrored` says what they must share for the target to behave the same in both: the target itself,
the registry and the terms of the platform. An instruction about the target that goes through in one run then
goes through in the other, if what it takes and the accounts it names are there.
-/

namespace Exira

open Dividend

variable {K : Type} [DecidableEq K] [Addresses K]

/-! ## Registries -/

/-- Two registries with the same files. -/
structure Registry.SameFiles (r r' : Registry K) : Prop where
  mrvProjects : r'.mrvProjects = r.mrvProjects
  baselines : r'.baselines = r.baselines
  verifications : r'.verifications = r.verifications
  auditors : r'.auditors = r.auditors

section
variable {r r' r'' : Registry K}

omit [DecidableEq K] [Addresses K] in
/-- The relation of files is symmetric. -/
lemma Registry.SameFiles.symm (same : r.SameFiles r') : r'.SameFiles r :=
  ⟨same.mrvProjects.symm, same.baselines.symm, same.verifications.symm, same.auditors.symm⟩

omit [DecidableEq K] [Addresses K] in
/-- The relation of files is transitive. -/
lemma Registry.SameFiles.trans (same : r.SameFiles r') (same' : r'.SameFiles r'') : r.SameFiles r'' :=
  ⟨same'.mrvProjects.trans same.mrvProjects, same'.baselines.trans same.baselines,
    same'.verifications.trans same.verifications, same'.auditors.trans same.auditors⟩

/-- An instruction about a target files nothing, and neither does an action that is no instruction of the
registry. -/
lemma Filing.sameFiles {x : Action K} (filing : Filing r x r') (quiet : x.target ≠ none ∨ x.files = false) :
    r.SameFiles r' := by
  cases filing with
  | quiet => exact ⟨rfl, rfl, rfl, rfl⟩
  | finance => exact ⟨rfl, rfl, rfl, rfl⟩
  | _ =>
    rcases quiet with about | idle
    · exact absurd rfl about
    · cases idle

end

/-! ## Two runs -/

/-- Two states that runs of one deployment reach, in which the registry and the target `t` are the same, and the
vault of `t` is there in both or in neither. -/
structure Mirrored (g : Genesis K) (c : Client K) (t : Target K) (s s' : State K) : Prop where
  left : ∃ as, s = g.run as
  right : ∃ as, s' = g.run as
  platforms : ∃ platform platform', c.Deployed s platform ∧ c.Deployed s' platform' ∧
    platform'.originationFeeBps = platform.originationFeeBps
  files : s.registry.SameFiles s'.registry
  same : SameOn t s s'
  vault : t.Seeded → s'.bank.holder (c.usdcOf t.key) = s.bank.holder (c.usdcOf t.key)

variable {g : Genesis K} {c : Client K} {t : Target K} {l : Listing K} {s s' u u' : State K} {x : Action K}

/-- A deployment stays the client's over a run. -/
lemma Client.Deployed.run {platform : Platform K} (deployed : c.Deployed s platform) (wf : s.Wf)
    (as : List (Action K)) : ∃ platform', c.Deployed (Runs.run step s as) platform' ∧ platform.Same platform' := by
  refine (Runs.run_invariant (I := fun s => s.Wf ∧ ∃ platform', c.Deployed s platform' ∧ platform.Same platform')
    ⟨wf, platform, deployed, .refl platform⟩ ?_ as).2
  rintro s x s' ⟨wf, platform', deployed', same⟩ st
  obtain ⟨platform'', deployed'', same'⟩ := deployed'.later wf st
  exact ⟨wf.step st, platform'', deployed'', same'.admin.trans same.admin, same'.treasury.trans same.treasury,
    same'.usdcMint.trans same.usdcMint, same'.originationFeeBps.trans same.originationFeeBps,
    same'.bump.trans same.bump⟩

namespace Mirrored

/-- The first state is well formed. -/
lemma wf (m : Mirrored g c t s s') : s.Wf := by
  obtain ⟨as, rfl⟩ := m.left
  exact g.run_wf as

/-- The two sides may be exchanged. -/
lemma symm (m : Mirrored g c t s s') : Mirrored g c t s' s where
  left := m.right
  right := m.left
  platforms := by
    obtain ⟨platform, platform', deployed, deployed', fee⟩ := m.platforms
    exact ⟨platform', platform, deployed', deployed, fee.symm⟩
  files := m.files.symm
  same := m.same.symm
  vault := fun place => (m.vault place).symm

/-- Both runs go on, and what they must share is the same again. A target that is listed has its vault. -/
lemma later (m : Mirrored g c t s s') (xs ys : List (Action K))
    (files : (Runs.run step s xs).registry.SameFiles (Runs.run step s' ys).registry)
    (same : SameOn t (Runs.run step s xs) (Runs.run step s' ys))
    (vault : (Runs.run step s xs).view.listing t = none → t.Seeded →
      (Runs.run step s' ys).bank.holder (c.usdcOf t.key) = (Runs.run step s xs).bank.holder (c.usdcOf t.key)) :
    Mirrored g c t (Runs.run step s xs) (Runs.run step s' ys) := by
  obtain ⟨platform, platform', deployed, deployed', fee⟩ := m.platforms
  obtain ⟨platform₁, deployed₁, kept⟩ := deployed.run m.wf xs
  obtain ⟨platform₁', deployed₁', kept'⟩ := deployed'.run m.symm.wf ys
  obtain ⟨as, rfl⟩ := m.left
  obtain ⟨as', rfl⟩ := m.right
  rw [← Genesis.run_append] at files same vault deployed₁ ⊢
  rw [← Genesis.run_append] at files same vault deployed₁' ⊢
  refine ⟨⟨_, rfl⟩, ⟨_, rfl⟩, ⟨platform₁, platform₁', deployed₁, deployed₁', ?_⟩, files, same, fun place => ?_⟩
  · rw [kept'.originationFeeBps, fee, kept.originationFeeBps]
  · cases listed : (g.run (as ++ xs)).view.listing t with
    | none => exact vault listed place
    | some l =>
      obtain ⟨place₁, holder⟩ := deployed₁.vault listed
      obtain ⟨place₁', holder'⟩ := deployed₁'.vault (same.listing.trans listed)
      rw [← place₁, holder, place₁, ← place₁', holder']

/-- The target stands in the state on the left. -/
lemma standing (m : Mirrored g c t s s') (own : s.view.listing t = some l) :
    Standing g c t l s (s.view.fundOf t l) where
  reached := m.left
  deployed := by
    obtain ⟨platform, -, deployed, -⟩ := m.platforms
    exact ⟨platform, deployed⟩
  listed := ⟨l, own, .refl l, rfl⟩

/-- The target stands in the state on the right, listed as on the left. -/
lemma standing' (m : Mirrored g c t s s') (own : s.view.listing t = some l) :
    Standing g c t l s' (s'.view.fundOf t l) :=
  m.symm.standing (m.same.listing.trans own)

/-- The funds of the target have the same books. -/
lemma twins (m : Mirrored g c t s s') (own : s.view.listing t = some l) :
    (s.view.fundOf t l).Twins (s'.view.fundOf t l) where
  ledger := by
    show Ledger.mk _ _ _ (s.view.holdings t.key) = Ledger.mk _ _ _ (s'.view.holdings t.key)
    rw [m.same.holdings l own]
  layer := rfl
  status := rfl
  target := rfl
  fee := rfl

end Mirrored

/-! ## The same event in both -/

/-- The instructions that create a target. -/
def Action.creates : Action K → Bool
  | .call _ (.createProject ..) => true
  | .call _ (.createPool ..) => true
  | _ => false

omit [Addresses K] in
/-- An instruction about a target that it neither creates nor links has an effect on the target's fund. -/
lemma Action.target_effect (on : x.target = some t) (old : x.creates = false) (links : x.links = false) :
    ∃ e, x.effect s = .own t e ∨ ∃ dest n, x.effect s = .pay t e dest n := by
  cases x with
  | outside => cases on
  | call now i =>
    cases i with
    | createProject | createPool => cases old
    | addProjectToPool => cases links
    | activateProject | withdrawProjectFunds =>
      cases on
      exact ⟨_, .inr ⟨_, _, rfl⟩⟩
    | distributeRepayment | closeProject | buyProjectTokens | claimProjectReturns | withdrawInvestment
    | distributePoolReturns | buyPoolTokens | claimPoolReturns =>
      cases on
      exact ⟨_, .inl rfl⟩
    | _ => cases on

/-- An instruction about a target that it does not create finds it listed. -/
lemma step_listed (wf : s.Wf) (st : step s x = .ok u) (on : x.target = some t) (old : x.creates = false) :
    ∃ l, s.view.listing t = some l := by
  cases links : x.links with
  | true =>
    -- a link moves nothing, so it is the handler that tells
    cases x with
    | outside => cases links
    | call now i =>
      cases i with
      | addProjectToPool =>
        obtain ⟨done, -⟩ := addProjectToPool_ok.mp (step_call st).2
        cases on
        exact ⟨_, State.listing_pool done.own⟩
      | _ => cases links
  | false =>
    obtain ⟨e, about⟩ := Action.target_effect on old links
    exact (step_acts wf st).move.listed_of about

/-- A target that an instruction is about is listed after it. -/
lemma step_lists (wf : s.Wf) (st : step s x = .ok u) (on : x.target = some t) :
    ∃ l, u.view.listing t = some l := by
  cases creates : x.creates with
  | false =>
    obtain ⟨l, own⟩ := step_listed wf st on creates
    obtain ⟨l', own', -⟩ := (step_acts wf st).move.kept own
    exact ⟨l', own'⟩
  | true =>
    cases x with
    | outside => cases creates
    | call now i =>
      have h := (step_call st).2
      cases i with
      | createProject =>
        obtain ⟨done, rfl⟩ := createProject_ok.mp h
        cases on
        exact ⟨_, State.listing_project (Finmap.lookup_insert _)⟩
      | createPool =>
        obtain ⟨done, rfl⟩ := createPool_ok.mp h
        cases on
        exact ⟨_, State.listing_pool (Finmap.lookup_insert _)⟩
      | _ => cases creates

/-- Two funds with the same books have them after the same event. -/
lemma Fund.Twins.after {ι : Type} [DecidableEq ι] {P : ℕ} {f f' : Fund ι} {e : Option (Event ι)}
    {o o' : Option (Fund ι)} (twins : f.Twins f') (after : f.After P e o) (after' : f'.After P e o') :
    ∃ f₁ f₁', o = some f₁ ∧ o' = some f₁' ∧ f₁.Twins f₁' := by
  cases e with
  | none => exact ⟨f, f', after, after', twins⟩
  | some e =>
    obtain ⟨f₁, own, st⟩ := after
    obtain ⟨f₁', own', st'⟩ := after'
    exact ⟨f₁, f₁', own, own', twins.step st st'⟩

omit [DecidableEq K] [Addresses K] in
/-- A listing is told by what stays of it and by its fund. -/
lemma Listing.eq_of_twins [DecidableEq K] {l₁ l₁' : Listing K} {v v' : View K} (kept : l.Kept l₁)
    (kept' : l.Kept l₁') (twins : (v.fundOf t l₁).Twins (v'.fundOf t l₁')) : l₁' = l₁ := by
  have sold : l₁.sold = l₁'.sold := congrArg Ledger.sold twins.ledger
  have distributed : l₁.distributed = l₁'.distributed := congrArg Ledger.distributed twins.ledger
  have index : l₁.index = l₁'.index := congrArg Ledger.index twins.ledger
  have status : l₁.status = l₁'.status := twins.status
  have fee : l₁.fee = l₁'.fee := twins.fee
  obtain ⟨seeds, bump, mint, vault, target⟩ := kept
  obtain ⟨seeds', bump', mint', vault', target'⟩ := kept'
  cases l₁
  cases l₁'
  simp only [Listing.mk.injEq]
  exact ⟨seeds'.trans seeds.symm, bump'.trans bump.symm, mint'.trans mint.symm, vault'.trans vault.symm,
    status.symm, target'.trans target.symm, sold.symm, distributed.symm, index.symm, fee.symm⟩

namespace Mirrored

/-- An instruction about the target has the same effect in both states. -/
lemma effect (m : Mirrored g c t s s') (on : x.target = some t) (st : step s x = .ok u)
    (st' : step s' x = .ok u') : x.effect s' = x.effect s := by
  cases x with
  | outside => cases on
  | call now i =>
    cases i with
    | activateProject a =>
      obtain ⟨platform, platform', deployed, deployed', bps⟩ := m.platforms
      obtain ⟨done, -⟩ := activateProject_ok.mp (step_call st).2
      have priced := done.priced
      obtain ⟨done', -⟩ := activateProject_ok.mp (step_call st').2
      have priced' := done'.priced
      have same : s'.activationFee a = s.activationFee a := by
        rw [m.wf.activationFee_eq done.loaded done.own priced,
          m.symm.wf.activationFee_eq done'.loaded done'.own priced']
        obtain ⟨-, -, rfl⟩ := deployed.loads m.wf done.loaded
        obtain ⟨-, -, rfl⟩ := deployed'.loads m.symm.wf done'.loaded
        cases on
        have listing := m.same.listing
        rw [State.listing_project done.own, State.listing_project done'.own] at listing
        have target := congrArg Listing.target (Option.some.inj listing)
        rw [BitVec.eq_of_toNat_eq target, bps] at priced'
        exact congrArg BitVec.toNat (Except.ok.inj (priced'.symm.trans priced))
      simp only [Action.effect, same]
    | _ => rfl

/-- An instruction about a listed target that goes through in both keeps the target the same. -/
lemma agree (m : Mirrored g c t s s') (own : s.view.listing t = some l) (on : x.target = some t)
    (st : step s x = .ok u) (st' : step s' x = .ok u') : SameOn t u u' := by
  have own' := m.same.listing.trans own
  have event : s'.event t x = s.event t x := by
    rw [State.event, State.event, m.same.listing, m.effect on st st']
  have after := step_fund m.wf st (View.fund_eq own)
  have after' := step_fund m.symm.wf st' (View.fund_eq own')
  rw [event] at after'
  obtain ⟨f₁, f₁', fund, fund', twins⟩ := (m.twins own).after after after'
  obtain ⟨l₁, listed, kept⟩ := (step_acts m.wf st).move.kept own
  obtain ⟨l₁', listed', kept'⟩ := (step_acts m.symm.wf st').move.kept own'
  rw [State.fund, View.fund_eq listed] at fund
  rw [State.fund, View.fund_eq listed'] at fund'
  cases fund
  cases fund'
  have same := Listing.eq_of_twins kept kept' twins
  refine ⟨by rw [listed, listed', same], fun _ _ => ?_⟩
  exact (congrArg Ledger.holdings twins.ledger).symm

end Mirrored

/-! ## The registry in both -/

/-- The seeds of the registry's accounts. -/
def Seeds.files : Seeds K → Bool
  | .mrvProject _ => true
  | .baseline _ => true
  | .verification _ _ => true
  | .auditor _ => true
  | _ => false

/-- With the same files, the same accounts of the registry are there. -/
lemma Registry.SameFiles.made (same : s.registry.SameFiles s'.registry) {σ : Seeds K} (kind : σ.files = true)
    (made : s'.Made σ) : s.Made σ := by
  obtain ⟨mrvProjects, baselines, verifications, auditors⟩ := same
  have mrvProjects : s'.mrvProjects = s.mrvProjects := mrvProjects
  have baselines : s'.baselines = s.baselines := baselines
  have verifications : s'.verifications = s.verifications := verifications
  have auditors : s'.auditors = s.auditors := auditors
  cases σ with
  | mrvProject =>
    rw [State.Made, mrvProjects] at made
    exact made
  | baseline =>
    rw [State.Made, baselines] at made
    exact made
  | verification =>
    rw [State.Made, verifications] at made
    exact made
  | auditor =>
    rw [State.Made, auditors] at made
    exact made
  | _ => cases kind

namespace Mirrored

/-- An account of the registry can be made in both states, or in neither. -/
lemma vacates (m : Mirrored g c t s s') {k : K} {σ : Seeds K} (kind : σ.files = true)
    (place : k = findProgramAddress σ) (vacant : s.Vacant k) : s'.Vacant k := by
  subst place
  have files := m.files
  obtain ⟨as, rfl⟩ := m.left
  obtain ⟨as', rfl⟩ := m.right
  obtain ⟨fresh, clear⟩ := (g.vacant_iff as σ).mp vacant
  exact (g.vacant_iff as' σ).mpr ⟨fun made => fresh (files.made kind made), clear⟩

/-- The platform is there in both states. -/
lemma admin (m : Mirrored g c t s s') {k w : K} {platform : Platform K} (loaded : AdminOf s k w platform) :
    ∃ platform', AdminOf s' k w platform' := by
  obtain ⟨platform, platform', deployed, deployed', -⟩ := m.platforms
  obtain ⟨rfl, rfl, -⟩ := deployed.loads m.wf loaded
  exact ⟨platform', deployed'.loaded⟩

/-- The auditors are the same in both states. -/
lemma auditor (m : Mirrored g c t s s') {k w : K} {auditor : Auditor K} (loaded : AuditorOf s k w auditor) :
    AuditorOf s' k w auditor := by
  have same : s'.auditors = s.auditors := m.files.auditors
  exact { loaded with own := same ▸ loaded.own }

/-- What an instruction of the registry files in one state, it files in the other. -/
lemma registers (m : Mirrored g c t s s') (off : x.target = none) (files : x.files = true)
    (st : step s x = .ok u) : ∃ u', step s' x = .ok u' ∧ u.registry.SameFiles u'.registry := by
  have mrvProjects : s'.mrvProjects = s.mrvProjects := m.files.mrvProjects
  have baselines : s'.baselines = s.baselines := m.files.baselines
  have verifications : s'.verifications = s.verifications := m.files.verifications
  have auditors : s'.auditors = s.auditors := m.files.auditors
  cases x with
  | outside => cases files
  | call now i =>
    obtain ⟨signs, h⟩ := step_call st
    -- the signers are those of the first run
    suffices goes : ∃ u', handle s' now i = .ok u' ∧ u.registry.SameFiles u'.registry by
      obtain ⟨u', h', same⟩ := goes
      exact ⟨u', step_of_handle signs h', same⟩
    cases i with
    | registerMrvProject =>
      obtain ⟨done, rfl⟩ := registerMrvProject_ok.mp h
      obtain ⟨platform, loaded⟩ := m.admin done.loaded
      have vacant := m.vacates rfl done.place done.vacant
      refine ⟨_, registerMrvProject_ok.mpr ⟨{ done with platform, loaded, vacant }, rfl⟩, ?_⟩
      exact ⟨congrArg (Finmap.insert _ _) mrvProjects, baselines, verifications, auditors⟩
    | addAuditor =>
      obtain ⟨done, rfl⟩ := addAuditor_ok.mp h
      obtain ⟨platform, loaded⟩ := m.admin done.loaded
      have vacant := m.vacates rfl done.place done.vacant
      refine ⟨_, addAuditor_ok.mpr ⟨{ done with platform, loaded, vacant }, rfl⟩, ?_⟩
      exact ⟨mrvProjects, baselines, verifications, congrArg (Finmap.insert _ _) auditors⟩
    | submitBaseline =>
      obtain ⟨done, rfl⟩ := submitBaseline_ok.mp h
      have loaded := m.auditor done.loaded
      have own := mrvProjects ▸ done.own
      have vacant := m.vacates rfl done.place done.vacant
      refine ⟨_, submitBaseline_ok.mpr ⟨{ done with loaded, own, vacant }, rfl⟩, ?_⟩
      exact ⟨congrArg (Finmap.insert _ _) mrvProjects, congrArg (Finmap.insert _ _) baselines,
        verifications, auditors⟩
    | submitVerification =>
      obtain ⟨done, rfl⟩ := submitVerification_ok.mp h
      have loaded := m.auditor done.loaded
      have own := mrvProjects ▸ done.own
      have vacant := m.vacates rfl done.place done.vacant
      refine ⟨_, submitVerification_ok.mpr ⟨{ done with loaded, own, vacant }, rfl⟩, ?_⟩
      exact ⟨congrArg (Finmap.insert _ _) mrvProjects, baselines,
        congrArg (Finmap.insert _ _) verifications, auditors⟩
    | attestVerification =>
      obtain ⟨done, rfl⟩ := attestVerification_ok.mp h
      have loaded := m.auditor done.loaded
      have entry := mrvProjects ▸ done.entry
      have own := verifications ▸ done.own
      refine ⟨_, attestVerification_ok.mpr ⟨{ done with loaded, entry, own }, rfl⟩, ?_⟩
      exact ⟨mrvProjects, baselines, congrArg (Finmap.insert _ _) verifications, auditors⟩
    | createProject => cases off
    | _ => cases files

end Mirrored

end Exira
