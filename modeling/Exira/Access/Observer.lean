import Exira.Frame
import Exira.Lib.Agreement

/-!
# Observers

An observer looks at some of the accounts, and sees the platforms and the MRV projects up to relations of its
own. Two states are the same to it when it sees no difference. `Same.initMint` and its like are the shared parts
of the instructions, in two such states at once.
-/

namespace Exira

open Except

variable {K : Type} [DecidableEq K] [Addresses K]

/-! ## The accounts of an instruction -/

/-- The accounts passed to an instruction, in the order of its struct. -/
def Instruction.accounts : Instruction K → List K
  | .initializePlatform a _ _ _ => [a.platform, a.admin, a.treasury, a.usdcMint]
  | .createProject a _ _ _ => [a.platform, a.admin, a.mrvProject, a.project, a.tokenMint, a.usdcVault, a.usdcMint]
  | .activateProject a =>
    [a.platform, a.admin, a.project, a.usdcVault, a.treasuryUsdcAta, a.treasury, a.usdcMint]
  | .distributeRepayment a _ => [a.platform, a.admin, a.project, a.adminUsdcAta, a.usdcVault, a.usdcMint]
  | .closeProject a => [a.platform, a.admin, a.project]
  | .createPool a _ _ => [a.platform, a.admin, a.pool, a.poolTokenMint, a.usdcVault, a.usdcMint]
  | .addProjectToPool a => [a.platform, a.admin, a.pool, a.project, a.poolProjectLink]
  | .distributePoolReturns a _ => [a.platform, a.admin, a.pool, a.adminUsdcAta, a.usdcVault, a.usdcMint]
  | .withdrawProjectFunds a _ => [a.platform, a.admin, a.project, a.usdcVault, a.destination, a.usdcMint]
  | .buyProjectTokens a _ =>
    [a.project, a.tokenMint, a.usdcVault, a.investor, a.investorUsdcAta, a.investorTokenAta, a.position, a.usdcMint]
  | .claimProjectReturns a => [a.project, a.usdcVault, a.investor, a.position, a.investorUsdcAta, a.usdcMint]
  | .withdrawInvestment a =>
    [a.project, a.tokenMint, a.usdcVault, a.investor, a.position, a.investorTokenAta, a.investorUsdcAta, a.usdcMint]
  | .buyPoolTokens a _ =>
    [a.pool, a.poolTokenMint, a.usdcVault, a.investor, a.investorUsdcAta, a.investorPoolTokenAta, a.position,
      a.usdcMint]
  | .claimPoolReturns a => [a.pool, a.usdcVault, a.investor, a.position, a.investorUsdcAta, a.usdcMint]
  | .registerMrvProject a _ _ _ _ _ => [a.platform, a.admin, a.mrvProject]
  | .addAuditor a _ _ => [a.platform, a.admin, a.auditorWallet, a.auditor]
  | .submitBaseline a _ _ _ _ _ => [a.auditorSigner, a.auditor, a.mrvProject, a.baseline]
  | .submitVerification a _ _ _ _ _ _ _ _ => [a.auditorSigner, a.auditor, a.mrvProject, a.verification]
  | .attestVerification a => [a.auditorSigner, a.auditor, a.mrvProject, a.verification]

/-- The instructions about verification reports. -/
def Instruction.reports : Instruction K → Bool
  | .submitVerification _ _ _ _ _ _ _ _ _ => true
  | .attestVerification _ => true
  | _ => false

/-- The token accounts that an instruction opens if needed. -/
def Instruction.ensures : Instruction K → List K
  | .buyProjectTokens a _ => [a.investorTokenAta]
  | .claimProjectReturns a => [a.investorUsdcAta]
  | .buyPoolTokens a _ => [a.investorPoolTokenAta]
  | .claimPoolReturns a => [a.investorUsdcAta]
  | _ => []

/-- The accounts that an outside operation names. -/
def Outside.accounts : Outside K → List K
  | .transfer source dest authority _ => [source, dest, authority]
  | .burn source mint authority _ => [source, mint, authority]
  | .mintTo mint dest authority _ => [mint, dest, authority]
  | .createMint key _ _ _ => [key]
  | .createAccount key mint owner => [key, mint, owner]
  | .createAssociatedToken owner mint => [associatedToken owner mint, owner, mint]

/-- The accounts that an action names. -/
def Action.accounts : Action K → List K
  | .call _ i => i.accounts
  | .outside o => o.accounts

/-- Whether an action is about verification reports only. -/
def Action.reports : Action K → Bool
  | .call _ i => i.reports
  | .outside _ => false

/-! ## Observers -/

/-- What somebody sees of the chain. -/
structure Observer (K : Type) [DecidableEq K] [Addresses K] where
  /-- the accounts looked at -/
  sees : Set K
  /-- the addresses of the verification reports that are not seen -/
  hidden : Set K
  platform : Platform K → Platform K → Prop
  mrvProject : MrvProject → MrvProject → Prop
  hidden_report : ∀ {k}, k ∈ hidden → ∃ m j bump, k = createProgramAddress (.verification m j) bump
  platform_refl : ∀ p, platform p p
  platform_same : ∀ {p p'}, platform p p' → p.Same p'
  platform_project : ∀ {p p'}, platform p p' →
    platform { p with projectCount := p.projectCount.saturatingAdd 1 }
      { p' with projectCount := p'.projectCount.saturatingAdd 1 }
  platform_pool : ∀ {p p'}, platform p p' →
    platform { p with poolCount := p.poolCount.saturatingAdd 1 }
      { p' with poolCount := p'.poolCount.saturatingAdd 1 }
  mrvProject_refl : ∀ m, mrvProject m m
  mrvProject_gate : ∀ {m m'}, mrvProject m m' →
    m'.projectId = m.projectId ∧ m'.baselineSubmitted = m.baselineSubmitted ∧ m'.bump = m.bump
  mrvProject_baseline : ∀ {m m'}, mrvProject m m' →
    mrvProject { m with baselineSubmitted := true, status := .baselineSubmitted }
      { m' with baselineSubmitted := true, status := .baselineSubmitted }
  mrvProject_report : ∀ {m m'}, mrvProject m m' →
    mrvProject { m with verificationCount := m.verificationCount.saturatingAdd 1, status := .inProgress }
      { m' with verificationCount := m'.verificationCount.saturatingAdd 1, status := .inProgress }

/-! ### Who looks at what -/

/-- An MRV project but for what its reports change. -/
def MrvProject.unreported (m : MrvProject) : MrvProject :=
  { m with status := .registered, verificationCount := 0 }

/-- A platform but for the performance fee and the hurdle rate. -/
def Platform.unset (p : Platform K) : Platform K :=
  { p with performanceFeeBps := 0, hurdleRateBps := 0 }

namespace Observer

/-- The observer of the accounts `L`, who sees everything there. -/
def on (L : Set K) : Observer K where
  sees := L
  hidden := ∅
  platform := Eq
  mrvProject := Eq
  hidden_report mem := mem.elim
  platform_refl _ := rfl
  platform_same := fun e => e ▸ .refl _
  platform_project := fun e => e ▸ rfl
  platform_pool := fun e => e ▸ rfl
  mrvProject_refl _ := rfl
  mrvProject_gate := fun e => e ▸ ⟨rfl, rfl, rfl⟩
  mrvProject_baseline := fun e => e ▸ rfl
  mrvProject_report := fun e => e ▸ rfl

/-- Sees all accounts but the reports. -/
def ofAllButReports : Observer K where
  sees := Set.univ
  hidden := {k | ∃ m j bump, k = createProgramAddress (.verification m j) bump}
  platform := Eq
  mrvProject m m' := m.unreported = m'.unreported
  hidden_report := id
  platform_refl _ := rfl
  platform_same := fun e => e ▸ .refl _
  platform_project := fun e => e ▸ rfl
  platform_pool := fun e => e ▸ rfl
  mrvProject_refl _ := rfl
  mrvProject_gate := fun e => ⟨(congrArg MrvProject.projectId e).symm,
    (congrArg MrvProject.baselineSubmitted e).symm, (congrArg MrvProject.bump e).symm⟩
  mrvProject_baseline := fun e => congrArg (fun m : MrvProject => { m with baselineSubmitted := true }) e
  mrvProject_report := id

/-- Sees everything but the performance fee and the hurdle rate. -/
def ofAllButSettings : Observer K where
  sees := Set.univ
  hidden := ∅
  platform p p' := p.unset = p'.unset
  mrvProject := Eq
  hidden_report mem := mem.elim
  platform_refl _ := rfl
  platform_same := fun e => ⟨(congrArg Platform.admin e).symm, (congrArg Platform.treasury e).symm,
    (congrArg Platform.usdcMint e).symm, (congrArg Platform.originationFeeBps e).symm,
    (congrArg Platform.bump e).symm⟩
  platform_project := fun e => congrArg
    (fun p : Platform K => { p with projectCount := p.projectCount.saturatingAdd 1 }) e
  platform_pool := fun e => congrArg (fun p : Platform K => { p with poolCount := p.poolCount.saturatingAdd 1 }) e
  mrvProject_refl _ := rfl
  mrvProject_gate := fun e => e ▸ ⟨rfl, rfl, rfl⟩
  mrvProject_baseline := fun e => e ▸ rfl
  mrvProject_report := fun e => e ▸ rfl

/-! ### What is seen -/

/-- Two states between which the observer sees no difference. -/
structure Same (o : Observer K) (s t : State K) : Prop where
  platforms : Finmap.RelOn o.sees o.platform s.platforms t.platforms
  projects : Finmap.RelOn o.sees Eq s.projects t.projects
  pools : Finmap.RelOn o.sees Eq s.pools t.pools
  links : Finmap.RelOn o.sees Eq s.links t.links
  positions : Finmap.RelOn o.sees Eq s.positions t.positions
  mrvProjects : Finmap.RelOn o.sees o.mrvProject s.mrvProjects t.mrvProjects
  baselines : Finmap.RelOn o.sees Eq s.baselines t.baselines
  verifications : Finmap.RelOn (o.sees \ o.hidden) Eq s.verifications t.verifications
  auditors : Finmap.RelOn o.sees Eq s.auditors t.auditors
  bank : s.bank.AgreeOn o.sees t.bank

/-- An instruction whose accounts are all seen; one about reports, when all reports are. -/
structure Sees (o : Observer K) (i : Instruction K) : Prop where
  accounts : ∀ k ∈ i.accounts, k ∈ o.sees
  ensures : ∀ k ∈ i.ensures, k ∉ o.hidden
  reports : i.reports = true → o.hidden = ∅

variable {o : Observer K} {s t : State K} {k : K} {b b' : Token.Bank K}

/-- What signs is not hidden. -/
lemma hidden_ne (signs : canSign k = true) : k ∉ o.hidden := by
  intro hid
  obtain ⟨m, j, bump, rfl⟩ := o.hidden_report hid
  rw [Addresses.not_canSign_program] at signs
  cases signs

/-- Associated accounts are not hidden. -/
lemma associated_shown (w m : K) : associatedToken w m ∉ o.hidden := by
  intro hid
  obtain ⟨m, j, bump, e⟩ := o.hidden_report hid
  exact Addresses.associatedToken_ne e

/-- The address of anything but a report is not hidden. -/
lemma derived_shown {σ : Seeds K} (other : ∀ m j, σ ≠ .verification m j) : findProgramAddress σ ∉ o.hidden := by
  intro hid
  obtain ⟨m, j, bump, e⟩ := o.hidden_report hid
  exact other m j (Addresses.createProgramAddress_inj e).1

namespace Same

/-- A state looks the same as itself. -/
lemma refl (o : Observer K) (s : State K) : o.Same s s where
  platforms := .refl o.platform_refl _
  projects := .refl (fun _ => rfl) _
  pools := .refl (fun _ => rfl) _
  links := .refl (fun _ => rfl) _
  positions := .refl (fun _ => rfl) _
  mrvProjects := .refl o.mrvProject_refl _
  baselines := .refl (fun _ => rfl) _
  verifications := .refl (fun _ => rfl) _
  auditors := .refl (fun _ => rfl) _
  bank := .refl _

/-! ## Writes -/

/-- The token program did the same on both. -/
lemma putBank (h : o.Same s t) (bank : b.AgreeOn o.sees b') :
    o.Same { s with bank := b } { t with bank := b' } :=
  { h with bank := bank }

/-- A platform was written on both. -/
lemma putPlatform (h : o.Same s t) (k : K) {p p' : Platform K} (e : o.platform p p') :
    o.Same { s with platforms := s.platforms.insert k p } { t with platforms := t.platforms.insert k p' } :=
  { h with platforms := h.platforms.insert k e }

/-- A project was written on both. -/
lemma putProject (h : o.Same s t) (k : K) (p : Project K) :
    o.Same { s with projects := s.projects.insert k p } { t with projects := t.projects.insert k p } :=
  { h with projects := h.projects.insert k rfl }

/-- A pool was written on both. -/
lemma putPool (h : o.Same s t) (k : K) (p : Pool K) :
    o.Same { s with pools := s.pools.insert k p } { t with pools := t.pools.insert k p } :=
  { h with pools := h.pools.insert k rfl }

/-- A link was written on both. -/
lemma putLink (h : o.Same s t) (k : K) (l : PoolProjectLink K) :
    o.Same { s with links := s.links.insert k l } { t with links := t.links.insert k l } :=
  { h with links := h.links.insert k rfl }

/-- A position was written on both. -/
lemma putPosition (h : o.Same s t) (k : K) (q : InvestorPosition K) :
    o.Same { s with positions := s.positions.insert k q } { t with positions := t.positions.insert k q } :=
  { h with positions := h.positions.insert k rfl }

/-- An MRV entry was written on both. -/
lemma putMrvProject (h : o.Same s t) (k : K) {m m' : MrvProject} (e : o.mrvProject m m') :
    o.Same { s with mrvProjects := s.mrvProjects.insert k m } { t with mrvProjects := t.mrvProjects.insert k m' } :=
  { h with mrvProjects := h.mrvProjects.insert k e }

/-- A baseline was written on both. -/
lemma putBaseline (h : o.Same s t) (k : K) (b : Baseline K) :
    o.Same { s with baselines := s.baselines.insert k b } { t with baselines := t.baselines.insert k b } :=
  { h with baselines := h.baselines.insert k rfl }

/-- A verification was written on both. -/
lemma putVerification (h : o.Same s t) (k : K) (v : Verification K) :
    o.Same { s with verifications := s.verifications.insert k v }
      { t with verifications := t.verifications.insert k v } :=
  { h with verifications := h.verifications.insert k rfl }

/-- An auditor was written on both. -/
lemma putAuditor (h : o.Same s t) (k : K) (a : Auditor K) :
    o.Same { s with auditors := s.auditors.insert k a } { t with auditors := t.auditors.insert k a } :=
  { h with auditors := h.auditors.insert k rfl }

/-! ## Shared parts -/

/-- An account that is not there is seen not to be there. -/
lemma vacant (h : o.Same s t) (mem : k ∈ o.sees) (shown : k ∉ o.hidden) : s.Vacant k ↔ t.Vacant k := by
  unfold State.Vacant State.Owned
  rw [h.platforms.mem mem, h.projects.mem mem, h.pools.mem mem, h.links.mem mem, h.positions.mem mem,
    h.mrvProjects.mem mem, h.baselines.mem mem, h.verifications.mem ⟨mem, shown⟩, h.auditors.mem mem,
    h.bank.mints.mem mem, h.bank.accounts.mem mem]

/-- An address that is seen is vacated on both or on neither. -/
lemma vacate (h : o.Same s t) (mem : k ∈ o.sees) (shown : k ∉ o.hidden) :
    Match Eq (vacate s k) (vacate t k) :=
  .require _ (h.vacant mem shown)

/-- An account is made on both or on neither. -/
lemma initProgramAccount (h : o.Same s t) (mem : k ∈ o.sees) {σ : Seeds K}
    (shown : findProgramAddress σ ∉ o.hidden) :
    Match Eq (initProgramAccount s k σ) (initProgramAccount t k σ) := by
  refine .next (.refl _) fun _ place => ?_
  rw [constraint_eq_ok] at place
  exact h.vacate mem (place ▸ shown)

/-- A mint is made on both or on neither. -/
lemma initMint (h : o.Same s t) (mem : k ∈ o.sees) (shown : k ∉ o.hidden) {payer authority : K} :
    Match (Token.Bank.AgreeOn o.sees) (initMint s k payer authority) (initMint t k payer authority) := by
  refine .next (.refl _) fun _ _ => ?_
  exact .next (h.vacate mem shown) fun _ _ => .mapError _ (h.bank.initMint mem)

/-- An associated account is made on both or on neither. -/
lemma initAssociatedToken (h : o.Same s t) (mem : k ∈ o.sees) {owner mint : K} (seen : mint ∈ o.sees) :
    Match (Token.Bank.AgreeOn o.sees) (initAssociatedToken s k owner mint)
      (initAssociatedToken t k owner mint) := by
  refine .next (.refl _) fun _ place => ?_
  rw [constraint_eq_ok] at place
  refine .next (h.vacate mem (place ▸ associated_shown owner mint)) fun _ _ => ?_
  exact .mapError _ (h.bank.initAccount mem seen)

/-- A token account that is seen is the same. -/
lemma account (h : o.Same s t) (mem : k ∈ o.sees) :
    Match Eq (load s.bank.accounts k) (load t.bank.accounts k) :=
  .okOr _ (h.bank.accounts k mem)

/-- A mint that is seen is the same. -/
lemma mint (h : o.Same s t) (mem : k ∈ o.sees) : Match Eq (load s.bank.mints k) (load t.bank.mints k) :=
  .okOr _ (h.bank.mints k mem)

/-- A project that is seen is the same. -/
lemma project (h : o.Same s t) (mem : k ∈ o.sees) : Match Eq (load s.projects k) (load t.projects k) :=
  .okOr _ (h.projects k mem)

/-- A pool that is seen is the same. -/
lemma pool (h : o.Same s t) (mem : k ∈ o.sees) : Match Eq (load s.pools k) (load t.pools k) :=
  .okOr _ (h.pools k mem)

/-- A position that is seen is the same. -/
lemma position (h : o.Same s t) (mem : k ∈ o.sees) : Match Eq (load s.positions k) (load t.positions k) :=
  .okOr _ (h.positions k mem)

/-- An MRV entry that is seen looks the same. -/
lemma mrvProject (h : o.Same s t) (mem : k ∈ o.sees) :
    Match o.mrvProject (load s.mrvProjects k) (load t.mrvProjects k) :=
  .okOr _ (h.mrvProjects k mem)

/-- A verification that is seen is the same when nothing is hidden. -/
lemma verification (h : o.Same s t) (mem : k ∈ o.sees) (all : o.hidden = ∅) :
    Match Eq (load s.verifications k) (load t.verifications k) :=
  .okOr _ (h.verifications k ⟨mem, all ▸ Set.notMem_empty k⟩)

/-- The associated address is free on both sides, or has the same account. -/
lemma ensureAssociatedToken (h : o.Same s t) (mem : k ∈ o.sees) {w mint : K} (seen : mint ∈ o.sees)
    (shown : k ∉ o.hidden) :
    Match (Token.Bank.AgreeOn o.sees) (ensureAssociatedToken s k w mint)
      (ensureAssociatedToken t k w mint) := by
  unfold Exira.ensureAssociatedToken
  have iff := h.vacant mem shown
  by_cases vacant : s.Vacant k
  · rw [if_pos vacant, if_pos (iff.mp vacant)]
    exact h.initAssociatedToken mem seen
  · rw [if_neg vacant, if_neg (mt iff.mpr vacant)]
    refine .next (h.account mem) fun account _ => ?_
    refine .next (.refl _) fun _ _ => ?_
    refine .next (.refl _) fun _ _ => ?_
    refine .next (.refl _) fun _ _ => ?_
    exact .ok h.bank

/-- A position is opened or found on both, and is the same. -/
lemma ensurePosition (h : o.Same s t) (mem : k ∈ o.sees) {target owner : K} :
    Match Eq (ensurePosition s k target owner) (ensurePosition t k target owner) := by
  refine .next (.refl _) fun _ place => ?_
  rw [constraint_eq_ok] at place
  have shown : k ∉ o.hidden := place ▸ derived_shown nofun
  have iff := h.vacant mem shown
  by_cases vacant : s.Vacant k
  · rw [if_pos vacant, if_pos (iff.mp vacant)]
    exact .refl _
  · rw [if_neg vacant, if_neg (mt iff.mpr vacant)]
    exact h.position mem

/-- A platform that is seen looks the same. -/
lemma platform (h : o.Same s t) (mem : k ∈ o.sees) :
    Match o.platform (load s.platforms k) (load t.platforms k) :=
  .okOr _ (h.platforms k mem)

/-- An auditor that is seen is the same. -/
lemma auditor (h : o.Same s t) (mem : k ∈ o.sees) : Match Eq (load s.auditors k) (load t.auditors k) :=
  .okOr _ (h.auditors k mem)

omit [DecidableEq K] in
/-- What is checked of a platform is the same on both sides. -/
lemma checkPlatform [DecidableEq K] {p p' : Platform K} (e : p.Same p') {w : K} :
    Match Eq (checkPlatform k p w) (checkPlatform k p' w) := by
  refine .next (.of_eq (by rw [e.bump])) fun _ _ => ?_
  exact .require _ (by rw [e.admin])

end Same

end Observer

end Exira
