import Exira.Client
import Exira.Effects

/-!
# The MRV registry

What a state says about measured projects: their entries, baselines, verifications and auditors, and which
entry each financed project points to. `Filing` says everything that a successful action does to it. The
invariant `Registry.Wf` and the order `Registry.Later` on entries are case analyses on filings.
-/

namespace Exira

variable {K : Type} [DecidableEq K]

/-! ## Registries -/

/-- The MRV accounts, and which entry a project was created for. -/
structure Registry (K : Type) where
  mrvProjects : Table K MrvProject
  baselines : Table K (Baseline K)
  verifications : Table K (Verification K)
  auditors : Table K (Auditor K)
  /-- the entry that a project was created for -/
  financed : K → Option K

/-- The registry of a state. -/
def State.registry (s : State K) : Registry K where
  mrvProjects := s.mrvProjects
  baselines := s.baselines
  verifications := s.verifications
  auditors := s.auditors
  financed k := (s.projects.lookup k).map Project.mrvProject

/-- The instructions that read or write the registry. -/
def Action.files : Action K → Bool
  | .call _ (.createProject ..) => true
  | .call _ (.registerMrvProject ..) => true
  | .call _ (.addAuditor ..) => true
  | .call _ (.submitBaseline ..) => true
  | .call _ (.submitVerification ..) => true
  | .call _ (.attestVerification ..) => true
  | _ => false

variable [Addresses K]

/-- The auditor account at `k` is an active one of the wallet `w`. -/
def Registry.Active (r : Registry K) (k w : K) : Prop :=
  ∃ auditor, r.auditors.lookup k = some auditor ∧
    k = createProgramAddress (.auditor w) auditor.bump ∧ auditor.isActive = true ∧ auditor.wallet = w

/-- What an action files, when it succeeds. -/
inductive Filing (r : Registry K) : Action K → Registry K → Prop
  | quiet {x} (quiet : x.files = false) : Filing r x r
  | finance {now a id target term mrv} (found : r.mrvProjects.lookup a.mrvProject = some mrv)
      (gate : mrv.baselineSubmitted = true) :
    Filing r (.call now (.createProject a id target term))
      { r with financed := Function.update r.financed a.project (some a.mrvProject) }
  | register {now a id name sector location upgrade mrv}
      (free : r.mrvProjects.lookup a.mrvProject = none) (status : mrv.status = .registered)
      (flag : mrv.baselineSubmitted = false) :
    Filing r (.call now (.registerMrvProject a id name sector location upgrade))
      { r with mrvProjects := r.mrvProjects.insert a.mrvProject mrv }
  | audit {now a name certification auditor} (free : r.auditors.lookup a.auditor = none)
      (wallet : auditor.wallet = a.auditorWallet) (active : auditor.isActive = true) :
    Filing r (.call now (.addAuditor a name certification))
      { r with auditors := r.auditors.insert a.auditor auditor }
  | baseline {now a energy fuel cost co2 hash mrv b} (signer : r.Active a.auditor a.auditorSigner)
      (found : r.mrvProjects.lookup a.mrvProject = some mrv) (first : mrv.baselineSubmitted = false)
      (place : a.baseline = findProgramAddress (.baseline a.mrvProject))
      (free : r.baselines.lookup a.baseline = none) (entry : b.mrvProject = a.mrvProject)
      (author : b.auditor = a.auditorSigner) :
    Filing r (.call now (.submitBaseline a energy fuel cost co2 hash)) { r with
      mrvProjects := r.mrvProjects.insert a.mrvProject
        { mrv with baselineSubmitted := true, status := .baselineSubmitted }
      baselines := r.baselines.insert a.baseline b }
  | verification {now a index start stop energy cost co2 bps hash mrv}
      (signer : r.Active a.auditor a.auditorSigner)
      (found : r.mrvProjects.lookup a.mrvProject = some mrv) (gate : mrv.baselineSubmitted = true)
      (place : a.verification = findProgramAddress (.verification a.mrvProject index))
      (free : r.verifications.lookup a.verification = none) (period : start < stop) :
    Filing r (.call now (.submitVerification a index start stop energy cost co2 bps hash)) { r with
      mrvProjects := r.mrvProjects.insert a.mrvProject { mrv with
        verificationCount := mrv.verificationCount.saturatingAdd 1
        status := .inProgress }
      verifications := r.verifications.insert a.verification
        (a.record now index start stop energy cost co2 bps hash) }
  | attest {now a v} (signer : r.Active a.auditor a.auditorSigner)
      (found : r.verifications.lookup a.verification = some v) (fresh : v.attested = false)
      (author : v.auditor = a.auditorSigner) :
    Filing r (.call now (.attestVerification a))
      { r with verifications := r.verifications.insert a.verification { v with attested := true } }

/-! ## Actions as filings -/

section
variable {s s' : State K}

omit [Addresses K] in
/-- The registry has nothing at a vacant address. -/
lemma State.Vacant.registry {k : K} (vacant : s.Vacant k) :
    s.registry.mrvProjects.lookup k = none ∧ s.registry.baselines.lookup k = none ∧
      s.registry.verifications.lookup k = none ∧ s.registry.auditors.lookup k = none := by
  have free := vacant.1
  simp only [State.Owned, not_or, ← Finmap.lookup_eq_none] at free
  obtain ⟨-, -, -, -, -, free⟩ := free
  exact free

/-- An instruction that opens no project and writes no account of the registry keeps it. -/
lemma Effects.registry {now : Int64} {i : Instruction K} (h : Effects s now i s')
    (mrvProject : ∀ k, (.mrvProject, k) ∉ i.writes) (baseline : ∀ k, (.baseline, k) ∉ i.writes)
    (verification : ∀ k, (.verification, k) ∉ i.writes) (auditor : ∀ k, (.auditor, k) ∉ i.writes)
    (closed : ∀ σ ∈ i.seeds, σ.kind ≠ .project) : s'.registry = s.registry := by
  have mrvProjects : s'.mrvProjects = s.mrvProjects := h.mrvProjects.unmarked mrvProject
  have baselines : s'.baselines = s.baselines := h.baselines.unmarked baseline
  have verifications : s'.verifications = s.verifications := h.verifications.unmarked verification
  have auditors : s'.auditors = s.auditors := h.auditors.unmarked auditor
  simp only [State.registry, mrvProjects, baselines, verifications, auditors, Registry.mk.injEq, true_and]
  funext k
  -- a project keeps its entry, which is one of its terms
  cases own : s'.projects.lookup k with
  | none =>
    cases old : s.projects.lookup k with
    | none => rfl
    | some p =>
      obtain ⟨p', own'⟩ := h.projects.stays old
      cases own.symm.trans own'
  | some p' =>
    obtain ⟨p, old, terms, -⟩ := h.projects.old nofun closed own
    rw [show s.projects.lookup k = some p from old]
    have entry := congrArg Project.mrvProject terms
    exact congrArg some entry

/-- An auditor who passes the checks is active in the registry. -/
lemma AuditorOf.registered {k w : K} {auditor : Auditor K} (h : AuditorOf s k w auditor) :
    s.registry.Active k w :=
  ⟨auditor, h.own, h.seeds, h.active, h.wallet⟩

/-- A project that is created is financed. -/
lemma createProject_files {a : CreateProject K} {now : Int64} {id target : U64} {term : U8}
    (h : createProject s a now id target term = .ok s') :
    Filing s.registry (.call now (.createProject a id target term)) s'.registry := by
  obtain ⟨done, rfl⟩ := createProject_ok.mp h
  have next : Filing s.registry (.call now (.createProject a id target term)) { s.registry with
      financed := Function.update s.registry.financed a.project (some a.mrvProject) } :=
    .finance done.found done.gate
  convert next using 1
  simp only [State.registry, Registry.mk.injEq, true_and]
  funext k
  by_cases e : k = a.project
  · subst e
    rw [Finmap.lookup_insert, Function.update_self]
    rfl
  · rw [Finmap.lookup_insert_of_ne _ e, Function.update_of_ne e]

/-- Every successful action is a filing. -/
theorem step_files {x : Action K} (st : step s x = .ok s') : Filing s.registry x s'.registry := by
  cases x with
  | outside o =>
    obtain ⟨b, -, rfl⟩ := step_outside st
    exact .quiet rfl
  | call now i =>
    have h := (step_call st).2
    cases i with
    | createProject => exact createProject_files h
    | registerMrvProject =>
      obtain ⟨done, rfl⟩ := registerMrvProject_ok.mp h
      exact .register done.vacant.registry.1 rfl rfl
    | addAuditor =>
      obtain ⟨done, rfl⟩ := addAuditor_ok.mp h
      exact .audit done.vacant.registry.2.2.2 rfl rfl
    | submitBaseline =>
      obtain ⟨done, rfl⟩ := submitBaseline_ok.mp h
      exact .baseline done.loaded.registered done.own done.first done.place
        done.vacant.registry.2.1 rfl rfl
    | submitVerification =>
      obtain ⟨done, rfl⟩ := submitVerification_ok.mp h
      exact .verification done.loaded.registered done.own done.gate done.place
        done.vacant.registry.2.2.1 done.period
    | attestVerification =>
      obtain ⟨done, rfl⟩ := attestVerification_ok.mp h
      exact .attest done.loaded.registered done.own done.fresh done.author
    | _ =>
      have same := (handle_effects h).registry (by simp [Instruction.writes]) (by simp [Instruction.writes])
        (by simp [Instruction.writes]) (by simp [Instruction.writes]) (by simp [Instruction.seeds, Seeds.kind])
      exact same ▸ .quiet rfl

end

/-! ## Later registries -/

/-- The statuses in their order. -/
def MrvProjectStatus.rank : MrvProjectStatus → ℕ
  | .registered => 0
  | .baselineSubmitted => 1
  | .inProgress => 2
  | .completed => 3

/-- All statuses but the last are at most the third. -/
lemma MrvProjectStatus.rank_le {status : MrvProjectStatus} (h : status ≠ .completed) :
    status.rank ≤ 2 := by
  cases status with
  | completed => exact absurd rfl h
  | _ => decide

/-- An entry goes on: its baseline, its status and its count only advance. -/
structure MrvProject.Later (m m' : MrvProject) : Prop where
  rank : m.status.rank ≤ m'.status.rank
  flag : m.baselineSubmitted = true → m'.baselineSubmitted = true
  inProgress : m.status = .inProgress → m'.status = .inProgress

/-- A verification changes by its attestation alone. -/
structure Verification.Later (v v' : Verification K) : Prop where
  fields : v' = { v with attested := v'.attested }
  attested : v.attested = true → v'.attested = true

/-- What is filed stays: reports are kept, and entries advance. -/
structure Registry.Later (r r' : Registry K) : Prop where
  mrvProjects : Finmap.Keeps MrvProject.Later r.mrvProjects r'.mrvProjects
  baselines : Finmap.Keeps Eq r.baselines r'.baselines
  verifications : Finmap.Keeps Verification.Later r.verifications r'.verifications

section
variable {r r' r'' : Registry K} {x : Action K}

omit [Addresses K] in
/-- An entry is later than itself. -/
lemma MrvProject.Later.refl (m : MrvProject) : m.Later m :=
  ⟨le_rfl, id, id⟩

omit [DecidableEq K] [Addresses K] in
/-- A verification is later than itself. -/
lemma Verification.Later.refl (v : Verification K) : v.Later v :=
  ⟨rfl, id⟩

omit [DecidableEq K] [Addresses K] in
/-- What is later than later is later. -/
lemma Verification.Later.trans {u v w : Verification K} (h : u.Later v) (h' : v.Later w) :
    u.Later w := by
  obtain ⟨fields, attested⟩ := h
  obtain ⟨fields', attested'⟩ := h'
  exact ⟨by rw [fields', fields], attested' ∘ attested⟩

omit [Addresses K] in
/-- A registry is later than itself. -/
lemma Registry.Later.refl (r : Registry K) : r.Later r :=
  ⟨.refl .refl _, .refl (fun _ => rfl) _, .refl .refl _⟩

omit [Addresses K] in
/-- What is later than later is later. -/
lemma Registry.Later.trans (h : r.Later r') (h' : r'.Later r'') : r.Later r'' where
  mrvProjects := h.mrvProjects.trans
    (fun l l' => ⟨l.rank.trans l'.rank, l'.flag ∘ l.flag, l'.inProgress ∘ l.inProgress⟩) h'.mrvProjects
  baselines := h.baselines.trans Eq.trans h'.baselines
  verifications := h.verifications.trans .trans h'.verifications

/-! ## The invariant -/

/-- The flag and the status of the entry at `m` agree with each other and with the reports filed for it. -/
structure Registry.Entry (r : Registry K) (m : K) (mrv : MrvProject) : Prop where
  flag : mrv.baselineSubmitted = true ↔ mrv.status ≠ .registered
  completed : mrv.status ≠ .completed
  baseline : mrv.baselineSubmitted = true →
    ∃ k b, r.baselines.lookup k = some b ∧ b.mrvProject = m
  verification : mrv.status = .inProgress →
    ∃ k v, r.verifications.lookup k = some v ∧ v.mrvProject = m

/-- What holds of the registry of every reachable state. -/
structure Registry.Wf (r : Registry K) : Prop where
  entry : ∀ m mrv, r.mrvProjects.lookup m = some mrv → r.Entry m mrv
  baseline : ∀ k b, r.baselines.lookup k = some b →
    ∃ mrv, r.mrvProjects.lookup b.mrvProject = some mrv ∧ mrv.baselineSubmitted = true
  verification : ∀ k v, r.verifications.lookup k = some v → v.periodStart < v.periodEnd ∧
    ∃ mrv, r.mrvProjects.lookup v.mrvProject = some mrv ∧ mrv.status = .inProgress
  financed : ∀ k m, r.financed k = some m →
    ∃ mrv, r.mrvProjects.lookup m = some mrv ∧ mrv.baselineSubmitted = true

omit [Addresses K] in
/-- An entry that is not written stays in agreement with the reports. -/
lemma Registry.Entry.later {m : K} {mrv : MrvProject} (h : r.Entry m mrv) (later : r.Later r') :
    r'.Entry m mrv := by
  obtain ⟨flag, completed, baseline, verification⟩ := h
  refine ⟨flag, completed, ?_, ?_⟩
  · intro submitted
    obtain ⟨k, b, own, rfl⟩ := baseline submitted
    obtain ⟨b', own', rfl⟩ := later.baselines k b own
    exact ⟨k, b, own', rfl⟩
  · intro progress
    obtain ⟨k, v, own, rfl⟩ := verification progress
    obtain ⟨v', own', fields, -⟩ := later.verifications k v own
    exact ⟨k, v', own', by rw [fields]⟩

/-- What is filed stays after a filing. -/
theorem Filing.later (wf : r.Wf) (h : Filing r x r') : r.Later r' := by
  cases h with
  | quiet => exact .refl r
  | finance => exact { Registry.Later.refl r with }
  | register free => exact { Registry.Later.refl r with mrvProjects := .insert_new .refl free _ }
  | audit => exact { Registry.Later.refl r with }
  | baseline _ found first _ free =>
    refine ⟨.insert .refl ?_, .insert_new (fun _ => rfl) free _, .refl .refl _⟩
    intro mrv' found'
    cases found.symm.trans found'
    have status := not_not.mp ((wf.entry _ _ found).flag.not.mp (by rw [first]; decide))
    rw [← Bool.not_eq_true] at first
    refine ⟨?_, fun submitted => absurd submitted first, fun progress => ?_⟩
    · rw [status]
      exact Nat.zero_le 1
    · rw [status] at progress
      cases progress
  | verification _ found gate _ free =>
    refine ⟨.insert .refl ?_, .refl (fun _ => rfl) _, .insert_new .refl free _⟩
    intro mrv' found'
    cases found.symm.trans found'
    exact ⟨MrvProjectStatus.rank_le (wf.entry _ _ found).completed, id, fun _ => rfl⟩
  | attest _ found =>
    refine { Registry.Later.refl r with verifications := .insert .refl ?_ }
    intro v' found'
    cases found.symm.trans found'
    exact ⟨rfl, fun _ => rfl⟩

omit [Addresses K] in
/-- A project points to a submitted entry after a filing if it did before. -/
lemma Registry.Later.submitted {m : K} (later : r.Later r')
    (h : ∃ mrv, r.mrvProjects.lookup m = some mrv ∧ mrv.baselineSubmitted = true) :
    ∃ mrv, r'.mrvProjects.lookup m = some mrv ∧ mrv.baselineSubmitted = true := by
  obtain ⟨mrv, own, submitted⟩ := h
  obtain ⟨mrv', own', le⟩ := later.mrvProjects m mrv own
  exact ⟨mrv', own', le.flag submitted⟩

omit [Addresses K] in
/-- An entry in progress stays in progress. -/
lemma Registry.Later.progress {m : K} (later : r.Later r')
    (h : ∃ mrv, r.mrvProjects.lookup m = some mrv ∧ mrv.status = .inProgress) :
    ∃ mrv, r'.mrvProjects.lookup m = some mrv ∧ mrv.status = .inProgress := by
  obtain ⟨mrv, own, progress⟩ := h
  obtain ⟨mrv', own', le⟩ := later.mrvProjects m mrv own
  exact ⟨mrv', own', le.inProgress progress⟩

/-- Every filing keeps a registry well-formed. -/
theorem Filing.wf (wf : r.Wf) (h : Filing r x r') : r'.Wf := by
  have later := h.later wf
  -- what is filed already stays filed
  have entry := fun m mrv own => (wf.entry m mrv own).later later
  have baseline := fun k b own => later.submitted (wf.baseline k b own)
  have verification := fun k v own => (wf.verification k v own).imp_right later.progress
  have financed := fun k m own => later.submitted (wf.financed k m own)
  cases h with
  | quiet => exact wf
  | @finance _ a _ _ _ mrv found gate =>
    refine ⟨entry, baseline, verification, ?_⟩
    intro k m own
    dsimp only at own
    -- the project that is financed now, or an earlier one
    by_cases e : k = a.project
    · subst e
      rw [Function.update_self] at own
      cases own
      exact ⟨mrv, found, gate⟩
    · rw [Function.update_of_ne e] at own
      exact financed k m own
  | register free status flag =>
    refine ⟨Finmap.forall_insert entry ⟨?_, ?_, ?_, ?_⟩, baseline, verification, financed⟩
    · rw [status, flag]
      decide
    · rw [status]
      decide
    · rw [flag]
      intro submitted
      cases submitted
    · rw [status]
      intro progress
      cases progress
  | audit => exact ⟨entry, baseline, verification, financed⟩
  | @baseline _ a _ _ _ _ _ mrv b _ found first _ free of =>
    refine ⟨Finmap.forall_insert entry ⟨by simp, by simp, ?_, ?_⟩,
      Finmap.forall_insert baseline ?_, verification, financed⟩
    · exact fun _ => ⟨a.baseline, b, Finmap.lookup_insert _, of⟩
    · intro progress
      cases progress
    · rw [of]
      exact ⟨_, Finmap.lookup_insert _, rfl⟩
  | @verification _ a index _ _ _ _ _ _ _ mrv _ found gate place free period =>
    refine ⟨Finmap.forall_insert entry ⟨?_, by simp, ?_, ?_⟩, baseline,
      Finmap.forall_insert verification ⟨period, _, Finmap.lookup_insert _, rfl⟩, financed⟩
    · exact iff_of_true gate (by simp)
    · intro _
      exact ((wf.entry _ _ found).later later).baseline gate
    · exact fun _ => ⟨a.verification, _, Finmap.lookup_insert _, rfl⟩
  | @attest _ a v _ found =>
    refine ⟨entry, baseline, Finmap.forall_insert verification ?_, financed⟩
    exact verification a.verification v found

end

/-! ## Runs -/

namespace Genesis

/-- The registry of a reachable state is well-formed. -/
theorem registry_wf (g : Genesis K) (as : List (Action K)) : (g.run as).registry.Wf := by
  refine Runs.run_invariant (I := fun s : State K => s.registry.Wf) ?_ ?_ as
  · exact ⟨nofun, nofun, nofun, nofun⟩
  · intro s x s' wf st
    exact (step_files st).wf wf

/-- What is filed in a reachable state stays in every later one. -/
theorem registry_later (g : Genesis K) (as bs : List (Action K)) :
    (g.run as).registry.Later (g.run (as ++ bs)).registry := by
  suffices both : (g.run (as ++ bs)).registry.Wf ∧
      (g.run as).registry.Later (g.run (as ++ bs)).registry from both.2
  rw [g.run_append]
  refine Runs.run_invariant (I := fun s : State K => s.registry.Wf ∧
    (g.run as).registry.Later s.registry) ⟨g.registry_wf as, .refl _⟩ ?_ bs
  intro s x s' ⟨wf, later⟩ st
  have filing := step_files st
  exact ⟨filing.wf wf, later.trans (filing.later wf)⟩

end Genesis

end Exira
