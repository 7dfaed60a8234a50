import Exira.Mrv.Registry

/-!
# The MRV gate

In every reachable state the flag of an entry, its status and the reports filed for it agree, the reports were
filed by auditors whom the platform's admin had appointed, and every project was created for an entry with a
baseline.
-/

namespace Exira

variable {K : Type} [DecidableEq K] [Addresses K]

/-! ## Histories -/

/-- The platform's admin registered the wallet `w` as an auditor. -/
def Appointed (h : List (State K × Action K)) (w : K) : Prop :=
  ∃ s now a name certification, (s, .call now (.addAuditor a name certification)) ∈ h ∧
    a.auditorWallet = w ∧ s.admin = some a.admin

/-- An action for which `P` holds came after the appointment of `w`. -/
def Reported (h : List (State K × Action K)) (w : K) (P : Action K → Prop) : Prop :=
  ∃ h₁ x h₂, h = h₁ ++ x :: h₂ ∧ P x.2 ∧ Appointed h₁ w

/-- The submission of the baseline at `k` by the wallet `w`. -/
def Action.submitsBaseline (k w : K) : Action K → Prop
  | .call _ (.submitBaseline a ..) => a.baseline = k ∧ a.auditorSigner = w
  | _ => False

/-- The submission of the verification at `k` by the wallet `w`. -/
def Action.submitsVerification (k w : K) : Action K → Prop
  | .call _ (.submitVerification a ..) => a.verification = k ∧ a.auditorSigner = w
  | _ => False

section
variable {h : List (State K × Action K)} {x : State K × Action K} {w : K} {P : Action K → Prop}

/-- An appointment stays one in a longer history. -/
lemma Appointed.snoc (past : Appointed h w) : Appointed (h ++ [x]) w := by
  obtain ⟨s, now, a, name, certification, mem, who⟩ := past
  exact ⟨s, now, a, name, certification, List.mem_append_left _ mem, who⟩

/-- A report stays one in a longer history. -/
lemma Reported.snoc (past : Reported h w P) : Reported (h ++ [x]) w P := by
  obtain ⟨h₁, y, h₂, rfl, holds, appointed⟩ := past
  exact ⟨h₁, y, h₂ ++ [x], by simp, holds, appointed⟩

/-- The last step is a report when its author was appointed before. -/
lemma Reported.last (holds : P x.2) (appointed : Appointed h w) : Reported (h ++ [x]) w P :=
  ⟨h, x, [], rfl, holds, appointed⟩

/-- What a history says of the auditors and the reports of a registry. -/
structure Registry.Accounted (h : List (State K × Action K)) (r : Registry K) : Prop where
  auditors : ∀ k auditor, r.auditors.lookup k = some auditor → Appointed h auditor.wallet
  baselines : ∀ k b, r.baselines.lookup k = some b →
    Reported h b.auditor (Action.submitsBaseline k b.auditor)
  verifications : ∀ k v, r.verifications.lookup k = some v →
    Reported h v.auditor (Action.submitsVerification k v.auditor)

/-- A registry stays accounted for in a longer history. -/
lemma Registry.Accounted.snoc {r : Registry K} (past : r.Accounted h) : r.Accounted (h ++ [x]) where
  auditors k auditor own := (past.auditors k auditor own).snoc
  baselines k b own := (past.baselines k b own).snoc
  verifications k v own := (past.verifications k v own).snoc

/-- Only an appointed wallet passes as an auditor. -/
lemma Registry.Active.appointed {r : Registry K} {k : K} (active : r.Active k w)
    (past : r.Accounted h) : Appointed h w := by
  obtain ⟨auditor, own, -, -, rfl⟩ := active
  exact past.auditors k auditor own

/-- A filing is accounted for by the history that it extends. -/
lemma Filing.accounted {s s' : State K} {x : Action K} (side : s.Side) (st : step s x = .ok s')
    (past : s.registry.Accounted h) : s'.registry.Accounted (h ++ [(s, x)]) := by
  have old := past.snoc (x := (s, x))
  have filing := step_files st
  generalize s'.registry = r' at filing ⊢
  cases filing with
  | quiet => exact old
  | finance => exact { old with }
  | register => exact { old with }
  | @audit now a name certification auditor _ wallet =>
    obtain ⟨done, -⟩ := addAuditor_ok.mp (step_call st).2
    refine { old with auditors := Finmap.forall_insert old.auditors ?_ }
    have mem : (s, .call now (.addAuditor a name certification))
        ∈ h ++ [(s, .call now (.addAuditor a name certification))] := List.mem_concat_self
    exact ⟨s, now, a, name, certification, mem, wallet.symm, (side.platform done.loaded).2.2⟩
  | baseline signer _ _ _ _ _ author =>
    refine { old with baselines := Finmap.forall_insert old.baselines ?_ }
    rw [author]
    exact .last ⟨rfl, rfl⟩ (signer.appointed past)
  | verification signer =>
    refine { old with verifications := Finmap.forall_insert old.verifications ?_ }
    exact .last ⟨rfl, rfl⟩ (signer.appointed past)
  | @attest _ a v _ found =>
    refine { old with verifications := Finmap.forall_insert old.verifications ?_ }
    exact old.verifications a.verification v found

end

/-- The registry of a run is accounted for by its history. -/
lemma Genesis.accounted (g : Genesis K) (as : List (Action K)) :
    (g.run as).registry.Accounted (g.history as) := by
  refine g.run_induction (I := fun h s => s.registry.Accounted h) ?_ ?_ as
  · exact ⟨nofun, nofun, nofun⟩
  · intro h s x s' wf past st
    exact Filing.accounted wf.side st past

/-- The gate, in every reachable state: the flag and the status of an entry agree with the reports filed for
it and only advance, every report was filed by an auditor whom the admin had appointed before, and the entry
that a project was created for has its baseline, then and later. -/
theorem mrv_gate (g : Genesis K) (as : List (Action K)) :
    (∀ m mrv, (g.run as).mrvProjects.lookup m = some mrv →
      (mrv.baselineSubmitted = true ↔
        ∃ k b, (g.run as).baselines.lookup k = some b ∧ b.mrvProject = m) ∧
      (mrv.baselineSubmitted = true ↔ mrv.status ≠ .registered) ∧
      (mrv.status = .inProgress ↔
        ∃ k v, (g.run as).verifications.lookup k = some v ∧ v.mrvProject = m) ∧
      mrv.status ≠ .completed ∧
      ∀ bs, ∃ mrv', (g.run (as ++ bs)).mrvProjects.lookup m = some mrv' ∧
        mrv.status.rank ≤ mrv'.status.rank) ∧
    (∀ k v, (g.run as).verifications.lookup k = some v → v.periodStart < v.periodEnd) ∧
    (∀ k b, (g.run as).baselines.lookup k = some b →
      Reported (g.history as) b.auditor (Action.submitsBaseline k b.auditor)) ∧
    (∀ k v, (g.run as).verifications.lookup k = some v →
      Reported (g.history as) v.auditor (Action.submitsVerification k v.auditor)) ∧
    ∀ k project, (g.run as).projects.lookup k = some project →
      ∀ bs, ∃ mrv, (g.run (as ++ bs)).mrvProjects.lookup project.mrvProject = some mrv ∧
        mrv.baselineSubmitted = true := by
  have wf := g.registry_wf as
  refine ⟨?_, fun k v own => (wf.verification k v own).1, (g.accounted as).baselines,
    (g.accounted as).verifications, ?_⟩
  · intro m mrv own
    obtain ⟨flag, completed, baseline, verification⟩ := wf.entry m mrv own
    refine ⟨⟨baseline, ?_⟩, flag, ⟨verification, ?_⟩, completed, ?_⟩
    · rintro ⟨k, b, filed, rfl⟩
      obtain ⟨mrv', own', submitted⟩ := wf.baseline k b filed
      cases own.symm.trans own'
      exact submitted
    · rintro ⟨k, v, filed, rfl⟩
      obtain ⟨-, mrv', own', progress⟩ := wf.verification k v filed
      cases own.symm.trans own'
      exact progress
    · intro bs
      obtain ⟨mrv', own', later⟩ := (g.registry_later as bs).mrvProjects m mrv own
      exact ⟨mrv', own', later.rank⟩
  · intro k project own bs
    have link : (g.run as).registry.financed k = some project.mrvProject :=
      Option.map_eq_some_iff.mpr ⟨project, own, rfl⟩
    exact (g.registry_later as bs).submitted (wf.financed k _ link)

end Exira
