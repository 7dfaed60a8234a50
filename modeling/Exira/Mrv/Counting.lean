import Exira.Mrv.Attestation
import Exira.Openings
import Mathlib.Data.FinEnum

/-!
# Verification counts

An entry counts its verifications in a `u8` that saturates, and a verification has a `u8` index. There are
256 indices, so the count is exact as long as one of them is free, and no longer: the submission that uses
the last one leaves it at 255. Nothing keeps an auditor from that submission.
-/

namespace Exira

variable {K : Type} [DecidableEq K] [Addresses K]

/-! ## Counts -/

/-- The number of verification accounts of an entry. -/
def Registry.verificationsOf (r : Registry K) (m : K) : ℕ :=
  r.verifications.sum fun v => if v.mrvProject = m then 1 else 0

/-- The action submits a verification of an entry. -/
def Action.submitsFor (m : K) (x : Action K) : Bool :=
  match x.submission with
  | some (_, v) => v.mrvProject = m
  | none => false

/-- A submission for an entry uses one of its indices. -/
lemma Action.sum_submits (m : K) (x : Action K) :
    ∑ index, (x.submits m index).toNat = (x.submitsFor m).toNat := by
  cases submission : x.submission with
  | none => simp [submits, submitsFor, submission]
  | some kv =>
    by_cases own : kv.2.mrvProject = m
    · simp [submits, submitsFor, submission, own, Bool.toNat, Bool.cond_decide]
    · simp [submits, submitsFor, submission, own]

/-- A submission has one index. -/
lemma Action.submits_unique (x : Action K) {m : K} {i j : U8} (submits : x.submits m i = true) (ne : j ≠ i) :
    x.submits m j = false := by
  unfold Action.submits at submits ⊢
  cases e : x.submission with
  | none => rfl
  | some kv =>
    simp only [e, decide_eq_true_eq] at submits
    simp only [decide_eq_false_iff_not, not_and]
    rintro - rfl
    exact ne submits.2

section
variable {r r' : Registry K} {x : Action K}

/-- A filing makes the verification that it submits. -/
lemma Filing.verificationsOf (h : Filing r x r') (m : K) :
    r'.verificationsOf m = r.verificationsOf m + (x.submitsFor m).toNat := by
  cases h with
  | quiet quiet => simp only [Action.submitsFor, (Action.quiet_submission quiet).1]; rfl
  | finance => rfl
  | register => rfl
  | audit => rfl
  | baseline => rfl
  | @verification _ a _ _ _ _ _ _ _ _ _ _ _ _ _ free =>
    rw [Registry.verificationsOf, Finmap.sum_insert_new free]
    by_cases own : a.mrvProject = m
    · simp [Registry.verificationsOf, Action.submitsFor, Action.submission, SubmitVerification.record, own]
    · simp [Registry.verificationsOf, Action.submitsFor, Action.submission, SubmitVerification.record, own]
  | attest _ found => exact Finmap.sum_insert_same found rfl

omit [Addresses K] in
/-- Nothing is filed for an entry that is not there. -/
lemma Registry.Wf.verificationsOf_none (wf : r.Wf) {m : K} (free : r.mrvProjects.lookup m = none) :
    r.verificationsOf m = 0 := by
  apply Finmap.sum_eq_zero
  intro k v own
  obtain ⟨-, mrv, found, -⟩ := wf.verification k v own
  rw [if_neg]
  rintro rfl
  cases free.symm.trans found

/-- The count of an entry is the number of its verifications, up to 255; and these are as many as the indices
in use. -/
structure Registry.Counted (r : Registry K) : Prop where
  count : ∀ m mrv, r.mrvProjects.lookup m = some mrv →
    mrv.verificationCount.toNat = min (r.verificationsOf m) 255
  indices : ∀ m, r.verificationsOf m = ∑ index, r.submitted m index

/-- The entry that an action registers. -/
def Action.registers : Action K → Option K
  | .call _ (.registerMrvProject a _ _ _ _ _) => some a.mrvProject
  | _ => none

/-- An entry is registered with the count zero. -/
lemma step_registers {s s' : State K} {m : K} (st : step s x = .ok s') (registers : x.registers = some m) :
    ∃ mrv, s'.mrvProjects.lookup m = some mrv ∧ mrv.verificationCount = 0 := by
  unfold Action.registers at registers
  split at registers
  · cases registers
    obtain ⟨done, rfl⟩ := registerMrvProject_ok.mp (step_call st).2
    exact ⟨_, Finmap.lookup_insert _, rfl⟩
  · cases registers

/-- A filing keeps the counts, if it registers an entry with the count zero. -/
lemma Filing.counted (wf : r.Wf) (h : Filing r x r') (start : ∀ m, x.registers = some m →
    ∃ mrv, r'.mrvProjects.lookup m = some mrv ∧ mrv.verificationCount = 0) (past : r.Counted) :
    r'.Counted := by
  have total := h.verificationsOf
  refine ⟨?_, ?_⟩
  · cases h with
    | quiet => exact past.count
    | finance => exact past.count
    | audit => exact past.count
    | @register _ a _ _ _ _ _ _ free =>
      apply Finmap.forall_insert past.count
      obtain ⟨mrv, own, zero⟩ := start a.mrvProject rfl
      cases (Finmap.lookup_insert _).symm.trans own
      show _ = min (r.verificationsOf _) 255
      rw [zero, wf.verificationsOf_none free]
      rfl
    | baseline _ found =>
      have before := past.count _ _ found
      exact Finmap.forall_insert past.count before
    | @verification _ a _ _ _ _ _ _ _ _ mrv _ found =>
      intro m mrv' own
      rw [total m]
      by_cases e : m = a.mrvProject
      · -- the counter stops at 255, as does the bound
        subst e
        cases (Finmap.lookup_insert _).symm.trans own
        have before := past.count _ _ found
        rw [BitVec.toNat_saturatingAdd, before]
        simp [Action.submitsFor, Action.submission, SubmitVerification.record]
        omega
      · have before := past.count m mrv' ((Finmap.lookup_insert_of_ne _ e).symm.trans own)
        rw [before]
        simp [Action.submitsFor, Action.submission, SubmitVerification.record, Ne.symm e]
    | attest =>
      intro m mrv' own
      rw [total m]
      exact past.count m mrv' own
  · intro m
    -- what is filed is counted at its index
    rw [total m, past.indices m, ← x.sum_submits m, ← Finset.sum_add_distrib]
    exact Finset.sum_congr rfl fun index _ => (h.submitted m index).symm

/-! ## Free indices -/

/-- An index of a project is submitted once at most. -/
lemma Registry.submitted_le (r : Registry K) (m : K) (index : U8) : r.submitted m index ≤ 1 := by
  unfold Registry.submitted
  split <;> decide

/-- There are 256 indices. -/
lemma card_u8 : Fintype.card U8 = 256 := by
  rw [← FinEnum.card_eq_fintypeCard]
  rfl

/-- An entry has at most 256 verifications, and that many when every index is in use. -/
lemma Registry.Counted.full (h : r.Counted) (m : K) : r.verificationsOf m ≤ 256 ∧
    (r.verificationsOf m = 256 ↔ ∀ index, r.submitted m index = 1) := by
  have le := fun index (_ : index ∈ Finset.univ) => r.submitted_le m index
  have ones : ∑ _index : U8, 1 = 256 := by rw [Finset.sum_const, Finset.card_univ, card_u8]; rfl
  rw [h.indices m, ← ones]
  refine ⟨Finset.sum_le_sum le, ?_⟩
  rw [Finset.sum_eq_sum_iff_of_le le]
  simp only [Finset.mem_univ, forall_const]

/-- An index is free until 256 verifications are filed. -/
lemma Registry.Counted.free_iff (h : r.Counted) (m : K) :
    (∃ index, r.submitted m index = 0) ↔ r.verificationsOf m ≠ 256 := by
  rw [Ne, (h.full m).2, not_forall]
  refine exists_congr fun index => ?_
  have le := r.submitted_le m index
  omega

/-- The count is exact unless every index is in use. -/
lemma Registry.Counted.exact_iff (h : r.Counted) {m : K} {mrv : MrvProject}
    (own : r.mrvProjects.lookup m = some mrv) :
    mrv.verificationCount.toNat = r.verificationsOf m ↔ r.verificationsOf m ≠ 256 := by
  have le := (h.full m).1
  rw [h.count m mrv own]
  omega

/-- The action leaves an index of the entry free: a submission for it does not use the last one. -/
def State.Spares (s : State K) (m : K) (x : Action K) : Prop :=
  ∀ index, x.submits m index = true →
    ∃ other, other ≠ index ∧ findProgramAddress (.verification m other) ∉ s.verifications

/-- An index is not submitted when its address is not taken. -/
lemma State.submitted_eq_zero {s : State K} {m : K} {index : U8} : s.registry.submitted m index = 0 ↔
    findProgramAddress (.verification m index) ∉ s.verifications := by
  rw [Registry.submitted, ← Finmap.lookup_isSome, State.registry]
  split <;> simp [*]

/-- An action that uses up the indices of an entry submits the last one. -/
lemma Filing.spares {s s' : State K} (h : Filing s.registry x s'.registry) (m : K) :
    (∃ index, s'.registry.submitted m index = 0) ↔
      (∃ index, s.registry.submitted m index = 0) ∧ s.Spares m x := by
  have next := h.submitted m
  constructor
  · rintro ⟨index, free⟩
    have sum := next index
    refine ⟨⟨index, by omega⟩, ?_⟩
    intro i submits
    refine ⟨index, ?_, State.submitted_eq_zero.mp (by omega)⟩
    rintro rfl
    rw [submits] at sum
    cases free.symm.trans sum
  · rintro ⟨⟨index, free⟩, spares⟩
    by_cases submits : ∃ i, x.submits m i = true
    · obtain ⟨i, submits⟩ := submits
      obtain ⟨other, ne, free⟩ := spares i submits
      refine ⟨other, ?_⟩
      rw [next other, State.submitted_eq_zero.mpr free, x.submits_unique submits ne]
      rfl
    · refine ⟨index, ?_⟩
      rw [next index, free, Bool.eq_false_of_not_eq_true fun e => submits ⟨index, e⟩]
      rfl

end

/-! ## Runs -/

namespace Genesis

variable (g : Genesis K) (as : List (Action K)) (m : K)

/-- The registry of a run is counted. -/
lemma counted : (g.run as).registry.Counted := by
  suffices both : (g.run as).registry.Wf ∧ (g.run as).registry.Counted from both.2
  refine Runs.run_invariant (I := fun s : State K => s.registry.Wf ∧ s.registry.Counted) ?_ ?_ as
  · refine ⟨g.registry_wf [], ?_, ?_⟩
    · intro m mrv own
      cases own
    · intro m
      exact (Finmap.sum_empty _).trans (Finset.sum_eq_zero fun _ _ => rfl).symm
  · rintro s x s' ⟨wf, past⟩ st
    have filing := step_files st
    exact ⟨filing.wf wf, filing.counted wf (fun m => step_registers st) past⟩

/-- An index of an entry is free if and only if no action has used the last one. -/
lemma spares_iff : (∃ index, (g.run as).registry.submitted m index = 0) ↔
    ∀ y ∈ g.history as, y.1.Spares m y.2 := by
  refine g.run_induction (I := fun h s => (∃ index, s.registry.submitted m index = 0) ↔
    ∀ y ∈ h, y.1.Spares m y.2) ?_ ?_ as
  · exact iff_of_true ⟨0, rfl⟩ nofun
  · intro h s x s' _ past st
    rw [(step_files st).spares m, past]
    simp only [List.mem_append, List.mem_singleton, or_imp, forall_and, forall_eq]

end Genesis

/-! ## Using all indices -/

namespace Client

/-- The call that submits a verification of `index`. -/
def submitVerification (id : U64) (wallet : K) (index : U8) : Instruction K :=
  let mrv := findProgramAddress (.mrvProject id)
  .submitVerification ⟨wallet, findProgramAddress (.auditor wallet), mrv,
    findProgramAddress (.verification mrv index)⟩ index 0 1 0 0 0 0 (Vector.replicate 32 0)

/-- One submission for each of the indices. -/
def sweep (id : U64) (wallet : K) (indices : List U8) : List (Action K) :=
  indices.map fun index => .call 0 (submitVerification id wallet index)

end Client

/-- The wallet is an active auditor, and the entry with this id has its baseline. -/
structure State.Reportable (s : State K) (id : U64) (w : K) : Prop where
  signs : canSign w = true
  auditor : ∃ auditor, AuditorOf s (findProgramAddress (.auditor w)) w auditor
  entry : ∃ mrv, s.mrvProjects.lookup (findProgramAddress (.mrvProject id)) = some mrv ∧
    mrv.projectId = id ∧ mrv.bump = findBump (K := K) (.mrvProject id) ∧ mrv.baselineSubmitted = true

/-- A verification can be submitted where nothing is. -/
lemma State.Reportable.goes {s : State K} {id : U64} {w : K} (h : s.Reportable id w) {index : U8}
    (vacant : s.Vacant (findProgramAddress (.verification (findProgramAddress (.mrvProject id)) index))) :
    ∃ s', step s (.call 0 (Client.submitVerification id w index)) = .ok s' := by
  obtain ⟨signs, ⟨auditor, loaded⟩, mrv, own, number, bump, gate⟩ := h
  have signed : ∀ k ∈ (Client.submitVerification id w index).signers, canSign k = true := by
    simpa [Client.submitVerification, Instruction.signers] using signs
  refine ⟨_, step_of_handle signed (submitVerification_ok.mpr ⟨{
    auditor, loaded, mrvProject := mrv, own, seeds := ?_, gate, place := rfl, vacant, period := by decide },
    rfl⟩)⟩
  rw [number, bump]
  rfl

/-- A submission leaves the auditor and the baseline. -/
lemma State.Reportable.later {s s' : State K} {id : U64} {w : K} (h : s.Reportable id w) {index : U8}
    (st : step s (.call 0 (Client.submitVerification id w index)) = .ok s') : s'.Reportable id w := by
  obtain ⟨signs, ⟨auditor, loaded⟩, mrv, own, number, bump, gate⟩ := h
  obtain ⟨done, rfl⟩ := submitVerification_ok.mp (step_call st).2
  have own' := done.own
  cases own.symm.trans own'
  exact ⟨signs, ⟨auditor, { loaded with }⟩, _, Finmap.lookup_insert _, number, bump, gate⟩

/-- After a submission its index is in use: it succeeds, or it finds it in use. -/
lemma State.Reportable.submit {s : State K} {id : U64} {w : K} (h : s.Reportable id w) {i : U8}
    (vacant : s.registry.submitted (findProgramAddress (.mrvProject id)) i = 0 →
      s.Vacant (findProgramAddress (.verification (findProgramAddress (.mrvProject id)) i)))
    {u : State K} (next : Runs.next step s (.call 0 (Client.submitVerification id w i)) = u) :
    u.Reportable id w ∧ ∀ index,
      s.registry.submitted (findProgramAddress (.mrvProject id)) index = 1 ∨ index = i →
        u.registry.submitted (findProgramAddress (.mrvProject id)) index = 1 := by
  cases st : step s (.call 0 (Client.submitVerification id w i)) with
  | error e =>
    rw [Runs.next_error st] at next
    subst next
    refine ⟨h, ?_⟩
    rintro index (used | rfl)
    · exact used
    · have le := s.registry.submitted_le (findProgramAddress (.mrvProject id)) index
      -- refused, so the index was taken before
      have taken : s.registry.submitted (findProgramAddress (.mrvProject id)) index ≠ 0 := by
        intro free
        obtain ⟨s', ok⟩ := h.goes (vacant free)
        cases st.symm.trans ok
      omega
  | ok s' =>
    rw [Runs.next_ok st] at next
    subst next
    refine ⟨h.later st, ?_⟩
    intro index used
    have le := s'.registry.submitted_le (findProgramAddress (.mrvProject id)) index
    have sum := (step_files st).submitted (findProgramAddress (.mrvProject id)) index
    rcases used with used | rfl
    · omega
    · have last : (Action.submits (findProgramAddress (.mrvProject id)) index
          (.call 0 (Client.submitVerification id w index))) = true := by
        simp [Action.submits, Action.submission, Client.submitVerification, SubmitVerification.record]
      rw [last, Bool.toNat_true] at sum
      omega

section
variable {g : Genesis K} {as : List (Action K)} {id : U64} {w : K}

/-- After a sweep its indices are in use. -/
lemma Genesis.sweep (ready : (g.run as).Reportable id w) (clear : ∀ index,
      g.Clear (findProgramAddress (.verification (findProgramAddress (.mrvProject id)) index)))
    (indices : List U8) : (g.run (as ++ Client.sweep id w indices)).Reportable id w ∧
      ∀ index ∈ indices, (g.run (as ++ Client.sweep id w indices)).registry.submitted
        (findProgramAddress (.mrvProject id)) index = 1 := by
  induction indices using List.reverseRecOn with
  | nil =>
    refine ⟨?_, nofun⟩
    rwa [Client.sweep, List.map_nil, List.append_nil]
  | append_singleton indices i ih =>
    obtain ⟨ready, used⟩ := ih
    have vacant := g.vacant_iff (as ++ Client.sweep id w indices)
      (.verification (findProgramAddress (.mrvProject id)) i)
    have next : Runs.next step (g.run (as ++ Client.sweep id w indices))
        (.call 0 (Client.submitVerification id w i)) = g.run (as ++ Client.sweep id w (indices ++ [i])) := by
      rw [Client.sweep, Client.sweep, List.map_append, ← List.append_assoc, g.run_append (as ++ _)]
      rfl
    obtain ⟨ready', used'⟩ := ready.submit
      (fun free => vacant.mpr ⟨State.submitted_eq_zero.mp free, clear i⟩) next
    refine ⟨ready', ?_⟩
    intro index mem
    rcases List.mem_append.mp mem with old | new
    · exact used' index (.inl (used index old))
    · exact used' index (.inr (List.mem_singleton.mp new))

def allIndices : List U8 := (List.finRange 256).map BitVec.ofFin

/-- Every index is on the list. -/
lemma mem_allIndices (index : U8) : index ∈ allIndices :=
  List.mem_map.mpr ⟨index.toFin, List.mem_finRange _, rfl⟩

/-- From any state in which an auditor can report on an entry, a run uses all its indices, and the count
stays behind. -/
theorem Genesis.sweep_saturates (ready : (g.run as).Reportable id w) (clear : ∀ index,
      g.Clear (findProgramAddress (.verification (findProgramAddress (.mrvProject id)) index))) :
    ∃ mrv, (g.run (as ++ Client.sweep id w allIndices)).mrvProjects.lookup
        (findProgramAddress (.mrvProject id)) = some mrv ∧ mrv.verificationCount.toNat = 255 ∧
      (g.run (as ++ Client.sweep id w allIndices)).registry.verificationsOf
        (findProgramAddress (.mrvProject id)) = 256 := by
  obtain ⟨⟨-, -, mrv, own, -⟩, used⟩ := Genesis.sweep ready clear allIndices
  have counted := g.counted (as ++ Client.sweep id w allIndices)
  have all := (counted.full (findProgramAddress (.mrvProject id))).2.mpr
    fun index => used index (mem_allIndices index)
  refine ⟨mrv, own, ?_, all⟩
  rw [counted.count _ _ own, all]
  rfl

end

/-- The count of an entry is the number of its verifications as long as no submission uses the last index that
was free, and never after that. -/
theorem verification_count_iff (g : Genesis K) (as : List (Action K)) (m : K) :
    (∀ mrv, (g.run as).mrvProjects.lookup m = some mrv →
      mrv.verificationCount.toNat = (g.run as).registry.verificationsOf m) ↔
    ∀ y ∈ g.history as, y.1.Spares m y.2 := by
  have counted := g.counted as
  rw [← g.spares_iff as m, counted.free_iff]
  cases own : (g.run as).mrvProjects.lookup m with
  | some mrv =>
    rw [← counted.exact_iff own]
    simp only [Option.some.injEq, forall_eq']
  | none =>
    rw [(g.registry_wf as).verificationsOf_none own]
    exact iff_of_true nofun (by decide)

/-- The deployment with entry 1, its baseline, and an auditor. -/
def Client.demoReported : List (Action Addr) :=
  demo.setup (.wallet 3) [] 0 150 ++ [
    .call 0 (demo.registerMrvProject 1 ""),
    .call 0 (demo.addAuditor (.wallet 30) ""),
    .call 0 (submitBaseline 1 (.wallet 30))]

/-- The auditor submits a verification for each of the 256 indices, and the count is 255. -/
theorem verification_count_short : ¬ ∀ mrv,
    (Genesis.blank.run (Client.demoReported ++ Client.sweep 1 (.wallet 30) allIndices)).mrvProjects.lookup
      (findProgramAddress (.mrvProject 1)) = some mrv →
    mrv.verificationCount.toNat =
      (Genesis.blank.run (Client.demoReported ++ Client.sweep 1 (.wallet 30) allIndices)).registry.verificationsOf
        (findProgramAddress (.mrvProject 1)) := by
  have ready : (Genesis.blank.run Client.demoReported).Reportable 1 (.wallet 30) := by
    refine ⟨rfl, ?_, ?_⟩
    · have entry : ((Genesis.blank.run Client.demoReported).auditors.lookup
          (findProgramAddress (.auditor (.wallet 30)))).map
            (fun auditor => (auditor.bump, auditor.isActive, auditor.wallet)) = some (255, true, .wallet 30) := by
        decide +kernel
      obtain ⟨auditor, own, e⟩ := Option.map_eq_some_iff.mp entry
      injection e with bump rest
      injection rest with active wallet
      exact ⟨auditor, own, bump ▸ rfl, active, wallet⟩
    · have entry : ((Genesis.blank.run Client.demoReported).mrvProjects.lookup
          (findProgramAddress (.mrvProject 1))).map
            (fun mrv => (mrv.projectId, mrv.bump, mrv.baselineSubmitted)) = some (1, 255, true) := by
        decide +kernel
      obtain ⟨mrv, own, e⟩ := Option.map_eq_some_iff.mp entry
      injection e with number rest
      injection rest with bump gate
      exact ⟨mrv, own, number, bump, gate⟩
  have clear : ∀ index : U8, (Genesis.blank (K := Addr)).Clear
      (findProgramAddress (.verification (findProgramAddress (.mrvProject 1)) index)) :=
    fun _ => ⟨by simp [Genesis.blank, Token.Bank.holder], by simp [Genesis.blank, Token.Bank.minter]⟩
  obtain ⟨mrv, own, count, number⟩ := Genesis.sweep_saturates ready clear
  intro exact
  have e := exact mrv own
  rw [count, number] at e
  cases e

end Exira
