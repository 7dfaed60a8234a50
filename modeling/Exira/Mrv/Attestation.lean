import Exira.Mrv.Registry

/-!
# Attestations

What a run says of a verification: the one submission that wrote it, and the attestations of it, which are
counted. The count of attestations is the flag of the verification, and the count of submissions for an entry
and an index is the existence of the account.
-/

namespace Exira

variable {K : Type} [DecidableEq K] [Addresses K]

/-! ## Submissions and attestations -/

/-- The signers of a call. -/
def Action.signers : Action K → List K
  | .call _ i => i.signers
  | .outside _ => []

/-- The verification that an action submits, and its address. -/
def Action.submission : Action K → Option (K × Verification K)
  | .call now (.submitVerification a index start stop energy cost co2 bps hash) =>
    some (a.verification, a.record now index start stop energy cost co2 bps hash)
  | _ => none

/-- The action submits a verification of an entry, with an index. -/
def Action.submits (m : K) (index : U8) (x : Action K) : Bool :=
  match x.submission with
  | some (_, v) => v.mrvProject = m ∧ v.index = index
  | none => false

/-- The action attests the verification at `k`. -/
def Action.attests (k : K) : Action K → Bool
  | .call _ (.attestVerification a) => a.verification = k
  | _ => false

/-- An action that files nothing neither submits nor attests. -/
lemma Action.quiet_submission {x : Action K} (quiet : x.files = false) :
    x.submission = none ∧ ∀ k, x.attests k = false := by
  cases x with
  | outside => exact ⟨rfl, fun _ => rfl⟩
  | call now i => cases i <;> first | exact ⟨rfl, fun _ => rfl⟩ | cases quiet

/-- A submission is no attestation. -/
lemma Action.submission_silent {x : Action K} {kv : K × Verification K}
    (submits : x.submission = some kv) (k : K) : x.attests k = false := by
  unfold Action.submission at submits
  split at submits
  · rfl
  · cases submits

/-! ## Counts -/

/-- One for an attested verification. -/
def Registry.attested (r : Registry K) (k : K) : ℕ :=
  (r.verifications.lookup k).elim 0 fun v => v.attested.toNat

/-- One for an existing verification. -/
def Registry.submitted (r : Registry K) (m : K) (index : U8) : ℕ :=
  if (r.verifications.lookup (findProgramAddress (.verification m index))).isSome then 1 else 0

section
variable {r r' : Registry K} {x : Action K}

/-- A filing attests what it is an attestation of. -/
lemma Filing.attested (h : Filing r x r') (k : K) :
    r'.attested k = r.attested k + (x.attests k).toNat := by
  cases h with
  | quiet quiet => rw [(Action.quiet_submission quiet).2 k]; rfl
  | finance => rfl
  | register => rfl
  | audit => rfl
  | baseline => rfl
  | @verification _ a _ _ _ _ _ _ _ _ _ _ _ _ _ free =>
    by_cases e : k = a.verification
    · subst e
      simp only [Registry.attested, Finmap.lookup_insert, free]
      rfl
    · simp only [Registry.attested, Finmap.lookup_insert_of_ne _ e]
      rfl
  | @attest _ a v _ found fresh =>
    by_cases e : k = a.verification
    · subst e
      simp only [Registry.attested, Finmap.lookup_insert, found, Option.elim, fresh, Action.attests,
        decide_true]
      rfl
    · simp only [Registry.attested, Finmap.lookup_insert_of_ne _ e, Action.attests,
        decide_eq_false (Ne.symm e)]
      rfl

/-- A filing makes the verification that it submits. -/
lemma Filing.submitted (h : Filing r x r') (m : K) (index : U8) :
    r'.submitted m index = r.submitted m index + (x.submits m index).toNat := by
  cases h with
  | quiet quiet => simp only [Action.submits, (Action.quiet_submission quiet).1]; rfl
  | finance => rfl
  | register => rfl
  | audit => rfl
  | baseline => rfl
  | @verification _ a i _ _ _ _ _ _ _ _ _ _ _ place free =>
    by_cases same : a.mrvProject = m ∧ i = index
    · obtain ⟨rfl, rfl⟩ := same
      simp only [Registry.submitted]
      rw [← place, Finmap.lookup_insert, free]
      simp [Action.submits, Action.submission, SubmitVerification.record]
    · have ne : findProgramAddress (.verification m index) ≠ a.verification := by
        intro e
        injection findProgramAddress_inj (e.trans place) with entry number
        exact same ⟨entry.symm, number.symm⟩
      simp only [Registry.submitted, Finmap.lookup_insert_of_ne _ ne, Action.submits,
        Action.submission, SubmitVerification.record, decide_eq_false same]
      rfl
  | @attest _ a v _ found =>
    have kept : ((r.verifications.insert a.verification { v with attested := true }).lookup
        (findProgramAddress (.verification m index))).isSome
          = (r.verifications.lookup (findProgramAddress (.verification m index))).isSome := by
      rw [Finmap.lookup_insert_ite]
      split
      · next e => rw [e, found]; rfl
      · rfl
    simp only [Registry.submitted, kept]
    rfl

/-! ## Histories -/

variable {h : List (State K × Action K)}

/-- An action of the history submitted the verification at `k` as `v` still is but for its attestation, by its
auditor, and it was not attested before. -/
def Submitted (h : List (State K × Action K)) (k : K) (v : Verification K) : Prop :=
  ∃ h₁ y h₂, h = h₁ ++ y :: h₂ ∧ y.2.submission = some (k, { v with attested := false }) ∧
    v.auditor ∈ y.2.signers ∧ (∃ account, y.1.registry.Active account v.auditor) ∧
    h₁.countP (fun z => z.2.attests k) = 0

/-- Every attestation of the verification at `k` was signed by the wallet `w`, an active auditor then. -/
def AttestedBy (h : List (State K × Action K)) (k w : K) : Prop :=
  ∀ y ∈ h, y.2.attests k = true →
    w ∈ y.2.signers ∧ ∃ account, y.1.registry.Active account w

/-- What a history says of the verifications of a registry. -/
structure Registry.Witnessed (h : List (State K × Action K)) (r : Registry K) : Prop where
  attests : ∀ k, h.countP (fun y => y.2.attests k) = r.attested k
  submits : ∀ m index, h.countP (fun y => y.2.submits m index) = r.submitted m index
  origin : ∀ k v, r.verifications.lookup k = some v → Submitted h k v ∧ AttestedBy h k v.auditor

omit [DecidableEq K] [Addresses K] in
/-- One more step counts if it is one. -/
lemma countP_snoc (p : State K × Action K → Bool) (h : List (State K × Action K))
    (y : State K × Action K) : (h ++ [y]).countP p = h.countP p + (p y).toNat := by
  rw [List.countP_append, List.countP_singleton]
  cases p y <;> rfl

/-- A submission stays one in a longer history. -/
lemma Submitted.snoc {k : K} {v : Verification K} (past : Submitted h k v) (y : State K × Action K) :
    Submitted (h ++ [y]) k v := by
  obtain ⟨h₁, z, h₂, rfl, rest⟩ := past
  exact ⟨h₁, z, h₂ ++ [y], by simp, rest⟩

/-- An attestation stays one in a longer history. -/
lemma AttestedBy.snoc {k w : K} {y : State K × Action K} (past : AttestedBy h k w)
    (last : y.2.attests k = true →
      w ∈ y.2.signers ∧ ∃ account, y.1.registry.Active account w) :
    AttestedBy (h ++ [y]) k w := by
  intro z mem attests
  rcases List.mem_append.mp mem with old | new
  · exact past z old attests
  · cases List.mem_singleton.mp new
    exact last attests

/-- A verification that was never attested was attested by its auditor alone. -/
lemma AttestedBy.of_none {k : K} (none : h.countP (fun y => y.2.attests k) = 0) (w : K) :
    AttestedBy h k w :=
  fun y mem attests => absurd attests (List.countP_eq_zero.mp none y mem)

/-- A filing is witnessed by the history that it extends. -/
lemma Filing.witnessed {s s' : State K} (st : step s x = .ok s') (past : s.registry.Witnessed h) :
    s'.registry.Witnessed (h ++ [(s, x)]) := by
  have filing := step_files st
  obtain ⟨attests, submits, origin⟩ := past
  refine ⟨?_, ?_, ?_⟩
  · intro k
    rw [countP_snoc, attests, filing.attested k]
  · intro m index
    rw [countP_snoc, submits, filing.submitted m index]
  · intro k v own
    -- a verification of before, unless it is submitted or attested now
    have old : ∀ v₀, s.registry.verifications.lookup k = some v₀ → x.attests k = false →
        Submitted (h ++ [(s, x)]) k v₀ ∧ AttestedBy (h ++ [(s, x)]) k v₀.auditor := by
      intro v₀ own₀ silent
      obtain ⟨submitted, attestedBy⟩ := origin k v₀ own₀
      exact ⟨submitted.snoc _, attestedBy.snoc fun attested => by rw [silent] at attested; cases attested⟩
    generalize s'.registry = r' at filing own
    cases filing with
    | quiet quiet => exact old v own ((Action.quiet_submission quiet).2 k)
    | finance => exact old v own rfl
    | register => exact old v own rfl
    | audit => exact old v own rfl
    | baseline => exact old v own rfl
    | @verification _ a _ _ _ _ _ _ _ _ _ signer _ _ _ free =>
      by_cases e : k = a.verification
      · subst e
        cases (Finmap.lookup_insert _).symm.trans own
        have never : h.countP (fun y => y.2.attests a.verification) = 0 := by
          rw [attests, Registry.attested, free]
          rfl
        refine ⟨⟨h, _, [], rfl, rfl, List.mem_singleton_self _, ⟨a.auditor, signer⟩, never⟩, ?_⟩
        exact (AttestedBy.of_none never _).snoc nofun
      · exact old v ((Finmap.lookup_insert_of_ne _ e).symm.trans own) rfl
    | @attest _ a v₀ signer found fresh author =>
      by_cases e : k = a.verification
      · subst e
        cases (Finmap.lookup_insert _).symm.trans own
        obtain ⟨submitted, attestedBy⟩ := origin _ v₀ found
        refine ⟨submitted.snoc _, attestedBy.snoc fun _ => ?_⟩
        rw [author]
        exact ⟨List.mem_singleton_self _, a.auditor, signer⟩
      · exact old v ((Finmap.lookup_insert_of_ne _ e).symm.trans own)
          (decide_eq_false (Ne.symm e))

end

/-! ## Runs -/

/-- The registry of a run is witnessed by its history. -/
lemma Genesis.witnessed (g : Genesis K) (as : List (Action K)) :
    (g.run as).registry.Witnessed (g.history as) := by
  refine g.run_induction (I := fun h s => s.registry.Witnessed h) ?_ ?_ as
  · refine ⟨fun k => rfl, fun m index => rfl, ?_⟩
    intro k v own
    cases own
  · intro h s x s' _ past st
    exact Filing.witnessed st past

/-- A verification is as its one submission wrote it, but for its attestation. It is attested if and only if an
attestation followed the submission; there is at most one, signed by the auditor who signed the submission,
with an active auditor account both times; and it is never taken back. For an entry and an index there is at
most one submission in a run. -/
theorem attestation_integrity (g : Genesis K) (as : List (Action K)) :
    (∀ k v, (g.run as).verifications.lookup k = some v →
      (∃ h₁ y h₂, g.history as = h₁ ++ y :: h₂ ∧
        y.2.submission = some (k, { v with attested := false }) ∧
        v.auditor ∈ y.2.signers ∧ (∃ account, y.1.registry.Active account v.auditor) ∧
        (v.attested = true ↔ ∃ z ∈ h₂, z.2.attests k = true)) ∧
      (g.history as).countP (fun z => z.2.attests k) ≤ 1 ∧
      AttestedBy (g.history as) k v.auditor ∧
      ∀ bs, ∃ v', (g.run (as ++ bs)).verifications.lookup k = some v' ∧
        (v.attested = true → v'.attested = true)) ∧
    ∀ m index, (g.history as).countP (fun z => z.2.submits m index) ≤ 1 := by
  obtain ⟨attests, submits, origin⟩ := g.witnessed as
  constructor
  · intro k v own
    obtain ⟨⟨h₁, y, h₂, split, wrote, signed, active, before⟩, attestedBy⟩ := origin k v own
    have count : (g.history as).countP (fun z => z.2.attests k) = v.attested.toNat := by
      rw [attests, Registry.attested]
      have own : (g.run as).registry.verifications.lookup k = some v := own
      rw [own]
      rfl
    refine ⟨⟨h₁, y, h₂, split, wrote, signed, active, ?_⟩, ?_, attestedBy, ?_⟩
    · -- the submission is no attestation, so all of them follow it
      have silent := Action.submission_silent wrote k
      have after : h₂.countP (fun z => z.2.attests k) = v.attested.toNat := by
        rw [← count, split, List.countP_append, before, List.countP_cons_of_neg (by simp [silent]),
          Nat.zero_add]
      rw [← List.countP_pos_iff, after]
      cases v.attested <;> simp
    · rw [count]
      exact Bool.toNat_le _
    · intro bs
      obtain ⟨v', own', later⟩ := (g.registry_later as bs).verifications k v own
      exact ⟨v', own', later.attested⟩
  · intro m index
    rw [submits, Registry.submitted]
    split <;> decide

end Exira
