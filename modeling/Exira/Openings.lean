import Exira.Frame

/-!
# Where accounts are made

Every instruction makes accounts of the program at the addresses of its own seeds only (`handle_makes`). So an
address of the program holds the account of its seeds, or what was there before the program was used: whether it is
vacant, or a wallet can open a position in a target, never changes but by making the account. Token accounts are
opened for the target or the signer of an instruction only (`handle_opens`).
-/

namespace Exira

variable {K : Type} [DecidableEq K] [Addresses K] {s s' : State K}

/-- The addresses of the table `m'` are those of `m`, and some of the seeds `made`. -/
def MadeAt {V : Type} (made : List (Seeds K)) (m m' : Table K V) : Prop :=
  (∀ k ∈ m, k ∈ m') ∧ ∀ k ∈ m', k ∈ m ∨ ∃ σ ∈ made, k = findProgramAddress σ

section
variable {V : Type} {made : List (Seeds K)} {m : Table K V} {k : K} {v : V}

omit [DecidableEq K] in
/-- A table is made of itself. -/
lemma MadeAt.refl (m : Table K V) : MadeAt made m m :=
  ⟨fun _ => id, fun _ => .inl⟩

/-- To write a record that is there makes nothing. -/
lemma MadeAt.write {u : V} (own : m.lookup k = some u) : MadeAt made m (m.insert k v) :=
  ⟨fun _ mem => Finmap.mem_insert.mpr (.inr mem), fun k' mem => .inl (Finmap.mem_of_mem_insert own k' mem)⟩

/-- A record at an address of the list is made. -/
lemma MadeAt.make {σ : Seeds K} (place : k = findProgramAddress σ) (mem : σ ∈ made) :
    MadeAt made m (m.insert k v) := by
  refine ⟨fun _ old => Finmap.mem_insert.mpr (.inr old), ?_⟩
  intro k' mem'
  rcases Finmap.mem_insert.mp mem' with rfl | old
  · exact .inr ⟨σ, mem, place⟩
  · exact .inl old

end

/-- The program's accounts are those of before, and those of the seeds `made`. -/
structure Makes (made : List (Seeds K)) (s s' : State K) : Prop where
  platforms : MadeAt made s.platforms s'.platforms := by exact .refl _
  projects : MadeAt made s.projects s'.projects := by exact .refl _
  pools : MadeAt made s.pools s'.pools := by exact .refl _
  links : MadeAt made s.links s'.links := by exact .refl _
  positions : MadeAt made s.positions s'.positions := by exact .refl _
  mrvProjects : MadeAt made s.mrvProjects s'.mrvProjects := by exact .refl _
  baselines : MadeAt made s.baselines s'.baselines := by exact .refl _
  verifications : MadeAt made s.verifications s'.verifications := by exact .refl _
  auditors : MadeAt made s.auditors s'.auditors := by exact .refl _

/-- A table gets accounts at the seeds of the instruction only. -/
lemma Written.madeAt {now : Int64} {i : Instruction K} {κ : SeedKind} {m : Table K (κ.Record K)}
    (h : Written s now i κ m) : MadeAt i.seeds (s.table κ) m := by
  cases h with
  | same => exact .refl _
  | write own => exact .write own
  | make _ opens place => exact .make place (κ.seeds_terms _ ▸ Instruction.mem_seeds opens)
  | purchase _ _ made opens => exact .make (ensurePosition_ok made).1 (Instruction.mem_seeds opens)

/-- An instruction makes accounts at the addresses of its seeds only. -/
theorem handle_makes {now : Int64} {i : Instruction K} (h : handle s now i = .ok s') :
    Makes i.seeds s s' := by
  have effects := handle_effects h
  exact {
    platforms := effects.platforms.madeAt
    projects := effects.projects.madeAt
    pools := effects.pools.madeAt
    links := effects.links.madeAt
    positions := effects.positions.madeAt
    mrvProjects := effects.mrvProjects.madeAt
    baselines := effects.baselines.madeAt
    verifications := effects.verifications.madeAt
    auditors := effects.auditors.madeAt }

omit [DecidableEq K] in
/-- An address that a record takes was taken before, or is on the list. -/
lemma Makes.owned {made : List (Seeds K)} (h : Makes made s s') {k : K} (own : s'.Owned k) :
    s.Owned k ∨ ∃ σ ∈ made, k = findProgramAddress σ := by
  obtain mem | mem | mem | mem | mem | mem | mem | mem | mem := own
  · exact (h.platforms.2 k mem).imp_left .inl
  · exact (h.projects.2 k mem).imp_left fun m => .inr (.inl m)
  · exact (h.pools.2 k mem).imp_left fun m => .inr (.inr (.inl m))
  · exact (h.links.2 k mem).imp_left fun m => .inr (.inr (.inr (.inl m)))
  · exact (h.positions.2 k mem).imp_left fun m => .inr (.inr (.inr (.inr (.inl m))))
  · exact (h.mrvProjects.2 k mem).imp_left fun m => .inr (.inr (.inr (.inr (.inr (.inl m)))))
  · exact (h.baselines.2 k mem).imp_left fun m => .inr (.inr (.inr (.inr (.inr (.inr (.inl m))))))
  · exact (h.verifications.2 k mem).imp_left fun m =>
      .inr (.inr (.inr (.inr (.inr (.inr (.inr (.inl m)))))))
  · exact (h.auditors.2 k mem).imp_left fun m =>
      .inr (.inr (.inr (.inr (.inr (.inr (.inr (.inr m)))))))

/-! ## Accounts at their seeds -/

/-- The account of a seed list is there. -/
def State.Made (s : State K) : Seeds K → Prop
  | σ@(.platform) => findProgramAddress σ ∈ s.platforms
  | σ@(.project _) => findProgramAddress σ ∈ s.projects
  | σ@(.pool _) => findProgramAddress σ ∈ s.pools
  | σ@(.poolLink _ _) => findProgramAddress σ ∈ s.links
  | σ@(.position _ _) => findProgramAddress σ ∈ s.positions
  | σ@(.mrvProject _) => findProgramAddress σ ∈ s.mrvProjects
  | σ@(.baseline _) => findProgramAddress σ ∈ s.baselines
  | σ@(.verification _ _) => findProgramAddress σ ∈ s.verifications
  | σ@(.auditor _) => findProgramAddress σ ∈ s.auditors

section
variable {σ : Seeds K}

omit [DecidableEq K] in
/-- What is made is owned. -/
lemma State.Made.owned (made : s.Made σ) : s.Owned (findProgramAddress σ) := by
  cases σ with
  | platform => exact .inl made
  | project => exact .inr (.inl made)
  | pool => exact .inr (.inr (.inl made))
  | poolLink => exact .inr (.inr (.inr (.inl made)))
  | position => exact .inr (.inr (.inr (.inr (.inl made))))
  | mrvProject => exact .inr (.inr (.inr (.inr (.inr (.inl made)))))
  | baseline => exact .inr (.inr (.inr (.inr (.inr (.inr (.inl made))))))
  | verification => exact .inr (.inr (.inr (.inr (.inr (.inr (.inr (.inl made)))))))
  | auditor => exact .inr (.inr (.inr (.inr (.inr (.inr (.inr (.inr made)))))))

omit [DecidableEq K] in
/-- Accounts stay. -/
lemma Makes.made {made : List (Seeds K)} (h : Makes made s s') (old : s.Made σ) : s'.Made σ := by
  cases σ with
  | platform => exact h.platforms.1 _ old
  | project => exact h.projects.1 _ old
  | pool => exact h.pools.1 _ old
  | poolLink => exact h.links.1 _ old
  | position => exact h.positions.1 _ old
  | mrvProject => exact h.mrvProjects.1 _ old
  | baseline => exact h.baselines.1 _ old
  | verification => exact h.verifications.1 _ old
  | auditor => exact h.auditors.1 _ old

/-- An instruction makes the accounts of its seeds. -/
lemma made_of_seeds {now : Int64} {i : Instruction K} (h : handle s now i = .ok s') (mem : σ ∈ i.seeds) :
    s'.Made σ := by
  have made := (handle_effects h).made σ mem
  cases σ <;> exact made

end

/-- At an address of the program there is the account of its seeds, or none of the program's. -/
theorem Genesis.owned_iff (g : Genesis K) (as : List (Action K)) (σ : Seeds K) :
    (g.run as).Owned (findProgramAddress σ) ↔ (g.run as).Made σ := by
  refine ⟨?_, State.Made.owned⟩
  refine g.run_induction (I := fun _ s => s.Owned (findProgramAddress σ) → s.Made σ) ?_ ?_ as
  · rintro (mem | mem | mem | mem | mem | mem | mem | mem | mem) <;> cases Finmap.notMem_empty mem
  · intro _ s x s' _ before st own
    cases x with
    | outside o =>
      obtain ⟨b, -, rfl⟩ := step_outside st
      have old := before own
      cases σ <;> exact old
    | call now i =>
      have h := (step_call st).2
      rcases (handle_makes h).owned own with old | ⟨τ, mem, place⟩
      · exact (handle_makes h).made (before old)
      · cases findProgramAddress_inj place
        exact made_of_seeds h mem

/-! ## Vacant addresses -/

/-- The genesis has neither tokens nor a mint at a key. -/
def Genesis.Clear (g : Genesis K) (k : K) : Prop :=
  g.bank.holder k = none ∧ g.bank.minter k = none

section
variable {k : K} {σ : Seeds K} {b b' : Token.Bank K}

/-- Nobody makes tokens or a mint at an address of the program. -/
lemma Evolves.holder_program (ev : Evolves b b') (place : k = findProgramAddress σ) :
    b'.holder k = b.holder k := by
  cases free : b.holder k with
  | some x => exact ev.holder free
  | none =>
    refine Option.eq_none_iff_forall_ne_some.mpr fun x held => ?_
    rcases ev.holder_new held with old | signs | associated
    · cases free.symm.trans old
    · exact ne_findProgramAddress signs _ place
    · exact associatedToken_ne_find _ _ _ (associated.symm.trans place)

/-- The bank makes no mint at an address of the program by itself. -/
lemma Evolves.minter_program (ev : Evolves b b') (place : k = findProgramAddress σ) :
    b'.minter k = b.minter k := by
  cases free : b.minter k with
  | some x => exact ev.minter free
  | none =>
    refine Option.eq_none_iff_forall_ne_some.mpr fun x held => ?_
    rcases ev.minter_new held with old | signs
    · cases free.symm.trans old
    · exact ne_findProgramAddress signs _ place

end

omit [Addresses K] in
/-- An address is vacant when nothing of the program and nothing of the bank stands there. -/
lemma State.vacant_iff {k : K} :
    s.Vacant k ↔ ¬ s.Owned k ∧ s.bank.holder k = none ∧ s.bank.minter k = none := by
  simp only [State.Vacant, Token.Bank.holder, Token.Bank.minter, Option.map_eq_none_iff,
    Finmap.lookup_eq_none, and_comm (a := k ∉ s.bank.mints)]

/-- An address of the program is vacant when its account was not made, and the genesis has nothing there. -/
theorem Genesis.vacant_iff (g : Genesis K) (as : List (Action K)) (σ : Seeds K) :
    (g.run as).Vacant (findProgramAddress σ) ↔ ¬ (g.run as).Made σ ∧ g.Clear (findProgramAddress σ) := by
  have same : (g.run as).bank.holder (findProgramAddress σ) = g.bank.holder (findProgramAddress σ) ∧
      (g.run as).bank.minter (findProgramAddress σ) = g.bank.minter (findProgramAddress σ) := by
    refine g.run_induction (I := fun _ s => s.bank.holder _ = g.bank.holder _ ∧ s.bank.minter _ = _)
      ⟨rfl, rfl⟩ ?_ as
    intro _ s x s' wf before st
    have ev := (step_acts wf st).move.evolves
    exact ⟨(ev.holder_program rfl).trans before.1, (ev.minter_program rfl).trans before.2⟩
  rw [State.vacant_iff, g.owned_iff, Genesis.Clear, same.1, same.2]

/-! ## Positions -/

/-- A position is at an address where the genesis has nothing. -/
lemma Genesis.position_clear (g : Genesis K) (as : List (Action K)) {p w : K}
    (mem : Client.position p w ∈ (g.run as).positions) : g.Clear (Client.position p w) := by
  refine g.reached_induction (I := fun _ s => Client.position p w ∈ s.positions →
    g.Clear (Client.position p w)) ?_ ?_ as mem
  · exact fun mem => absurd mem Finmap.notMem_empty
  · intro as x s' st ih mem
    by_cases old : Client.position p w ∈ (g.run as).positions
    · exact ih old
    · -- a new position is made at a vacant address
      have vacant : (g.run as).Vacant (Client.position p w) := by
        cases x with
        | outside o =>
          obtain ⟨b, -, rfl⟩ := step_outside st
          exact absurd mem old
        | call now i =>
          rcases (step_frame (g.run_wf as) st).positions with same | ⟨_, _, k, _, -, -, -, vacant, wrote⟩
          · rw [same] at mem
            exact absurd mem old
          · rw [wrote] at mem
            have e := (Finmap.mem_insert.mp mem).resolve_right old
            exact e ▸ vacant (e ▸ Finmap.lookup_eq_none.mpr old)
      exact ((g.vacant_iff as (.position p w)).mp vacant).2

/-- The address is vacant, or holds the position: a wallet can open the position, or has it. -/
def State.Free (s : State K) (p w : K) : Prop :=
  s.Vacant (Client.position p w) ∨ Client.position p w ∈ s.positions

/-- A first purchase finds the address of its position free, or the position itself. -/
lemma ensurePosition_free {k p w : K} {q : InvestorPosition K} (h : ensurePosition s k p w = .ok q) :
    s.Free p w := by
  obtain ⟨rfl, ⟨fresh, -⟩ | held⟩ := ensurePosition_ok h
  · exact .inl (ensurePosition_vacant h fresh)
  · exact .inr (Finmap.mem_of_lookup_eq_some held)

/-- A wallet can open its position, or has it, when the genesis has nothing at the address. -/
lemma Genesis.free_iff (g : Genesis K) (as : List (Action K)) (p w : K) :
    (g.run as).Free p w ↔ g.Clear (Client.position p w) := by
  have vacant := g.vacant_iff as (.position p w)
  constructor
  · rintro (free | mem)
    · exact (vacant.mp free).2
    · exact g.position_clear as mem
  · intro clear
    rw [State.Free, or_iff_not_imp_right]
    exact fun fresh => vacant.mpr ⟨fresh, clear⟩

/-! ## Token accounts -/

omit [DecidableEq K] [Addresses K] in
/-- An account is opened for a signer, or for the record the instruction is about. -/
lemma Instruction.openers_mem {i : Instruction K} {w : K} (mem : w ∈ i.openers) :
    w ∈ i.signers ∨ ∃ t, i.target = some t ∧ w = t.key := by
  cases i with
  | createProject => exact .inr ⟨_, rfl, List.mem_singleton.mp mem⟩
  | createPool => exact .inr ⟨_, rfl, List.mem_singleton.mp mem⟩
  | buyProjectTokens => exact .inl mem
  | buyPoolTokens => exact .inl mem
  | claimProjectReturns => exact .inl mem
  | claimPoolReturns => exact .inl mem
  | _ => cases mem

/-- New token accounts are those of the owners `ws`. -/
def OpensFor (ws : List K) (b b' : Token.Bank K) : Prop :=
  ∀ k x, b'.holder k = some x → b.holder k = some x ∨ x.2 ∈ ws

section
variable {ws : List K} {b b' b'' : Token.Bank K} {k mint owner : K}

omit [Addresses K] in
/-- A bank with the same accounts opens none. -/
lemma OpensFor.of_same (same : ∀ k, b'.holder k = b.holder k) : OpensFor ws b b' :=
  fun k _ own => .inl ((same k).symm.trans own)

omit [Addresses K] in
/-- Two openings follow one another. -/
lemma OpensFor.trans (h : OpensFor ws b b') (h' : OpensFor ws b' b'') : OpensFor ws b b'' := by
  intro k x own
  rcases h' k x own with old | new
  · exact h k x old
  · exact .inr new

omit [Addresses K] in
/-- Opening an account for a wallet of the list. -/
lemma OpensFor.initAccount (h : b.initAccount k mint owner = .ok b') (mem : owner ∈ ws) : OpensFor ws b b' := by
  intro k' x own
  rw [Token.Bank.initAccount_holder h] at own
  split at own
  · cases own
    exact .inr mem
  · exact .inl own

/-- Token calls open the accounts of the openers. -/
lemma TokenCalls.opensFor {i : Instruction K} (h : TokenCalls i b b') : OpensFor i.openers b b' := by
  induction h with
  | none => exact .of_same fun _ => rfl
  | transfer _ run _ _ _ ih => exact ih.trans (.of_same (Token.Bank.transfer_holder run))
  | burn _ run _ _ _ ih => exact ih.trans (.of_same (Token.Bank.burn_holder run))
  | mintTo _ run _ _ ih => exact ih.trans (.of_same (Token.Bank.mintTo_holder run))
  | newMint _ run _ ih =>
    refine ih.trans (.of_same fun k => ?_)
    rw [Token.Bank.holder, Token.Bank.initMint_accounts run]
    rfl
  | newAccount _ run _ opener _ ih => exact ih.trans (.initAccount run opener)

end

/-- An instruction opens token accounts of its target or its signer only. -/
theorem handle_opens {now : Int64} {i : Instruction K} (h : handle s now i = .ok s') :
    OpensFor i.openers s.bank s'.bank :=
  (handle_effects h).calls.opensFor

/-- A call leaves the associated account of an owner alone that neither signs nor is the target. -/
lemma step_associated (wf : s.Wf) {now : Int64} {i : Instruction K} (st : step s (.call now i) = .ok s')
    {w m : K} (signs : canSign w = false) (off : ∀ t, i.target = some t → w ≠ t.key) :
    s'.bank.holder (associatedToken w m) = s.bank.holder (associatedToken w m) := by
  cases free : s.bank.holder (associatedToken w m) with
  | some x => exact (step_acts wf st).move.evolves.holder free
  | none =>
    refine Option.eq_none_iff_forall_ne_some.mpr fun x held => ?_
    obtain ⟨signers, h⟩ := step_call st
    cases (wf.step st).view.associated held
    rcases handle_opens h _ _ held with old | mem
    · cases free.symm.trans old
    · rcases Instruction.openers_mem mem with signer | ⟨t, target, same⟩
      · cases signs.symm.trans (signers _ signer)
      · exact off t target same

/-- An outside operation opens an associated account only if it is to. -/
lemma outside_associated {o : Outside K} (st : step s (.outside o) = .ok s') {w m : K}
    (other : o ≠ .createAssociatedToken w m) :
    s'.bank.holder (associatedToken w m) = s.bank.holder (associatedToken w m) := by
  obtain ⟨b, h, rfl⟩ := step_outside st
  cases o with
  | transfer =>
    simp only [handleOutside, Except.bind_eq_ok, cpi_eq_ok] at h
    obtain ⟨_, -, h⟩ := h
    exact Token.Bank.transfer_holder h _
  | burn =>
    simp only [handleOutside, Except.bind_eq_ok, cpi_eq_ok] at h
    obtain ⟨_, -, h⟩ := h
    exact Token.Bank.burn_holder h _
  | mintTo =>
    simp only [handleOutside, Except.bind_eq_ok, cpi_eq_ok] at h
    obtain ⟨_, -, h⟩ := h
    exact Token.Bank.mintTo_holder h _
  | createMint =>
    simp only [handleOutside, Except.bind_eq_ok, cpi_eq_ok] at h
    obtain ⟨_, -, _, -, h⟩ := h
    show b.holder _ = _
    rw [Token.Bank.holder, Token.Bank.initMint_accounts h]
    rfl
  | createAccount key mint owner =>
    simp only [handleOutside, Except.bind_eq_ok, constraint_eq_ok, exists_const, cpi_eq_ok] at h
    obtain ⟨signs, _, -, h⟩ := h
    -- the key signs, so it is no associated account
    exact (Token.Bank.initAccount_holder h _).trans (if_neg (ne_associatedToken signs w m).symm)
  | createAssociatedToken owner mint =>
    obtain ⟨-, -, h⟩ := initAssociatedToken_ok.mp h
    refine (Token.Bank.initAccount_holder h _).trans (if_neg fun same => other ?_)
    obtain ⟨rfl, rfl⟩ := Addresses.associatedToken_inj same
    rfl

/-- So does one that fails. -/
lemma State.next_associated {o : Outside K} {w m : K} (other : o ≠ .createAssociatedToken w m) :
    (Runs.next step s (.outside o)).bank.holder (associatedToken w m) = s.bank.holder (associatedToken w m) := by
  cases st : step s (.outside o) with
  | ok u =>
    rw [Runs.next_ok st]
    exact outside_associated st other
  | error e => rw [Runs.next_error st]

/-- An associated address is vacant when no account was opened there. -/
theorem Genesis.vacant_associated (g : Genesis K) (as : List (Action K)) (w m : K) :
    (g.run as).Vacant (associatedToken w m) ↔ (g.run as).bank.holder (associatedToken w m) = none := by
  have owned := (g.run_wf as).not_owned_associated w m
  have noMint : (g.run as).bank.minter (associatedToken w m) = none := (g.run_wf as).view.noMint w m
  rw [State.vacant_iff, noMint]
  exact ⟨fun vacant => vacant.2.1, fun free => ⟨owned, free, rfl⟩⟩

/-- The associated account of an owner can be opened for every mint, or is there. -/
lemma Genesis.opens_associated (g : Genesis K) (as : List (Action K)) {w m : K} {mint : Token.Mint K}
    (exist : (g.run as).bank.mints.lookup m = some mint) :
    (Runs.next step (g.run as) (.outside (.createAssociatedToken w m))).bank.holder (associatedToken w m)
      = some (m, w) := by
  have wf := g.run_wf as
  cases st : step (g.run as) (.outside (.createAssociatedToken w m)) with
  | ok u =>
    obtain ⟨b, h, rfl⟩ := step_outside st
    rw [Runs.next_ok st]
    exact (Token.Bank.initAccount_holder (initAssociatedToken_ok.mp h).2.2 _).trans (if_pos rfl)
  | error e =>
    rw [Runs.next_error st]
    cases held : (g.run as).bank.holder (associatedToken w m) with
    | some x => exact congrArg some (wf.view.associated held)
    | none =>
      -- nothing is in the way of a new account
      have vacant := (g.vacant_associated as w m).mpr held
      have goes : ∃ b, initAssociatedToken (g.run as) (associatedToken w m) w m = .ok b := by
        apply Exists.intro
        simp only [initAssociatedToken, vacate, Token.Bank.initAccount, Token.Bank.mint, Except.bind_eq_ok,
          constraint_eq_ok, cpi_eq_ok, Except.require_eq_ok, Option.okOr_eq_ok, exists_const]
        exact ⟨trivial, vacant, Finmap.lookup_eq_none.mpr vacant.2.2, mint, exist, rfl⟩
      obtain ⟨b, h⟩ := goes
      simp only [step, handleOutside, h] at st
      cases st

end Exira
