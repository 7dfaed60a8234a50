import Exira.Client
import Exira.Effects
import Exira.Lib.Custody

/-!
# What an instruction leaves alone

`Frame s i s'` bounds what a successful instruction `i` changes, whatever accounts it was passed: the accounts
that lose tokens, the projects and pools, the one position, and what only the admin changes.
-/

namespace Exira

variable {K : Type} [DecidableEq K] [Addresses K] {s s' : State K}

/-! ## Token calls -/

/-- What the token calls of an instruction do: the spenders' accounts lose tokens, and accounts are opened at
associated addresses only. -/
structure Called (ws : List K) (b b' : Token.Bank K) : Prop extends Token.Bank.Spends ws b b' where
  opened : ∀ {k x}, b'.holder k = some x → b.holder k = some x ∨ k = associatedToken x.2 x.1

section
variable {ws : List K} {b b' b'' : Token.Bank K} {source dest mint authority k owner : K} {n : U64}

/-- No call. -/
lemma Called.refl (b : Token.Bank K) : Called ws b b :=
  ⟨.refl b, .inl⟩

/-- One call after another. -/
lemma Called.trans (h : Called ws b b') (h' : Called ws b' b'') : Called ws b b'' where
  toSpends := h.toSpends.trans h'.toSpends
  opened := by
    intro k x own
    obtain old | new := h'.opened own
    · exact h.opened old
    · exact .inr new

/-- A transfer from an account of a spender. -/
lemma Called.transfer (h : b.transfer source dest authority n = .ok b') (mem : authority ∈ ws) :
    Called ws b b' :=
  ⟨.transfer h mem, fun own => .inl ((Token.Bank.transfer_holder h _).symm.trans own)⟩

/-- A burn from an account of a spender. -/
lemma Called.burn (h : b.burn source mint authority n = .ok b') (mem : authority ∈ ws) :
    Called ws b b' :=
  ⟨.burn h mem, fun own => .inl ((Token.Bank.burn_holder h _).symm.trans own)⟩

/-- New tokens. -/
lemma Called.mintTo (h : b.mintTo mint dest authority n = .ok b') : Called ws b b' :=
  ⟨.mintTo h, fun own => .inl ((Token.Bank.mintTo_holder h _).symm.trans own)⟩

/-- A new account at its associated address. -/
lemma Called.initAccount (h : b.initAccount k mint owner = .ok b')
    (place : k = associatedToken owner mint) : Called ws b b' where
  toSpends := .initAccount h
  opened := by
    intro k' x own
    rw [Token.Bank.initAccount_holder h] at own
    split at own
    · next e =>
      cases own
      exact .inr (e.trans place)
    · exact .inl own

/-- A new mint. -/
lemma Called.initMint {auth freeze : Option K} {d : U8} (h : b.initMint mint auth freeze d = .ok b') :
    Called ws b b' := by
  refine ⟨.initMint h, ?_⟩
  intro k x own
  rw [Token.Bank.holder, Token.Bank.initMint_accounts h] at own
  exact .inl own

/-- The token calls of an instruction. -/
lemma TokenCalls.called {i : Instruction K} (h : TokenCalls i b b') : Called i.spenders b b' := by
  induction h with
  | none => exact .refl b
  | transfer _ run signs _ _ ih => exact ih.trans (.transfer run signs)
  | burn _ run signs _ _ ih => exact ih.trans (.burn run signs)
  | mintTo _ run _ _ ih => exact ih.trans (.mintTo run)
  | newMint _ run _ ih => exact ih.trans (.initMint run)
  | newAccount _ run place _ _ ih => exact ih.trans (.initAccount run place)

end

/-! ## Listings -/

/-- The place of a listing, its mint, its vault and its target amount stay. -/
structure Listing.Kept (l l' : Listing K) : Prop where
  seeds : l'.seeds = l.seeds
  bump : l'.bump = l.bump
  mint : l'.mint = l.mint
  vault : l'.vault = l.vault
  target : l'.target = l.target

/-- Neither a target nor its mint is a token account, and its mint is no USDC. -/
structure Seated (b : Token.Bank K) (t : Target K) (l : Listing K) : Prop where
  key : b.holder t.key = none
  signs : canSign l.mint = true
  mint : b.holder l.mint = none
  usdc : ∀ {usdc x}, b.holder l.vault = some (usdc, x) → usdc ≠ l.mint

omit [DecidableEq K] [Addresses K] in
/-- A listing is kept as it is. -/
lemma Listing.Kept.refl (l : Listing K) : l.Kept l :=
  ⟨rfl, rfl, rfl, rfl, rfl⟩

omit [DecidableEq K] [Addresses K] in
/-- A project with the same terms has its listing kept. -/
lemma Listing.Kept.of_project {p p' : Project K} (e : p'.terms = p.terms) : p.listing.Kept p'.listing := by
  have id := congrArg Project.projectId e
  have bump := congrArg Project.bump e
  have mint := congrArg Project.tokenMint e
  have vault := congrArg Project.usdcVault e
  have target := congrArg Project.targetAmount e
  exact ⟨congrArg Seeds.project id, bump, mint, vault, congrArg BitVec.toNat target⟩

omit [DecidableEq K] [Addresses K] in
/-- A pool with the same terms has its listing kept. -/
lemma Listing.Kept.of_pool {p p' : Pool K} (e : p'.terms = p.terms) : p.listing.Kept p'.listing := by
  have id := congrArg Pool.poolId e
  have bump := congrArg Pool.bump e
  have mint := congrArg Pool.poolTokenMint e
  have vault := congrArg Pool.usdcVault e
  have target := congrArg Pool.targetAmount e
  exact ⟨congrArg Seeds.pool id, bump, mint, vault, congrArg BitVec.toNat target⟩

omit [DecidableEq K] [Addresses K] in
/-- What is kept twice is kept. -/
lemma Listing.Kept.trans {l l' l'' : Listing K} (h : l.Kept l') (h' : l'.Kept l'') : l.Kept l'' :=
  ⟨h'.seeds.trans h.seeds, h'.bump.trans h.bump, h'.mint.trans h.mint, h'.vault.trans h.vault,
    h'.target.trans h.target⟩

/-- A move keeps every listing, up to its amounts. -/
lemma Move.kept {v v' : View K} {e : Effect K} (mv : Move v e v') {t : Target K} {l : Listing K}
    (own : v.listing t = some l) : ∃ l', v'.listing t = some l' ∧ l.Kept l' := by
  have same : ∃ l', v.listing t = some l' ∧ l.Kept l' := ⟨l, own, .refl l⟩
  -- the listing that the move writes is kept
  have write : ∀ {t₀ l₀ l₁}, v.listing t₀ = some l₀ → l₀.Kept l₁ →
      ∃ l', Function.update v.listing t₀ (some l₁) t = some l' ∧ l.Kept l' := by
    intro t₀ l₀ l₁ own₀ kept
    by_cases ne : t = t₀
    · subst ne
      cases own.symm.trans own₀
      exact ⟨l₁, Function.update_self .., kept⟩
    · exact ⟨l, (Function.update_of_ne ne ..).trans own, .refl l⟩
  cases mv with
  | create free =>
    refine ⟨l, (Function.update_of_ne ?_ ..).trans own, .refl l⟩
    rintro rfl
    rw [free] at own
    cases own
  | buy own₀ => exact write own₀ ⟨rfl, rfl, rfl, rfl, rfl⟩
  | exit own₀ => exact write own₀ ⟨rfl, rfl, rfl, rfl, rfl⟩
  | distribute own₀ => exact write own₀ ⟨rfl, rfl, rfl, rfl, rfl⟩
  | activate own₀ => exact write own₀ ⟨rfl, rfl, rfl, rfl, rfl⟩
  | close own₀ => exact write own₀ ⟨rfl, rfl, rfl, rfl, rfl⟩
  | quiet => exact same
  | found => exact same
  | transfer => exact same
  | mintTo => exact same
  | burn => exact same
  | claim => exact same
  | payout => exact same

omit [Addresses K] in
/-- There are no tokens at a vacant address. -/
lemma State.Vacant.holder {k : K} (vacant : s.Vacant k) : s.bank.holder k = none := by
  rw [Token.Bank.holder, Finmap.lookup_eq_none.mpr vacant.2.2]
  rfl

/-- A new target is seated. -/
lemma Seated.found {t : Target K} {l : Listing K} {payer usdc : K} {m : Token.Mint K} {σ : Seeds K}
    {b b' : Token.Bank K} (key : t.key = findProgramAddress σ) (free : s.Vacant t.key)
    (signs : canSign l.mint = true) (exist : s.bank.mints.lookup usdc = some m)
    (h : initMint s l.mint payer t.key = .ok b)
    (h' : initAssociatedToken { s with bank := b } l.vault t.key usdc = .ok b') : Seated b' t l := by
  obtain ⟨-, newMint, run⟩ := initMint_ok.mp h
  obtain ⟨place, -, run'⟩ := initAssociatedToken_ok.mp h'
  have holder : ∀ k, b'.holder k = if k = l.vault then some (usdc, t.key) else s.bank.holder k := by
    intro k
    rw [Token.Bank.initAccount_holder run', Token.Bank.holder, Token.Bank.initMint_accounts run]
    rfl
  refine ⟨?_, signs, ?_, ?_⟩
  · rw [holder, if_neg, free.holder]
    rw [place, key]
    exact (associatedToken_ne_find _ _ _).symm
  · rw [holder, if_neg, newMint.holder]
    rw [place]
    exact ne_associatedToken signs _ _
  · intro usdc' x own
    rw [holder, if_pos rfl] at own
    cases own
    rintro rfl
    rw [Finmap.lookup_eq_none.mpr newMint.2.1] at exist
    cases exist

/-! ## Frames -/

/-- No project's or pool's status, index or total changes, and no account that the admin makes is new. -/
structure Ungoverned (s s' : State K) : Prop where
  projects : ∀ k p', s'.projects.lookup k = some p' → ∃ p, s.projects.lookup k = some p ∧
    p'.status = p.status ∧ p'.cumulativeUsdcPerToken = p.cumulativeUsdcPerToken ∧
    p'.totalDistributed = p.totalDistributed
  pools : ∀ k p', s'.pools.lookup k = some p' → ∃ p, s.pools.lookup k = some p ∧
    p'.status = p.status ∧ p'.cumulativeUsdcPerToken = p.cumulativeUsdcPerToken ∧
    p'.totalDistributed = p.totalDistributed
  links : ∀ k, k ∈ s'.links → k ∈ s.links
  mrvProjects : ∀ k, k ∈ s'.mrvProjects → k ∈ s.mrvProjects
  auditors : ∀ k, k ∈ s'.auditors → k ∈ s.auditors

/-- The admin, the treasury, the USDC mint and the fee of a platform stay. -/
structure Platform.Same (platform platform' : Platform K) : Prop where
  admin : platform'.admin = platform.admin
  treasury : platform'.treasury = platform.treasury
  usdcMint : platform'.usdcMint = platform.usdcMint
  originationFeeBps : platform'.originationFeeBps = platform.originationFeeBps
  bump : platform'.bump = platform.bump

/-- The listing of `t` is one of before with other amounts, or a new one, whose vault is for the USDC of the
platform. -/
def State.Lists (s s' : State K) (t : Target K) (l' : Listing K) : Prop :=
  (∃ l, s.view.listing t = some l ∧ l.Kept l') ∨ Seated s'.bank t l' ∧
    ∃ platform, s.platforms.lookup Client.platform = some platform ∧
      l'.vault = associatedToken t.key platform.usdcMint

/-- An instruction writes at most one position, that of its signer in its target. -/
def State.Positions (s : State K) (i : Instruction K) (s' : State K) : Prop :=
  s'.positions = s.positions ∨ ∃ t w k q, i.target = some t ∧ w ∈ i.signers ∧
    k = Client.position t.key w ∧ (s.positions.lookup k = none → s.Vacant k) ∧
    s'.positions = s.positions.insert k q

/-- What an instruction changes at most. -/
structure Frame (s : State K) (i : Instruction K) (s' : State K) : Prop where
  bank : Called i.spenders s.bank s'.bank
  projects : ∀ k, i.target ≠ some (.project k) → s'.projects.lookup k = s.projects.lookup k
  pools : ∀ k, i.target ≠ some (.pool k) → s'.pools.lookup k = s.pools.lookup k
  listing : ∀ t l', s'.view.listing t = some l' → s.Lists s' t l'
  positions : s.Positions i s'
  platforms : s.platforms.Keeps Platform.Same s'.platforms
  governed : (∃ w ∈ i.signers, s.admin = some w) ∨ Ungoverned s s'

omit [DecidableEq K] [Addresses K] in
/-- A platform is the same as itself. -/
lemma Platform.Same.refl (platform : Platform K) : platform.Same platform :=
  ⟨rfl, rfl, rfl, rfl, rfl⟩

/-! ## The instructions -/

/-- A position that is not there is opened at a vacant address. -/
lemma ensurePosition_vacant {k target owner : K} {q : InvestorPosition K}
    (h : ensurePosition s k target owner = .ok q) (free : s.positions.lookup k = none) :
    s.Vacant k := by
  simp only [ensurePosition, Except.bind_eq_ok, constraint_eq_ok, exists_const] at h
  obtain ⟨-, h⟩ := h
  split at h
  · assumption
  · rw [load_eq_ok, free] at h
    cases h

/-- The position at the seeds that a claim or an exit checks. -/
lemma State.Wf.position_place (wf : s.Wf) {k k₀ w : K} {q : InvestorPosition K}
    (held : s.positions.lookup k = some q)
    (seeds : k = createProgramAddress (.position k₀ w) q.bump) : k = Client.position k₀ w :=
  (wf.view.checkedPosition held seeds).key

/-- An instruction writes the position of its signer in its target. -/
lemma Written.position (wf : s.Wf) {now : Int64} {i : Instruction K} {m : Table K (InvestorPosition K)}
    (h : Written s now i .position m) (wrote : s'.positions = m) : s.Positions i s' := by
  cases h with
  | same => exact .inl wrote
  | @write _ k q q' own _ checked =>
    obtain ⟨t, w, target, signs, place⟩ := checked
    refine .inr ⟨t, w, k, q', target, signs, wf.position_place own place, fun free => ?_, wrote⟩
    cases own.symm.trans free
  | make _ _ _ _ sort => exact absurd rfl sort
  | purchase target signs made =>
    exact .inr ⟨_, _, _, _, target, signs, (ensurePosition_ok made).1, ensurePosition_vacant made, wrote⟩

omit [DecidableEq K] [Addresses K] in
/-- A platform with the same terms is the same. -/
lemma Platform.Same.of_terms {platform platform' : Platform K} (e : platform'.terms = platform.terms) :
    platform.Same platform' := by
  have admin := congrArg Platform.admin e
  have treasury := congrArg Platform.treasury e
  have usdcMint := congrArg Platform.usdcMint e
  have originationFeeBps := congrArg Platform.originationFeeBps e
  have bump := congrArg Platform.bump e
  exact ⟨admin, treasury, usdcMint, originationFeeBps, bump⟩

/-- Platforms stay, up to their counters. -/
lemma Written.platforms {now : Int64} {i : Instruction K} {m : Table K (Platform K)}
    (h : Written s now i .platform m) : s.platforms.Keeps Platform.Same m := by
  cases h with
  | same => exact .refl Platform.Same.refl _
  | @write _ k platform _ own terms =>
    refine .insert Platform.Same.refl fun u own' => ?_
    cases own.symm.trans own'
    exact .of_terms terms
  | make vacant => exact .insert_new Platform.Same.refl (vacant.table .platform) _

/-- Only the admin's instructions govern. -/
lemma Effects.governed (wf : s.Wf) {now : Int64} {i : Instruction K} (h : Effects s now i s') :
    (∃ w ∈ i.signers, s.admin = some w) ∨ Ungoverned s s' := by
  cases admin : i.governs with
  | true =>
    obtain ⟨_, w, _, mem, loaded⟩ := h.admin admin
    exact .inl ⟨w, mem, (wf.side.platform loaded).2.2⟩
  | false =>
    -- nothing is opened that the admin opens
    have closed (κ : SeedKind) (kind : κ ∈ [.project, .pool, .poolLink, .mrvProject, .auditor]) :
        ∀ σ ∈ i.seeds, σ.kind ≠ κ := by
      rintro σ mem rfl
      cases admin.symm.trans (Instruction.governs_of_seeds mem kind)
    refine .inr { projects := ?_, pools := ?_, links := ?_, mrvProjects := ?_, auditors := ?_ }
    · intro k p' own
      obtain ⟨p, old, -, rfl | changes⟩ := h.projects.old nofun (closed _ (by decide)) own
      · exact ⟨_, old, rfl, rfl, rfl⟩
      · have sold := changes.sold.resolve_left (by rw [admin]; nofun)
        refine ⟨p, old, ?_, ?_, ?_⟩ <;> rw [sold]
    · intro k p' own
      obtain ⟨p, old, -, rfl | changes⟩ := h.pools.old nofun (closed _ (by decide)) own
      · exact ⟨_, old, rfl, rfl, rfl⟩
      · have sold := changes.sold.resolve_left (by rw [admin]; nofun)
        refine ⟨p, old, ?_, ?_, ?_⟩ <;> rw [sold]
    · intro k mem
      obtain ⟨link, own⟩ := Finmap.mem_iff.mp mem
      obtain ⟨_, old, -⟩ := h.links.old nofun (closed _ (by decide)) own
      exact Finmap.mem_of_lookup_eq_some old
    · intro k mem
      obtain ⟨entry, own⟩ := Finmap.mem_iff.mp mem
      obtain ⟨_, old, -⟩ := h.mrvProjects.old nofun (closed _ (by decide)) own
      exact Finmap.mem_of_lookup_eq_some old
    · intro k mem
      obtain ⟨auditor, own⟩ := Finmap.mem_iff.mp mem
      obtain ⟨_, old, -⟩ := h.auditors.old nofun (closed _ (by decide)) own
      exact Finmap.mem_of_lookup_eq_some old

/-- A project that was opened is seated. -/
lemma project_lists (wf : s.Wf) {now : Int64} {i : Instruction K} {p : Project K} {k : K}
    (signs : ∀ w ∈ i.signers, canSign w = true) (h : handle s now i = .ok s')
    (opens : i.record now = some ⟨.project, p.terms⟩) (place : k = findProgramAddress (.project p.projectId)) :
    s.Lists s' (.project k) p.listing := by
  have seeds := (Instruction.record_place opens).1
  cases i with
  | createProject a id target term =>
    obtain ⟨done, rfl⟩ := createProject_ok.mp h
    have e : _ = p.terms := eq_of_heq (Sigma.mk.inj (Option.some.inj opens)).2
    have id : id = p.projectId := congrArg Project.projectId e
    have mint : a.tokenMint = p.tokenMint := congrArg Project.tokenMint e
    have vault : a.usdcVault = p.usdcVault := congrArg Project.usdcVault e
    cases (id ▸ done.place).trans place.symm
    have founded := done.usdc ▸ (initAssociatedToken_ok.mp done.founded).1
    refine .inr ⟨?_, done.platform, (wf.side.platform done.loaded).2.1, vault.symm.trans founded⟩
    have signed : canSign p.tokenMint = true := mint ▸ signs _ (.tail _ (.head _))
    have mints : initMint s p.tokenMint a.admin a.project = .ok done.minted := mint ▸ done.mints
    have founds : initAssociatedToken { s with bank := done.minted } p.usdcVault a.project a.usdcMint
        = .ok done.bank :=
      vault ▸ done.founded
    exact .found (t := .project a.project) done.place done.vacant signed done.exist mints founds
  | _ => cases seeds

/-- A pool that was opened is seated. -/
lemma pool_lists (wf : s.Wf) {now : Int64} {i : Instruction K} {p : Pool K} {k : K}
    (signs : ∀ w ∈ i.signers, canSign w = true) (h : handle s now i = .ok s')
    (opens : i.record now = some ⟨.pool, p.terms⟩) (place : k = findProgramAddress (.pool p.poolId)) :
    s.Lists s' (.pool k) p.listing := by
  have seeds := (Instruction.record_place opens).1
  cases i with
  | createPool a id target =>
    obtain ⟨done, rfl⟩ := createPool_ok.mp h
    have e : _ = p.terms := eq_of_heq (Sigma.mk.inj (Option.some.inj opens)).2
    have id : id = p.poolId := congrArg Pool.poolId e
    have mint : a.poolTokenMint = p.poolTokenMint := congrArg Pool.poolTokenMint e
    have vault : a.usdcVault = p.usdcVault := congrArg Pool.usdcVault e
    cases (id ▸ done.place).trans place.symm
    have founded := done.usdc ▸ (initAssociatedToken_ok.mp done.founded).1
    refine .inr ⟨?_, done.platform, (wf.side.platform done.loaded).2.1, vault.symm.trans founded⟩
    have signed : canSign p.poolTokenMint = true := mint ▸ signs _ (.tail _ (.head _))
    have mints : initMint s p.poolTokenMint a.admin a.pool = .ok done.minted := mint ▸ done.mints
    have founds : initAssociatedToken { s with bank := done.minted } p.usdcVault a.pool a.usdcMint
        = .ok done.bank :=
      vault ▸ done.founded
    exact .found (t := .pool a.pool) done.place done.vacant signed done.exist mints founds
  | _ => cases seeds

/-- Every successful instruction keeps to its frame. -/
theorem step_frame (wf : s.Wf) {now : Int64} {i : Instruction K} (st : step s (.call now i) = .ok s') :
    Frame s i s' := by
  obtain ⟨signs, h⟩ := step_call st
  have effects := handle_effects h
  refine {
    bank := effects.calls.called
    projects := fun k out => effects.projects.other (mt Instruction.target_project out)
    pools := fun k out => effects.pools.other (mt Instruction.target_pool out)
    listing := ?_
    positions := effects.positions.position wf rfl
    platforms := effects.platforms.platforms
    governed := effects.governed wf }
  intro t l' own
  cases t with
  | project k =>
    obtain ⟨p', own', rfl⟩ := Option.map_eq_some_iff.mp own
    rcases effects.projects.origin nofun own' with ⟨p, old, terms, -⟩ | ⟨-, opens, place⟩
    · exact .inl ⟨_, State.listing_project old, .of_project terms⟩
    · exact project_lists wf signs h opens place
  | pool k =>
    obtain ⟨p', own', rfl⟩ := Option.map_eq_some_iff.mp own
    rcases effects.pools.origin nofun own' with ⟨p, old, terms, -⟩ | ⟨-, opens, place⟩
    · exact .inl ⟨_, State.listing_pool old, .of_pool terms⟩
    · exact pool_lists wf signs h opens place

/-- The platform keeps its terms. -/
lemma step_platforms (wf : s.Wf) {x : Action K} (st : step s x = .ok s') :
    s.platforms.Keeps Platform.Same s'.platforms := by
  cases x with
  | call now i => exact (step_frame wf st).platforms
  | outside o =>
    obtain ⟨b, -, rfl⟩ := step_outside st
    exact .refl Platform.Same.refl _

/-! ## Places -/

/-- The addresses of targets, of their mints and of positions hold no tokens. -/
structure State.Places (s : State K) : Prop where
  seated : ∀ {t l}, s.view.listing t = some l → Seated s.bank t l
  position : ∀ {k q}, s.positions.lookup k = some q → s.bank.holder k = none

/-- Accounts stay, and new ones are at vacant or at associated addresses. -/
structure State.Opens (s : State K) (b' : Token.Bank K) : Prop where
  holder : ∀ {k x}, s.bank.holder k = some x → b'.holder k = some x
  opened : ∀ {k x}, b'.holder k = some x →
    s.bank.holder k = some x ∨ s.Vacant k ∨ k = associatedToken x.2 x.1

section
variable {t : Target K} {l l' : Listing K} {b' : Token.Bank K} {k : K}

/-- Token calls open accounts at associated addresses. -/
lemma Called.opens {ws : List K} (h : Called ws s.bank b') : s.Opens b' :=
  ⟨h.holder, fun own => (h.opened own).imp_right .inr⟩

omit [Addresses K] in
/-- The address of a target is not vacant. -/
lemma State.not_vacant_key (own : s.view.listing t = some l) : ¬ s.Vacant t.key := by
  intro vacant
  cases t with
  | project k =>
    obtain ⟨p, own, -⟩ := Option.map_eq_some_iff.mp own
    exact vacant.1 (.inr (.inl (Finmap.mem_of_lookup_eq_some own)))
  | pool k =>
    obtain ⟨p, own, -⟩ := Option.map_eq_some_iff.mp own
    exact vacant.1 (.inr (.inr (.inl (Finmap.mem_of_lookup_eq_some own))))

omit [Addresses K] in
/-- The address of a mint is not vacant. -/
lemma State.not_vacant_mint {x : Option K} (own : s.bank.minter k = some x) : ¬ s.Vacant k := by
  intro vacant
  rw [Token.Bank.minter, Finmap.lookup_eq_none.mpr vacant.2.1] at own
  cases own

/-- An address without tokens that is neither vacant nor associated stays without tokens. -/
lemma State.Opens.holder_none (opens : s.Opens b') (free : s.bank.holder k = none)
    (taken : ¬ s.Vacant k) (ne : ∀ o m, k ≠ associatedToken o m) : b'.holder k = none := by
  cases own : b'.holder k with
  | none => rfl
  | some x =>
    rcases opens.opened own with old | vacant | place
    · rw [free] at old
      cases old
    · exact absurd vacant taken
    · exact absurd place (ne _ _)

/-- A target stays seated when accounts are opened. -/
lemma Seated.opens (h : Seated s.bank t l) (listed : Listed s.bank t l)
    (own : s.view.listing t = some l) (opens : s.Opens b') : Seated b' t l where
  key := by
    refine opens.holder_none h.key (State.not_vacant_key own) fun o m e => ?_
    exact associatedToken_ne_find o m _ (e.symm.trans listed.key_find)
  signs := h.signs
  mint := opens.holder_none h.mint (State.not_vacant_mint listed.minter) (ne_associatedToken h.signs)
  usdc := by
    intro usdc x held
    obtain ⟨usdc', -, -, held', -⟩ := listed.vault
    cases (opens.holder held').symm.trans held
    exact h.usdc held'

/-- A target stays seated when its listing is kept. -/
lemma Seated.kept {b : Token.Bank K} (h : Seated b t l) (kept : l.Kept l') : Seated b t l' where
  key := h.key
  signs := kept.mint ▸ h.signs
  mint := kept.mint ▸ h.mint
  usdc := by
    rw [kept.mint, kept.vault]
    exact h.usdc

/-- A position's address stays without tokens. -/
lemma State.Places.position_opens (places : s.Places) (wf : s.Wf) {q : InvestorPosition K}
    (own : s.positions.lookup k = some q) (opens : s.Opens b') : b'.holder k = none := by
  refine opens.holder_none (places.position own) ?_ fun o m e => ?_
  · intro vacant
    exact vacant.1 (.inr (.inr (.inr (.inr (.inl (Finmap.mem_of_lookup_eq_some own))))))
  · exact associatedToken_ne_find o m _ (e.symm.trans (wf.view.placed own).key)

end

/-- Outside operations open accounts at signing or associated addresses. -/
lemma handleOutside_opens {o : Outside K} {b : Token.Bank K} (h : handleOutside s o = .ok b) :
    s.Opens b := by
  refine ⟨(handleOutside_move h).evolves.holder, ?_⟩
  intro k x own
  cases o with
  | transfer =>
    simp only [handleOutside, Except.bind_eq_ok, constraint_eq_ok, cpi_eq_ok, exists_const] at h
    exact .inl ((Token.Bank.transfer_holder h.2 k).symm.trans own)
  | burn =>
    simp only [handleOutside, Except.bind_eq_ok, constraint_eq_ok, cpi_eq_ok, exists_const] at h
    exact .inl ((Token.Bank.burn_holder h.2 k).symm.trans own)
  | mintTo =>
    simp only [handleOutside, Except.bind_eq_ok, constraint_eq_ok, cpi_eq_ok, exists_const] at h
    exact .inl ((Token.Bank.mintTo_holder h.2 k).symm.trans own)
  | createMint =>
    simp only [handleOutside, vacate, Except.bind_eq_ok, constraint_eq_ok, cpi_eq_ok,
      exists_const] at h
    rw [Token.Bank.holder, Token.Bank.initMint_accounts h.2.2] at own
    exact .inl own
  | createAccount =>
    simp only [handleOutside, vacate, Except.bind_eq_ok, constraint_eq_ok, cpi_eq_ok,
      exists_const] at h
    obtain ⟨-, vacant, run⟩ := h
    rw [Token.Bank.initAccount_holder run] at own
    split at own
    · next e => exact .inr (.inl (e ▸ vacant))
    · exact .inl own
  | createAssociatedToken =>
    obtain ⟨-, vacant, run⟩ := initAssociatedToken_ok.mp h
    rw [Token.Bank.initAccount_holder run] at own
    split at own
    · next e => exact .inr (.inl (e ▸ vacant))
    · exact .inl own

/-- Every successful action keeps the places. -/
theorem State.Places.step (places : s.Places) (wf : s.Wf) {x : Action K}
    (st : step s x = .ok s') : s'.Places := by
  cases x with
  | outside o =>
    obtain ⟨b, h, rfl⟩ := step_outside st
    have opens := handleOutside_opens h
    refine ⟨?_, fun own => places.position_opens wf own opens⟩
    intro t l own
    exact (places.seated own).opens (wf.view.listed own) own opens
  | call now i =>
    have frame := step_frame wf st
    have opens := frame.bank.opens
    constructor
    · intro t l' own
      rcases frame.listing t l' own with ⟨l, old, kept⟩ | ⟨seated, -⟩
      · exact ((places.seated old).opens (wf.view.listed old) old opens).kept kept
      · exact seated
    · intro k q own
      rcases frame.positions with same | ⟨t, w, k₀, q', -, -, place, vacant, wrote⟩
      · rw [same] at own
        exact places.position_opens wf own opens
      · rw [wrote, Finmap.lookup_insert_ite] at own
        split at own
        · next e =>
          subst e
          cases old : s.positions.lookup k with
          | some q₀ => exact places.position_opens wf old opens
          | none =>
            -- the new position lies at an address of the program, where no account was opened
            have free := (vacant old).holder
            refine Option.eq_none_iff_forall_ne_some.mpr fun x held => ?_
            rcases frame.bank.opened held with before | e
            · rw [free] at before
              cases before
            · exact associatedToken_ne_find _ _ _ (e.symm.trans place)
        · exact places.position_opens wf own opens

/-- The addresses hold no tokens in any reachable state. -/
theorem Genesis.places (g : Genesis K) (as : List (Action K)) : (g.run as).Places := by
  refine g.run_induction (I := fun _ s => s.Places) ?_ ?_ as
  · refine ⟨?_, ?_⟩
    · intro t l own
      cases t with
      | project => cases own
      | pool => cases own
    · intro k q own
      cases own
  · intro _ s x s' wf places st
    exact places.step wf st

/-- The vault of every target is for the USDC of the platform. -/
theorem Genesis.vault_usdc (g : Genesis K) (as : List (Action K)) {t : Target K} {l : Listing K}
    (own : (g.run as).view.listing t = some l) : ∃ platform,
      (g.run as).platforms.lookup Client.platform = some platform ∧
        l.vault = associatedToken t.key platform.usdcMint := by
  refine g.run_induction (I := fun _ s => ∀ t l, s.view.listing t = some l → ∃ platform,
    s.platforms.lookup Client.platform = some platform ∧
      l.vault = associatedToken t.key platform.usdcMint) ?_ ?_ as t l own
  · intro t l own
    cases t with
    | project => cases own
    | pool => cases own
  · intro _ s x s' wf before st t l' own
    have kept := step_platforms wf st
    -- the platform of a vault of before is still there
    have still : ∀ {v platform}, s.platforms.lookup Client.platform = some platform →
        v = associatedToken t.key platform.usdcMint → ∃ platform',
          s'.platforms.lookup Client.platform = some platform' ∧
            v = associatedToken t.key platform'.usdcMint := by
      intro v platform found place
      obtain ⟨platform', found', same⟩ := kept _ _ found
      exact ⟨platform', found', same.usdcMint ▸ place⟩
    cases x with
    | outside o =>
      obtain ⟨b, -, rfl⟩ := step_outside st
      exact before t l' own
    | call now i =>
      rcases (step_frame wf st).listing t l' own with ⟨l, old, same⟩ | ⟨-, platform, found, place⟩
      · obtain ⟨platform, found, place⟩ := before t l old
        exact still found (same.vault.trans place)
      · exact still found place

/-- A token account stays one of its mint and its owner. -/
lemma Genesis.holder_later (g : Genesis K) (as bs : List (Action K)) {k : K} {x : K × K}
    (held : (g.run as).bank.holder k = some x) : (g.run (as ++ bs)).bank.holder k = some x := by
  rw [Genesis.run_append]
  have kept : (Runs.run step (g.run as) bs).Wf ∧ (Runs.run step (g.run as) bs).bank.holder k = some x := by
    refine Runs.run_invariant (I := fun s : State K => s.Wf ∧ s.bank.holder k = some x)
      ⟨g.run_wf as, held⟩ ?_ bs
    rintro s x s' ⟨wf, held⟩ st
    exact ⟨wf.step st, (step_acts wf st).move.evolves.holder held⟩
  exact kept.2

end Exira
