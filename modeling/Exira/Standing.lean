import Exira.Openings
import Exira.Progress

/-!
# A target of a deployment

What is known of a project or a pool of a client's deployment in every state of a run, once it was listed: its
place, its mint and its vault are those of the listing, its fund is sound, and the platform is the client's.
-/

namespace Exira

variable {K : Type} [DecidableEq K] [Addresses K]

/-- In the state `s` of a run, the target `t`, once listed as `l₀`, has the fund `f`, and the deployment is that
of the client. -/
structure Standing (g : Genesis K) (c : Client K) (t : Target K) (l₀ : Listing K) (s : State K)
    (f : Fund K) : Prop where
  reached : ∃ as, s = g.run as
  deployed : ∃ platform, c.Deployed s platform
  listed : ∃ l, s.view.listing t = some l ∧ l₀.Kept l ∧ f = s.view.fundOf t l

variable {g : Genesis K} {c : Client K} {t : Target K} {l₀ : Listing K} {s s' : State K} {f f' : Fund K}
  {x : Action K} {p : K}

/-- The vault of a listed target is the associated account for the client's USDC. -/
lemma Client.Deployed.vault {as : List (Action K)} {platform : Platform K} {l : Listing K}
    (deployed : c.Deployed (g.run as) platform) (own : (g.run as).view.listing t = some l) :
    l.vault = c.usdcOf t.key ∧ (g.run as).bank.holder l.vault = some (c.usdc, t.key) := by
  obtain ⟨usdc, -, place, holder, -⟩ := ((g.run_wf as).view.listed own).vault
  obtain ⟨platform', own', place'⟩ := g.vault_usdc as own
  cases deployed.loaded.own.symm.trans own'
  obtain ⟨-, rfl⟩ := Addresses.associatedToken_inj (place.symm.trans place')
  rw [Client.usdcOf, ← deployed.usdc]
  exact ⟨place, holder⟩

namespace Standing

/-- The state is well formed. -/
lemma wf (standing : Standing g c t l₀ s f) : s.Wf := by
  obtain ⟨as, rfl⟩ := standing.reached
  exact g.run_wf as

/-- Its records are at their places. -/
lemma places (standing : Standing g c t l₀ s f) : s.Places := by
  obtain ⟨as, rfl⟩ := standing.reached
  exact g.places as

/-- The fund of the target is there. -/
lemma fund (standing : Standing g c t l₀ s f) : s.fund t = some f := by
  obtain ⟨l, listed, -, rfl⟩ := standing.listed
  exact View.fund_eq listed

/-- The fund is sound. -/
lemma sound (standing : Standing g c t l₀ s f) : f.Sound := by
  have own := standing.fund
  obtain ⟨as, rfl⟩ := standing.reached
  exact g.fund_sound as own

/-- The tokens are at most those sold. -/
lemma minted (standing : Standing g c t l₀ s f) : f.supply ≤ f.sold := by
  have own := standing.fund
  obtain ⟨as, rfl⟩ := standing.reached
  exact Nat.le.intro (g.reaches as own).supply

/-- The vault is for the client's USDC. -/
lemma vault (standing : Standing g c t l₀ s f) : s.bank.holder l₀.vault = some (c.usdc, t.key) := by
  obtain ⟨l, listed, kept, -⟩ := standing.listed
  obtain ⟨platform, deployed⟩ := standing.deployed
  obtain ⟨as, rfl⟩ := standing.reached
  rw [← kept.vault]
  exact (deployed.vault listed).2

/-- The vault's balance is the fund's. -/
lemma balance (standing : Standing g c t l₀ s f) : s.bank.balance l₀.vault = f.vault := by
  obtain ⟨l, -, kept, rfl⟩ := standing.listed
  rw [← kept.vault]
  rfl

/-- The project is there, with the mint and the vault it was made with. -/
lemma project {project₀ : Project K} (standing : Standing g c (.project p) project₀.listing s f) :
    ∃ project, s.projects.lookup p = some project ∧ project.tokenMint = project₀.tokenMint ∧
      project.usdcVault = project₀.usdcVault ∧ f = s.view.fundOf (.project p) project.listing := by
  obtain ⟨l, listed, kept, e⟩ := standing.listed
  obtain ⟨project, own, rfl⟩ := Option.map_eq_some_iff.mp listed
  exact ⟨project, own, kept.mint, kept.vault, e⟩

/-- The pool is there, with the mint and the vault it was made with. -/
lemma pool {pool₀ : Pool K} (standing : Standing g c (.pool p) pool₀.listing s f) :
    ∃ pool, s.pools.lookup p = some pool ∧ pool.poolTokenMint = pool₀.poolTokenMint ∧
      pool.usdcVault = pool₀.usdcVault ∧ f = s.view.fundOf (.pool p) pool.listing := by
  obtain ⟨l, listed, kept, e⟩ := standing.listed
  obtain ⟨pool, own, rfl⟩ := Option.map_eq_some_iff.mp listed
  exact ⟨pool, own, kept.mint, kept.vault, e⟩

end Standing

/-- A deployment stays the client's. -/
lemma Client.Deployed.later {platform : Platform K} (deployed : c.Deployed s platform) (wf : s.Wf)
    (st : step s x = .ok s') : ∃ platform', c.Deployed s' platform' ∧ platform.Same platform' := by
  obtain ⟨own, seeds, admin⟩ := deployed.loaded
  obtain ⟨platform', own', same⟩ := step_platforms wf st _ _ own
  exact ⟨platform', ⟨⟨own', same.bump ▸ seeds, same.admin.trans admin⟩, same.usdcMint.trans deployed.usdc,
    same.treasury.trans deployed.treasury, deployed.signs⟩, same⟩

/-- The platform is at its seeds, its admin is a wallet, and its USDC is a mint. -/
structure Platform.Sound (platform : Platform K) (b : Token.Bank K) : Prop where
  bump : platform.bump = findBump (K := K) .platform
  signs : canSign platform.admin = true
  usdc : ∃ x, b.minter platform.usdcMint = some x

/-- The platform of any state of a run is sound. -/
lemma Genesis.platform_sound (g : Genesis K) (as : List (Action K)) : ∀ platform,
    (g.run as).platforms.lookup Client.platform = some platform → platform.Sound (g.run as).bank := by
  refine g.run_induction (I := fun _ s => ∀ platform, s.platforms.lookup Client.platform = some platform →
    platform.Sound s.bank) ?_ ?_ as
  · intro platform own
    cases own
  · intro _ s x s' wf before st platform own
    have ev := (step_acts wf st).move.evolves
    cases old : s.platforms.lookup Client.platform with
    | some platform₀ =>
      obtain ⟨platform', own', same⟩ := step_platforms wf st _ _ old
      cases own.symm.trans own'
      obtain ⟨bump, signs, y, mint⟩ := before platform₀ old
      exact ⟨same.bump.trans bump, same.admin ▸ signs, y, ev.minter (same.usdcMint ▸ mint)⟩
    | none =>
      -- only its initialization makes the platform
      cases x with
      | outside o =>
        obtain ⟨b, -, rfl⟩ := step_outside st
        cases old.symm.trans own
      | call now i =>
        obtain ⟨signs, h⟩ := step_call st
        rcases (handle_makes h).platforms.2 _ (Finmap.mem_of_lookup_eq_some own) with mem | ⟨σ, mem, place⟩
        · exact absurd mem (Finmap.lookup_eq_none.mp old)
        · cases findProgramAddress_inj place
          cases i with
          | initializePlatform a =>
            obtain ⟨done, rfl⟩ := initializePlatform_ok.mp h
            simp only [done.place, Client.platform, Finmap.lookup_insert] at own
            cases own
            exact ⟨rfl, signs _ (.head _), _, Token.Bank.minter_eq done.exist⟩
          | _ => simp [Instruction.seeds] at mem

/-- The client of a platform. -/
def Platform.client (platform : Platform K) : Client K :=
  ⟨platform.usdcMint, platform.admin, platform.treasury⟩

/-- The platform of a run is the one its client knows. -/
lemma Genesis.deployed (g : Genesis K) (as : List (Action K)) {platform : Platform K}
    (own : (g.run as).platforms.lookup Client.platform = some platform) :
    platform.client.Deployed (g.run as) platform := by
  obtain ⟨bump, signs, -⟩ := g.platform_sound as platform own
  exact ⟨⟨own, bump ▸ rfl, rfl⟩, rfl, rfl, signs⟩

/-- The target stays in every later state, with its fund. -/
lemma Standing.later (standing : Standing g c t l₀ s f) (st : step s x = .ok s')
    (own' : s'.fund t = some f') : Standing g c t l₀ s' f' where
  reached := by
    obtain ⟨as, rfl⟩ := standing.reached
    exact ⟨as ++ [x], Genesis.run_snoc st⟩
  deployed := by
    obtain ⟨platform, deployed⟩ := standing.deployed
    obtain ⟨platform', deployed', -⟩ := deployed.later standing.wf st
    exact ⟨platform', deployed'⟩
  listed := by
    obtain ⟨l, listed, kept, -⟩ := standing.listed
    obtain ⟨l', listed', kept'⟩ := (step_acts standing.wf st).move.kept listed
    refine ⟨l', listed', kept.trans kept', ?_⟩
    exact Option.some.inj (own'.symm.trans (View.fund_eq listed'))

omit [Addresses K] in
/-- The counters are machine integers. -/
lemma State.fund_bounds (own : s.fund t = some f) : f.index < 2 ^ 128 ∧ f.distributed < 2 ^ 64 := by
  cases t with
  | project k =>
    obtain ⟨project, -, rfl⟩ := State.fund_project_some own
    exact ⟨project.cumulativeUsdcPerToken.isLt, project.totalDistributed.isLt⟩
  | pool k =>
    obtain ⟨pool, -, rfl⟩ := State.fund_pool_some own
    exact ⟨pool.cumulativeUsdcPerToken.isLt, pool.totalDistributed.isLt⟩

/-- The holdings of a target, by wallets. -/
lemma State.Wf.lookup_holding (wf : s.Wf) (p w : K) : (s.view.holdings p).lookup (Client.position p w)
    = (s.positions.lookup (Client.position p w)).map InvestorPosition.holding := by
  cases held : s.positions.lookup (Client.position p w) with
  | some q => exact wf.holding_of held
  | none =>
    rw [View.holdings, Finmap.lookup_filterMap]
    show (s.positions.lookup (Client.position p w)).bind _ = none
    rw [held]
    rfl

/-- What an attempt changes at the account `v`; nothing when it fails. -/
def State.moved (s : State K) (v : K) (x : Action K) : Option ℤ :=
  match step s x with
  | .ok s' => some (s'.bank.balance v - s.bank.balance v)
  | .error _ => none

/-- A successful attempt moves at the vault what the fund's vault changes by. -/
lemma Standing.moved (before : Standing g c t l₀ s f) (after : Standing g c t l₀ s' f')
    (st : step s x = .ok s') : s.moved l₀.vault x = some (f'.vault - f.vault : ℤ) := by
  rw [State.moved, st, ← before.balance, ← after.balance]

end Exira
